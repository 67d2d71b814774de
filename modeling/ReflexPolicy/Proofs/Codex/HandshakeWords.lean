import ReflexPolicy.Proofs.Codex.Loading
import ReflexPolicy.Proofs.Codex.Parts
import ReflexPolicy.Proofs.Yaml.Mappings

/-!
# Words for handshake defaults

Handshake defaults are written in words: a mode, a tier, a citation override and an omission
override, each of them or none, and a profile.  A document resolves the words before they are read,
so that the word for no citations arrives as a truth value.  A document with such a section is read
as the same document without it, but for what the section says: all words are read as they are meant
except that one, and the profile by the text that its value is written as.
-/

namespace ReflexPolicy

open Reading Yaml

/-! ### Readings one after another -/

/-- What is read without problems is handed on. -/
theorem Reading.bind_of_gives {α β : Type} {x : Reading α} {a : α} (given : x.Gives a)
    (f : α → Reading β) :
  (x >>= f) = f a
  := by
  change Reading.bind x f = f a
  cases x with
  | error e => cases given
  | ok found =>
    cases given
    simp only [Reading.bind]
    cases f a <;> rfl

/-- The reading is broken off. -/
def Reading.BreaksOff {α : Type} (x : Reading α) (e : BreakOff) : Prop :=
  @Eq (Except BreakOff (α × List Problem)) x (.error e)

theorem Reading.BreaksOff.bind {α β : Type} {x : Reading α} {e : BreakOff} (broken : x.BreaksOff e)
    (f : α → Reading β) :
  (x >>= f).BreaksOff e
  := by
  change (Reading.bind x f).BreaksOff e
  cases broken
  rfl

/-- A reading that is broken off behind some problems is broken off all the same. -/
theorem Reading.Meets.breaksOff_bind {α β : Type} {x : Reading α} {f : α → Reading β} {a : α}
    {problems : List Problem} {e : BreakOff} (met : x.Meets a problems)
    (broken : (f a).BreaksOff e) :
  (x >>= f).BreaksOff e
  := by
  change (Reading.bind x f).BreaksOff e
  cases met
  simp only [Reading.bind, BreaksOff]
  rw [broken]

/-! ### One section of a document -/

namespace Codex

/-- If two documents differ in their handshake defaults alone and one of them is valid, only those
of the other one are left to be read. -/
theorem read_of_same_others {rest doc : Entries Scalar Value} {c : Codex}
    (given : (Codex.read rest).Gives c)
    (same : ∀ name, "handshake_defaults" ≠ name → Value.field? doc name = Value.field? rest name) :
  Codex.read doc = readHandshakeDefaults doc (Entries.keys c.profiles) >>= fun d =>
    Pure.pure { c with handshakeDefaults := d }
  := by
  simp only [Codex.read, gives_bind, gives_pure] at given
  obtain ⟨version, ofVersion, tiers, ofTiers, modes, ofModes, reflexes, ofReflexes, profiles,
    ofProfiles, decay, ofDecay, defaults, -, failures, ofFailures, telemetry, ofTelemetry, rfl⟩ :=
    given
  rw [← readVersion_congr (same "codex_version" (by decide))] at ofVersion
  rw [← readTiers_congr (same "tiers" (by decide))] at ofTiers
  rw [← readModes_congr (same "modes" (by decide))] at ofModes
  rw [← readReflexes_congr (same "reflexes" (by decide))] at ofReflexes
  rw [← readProfiles_congr (same "profiles" (by decide)) fun _ => Iff.rfl] at ofProfiles
  rw [← readContextDecay_congr (same "context_decay" (by decide))] at ofDecay
  rw [← readFailureSemantics_congr (same "failure_semantics" (by decide))] at ofFailures
  rw [← readTelemetry_congr (same "telemetry" (by decide))] at ofTelemetry
  have date : dateOf doc = dateOf rest := Value.fieldD_congr (same "codex_date" (by decide)) _
  have description : descriptionOf doc = descriptionOf rest :=
    Value.fieldD_congr (same "description" (by decide)) _
  have overrides : allowsOmissionOverrides doc = allowsOmissionOverrides rest := by
    rw [allowsOmissionOverrides, Value.field_congr (same "omission_scan" (by decide)),
      allowsOmissionOverrides]
  rw [Codex.read, bind_of_gives ofVersion, bind_of_gives ofTiers, bind_of_gives ofModes,
    bind_of_gives ofReflexes, bind_of_gives ofProfiles, bind_of_gives ofDecay]
  congr 1
  funext d
  rw [bind_of_gives ofFailures, bind_of_gives ofTelemetry, date, description, overrides]

theorem ofValue_of_breaksOff {doc : Entries Scalar Value}
    (broken : (Codex.read doc).BreaksOff .tooLong) :
  ofValue (.map doc) = .error (.misuse .tooLong)
  := by rw [ofValue, ofEntries, broken]

theorem ofValue_of_meets {doc : Entries Scalar Value} {c : Codex} {problems : List Problem}
    (meets : (Codex.read doc).Meets c problems) (some_problem : problems ≠ []) :
  ofValue (.map doc) = .error (.invalidCodex problems)
  := by
  rw [ofValue, ofEntries, meets]
  cases problems with
  | nil => exact absurd rfl some_problem
  | cons p problems => rfl

end Codex

/-! ### What is written -/

/-- The value of a word. -/
def wordValue (word : String) : Value := (Plain.value word.toList).toOption.getD .null

/-- An entry of plain scalars. -/
def plainEntry (name : String) (cs : List Char) : Node × Node := (.plain name.toList, .plain cs)

/-- Handshake defaults in words of the vocabulary, each of them written or left out, and the
spelling of a profile. -/
structure HandshakeWriting where
  mode : Option Mode
  tier : Option Tier
  citation : Option CitationOverride
  omission : Option { w : String × OmissionOverride // w ∈ OmissionOverride.words }
  profile : List Char

namespace HandshakeWriting

/-- The entries of the words. -/
def wordNodes (w : HandshakeWriting) : List (Node × Node) :=
  (w.mode.map fun m => plainEntry "mode" m.name.toList).toList
    ++ (w.tier.map fun t => plainEntry "tier" t.name.toList).toList
    ++ (w.citation.map fun c => plainEntry "cite_policy" c.name.toList).toList
    ++ (w.omission.map fun o => plainEntry "omission_scan" o.1.1.toList).toList

/-- The entries of the section. -/
def nodes (w : HandshakeWriting) : List (Node × Node) :=
  w.wordNodes ++ [plainEntry "reflex_profile" w.profile]

/-- What the entries of the words are read as. -/
def wordValues (w : HandshakeWriting) : List (Scalar × Value) :=
  (w.mode.map fun m => (Scalar.text "mode", wordValue m.name)).toList
    ++ (w.tier.map fun t => (Scalar.text "tier", wordValue t.name)).toList
    ++ (w.citation.map fun c => (Scalar.text "cite_policy", wordValue c.name)).toList
    ++ (w.omission.map fun o => (Scalar.text "omission_scan", wordValue o.1.1)).toList

/-- What the entries of the section are read as, with a value for the profile. -/
def values (w : HandshakeWriting) (profile : Value) : List (Scalar × Value) :=
  w.wordValues ++ [(.text "reflex_profile", profile)]

/-- The handshake defaults that are meant, with this profile. -/
def defaults (w : HandshakeWriting) (profile : Text) : HandshakeDefaults where
  mode := w.mode.getD .careful
  tier := w.tier.getD .medium
  citation := w.citation.getD .auto
  omission := (w.omission.map fun o => o.1.2).getD none
  profile := profile

/-- The problems of what is written, where these are the names of the profiles. -/
def problems (w : HandshakeWriting) (names : List Scalar) (profile : Text) : List Problem :=
  (if w.citation = some .off then [.unknownWord "handshake_defaults.cite_policy" (.bool false)]
    else [])
  ++ if names.any (·.same (.text profile)) then [] else [.profileUndefined profile]

end HandshakeWriting

/-! ### The words -/

theorem plainValue_mode (m : Mode) :
  plainValue m.name.toList = .ok (wordValue m.name) ∧ Mode.parse (wordValue m.name) = .ok m
  := by cases m <;> exact ⟨rfl, rfl⟩

theorem plainValue_tier (t : Tier) :
  plainValue t.name.toList = .ok (wordValue t.name) ∧ Tier.parse (wordValue t.name) = .ok t
  := by cases t <;> exact ⟨rfl, rfl⟩

/-- The word for no citations is a truth value, and no citation override. -/
theorem plainValue_citation (c : CitationOverride) :
  plainValue c.name.toList = .ok (wordValue c.name)
    ∧ CitationOverride.parse (wordValue c.name)
      = if c = .off then .error (.unknownCitation (.bool false)) else .ok c
  := by cases c <;> exact ⟨rfl, rfl⟩

theorem plainValue_omission :
  ∀ w ∈ OmissionOverride.words, plainValue w.1.toList = .ok (wordValue w.1)
    ∧ OmissionOverride.parse (wordValue w.1) = .ok w.2
  := by
  simp only [OmissionOverride.words, List.forall_mem_cons]
  exact ⟨⟨rfl, rfl⟩, ⟨rfl, rfl⟩, ⟨rfl, rfl⟩, ⟨rfl, rfl⟩, ⟨rfl, rfl⟩, ⟨rfl, rfl⟩, ⟨rfl, rfl⟩, nofun⟩

namespace HandshakeWriting

variable {w : HandshakeWriting} {m : Entries Scalar Value} {v : Value} {t : Text}

theorem lastUnder_toList {α : Type} (name : String) (word : α → Value) (o : Option α) :
  lastUnder t (o.map fun a => (Scalar.text name, word a)).toList
    = if t = name then o.map word else none
  := by
  cases o with
  | none => simp [lastUnder]
  | some a => simp [lastUnder_singleton, eq_comm (a := t)]

/-- The mapping has what is written under the names of the settings, and this for the profile. -/
structure IsIn (w : HandshakeWriting) (m : Entries Scalar Value) (profile : Value) : Prop where
  mode : Value.field? m "mode" = w.mode.map fun m => wordValue m.name
  tier : Value.field? m "tier" = w.tier.map fun t => wordValue t.name
  stakes : Value.field? m "stakes" = none
  citation : Value.field? m "cite_policy" = w.citation.map fun c => wordValue c.name
  omission : Value.field? m "omission_scan" = w.omission.map fun o => wordValue o.1.1
  profile : Value.field? m "reflex_profile" = some profile

theorem isIn_of_lastUnder (found : ∀ t, Entries.get? m (.text t) = lastUnder t (w.values v)) :
  w.IsIn m v
  := by
  constructor <;>
    simp [Value.field?, found, values, wordValues, lastUnder_append, lastUnder_toList,
      lastUnder_singleton, Text.ofString_inj]

theorem parse_getD {α β : Type} {parse : Value → Except Rejection β} {word : α → Value}
    (meaning : α → β) {default : Value} {other : β} (o : Option α)
    (read : ∀ a ∈ o, parse (word a) = .ok (meaning a)) (otherwise : parse default = .ok other) :
  parse ((o.map word).getD default) = .ok ((o.map meaning).getD other)
  := by
  cases o with
  | none => exact otherwise
  | some a => exact read a rfl

/-- Only the word for no citations is a problem. -/
theorem readCitation_meets (place : Text) (w : HandshakeWriting) :
  (readWord CitationOverride.parse place
      ((w.citation.map fun c => wordValue c.name).getD (.text "auto"))).Meets
    (if w.citation = some .off then none else some (w.citation.getD .auto))
    (if w.citation = some .off then [.unknownWord place (.bool false)] else [])
  := by
  rw [readWord]
  cases w.citation with
  | none => rfl
  | some c =>
    rw [Option.map_some, Option.getD_some, (plainValue_citation c).2]
    cases c <;> rfl

theorem require_meets (condition : Bool) {p : Problem} (writable : p.isWritable = true) :
  (require condition p).Meets () (if condition then [] else [p])
  := by
  rw [require]
  cases condition with
  | true => rfl
  | false => exact if_pos writable

/-- The section is read as it is meant, but for the citation override and the profile. -/
theorem readHandshakeDefaults_of_isIn {doc : Entries Scalar Value}
    (section_ : Value.field doc "handshake_defaults" = .map m) (isIn : w.IsIn m v)
    {names : List Scalar} (some_profile : names.isEmpty = false) :
  Codex.readHandshakeDefaults doc names
    = (readWord CitationOverride.parse "handshake_defaults.cite_policy"
        ((w.citation.map fun c => wordValue c.name).getD (.text "auto")) >>= fun citation =>
      readText v >>= fun profile =>
      require (names.any (·.same (.text profile))) (.profileUndefined profile)
        >>= fun _ => Pure.pure { w.defaults profile with citation := citation.getD .auto })
  := by
  have settings : (readSettings doc "handshake_defaults").Gives (some m) := by
    refine readSettings_gives.mpr (.inr ⟨m, ?_, section_, rfl⟩)
    rw [section_]
    cases m with
    | nil => cases isIn.profile
    | cons e m => rfl
  have mode : (readWord Mode.parse "handshake_defaults.mode" (Value.fieldD m "mode"
      (.text Codex.plainHandshakeDefaults.mode.name))).Gives (some (w.mode.getD .careful)) := by
    rw [Value.fieldD, isIn.mode, readWord_gives]
    refine ⟨_, parse_getD id w.mode (fun m _ => (plainValue_mode m).2) rfl, ?_⟩
    rw [Option.map_id]
    rfl
  have tier : (readWord Tier.parse "handshake_defaults.tier" (Value.fieldD m "tier" (Value.fieldD m
      "stakes" (.text Codex.plainHandshakeDefaults.tier.name)))).Gives
        (some (w.tier.getD .medium)) := by
    rw [Value.fieldD, isIn.tier, Value.fieldD, isIn.stakes, readWord_gives]
    refine ⟨_, parse_getD id w.tier (fun t _ => (plainValue_tier t).2) rfl, ?_⟩
    rw [Option.map_id]
    rfl
  have omission : (readWord OmissionOverride.parse "handshake_defaults.omission_scan"
      (Value.fieldD m "omission_scan" (.text "auto"))).Gives
        (some ((w.omission.map fun o => o.1.2).getD none)) := by
    rw [Value.fieldD, isIn.omission, readWord_gives]
    exact ⟨_, parse_getD _ w.omission (fun o _ => (plainValue_omission o.1 o.2).2) rfl, rfl⟩
  rw [Codex.readHandshakeDefaults, bind_of_gives settings]
  simp only []
  rw [bind_of_gives mode, bind_of_gives tier, Value.fieldD, isIn.citation]
  congr 1
  funext citation
  rw [bind_of_gives omission, Value.fieldD, isIn.profile]
  simp only [some_profile, Bool.false_or]
  rfl

section

variable {rest doc : Entries Scalar Value} {c : Codex} (given : (Codex.read rest).Gives c)
  (same : ∀ name, "handshake_defaults" ≠ name → Value.field? doc name = Value.field? rest name)
  (section_ : Value.field doc "handshake_defaults" = .map m) (isIn : w.IsIn m v)

include given same section_ isIn

/-- A document with the section is read as one without it, up to the citation override and the
profile. -/
theorem read_of_isIn :
  Codex.read doc
    = (readWord CitationOverride.parse "handshake_defaults.cite_policy"
        ((w.citation.map fun c => wordValue c.name).getD (.text "auto")) >>= fun citation =>
      readText v >>= fun profile =>
      require ((Entries.keys c.profiles).any (·.same (.text profile))) (.profileUndefined profile)
        >>= fun _ => Pure.pure { w.defaults profile with citation := citation.getD .auto })
      >>= fun d => Pure.pure { c with handshakeDefaults := d }
  := by
  have profiles : (Entries.keys c.profiles).isEmpty = false := by
    obtain ⟨p, default, -⟩ := (Codex.wellFormed_of_gives given).1.default
    cases listed : c.profiles with
    | nil =>
      rw [Codex.profile?, listed] at default
      cases default
    | cons e es => rfl
  rw [Codex.read_of_same_others given same, readHandshakeDefaults_of_isIn section_ isIn profiles]

theorem breaksOff_of_isIn (long : v.isWritable = false) :
  (Codex.read doc).BreaksOff .tooLong
  := by
  have broken : (readText v).BreaksOff .tooLong := by simp [readText, long, BreaksOff]
  rw [read_of_isIn given same section_ isIn]
  apply BreaksOff.bind
  exact (readCitation_meets _ w).breaksOff_bind (broken.bind _)

theorem meets_of_isIn (writable : v.isWritable = true) :
  (Codex.read doc).Meets
    { c with handshakeDefaults := { w.defaults v.plain with
      citation := (if w.citation = some .off then none
        else some (w.citation.getD .auto)).getD .auto } }
    (w.problems (Entries.keys c.profiles) v.plain)
  := by
  have profile : (readText v).Gives v.plain := readText_gives.mpr ⟨writable, rfl⟩
  rw [read_of_isIn given same section_ isIn, meets_bind]
  refine ⟨_, _, [], meets_bind.mpr ⟨_, _, _, readCitation_meets _ w, ?_, rfl⟩, rfl,
    (List.append_nil _).symm⟩
  rw [bind_of_gives profile, meets_bind]
  exact ⟨(), _, [], require_meets _ rfl, rfl, (List.append_nil _).symm⟩

end

theorem problems_eq_nil_iff {names : List Scalar} :
  w.problems names t = [] ↔ w.citation ≠ some .off ∧ names.any (·.same (.text t)) = true
  := by simp [problems]

/-- What is loaded from a document with the section, where one without it is valid. -/
theorem ofValue_of_isIn {rest doc : Entries Scalar Value} {c : Codex}
    (loaded : Codex.ofValue (.map rest) = .ok c)
    (same : ∀ name, "handshake_defaults" ≠ name → Value.field? doc name = Value.field? rest name)
    (section_ : Value.field doc "handshake_defaults" = .map m) (isIn : w.IsIn m v) :
  (v.isWritable = false → Codex.ofValue (.map doc) = .error (.misuse .tooLong))
    ∧ (v.isWritable = true → w.problems (Entries.keys c.profiles) v.plain ≠ [] →
      Codex.ofValue (.map doc)
        = .error (.invalidCodex (w.problems (Entries.keys c.profiles) v.plain)))
    ∧ (v.isWritable = true → w.problems (Entries.keys c.profiles) v.plain = [] →
      Codex.ofValue (.map doc) = .ok { c with handshakeDefaults := w.defaults v.plain })
  := by
  obtain ⟨given, date, description⟩ := Codex.ofValue_map_eq_ok_iff.mp loaded
  refine ⟨?long, ?refused, ?accepted⟩
  case long =>
    intro long
    exact Codex.ofValue_of_breaksOff (breaksOff_of_isIn given same section_ isIn long)
  case refused =>
    intro writable
    exact Codex.ofValue_of_meets (meets_of_isIn given same section_ isIn writable)
  case accepted =>
    intro writable fine
    have meets := meets_of_isIn given same section_ isIn writable
    rw [fine, if_neg (problems_eq_nil_iff.mp fine).1] at meets
    refine Codex.ofValue_map_eq_ok_iff.mpr ⟨meets, ?_, ?_⟩
    · rwa [Codex.dateOf, Value.fieldD_congr (same "codex_date" (by decide)), ← Codex.dateOf]
    · rwa [Codex.descriptionOf, Value.fieldD_congr (same "description" (by decide)),
        ← Codex.descriptionOf]

end HandshakeWriting

end ReflexPolicy

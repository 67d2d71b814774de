import Mathlib.Data.List.Perm.Basic
import ReflexPolicy.Codex.File
import ReflexPolicy.Proofs.Codex.HandshakeWords

/-!
# Handshake defaults as they are written

A codex file has one section of handshake defaults among its other ones, with plain scalars for the
words of the vocabulary and for the profile, which is spelled like a key of the profiles.  If the
file without the section is valid, loading the file gives the same codex with the handshake defaults
as they are written, unless citations are switched off or the profile is spelled like anything but a
text; then it is refused, or another profile is selected.
-/

namespace ReflexPolicy

open Yaml Reading

namespace HandshakeWriting

variable {w : HandshakeWriting} {v : Value}

/-! ### Nodes of the section -/

theorem hasNoMerges_nodes (w : HandshakeWriting) :
  HasNoMerges w.nodes
  := by
  intro e mem
  simp only [nodes, wordNodes, List.mem_append, Option.mem_toList, Option.map_eq_some_iff,
    List.mem_singleton] at mem
  obtain ((((⟨_, -, rfl⟩ | ⟨_, -, rfl⟩) | ⟨_, -, rfl⟩) | ⟨_, -, rfl⟩) | rfl) := mem
  all_goals rfl

theorem entails_plainEntry {level : Nat} {name : String} {cs : List Char} {v : Value}
    (key : Yaml.keyOf (.plain name.toList) = .ok (.text name)) (value : plainValue cs = .ok v) :
  Entails level (plainEntry name cs) (.text name, v)
  := by
  refine ⟨key, ?_⟩
  rw [plainEntry, valueOf, foundAt_eq_ok_iff]
  exact value

theorem forall₂_toList {α β γ : Type} {R : β → γ → Prop} {f : α → β} {g : α → γ} (o : Option α)
    (each : ∀ a, R (f a) (g a)) :
  List.Forall₂ R (o.map f).toList (o.map g).toList
  := by
  cases o with
  | none => exact .nil
  | some a => exact .cons (each a) .nil

theorem entails_wordNodes (level : Nat) (w : HandshakeWriting) :
  List.Forall₂ (Entails level) w.wordNodes w.wordValues
  := by
  refine List.rel_append (List.rel_append (List.rel_append ?_ ?_) ?_) ?_ <;>
    apply forall₂_toList
  · exact fun m => entails_plainEntry rfl (plainValue_mode m).1
  · exact fun t => entails_plainEntry rfl (plainValue_tier t).1
  · exact fun c => entails_plainEntry rfl (plainValue_citation c).1
  · exact fun o => entails_plainEntry rfl (plainValue_omission o.1 o.2).1

theorem keys_toList_sublist {α : Type} (name : String) (word : α → Value) (o : Option α) :
  ((o.map fun a => (Scalar.text name, word a)).toList.map Prod.fst).Sublist [.text name]
  := by
  cases o with
  | none => exact List.nil_sublist _
  | some a => exact List.Sublist.refl _

/-- No setting is written twice. -/
theorem nodup_values (w : HandshakeWriting) (v : Value) :
  ((w.values v).map Prod.fst).Nodup
  := by
  have names : ((w.values v).map Prod.fst).Sublist (["mode", "tier", "cite_policy", "omission_scan",
      "reflex_profile"].map fun (s : String) => Scalar.text s) := by
    simp only [values, wordValues, List.map_append]
    exact ((((keys_toList_sublist "mode" _ _).append (keys_toList_sublist "tier" _ _)).append
      (keys_toList_sublist "cite_policy" _ _)).append
      (keys_toList_sublist "omission_scan" _ _)).append (List.Sublist.refl _)
  exact names.nodup (by decide)

variable {settings : List (Node × Node)}

/-- The section is a mapping with what is written. -/
theorem exists_valueOf_settings (level : Nat) (perm : settings.Perm w.nodes)
    (value : plainValue w.profile = .ok v) :
  ∃ m, valueOf level (.map settings) = .ok (.map m) ∧ w.IsIn m v
  := by
  have own : HasNoMerges settings := fun e mem => w.hasNoMerges_nodes e (perm.mem_iff.mp mem)
  have entails : List.Forall₂ (Entails (level + 1)) w.nodes (w.values v) :=
    List.rel_append (entails_wordNodes _ w) (.cons (entails_plainEntry rfl value) .nil)
  obtain ⟨es, entails', perm'⟩ := List.perm_comp_forall₂ perm entails
  obtain ⟨m, same, found⟩ := exists_mapping es
  refine ⟨m, (valueOf_map_eq_ok_iff own).mpr ⟨es, entails', same⟩, isIn_of_lastUnder ?_⟩
  intro t
  rw [found, lastUnder_perm perm' (w.nodup_values v)]

/-- A profile that is spelled like no value at all spoils the section. -/
theorem exists_fault_settings (level : Nat) (perm : settings.Perm w.nodes)
    (fault : plainValue w.profile = .error .malformed) :
  ∃ level', valueOf level (.map settings) = .error { level := level', fault := .malformed }
  := by
  have own : HasNoMerges settings := fun e mem => w.hasNoMerges_nodes e (perm.mem_iff.mp mem)
  have mem : plainEntry "reflex_profile" w.profile ∈ settings := perm.mem_iff.mpr (by simp [nodes])
  obtain ⟨before, after, rfl⟩ := List.append_of_mem mem
  have perm' : (before ++ after).Perm w.wordNodes := by
    have moved := List.perm_middle.symm.trans (perm.trans (List.perm_append_singleton _ _))
    exact moved.cons_inv
  refine ⟨level + 1, ?_⟩
  have spoilt : ownOf (level + 1) (before ++ plainEntry "reflex_profile" w.profile :: after)
      = .error { level := level + 1, fault := .malformed } := by
    refine ownOf_eq_error own ?_ rfl ?_
    · intro e mem
      obtain ⟨e', -, entails⟩ :=
        exists_of_mem_forall₂ (entails_wordNodes (level + 1) w) (perm'.mem_iff.mp mem)
      exact ⟨e', entails⟩
    · rw [valueOf, fault]
      rfl
  rw [valueOf_map_of_hasNoMerges own, spoilt]
  rfl

end HandshakeWriting

/-! ### Files with the section -/

namespace Codex

variable {path : String} {entries : List (Node × Node)} {c : Codex}

/-- The codex that the node of a file writes. -/
def ofNode (path : String) (n : Node) : Except Fault Codex :=
  match valueOf 0 n with
  | .ok v => ofValue (if v.truthy then v else .map [])
  | .error found => match found.fault with
    | .malformed => .error (.invalidCodex [.notYaml path])
    | .unusable cause => .error cause

theorem ofSupply_of_node {s : Supply} {n : Node}
    (node : Node.ofTokens (Tokens.ofSupply s.withoutMark) = .ok n) :
  ofSupply path s = ofNode path n
  := by
  have reads : Yaml.read s = (valueOf 0 n).mapError Found.fault := by
    rw [Yaml.read, node]
    change (match valueOf 0 n with
      | .ok v => Except.ok v
      | .error found => Except.error found.fault) = _
    cases valueOf 0 n <;> rfl
  rw [ofSupply, reads, ofNode]
  cases valueOf 0 n with
  | ok v => rfl
  | error found =>
    obtain ⟨level, fault⟩ := found
    cases fault <;> rfl

theorem ofNode_of_value {n : Node} {m : Entries Scalar Value} (value : valueOf 0 n = .ok (.map m)) :
  ofNode path n = ofValue (.map m)
  := by
  rw [ofNode, value]
  cases m <;> rfl

theorem exists_of_ofNode (own : HasNoMerges entries) (valid : ofNode path (.map entries) = .ok c) :
  ∃ es m, List.Forall₂ (Entails 1) entries es ∧ mapping es = .map m ∧ ofValue (.map m) = .ok c
    ∧ ∀ t, Entries.get? m (.text t) = lastUnder t es
  := by
  cases value : valueOf 0 (.map entries) with
  | error found =>
    rw [ofNode, value] at valid
    cases fault : found.fault <;> simp [fault] at valid
  | ok v =>
    obtain ⟨es, entails, rfl⟩ := (valueOf_map_eq_ok_iff own).mp value
    obtain ⟨m, same, found⟩ := exists_mapping es
    rw [same] at value
    rw [ofNode_of_value value] at valid
    exact ⟨es, m, entails, same, valid, found⟩

/-- The names of the profiles are the keys of their section. -/
theorem keys_profiles_of_ofValue {doc : Entries Scalar Value}
    (loaded : ofValue (.map doc) = .ok c) :
  ∃ es, Value.field doc "profiles" = .map es ∧ Entries.keys c.profiles = Entries.keys es
  := by
  obtain ⟨given, -⟩ := ofValue_map_eq_ok_iff.mp loaded
  simp only [Codex.read, gives_bind, gives_pure] at given
  obtain ⟨version, -, tiers, -, modes, -, reflexes, -, profiles, ofProfiles, decay, -, defaults, -,
    failures, -, telemetry, -, rfl⟩ := given
  obtain ⟨es, section_, each, -⟩ := readProfiles_gives ofProfiles
  refine ⟨es, section_, ?_⟩
  show Entries.keys profiles = Entries.keys es
  clear section_ ofProfiles loaded
  induction each with
  | nil => rfl
  | cons first _ ih => exact congrArg₂ List.cons first.1 ih

end Codex

namespace HandshakeWriting

variable {w : HandshakeWriting} {before settings after : List (Node × Node)} {path : String}
  {c : Codex}

/-- The settings of the section are written in any order, and the section stands once, between the
other ones of a file.  The profile is spelled like a key of the profiles.  No key is the merge
word. -/
structure IsWrittenIn (w : HandshakeWriting) (before settings after : List (Node × Node)) :
    Prop where
  plainly : HasNoMerges (before ++ after)
  once : ∀ e ∈ before ++ after, Yaml.keyOf e.1 ≠ .ok (.text "handshake_defaults")
  settings : settings.Perm w.nodes
  profile : ∃ front profiles back n,
    before ++ after = front ++ (.plain "profiles".toList, .map profiles) :: back
      ∧ (∀ e ∈ back, Yaml.keyOf e.1 ≠ .ok (.text "profiles"))
      ∧ HasNoMerges profiles ∧ (.plain w.profile, n) ∈ profiles

/-- The section with its key. -/
def entry (settings : List (Node × Node)) : Node × Node :=
  (.plain "handshake_defaults".toList, .map settings)

theorem keyOf_entry :
  Yaml.keyOf (.plain "handshake_defaults".toList) = .ok (.text "handshake_defaults")
  := rfl

theorem IsWrittenIn.hasNoMerges (written : w.IsWrittenIn before settings after) :
  HasNoMerges (before ++ entry settings :: after)
  := by
  intro e mem
  obtain rfl | mem := List.mem_cons.mp (List.perm_middle.mem_iff.mp mem)
  · rfl
  · exact written.plainly e mem

theorem IsWrittenIn.once_behind (written : w.IsWrittenIn before settings after) :
  ∀ e ∈ after, Yaml.keyOf e.1 ≠ .ok (.text "handshake_defaults")
  := fun e mem => written.once e (List.mem_append_right _ mem)

/-- The profile that is meant is a key of the codex, if its name is a text. -/
theorem exists_key (written : w.IsWrittenIn before settings after)
    (valid : Codex.ofNode path (.map (before ++ after)) = .ok c) :
  ∃ k, Yaml.keyOf (.plain w.profile) = .ok k
    ∧ ∀ t, k = .text t → (Entries.keys c.profiles).any (·.same (.text t)) = true
  := by
  obtain ⟨es, rest, entails, -, loaded, found⟩ := Codex.exists_of_ofNode written.plainly valid
  obtain ⟨front, profiles, back, n, cut, last, own, mem⟩ := written.profile
  rw [cut] at entails
  obtain ⟨v, value, under⟩ := lastUnder_of_forall₂ (t := "profiles") entails rfl last
  obtain ⟨es', entails', rfl⟩ := (valueOf_map_eq_ok_iff own).mp value
  obtain ⟨m, same, found'⟩ := exists_mapping es'
  obtain ⟨⟨k, v⟩, mem', key, -⟩ := exists_of_mem_forall₂ entails' mem
  refine ⟨k, key, ?_⟩
  rintro t rfl
  obtain ⟨section_, here, keys⟩ := Codex.keys_profiles_of_ofValue loaded
  have there : Value.field rest "profiles" = .map m := by
    rw [Value.field, Value.field?, found, under, same]
    rfl
  obtain rfl : section_ = m := Value.map.inj (here.symm.trans there)
  have listed : Entries.has section_ (.text t) = true := by
    rw [Entries.has, found', Option.isSome_iff_ne_none]
    intro absent
    exact lastUnder_eq_none_iff.mp absent _ mem' rfl
  rw [keys]
  exact (Entries.has_eq_any section_ (.text t)).symm.trans listed

/-- What is loaded where the profile is spelled like a value. -/
theorem ofNode_of_written (written : w.IsWrittenIn before settings after)
    (valid : Codex.ofNode path (.map (before ++ after)) = .ok c) {k : Scalar}
    (value : plainValue w.profile = .ok (.scalar k)) :
  (k.isWritable = false →
      Codex.ofNode path (.map (before ++ entry settings :: after)) = .error (.misuse .tooLong))
    ∧ (k.isWritable = true → w.problems (Entries.keys c.profiles) k.plain ≠ [] →
      Codex.ofNode path (.map (before ++ entry settings :: after))
        = .error (.invalidCodex (w.problems (Entries.keys c.profiles) k.plain)))
    ∧ (k.isWritable = true → w.problems (Entries.keys c.profiles) k.plain = [] →
      Codex.ofNode path (.map (before ++ entry settings :: after))
        = .ok { c with handshakeDefaults := w.defaults k.plain })
  := by
  obtain ⟨es, rest, entails, -, loaded, found⟩ := Codex.exists_of_ofNode written.plainly valid
  obtain ⟨m, settled, isIn⟩ := exists_valueOf_settings 1 written.settings value
  obtain ⟨bs, as, rfl, ahead, behind⟩ := exists_of_forall₂_append entails
  have entails' : List.Forall₂ (Entails 1) (before ++ entry settings :: after)
      (bs ++ (.text "handshake_defaults", .map m) :: as) :=
    List.rel_append ahead (.cons ⟨keyOf_entry, settled⟩ behind)
  obtain ⟨doc, same, found'⟩ := exists_mapping (bs ++ (.text "handshake_defaults", .map m) :: as)
  have value' : valueOf 0 (.map (before ++ entry settings :: after)) = .ok (.map doc) :=
    (valueOf_map_eq_ok_iff written.hasNoMerges).mpr ⟨_, entails', same⟩
  have others (name : String) (apart : "handshake_defaults" ≠ name) :
      Value.field? doc name = Value.field? rest name := by
    rw [Value.field?, found', lastUnder_insert, Value.field?, found]
    simpa [Text.ofString_inj] using apart
  have section_ : Value.field doc "handshake_defaults" = .map m := by
    obtain ⟨v, given, under⟩ := lastUnder_of_forall₂ entails' keyOf_entry written.once_behind
    rw [settled] at given
    cases given
    rw [Value.field, Value.field?, found', under]
    rfl
  rw [Codex.ofNode_of_value value']
  exact ofValue_of_isIn loaded others section_ isIn

/-- What is loaded where the profile is spelled like no value at all. -/
theorem ofNode_of_reserved (written : w.IsWrittenIn before settings after)
    (valid : Codex.ofNode path (.map (before ++ after)) = .ok c) 
    (fault : plainValue w.profile = .error .malformed) :
  Codex.ofNode path (.map (before ++ entry settings :: after))
    = .error (.invalidCodex [.notYaml path])
  := by
  obtain ⟨es, rest, entails, -⟩ := Codex.exists_of_ofNode written.plainly valid
  obtain ⟨level, spoilt⟩ := exists_fault_settings 1 written.settings fault
  have each : ∀ e ∈ before ++ after, ∃ e', Entails 1 e e' := by
    intro e mem
    obtain ⟨e', -, entails⟩ := exists_of_mem_forall₂ entails mem
    exact ⟨e', entails⟩
  rw [Codex.ofNode, valueOf_map_of_hasNoMerges written.hasNoMerges, entry,
    ownOf_eq_error written.hasNoMerges each keyOf_entry spoilt]
  rfl

/-- The codex has the handshake defaults that are written, and the profile under this key. -/
structure IsMeantBy (w : HandshakeWriting) (k : Scalar) (c : Codex) : Prop where
  mode : ∀ m ∈ w.mode, c.handshakeDefaults.mode = m
  tier : ∀ t ∈ w.tier, c.handshakeDefaults.tier = t
  citation : ∀ o ∈ w.citation, c.handshakeDefaults.citation = o
  omission : ∀ o ∈ w.omission, c.handshakeDefaults.omission = o.1.2
  profile : k = .text c.handshakeDefaults.profile
  selects : ∃ p, c.profile? k = some p

theorem isMeantBy_defaults {t : Text}
    (defined : (Entries.keys c.profiles).any (·.same (.text t)) = true) :
  w.IsMeantBy (.text t) { c with handshakeDefaults := w.defaults t }
  where
  mode m written := by rw [defaults, Option.mem_def.mp written, Option.getD_some]
  tier t written := by rw [defaults, Option.mem_def.mp written, Option.getD_some]
  citation o written := by rw [defaults, Option.mem_def.mp written, Option.getD_some]
  omission o written := by
    rw [defaults, Option.mem_def.mp written, Option.map_some, Option.getD_some]
  profile := rfl
  selects := Option.isSome_iff_exists.mp ((Entries.has_eq_any c.profiles (.text t)).trans defined)

theorem plainValue_of_keyOf {cs : List Char} {k : Scalar} (other : cs ≠ ['='])
    (key : Yaml.keyOf (.plain cs) = .ok k) :
  plainValue cs = .ok (.scalar k)
  := by
  rw [Yaml.keyOf, if_neg (by simpa using other)] at key
  split at key
  · rename_i value
    cases key
    exact value
  · cases key
  · cases key

theorem load_eq_ofNode {files : Directory} {bytes : List UInt8} {n : Node}
    (found : File.bytesAt files path = .ok bytes)
    (node : Node.ofTokens (Tokens.ofSupply (Supply.ofBytes bytes).withoutMark) = .ok n) :
  Codex.load files (.path path) = Codex.ofNode path n
  := by
  rw [Codex.load, found]
  exact Codex.ofSupply_of_node node

/-- A file without handshake defaults, line by line.  One of its profiles is named by a number. -/
def smallLines : List String := [
  "codex_version: 1.0.0",
  "tiers:",
  "  low: \x7bmin_confidence: 0\x7d",
  "  medium: \x7bmin_confidence: 0\x7d",
  "  high: \x7bmin_confidence: 0\x7d",
  "modes: \x7bdirect: \x7b\x7d, careful: \x7b\x7d, recap: \x7b\x7d\x7d",
  "reflexes:",
  "  tone: \x7btrigger_at: 0\x7d",
  "profiles: \x7bdefault: [tone], 7: [tone]\x7d",
  "context_decay:",
  "  max_turns_without_recap: 9",
  "  max_tokens_since_recap: 9"]

/-- A line of a setting. -/
def settingLine (e : String × String) : String := "  " ++ e.1 ++ ": " ++ e.2

/-- The bytes of the file with handshake defaults at its end. -/
def smallFile (settings : List (String × String)) : List UInt8 :=
  ((smallLines ++ "handshake_defaults:" :: settings.map settingLine).flatMap fun line =>
    line.toList ++ ['\n']).flatMap String.utf8EncodeChar

/-- A directory with the file at every path. -/
def smallDirectory (settings : List (String × String)) : Directory :=
  fun _ => .ok (smallFile settings)

theorem bytesAt_smallDirectory (settings : List (String × String)) :
  File.bytesAt (smallDirectory settings) "codex.yaml" = .ok (smallFile settings)
  := rfl

/-- A word as a node. -/
def word (s : String) : Node := .plain s.toList

/-- The profiles of the file. -/
def smallProfiles : List (Node × Node) :=
  [(word "default", .list [word "tone"]), (word "7", .list [word "tone"])]

/-- The sections of the file but for the handshake defaults. -/
def smallSections : List (Node × Node) := [
  (word "codex_version", word "1.0.0"),
  (word "tiers", .map (["low", "medium", "high"].map fun tier =>
    (word tier, .map [(word "min_confidence", word "0")]))),
  (word "modes", .map (["direct", "careful", "recap"].map fun mode => (word mode, .map []))),
  (word "reflexes", .map [(word "tone", .map [(word "trigger_at", word "0")])]),
  (word "profiles", .map smallProfiles),
  (word "context_decay", .map [(word "max_turns_without_recap", word "9"),
    (word "max_tokens_since_recap", word "9")])]

/-- The settings as nodes. -/
def settingNodes (settings : List (String × String)) : List (Node × Node) :=
  settings.map fun e => plainEntry e.1 e.2.toList

/-- The file is read as its sections. -/
def Reads (settings : List (String × String)) : Prop :=
  Node.ofTokens (Tokens.ofSupply (Supply.ofBytes (smallFile settings)).withoutMark)
    = .ok (.map (smallSections ++ [entry (settingNodes settings)]))

theorem reads_of_computed {settings : List (String × String)}
    (computed : passes (fun n => n.same (.map (smallSections ++ [entry (settingNodes settings)])))
      (Node.ofTokens (Tokens.ofSupply (Supply.ofBytes (smallFile settings)).withoutMark)) = true) :
  Reads settings
  := by
  obtain ⟨n, read, same⟩ := exists_of_passes computed
  rw [Reads, read, eq_of_same same]

theorem keyOf_ne_of_computed {es : List (Node × Node)} {name : Text}
    (computed : es.all (fun e => !passes (·.same (.text name)) (Yaml.keyOf e.1)) = true) :
  ∀ e ∈ es, Yaml.keyOf e.1 ≠ .ok (.text name)
  := by
  intro e mem same
  have other := List.all_eq_true.mp computed e mem
  rw [same, passes, Scalar.same_text_iff.mpr rfl] at other
  cases other

theorem isWrittenIn_smallSections {n : Node} (perm : settings.Perm w.nodes)
    (mem : (.plain w.profile, n) ∈ smallProfiles) :
  w.IsWrittenIn smallSections settings []
  where
  plainly := by simp [HasNoMerges, smallSections, word, isMerge]
  once := keyOf_ne_of_computed (by decide +kernel)
  settings := perm
  profile := by
    refine ⟨smallSections.take 4, smallProfiles, smallSections.drop 5, n, rfl,
      keyOf_ne_of_computed (by decide +kernel), ?_, mem⟩
    simp [HasNoMerges, smallProfiles, word, isMerge]

set_option maxRecDepth 4000 in
/-- The file without handshake defaults is valid, and no profile of it is named by the text of the
number. -/
theorem exists_smallCodex :
  ∃ c, Codex.ofNode "codex.yaml" (.map (smallSections ++ [])) = .ok c
    ∧ (Entries.keys c.profiles).any (·.same (.text "7")) = false
  := by
  have computed : passes (fun c => !(Entries.keys c.profiles).any (·.same (.text "7")))
      (Codex.ofNode "codex.yaml" (.map (smallSections ++ []))) = true := by decide +kernel
  obtain ⟨c, valid, unnamed⟩ := exists_of_passes computed
  exact ⟨c, valid, by simpa using unnamed⟩

/-- Settings with citations forced. -/
def forcedSettings : List (String × String) :=
  [("tier", "high"), ("cite_policy", "force"), ("reflex_profile", "default")]

/-- What these settings write. -/
def forcedWriting : HandshakeWriting where
  mode := none
  tier := some .high
  citation := some .force
  omission := none
  profile := "default".toList

/-- Settings with citations switched off, and the profile that is named by the number. -/
def offSettings : List (String × String) := [("cite_policy", "off"), ("reflex_profile", "7")]

/-- What these settings write. -/
def offWriting : HandshakeWriting where
  mode := none
  tier := none
  citation := some .off
  omission := none
  profile := "7".toList

end HandshakeWriting

end ReflexPolicy

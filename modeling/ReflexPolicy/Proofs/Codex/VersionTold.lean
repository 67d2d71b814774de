import ReflexPolicy.Proofs.Codex.Parts
import ReflexPolicy.Proofs.Codex.Version
import ReflexPolicy.Proofs.Handshake.Floor
import ReflexPolicy.Proofs.Telemetry.Announcement
import ReflexPolicy.Report

/-!
# The version of a codex

A codex has the version that its document writes, which counts as one: three runs of digits that
are joined by points.  Every such text can stand for the version of a document.  Outcomes,
handshakes, reports and events tell the version as the codex has it, so that a digit of another
script, or a line feed at the end, comes out wherever the version is told.
-/

namespace ReflexPolicy

open Reading

namespace Codex

/-! ### Reading the version -/

theorem readVersion_gives {doc : Entries Scalar Value} {version : Text} :
  (readVersion doc).Gives version
    ↔ (Value.fieldD doc "codex_version" (.text "")).isWritable = true
      ∧ (Value.fieldD doc "codex_version" (.text "")).plain = version ∧ version.IsVersion
  := by
  simp only [readVersion, gives_bind, gives_pure, gives_require, readText_gives, isVersion_iff]
  constructor
  · rintro ⟨_, ⟨writable, plain⟩, -, version, rfl⟩
    exact ⟨writable, plain, version⟩
  · rintro ⟨writable, plain, version⟩
    exact ⟨_, ⟨writable, plain⟩, (), version, rfl⟩

theorem version_of_ofValue {doc : Entries Scalar Value} {c : Codex}
    (loaded : ofValue (.map doc) = .ok c) :
  (Value.fieldD doc "codex_version" (.text "")).plain = c.version ∧ c.version.IsVersion
  := by
  obtain ⟨given, -⟩ := ofValue_map_eq_ok_iff.mp loaded
  simp only [Codex.read, gives_bind, gives_pure, readVersion_gives] at given
  obtain ⟨version, ⟨-, written, valid⟩, tiers, -, modes, -, reflexes, -, profiles, -, decay, -,
    defaults, -, failures, -, telemetry, -, rfl⟩ := given
  exact ⟨written, valid⟩

/-! ### Another version -/

/-- The document with another version. -/
def versioned (doc : Entries Scalar Value) (version : Text) : Entries Scalar Value :=
  Entries.put doc (.text "codex_version") (.text version)

section

variable (doc : Entries Scalar Value) (version : Text)

theorem field?_versioned_self :
  Value.field? (versioned doc version) "codex_version" = some (.text version)
  := by rw [versioned, Value.field?, Scalar.get?_put_text, if_pos rfl]

theorem field?_versioned {name : String} (apart : "codex_version" ≠ name) :
  Value.field? (versioned doc version) name = Value.field? doc name
  := by
  rw [versioned, Value.field?, Scalar.get?_put_text, if_neg (mt Text.ofString_inj.mp apart),
    Value.field?]

end

/-- The version of a document can be replaced by whatever counts as one, and nothing else of the
codex changes. -/
theorem ofValue_versioned {doc : Entries Scalar Value} {c : Codex} {version : Text}
    (loaded : ofValue (.map doc) = .ok c) (valid : version.IsVersion) :
  ofValue (.map (versioned doc version)) = .ok { c with version := version }
  := by
  have same {name : String} (apart : "codex_version" ≠ name) := field?_versioned doc version apart
  obtain ⟨given, date, description⟩ := ofValue_map_eq_ok_iff.mp loaded
  have sameDate : dateOf (versioned doc version) = dateOf doc :=
    Value.fieldD_congr (same (by decide)) _
  have sameDescription : descriptionOf (versioned doc version) = descriptionOf doc :=
    Value.fieldD_congr (same (by decide)) _
  have sameOverrides :
      allowsOmissionOverrides (versioned doc version) = allowsOmissionOverrides doc := by
    rw [allowsOmissionOverrides, Value.field_congr (same (by decide)), allowsOmissionOverrides]
  have given' : (readVersion (versioned doc version)).Gives version := by
    rw [readVersion_gives, Value.fieldD, field?_versioned_self]
    exact ⟨rfl, rfl, valid⟩
  rw [ofValue_map_eq_ok_iff, sameDate, sameDescription]
  refine ⟨?_, date, description⟩
  simp only [Codex.read, gives_bind, gives_pure, sameDate, sameDescription, sameOverrides,
    readTiers_congr (same (by decide : "codex_version" ≠ "tiers")),
    readModes_congr (same (by decide : "codex_version" ≠ "modes")),
    readReflexes_congr (same (by decide : "codex_version" ≠ "reflexes")),
    fun ids => readProfiles_congr (same (by decide : "codex_version" ≠ "profiles"))
      fun id => Iff.refl (id ∈ ids),
    readContextDecay_congr (same (by decide : "codex_version" ≠ "context_decay")),
    fun names => readHandshakeDefaults_congr
      (same (by decide : "codex_version" ≠ "handshake_defaults"))
      fun name => Iff.refl (name ∈ names),
    readFailureSemantics_congr (same (by decide : "codex_version" ≠ "failure_semantics")),
    readTelemetry_congr (same (by decide : "codex_version" ≠ "telemetry"))] at given ⊢
  obtain ⟨_, -, tiers, ofTiers, modes, ofModes, reflexes, ofReflexes, profiles, ofProfiles, decay,
    ofDecay, defaults, ofDefaults, failures, ofFailures, telemetry, ofTelemetry, rfl⟩ := given
  exact ⟨version, given', tiers, ofTiers, modes, ofModes, reflexes, ofReflexes, profiles,
    ofProfiles, decay, ofDecay, defaults, ofDefaults, failures, ofFailures, telemetry, ofTelemetry,
    rfl⟩

/-! ### Where the version is told -/

/-- Wherever the version of the codex is told, it is told as the codex has it. -/
structure TellsVersion (c : Codex) : Prop where
  outcomes : ∀ d o, c.evaluate d = .ok o →
    o.codexVersion = c.version ∧ ("codexVersion", .text c.version) ∈ o.sheet.fields
  handshakes : ∀ h, Handshake.Held c h → h.codexVersion = c.version
  reports : ∀ s findings t, Report.text c s findings = .ok t → ∃ lines, t = Text.joined "\n" lines
    ∧ ("Codex: " ++ c.version ++ " | Profile: " ++ s.profile.plain : Text) ∈ lines
  events : ∀ o now e, c.sent? o now = some e →
    Entries.get? e.payload (.text "codex_version") = some (.text c.version)

variable {c : Codex}

theorem codexVersion_of_outcome {r : Request} {o : Outcome} (answer : c.outcome r = .ok o) :
  o.codexVersion = c.version
  := by
  simp only [outcome, bind_eq_ok] at answer
  obtain ⟨floor, -, profile, -, answer⟩ := answer
  split at answer
  · cases answer
    rfl
  · simp only [bind_eq_ok, pure_eq_ok] at answer
    obtain ⟨citation, -, omission, -, rfl⟩ := answer
    rfl

theorem version_mem_fields (o : Outcome) :
  ("codexVersion", .text o.codexVersion) ∈ o.sheet.fields
  := by simp [Sheet.fields, Outcome.sheet]

theorem codexVersion_of_held {h : Handshake} (held : Handshake.Held c h) :
  h.codexVersion = c.version
  := by
  cases held with
  | build built => exact (Handshake.build_spec built).2.2
  | update _ updated => exact (Handshake.update_spec updated).2.2

theorem version_mem_lines {s : Sheet} {findings : List Finding} {t : Text}
    (given : Report.text c s findings = .ok t) :
  ∃ lines, t = Text.joined "\n" lines
    ∧ ("Codex: " ++ c.version ++ " | Profile: " ++ s.profile.plain : Text) ∈ lines
  := by
  simp only [Report.text, bind_eq_ok, pure_eq_ok] at given
  obtain ⟨profile, shown, floor, -, block, -, fired, -, found, -, rfl⟩ := given
  obtain rfl := Report.eq_plain_of_shown shown
  refine ⟨_, rfl, ?_⟩
  simp

theorem tellsVersion (c : Codex) :
  c.TellsVersion
  where
    outcomes := by
      intro d o answer
      obtain ⟨r, -, answer⟩ := bind_eq_ok.mp answer
      have same := codexVersion_of_outcome answer
      exact ⟨same, same ▸ version_mem_fields o⟩
    handshakes := fun h held => codexVersion_of_held held
    reports := fun s findings t given => version_mem_lines given
    events := fun o now e sent => (added_of_sent? sent).1

/-- The version of a codex that is loaded is what its document writes, three runs of digits joined
by points, with a line feed behind them at most.  It is a semantic version unless a letter of it is
neither an ASCII digit nor a point.  Every text that counts as a version, and so every semantic
version, is accepted in its place, and it is told as it stands. -/
theorem version_of_loaded {doc : Entries Scalar Value} {c : Codex}
    (loaded : ofValue (.map doc) = .ok c) :
  (Value.fieldD doc "codex_version" (.text "")).plain = c.version ∧ c.version.IsVersion
    ∧ (c.version.IsSemver ↔ c.version.IsPlain)
    ∧ (∀ version : Text, version.IsSemver → version.IsVersion)
    ∧ (∀ version : Text, version.IsVersion →
      ofValue (.map (versioned doc version)) = .ok { c with version := version })
    ∧ c.TellsVersion
  := by
  obtain ⟨written, valid⟩ := version_of_ofValue loaded
  exact ⟨written, valid, Text.isSemver_iff_isPlain valid, fun _ => Text.isVersion_of_isSemver,
    fun _ => ofValue_versioned loaded, tellsVersion c⟩

theorem version_of_loaded_smallDocument :
  ∃ c doc, smallDocument = .map doc ∧ ofValue (.map doc) = .ok c ∧ c.version.IsSemver
    ∧ ∃ c', ofValue (.map (versioned doc "10.0.20")) = .ok c' ∧ c'.version = "10.0.20"
      ∧ c'.TellsVersion
  := by
  obtain ⟨c, loaded⟩ := exists_of_isOk isOk_smallDocument
  obtain ⟨doc, same, -⟩ := gives_of_ofValue loaded
  rw [same] at loaded
  obtain ⟨written, -, semver, counts, accepted, -⟩ := version_of_loaded loaded
  have other : Text.IsSemver "10.0.20" :=
    ⟨['1', '0'], ['0'], ['2', '0'], by simp [IsRun, Text.isAsciiDigit],
      by simp [IsRun, Text.isAsciiDigit], by simp [IsRun, Text.isAsciiDigit], rfl⟩
  refine ⟨c, doc, same, loaded, ?_, _, accepted _ (counts _ other), rfl, tellsVersion _⟩
  cases same
  exact ⟨['1'], ['0'], ['0'], by simp [IsRun, Text.isAsciiDigit],
    by simp [IsRun, Text.isAsciiDigit], by simp [IsRun, Text.isAsciiDigit], written.symm⟩

/-- The codex has this version. -/
def hasVersion (version : Text) (c : Codex) : Bool := c.version == version

/-- The small document with another version. -/
def smallDocumentAt (version : Text) : Value := smallDocumentWith [("codex_version", .text version)]

theorem loaded_smallDocumentAt {version : Text}
    (computed : passes (hasVersion version) (ofValue (smallDocumentAt version)) = true) :
  ∃ c, ofValue (smallDocumentAt version) = .ok c ∧ c.version = version
  := by
  obtain ⟨c, loaded, same⟩ := exists_of_passes computed
  exact ⟨c, loaded, beq_iff_eq.mp same⟩

/-- A letter that is neither an ASCII digit nor a point keeps a text from being a semantic version.
-/
theorem not_isSemver_of_mem {version : Text} {c : Char} (mem : .char c ∈ version.letters)
    (digit : Text.isAsciiDigit c = false) (point : c ≠ '.') :
  ¬version.IsSemver
  := by
  intro semver
  obtain ⟨_, ⟨⟩, ascii | same⟩ := Text.isPlain_of_isSemver semver _ mem
  · rw [digit] at ascii
    cases ascii
  · apply point same

set_option maxRecDepth 4000 in
/-- A line feed behind the runs is taken for part of a version, and so is a digit of another
script. -/
theorem loads_unsemantic :
  (∃ c, ofValue (smallDocumentAt "1.0.0\n") = .ok c ∧ c.version = "1.0.0\n")
    ∧ ¬Text.IsSemver "1.0.0\n"
    ∧ (∃ c, ofValue (smallDocumentAt "\u0661.0.0") = .ok c ∧ c.version = "\u0661.0.0")
    ∧ ¬Text.IsSemver "\u0661.0.0"
  := by
  refine ⟨loaded_smallDocumentAt (by decide +kernel), ?feed,
    loaded_smallDocumentAt (by decide +kernel), ?digit⟩
  case feed =>
    apply not_isSemver_of_mem (c := '\n') <;> decide
  case digit =>
    apply not_isSemver_of_mem (c := '\u0661') <;> decide

end Codex

end ReflexPolicy

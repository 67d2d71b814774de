import ReflexPolicy.Proofs.Codex.Faults

/-!
# The parts of a document

A document has nine parts that can have problems, and each of them is read from the value under its
own key.  Two of them look at what another one has given: the profiles at the ids of the reflexes,
and the handshake defaults at the names of the profiles.  Nothing else passes from one part to
another, so that the problems of a document are those of its parts, one part after another, and a
change to one part leaves the problems of the others as they are.
-/

namespace ReflexPolicy

/-! ### Readings with problems -/

namespace Reading

variable {α : Type}

/-- The value that the reading gives, unless it is broken off. -/
def value? (x : Reading α) : Option α :=
  match x with
  | .ok (a, _) => some a
  | .error _ => none

/-- The problems that the reading meets, none if it is broken off. -/
def problems (x : Reading α) : List Problem :=
  match x with
  | .ok (_, problems) => problems
  | .error _ => []

theorem Meets.value?_eq {x : Reading α} {a : α} {problems : List Problem}
    (meets : x.Meets a problems) :
  x.value? = some a
  := by
  cases meets
  rfl

theorem Meets.problems_eq {x : Reading α} {a : α} {problems : List Problem}
    (meets : x.Meets a problems) :
  x.problems = problems
  := by
  cases meets
  rfl

end Reading

open Reading

/-! ### One key -/

section

variable {doc doc' : Entries Scalar Value} {name : String}
  (same : Value.field? doc name = Value.field? doc' name)

include same

theorem Value.field_congr :
  Value.field doc name = Value.field doc' name
  := by rw [Value.field, Value.field, same]

theorem Value.fieldD_congr (default : Value) :
  Value.fieldD doc name default = Value.fieldD doc' name default
  := by rw [Value.fieldD, Value.fieldD, same]

theorem readSection_congr :
  readSection doc name = readSection doc' name
  := by rw [readSection, readSection, Value.field_congr same]

theorem readSettings_congr :
  readSettings doc name = readSettings doc' name
  := by rw [readSettings, readSettings, Value.field_congr same]

end

namespace Codex

section

variable {doc doc' : Entries Scalar Value}

theorem readVersion_congr
    (same : Value.field? doc "codex_version" = Value.field? doc' "codex_version") :
  readVersion doc = readVersion doc'
  := by rw [readVersion, readVersion, Value.fieldD_congr same]

theorem readTiers_congr (same : Value.field? doc "tiers" = Value.field? doc' "tiers") :
  readTiers doc = readTiers doc'
  := by rw [readTiers, readTiers, readSection_congr same]

theorem readModes_congr (same : Value.field? doc "modes" = Value.field? doc' "modes") :
  readModes doc = readModes doc'
  := by rw [readModes, readModes, readSection_congr same]

theorem readReflexes_congr (same : Value.field? doc "reflexes" = Value.field? doc' "reflexes") :
  readReflexes doc = readReflexes doc'
  := by rw [readReflexes, readReflexes, readSection_congr same]

theorem readContextDecay_congr
    (same : Value.field? doc "context_decay" = Value.field? doc' "context_decay") :
  readContextDecay doc = readContextDecay doc'
  := by rw [readContextDecay, readContextDecay, readSection_congr same]

theorem readFailureSemantics_congr
    (same : Value.field? doc "failure_semantics" = Value.field? doc' "failure_semantics") :
  readFailureSemantics doc = readFailureSemantics doc'
  := by rw [readFailureSemantics, readFailureSemantics, readSettings_congr same]

theorem readTelemetry_congr
    (same : Value.field? doc "telemetry" = Value.field? doc' "telemetry") :
  readTelemetry doc = readTelemetry doc'
  := by rw [readTelemetry, readTelemetry, readSettings_congr same]

/-! ### What the parts know of each other -/

variable {ids ids' names names' : List Scalar}

theorem any_same_congr (same : ∀ id, id ∈ ids ↔ id ∈ ids') (t : Text) :
  ids.any (·.same (.text t)) = ids'.any (·.same (.text t))
  := by
  rw [Bool.eq_iff_iff]
  simp only [List.any_eq_true, same]

theorem readOrder_congr (same : ∀ id, id ∈ ids ↔ id ∈ ids') (name : Scalar) (seen : List Text)
    (items : List Value) :
  readOrder ids name seen items = readOrder ids' name seen items
  := by
  fun_induction readOrder ids name seen items with
  | case1 => rfl
  | case2 seen id rest ih => rw [readOrder, any_same_congr same, ih]
  | case3 seen v rest other ih => rw [readOrder.eq_3 _ _ _ _ _ other, ih]

/-- The profiles depend on the ids of the reflexes only as a set. -/
theorem readProfiles_congr
    (section_ : Value.field? doc "profiles" = Value.field? doc' "profiles")
    (same : ∀ id, id ∈ ids ↔ id ∈ ids') :
  readProfiles doc ids = readProfiles doc' ids'
  := by
  have entry : readProfile ids = readProfile ids' := by
    funext e
    simp only [readProfile, readOrder_congr same]
  rw [readProfiles, readProfiles, readSection_congr section_, entry]

/-- The handshake defaults depend on the names of the profiles only as a set. -/
theorem readHandshakeDefaults_congr
    (section_ : Value.field? doc "handshake_defaults" = Value.field? doc' "handshake_defaults")
    (same : ∀ name, name ∈ names ↔ name ∈ names') :
  readHandshakeDefaults doc names = readHandshakeDefaults doc' names'
  := by
  have empty : names.isEmpty = names'.isEmpty := by
    rw [Bool.eq_iff_iff, List.isEmpty_iff, List.isEmpty_iff, List.eq_nil_iff_forall_not_mem,
      List.eq_nil_iff_forall_not_mem]
    simp only [same]
  simp only [readHandshakeDefaults, readSettings_congr section_, empty, any_same_congr same]

end

/-! ### Parts -/

/-- A part of a document that can have problems. -/
inductive Part where
  | version
  | tiers
  | modes
  | reflexes
  | profiles
  | contextDecay
  | handshakeDefaults
  | failureSemantics
  | telemetry
  deriving DecidableEq

/-- What the parts know of each other: the ids of the reflexes and the names of the profiles. -/
structure Known where
  ids : List Scalar
  names : List Scalar

namespace Part

/-- The parts in the order in which they are read. -/
def all : List Part :=
  [version, tiers, modes, reflexes, profiles, contextDecay, handshakeDefaults, failureSemantics,
    telemetry]

/-- The key under which a part stands. -/
def key : Part → String
  | version => "codex_version"
  | tiers => "tiers"
  | modes => "modes"
  | reflexes => "reflexes"
  | profiles => "profiles"
  | contextDecay => "context_decay"
  | handshakeDefaults => "handshake_defaults"
  | failureSemantics => "failure_semantics"
  | telemetry => "telemetry"

/-- The value of a part in a document, if the document has the part. -/
def raw? (part : Part) (doc : Entries Scalar Value) : Option Value := Value.field? doc part.key

/-- The document that has at most this part. -/
def alone (part : Part) (raw : Option Value) : Entries Scalar Value :=
  raw.toList.map fun v => (.text part.key, v)

/-- The problems of a part in a document. -/
def problemsIn (known : Known) (doc : Entries Scalar Value) : Part → List Problem
  | version => (readVersion doc).problems
  | tiers => (readTiers doc).problems
  | modes => (readModes doc).problems
  | reflexes => (readReflexes doc).problems
  | profiles => (readProfiles doc known.ids).problems
  | contextDecay => (readContextDecay doc).problems
  | handshakeDefaults => (readHandshakeDefaults doc known.names).problems
  | failureSemantics => (readFailureSemantics doc).problems
  | telemetry => (readTelemetry doc).problems

/-- The problems of a part by itself: its value is all that is read. -/
def problems (part : Part) (known : Known) (raw : Option Value) : List Problem :=
  part.problemsIn known (part.alone raw)

variable {part : Part} {known known' : Known} {doc doc' : Entries Scalar Value}

theorem mem_all (part : Part) :
  part ∈ all
  := by cases part <;> decide

theorem raw?_alone (part : Part) (raw : Option Value) :
  part.raw? (part.alone raw) = raw
  := by
  cases raw with
  | none => rfl
  | some v => simp [raw?, alone, Value.field?, Entries.get?, Scalar.beq_names]

/-- The problems of a part depend on its own value, the profiles on the set of ids, and the
handshake defaults on the set of names. -/
theorem problemsIn_congr (same : part.raw? doc = part.raw? doc')
    (ids : part = profiles → ∀ id, id ∈ known.ids ↔ id ∈ known'.ids)
    (names : part = handshakeDefaults → ∀ name, name ∈ known.names ↔ name ∈ known'.names) :
  part.problemsIn known doc = part.problemsIn known' doc'
  := by
  cases part with
  | version => rw [problemsIn, readVersion_congr same, problemsIn]
  | tiers => rw [problemsIn, readTiers_congr same, problemsIn]
  | modes => rw [problemsIn, readModes_congr same, problemsIn]
  | reflexes => rw [problemsIn, readReflexes_congr same, problemsIn]
  | profiles => rw [problemsIn, readProfiles_congr same (ids rfl), problemsIn]
  | contextDecay => rw [problemsIn, readContextDecay_congr same, problemsIn]
  | handshakeDefaults =>
    rw [problemsIn, readHandshakeDefaults_congr same (names rfl), problemsIn]
  | failureSemantics => rw [problemsIn, readFailureSemantics_congr same, problemsIn]
  | telemetry => rw [problemsIn, readTelemetry_congr same, problemsIn]

theorem problems_raw? (part : Part) (known : Known) (doc : Entries Scalar Value) :
  part.problems known (part.raw? doc) = part.problemsIn known doc
  := by
  apply problemsIn_congr (raw?_alone _ _)
  · intro _ _
    rfl
  · intro _ _
    rfl

end Part

/-! ### Whole documents -/

/-- The ids of the reflexes that are read from a document. -/
def idsOf (doc : Entries Scalar Value) : List Scalar :=
  Entries.keys ((readReflexes doc).value?.getD [])

/-- What the parts of a document know of each other. -/
def known (doc : Entries Scalar Value) : Known where
  ids := idsOf doc
  names := Entries.keys ((readProfiles doc (idsOf doc)).value?.getD [])

/-- The problems of the parts of a document, each by itself, one part after another. -/
def collected (doc : Entries Scalar Value) : List Problem :=
  Part.all.flatMap fun part => part.problems (known doc) (part.raw? doc)

variable {doc doc' : Entries Scalar Value}

/-- Documents with the same reflexes and profiles have parts that know the same. -/
theorem known_congr (reflexes : Part.reflexes.raw? doc = Part.reflexes.raw? doc')
    (profiles : Part.profiles.raw? doc = Part.profiles.raw? doc') :
  known doc = known doc'
  := by
  have ids : idsOf doc = idsOf doc' := by rw [idsOf, idsOf, readReflexes_congr reflexes]
  rw [known, known, ids, readProfiles_congr profiles fun _ => Iff.rfl]

/-- What is met when a document is read is what its parts meet by themselves. -/
theorem collected_of_meets {c : Codex} {problems : List Problem}
    (meets : (Codex.read doc).Meets c problems) :
  problems = collected doc
  := by
  simp only [Codex.read, meets_bind, meets_pure] at meets
  obtain ⟨version, _, _, ofVersion, ⟨tiers, _, _, ofTiers, ⟨modes, _, _, ofModes,
    ⟨reflexes, _, _, ofReflexes, ⟨profiles, _, _, ofProfiles, ⟨decay, _, _, ofDecay,
    ⟨defaults, _, _, ofDefaults, ⟨failures, _, _, ofFailures, ⟨telemetry, _, _, ofTelemetry,
    ⟨-, rfl⟩, rfl⟩, rfl⟩, rfl⟩, rfl⟩, rfl⟩, rfl⟩, rfl⟩, rfl⟩, rfl⟩ := meets
  have ids : idsOf doc = Entries.keys reflexes := by
    rw [idsOf, ofReflexes.value?_eq, Option.getD_some]
  have names : (known doc).names = Entries.keys profiles := by
    rw [known, ids, ofProfiles.value?_eq, Option.getD_some]
  rw [← ids] at ofProfiles
  rw [← names] at ofDefaults
  simp only [collected, Part.problems_raw?, Part.all, List.flatMap_cons, List.flatMap_nil,
    Part.problemsIn, ofVersion.problems_eq, ofTiers.problems_eq, ofModes.problems_eq,
    ofReflexes.problems_eq, show (known doc).ids = idsOf doc from rfl, ofProfiles.problems_eq,
    ofDecay.problems_eq, ofDefaults.problems_eq, ofFailures.problems_eq, ofTelemetry.problems_eq]

theorem meets_of_invalid {problems : List Problem}
    (invalid : ofValue (.map doc) = .error (.invalidCodex problems)) :
  ∃ c, (Codex.read doc).Meets c problems
  := by
  rw [ofValue, ofEntries] at invalid
  split at invalid
  · cases invalid
  · cases invalid
  · split at invalid <;> cases invalid
  · rename_i c _ _ given
    cases invalid
    exact ⟨c, given⟩

/-- The problems of an invalid document are those of its parts, each by itself, in the order of the
parts, and a codex is loaded only if no part has any. -/
theorem collected_of_ofValue (doc : Entries Scalar Value) :
  (∀ problems, ofValue (.map doc) = .error (.invalidCodex problems) → problems = collected doc)
    ∧ ∀ c, ofValue (.map doc) = .ok c → collected doc = []
  := by
  constructor
  · intro problems invalid
    obtain ⟨c, meets⟩ := meets_of_invalid invalid
    exact collected_of_meets meets
  · intro c loaded
    obtain ⟨_, same, given⟩ := gives_of_ofValue loaded
    cases same
    exact (collected_of_meets given).symm

/-- A document that is refused has the problems of its parts, unless a whole number of it breaks the
reading off. -/
theorem collected_of_refused {f : Fault} (refused : ofValue (.map doc) = .error f) :
  f = .invalidCodex (collected doc) ∨ (Value.map doc).Overtaxes f
  := by
  obtain ⟨c, loaded⟩ | ⟨f', refused', ⟨problems, -, rfl⟩ | overtaxes⟩ := loads_ofValue (.map doc)
  · rw [loaded] at refused
    cases refused
  · rw [refused] at refused'
    cases refused'
    rw [(collected_of_ofValue doc).1 problems refused]
    exact .inl rfl
  · rw [refused] at refused'
    cases refused'
    exact .inr overtaxes

/-! ### A change to one part -/

variable {part other : Part}

/-- A part that the others know nothing of can be changed without a change to their problems. -/
theorem problems_of_others (reflexes : part ≠ .reflexes) (profiles : part ≠ .profiles)
    (same : ∀ other ≠ part, other.raw? doc' = other.raw? doc) (apart : other ≠ part) :
  other.problems (known doc') (other.raw? doc') = other.problems (known doc) (other.raw? doc)
  := by
  have known : known doc' = known doc :=
    known_congr (same .reflexes reflexes.symm) (same .profiles profiles.symm)
  rw [known, same other apart]

theorem Part.split_all (part : Part) :
  ∃ before after, all = before ++ part :: after ∧ ∀ other ∈ before ++ after, other ≠ part
  := by
  obtain ⟨before, after, split⟩ := List.append_of_mem part.mem_all
  refine ⟨before, after, split, ?_⟩
  have nodup : all.Nodup := by decide
  rw [split, List.perm_middle.nodup_iff, List.nodup_cons] at nodup
  rintro other mem rfl
  exact nodup.1 mem

theorem collected_split (reflexes : part ≠ .reflexes) (profiles : part ≠ .profiles)
    (same : ∀ other ≠ part, other.raw? doc' = other.raw? doc) :
  ∃ before after,
    collected doc = before ++ part.problems (known doc) (part.raw? doc) ++ after
      ∧ collected doc' = before ++ part.problems (known doc') (part.raw? doc') ++ after
  := by
  obtain ⟨before, after, split, apart⟩ := part.split_all
  let own : Entries Scalar Value → Part → List Problem := fun doc part =>
    part.problems (known doc) (part.raw? doc)
  have unchanged (parts : List Part) (others : ∀ other ∈ parts, other ≠ part) :
      parts.flatMap (own doc') = parts.flatMap (own doc) := by
    rw [List.flatMap, List.flatMap]
    congr 1
    apply List.map_congr_left
    intro other mem
    apply problems_of_others reflexes profiles same (others other mem)
  have middle (doc : Entries Scalar Value) :
      collected doc = before.flatMap (own doc) ++ own doc part ++ after.flatMap (own doc) := by
    rw [collected, split, List.flatMap_append, List.flatMap_cons, List.append_assoc]
  use before.flatMap (own doc), after.flatMap (own doc), middle doc
  rw [middle doc', unchanged before fun other mem => apart other (List.mem_append_left _ mem),
    unchanged after fun other mem => apart other (List.mem_append_right _ mem)]

/-- The problems of an invalid document are those of its parts, each by itself, in the order of the
parts: nothing else makes a document be refused but a whole number that breaks the reading off, and
a codex is loaded only if no part has a problem.  What the parts know of each other matters to the
profiles and the handshake defaults only, and as a set.  So if two documents differ in one part,
which is neither the reflexes nor the profiles, every other part has the same problems in both of
them, and those stand in the same order before and behind the problems of the part that differs. -/
theorem problems_apart (doc : Entries Scalar Value) :
  (∀ f, ofValue (.map doc) = .error f →
      f = .invalidCodex (collected doc) ∨ (Value.map doc).Overtaxes f)
    ∧ (∀ problems, ofValue (.map doc) = .error (.invalidCodex problems) → problems = collected doc)
    ∧ (∀ c, ofValue (.map doc) = .ok c → collected doc = [])
    ∧ (∀ (part : Part) (other : Known),
      (part = .profiles → ∀ id, id ∈ other.ids ↔ id ∈ (known doc).ids) →
      (part = .handshakeDefaults → ∀ name, name ∈ other.names ↔ name ∈ (known doc).names) →
      part.problems other (part.raw? doc) = part.problems (known doc) (part.raw? doc))
    ∧ ∀ (doc' : Entries Scalar Value) (part : Part), part ≠ .reflexes → part ≠ .profiles →
      (∀ other ≠ part, other.raw? doc' = other.raw? doc) →
      (∀ other ≠ part, other.problems (known doc') (other.raw? doc')
        = other.problems (known doc) (other.raw? doc))
      ∧ ∃ before after,
        collected doc = before ++ part.problems (known doc) (part.raw? doc) ++ after
        ∧ collected doc' = before ++ part.problems (known doc') (part.raw? doc') ++ after
  := by
  obtain ⟨ofInvalid, ofLoaded⟩ := collected_of_ofValue doc
  refine ⟨fun f => collected_of_refused, ofInvalid, ofLoaded, ?known, ?change⟩
  case known =>
    intro part other ids names
    apply Part.problemsIn_congr rfl ids names
  case change =>
    intro doc' part reflexes profiles same
    constructor
    · intro other apart
      apply problems_of_others reflexes profiles same apart
    · apply collected_split reflexes profiles same

/-- A document with problems in its version, its profiles and its telemetry, and some section of
context decay. -/
def miswritten (decay : Value) : Entries Scalar Value :=
  (smallDocumentWith [("codex_version", .text "v2"),
    ("profiles", .ofFields [("default", .list [.text "lost", .text "claim", .text "claim"])]),
    ("context_decay", decay),
    ("telemetry", .ofFields [("redact_fields", .text "input")])]).entries?.getD []

/-- The document is invalid, with so many problems. -/
def countsProblems (count : Nat) : Fault → Bool
  | .invalidCodex problems => problems.length == count
  | _ => false

theorem invalid_of_counted (doc : Entries Scalar Value) (count : Nat)
    (counted : fails (countsProblems count) (ofValue (.map doc)) = true) :
  ∃ problems, ofValue (.map doc) = .error (.invalidCodex problems) ∧ problems.length = count
  := by
  obtain ⟨f, failed, counts⟩ := exists_of_fails counted
  rw [countsProblems.eq_def] at counts
  split at counts
  · rename_i problems
    exact ⟨problems, failed, beq_iff_eq.mp counts⟩
  · cases counts

set_option maxRecDepth 4000 in
theorem problems_apart_miswritten :
  ∃ problems problems' before after,
    ofValue (.map (miswritten (.ofFields [("on_expire", .text "never")])))
      = .error (.invalidCodex problems) ∧ problems.length = 7
    ∧ ofValue (.map (miswritten .null)) = .error (.invalidCodex problems') ∧ problems'.length = 5
    ∧ problems = before ++ Part.contextDecay.problems
        (known (miswritten (.ofFields [("on_expire", .text "never")])))
        (some (.ofFields [("on_expire", .text "never")])) ++ after
    ∧ problems' = before
      ++ Part.contextDecay.problems (known (miswritten .null)) (some .null) ++ after
  := by
  obtain ⟨problems, invalid, length⟩ := invalid_of_counted
    (miswritten (.ofFields [("on_expire", .text "never")])) 7 (by decide +kernel)
  obtain ⟨problems', invalid', length'⟩ := invalid_of_counted (miswritten .null) 5
    (by decide +kernel)
  have others (other : Part) (apart : other ≠ .contextDecay) :
      other.raw? (miswritten .null)
        = other.raw? (miswritten (.ofFields [("on_expire", .text "never")])) := by
    cases other with
    | contextDecay => exact absurd rfl apart
    | _ => rfl
  obtain ⟨-, ofInvalid, -, -, change⟩ :=
    problems_apart (miswritten (.ofFields [("on_expire", .text "never")]))
  obtain ⟨-, ofInvalid', -⟩ := problems_apart (miswritten .null)
  obtain ⟨-, before, after, first, second⟩ := change _ .contextDecay (by decide) (by decide) others
  rw [← ofInvalid problems invalid] at first
  rw [← ofInvalid' problems' invalid'] at second
  exact ⟨problems, problems', before, after, invalid, length, invalid', length', first, second⟩

end Codex

end ReflexPolicy

import ReflexPolicy.Proofs.Yaml.Stopping
import ReflexPolicy.Yaml.Document

/-!
# Faults of reading YAML

A supply that is not read as YAML is malformed, breaks off, or holds a scalar that is spelled like a
value that there is not.  A text never breaks off at bytes that cannot be decoded, and a file breaks
off at nothing else.
-/

namespace ReflexPolicy.Yaml

/-! ### Plain scalars -/

namespace Plain

variable {cs : List Char} {cause : Fault}

theorem tooLarge_of_sumOfSixtieths {power : Nat} {sum : Binary64} {xs : List Binary64}
    (h : sumOfSixtieths power sum xs = .error cause) :
  cause = .tooLarge
  := by
  induction xs generalizing power sum with
  | nil => cases h
  | cons x xs ih =>
    rw [sumOfSixtieths, roundedPower] at h
    cases given : Binary64.ofInt? power with
    | none =>
      rw [given] at h
      cases h
      rfl
    | some b =>
      rw [given] at h
      exact ih h

theorem tooLarge_of_sixtieths (h : sixtiethsWithPoint? cs = some (.error cause)) :
  cause = .tooLarge
  := by
  rw [sixtiethsWithPoint?] at h
  split at h
  · split at h
    · split at h
      · rw [Option.map_eq_some_iff] at h
        obtain ⟨x, -, sum⟩ := h
        apply tooLarge_of_sumOfSixtieths sum
      · cases h
    · cases h
  · cases h

theorem tooLarge_of_pointBody? {hasSign negative : Bool}
    (h : pointBody? hasSign negative cs = some (.error cause)) :
  cause = .tooLarge
  := by
  have sound (x : Option Binary64) : x.map Except.ok ≠ some (.error cause) := by
    cases x <;> simp
  rw [pointBody?.eq_def] at h
  split at h
  · cases h
  split at h
  · cases h
  split at h
  · split at h
    · exact absurd h (sound _)
    · cases h
  · dsimp only at h
    split at h
    · split at h
      · exact absurd h (sound _)
      · cases h
    · rw [Option.map_eq_some_iff] at h
      obtain ⟨found, given, failed⟩ := h
      cases found with
      | ok x => cases failed
      | error cause' =>
        cases failed
        apply tooLarge_of_sixtieths given

/-- A plain scalar that has no value is spelled like one. -/
theorem misspells_of_value (h : value cs = .error cause) :
  Misspells cause
  := by
  rw [value] at h
  split at h
  · cases h
  split at h
  · rename_i found given
    cases found with
    | ok x => cases h
    | error cause' =>
      cases h
      obtain rfl := tooLarge_of_pointBody? given
      exact .tooLarge
  split at h
  · rw [wholeValue] at h
    split at h
    · cases h
      exact .noDigits _
    split at h
    · rename_i many
      cases h
      exact .tooManyDigits many
    · cases h
  split at h
  · cases h
  · cases h
    exact .calendar _
  · cases h

end Plain

variable {stop : Option ReadFault} {α β : Type}

theorem reads_plainValue (cs : List Char) :
  Reads stop (plainValue cs) fun _ => True
  := by
  rw [plainValue]
  split
  · exact reads_malformed
  · split
    · trivial
    · rename_i cause failed
      exact Stops.misspelt (Plain.misspells_of_value failed)

theorem reads_keyOf (n : Node) :
  Reads stop (keyOf n) fun _ => True
  := by
  rw [keyOf.eq_def]
  split
  · trivial
  · rename_i cs
    split
    · trivial
    · have plain : Reads stop (plainValue cs) fun _ => True := reads_plainValue cs
      split
      · trivial
      · exact reads_malformed
      · rename_i fault failed
        rw [failed] at plain
        exact plain
  · exact reads_malformed

/-! ### Values of nodes -/

-- A value is made of nodes after all tokens have been read, so that the supply does not break off
-- there any more.  Keeping the rule for any stop saves a second notion of a fault.

/-- What is found wrong may stop a reading.  The level where it is found does not matter. -/
def Finds (stop : Option ReadFault) (x : Except Found α) : Prop :=
  ∀ found, x = .error found → Stops stop found.fault

theorem finds_ok (a : α) :
  Finds stop (.ok a)
  := by
  intro found h
  cases h

theorem finds_error {found : Found} (h : Stops stop found.fault) :
  Finds stop (.error found : Except Found α)
  := by
  intro found' given
  cases given
  apply h

theorem finds_map {x : Except Found α} (h : Finds stop x) (f : α → β) :
  Finds stop (x.map f)
  := by
  cases x with
  | ok a => apply finds_ok
  | error found => apply finds_error (h found rfl)

theorem finds_foundAt (level : Nat) {x : Except ReadFault α} (h : Reads stop x fun _ => True) :
  Finds stop (foundAt level x)
  := by
  cases x with
  | ok a => apply finds_ok
  | error fault => exact finds_error h

theorem finds_both {x : Except Found α} {y : Except Found β} (first : Finds stop x)
    (second : Finds stop y) :
  Finds stop (both x y)
  := by
  cases x with
  | ok a =>
    cases y with
    | ok b => apply finds_ok
    | error found => apply finds_error (second found rfl)
  | error found =>
    cases y with
    | ok b => apply finds_error (first found rfl)
    | error found' =>
      rw [both]
      split
      · apply finds_error (second found' rfl)
      · apply finds_error (first found rfl)

theorem finds_chain {x y : Except Found (List (Scalar × Value))} (first : Finds stop x)
    (second : Finds stop y) :
  Finds stop (chain x y)
  := finds_map (finds_both first second) _

mutual

theorem finds_valueOf (level : Nat) (n : Node) :
  Finds stop (valueOf level n)
  := by
  cases n with
  | text t =>
    rw [valueOf]
    apply finds_ok
  | plain cs =>
    rw [valueOf]
    apply finds_foundAt level (reads_plainValue cs)
  | list items =>
    rw [valueOf]
    apply finds_map (finds_itemsOf (level + 1) items)
  | map entries =>
    rw [valueOf]
    split
    · apply finds_map
      apply finds_chain (finds_mergedOf (level + 1) entries) (finds_ownOf (level + 1) entries)
    · exact finds_error .malformed

theorem finds_itemsOf (level : Nat) (items : List Node) :
  Finds stop (itemsOf level items)
  := by
  cases items with
  | nil =>
    rw [itemsOf]
    apply finds_ok
  | cons n ns =>
    rw [itemsOf]
    apply finds_map
    apply finds_both (finds_valueOf level n) (finds_itemsOf level ns)

theorem finds_ownOf (level : Nat) (entries : List (Node × Node)) :
  Finds stop (ownOf level entries)
  := by
  cases entries with
  | nil =>
    rw [ownOf]
    apply finds_ok
  | cons e rest =>
    obtain ⟨k, n⟩ := e
    rw [ownOf]
    split
    · apply finds_ownOf level rest
    · apply finds_map
      apply finds_both _ (finds_ownOf level rest)
      apply finds_both (finds_foundAt level (reads_keyOf k)) (finds_valueOf level n)

theorem finds_mergedOf (level : Nat) (entries : List (Node × Node)) :
  Finds stop (mergedOf level entries)
  := by
  cases entries with
  | nil =>
    rw [mergedOf]
    apply finds_ok
  | cons e rest =>
    obtain ⟨k, n⟩ := e
    rw [mergedOf]
    split
    · apply finds_chain (finds_givenBy level n) (finds_mergedOf level rest)
    · apply finds_mergedOf level rest

theorem finds_givenBy (level : Nat) (n : Node) :
  Finds stop (givenBy level n)
  := by
  cases n with
  | map entries =>
    rw [givenBy]
    apply finds_chain (finds_mergedOf level entries) (finds_ownOf level entries)
  | list items =>
    rw [givenBy]
    apply finds_givenByAll level items
  | text t =>
    rw [givenBy]
    · exact finds_error .malformed
    all_goals nofun
  | plain cs =>
    rw [givenBy]
    · exact finds_error .malformed
    all_goals nofun

theorem finds_givenByAll (level : Nat) (items : List Node) :
  Finds stop (givenByAll level items)
  := by
  cases items with
  | nil =>
    rw [givenByAll]
    apply finds_ok
  | cons n ns =>
    rw [givenByAll]
    apply finds_chain (finds_givenByAll level ns) (finds_givenBy level n)

end

/-! ### Documents -/

theorem reads_ofTokens {ts : Tokens} (h : ∀ fault, ts.stopped = some fault → Stops stop fault) :
  Reads stop (Node.ofTokens ts) fun _ => True
  := by
  rw [Node.ofTokens]
  split
  · trivial
  · exact reads_malformed
  · exact reads_malformed
  · rename_i fault stopped _
    apply h fault stopped

/-! ### Supplies -/

theorem stop_ofPieces (stop : Option ReadFault) (pieces : List (List Char)) :
  (Supply.ofPieces stop pieces).stop = stop ∨ (Supply.ofPieces stop pieces).stop = some .malformed
  := by
  induction pieces with
  | nil =>
    rw [Supply.ofPieces]
    exact .inl rfl
  | cons piece rest ih =>
    rw [Supply.ofPieces]
    split
    · exact ih
    · exact .inr rfl

/-- A text does not break off at bytes. -/
theorem stop_ofText_ne_unusable (cs : List Char) (cause : Fault) :
  (Supply.ofText cs).stop ≠ some (.unusable cause)
  := by
  rw [Supply.ofText]
  obtain none | malformed := stop_ofPieces none [cs]
  · rw [none]
    simp
  · rw [malformed]
    simp

/-- A file breaks off at bytes only where they cannot be decoded. -/
theorem undecodable_of_stop_ofBytes {bytes : List UInt8} {cause : Fault}
    (stopped : (Supply.ofBytes bytes).stop = some (.unusable cause)) :
  ∃ reason, (TextStream.portionsOf bytes).2 = some reason ∧ cause = .undecodable reason
  := by
  rw [Supply.ofBytes] at stopped
  split at stopped
  · rename_i first second rest reason? given
    rw [given]
    obtain same | malformed := stop_ofPieces (reason?.map fun cause => .unusable (.undecodable cause))
      ((first ++ second) :: rest)
    · rw [same, Option.map_eq_some_iff] at stopped
      obtain ⟨reason, rfl, equal⟩ := stopped
      injection equal with equal
      exact ⟨reason, rfl, equal.symm⟩
    · rw [malformed] at stopped
      cases stopped
  · rename_i reason _ given
    rw [given]
    cases stopped
    exact ⟨reason, rfl, rfl⟩
  · rename_i portions _ _
    obtain none | malformed := stop_ofPieces none portions
    · rw [none] at stopped
      cases stopped
    · rw [malformed] at stopped
      cases stopped

theorem stop_withoutMark (s : Supply) :
  s.withoutMark.stop = s.stop
  := by
  rw [Supply.withoutMark]
  split
  · split <;> rfl
  · rfl

/-- A supply is read as YAML, or reading it is stopped. -/
theorem reads_read (s : Supply) :
  Reads s.stop (read s) fun _ => True
  := by
  rw [← stop_withoutMark, read]
  apply reads_bind (reads_ofTokens fun fault => stops_of_ofSupply)
  intro n _
  have found : Finds s.withoutMark.stop (valueOf 0 n) := finds_valueOf 0 n
  split
  · trivial
  · rename_i wrong given
    exact found wrong given

end ReflexPolicy.Yaml

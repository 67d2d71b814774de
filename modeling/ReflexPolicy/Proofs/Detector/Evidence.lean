import Mathlib.Tactic.Common
import ReflexPolicy.Detector
import ReflexPolicy.Proofs.Binary64.Order

/-!
# What findings say

A finding says something when it gives a reflex and a score, or when its score is a number beyond
the format.  The scores that are collected from findings depend on what the findings say only: they
give each reflex the highest of its scores, whatever the order of the findings and however often
each of them is there.
-/

namespace ReflexPolicy

/-! ### Malformed findings -/

namespace Finding

/-- The id is not a text, or the score is no number. -/
def IsMalformed (f : Finding) : Prop :=
  (∀ id, f.reflexId ≠ .text id) ∨ (∀ n, f.score ≠ .number n) ∨ f.score = .float .nan

/-- The score is not a number beyond the format. -/
def IsInRange (f : Finding) : Prop := ∀ n, f.score = .number n → n.toBinary64? ≠ none

variable {f : Finding}

theorem number?_of_not_number {v : Value} (h : ∀ n, v ≠ .number n) :
  v.number? = none
  := by
  rw [Option.eq_none_iff_forall_ne_some]
  intro n number
  exact h n (Value.number?_eq_some_iff.mp number)

theorem text?_of_not_text {v : Value} (h : ∀ id, v ≠ .text id) :
  v.text? = none
  := by
  rw [Value.text?.eq_def]
  split
  · exact absurd rfl (h _)
  · rfl

/-- A finding whose id is a text and whose score is no number gives nothing. -/
theorem entry?_of_isMalformed (malformed : f.IsMalformed) :
  f.entry? = .ok none
  := by
  rw [ entry?]
  cases named : f.reflexId.text? with
  | none => rfl
  | some id =>
    obtain unnamed | unscored | nan := malformed
    · rw [text?_of_not_text unnamed] at named
      cases named
    · rw [scoreNumber, number?_of_not_number unscored]
      rfl
    · rw [scoreNumber, nan]
      rfl

/-- The only fault of a finding is a number beyond the format. -/
theorem entry?_error {e : Fault} (failed : f.entry? = .error e) :
  e = .tooLarge ∧ ¬f.IsInRange
  := by
  rw [ entry?] at failed
  split at failed
  · cases failed
  · cases scored : f.scoreNumber with
    | ok x =>
      rw [scored] at failed
      cases failed
    | error e' =>
      rw [scored] at failed
      cases failed
      rw [scoreNumber] at scored
      split at scored
      · cases scored
      · rename_i n number
        split at scored
        · rename_i beyond
          cases scored
          use rfl
          intro inRange
          exact inRange n (Value.number?_eq_some_iff.mp number) beyond
        · cases scored

/-- The score that a finding gives is one of the unit interval, without a minus sign. -/
theorem unit_of_entry? {id : Text} {x : Binary64} (given : f.entry? = .ok (some (id, x))) :
  x.isUnit = true ∧ x.IsUnsigned
  := by
  rw [ entry?] at given
  split at given
  · cases given
  · cases scored : f.scoreNumber with
    | error e =>
      rw [scored] at given
      cases given
    | ok found =>
      rw [scored] at given
      cases found with
      | none => cases given
      | some y =>
        cases given
        exact ⟨Binary64.isUnit_clampUnit y, Binary64.isUnsigned_clampUnit y⟩

end Finding

/-! ### The same evidence -/

/-- Two lists of findings say the same. -/
def SameEvidence (fs fs' : List Finding) : Prop :=
  ∀ said, said ≠ .ok none → ((∃ f ∈ fs, f.entry? = said) ↔ ∃ f ∈ fs', f.entry? = said)

theorem sameEvidence_equivalence :
  Equivalence SameEvidence
  where
  refl _ _ _ := Iff.rfl
  symm same said something := (same said something).symm
  trans same same' said something := (same said something).trans (same' said something)

/-- Findings of the same members say the same. -/
theorem sameEvidence_of_mem {fs fs' : List Finding}
    (same : ∀ f, f.entry? ≠ .ok none → (f ∈ fs ↔ f ∈ fs')) :
  SameEvidence fs fs'
  := by
  intro said something
  constructor
  · rintro ⟨f, mem, rfl⟩
    exact ⟨f, (same f something).mp mem, rfl⟩
  · rintro ⟨f, mem, rfl⟩
    exact ⟨f, (same f something).mpr mem, rfl⟩

/-! ### The scores of some findings -/

/-- The scores are those that the findings give to their reflexes, and the highest of them. -/
structure Collects (fs : List Finding) (scores : Entries Text Binary64) : Prop where
  given : ∀ e ∈ scores, ∃ f ∈ fs, f.entry? = .ok (some e)
  bounded : ∀ f ∈ fs, ∀ id x, f.entry? = .ok (some (id, x)) →
    ∃ y, Entries.get? scores id = some y ∧ x.le y = true

variable {fs fs' : List Finding} {scores scores' : Entries Text Binary64}

theorem collects_nil :
  Collects [] []
  where
  given := by simp
  bounded := by simp

theorem Collects.attained (collects : Collects fs scores) {id : Text} {y : Binary64}
    (found : Entries.get? scores id = some y) :
  ∃ f ∈ fs, f.entry? = .ok (some (id, y))
  := by
  obtain ⟨id', same, mem⟩ := Entries.mem_of_get? found
  rw [← eq_of_beq same]
  exact collects.given _ mem

theorem Collects.unit (collects : Collects fs scores) :
  ∀ e ∈ scores, e.2.isUnit = true
  := by
  intro e mem
  obtain ⟨f, -, given⟩ := collects.given e mem
  exact (Finding.unit_of_entry? given).1

theorem mem_of_mem_raiseScore {id : Text} {x : Binary64} {e : Text × Binary64}
    (mem : e ∈ raiseScore scores id x) :
  e ∈ scores ∨ e = (id, x)
  := by
  rw [raiseScore] at mem
  split at mem
  · split at mem
    · exact Entries.mem_of_mem_put mem
    · exact .inl mem
  · exact Entries.mem_of_mem_put mem

/-- A raised score lies above the one before it and above the one that raised it. -/
theorem le_raiseScore (units : ∀ e ∈ scores, e.2.isUnit = true) {id : Text} {x : Binary64}
    (unit : x.isUnit = true) :
  ∃ y, Entries.get? (raiseScore scores id x) id = some y ∧ x.le y = true
    ∧ ∀ z, Entries.get? scores id = some z → z.le y = true
  := by
  have number : x.isNan = false := Binary64.isNan_of_isUnit unit
  rw [raiseScore]
  cases before : Entries.get? scores id with
  | none => exact ⟨x, by simp [Entries.get?_put], Binary64.le_refl number, by simp⟩
  | some y =>
    obtain ⟨id', -, mem⟩ := Entries.mem_of_get? before
    have number' : y.isNan = false := Binary64.isNan_of_isUnit (units _ mem)
    cases under : y.lt x with
    | true =>
      refine ⟨x, by simp [under, Entries.get?_put], Binary64.le_refl number, ?_⟩
      rintro z ⟨⟩
      exact Binary64.le_of_lt under
    | false =>
      have above := (Binary64.lt_eq_false_iff number' number).mp under
      refine ⟨y, by simpa [under] using before, above, ?_⟩
      rintro z ⟨⟩
      exact Binary64.le_refl number'

/-- Raising the score of one reflex leaves the others as they are. -/
theorem get?_raiseScore_of_ne (scores : Entries Text Binary64) {id id' : Text} (x : Binary64)
    (ne : id ≠ id') :
  Entries.get? (raiseScore scores id x) id' = Entries.get? scores id'
  := by
  rw [raiseScore]
  split
  · split
    · simp [Entries.get?_put, ne]
    · rfl
  · simp [Entries.get?_put, ne]

/-- No score falls when one is raised. -/
theorem exists_le_raiseScore (units : ∀ e ∈ scores, e.2.isUnit = true) {id id' : Text}
    {x y : Binary64} (unit : x.isUnit = true) (found : Entries.get? scores id' = some y) :
  ∃ z, Entries.get? (raiseScore scores id x) id' = some z ∧ y.le z = true
  := by
  by_cases same : id = id'
  · subst same
    obtain ⟨z, found', -, above⟩ := le_raiseScore units unit
    exact ⟨z, found', above y found⟩
  · rw [get?_raiseScore_of_ne scores x same]
    obtain ⟨id'', -, mem⟩ := Entries.mem_of_get? found
    exact ⟨y, found, Binary64.le_refl (Binary64.isNan_of_isUnit (units _ mem))⟩

/-- One more finding that gives nothing changes nothing. -/
theorem Collects.passed (collects : Collects fs scores) {f : Finding}
    (silent : f.entry? = .ok none) :
  Collects (fs ++ [f]) scores
  where
  given e mem := by
    obtain ⟨g, mem, given⟩ := collects.given e mem
    exact ⟨g, List.mem_append_left _ mem, given⟩
  bounded g mem id x given := by
    obtain mem | rfl := (by simpa using mem : g ∈ fs ∨ g = f)
    · exact collects.bounded g mem id x given
    · rw [silent] at given
      cases given

/-- One more finding raises the score that it gives. -/
theorem Collects.raised (collects : Collects fs scores) {f : Finding} {id : Text} {x : Binary64}
    (gives : f.entry? = .ok (some (id, x))) :
  Collects (fs ++ [f]) (raiseScore scores id x)
  where
  given e mem := by
    obtain mem | rfl := mem_of_mem_raiseScore mem
    · obtain ⟨g, mem, given⟩ := collects.given e mem
      exact ⟨g, List.mem_append_left _ mem, given⟩
    · exact ⟨f, by simp, gives⟩
  bounded g mem id' y given := by
    have unit := (Finding.unit_of_entry? gives).1
    obtain mem | rfl := (by simpa using mem : g ∈ fs ∨ g = f)
    · obtain ⟨z, found, le⟩ := collects.bounded g mem id' y given
      obtain ⟨z', found', le'⟩ := exists_le_raiseScore collects.unit unit found
      exact ⟨z', found', Binary64.le_trans le le'⟩
    · rw [gives] at given
      cases given
      obtain ⟨z, found, le, -⟩ := le_raiseScore collects.unit unit
      exact ⟨z, found, le⟩

/-- Collecting goes on from the scores of the findings before, unless one of the others is beyond
the format. -/
theorem collectFrom_cases (collects : Collects fs scores) (rest : List Finding) :
  (∃ scores', collectFrom scores rest = .ok scores' ∧ Collects (fs ++ rest) scores'
      ∧ ∀ f ∈ rest, f.entry? ≠ .error .tooLarge)
    ∨ collectFrom scores rest = .error .tooLarge ∧ ∃ f ∈ rest, f.entry? = .error .tooLarge
  := by
  induction rest generalizing fs scores with
  | nil => exact .inl ⟨scores, rfl, by simpa using collects, by simp⟩
  | cons f rest ih =>
    rw [List.append_cons]
    cases gave : f.entry? with
    | error e =>
      obtain ⟨rfl, -⟩ := Finding.entry?_error gave
      exact .inr ⟨by simp [collectFrom, gave], f, by simp, gave⟩
    | ok given =>
      have next : ∃ scores', collectFrom scores (f :: rest) = collectFrom scores' rest
          ∧ Collects (fs ++ [f]) scores' := by
        cases given with
        | none => exact ⟨scores, by simp [collectFrom, gave], collects.passed gave⟩
        | some e => exact ⟨_, by simp [collectFrom, gave], collects.raised gave⟩
      obtain ⟨scores', step, collects'⟩ := next
      rw [step]
      obtain ⟨last, run, all, inside⟩ | ⟨run, g, mem, beyond⟩ := ih collects'
      · refine .inl ⟨last, run, all, ?_⟩
        simpa [gave] using inside
      · exact .inr ⟨run, g, List.mem_cons_of_mem f mem, beyond⟩

/-- The scores of some findings are their highest ones, unless one is beyond the format. -/
theorem collectScores_cases (fs : List Finding) :
  (∃ scores, collectScores fs = .ok scores ∧ Collects fs scores
      ∧ ∀ f ∈ fs, f.entry? ≠ .error .tooLarge)
    ∨ collectScores fs = .error .tooLarge ∧ ∃ f ∈ fs, f.entry? = .error .tooLarge
  := by
  simpa [collectScores] using collectFrom_cases collects_nil fs

/-- The highest scores of the same evidence are the same ones. -/
theorem Collects.le (collects : Collects fs scores) (collects' : Collects fs' scores')
    (same : SameEvidence fs fs') {id : Text} {x : Binary64}
    (found : Entries.get? scores id = some x) :
  ∃ y, Entries.get? scores' id = some y ∧ x.le y = true ∧ x.IsUnsigned
  := by
  obtain ⟨f, mem, given⟩ := collects.attained found
  obtain ⟨g, mem', given'⟩ := (same _ (by simp)).mp ⟨f, mem, given⟩
  obtain ⟨y, found', le⟩ := collects'.bounded g mem' id x given'
  exact ⟨y, found', le, (Finding.unit_of_entry? given).2⟩

theorem Collects.get?_eq (collects : Collects fs scores) (collects' : Collects fs' scores')
    (same : SameEvidence fs fs') (id : Text) :
  Entries.get? scores id = Entries.get? scores' id
  := by
  have same' := sameEvidence_equivalence.symm same
  cases found : Entries.get? scores id with
  | some x =>
    obtain ⟨y, found', le, unsigned⟩ := collects.le collects' same found
    obtain ⟨z, again, le', unsigned'⟩ := collects'.le collects same' found'
    rw [found] at again
    cases again
    rw [found', unsigned.antisymm unsigned' le le']
  | none =>
    cases found' : Entries.get? scores' id with
    | none => rfl
    | some y =>
      obtain ⟨x, again, -⟩ := collects'.le collects same' found'
      rw [found] at again
      cases again

end ReflexPolicy

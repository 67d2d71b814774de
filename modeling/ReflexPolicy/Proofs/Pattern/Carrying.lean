import Mathlib.Tactic.Common
import ReflexPolicy.Pattern.Search

/-!
# Stretches in related texts

A text has a stretch of a pattern if one begins at some place of it.  Whether it does, and where it
ends, rests on word boundaries and on tests of single characters only: a relation of places that
keeps the boundaries and carries the steps from one place to the next carries all stretches.  What
a pattern excludes ahead has to be carried the other way.
-/

namespace ReflexPolicy.Pattern

variable {p : Pattern} {a b e : Place} {test : Char → Bool}

/-! ### Steps and runs -/

theorem mem_step_iff :
  e ∈ step test a ↔ ∃ c rest, a.rest = c :: rest ∧ test c = true ∧ e = ⟨some c, rest⟩
  := by
  rw [step]
  cases a.rest with
  | nil => simp
  | cons c rest => by_cases passed : test c = true <;> simp [passed]

/-- A run ends where it begins, or goes on after one step. -/
theorem mem_runEnds_iff {least : Nat} {most : Option Nat} :
  e ∈ runEnds test least most a.before a.rest
    ↔ least = 0 ∧ e = a
      ∨ most ≠ some 0 ∧ ∃ a' ∈ step test a,
        e ∈ runEnds test (least - 1) (most.map (· - 1)) a'.before a'.rest
  := by
  obtain ⟨before, rest⟩ := a
  cases rest with
  | nil => by_cases first : least = 0 <;> simp [runEnds, step, first]
  | cons c rest =>
    simp only [runEnds, List.mem_append, step]
    by_cases passed : test c = true <;> by_cases more : most = some 0 <;>
      by_cases first : least = 0 <;> simp [passed, more, first, or_comm]

/-! ### Places where a text has a stretch -/

/-- A stretch of the pattern begins at the place. -/
def BeginsAt (p : Pattern) (a : Place) : Prop := ∃ e, e ∈ p.ends a

theorem isSome_matchAt?_iff :
  (p.matchAt? a).isSome = true ↔ p.BeginsAt a
  := by
  rw [matchAt?, Option.isSome_map, BeginsAt]
  cases p.ends a <;> simp

theorem getLast?_cons_or (c : Char) (front : List Char) (before : Option Char) :
  (c :: front).getLast?.or before = front.getLast?.or (some c)
  := by
  rw [List.getLast?_cons]
  cases front.getLast? <;> rfl

theorem isSome_searchFrom?_iff {before : Option Char} {cs : List Char} :
  (p.searchFrom? before cs).isSome = true
    ↔ ∃ front rest, cs = front ++ rest ∧ p.BeginsAt ⟨front.getLast?.or before, rest⟩
  := by
  induction cs generalizing before with
  | nil =>
    rw [searchFrom?, isSome_matchAt?_iff]
    constructor
    · intro begins
      exact ⟨[], [], rfl, begins⟩
    · rintro ⟨front, rest, split, begins⟩
      obtain ⟨rfl, rfl⟩ := List.append_eq_nil_iff.mp split.symm
      exact begins
  | cons c cs ih =>
    have here : (p.searchFrom? before (c :: cs)).isSome = true
        ↔ p.BeginsAt ⟨before, c :: cs⟩ ∨ (p.searchFrom? (some c) cs).isSome = true := by
      rw [searchFrom?, ← isSome_matchAt?_iff]
      cases p.matchAt? ⟨before, c :: cs⟩ <;> simp
    rw [here, ih]
    constructor
    · rintro (begins | ⟨front, rest, rfl, begins⟩)
      · exact ⟨[], c :: cs, rfl, begins⟩
      · exact ⟨c :: front, rest, rfl, by rwa [getLast?_cons_or]⟩
    · rintro ⟨front, rest, split, begins⟩
      cases front with
      | nil =>
        rw [List.nil_append] at split
        exact .inl (split ▸ begins)
      | cons d front =>
        obtain ⟨rfl, rfl⟩ := List.cons.inj split
        rw [getLast?_cons_or] at begins
        exact .inr ⟨front, rest, rfl, begins⟩

/-- A text has a stretch of a pattern if one begins at some place of it. -/
theorem occursIn_iff {cs : List Char} :
  p.occursIn cs = true ↔ ∃ front rest, cs = front ++ rest ∧ p.BeginsAt ⟨front.getLast?, rest⟩
  := by
  rw [occursIn, search?, isSome_searchFrom?_iff]
  simp only [Option.or_none]

/-! ### Relations that carry stretches -/

theorem atBoundary_congr (before : Text.isWordAt a.before = Text.isWordAt b.before)
    (ahead : Text.isWordAt a.rest.head? = Text.isWordAt b.rest.head?) :
  atBoundary a = atBoundary b
  := by rw [atBoundary, atBoundary, Text.isBoundary, Text.isBoundary, before, ahead]

/-- The relation of places keeps word boundaries, and carries steps by tests of the class. -/
structure Carries (R : Place → Place → Prop) (Q : (Char → Bool) → Prop) : Prop where
  boundary : ∀ a b, R a b → atBoundary a = atBoundary b
  step : ∀ a b test e, R a b → Q test → e ∈ step test a → ∃ e' ∈ Pattern.step test b, R e e'

/-- The tests of the pattern are of the class, but those of what it excludes ahead are of the
other one. -/
def Tests (Q Q' : (Char → Bool) → Prop) : Pattern → Prop
  | nothing => True
  | exactly c => Q (· == c)
  | anyCase c => Q fun d => Text.fold d == c
  | one k => Q k.has
  | run k _ _ => Q k.has
  | boundary => True
  | notAhead p => Tests Q' Q p
  | seq p q => Tests Q Q' p ∧ Tests Q Q' q
  | alt p q => Tests Q Q' p ∧ Tests Q Q' q

variable {R : Place → Place → Prop} {Q Q' : (Char → Bool) → Prop}

/-! ### The tests of patterns as they are written -/

theorem tests_inOrder_iff {ps : List Pattern} :
  (inOrder ps).Tests Q Q' ↔ ∀ p ∈ ps, p.Tests Q Q'
  := by
  induction ps with
  | nil => simp [inOrder, Tests]
  | cons p ps ih =>
    cases ps with
    | nil => simp [inOrder]
    | cons q ps =>
      rw [List.forall_mem_cons, ← ih]
      rfl

theorem tests_oneOf_iff {first : Pattern} {ps : List Pattern} :
  (oneOf first ps).Tests Q Q' ↔ first.Tests Q Q' ∧ ∀ p ∈ ps, p.Tests Q Q'
  := by
  induction ps generalizing first with
  | nil => simp [oneOf]
  | cons p ps ih => rw [oneOf, Tests, ih, List.forall_mem_cons]

theorem tests_optional_iff :
  (optional p).Tests Q Q' ↔ p.Tests Q Q'
  := by simp [optional, Tests]

theorem tests_delimited_iff :
  (delimited p).Tests Q Q' ↔ p.Tests Q Q'
  := by simp [delimited, Tests]

theorem tests_words_iff {s : String} :
  (words s).Tests Q Q' ↔ ∀ c ∈ s.toList, Q fun d => Text.fold d == c
  := by simp [words, tests_inOrder_iff, Tests]

theorem tests_wordsOf_iff {first : String} {others : List String} :
  (wordsOf first others).Tests Q Q' ↔ ∀ s ∈ first :: others, (words s).Tests Q Q'
  := by simp [wordsOf, tests_oneOf_iff]

theorem tests_literally_iff {s : String} :
  (literally s).Tests Q Q' ↔ ∀ c ∈ s.toList, Q (· == c)
  := by simp [literally, tests_inOrder_iff, Tests]

/-! ### Stretches that are carried -/

theorem Carries.mono {P : (Char → Bool) → Prop} (carries : Carries R Q)
    (fewer : ∀ test, P test → Q test) :
  Carries R P
  where
  boundary := carries.boundary
  step a b test e related tested := carries.step a b test e related (fewer test tested)

theorem Carries.runEnds (carries : Carries R Q) (tested : Q test) {least : Nat}
    {most : Option Nat} (related : R a b) (mem : e ∈ runEnds test least most a.before a.rest) :
  ∃ e' ∈ Pattern.runEnds test least most b.before b.rest, R e e'
  := by
  -- on the text that is left, since the run goes on from the next place
  induction left : a.rest.length generalizing a b least most with
  | zero =>
    obtain ⟨rfl, rfl⟩ | ⟨-, a', stepped, -⟩ := mem_runEnds_iff.mp mem
    · exact ⟨b, mem_runEnds_iff.mpr (.inl ⟨rfl, rfl⟩), related⟩
    · obtain ⟨c, rest, cut, -⟩ := mem_step_iff.mp stepped
      simp [cut] at left
  | succ n ih =>
    obtain ⟨rfl, rfl⟩ | ⟨more, a', stepped, mem⟩ := mem_runEnds_iff.mp mem
    · exact ⟨b, mem_runEnds_iff.mpr (.inl ⟨rfl, rfl⟩), related⟩
    · obtain ⟨b', stepped', related'⟩ := carries.step a b test a' related tested stepped
      obtain ⟨c, rest, cut, -, rfl⟩ := mem_step_iff.mp stepped
      obtain ⟨e', mem', ended⟩ := ih related' mem (by simpa [cut] using left)
      exact ⟨e', mem_runEnds_iff.mpr (.inr ⟨more, b', stepped', mem'⟩), ended⟩

/-- A relation that carries the tests of a pattern, and back those of what it excludes ahead,
carries its stretches. -/
theorem Carries.ends (forth : Carries R Q) (back : Carries (flip R) Q') (tests : p.Tests Q Q')
    (related : R a b) (mem : e ∈ p.ends a) :
  ∃ e' ∈ p.ends b, R e e'
  := by
  induction p generalizing R Q Q' a b e with
  | nothing =>
    obtain rfl := List.mem_singleton.mp mem
    exact ⟨b, List.mem_singleton_self b, related⟩
  | exactly c => exact forth.step a b _ e related tests mem
  | anyCase c => exact forth.step a b _ e related tests mem
  | one k => exact forth.step a b _ e related tests mem
  | run k least most => exact forth.runEnds tests related mem
  | boundary =>
    rw [Pattern.ends] at mem ⊢
    rw [← forth.boundary a b related]
    split at mem
    · rename_i bounded
      obtain rfl := List.mem_singleton.mp mem
      exact ⟨b, by simp [bounded], related⟩
    · cases mem
  | notAhead p ih =>
    rw [Pattern.ends] at mem ⊢
    split at mem
    · rename_i excluded
      obtain rfl := List.mem_singleton.mp mem
      refine ⟨b, ?_, related⟩
      rw [if_pos, List.mem_singleton]
      rw [List.isEmpty_iff, List.eq_nil_iff_forall_not_mem]
      intro e' mem'
      obtain ⟨e, mem, -⟩ := ih back forth tests related mem'
      rw [List.isEmpty_iff.mp excluded] at mem
      cases mem
    · cases mem
  | seq p q ihp ihq =>
    obtain ⟨middle, first, second⟩ := List.mem_flatMap.mp mem
    obtain ⟨middle', first', met⟩ := ihp forth back tests.1 related first
    obtain ⟨e', second', ended⟩ := ihq forth back tests.2 met second
    exact ⟨e', List.mem_flatMap.mpr ⟨middle', first', second'⟩, ended⟩
  | alt p q ihp ihq =>
    obtain left | right := List.mem_append.mp mem
    · obtain ⟨e', mem', ended⟩ := ihp forth back tests.1 related left
      exact ⟨e', List.mem_append_left _ mem', ended⟩
    · obtain ⟨e', mem', ended⟩ := ihq forth back tests.2 related right
      exact ⟨e', List.mem_append_right _ mem', ended⟩

theorem Carries.beginsAt (forth : Carries R Q) (back : Carries (flip R) Q') (tests : p.Tests Q Q')
    (related : R a b) (begins : p.BeginsAt a) :
  p.BeginsAt b
  := by
  obtain ⟨e, mem⟩ := begins
  obtain ⟨e', mem', -⟩ := forth.ends back tests related mem
  exact ⟨e', mem'⟩

end ReflexPolicy.Pattern

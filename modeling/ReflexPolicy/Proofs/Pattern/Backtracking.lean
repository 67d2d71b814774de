import Mathlib.Tactic.Common
import ReflexPolicy.Proofs.Pattern.Carrying

/-!
# Stretches and backtracking

What the stretches of a pattern are can be told without a search: `Pattern.Spans` says which texts
between two others are stretches, former by former.  How a search with backtracking looks for one
is told by `Pattern.attempt`, which tries one way after another and goes on from each.  The places
that `Pattern.ends` lists are the ends of the stretches, in the order in which backtracking comes
to them; hence `Pattern.search?` finds a stretch if there is one, and then the one that begins
leftmost and that backtracking comes to first.
-/

namespace ReflexPolicy

/-- The place after some of the characters ahead. -/
def Place.skip (n : Nat) (a : Place) : Place :=
  ⟨(a.rest.take n).getLast?.or a.before, a.rest.drop n⟩

namespace Pattern

variable {p : Pattern} {a e : Place} {test : Char → Bool} {before : Option Char}
  {text front found rest : List Char}

/-! ### Stretches -/

/-- The text is a stretch of the pattern, where it stands between a character, if there is one,
and a text. -/
def Spans : Pattern → Option Char → List Char → List Char → Prop
  | nothing, _, found, _ => found = []
  | exactly c, _, found, _ => found = [c]
  | anyCase c, _, found, _ => ∃ d, found = [d] ∧ Text.fold d = c
  | one k, _, found, _ => ∃ d, found = [d] ∧ k.has d = true
  | run k least most, _, found, _ =>
    least ≤ found.length ∧ (∀ n ∈ most, found.length ≤ n) ∧ ∀ d ∈ found, k.has d = true
  | boundary, before, found, rest =>
    found = [] ∧ Text.isWordAt before ≠ Text.isWordAt rest.head?
  | notAhead p, before, found, rest =>
    found = [] ∧ ∀ ahead rest', rest = ahead ++ rest' → ¬p.Spans before ahead rest'
  | seq p q, before, found, rest =>
    ∃ first second, found = first ++ second ∧ p.Spans before first (second ++ rest)
      ∧ q.Spans (first.getLast?.or before) second rest
  | alt p q, before, found, rest => p.Spans before found rest ∨ q.Spans before found rest

/-- A text has a stretch of the pattern. -/
def Occurs (p : Pattern) (text : List Char) : Prop :=
  ∃ front found rest, text = front ++ (found ++ rest) ∧ p.Spans front.getLast? found rest

/-- The place lies ahead of another one, with a text between them. -/
def Lies (a : Place) (found : List Char) (e : Place) : Prop :=
  a.rest = found ++ e.rest ∧ e.before = found.getLast?.or a.before

theorem lies_nil_iff :
  Lies a [] e ↔ e = a
  := by
  obtain ⟨before, rest⟩ := a
  obtain ⟨before', rest'⟩ := e
  simp [Lies, and_comm, eq_comm]

theorem Lies.cons {c : Char} (lies : Lies ⟨some c, rest⟩ found e) :
  Lies ⟨before, c :: rest⟩ (c :: found) e
  := by
  refine ⟨congrArg (c :: ·) lies.1, ?_⟩
  rw [getLast?_cons_or]
  exact lies.2

theorem Lies.of_cons {c : Char} (lies : Lies ⟨before, c :: rest⟩ (c :: found) e) :
  Lies ⟨some c, rest⟩ found e
  := by
  refine ⟨(List.cons.inj lies.1).2, ?_⟩
  rw [← getLast?_cons_or c found before]
  exact lies.2

theorem getLast?_append_or (first second : List Char) (before : Option Char) :
  (first ++ second).getLast?.or before = second.getLast?.or (first.getLast?.or before)
  := by rw [List.getLast?_append, Option.or_assoc]

theorem Lies.trans {middle : Place} {first second : List Char} (lies : Lies a first middle)
    (lies' : Lies middle second e) :
  Lies a (first ++ second) e
  := by
  refine ⟨?_, ?_⟩
  · rw [lies.1, lies'.1, List.append_assoc]
  · rw [getLast?_append_or, ← lies.2]
    exact lies'.2

/-- The text between two places is what `between` reads off. -/
theorem Lies.between_eq (lies : Lies a found e) :
  between a e = found
  := by
  rw [between, lies.1, List.length_append, Nat.add_sub_cancel, List.take_left]

/-! ### The ends of stretches -/

theorem mem_step_iff_lies :
  e ∈ step test a ↔ ∃ c, Lies a [c] e ∧ test c = true
  := by
  obtain ⟨before', rest'⟩ := e
  rw [mem_step_iff]
  constructor
  · rintro ⟨c, rest, cut, passed, same⟩
    cases same
    exact ⟨c, ⟨cut, rfl⟩, passed⟩
  · rintro ⟨c, ⟨cut, last⟩, passed⟩
    cases last
    exact ⟨c, rest', cut, passed, rfl⟩

/-- The ends of a run are the places behind a number of characters that pass the test. -/
theorem mem_runEnds_iff_lies {least : Nat} {most : Option Nat} :
  e ∈ runEnds test least most before rest
    ↔ ∃ found, Lies ⟨before, rest⟩ found e ∧ least ≤ found.length
      ∧ (∀ n ∈ most, found.length ≤ n) ∧ ∀ d ∈ found, test d = true
  := by
  induction rest generalizing before least most with
  | nil =>
    rw [runEnds]
    constructor
    · intro mem
      split at mem
      · rename_i first
        obtain rfl := List.mem_singleton.mp mem
        exact ⟨[], lies_nil_iff.mpr rfl, by simp [first]⟩
      · cases mem
    · rintro ⟨found, lies, enough, -⟩
      obtain ⟨rfl, -⟩ := List.append_eq_nil_iff.mp lies.1.symm
      obtain rfl := lies_nil_iff.mp lies
      simpa using enough
  | cons c rest ih =>
    apply (mem_runEnds_iff (a := ⟨before, c :: rest⟩)).trans
    constructor
    · rintro (⟨rfl, rfl⟩ | ⟨more, a', stepped, mem⟩)
      · exact ⟨[], lies_nil_iff.mpr rfl, by simp⟩
      · obtain ⟨d, rest', cut, passed, rfl⟩ := mem_step_iff.mp stepped
        cases cut
        obtain ⟨found, lies, enough, few, all⟩ := ih.mp mem
        refine ⟨c :: found, lies.cons, ?_, ?_, List.forall_mem_cons.mpr ⟨passed, all⟩⟩
        · simp only [List.length_cons]
          omega
        · intro n given
          have fewer := few (n - 1) (Option.mem_map_of_mem _ given)
          have some_more : n ≠ 0 := by
            rintro rfl
            exact more given
          simp only [List.length_cons]
          omega
    · rintro ⟨found, lies, enough, few, all⟩
      cases found with
      | nil => exact .inl ⟨Nat.le_zero.mp enough, lies_nil_iff.mp lies⟩
      | cons d found =>
        obtain ⟨rfl, -⟩ := List.cons.inj lies.1
        obtain ⟨passed, all⟩ := List.forall_mem_cons.mp all
        simp only [List.length_cons] at enough few
        refine .inr ⟨?_, ⟨some c, rest⟩, mem_step_iff.mpr ⟨c, rest, rfl, passed, rfl⟩, ?_⟩
        · rintro rfl
          simpa using few 0 rfl
        · refine ih.mpr ⟨found, lies.of_cons, by omega, ?_, all⟩
          intro n given
          obtain ⟨m, given', rfl⟩ := Option.map_eq_some_iff.mp given
          have fewer := few m given'
          omega

/-- The pattern lists the ends of its stretches. -/
theorem mem_ends_iff :
  e ∈ p.ends a ↔ ∃ found, Lies a found e ∧ p.Spans a.before found e.rest
  := by
  induction p generalizing a e with
  | nothing => simp [ends, Spans, lies_nil_iff]
  | exactly c => simp [ends, Spans, mem_step_iff_lies]
  | anyCase c => simp [ends, Spans, mem_step_iff_lies]
  | one k => simp [ends, Spans, mem_step_iff_lies]
  | run k least most => exact mem_runEnds_iff_lies
  | boundary =>
    rw [ends]
    constructor
    · intro mem
      split at mem
      · rename_i bounded
        obtain rfl := List.mem_singleton.mp mem
        exact ⟨[], lies_nil_iff.mpr rfl, rfl, bne_iff_ne.mp bounded⟩
      · cases mem
    · rintro ⟨found, lies, rfl, bounded⟩
      obtain rfl := lies_nil_iff.mp lies
      simpa [atBoundary, Text.isBoundary] using bounded
  | notAhead p ih =>
    rw [ends]
    constructor
    · intro mem
      split at mem
      · rename_i none_ahead
        obtain rfl := List.mem_singleton.mp mem
        refine ⟨[], lies_nil_iff.mpr rfl, rfl, ?_⟩
        intro ahead rest' cut spans
        have mem : ⟨ahead.getLast?.or e.before, rest'⟩ ∈ p.ends e := ih.mpr ⟨ahead, ⟨cut, rfl⟩, spans⟩
        rw [List.isEmpty_iff.mp none_ahead] at mem
        cases mem
      · cases mem
    · rintro ⟨found, lies, rfl, excluded⟩
      obtain rfl := lies_nil_iff.mp lies
      rw [if_pos, List.mem_singleton]
      rw [List.isEmpty_iff, List.eq_nil_iff_forall_not_mem]
      intro e' mem
      obtain ⟨ahead, lies', spans⟩ := ih.mp mem
      exact excluded ahead e'.rest lies'.1 spans
  | seq p q ihp ihq =>
    rw [ends, List.mem_flatMap]
    constructor
    · rintro ⟨middle, mem, mem'⟩
      obtain ⟨first, lies, spans⟩ := ihp.mp mem
      obtain ⟨second, lies', spans'⟩ := ihq.mp mem'
      rw [lies.2] at spans'
      rw [lies'.1] at spans
      exact ⟨first ++ second, lies.trans lies', first, second, rfl, spans, spans'⟩
    · rintro ⟨found, lies, first, second, rfl, spans, spans'⟩
      refine ⟨⟨first.getLast?.or a.before, second ++ e.rest⟩,
        ihp.mpr ⟨first, ⟨?_, rfl⟩, spans⟩, ihq.mpr ⟨second, ⟨rfl, ?_⟩, spans'⟩⟩
      · rw [lies.1, List.append_assoc]
      · rw [lies.2, getLast?_append_or]
  | alt p q ihp ihq =>
    rw [ends, List.mem_append, ihp, ihq, ← exists_or]
    simp only [Spans, and_or_left]

/-! ### Backtracking -/

/-- The most characters that a run may take. -/
def longest (test : Char → Bool) (most : Option Nat) (cs : List Char) : Nat :=
  most.elim (cs.takeWhile test).length (min (cs.takeWhile test).length)

/-- A character that passes the test, and then what comes after it. -/
def attemptOne (test : Char → Bool) (a : Place) (after : Place → Option Place) : Option Place :=
  match a.rest with
  | [] => none
  | c :: _ => if test c then after (a.skip 1) else none

/-- As many characters that pass the test as there are, and then what comes after them; where that
fails, one character less, down to the least number. -/
def attemptRun (test : Char → Bool) (least : Nat) (most : Option Nat) (a : Place)
    (after : Place → Option Place) : Option Place :=
  (List.range' least (longest test most a.rest + 1 - least)).reverse.findSome? fun n =>
    after (a.skip n)

/-- A stretch of the pattern, and then what comes after it; where that fails, the next way in which
there is one. -/
def attempt : Pattern → Place → (Place → Option Place) → Option Place
  | nothing, a, after => after a
  | exactly c, a, after => attemptOne (· == c) a after
  | anyCase c, a, after => attemptOne (fun d => Text.fold d == c) a after
  | one k, a, after => attemptOne k.has a after
  | run k least most, a, after => attemptRun k.has least most a after
  | boundary, a, after => if atBoundary a then after a else none
  | notAhead p, a, after => if (p.attempt a some).isSome then none else after a
  | seq p q, a, after => p.attempt a fun middle => q.attempt middle after
  | alt p q, a, after => (p.attempt a after).or (q.attempt a after)

theorem attemptOne_eq (a : Place) (after : Place → Option Place) :
  attemptOne test a after = (step test a).findSome? after
  := by
  obtain ⟨before, rest⟩ := a
  cases rest with
  | nil => rfl
  | cons c rest => by_cases passed : test c = true <;> simp [attemptOne, step, passed, Place.skip]

/-- A run may take one character more if it may go on after the first. -/
theorem longest_cons {most : Option Nat} {c : Char} {cs : List Char} :
  longest test most (c :: cs)
    = if test c && most != some 0 then longest test (most.map (· - 1)) cs + 1 else 0
  := by
  by_cases passed : test c = true
  · cases most with
    | none => simp [longest, passed]
    | some n => 
      simp [longest, passed]
      split <;> omega
  · cases most <;> simp [longest, passed]

/-- The ends of a run in order: after as many characters as there are first. -/
theorem runEnds_eq (least : Nat) (most : Option Nat) (before : Option Char) (rest : List Char) :
  runEnds test least most before rest
    = (List.range' least (longest test most rest + 1 - least)).reverse.map
      fun n => Place.skip n ⟨before, rest⟩
  := by
  induction rest generalizing before least most with
  | nil =>
    have none_more : longest test most [] = 0 := by cases most <;> rfl
    rw [runEnds, none_more]
    cases least with
    | zero => rfl
    | succ least => simp
  | cons c rest ih =>
    have skip_succ (n : Nat) :
        Place.skip (n + 1) ⟨before, c :: rest⟩ = Place.skip n ⟨some c, rest⟩ := by
      simp only [Place.skip, List.take_succ_cons, List.drop_succ_cons, getLast?_cons_or]
    have here : Place.skip 0 ⟨before, c :: rest⟩ = ⟨before, c :: rest⟩ := rfl
    rw [runEnds, longest_cons]
    split
    · rw [ih]
      cases least with
      | zero =>
        have cut (n : Nat) : List.range' 0 (n + 1) = 0 :: (List.range' 0 n).map (· + 1) := by
          rw [List.range'_succ, List.range'_succ_left]
        rw [Nat.zero_sub, Nat.sub_zero, Nat.sub_zero, cut (_ + 1)]
        simp [skip_succ, here]
      | succ least =>
        simp [List.range'_succ_left, skip_succ]
    · cases least with
      | zero => simp [here]
      | succ least => simp

theorem findSome?_flatMap {α β γ : Type} (f : α → List β) (g : β → Option γ) (xs : List α) :
  (xs.flatMap f).findSome? g = xs.findSome? fun x => (f x).findSome? g
  := by
  induction xs with
  | nil => rfl
  | cons x xs ih =>
    rw [List.flatMap_cons, List.findSome?_append, List.findSome?_cons, ih]
    cases (f x).findSome? g <;> rfl

theorem attempt_eq_findSome? (p : Pattern) (a : Place) (after : Place → Option Place) :
  p.attempt a after = (p.ends a).findSome? after
  := by
  induction p generalizing a after with
  | nothing => simp [attempt, ends]
  | exactly c => exact attemptOne_eq a after
  | anyCase c => exact attemptOne_eq a after
  | one k => exact attemptOne_eq a after
  | run k least most =>
    rw [ends, runEnds_eq, List.findSome?_map]
    rfl
  | boundary =>
    rw [attempt, ends]
    split <;> simp
  | notAhead p ih =>
    rw [attempt, ends, ih]
    cases p.ends a <;> simp
  | seq p q ihp ihq =>
    rw [attempt, ends, ihp, findSome?_flatMap]
    simp only [ihq]
  | alt p q ihp ihq => rw [attempt, ends, ihp, ihq, List.findSome?_append]

/-- Backtracking comes to the end that the pattern lists first. -/
theorem attempt_some (p : Pattern) (a : Place) :
  p.attempt a some = (p.ends a).head?
  := by
  rw [attempt_eq_findSome?]
  cases p.ends a <;> rfl

/-! ### The first stretch -/

/-- Of the stretches of the pattern in a text, no other begins more to the left, and of those that
begin there backtracking comes to this one first. -/
structure IsFirst (p : Pattern) (front found rest : List Char) : Prop where
  spans : p.Spans front.getLast? found rest
  leftmost : ∀ front' found' rest', front' ++ (found' ++ rest') = front ++ (found ++ rest) →
    p.Spans front'.getLast? found' rest' → front.length ≤ front'.length
  preferred : p.attempt ⟨front.getLast?, found ++ rest⟩ some
    = some ⟨found.getLast?.or front.getLast?, rest⟩

theorem beginsAt_iff {ahead : List Char} :
  p.BeginsAt ⟨before, ahead⟩ ↔ ∃ found rest, ahead = found ++ rest ∧ p.Spans before found rest
  := by
  constructor
  · rintro ⟨e, mem⟩
    obtain ⟨found, lies, spans⟩ := mem_ends_iff.mp mem
    exact ⟨found, e.rest, lies.1, spans⟩
  · rintro ⟨found, rest, cut, spans⟩
    exact ⟨⟨found.getLast?.or before, rest⟩, mem_ends_iff.mpr ⟨found, ⟨cut, rfl⟩, spans⟩⟩

/-- A pattern is found in the texts that have a stretch of it. -/
theorem occursIn_iff_occurs :
  p.occursIn text = true ↔ p.Occurs text
  := by
  rw [occursIn_iff]
  constructor
  · rintro ⟨front, ahead, rfl, begins⟩
    obtain ⟨found, rest, rfl, spans⟩ := beginsAt_iff.mp begins
    exact ⟨front, found, rest, rfl, spans⟩
  · rintro ⟨front, found, rest, rfl, spans⟩
    exact ⟨front, found ++ rest, rfl, beginsAt_iff.mpr ⟨found, rest, rfl, spans⟩⟩

theorem exists_of_matchAt? {ahead : List Char} (begins : p.matchAt? ⟨before, ahead⟩ = some found) :
  ∃ rest, ahead = found ++ rest ∧ p.Spans before found rest
    ∧ p.attempt ⟨before, ahead⟩ some = some ⟨found.getLast?.or before, rest⟩
  := by
  obtain ⟨e, first, rfl⟩ := Option.map_eq_some_iff.mp begins
  obtain ⟨found, lies, spans⟩ := mem_ends_iff.mp (List.mem_of_mem_head? first)
  rw [lies.between_eq]
  refine ⟨e.rest, lies.1, spans, ?_⟩
  rw [attempt_some, first, ← lies.2]

/-- What a search finds begins where no stretch began before. -/
theorem exists_of_searchFrom? (searched : p.searchFrom? before text = some found) :
  ∃ front ahead, text = front ++ ahead ∧ p.matchAt? ⟨front.getLast?.or before, ahead⟩ = some found
    ∧ ∀ front' ahead', front' ++ ahead' = text → p.BeginsAt ⟨front'.getLast?.or before, ahead'⟩ →
      front.length ≤ front'.length
  := by
  induction text generalizing before with
  | nil => exact ⟨[], [], rfl, searched, fun _ _ _ _ => Nat.zero_le _⟩
  | cons c text ih =>
    rw [searchFrom?] at searched
    split at searched
    case h_1 found' begins =>
      exact ⟨[], c :: text, rfl, begins.trans searched, fun _ _ _ _ => Nat.zero_le _⟩
    case h_2 none_here =>
      obtain ⟨front, ahead, rfl, begins, leftmost⟩ := ih searched
      refine ⟨c :: front, ahead, rfl, by rwa [getLast?_cons_or], ?_⟩
      intro front' ahead' cut begins'
      cases front' with
      | nil =>
        rw [List.nil_append] at cut
        subst cut
        rw [← isSome_matchAt?_iff] at begins'
        simp [none_here] at begins'
      | cons d front' =>
        obtain ⟨rfl, cut'⟩ := List.cons.inj cut
        rw [getLast?_cons_or] at begins'
        exact Nat.succ_le_succ (leftmost front' ahead' cut' begins')

theorem IsFirst.unique {front' found' rest' : List Char} (first : p.IsFirst front found rest)
    (first' : p.IsFirst front' found' rest')
    (same : front ++ (found ++ rest) = front' ++ (found' ++ rest')) :
  front = front' ∧ found = found' ∧ rest = rest'
  := by
  have length : front.length = front'.length :=
    Nat.le_antisymm (first.leftmost _ _ _ same.symm first'.spans)
      (first'.leftmost _ _ _ same first.spans)
  obtain ⟨rfl, ahead⟩ := List.append_inj same length
  have ends := first.preferred
  rw [ahead, first'.preferred] at ends
  obtain rfl : rest' = rest := congrArg Place.rest (Option.some.inj ends)
  exact ⟨rfl, List.append_cancel_right ahead, rfl⟩

/-- A search finds the leftmost stretch of a pattern, and of those that begin there the one that
backtracking comes to first. -/
theorem search?_eq_some_iff :
  p.search? text = some found
    ↔ ∃ front rest, text = front ++ (found ++ rest) ∧ p.IsFirst front found rest
  := by
  have sound {found : List Char} (searched : p.search? text = some found) :
      ∃ front rest, text = front ++ (found ++ rest) ∧ p.IsFirst front found rest := by
    obtain ⟨front, ahead, rfl, begins, leftmost⟩ := exists_of_searchFrom? searched
    simp only [Option.or_none] at begins leftmost
    obtain ⟨rest, rfl, spans, preferred⟩ := exists_of_matchAt? begins
    refine ⟨front, rest, rfl, spans, ?_, preferred⟩
    intro front' found' rest' cut spans'
    exact leftmost front' (found' ++ rest') cut (beginsAt_iff.mpr ⟨found', rest', rfl, spans'⟩)
  constructor
  · exact sound
  · rintro ⟨front, rest, rfl, first⟩
    have occurs : p.Occurs (front ++ (found ++ rest)) := ⟨front, found, rest, rfl, first.spans⟩
    obtain ⟨found', searched⟩ := Option.isSome_iff_exists.mp (occursIn_iff_occurs.mpr occurs)
    obtain ⟨front', rest', same, first'⟩ := sound searched
    obtain ⟨-, rfl, -⟩ := first.unique first' same
    exact searched

theorem search?_eq_none_iff :
  p.search? text = none ↔ ¬p.Occurs text
  := by
  rw [← occursIn_iff_occurs, occursIn]
  cases p.search? text <;> simp

end Pattern

end ReflexPolicy

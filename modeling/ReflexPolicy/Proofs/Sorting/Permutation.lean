import ReflexPolicy.Proofs.Success
import ReflexPolicy.Sorting.Basic

/-!
# Sorting keeps its items

A sort fails only when one of its comparisons does.  As long as the items of a list can be compared
with each other, all steps of the sort succeed, and none of them loses an item or makes one up: the
sorted list is a permutation of the list, even where the comparison is no order.
-/

namespace ReflexPolicy.Sorting

open scoped List

variable {α ε : Type} {less : Less α ε} {P : α → Prop}

/-- Any two items of a kind can be compared. -/
def Compares (less : Less α ε) (P : α → Prop) : Prop :=
  ∀ a b, P a → P b → Yields (fun _ => True) (less a b)

theorem forall_of_perm {xs ys : List α} (perm : ys ~ xs) (all : ∀ a ∈ xs, P a) :
  ∀ a ∈ ys, P a
  := fun a mem => all a (perm.mem_iff.mp mem)

/-! ### Runs -/

/-- A stretch and the items after it are the items that were looked at. -/
theorem yields_stretch (compares : Compares less P) (descending : Bool) {before : α} {xs : List α}
    (first : P before) (all : ∀ a ∈ xs, P a) :
  Yields (fun found => found.1 ++ found.2 = xs) (stretch less descending before xs)
  := by
  induction xs generalizing before with
  | nil => exact yields_ok rfl
  | cons x xs ih =>
    obtain ⟨next, all⟩ := List.forall_mem_cons.mp all
    apply yields_bind (compares x before next first)
    rintro smaller -
    split
    · apply yields_bind (ih next all)
      intro found whole
      exact yields_pure (congrArg (x :: ·) whole)
    · exact yields_pure rfl

theorem yields_place (compares : Compares less P) {item : α} {sorted : List α} (new : P item)
    (all : ∀ a ∈ sorted, P a) (low high : Nat) :
  Yields (fun _ => True) (place less item sorted low high)
  := by
  induction low, high using place.induct sorted with
  | case1 low high inside middle outside =>
    rw [place, if_pos inside]
    simp only [middle] at outside
    simp only [outside]
    exact yields_ok trivial
  | case2 low high inside middle other found lower upper =>
    rw [place, if_pos inside]
    simp only [middle] at found
    simp only [found]
    apply yields_bind (compares item other new (all other (List.mem_of_getElem? found)))
    rintro smaller -
    split
    · exact lower
    · exact upper
  | case3 low high outside =>
    rw [place, if_neg outside]
    exact yields_ok trivial

theorem yields_insert (compares : Compares less P) {item : α} {sorted : List α} (new : P item)
    (all : ∀ a ∈ sorted, P a) :
  Yields (fun found => found ~ item :: sorted) (insert less item sorted)
  := by
  apply yields_bind (yields_place compares new all 0 sorted.length)
  rintro here -
  apply yields_pure
  calc
    sorted.take here ++ item :: sorted.drop here
      ~ item :: (sorted.take here ++ sorted.drop here) := List.perm_middle
    _ = item :: sorted := by rw [List.take_append_drop]

theorem yields_insertAll (compares : Compares less P) {sorted xs : List α}
    (before : ∀ a ∈ sorted, P a) (all : ∀ a ∈ xs, P a) :
  Yields (fun found => found ~ sorted ++ xs) (insertAll less sorted xs)
  := by
  induction xs generalizing sorted with
  | nil => exact yields_ok (by simp)
  | cons x xs ih =>
    obtain ⟨new, all⟩ := List.forall_mem_cons.mp all
    apply yields_bind (yields_insert compares new before)
    intro next perm
    have kept : ∀ a ∈ next, P a :=
      forall_of_perm perm (List.forall_mem_cons.mpr ⟨new, before⟩)
    obtain ⟨found, run, whole⟩ := ih kept all
    refine ⟨found, run, ?_⟩
    calc
      found ~ next ++ xs := whole
      _ ~ (x :: sorted) ++ xs := perm.append_right xs
      _ ~ sorted ++ x :: xs := List.perm_middle.symm

theorem yields_firstStretch (compares : Compares less P) {xs : List α} (all : ∀ a ∈ xs, P a) :
  Yields (fun found => found.1 ++ found.2 ~ xs ∧ (xs ≠ [] → found.1 ≠ []))
    (firstStretch less xs)
  := by
  match xs with
  | [] => exact yields_ok (by simp)
  | [a] => exact yields_ok (by simp)
  | a :: b :: rest =>
    simp only [List.forall_mem_cons] at all
    obtain ⟨first, second, all⟩ := all
    apply yields_bind (compares b a second first)
    rintro descending -
    apply yields_bind (yields_stretch compares descending second all)
    intro found whole
    apply yields_pure
    rw [← whole]
    split
    · exact ⟨(List.reverse_perm _).append_right _, by simp⟩
    · exact ⟨List.Perm.refl _, by simp⟩

/-- The run at the head of a list and the items after it are the items of the list, and the run
has some of them. -/
theorem yields_firstRun (compares : Compares less P) (least : Nat) {xs : List α}
    (all : ∀ a ∈ xs, P a) :
  Yields (fun found => found.1 ++ found.2 ~ xs ∧ (xs ≠ [] → found.1 ≠ []))
    (firstRun less least xs)
  := by
  apply yields_bind (yields_firstStretch compares all)
  rintro found ⟨whole, some⟩
  have kept := forall_of_perm whole all
  obtain ⟨inside, outside⟩ := List.forall_mem_append.mp kept
  apply yields_bind (yields_insertAll compares inside
    fun a mem => outside a (List.mem_of_mem_take mem))
  intro items filled
  apply yields_pure
  constructor
  · calc
      items ++ found.2.drop _ ~ found.1 ++ found.2.take _ ++ found.2.drop _ :=
        filled.append_right _
      _ = found.1 ++ found.2 := by rw [List.append_assoc, List.take_append_drop]
      _ ~ xs := whole
  · rintro nonempty rfl
    have none := List.nil_eq_append_iff.mp filled.nil_eq
    exact some nonempty none.1

/-! ### Gallops -/

variable {test : α → Except ε Bool} {xs : List α}

/-- The items of a list can be put to a test. -/
def Tests (test : α → Except ε Bool) (xs : List α) : Prop :=
  ∀ a ∈ xs, Yields (fun _ => True) (test a)

theorem yields_passes (tests : Tests test xs) (i : Nat) :
  Yields (fun _ => True) (passes test xs i)
  := by
  rw [passes]
  split
  · rename_i x found
    exact tests x (List.mem_of_getElem? found)
  · exact yields_ok trivial

theorem yields_leap (tests : Tests test xs) (known next : Nat) :
  Yields (fun _ => True) (leap test xs known next)
  := by
  induction known, next using leap.induct xs with
  | case1 known next inside ih =>
    rw [leap, if_pos inside]
    apply yields_bind (yields_passes tests next)
    rintro passed -
    split
    · exact ih
    · exact yields_pure trivial
  | case2 known next outside =>
    rw [leap, if_neg outside]
    exact yields_ok trivial

theorem yields_halve (tests : Tests test xs) (side : Side) (low high : Nat) :
  Yields (fun _ => True) (halve test side xs low high)
  := by
  induction low, high using halve.induct side with
  | case1 low high middle inside upper lower =>
    rw [halve, if_pos inside]
    apply yields_bind (yields_passes tests middle)
    rintro passed -
    split
    · exact upper
    · exact lower
  | case2 low high middle outside =>
    rw [halve, if_neg outside]
    exact yields_ok trivial

theorem yields_gallop (tests : Tests test xs) (side : Side) :
  Yields (fun _ => True) (gallop test side xs)
  := by
  apply yields_bind (yields_passes tests 0)
  rintro passed -
  split
  · apply yields_bind (yields_leap tests 1 1)
    rintro found -
    exact yields_halve tests side found.1 found.2
  · exact yields_pure trivial

/-! ### Merges -/

namespace Merge

variable {m : Merge α}

theorem items_takeHeld (m : Merge α) (count : Nat) :
  (m.takeHeld count).items ~ m.items
  := by
  simp only [takeHeld, items, List.reverse_append, List.reverse_reverse, List.append_assoc]
  apply List.Perm.append_left
  calc
    m.held.take count ++ (m.other ++ m.held.drop count)
      ~ m.other ++ (m.held.take count ++ m.held.drop count) := by
        rw [← List.append_assoc, ← List.append_assoc]
        exact List.perm_append_comm.append_right _
    _ = m.other ++ m.held := by rw [List.take_append_drop]

theorem items_takeOther (m : Merge α) (count : Nat) :
  (m.takeOther count).items = m.items
  := by
  simp [takeOther, items]

theorem items_won (m : Merge α) (heldWins otherWins : Nat) :
  (m.won heldWins otherWins).items = m.items
  := by
  rw [won]
  split
  · rfl
  · split <;> rfl

theorem mem_items_of_held {a : α} (mem : a ∈ m.held) :
  a ∈ m.items
  := List.mem_append_right _ mem

theorem mem_items_of_other {a : α} (mem : a ∈ m.other) :
  a ∈ m.items
  := List.mem_append_left _ (List.mem_append_right _ mem)

theorem yields_otherFirst (compares : Compares less P) (side : Side) {held other : α}
    (first : P held) (second : P other) :
  Yields (fun _ => True) (otherFirst less side held other)
  := by
  cases side with
  | front => exact compares other held second first
  | back => exact compares held other first second

theorem yields_walk (compares : Compares less P) (side : Side) (all : ∀ a ∈ m.items, P a)
    (heldWins otherWins : Nat) :
  Yields (fun after => after.items ~ m.items) (m.walk less side heldWins otherWins)
  := by
  rw [walk]
  split
  · rename_i x held y other atHeld atOther
    have first := all x (mem_items_of_held (by simp [atHeld]))
    have second := all y (mem_items_of_other (by simp [atOther]))
    apply yields_bind (yields_otherFirst compares side first second)
    rintro wins -
    split
    · apply yields_pure
      rw [items_won, items_takeOther]
    · apply yields_pure
      rw [items_won]
      exact items_takeHeld m 1
  · exact yields_ok (List.Perm.refl _)

theorem yields_gallopHeld (compares : Compares less P) (side : Side) (all : ∀ a ∈ m.items, P a) :
  Yields (fun found => found.2.items ~ m.items) (m.gallopHeld less side)
  := by
  rw [gallopHeld]
  split
  · exact yields_ok (List.Perm.refl _)
  · rename_i y other atOther
    have second := all y (mem_items_of_other (by simp [atOther]))
    have tests : Tests (fun x => (otherFirst less side x y).map not) m.held := by
      intro x mem
      exact yields_map (yields_otherFirst compares side (all x (mem_items_of_held mem)) second)
        fun _ _ => trivial
    apply yields_bind (yields_gallop tests side)
    rintro count -
    apply yields_pure
    split
    · exact items_takeHeld m count
    · rw [items_takeOther]
      exact items_takeHeld m count

theorem yields_gallopOther (compares : Compares less P) (side : Side) (all : ∀ a ∈ m.items, P a) :
  Yields (fun found => found.2.items ~ m.items) (m.gallopOther less side)
  := by
  rw [gallopOther]
  split
  · exact yields_ok (List.Perm.refl _)
  · rename_i x held atHeld
    have first := all x (mem_items_of_held (by simp [atHeld]))
    have tests : Tests (fun y => otherFirst less side x y) m.other := by
      intro y mem
      exact yields_otherFirst compares side first (all y (mem_items_of_other mem))
    apply yields_bind (yields_gallop tests side)
    rintro count -
    apply yields_pure
    split
    · rw [items_takeOther]
    · calc
        ((m.takeOther count).takeHeld 1).items ~ (m.takeOther count).items := items_takeHeld _ 1
        _ = m.items := items_takeOther m count

/-- Two gallops keep the items that each of them keeps. -/
theorem yields_twoGallops {first second : Merge α → Except ε (Nat × Merge α)}
    (keeps : ∀ m : Merge α, (∀ a ∈ m.items, P a) →
      Yields (fun found => found.2.items ~ m.items) (first m))
    (keeps' : ∀ m : Merge α, (∀ a ∈ m.items, P a) →
      Yields (fun found => found.2.items ~ m.items) (second m))
    (all : ∀ a ∈ m.items, P a) :
  Yields (fun after => after.items ~ m.items) (do
    let (a, half) ← first m
    if half.isSettled then return half
    let (b, whole) ← second half
    if whole.isSettled ∨ worthwhile ≤ a ∨ worthwhile ≤ b then return whole
    return { whole with stride := .walk 0 0, patience := whole.patience + 1 })
  := by
  apply yields_bind (keeps m all)
  rintro ⟨a, half⟩ kept
  dsimp only at kept ⊢
  split
  · exact yields_pure kept
  · apply yields_bind (keeps' half (forall_of_perm kept all))
    rintro ⟨b, whole⟩ kept'
    dsimp only at kept' ⊢
    split
    · exact yields_pure (kept'.trans kept)
    · exact yields_pure (kept'.trans kept)

theorem yields_gallopBoth (compares : Compares less P) (side : Side) (all : ∀ a ∈ m.items, P a) :
  Yields (fun after => after.items ~ m.items) (m.gallopBoth less side)
  := by
  have held (m : Merge α) := @yields_gallopHeld _ _ less P m compares side
  have other (m : Merge α) := @yields_gallopOther _ _ less P m compares side
  have eager : ∀ a ∈ { m with patience := max 1 (m.patience - 1) : Merge α }.items, P a := all
  cases side with
  | front => exact yields_twoGallops held other eager
  | back => exact yields_twoGallops other held eager

/-- One step of a merge keeps its items. -/
theorem yields_step (compares : Compares less P) (side : Side) (all : ∀ a ∈ m.items, P a) :
  Yields (fun after => after.items ~ m.items) (m.step less side)
  := by
  rw [step]
  split
  · exact yields_walk compares side all _ _
  · exact yields_gallopBoth compares side all

theorem yields_run (compares : Compares less P) (side : Side) (fuel : Nat)
    (all : ∀ a ∈ m.items, P a) :
  Yields (fun last => last.items ~ m.items) (run less side fuel m)
  := by
  induction fuel generalizing m with
  | zero => exact yields_ok (List.Perm.refl _)
  | succ fuel ih =>
    rw [run]
    split
    · exact yields_ok (List.Perm.refl _)
    · obtain ⟨after, stepped, kept⟩ := yields_step compares side all
      obtain ⟨last, ran, whole⟩ := ih (forall_of_perm kept all)
      rw [stepped]
      exact ⟨last, ran, whole.trans kept⟩

theorem yields_start (compares : Compares less P) (side : Side) {held other : List α}
    (first : ∀ a ∈ held, P a) (second : ∀ a ∈ other, P a) (patience : Nat) :
  Yields (fun found => found.1 ~ held ++ other) (start less side held other patience)
  := by
  let m : Merge α :=
    { out := [], held := held, other := other, patience := patience, stride := .walk 0 0 }
  have items : (m.takeOther 1).items ~ held ++ other := by
    rw [items_takeOther]
    exact List.perm_append_comm
  have all : ∀ a ∈ (m.takeOther 1).items, P a :=
    forall_of_perm items (List.forall_mem_append.mpr ⟨first, second⟩)
  apply yields_bind (yields_run compares side (held.length + other.length) all)
  intro last kept
  exact yields_pure (kept.trans items)

end Merge

/-- The inner items of two runs may be rearranged. -/
theorem perm_inner {first second merged : List α} (count kept : Nat)
    (perm : merged ~ first.drop count ++ second.take kept) :
  first.take count ++ merged ++ second.drop kept ~ first ++ second
  := by
  calc
    first.take count ++ merged ++ second.drop kept
      ~ first.take count ++ (first.drop count ++ second.take kept) ++ second.drop kept :=
        (perm.append_left _).append_right _
    _ = first ++ second := by
      rw [← List.append_assoc, List.take_append_drop, List.append_assoc, List.take_append_drop]

/-- Two runs that are merged keep their items. -/
theorem yields_mergeRuns (compares : Compares less P) (patience : Nat) {first second : List α}
    (before : ∀ a ∈ first, P a) (behind : ∀ a ∈ second, P a) :
  Yields (fun found => found.1 ~ first ++ second) (mergeRuns less patience first second)
  := by
  rw [mergeRuns.eq_def]
  split
  · exact yields_ok (by simp)
  · rename_i y rest
    have tests : Tests (fun x => (less y x).map not) first := fun x mem =>
      yields_map (compares y x (behind y List.mem_cons_self) (before x mem)) fun _ _ => trivial
    apply yields_bind (yields_gallop tests .front)
    rintro count -
    dsimp only
    split
    · exact yields_pure (List.Perm.refl _)
    · rename_i last atLast
      have inFirst := List.mem_of_mem_drop (List.mem_of_getLast? atLast)
      have tests : Tests (fun z => (less z last).map not) (y :: rest).reverse := fun z mem =>
        yields_map (compares z last (behind z (List.mem_reverse.mp mem)) (before last inFirst))
          fun _ _ => trivial
      apply yields_bind (yields_gallop tests .back)
      rintro count' -
      have inner := @perm_inner _ first (y :: rest)
      have held : ∀ a ∈ first.drop count, P a := fun a mem => before a (List.mem_of_mem_drop mem)
      have other (kept : Nat) : ∀ a ∈ (y :: rest).take kept, P a :=
        fun a mem => behind a (List.mem_of_mem_take mem)
      split
      · exact yields_pure (List.Perm.refl _)
      · split
        · apply yields_bind (Merge.yields_start compares .front held (other _) patience)
          intro found perm
          exact yields_pure (inner _ _ perm)
        · apply yields_bind (Merge.yields_start compares .back
            (forall_of_perm (List.reverse_perm _) (other _))
            (forall_of_perm (List.reverse_perm _) held) patience)
          intro found perm
          apply yields_pure
          apply inner
          calc
            found.1.reverse ~ found.1 := List.reverse_perm _
            _ ~ ((y :: rest).take _).reverse ++ (first.drop count).reverse := perm
            _ ~ (first.drop count).reverse ++ ((y :: rest).take _).reverse :=
              List.perm_append_comm
            _ ~ first.drop count ++ (y :: rest).take _ :=
              (List.reverse_perm _).append (List.reverse_perm _)

/-! ### Whole sorts -/

/-- The items of waiting runs. -/
def Pending.items (waiting : Pending α) : List α := waiting.flatMap Prod.fst

theorem Pending.items_cons (run : List α × Nat) (waiting : Pending α) :
  Pending.items (run :: waiting) = run.1 ++ waiting.items
  := rfl

/-- Waiting runs stand in the reverse order of the list, merged ones as they stand in it. -/
theorem perm_neighbours {first second merged : List α} (perm : merged ~ first ++ second)
    (rest : List α) :
  merged ++ rest ~ second ++ (first ++ rest)
  := by
  calc
    merged ++ rest ~ (first ++ second) ++ rest := perm.append_right rest
    _ ~ (second ++ first) ++ rest := List.perm_append_comm.append_right rest
    _ = second ++ (first ++ rest) := List.append_assoc ..

theorem yields_close (compares : Compares less P) (deepest patience : Nat) {last : List α × Nat}
    {waiting : Pending α} (all : ∀ a ∈ Pending.items (last :: waiting), P a) :
  Yields (fun found => Pending.items found.1 ~ Pending.items (last :: waiting))
    (close less deepest patience last waiting)
  := by
  induction waiting generalizing patience last with
  | nil => exact yields_ok (List.Perm.refl _)
  | cons before rest ih =>
    rw [close]
    split
    · simp only [Pending.items_cons, List.forall_mem_append] at all
      obtain ⟨ofLast, ofBefore, ofRest⟩ := all
      apply yields_bind (yields_mergeRuns compares patience ofBefore ofLast)
      rintro ⟨merged, after⟩ perm
      have kept : ∀ a ∈ Pending.items ((merged, before.2) :: rest), P a := by
        rw [Pending.items_cons, List.forall_mem_append]
        exact ⟨forall_of_perm perm (List.forall_mem_append.mpr ⟨ofBefore, ofLast⟩), ofRest⟩
      obtain ⟨found, closed, whole⟩ := ih after kept
      exact ⟨found, closed, whole.trans (perm_neighbours perm _)⟩
    · exact yields_ok (List.Perm.refl _)

theorem yields_push (compares : Compares less P) (total place patience : Nat) {run : List α}
    {waiting : Pending α} (all : ∀ a ∈ waiting.items, P a) :
  Yields (fun found => Pending.items found.1 ~ run ++ waiting.items)
    (push less total place patience run waiting)
  := by
  cases waiting with
  | nil => exact yields_ok (List.Perm.refl _)
  | cons last before =>
    apply yields_bind (yields_close compares _ patience all)
    rintro ⟨found, after⟩ whole
    cases found with
    | nil => exact yields_pure (whole.append_left run)
    | cons top rest => exact yields_pure (whole.append_left run)

theorem yields_pushAll (compares : Compares less P) (total : Nat) {fuel : Nat} (patience : Nat)
    {waiting : Pending α} {xs : List α} (enough : xs.length ≤ fuel)
    (before : ∀ a ∈ waiting.items, P a) (all : ∀ a ∈ xs, P a) :
  Yields (fun found => Pending.items found.1 ~ waiting.items ++ xs)
    (pushAll less total fuel patience waiting xs)
  := by
  induction fuel generalizing patience waiting xs with
  | zero =>
    obtain rfl := List.eq_nil_of_length_eq_zero (Nat.le_zero.mp enough)
    exact yields_ok (by simp)
  | succ fuel ih =>
    cases xs with
    | nil => exact yields_ok (by simp)
    | cons x xs =>
      apply yields_bind (yields_firstRun compares (leastRun total) all)
      rintro ⟨run, rest⟩ ⟨whole, nonempty⟩
      obtain ⟨inside, outside⟩ := List.forall_mem_append.mp (forall_of_perm whole all)
      apply yields_bind (yields_push compares total _ patience before)
      rintro ⟨after, left⟩ pushed
      -- The run has taken an item, so that the fuel is enough for the rest.
      have enough : rest.length ≤ fuel := by
        have taken := List.length_pos_iff.mpr (nonempty (by simp))
        have lengths := whole.length_eq
        simp only [List.length_append, List.length_cons] at lengths enough taken
        omega
      have kept : ∀ a ∈ Pending.items after, P a :=
        forall_of_perm pushed (List.forall_mem_append.mpr ⟨inside, before⟩)
      obtain ⟨found, ended, last⟩ := ih left enough kept outside
      refine ⟨found, ended, ?_⟩
      calc
        Pending.items found.1 ~ Pending.items after ++ rest := last
        _ ~ (run ++ waiting.items) ++ rest := pushed.append_right rest
        _ ~ (waiting.items ++ run) ++ rest := List.perm_append_comm.append_right rest
        _ = waiting.items ++ (run ++ rest) := List.append_assoc ..
        _ ~ waiting.items ++ x :: xs := whole.append_left _

theorem yields_mergeAll (compares : Compares less P) {fuel : Nat} (patience : Nat)
    {waiting : Pending α} (enough : waiting.length ≤ fuel + 1)
    (all : ∀ a ∈ waiting.items, P a) :
  Yields (fun found => found ~ waiting.items) (mergeAll less fuel patience waiting)
  := by
  induction fuel generalizing patience waiting with
  | zero =>
    match waiting with
    | [] => exact yields_ok (List.Perm.refl _)
    | [run] => exact yields_ok (by simp [Pending.items])
    | _ :: _ :: _ => simp at enough
  | succ fuel ih =>
    -- Two runs are merged, and the rest is merged with them.
    have next (after : List α → Pending α) {first second : List α}
        (first_all : ∀ a ∈ first, P a) (second_all : ∀ a ∈ second, P a)
        (fewer : ∀ merged, (after merged).length ≤ fuel + 1)
        (same : ∀ merged, merged ~ first ++ second → (after merged).items ~ waiting.items) :
        Yields (fun found => found ~ waiting.items)
          (mergeRuns less patience first second >>= fun found =>
            mergeAll less fuel found.2 (after found.1)) := by
      apply yields_bind (yields_mergeRuns compares patience first_all second_all)
      rintro ⟨merged, left⟩ perm
      have kept := same merged perm
      obtain ⟨found, ended, whole⟩ := ih left (fewer merged) (forall_of_perm kept all)
      exact ⟨found, ended, whole.trans kept⟩
    match waiting with
    | [] => exact yields_ok (List.Perm.refl _)
    | [run] => exact yields_ok (by simp [Pending.items])
    | [last, middle] =>
      simp only [Pending.items_cons, List.forall_mem_append] at all
      obtain ⟨ofLast, ofMiddle, -⟩ := all
      apply next (fun merged => [(merged, middle.2)]) ofMiddle ofLast (by simp)
      intro merged perm
      exact perm_neighbours perm []
    | last :: middle :: before :: rest =>
      simp only [Pending.items_cons, List.forall_mem_append] at all
      obtain ⟨ofLast, ofMiddle, ofBefore, -⟩ := all
      have fewer : rest.length + 2 ≤ fuel + 1 := by simpa using enough
      rw [mergeAll]
      split
      · apply next (fun merged => last :: (merged, before.2) :: rest) ofBefore ofMiddle
          (by simpa using fewer)
        intro merged perm
        exact (perm_neighbours perm _).append_left last.1
      · apply next (fun merged => (merged, middle.2) :: before :: rest) ofMiddle ofLast
          (by simpa using fewer)
        intro merged perm
        exact perm_neighbours perm _

/-- The sort of items that can be compared with each other succeeds, with a permutation of them. -/
theorem yields_sort (compares : Compares less P) {xs : List α} (all : ∀ a ∈ xs, P a) :
  Yields (fun found => found ~ xs) (sort less xs)
  := by
  match xs with
  | [] => exact yields_ok (List.Perm.refl _)
  | [a] => exact yields_ok (List.Perm.refl _)
  | a :: b :: rest =>
    have none : ∀ a ∈ Pending.items [], P a := by simp [Pending.items]
    apply yields_bind (yields_pushAll compares _ firstPatience (Nat.le_refl _) none all)
    rintro ⟨waiting, patience⟩ whole
    obtain ⟨found, merged, perm⟩ :=
      yields_mergeAll compares patience (Nat.le_succ waiting.length) (forall_of_perm whole all)
    exact ⟨found, merged, perm.trans whole⟩

end ReflexPolicy.Sorting

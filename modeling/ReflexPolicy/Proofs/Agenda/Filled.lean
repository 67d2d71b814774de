import Mathlib.Tactic.Common
import Mathlib.Data.List.Induction
import Mathlib.Data.List.Nodup
import ReflexPolicy.Agenda

/-!
# Filled heaps

The places of a heap are counted level by level, and a heap is filled when its places are the first
ones.  Adding and dropping appointments keeps it so.  What it is good for is `perm_places`: the
places from the first to the last hold all appointments, each of them once, so that an agenda which
is rebuilt loses exactly what it is meant to lose.
-/

namespace ReflexPolicy

namespace Heap

variable {δ : Type}

/-! ### Ways and places -/

/-- The place at the end of a way. -/
def placeOf (way : List Bool) : Nat :=
  way.foldl (fun place right => 2 * place + right.toNat) 1

theorem placeOf_concat (way : List Bool) (right : Bool) :
  placeOf (way ++ [right]) = 2 * placeOf way + right.toNat
  := by simp [placeOf]

theorem placeOf_le_append (way rest : List Bool) :
  placeOf way ≤ placeOf (way ++ rest)
  := by
  induction rest using List.reverseRecOn with
  | nil => simp
  | append_singleton rest right ih =>
    rw [← List.append_assoc, placeOf_concat]
    omega

theorem placeOf_pos (way : List Bool) :
  0 < placeOf way
  := placeOf_le_append [] way

/-- A place comes after those on the way to it. -/
theorem placeOf_lt_append (way : List Bool) {rest : List Bool} (more : rest ≠ []) :
  placeOf way < placeOf (way ++ rest)
  := by
  obtain ⟨first, right, rfl⟩ := (List.eq_nil_or_concat' rest).resolve_left more
  have := placeOf_le_append way first
  have := placeOf_pos way
  rw [← List.append_assoc, placeOf_concat]
  omega

theorem placeOf_wayTo {place : Nat} (pos : 0 < place) :
  placeOf (wayTo place) = place
  := by
  induction place using Nat.strongRecOn with
  | ind place ih =>
    rw [wayTo]
    split
    · have : place = 1 := by omega
      rw [this]
      rfl
    · rw [placeOf_concat, ih (place / 2) (by omega) (by omega)]
      cases digit : place % 2 == 1
      · simp only [beq_eq_false_iff_ne] at digit
        simp only [Bool.toNat_false]
        omega
      · simp only [beq_iff_eq] at digit
        simp only [Bool.toNat_true]
        omega

theorem wayTo_placeOf (way : List Bool) :
  wayTo (placeOf way) = way
  := by
  induction way using List.reverseRecOn with
  | nil => simp [placeOf, wayTo]
  | append_singleton way right ih =>
    have pos := placeOf_pos way
    rw [placeOf_concat, wayTo, if_neg (by omega)]
    cases right with
    | false =>
      rw [Bool.toNat_false, show (2 * placeOf way + 0) / 2 = placeOf way by omega, ih]
      simp
    | true =>
      rw [Bool.toNat_true, show (2 * placeOf way + 1) / 2 = placeOf way by omega, ih]
      simp [Nat.add_mod]

/-! ### Places of a heap -/

/-- The way ends at a place of the heap. -/
def hasPlace (way : List Bool) (h : Heap δ) : Bool := (find? way h).isSome

@[simp]
theorem hasPlace_empty (way : List Bool) :
  hasPlace way (empty : Heap δ) = false
  := by
  cases way with
  | nil => rfl
  | cons right rest => cases right <;> rfl

@[simp]
theorem hasPlace_nil (a : Appointment δ) (l r : Heap δ) :
  hasPlace [] (node a l r) = true
  := rfl

@[simp]
theorem hasPlace_left (rest : List Bool) (a : Appointment δ) (l r : Heap δ) :
  hasPlace (false :: rest) (node a l r) = hasPlace rest l
  := rfl

@[simp]
theorem hasPlace_right (rest : List Bool) (a : Appointment δ) (l r : Heap δ) :
  hasPlace (true :: rest) (node a l r) = hasPlace rest r
  := rfl

/-- Which places a node has depends on the places of its parts only. -/
theorem hasPlace_node_congr {a b : Appointment δ} {l r l' r' : Heap δ}
    (left : ∀ w, hasPlace w l = hasPlace w l') (right : ∀ w, hasPlace w r = hasPlace w r')
    (way : List Bool) :
  hasPlace way (node a l r) = hasPlace way (node b l' r')
  := by
  match way with
  | [] => rfl
  | false :: rest => exact left rest
  | true :: rest => exact right rest

theorem hasPlace_shift (a b : Appointment δ) (way w : List Bool) (h : Heap δ) :
  hasPlace w (shift a way h) = hasPlace w (append b way h)
  := by
  induction h generalizing a way w with
  | empty => cases way <;> exact hasPlace_node_congr (fun _ => rfl) (fun _ => rfl) w
  | node c l r ihl ihr =>
    match way with
    | [] => exact hasPlace_node_congr (ihl c []) (fun _ => rfl) w
    | false :: rest => exact hasPlace_node_congr (ihl c rest) (fun _ => rfl) w
    | true :: rest => exact hasPlace_node_congr (fun _ => rfl) (ihr c rest) w

theorem hasPlace_insert (a b : Appointment δ) (way w : List Bool) (h : Heap δ) :
  hasPlace w (insert a way h) = hasPlace w (append b way h)
  := by
  induction h generalizing way w with
  | empty => cases way <;> exact hasPlace_node_congr (fun _ => rfl) (fun _ => rfl) w
  | node c l r ihl ihr =>
    match way with
    | [] =>
      rw [insert]
      split
      · apply hasPlace_shift
      · exact hasPlace_node_congr (ihl []) (fun _ => rfl) w
    | false :: rest =>
      rw [insert]
      split
      · apply hasPlace_shift
      · exact hasPlace_node_congr (ihl rest) (fun _ => rfl) w
    | true :: rest =>
      rw [insert]
      split
      · apply hasPlace_shift
      · exact hasPlace_node_congr (fun _ => rfl) (ihr rest) w

/-- At the end of a way all of whose beginnings are places, one place is added. -/
theorem hasPlace_append {a : Appointment δ} {way : List Bool} {h : Heap δ}
    (free : hasPlace way h = false)
    (above : ∀ w, w <+: way → w ≠ way → hasPlace w h = true) (w : List Bool) :
  hasPlace w (append a way h) = (hasPlace w h || w == way)
  := by
  induction way generalizing h w with
  | nil =>
    cases h with
    | empty => cases w with
      | nil => rfl
      | cons right rest => cases right <;> simp [append]
    | node b l r => cases free
  | cons right rest ih =>
    cases h with
    | empty => simpa using above [] List.nil_prefix (by simp)
    | node b l r =>
      have below (v : List Bool) (beginning : v <+: rest) (proper : v ≠ rest) :
          hasPlace (right :: v) (node b l r) = true :=
        above (right :: v) (List.cons_prefix_cons.mpr ⟨rfl, beginning⟩) (by simpa using proper)
      cases right with
      | false => match w with
        | [] => simp [append]
        | false :: w => simp [append, ih free below]
        | true :: w => simp [append]
      | true => match w with
        | [] => simp [append]
        | false :: w => simp [append]
        | true :: w => simp [append, ih free below]

theorem hasPlace_replaceTop (a : Appointment δ) (h : Heap δ) (w : List Bool) :
  hasPlace w (replaceTop a h) = hasPlace w h
  := by
  induction h generalizing a w with
  | empty => rfl
  | node b l r ihl ihr =>
    obtain ⟨same, -⟩ | ⟨x, -, same, -⟩ | ⟨y, -, same, -⟩ := replaceTop_node a b l r
    · rw [same]
      exact hasPlace_node_congr (fun _ => rfl) (fun _ => rfl) w
    · rw [same]
      exact hasPlace_node_congr (ihl a) (fun _ => rfl) w
    · rw [same]
      exact hasPlace_node_congr (fun _ => rfl) (ihr a) w

theorem hasPlace_order (h : Heap δ) (w : List Bool) :
  hasPlace w (order h) = hasPlace w h
  := by
  induction h generalizing w with
  | empty => rfl
  | node a l r ihl ihr =>
    rw [order, hasPlace_replaceTop]
    apply hasPlace_node_congr ihl ihr w

/-- A place below which there is none is removed, and no other one. -/
theorem hasPlace_removeLeaf {way : List Bool} {h : Heap δ} (here : hasPlace way h = true)
    (leaf : ∀ right, hasPlace (way ++ [right]) h = false) :
  ∃ last rest, removeLeaf way h = some (last, rest)
    ∧ ∀ w, hasPlace w rest = (hasPlace w h && w != way)
  := by
  induction way generalizing h with
  | nil =>
    cases h with
    | empty => cases here
    | node b l r =>
      have left : l = empty := by
        cases l with
        | empty => rfl
        | node => cases leaf false
      have right : r = empty := by
        cases r with
        | empty => rfl
        | node => cases leaf true
      rw [left, right]
      use b, empty, rfl
      intro w
      match w with
      | [] => rfl
      | false :: w => simp
      | true :: w => simp
  | cons right way ih =>
    cases h with
    | empty => simp at here
    | node b l r =>
      cases right with
      | false =>
        obtain ⟨last, rest, removed, places⟩ := ih here leaf
        use last, node b rest r
        constructor
        · simp [removeLeaf, removed]
        · intro w
          match w with
          | [] => rfl
          | false :: w => simp [bne, places w]
          | true :: w => simp
      | true =>
        obtain ⟨last, rest, removed, places⟩ := ih here leaf
        use last, node b l rest
        constructor
        · simp [removeLeaf, removed]
        · intro w
          match w with
          | [] => rfl
          | false :: w => simp
          | true :: w => simp [bne, places w]

/-! ### Filled heaps -/

/-- The places of a heap are the first ones. -/
def Filled (h : Heap δ) : Prop :=
  ∀ way, hasPlace way h = decide (placeOf way ≤ h.size)

theorem size_eq_of_perm {h h' : Heap δ} (perm : h.members.Perm h'.members) :
  h.size = h'.size
  := by
  rw [← length_members, perm.length_eq, length_members]

theorem size_eq_of_perm_cons {a : Appointment δ} {h h' : Heap δ}
    (perm : h.members.Perm (a :: h'.members)) :
  h.size = h'.size + 1
  := by
  rw [← length_members, perm.length_eq, List.length_cons, length_members]

theorem filled_empty :
  (empty : Heap δ).Filled
  := by
  intro way
  have := placeOf_pos way
  rw [hasPlace_empty, size]
  simp only [Bool.false_eq, decide_eq_false_iff_not]
  omega

theorem members_append (a : Appointment δ) (way : List Bool) (h : Heap δ) :
  (append a way h).members.Perm (a :: h.members)
  := by
  induction h generalizing way with
  | empty => cases way <;> exact List.Perm.refl _
  | node b l r ihl ihr =>
    have left (rest : List Bool) :
        (node b (append a rest l) r).members.Perm (a :: (node b l r).members) :=
      (((ihl rest).append_right _).cons _).trans (List.Perm.swap _ _ _)
    match way with
    | [] => exact left []
    | false :: rest => exact left rest
    | true :: rest =>
      apply List.Perm.trans _ (List.Perm.swap _ _ _)
      apply List.Perm.cons
      exact ((ihr rest).append_left _).trans List.perm_middle

theorem filled_append {a : Appointment δ} {h : Heap δ} (filled : h.Filled) :
  (append a (wayTo (h.size + 1)) h).Filled
  := by
  intro w
  have last : placeOf (wayTo (h.size + 1)) = h.size + 1 := placeOf_wayTo (by omega)
  have more : (append a (wayTo (h.size + 1)) h).size = h.size + 1 :=
    size_eq_of_perm_cons (members_append a _ h)
  have free : hasPlace (wayTo (h.size + 1)) h = false := by
    rw [filled, last, decide_eq_false_iff_not]
    omega
  have above : ∀ w, w <+: wayTo (h.size + 1) → w ≠ wayTo (h.size + 1) →
      hasPlace w h = true := by
    rintro w ⟨rest, whole⟩ proper
    have more : rest ≠ [] := by
      rintro rfl
      apply proper (by simpa using whole)
    have before := placeOf_lt_append w more
    rw [whole, last] at before
    rw [filled, decide_eq_true_iff]
    omega
  rw [hasPlace_append free above, filled, more, Bool.eq_iff_iff]
  simp only [Bool.or_eq_true, decide_eq_true_iff, beq_iff_eq]
  constructor
  · rintro (le | rfl)
    · omega
    · omega
  · intro le
    by_cases same : placeOf w = h.size + 1
    · right
      rw [← same, wayTo_placeOf]
    · left
      omega

theorem filled_of_hasPlace {h h' : Heap δ} (filled : h.Filled) (size : h'.size = h.size)
    (places : ∀ w, hasPlace w h' = hasPlace w h) :
  h'.Filled
  := by
  intro w
  rw [places, filled, size]

theorem filled_insert {a : Appointment δ} {h : Heap δ} (filled : h.Filled) :
  (insert a (wayTo (h.size + 1)) h).Filled
  := by
  apply filled_of_hasPlace (filled_append (a := a) filled)
  · apply size_eq_of_perm ((members_insert a _ h).trans (members_append a _ h).symm)
  · exact fun w => hasPlace_insert a a _ w h

theorem filled_replaceTop {a : Appointment δ} {h : Heap δ} (filled : h.Filled) :
  (replaceTop a h).Filled
  := by
  apply filled_of_hasPlace filled _ (hasPlace_replaceTop a h)
  cases h with
  | empty => rfl
  | node b l r =>
    have : size (node a l r) = size (node b l r) := rfl
    rw [← this]
    apply size_eq_of_perm (members_replaceTop a b l r)

theorem members_order (h : Heap δ) :
  h.order.members.Perm h.members
  := by
  induction h with
  | empty => exact List.Perm.refl _
  | node a l r ihl ihr =>
    rw [order]
    apply (members_replaceTop a a _ _).trans
    exact (ihl.append ihr).cons a

theorem filled_order {h : Heap δ} (filled : h.Filled) :
  h.order.Filled
  := by
  apply filled_of_hasPlace filled _ (hasPlace_order h)
  apply size_eq_of_perm (members_order h)

theorem filled_removeLeaf {h : Heap δ} (filled : h.Filled) (some : 0 < h.size) :
  ∃ last rest, removeLeaf (wayTo h.size) h = .some (last, rest) ∧ rest.Filled
  := by
  have here : hasPlace (wayTo h.size) h = true := by
    rw [filled, placeOf_wayTo some, decide_eq_true (Nat.le_refl _)]
  have leaf (right : Bool) : hasPlace (wayTo h.size ++ [right]) h = false := by
    rw [filled, placeOf_concat, placeOf_wayTo some, decide_eq_false_iff_not]
    omega
  obtain ⟨last, rest, removed, places⟩ := hasPlace_removeLeaf here leaf
  use last, rest, removed
  intro w
  have size : h.size = rest.size + 1 := size_eq_of_perm_cons (members_removeLeaf removed)
  rw [places, filled, Bool.eq_iff_iff]
  simp only [Bool.and_eq_true, decide_eq_true_iff, bne_iff_ne]
  constructor
  · rintro ⟨le, ne⟩
    by_contra more
    apply ne
    have same : placeOf w = h.size := by omega
    rw [← same, wayTo_placeOf]
  · intro le
    constructor
    · omega
    · rintro rfl
      rw [placeOf_wayTo some] at le
      omega

/-! ### All appointments by their places -/

/-- The ways that turn to one side first, from there on. -/
def turning (right : Bool) (ways : List (List Bool)) : List (List Bool) :=
  (ways.filter fun w => w.head? == some right).map List.tail

theorem mem_turning {right : Bool} {ways : List (List Bool)} {rest : List Bool} :
  rest ∈ turning right ways ↔ right :: rest ∈ ways
  := by
  simp only [turning, List.mem_map, List.mem_filter, beq_iff_eq]
  constructor
  · rintro ⟨w, ⟨mem, head⟩, rfl⟩
    rw [List.eq_cons_of_mem_head? head] at mem
    apply mem
  · intro mem
    exact ⟨right :: rest, ⟨mem, rfl⟩, rfl⟩

theorem nodup_turning {right : Bool} {ways : List (List Bool)} (nodup : ways.Nodup) :
  (turning right ways).Nodup
  := by
  apply List.Nodup.map_on _ (nodup.filter _)
  intro w mem w' mem' same
  have head := beq_iff_eq.mp (List.mem_filter.mp mem).2
  have head' := beq_iff_eq.mp (List.mem_filter.mp mem').2
  rw [List.eq_cons_of_mem_head? head, List.eq_cons_of_mem_head? head', same]

/-- A list of ways falls into the way that is at its end, those to the left and those to the
right. -/
theorem perm_turning {ways : List (List Bool)} (nodup : ways.Nodup) (here : [] ∈ ways) :
  ways.Perm ([] :: ((turning false ways).map (false :: ·) ++ (turning true ways).map (true :: ·)))
  := by
  have inj (right : Bool) : Function.Injective (right :: · : List Bool → List Bool) :=
    fun _ _ same => (List.cons.inj same).2
  apply (List.perm_ext_iff_of_nodup nodup _).mpr
  · intro w
    match w with
    | [] => simp [here]
    | false :: rest => simp [mem_turning]
    | true :: rest => simp [mem_turning]
  · rw [List.nodup_cons, List.nodup_append]
    constructor
    · simp
    · use (nodup_turning nodup).map (inj false), (nodup_turning nodup).map (inj true)
      intro w mem w' mem' same
      obtain ⟨_, -, rfl⟩ := List.mem_map.mp mem
      obtain ⟨_, -, rfl⟩ := List.mem_map.mp mem'
      cases same

/-- At the ends of ways that lead to all places, each by one way, are all appointments. -/
theorem perm_find? {h : Heap δ} {ways : List (List Bool)} (nodup : ways.Nodup)
    (all : ∀ w, hasPlace w h = true → w ∈ ways) :
  (ways.filterMap fun w => find? w h).Perm h.members
  := by
  induction h generalizing ways with
  | empty =>
    have none (w : List Bool) : find? w (empty : Heap δ) = none :=
      Option.not_isSome_iff_eq_none.mp (by simpa [hasPlace] using hasPlace_empty (δ := δ) w)
    simp [none, members]
  | node a l r ihl ihr =>
    have split := perm_turning nodup (all [] rfl)
    apply (split.filterMap _).trans
    rw [List.filterMap_cons, List.filterMap_append, List.filterMap_map, List.filterMap_map]
    apply List.Perm.cons a
    apply List.Perm.append
    · exact ihl (nodup_turning nodup) fun w mem => mem_turning.mpr (all (false :: w) mem)
    · exact ihr (nodup_turning nodup) fun w mem => mem_turning.mpr (all (true :: w) mem)

end Heap

namespace Agenda

variable {δ : Type}

/-- The heap of the agenda is filled. -/
def Filled (a : Agenda δ) : Prop := a.heap.Filled

theorem filled_empty :
  (empty : Agenda δ).Filled
  := Heap.filled_empty

theorem filled_add {a : Agenda δ} (due : Nat) (deed : δ) (filled : a.Filled) :
  (a.add due deed).Filled
  := Heap.filled_insert filled

theorem made_dropNext (a : Agenda δ) :
  a.dropNext.made = a.made
  := by
  rw [dropNext]
  split <;> rfl

theorem made_takeDue (now limit fuel : Nat) (a : Agenda δ) :
  (takeDue now limit fuel a).2.made = a.made
  := by
  induction fuel generalizing a with
  | zero => rfl
  | succ fuel ih =>
    rw [takeDue]
    split
    · rfl
    · split
      · exact (ih a.dropNext).trans a.made_dropNext
      · rfl

theorem filled_dropNext {a : Agenda δ} (filled : a.Filled) :
  a.dropNext.Filled
  := by
  by_cases some : 0 < a.size
  · obtain ⟨last, rest, removed, places⟩ := Heap.filled_removeLeaf filled some
    simp only [dropNext, size, removed]
    apply Heap.filled_replaceTop places
  · have none : a.heap = .empty := by
      rw [size, Nat.pos_iff_ne_zero, not_not] at some
      cases given : a.heap with
      | empty => rfl
      | node b l r =>
        rw [given, Heap.size] at some
        omega
    simp only [dropNext, none, Heap.removeLeaf]
    apply filled

theorem filled_takeDue {a : Agenda δ} (now limit fuel : Nat) (filled : a.Filled) :
  (takeDue now limit fuel a).2.Filled
  := by
  induction fuel generalizing a with
  | zero => exact filled
  | succ fuel ih =>
    rw [takeDue]
    split
    · apply filled
    · split
      · apply ih (filled_dropNext filled)
      · apply filled

theorem perm_places {a : Agenda δ} (filled : a.Filled) :
  a.places.Perm a.members
  := by
  have ways : a.places
      = ((List.range a.size).map fun i => Heap.wayTo (i + 1)).filterMap fun w =>
        a.heap.find? w := by
    rw [List.filterMap_map]
    rfl
  rw [ways]
  apply Heap.perm_find?
  · apply List.Nodup.map_on _ List.nodup_range
    intro i _ j _ same
    have := congrArg Heap.placeOf same
    rw [Heap.placeOf_wayTo (by omega), Heap.placeOf_wayTo (by omega)] at this
    omega
  · intro w place
    have pos := Heap.placeOf_pos w
    rw [filled, decide_eq_true_iff] at place
    rw [List.mem_map]
    use Heap.placeOf w - 1
    constructor
    · rw [List.mem_range, size]
      omega
    · rw [Nat.sub_add_cancel pos, Heap.wayTo_placeOf]

/-- The tree that a list of appointments is put into, level by level. -/
theorem filled_foldl_append (as : List (Appointment δ)) {tree : Heap δ} (filled : tree.Filled) :
  let whole := (as.zipIdx tree.size).foldl
    (fun tree entry => Heap.append entry.1 (Heap.wayTo (entry.2 + 1)) tree) tree
  whole.Filled ∧ whole.members.Perm (as ++ tree.members)
  := by
  induction as generalizing tree with
  | nil => exact ⟨filled, List.Perm.refl _⟩
  | cons a rest ih =>
    have perm := Heap.members_append a (Heap.wayTo (tree.size + 1)) tree
    have more := ih (Heap.filled_append (a := a) filled)
    rw [Heap.size_eq_of_perm_cons perm] at more
    use more.1
    apply more.2.trans
    apply (perm.append_left rest).trans
    apply List.perm_middle

theorem filled_rebuilt (keep : Appointment δ → Bool) (a : Agenda δ) :
  (a.rebuilt keep).Filled
  := Heap.filled_order (filled_foldl_append (a.places.filter keep) Heap.filled_empty).1

/-- An agenda that is rebuilt keeps the appointments that pass the test. -/
theorem members_rebuilt {keep : Appointment δ → Bool} {a : Agenda δ} (filled : a.Filled) :
  (a.rebuilt keep).members.Perm (a.members.filter keep)
  := by
  have tree := (filled_foldl_append (a.places.filter keep) Heap.filled_empty).2
  rw [Heap.members, List.append_nil] at tree
  apply (Heap.members_order _).trans
  apply tree.trans
  exact (perm_places filled).filter keep

end Agenda

end ReflexPolicy

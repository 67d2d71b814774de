/-!
# Agendas

An agenda holds appointments, each due at some tick, and gives them back in the order in which
they are due.  It is a heap: a binary tree, filled level by level from the left, in which no
appointment is due before the one above it.  Appointments that are due at one tick come in the
order in which the heap gives them back, which depends on all that was put in and taken out
before; that order is part of what an agenda does.

`members_add` and `members_dropNext` say that no appointment is lost or made up, `isOrdered_add`
and `isOrdered_dropNext` that the heap stays in order, `next?_le` that no other appointment is due
before the next one, and `not_due_of_takeDue` that none that is due is left behind.
-/

namespace ReflexPolicy

/-- Something to be done when it is due. -/
structure Appointment (δ : Type) where
  due : Nat
  number : Nat
  deed : δ

/-- A binary tree of appointments. -/
inductive Heap (δ : Type) where
  | empty
  | node (top : Appointment δ) (left right : Heap δ)

namespace Heap

variable {δ : Type}

/-- The appointments of a heap. -/
def members : Heap δ → List (Appointment δ)
  | empty => []
  | node a l r => a :: (l.members ++ r.members)

/-- The number of appointments. -/
def size : Heap δ → Nat
  | empty => 0
  | node _ l r => 1 + (l.size + r.size)

/-- The appointment at the top. -/
def top? : Heap δ → Option (Appointment δ)
  | empty => none
  | node a _ _ => some a

/-- No appointment is due before a tick. -/
def noneBefore (tick : Nat) : Heap δ → Prop
  | empty => True
  | node a l r => tick ≤ a.due ∧ l.noneBefore tick ∧ r.noneBefore tick

/-- No appointment is due before the one above it. -/
def IsOrdered : Heap δ → Prop
  | empty => True
  | node a l r => l.noneBefore a.due ∧ r.noneBefore a.due ∧ l.IsOrdered ∧ r.IsOrdered

/-- Below the top, no appointment is due before the one above it. -/
def PartsOrdered : Heap δ → Prop
  | empty => True
  | node _ l r => l.IsOrdered ∧ r.IsOrdered

/-! ### Changes -/

/-- The way from the top to a place, places being counted from one level by level: the binary
digits of the place behind the first one, where one leads to the right. -/
def wayTo (place : Nat) : List Bool :=
  if place ≤ 1 then [] else wayTo (place / 2) ++ [place % 2 == 1]

/-- The heap with an appointment at its top, and every other one on the way to a free place moved
one place down.  A way that is too short goes on to the left. -/
def shift (a : Appointment δ) : List Bool → Heap δ → Heap δ
  | _, empty => node a empty empty
  | [], node b l r => node a (shift b [] l) r
  | false :: rest, node b l r => node a (shift b rest l) r
  | true :: rest, node b l r => node a l (shift b rest r)

/-- The heap with an appointment put in on the way to a free place, above the first one that it is
due before. -/
def insert (a : Appointment δ) : List Bool → Heap δ → Heap δ
  | _, empty => node a empty empty
  | [], node b l r =>
    if a.due < b.due then shift a [] (node b l r) else node b (insert a [] l) r
  | false :: rest, node b l r =>
    if a.due < b.due then shift a (false :: rest) (node b l r) else node b (insert a rest l) r
  | true :: rest, node b l r =>
    if a.due < b.due then shift a (true :: rest) (node b l r) else node b l (insert a rest r)

/-- The appointment at the last place of a way, and the heap without it.  A way that is too short
goes on to the left, and one that leads nowhere turns to the other side. -/
def removeLeaf : List Bool → Heap δ → Option (Appointment δ × Heap δ)
  | _, empty => none
  | way, node b l r =>
    let onLeft := (removeLeaf way.tail l).map fun found => (found.1, node b found.2 r)
    let onRight := (removeLeaf way.tail r).map fun found => (found.1, node b l found.2)
    let found := if way.head? = some true then onRight.or onLeft else onLeft.or onRight
    some (found.getD (b, empty))

/-- The heap with another appointment instead of the one at the top.  As long as a heap below has
an earlier one at its top, the earliest of them moves up; of two that are due at one tick, the one
on the right. -/
def replaceTop (a : Appointment δ) : Heap δ → Heap δ
  | empty => empty
  | node _ l r =>
    match l.top?, r.top? with
    | none, none => node a l r
    | some x, none => if a.due < x.due then node a l r else node x (replaceTop a l) r
    | none, some y => if a.due < y.due then node a l r else node y l (replaceTop a r)
    | some x, some y =>
      if x.due < y.due then
        if a.due < x.due then node a l r else node x (replaceTop a l) r
      else if a.due < y.due then node a l r else node y l (replaceTop a r)

/-- The appointment at the end of a way. -/
def find? : List Bool → Heap δ → Option (Appointment δ)
  | _, empty => none
  | [], node a _ _ => some a
  | false :: rest, node _ l _ => find? rest l
  | true :: rest, node _ _ r => find? rest r

/-- The tree with an appointment at the end of a way, wherever the others are due. -/
def append (a : Appointment δ) : List Bool → Heap δ → Heap δ
  | _, empty => node a empty empty
  | [], node b l r => node b (append a [] l) r
  | false :: rest, node b l r => node b (append a rest l) r
  | true :: rest, node b l r => node b l (append a rest r)

/-- The tree put in order from below. -/
def order : Heap δ → Heap δ
  | empty => empty
  | node a l r => replaceTop a (node a (order l) (order r))

/-! ### Nothing is lost -/

theorem length_members (h : Heap δ) :
  h.members.length = h.size
  := by
  induction h with
  | empty => rfl
  | node a l r ihl ihr => simp [members, size, ihl, ihr, Nat.add_comm]

theorem members_shift (a : Appointment δ) (way : List Bool) (h : Heap δ) :
  (shift a way h).members.Perm (a :: h.members)
  := by
  induction h generalizing a way with
  | empty => simp [shift, members]
  | node b l r ihl ihr =>
    match way with
    | [] => exact ((ihl b []).append_right _).cons _
    | false :: rest => exact ((ihl b rest).append_right _).cons _
    | true :: rest =>
      apply List.Perm.cons
      exact ((ihr b rest).append_left _).trans List.perm_middle

theorem members_insert (a : Appointment δ) (way : List Bool) (h : Heap δ) :
  (insert a way h).members.Perm (a :: h.members)
  := by
  induction h generalizing way with
  | empty => simp [insert, members]
  | node b l r ihl ihr =>
    have left (rest : List Bool) :
        (node b (insert a rest l) r).members.Perm (a :: (node b l r).members) :=
      (((ihl rest).append_right _).cons _).trans (List.Perm.swap _ _ _)
    have right (rest : List Bool) :
        (node b l (insert a rest r)).members.Perm (a :: (node b l r).members) :=
      ((((ihr rest).append_left _).trans List.perm_middle).cons _).trans (List.Perm.swap _ _ _)
    match way with
    | [] =>
      simp only [insert]
      split
      · apply members_shift
      · apply left
    | false :: rest =>
      simp only [insert]
      split
      · apply members_shift
      · apply left
    | true :: rest =>
      simp only [insert]
      split
      · apply members_shift
      · apply right

theorem removeLeaf_isSome {h : Heap δ} (way : List Bool) (ne : h ≠ empty) :
  (removeLeaf way h).isSome = true
  := by
  cases h with
  | empty => exact absurd rfl ne
  | node b l r => simp [removeLeaf]

/-- A leaf of a node is removed from the left part or from the right part, or the node is a leaf
itself. -/
theorem removeLeaf_node {way : List Bool} {b a : Appointment δ} {l r rest : Heap δ}
    (e : removeLeaf way (node b l r) = some (a, rest)) :
  (∃ t, removeLeaf way.tail l = some (a, t) ∧ rest = node b t r)
    ∨ (∃ t, removeLeaf way.tail r = some (a, t) ∧ rest = node b l t)
    ∨ l = empty ∧ r = empty ∧ a = b ∧ rest = empty
  := by
  have empty_of_none {h : Heap δ} (f : removeLeaf way.tail h = none) : h = empty := by
    by_cases ne : h = empty
    · exact ne
    · simpa [f] using removeLeaf_isSome way.tail ne
  rw [removeLeaf, Option.some.injEq] at e
  cases fl : removeLeaf way.tail l with
  | some p =>
    cases fr : removeLeaf way.tail r with
    | some q =>
      rw [fl, fr] at e
      split at e
      · cases e
        exact .inr (.inl ⟨q.2, rfl, rfl⟩)
      · cases e
        exact .inl ⟨p.2, rfl, rfl⟩
    | none =>
      have left : (p.1, node b p.2 r) = (a, rest) := by simpa [fl, fr] using e
      cases left
      exact .inl ⟨p.2, rfl, rfl⟩
  | none =>
    cases fr : removeLeaf way.tail r with
    | some q =>
      have right : (q.1, node b l q.2) = (a, rest) := by simpa [fl, fr] using e
      cases right
      exact .inr (.inl ⟨q.2, rfl, rfl⟩)
    | none =>
      have top : (b, empty) = (a, rest) := by simpa [fl, fr] using e
      cases top
      exact .inr (.inr ⟨empty_of_none fl, empty_of_none fr, rfl, rfl⟩)

theorem members_removeLeaf {way : List Bool} {h rest : Heap δ} {a : Appointment δ}
    (e : removeLeaf way h = some (a, rest)) :
  h.members.Perm (a :: rest.members)
  := by
  induction h generalizing way rest a with
  | empty => simp [removeLeaf] at e
  | node b l r ihl ihr =>
    obtain ⟨t, f, rfl⟩ | ⟨t, f, rfl⟩ | ⟨rfl, rfl, rfl, rfl⟩ := removeLeaf_node e
    · exact (((ihl f).append_right _).cons _).trans (List.Perm.swap _ _ _)
    · apply List.Perm.trans _ (List.Perm.swap _ _ _)
      exact (((ihr f).append_left _).trans List.perm_middle).cons _
    · exact List.Perm.refl _

theorem top_of_removeLeaf {way : List Bool} {b a : Appointment δ} {l r rest : Heap δ}
    (e : removeLeaf way (node b l r) = some (a, rest)) :
  match rest with
  | empty => a = b
  | node c _ _ => c = b
  := by
  obtain ⟨t, -, rfl⟩ | ⟨t, -, rfl⟩ | ⟨-, -, rfl, rfl⟩ := removeLeaf_node e
  · rfl
  · rfl
  · rfl

/-- An appointment in the place of the top stays there if neither part has an earlier one at its
top; otherwise the earliest of those moves up, and the appointment goes to its part. -/
theorem replaceTop_node (a b : Appointment δ) (l r : Heap δ) :
  (replaceTop a (node b l r) = node a l r
      ∧ (∀ x ∈ l.top?, a.due ≤ x.due) ∧ ∀ y ∈ r.top?, a.due ≤ y.due)
    ∨ (∃ x ∈ l.top?, replaceTop a (node b l r) = node x (replaceTop a l) r
      ∧ x.due ≤ a.due ∧ ∀ y ∈ r.top?, x.due ≤ y.due)
    ∨ ∃ y ∈ r.top?, replaceTop a (node b l r) = node y l (replaceTop a r)
      ∧ y.due ≤ a.due ∧ ∀ x ∈ l.top?, y.due ≤ x.due
  := by
  rw [replaceTop]
  match l.top?, r.top? with
  | none, none => exact .inl ⟨rfl, nofun, nofun⟩
  | some x, none =>
    by_cases first : a.due < x.due
    · simp [first, Nat.le_of_lt first]
    · simp [first, Nat.le_of_not_lt first]
  | none, some y =>
    by_cases first : a.due < y.due
    · simp [first, Nat.le_of_lt first]
    · simp [first, Nat.le_of_not_lt first]
  | some x, some y =>
    by_cases left : x.due < y.due
    · by_cases first : a.due < x.due
      · simp [left, first, Nat.le_of_lt first, Nat.le_of_lt (Nat.lt_trans first left)]
      · simp [left, first, Nat.le_of_lt left, Nat.le_of_not_lt first]
    · have right := Nat.le_of_not_lt left
      by_cases first : a.due < y.due
      · simp [left, first, Nat.le_of_lt first, Nat.le_trans (Nat.le_of_lt first) right]
      · simp [left, first, right, Nat.le_of_not_lt first]

/-- The appointment comes in for the top. -/
theorem members_replaceTop_of_top? (a : Appointment δ) {x : Appointment δ} {h : Heap δ}
    (top : x ∈ h.top?) :
  (x :: (replaceTop a h).members).Perm (a :: h.members)
  := by
  induction h generalizing x with
  | empty => cases top
  | node b l r ihl ihr =>
    cases top
    apply List.Perm.trans _ (List.Perm.swap _ _ _)
    apply List.Perm.cons
    obtain ⟨same, -⟩ | ⟨x, top, same, -⟩ | ⟨y, top, same, -⟩ := replaceTop_node a b l r
    · rw [same]
      exact List.Perm.refl _
    · rw [same]
      exact (ihl top).append_right _
    · rw [same]
      exact List.perm_middle.symm.trans (((ihr top).append_left _).trans List.perm_middle)

theorem members_replaceTop (a b : Appointment δ) (l r : Heap δ) :
  (replaceTop a (node b l r)).members.Perm (a :: (l.members ++ r.members))
  := by
  rw [← List.perm_cons b]
  apply (members_replaceTop_of_top? a rfl).trans
  apply List.Perm.swap

/-! ### The order is kept -/

theorem noneBefore_iff {tick : Nat} {h : Heap δ} :
  h.noneBefore tick ↔ ∀ a ∈ h.members, tick ≤ a.due
  := by
  induction h with
  | empty => simp [noneBefore, members]
  | node b l r ihl ihr =>
    simp only [noneBefore, members, List.mem_cons, List.mem_append, ihl, ihr]
    constructor
    · rintro ⟨hb, hl, hr⟩ a (rfl | ha | ha)
      · exact hb
      · exact hl a ha
      · exact hr a ha
    · intro all
      exact ⟨all b (.inl rfl), fun a ha => all a (.inr (.inl ha)),
        fun a ha => all a (.inr (.inr ha))⟩

theorem noneBefore_of_le {s t : Nat} {h : Heap δ} (le : s ≤ t) (none : h.noneBefore t) :
  h.noneBefore s
  := by
  rw [noneBefore_iff] at none ⊢
  exact fun a ha => Nat.le_trans le (none a ha)

theorem noneBefore_of_perm {tick : Nat} {h : Heap δ} {as : List (Appointment δ)}
    (perm : h.members.Perm as) (all : ∀ a ∈ as, tick ≤ a.due) :
  h.noneBefore tick
  := by
  rw [noneBefore_iff]
  exact fun a ha => all a (perm.mem_iff.mp ha)

theorem noneBefore_shift {tick : Nat} {a : Appointment δ} {h : Heap δ} (way : List Bool)
    (le : tick ≤ a.due) (none : h.noneBefore tick) :
  (shift a way h).noneBefore tick
  := by
  apply noneBefore_of_perm (members_shift a way h)
  rw [noneBefore_iff] at none
  intro b hb
  cases hb with
  | head => exact le
  | tail _ hb => exact none b hb

theorem noneBefore_insert {tick : Nat} {a : Appointment δ} {h : Heap δ} (way : List Bool)
    (le : tick ≤ a.due) (none : h.noneBefore tick) :
  (insert a way h).noneBefore tick
  := by
  apply noneBefore_of_perm (members_insert a way h)
  rw [noneBefore_iff] at none
  intro b hb
  cases hb with
  | head => exact le
  | tail _ hb => exact none b hb

theorem noneBefore_removeLeaf {tick : Nat} {way : List Bool} {h rest : Heap δ}
    {a : Appointment δ} (e : removeLeaf way h = some (a, rest)) (none : h.noneBefore tick) :
  rest.noneBefore tick
  := by
  rw [noneBefore_iff] at none ⊢
  intro b hb
  exact none b ((members_removeLeaf e).mem_iff.mpr (List.mem_cons_of_mem _ hb))

theorem isOrdered_shift {a : Appointment δ} {h : Heap δ} (way : List Bool)
    (none : h.noneBefore a.due) (ordered : h.IsOrdered) :
  (shift a way h).IsOrdered
  := by
  induction h generalizing a way with
  | empty => simp [shift, IsOrdered, noneBefore]
  | node b l r ihl ihr =>
    obtain ⟨le, nl, nr⟩ := none
    obtain ⟨bl, br, ol, or⟩ := ordered
    match way with
    | [] => exact ⟨noneBefore_shift [] le nl, nr, ihl [] bl ol, or⟩
    | false :: rest => exact ⟨noneBefore_shift rest le nl, nr, ihl rest bl ol, or⟩
    | true :: rest => exact ⟨nl, noneBefore_shift rest le nr, ol, ihr rest br or⟩

theorem isOrdered_insert {h : Heap δ} (a : Appointment δ) (way : List Bool)
    (ordered : h.IsOrdered) :
  (insert a way h).IsOrdered
  := by
  induction h generalizing way with
  | empty => simp [insert, IsOrdered, noneBefore]
  | node b l r ihl ihr =>
    have early (way : List Bool) (lt : a.due < b.due) :
        (shift a way (node b l r)).IsOrdered := by
      apply isOrdered_shift way _ ordered
      have le := Nat.le_of_lt lt
      exact ⟨le, noneBefore_of_le le ordered.1, noneBefore_of_le le ordered.2.1⟩
    obtain ⟨bl, br, ol, or⟩ := ordered
    match way with
    | [] =>
      simp only [insert]
      split
      · exact early [] ‹_›
      · exact ⟨noneBefore_insert [] (Nat.le_of_not_lt ‹_›) bl, br, ihl [] ol, or⟩
    | false :: rest =>
      simp only [insert]
      split
      · exact early _ ‹_›
      · exact ⟨noneBefore_insert rest (Nat.le_of_not_lt ‹_›) bl, br, ihl rest ol, or⟩
    | true :: rest =>
      simp only [insert]
      split
      · exact early _ ‹_›
      · exact ⟨bl, noneBefore_insert rest (Nat.le_of_not_lt ‹_›) br, ol, ihr rest or⟩

theorem isOrdered_removeLeaf {way : List Bool} {h rest : Heap δ} {a : Appointment δ}
    (e : removeLeaf way h = some (a, rest)) (ordered : h.IsOrdered) :
  rest.IsOrdered
  := by
  induction h generalizing way rest a with
  | empty => simp [removeLeaf] at e
  | node b l r ihl ihr =>
    obtain ⟨bl, br, ol, or⟩ := ordered
    obtain ⟨t, f, rfl⟩ | ⟨t, f, rfl⟩ | ⟨-, -, -, rfl⟩ := removeLeaf_node e
    · exact ⟨noneBefore_removeLeaf f bl, br, ihl f ol, or⟩
    · exact ⟨bl, noneBefore_removeLeaf f br, ol, ihr f or⟩
    · trivial

theorem noneBefore_of_top? {tick : Nat} {h : Heap δ} (ordered : h.IsOrdered)
    (le : ∀ x ∈ h.top?, tick ≤ x.due) :
  h.noneBefore tick
  := by
  cases h with
  | empty => trivial
  | node b l r =>
    have first : tick ≤ b.due := le b rfl
    exact ⟨first, noneBefore_of_le first ordered.1, noneBefore_of_le first ordered.2.1⟩

theorem noneBefore_of_top {a : Appointment δ} {h : Heap δ} (t : h.top? = some a)
    (ordered : h.IsOrdered) :
  h.noneBefore a.due
  := by
  apply noneBefore_of_top? ordered
  rw [t]
  rintro x ⟨⟩
  apply Nat.le_refl

theorem noneBefore_replaceTop {tick : Nat} {a : Appointment δ} {h : Heap δ}
    (le : tick ≤ a.due) (none : h.noneBefore tick) :
  (replaceTop a h).noneBefore tick
  := by
  cases h with
  | empty => trivial
  | node b l r =>
    apply noneBefore_of_perm (members_replaceTop a b l r)
    rw [noneBefore_iff] at none
    intro c hc
    cases hc with
    | head => exact le
    | tail _ hc => exact none c (List.mem_cons_of_mem _ hc)

theorem partsOrdered_of_isOrdered {h : Heap δ} (ordered : h.IsOrdered) :
  h.PartsOrdered
  := by
  cases h with
  | empty => trivial
  | node _ _ _ => exact ⟨ordered.2.2.1, ordered.2.2.2⟩

theorem isOrdered_replaceTop {h : Heap δ} (a : Appointment δ) (parts : h.PartsOrdered) :
  (replaceTop a h).IsOrdered
  := by
  induction h with
  | empty => trivial
  | node b l r ihl ihr =>
    obtain ⟨ol, or⟩ := parts
    obtain ⟨same, left, right⟩ | ⟨x, top, same, le, right⟩ | ⟨y, top, same, le, left⟩ :=
      replaceTop_node a b l r
    · rw [same]
      exact ⟨noneBefore_of_top? ol left, noneBefore_of_top? or right, ol, or⟩
    · rw [same]
      exact ⟨noneBefore_replaceTop le (noneBefore_of_top top ol), noneBefore_of_top? or right,
        ihl (partsOrdered_of_isOrdered ol), or⟩
    · rw [same]
      exact ⟨noneBefore_of_top? ol left, noneBefore_replaceTop le (noneBefore_of_top top or), ol,
        ihr (partsOrdered_of_isOrdered or)⟩

theorem isOrdered_order (h : Heap δ) :
  h.order.IsOrdered
  := by
  induction h with
  | empty => trivial
  | node a l r ihl ihr =>
    rw [order]
    apply isOrdered_replaceTop
    exact ⟨ihl, ihr⟩

end Heap

/-- A heap of appointments, with the number of all that were ever made. -/
structure Agenda (δ : Type) where
  heap : Heap δ
  made : Nat

namespace Agenda

variable {δ : Type}

/-- The agenda without appointments. -/
def empty : Agenda δ := { heap := .empty, made := 0 }

/-- The number of appointments. -/
def size (a : Agenda δ) : Nat := a.heap.size

/-- The appointments, in no particular order. -/
def members (a : Agenda δ) : List (Appointment δ) := a.heap.members

/-- No appointment is due before the one above it. -/
def IsOrdered (a : Agenda δ) : Prop := a.heap.IsOrdered

/-- The agenda with one more appointment, whose number is that of the appointments made before. -/
def add (a : Agenda δ) (due : Nat) (deed : δ) : Agenda δ :=
  { heap := a.heap.insert { due := due, number := a.made, deed := deed } (Heap.wayTo (a.size + 1))
    made := a.made + 1 }

/-- The appointment that comes next. -/
def next? (a : Agenda δ) : Option (Appointment δ) := a.heap.top?

/-- The agenda without the appointment that comes next: the last one in the tree takes its
place. -/
def dropNext (a : Agenda δ) : Agenda δ :=
  match a.heap.removeLeaf (Heap.wayTo a.size) with
  | none => a
  | some (last, rest) => { a with heap := rest.replaceTop last }

/-- The appointments that are due at a tick or before a limit, in order, and the agenda without
them; at most so many are taken. -/
def takeDue (now limit : Nat) : Nat → Agenda δ → List (Appointment δ) × Agenda δ
  | 0, a => ([], a)
  | fuel + 1, a =>
    match a.next? with
    | none => ([], a)
    | some next =>
      if next.due ≤ now ∨ next.due < limit then
        let (others, rest) := takeDue now limit fuel a.dropNext
        (next :: others, rest)
      else ([], a)

/-- The appointments in the order of their places in the tree. -/
def places (a : Agenda δ) : List (Appointment δ) :=
  (List.range a.size).filterMap fun i => a.heap.find? (Heap.wayTo (i + 1))

/-- The agenda of the appointments that pass a test, put in order anew. -/
def rebuilt (keep : Appointment δ → Bool) (a : Agenda δ) : Agenda δ :=
  let tree := (a.places.filter keep).zipIdx.foldl
    (fun tree entry => Heap.append entry.1 (Heap.wayTo (entry.2 + 1)) tree) Heap.empty
  { a with heap := tree.order }

theorem members_add (a : Agenda δ) (due : Nat) (deed : δ) :
  (a.add due deed).members.Perm
    ({ due := due, number := a.made, deed := deed } :: a.members)
  := Heap.members_insert _ _ _

theorem isOrdered_add {a : Agenda δ} (due : Nat) (deed : δ) (ordered : a.IsOrdered) :
  (a.add due deed).IsOrdered
  := Heap.isOrdered_insert _ _ ordered

theorem members_dropNext {a : Agenda δ} {next : Appointment δ} (h : a.next? = some next) :
  a.members.Perm (next :: a.dropNext.members)
  := by
  obtain ⟨heap, made⟩ := a
  cases heap with
  | empty => simp [next?, Heap.top?] at h
  | node b l r =>
    simp only [next?, Heap.top?, Option.some.injEq] at h
    subst h
    simp only [members, dropNext]
    split
    · rename_i none
      simp [Heap.removeLeaf] at none
    · rename_i last rest e
      apply (Heap.members_removeLeaf e).trans
      cases rest with
      | empty =>
        have same := (Heap.members_removeLeaf e).length_eq
        have top := Heap.top_of_removeLeaf e
        simp [top, Heap.replaceTop]
      | node c l' r' =>
        have top : c = b := Heap.top_of_removeLeaf e
        subst top
        apply (List.Perm.swap _ _ _).trans
        exact (Heap.members_replaceTop last c l' r').symm.cons _

theorem isOrdered_dropNext {a : Agenda δ} (ordered : a.IsOrdered) :
  a.dropNext.IsOrdered
  := by
  simp only [dropNext]
  split
  · exact ordered
  · rename_i last rest e
    apply Heap.isOrdered_replaceTop
    apply Heap.partsOrdered_of_isOrdered
    exact Heap.isOrdered_removeLeaf e ordered

theorem next?_le {a : Agenda δ} {next other : Appointment δ} (ordered : a.IsOrdered)
    (h : a.next? = some next) (mem : other ∈ a.members) :
  next.due ≤ other.due
  := Heap.noneBefore_iff.mp (Heap.noneBefore_of_top h ordered) other mem

theorem isOrdered_rebuilt (keep : Appointment δ → Bool) (a : Agenda δ) :
  (a.rebuilt keep).IsOrdered
  := Heap.isOrdered_order _

theorem isOrdered_takeDue {a : Agenda δ} (now limit fuel : Nat) (ordered : a.IsOrdered) :
  (takeDue now limit fuel a).2.IsOrdered
  := by
  induction fuel generalizing a with
  | zero => exact ordered
  | succ fuel ih =>
    simp only [takeDue]
    split
    · exact ordered
    · split
      · exact ih (isOrdered_dropNext ordered)
      · exact ordered

theorem members_takeDue (now limit fuel : Nat) (a : Agenda δ) :
  a.members.Perm ((takeDue now limit fuel a).1 ++ (takeDue now limit fuel a).2.members)
  := by
  induction fuel generalizing a with
  | zero => exact List.Perm.refl _
  | succ fuel ih =>
    simp only [takeDue]
    split
    · exact List.Perm.refl _
    · rename_i h
      split
      · exact (members_dropNext h).trans ((ih a.dropNext).cons _)
      · exact List.Perm.refl _

theorem size_dropNext {a : Agenda δ} {next : Appointment δ} (h : a.next? = some next) :
  a.size = a.dropNext.size + 1
  := by
  simp only [size, ← Heap.length_members]
  exact (members_dropNext h).length_eq

/-- When as many appointments may be taken as there are, none that is due is left. -/
theorem not_due_of_takeDue {a : Agenda δ} {now limit fuel : Nat} {other : Appointment δ}
    (ordered : a.IsOrdered) (enough : a.size ≤ fuel)
    (mem : other ∈ (takeDue now limit fuel a).2.members) :
  now < other.due ∧ limit ≤ other.due
  := by
  induction fuel generalizing a with
  | zero =>
    have none : a.members.length = 0 := by
      rw [members, Heap.length_members]
      exact Nat.le_zero.mp enough
    rw [takeDue, List.eq_nil_of_length_eq_zero none] at mem
    simp at mem
  | succ fuel ih =>
    simp only [takeDue] at mem
    split at mem
    · rename_i none
      obtain ⟨heap, made⟩ := a
      cases heap with
      | empty => simp [members, Heap.members] at mem
      | node b l r => simp [next?, Heap.top?] at none
    · rename_i next h
      split at mem
      · apply ih (isOrdered_dropNext ordered) _ mem
        have := size_dropNext h
        omega
      · have := next?_le ordered h mem
        omega

/-- What is taken is due. -/
theorem due_of_takeDue {a : Agenda δ} {now limit fuel : Nat} {taken : Appointment δ}
    (mem : taken ∈ (takeDue now limit fuel a).1) :
  taken.due ≤ now ∨ taken.due < limit
  := by
  induction fuel generalizing a with
  | zero => simp [takeDue] at mem
  | succ fuel ih =>
    simp only [takeDue] at mem
    split at mem
    · simp at mem
    · split at mem
      · rename_i due
        cases mem with
        | head => exact due
        | tail _ mem => exact ih mem
      · simp at mem

end Agenda

end ReflexPolicy

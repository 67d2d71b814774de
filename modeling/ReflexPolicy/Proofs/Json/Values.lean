import ReflexPolicy.Json.Reader
import ReflexPolicy.Json.Writer
import ReflexPolicy.Proofs.Success

/-!
# Values of JSON

A value of JSON holds no date and no moment, and its keys are texts.  Every such value can be
written, and whatever a text reads as is one, with no key twice in one mapping.
-/

namespace ReflexPolicy

/-- The scalar is no date and no moment. -/
def Scalar.IsJson : Scalar → Prop
  | .date _ => False
  | .moment _ => False
  | _ => True

/-- The value holds no date and no moment, and its keys are texts. -/
inductive Value.IsJson : Value → Prop where
  | scalar {s : Scalar} (plain : s.IsJson) : IsJson (.scalar s)
  | list {items : List Value} (plain : ∀ v ∈ items, IsJson v) : IsJson (.list items)
  | map {entries : List (Scalar × Value)} (keys : ∀ e ∈ entries, ∃ t, e.1 = .text t)
      (plain : ∀ e ∈ entries, IsJson e.2) : IsJson (.map entries)

/-- No mapping in the value has two entries under one key. -/
inductive Value.IsKeyed : Value → Prop where
  | scalar (s : Scalar) : IsKeyed (.scalar s)
  | list {items : List Value} (keyed : ∀ v ∈ items, IsKeyed v) : IsKeyed (.list items)
  | map {entries : List (Scalar × Value)} (distinct : Entries.IsDistinct entries)
      (keyed : ∀ e ∈ entries, IsKeyed e.2) : IsKeyed (.map entries)

namespace Value

theorem isJson_text (t : Text) :
  (Value.text t).IsJson
  := .scalar trivial

theorem isJson_float (x : Binary64) :
  (Value.float x).IsJson
  := .scalar trivial

theorem isJson_bool (b : Bool) :
  (Value.bool b).IsJson
  := .scalar trivial

theorem isJson_ofFields {fields : List (String × Value)} (plain : ∀ f ∈ fields, f.2.IsJson) :
  (Value.ofFields fields).IsJson
  := by
  apply IsJson.map
  · intro e mem
    obtain ⟨f, -, rfl⟩ := List.mem_map.mp mem
    exact ⟨f.1, rfl⟩
  · intro e mem
    obtain ⟨f, mem', rfl⟩ := List.mem_map.mp mem
    exact plain f mem'

end Value

namespace Json

variable {layout : Layout}

/-! ### Writing -/

theorem yields_scalarText {s : Scalar} (plain : s.IsJson) :
  Yields (fun _ => True) (scalarText s)
  := by
  cases s with
  | bool b => cases b <;> exact yields_ok trivial
  | number n => cases n <;> exact yields_ok trivial
  | null => exact yields_ok trivial
  | text t => exact yields_ok trivial
  | date d => exact plain.elim
  | moment m => exact plain.elim

theorem yields_writeItems {level : Nat} {items : List Value}
    (writes : ∀ v ∈ items, ∀ level, Yields (fun _ => True) (writeAt layout level v)) :
  Yields (fun _ => True) (writeItems layout level items)
  := by
  induction items with
  | nil => exact yields_ok trivial
  | cons v vs ih =>
    obtain ⟨first, writes⟩ := List.forall_mem_cons.mp writes
    rw [writeItems]
    apply yields_bind (first level)
    rintro t -
    apply yields_bind (ih writes)
    rintro ts -
    exact yields_pure trivial

theorem yields_texts {level : Nat} {entries : List (Scalar × Value)}
    (keys : ∀ e ∈ entries, ∃ t, e.1 = .text t)
    (writes : ∀ e ∈ entries, ∀ level, Yields (fun _ => True) (writeAt layout level e.2)) :
  Yields (fun _ => True) (texts (writeEntries layout level entries))
  := by
  induction entries with
  | nil => exact yields_ok trivial
  | cons e rest ih =>
    obtain ⟨⟨t, key⟩, keys⟩ := List.forall_mem_cons.mp keys
    obtain ⟨first, writes⟩ := List.forall_mem_cons.mp writes
    obtain ⟨value, written, -⟩ := first level
    obtain ⟨others, rest, -⟩ := ih keys writes
    obtain ⟨k, v⟩ := e
    dsimp only at key written
    rw [writeEntries, key, keyText, written]
    simp only [bind, Except.bind, pure, Except.pure, texts, rest]
    exact yields_ok trivial

/-- A value of JSON can be written with its keys in their own order. -/
theorem yields_writeAt (unsorted : layout.sortKeys = false) {v : Value} (plain : v.IsJson)
    (level : Nat) :
  Yields (fun _ => True) (writeAt layout level v)
  := by
  induction plain generalizing level with
  | scalar plain =>
    rw [writeAt]
    exact yields_scalarText plain
  | list plain ih =>
    rw [writeAt]
    apply yields_bind (yields_writeItems ih)
    rintro parts -
    exact yields_pure trivial
  | map keys plain ih =>
    rw [writeAt]
    simp only [arrange, unsorted, Bool.false_eq_true, if_false]
    apply yields_bind (yields_texts keys ih)
    rintro parts -
    exact yields_pure trivial

/-! ### Reading -/

/-- The entry is one of a mapping of JSON, with a value of some kind. -/
def IsMember (P : Value → Prop) (e : Scalar × Value) : Prop := (∃ t, e.1 = .text t) ∧ P e.2

/-- A kind of values that has the scalars of JSON, and the lists and mappings that are put together
from values of the kind. -/
structure IsReadable (P : Value → Prop) : Prop where
  scalar : ∀ s : Scalar, s.IsJson → P (.scalar s)
  list : ∀ items, (∀ v ∈ items, P v) → P (.list items)
  map : ∀ members, (∀ e ∈ members, IsMember P e) → P (.map (Entries.ofList members))

variable {P : Value → Prop}

theorem IsReadable.readName (readable : IsReadable P) {cs : List Char} {found : Value × List Char}
    (h : readName cs = some found) :
  P found.1
  := by
  have named : ∀ n ∈ names, P n.2 := by
    simp only [names, List.forall_mem_cons]
    exact ⟨readable.scalar _ trivial, readable.scalar _ trivial, readable.scalar _ trivial,
      readable.scalar _ trivial, readable.scalar _ trivial, readable.scalar _ trivial, by simp⟩
  obtain ⟨n, mem, read⟩ := List.exists_of_findSome?_eq_some h
  obtain ⟨rest, -, rfl⟩ := Option.map_eq_some_iff.mp read
  exact named n mem

theorem IsReadable.readPlain (readable : IsReadable P) {cs : List Char} {found : Value × List Char}
    (h : readPlain cs = .ok found) :
  P found.1
  := by
  have number {x : Except ReadFault (Number × List Char)}
      (h : (x.map fun found => (Value.number found.1, found.2)) = .ok found) : P found.1 := by
    cases x with
    | error e => cases h
    | ok n =>
      cases h
      exact readable.scalar _ trivial
  rw [Json.readPlain.eq_def] at h
  split at h
  · rename_i named
    cases h
    exact readable.readName named
  · split at h
    · exact number h
    · exact number h

/-- With so much fuel, what is read is of the kind: a value, the items of a list, or the members of
a mapping. -/
structure Reads (P : Value → Prop) (fuel : Nat) : Prop where
  value : ∀ cs found, readValue fuel cs = .ok found → P found.1
  items : ∀ before cs found, (∀ v ∈ before, P v) → readItems fuel before cs = .ok found →
    ∀ v ∈ found.1, P v
  members : ∀ before cs found, (∀ e ∈ before, IsMember P e) →
    readMembers fuel before cs = .ok found → ∀ e ∈ found.1, IsMember P e

theorem reads_zero :
  Reads P 0
  where
  value cs found h := by cases h
  items before cs found _ h := by cases h
  members before cs found _ h := by cases h

variable {fuel : Nat}

theorem Reads.readValue (reads : Reads P fuel) (readable : IsReadable P) (cs : List Char)
    (found : Value × List Char) (h : readValue (fuel + 1) cs = .ok found) :
  P found.1
  := by
  rw [Json.readValue.eq_def] at h
  dsimp only at h
  split at h
  · obtain ⟨t, -, rfl⟩ := map_eq_ok.mp h
    exact readable.scalar _ trivial
  · split at h
    · cases h
      exact readable.list [] (by simp)
    · obtain ⟨items, read, rfl⟩ := map_eq_ok.mp h
      exact readable.list _ (reads.items [] _ _ (by simp) read)
  · split at h
    · cases h
      exact readable.map [] (by simp)
    · obtain ⟨members, read, rfl⟩ := map_eq_ok.mp h
      exact readable.map _ (reads.members [] _ _ (by simp) read)
  · exact readable.readPlain h

theorem Reads.readItems (reads : Reads P fuel) (before : List Value) (cs : List Char)
    (found : List Value × List Char) (plain : ∀ v ∈ before, P v)
    (h : readItems (fuel + 1) before cs = .ok found) :
  ∀ v ∈ found.1, P v
  := by
  rw [Json.readItems] at h
  split at h
  · cases h
  · rename_i v rest read
    have plain : ∀ w ∈ v :: before, P w :=
      List.forall_mem_cons.mpr ⟨reads.value _ _ read, plain⟩
    split at h
    · exact reads.items _ _ _ plain h
    · cases h
      exact fun w mem => plain w (List.mem_reverse.mp mem)
    · cases h

theorem Reads.readMembers (reads : Reads P fuel) (before : List (Scalar × Value))
    (cs : List Char) (found : List (Scalar × Value) × List Char)
    (plain : ∀ e ∈ before, IsMember P e) (h : readMembers (fuel + 1) before cs = .ok found) :
  ∀ e ∈ found.1, IsMember P e
  := by
  rw [Json.readMembers.eq_def] at h
  dsimp only at h
  split at h
  · split at h
    · cases h
    · rename_i key _ _
      split at h
      · split at h
        · cases h
        · rename_i v _ read
          have plain : ∀ e ∈ (Scalar.text key, v) :: before, IsMember P e :=
            List.forall_mem_cons.mpr ⟨⟨⟨key, rfl⟩, reads.value _ _ read⟩, plain⟩
          split at h
          · exact reads.members _ _ _ plain h
          · cases h
            exact fun e mem => plain e (List.mem_reverse.mp mem)
          · cases h
      · cases h
  · cases h

theorem IsReadable.reads (readable : IsReadable P) (fuel : Nat) :
  Reads P fuel
  := by
  induction fuel with
  | zero => exact reads_zero
  | succ fuel ih => exact ⟨ih.readValue readable, ih.readItems, ih.readMembers⟩

theorem IsReadable.of_read (readable : IsReadable P) {cs : List Char} {v : Value}
    (h : read cs = .ok v) :
  P v
  := by
  rw [read] at h
  split at h
  · cases h
  · rename_i found
    split at h
    · cases h
      exact (readable.reads _).value _ _ found
    · cases h

theorem isReadable_isJson :
  IsReadable Value.IsJson
  where
  scalar _ plain := .scalar plain
  list _ plain := .list plain
  map members plain := by
    apply Value.IsJson.map
    · apply Entries.forall_keys_ofList (P := fun k => ∃ t, k = Scalar.text t)
      exact fun e mem => (plain e mem).1
    · exact Entries.forall_ofList fun e mem => (plain e mem).2

theorem isReadable_isKeyed :
  IsReadable Value.IsKeyed
  where
  scalar s _ := .scalar s
  list _ keyed := .list keyed
  map members keyed := .map (Entries.isDistinct_ofList members)
    (Entries.forall_ofList fun e mem => (keyed e mem).2)

end Json

end ReflexPolicy

import Mathlib.Data.List.Forall2
import Mathlib.Data.List.Induction
import Mathlib.Data.List.Nodup
import Mathlib.Tactic.Common
import ReflexPolicy.Proofs.Success
import ReflexPolicy.Yaml.Document

/-!
# Mappings of a document

The value of a mapping without merges has an entry for each of its own, key by key and value by
value.  What is found in it under a text is what the last entry with that text as its key gives;
where no two entries have one key, the order of the entries does not matter.
-/

namespace ReflexPolicy.Yaml

variable {level : Nat} {entries : List (Node × Node)} {es es' : List (Scalar × Value)} {t : Text}
  {v : Value}

/-! ### Lists side by side -/

section

variable {α β : Type} {R : α → β → Prop} {as as' : List α} {bs : List β}

theorem exists_forall₂ (each : ∀ a ∈ as, ∃ b, R a b) :
  ∃ bs, List.Forall₂ R as bs
  := by
  induction as with
  | nil => exact ⟨[], .nil⟩
  | cons a as ih =>
    obtain ⟨⟨b, first⟩, later⟩ := List.forall_mem_cons.mp each
    obtain ⟨bs, behind⟩ := ih later
    exact ⟨b :: bs, .cons first behind⟩

theorem exists_of_forall₂_append (h : List.Forall₂ R (as ++ as') bs) :
  ∃ cs cs', bs = cs ++ cs' ∧ List.Forall₂ R as cs ∧ List.Forall₂ R as' cs'
  := by
  induction as generalizing bs with
  | nil => exact ⟨[], bs, rfl, .nil, h⟩
  | cons a as ih =>
    obtain _ | ⟨first, behind⟩ := h
    obtain ⟨cs, cs', rfl, ahead, behind⟩ := ih behind
    exact ⟨_ :: cs, cs', rfl, .cons first ahead, behind⟩

theorem exists_of_mem_forall₂ (h : List.Forall₂ R as bs) {a : α} (mem : a ∈ as) :
  ∃ b ∈ bs, R a b
  := by
  induction h with
  | nil => cases mem
  | cons first _ ih =>
    obtain rfl | mem := List.mem_cons.mp mem
    · exact ⟨_, List.mem_cons_self, first⟩
    · obtain ⟨b, mem', related⟩ := ih mem
      exact ⟨b, List.mem_cons_of_mem _ mem', related⟩

end

/-! ### Entries without merges -/

/-- No key is the merge word. -/
def HasNoMerges (entries : List (Node × Node)) : Prop := ∀ e ∈ entries, isMerge e.1 = false

theorem mergesWell_of_hasNoMerges (own : HasNoMerges entries) :
  mergesWell entries = true
  := by
  induction entries with
  | nil => rw [mergesWell]
  | cons e rest ih =>
    obtain ⟨first, later⟩ := List.forall_mem_cons.mp own
    rw [mergesWell, first, ih later]
    rfl

theorem mergedOf_of_hasNoMerges (own : HasNoMerges entries) :
  mergedOf level entries = .ok []
  := by
  induction entries with
  | nil => rw [mergedOf]
  | cons e rest ih =>
    obtain ⟨first, later⟩ := List.forall_mem_cons.mp own
    rw [mergedOf, first, if_neg Bool.false_ne_true, ih later]

/-- The nodes of an entry have this key and this value. -/
def Entails (level : Nat) (e : Node × Node) (e' : Scalar × Value) : Prop :=
  keyOf e.1 = .ok e'.1 ∧ valueOf level e.2 = .ok e'.2

theorem both_eq_ok_iff {α β : Type} {x : Except Found α} {y : Except Found β} {found : α × β} :
  both x y = .ok found ↔ x = .ok found.1 ∧ y = .ok found.2
  := by
  obtain ⟨a, b⟩ := found
  cases x <;> cases y <;> simp [both]

theorem foundAt_eq_ok_iff {α : Type} {x : Except ReadFault α} {a : α} :
  foundAt level x = .ok a ↔ x = .ok a
  := by cases x <;> simp [foundAt]

theorem ownOf_cons_of_not_isMerge {k n : Node} {rest : List (Node × Node)}
    (own : isMerge k = false) :
  ownOf level ((k, n) :: rest)
    = (both (both (foundAt level (keyOf k)) (valueOf level n)) (ownOf level rest)).map
      fun found => found.1 :: found.2
  := by rw [ownOf, own, if_neg Bool.false_ne_true]

theorem ownOf_eq_ok_iff (own : HasNoMerges entries) :
  ownOf level entries = .ok es ↔ List.Forall₂ (Entails level) entries es
  := by
  induction entries generalizing es with
  | nil => simp [ownOf, eq_comm]
  | cons e rest ih =>
    obtain ⟨k, n⟩ := e
    obtain ⟨first, later⟩ := List.forall_mem_cons.mp own
    rw [ownOf_cons_of_not_isMerge first, map_eq_ok, List.forall₂_cons_left_iff]
    simp only [both_eq_ok_iff, foundAt_eq_ok_iff, ih later]
    constructor
    · rintro ⟨⟨e', es⟩, ⟨entails, behind⟩, rfl⟩
      exact ⟨e', es, entails, behind, rfl⟩
    · rintro ⟨e', es, entails, behind, rfl⟩
      exact ⟨(e', es), ⟨entails, behind⟩, rfl⟩

/-- One value that cannot be had, among entries that can, is what is reported. -/
theorem ownOf_eq_error {before after : List (Node × Node)} {k n : Node} {s : Scalar} {found : Found}
    (own : HasNoMerges (before ++ (k, n) :: after))
    (others : ∀ e ∈ before ++ after, ∃ e', Entails level e e') (key : keyOf k = .ok s)
    (fault : valueOf level n = .error found) :
  ownOf level (before ++ (k, n) :: after) = .error found
  := by
  induction before with
  | nil =>
    obtain ⟨first, later⟩ := List.forall_mem_cons.mp own
    obtain ⟨es, behind⟩ := exists_forall₂ others
    rw [List.nil_append, ownOf_cons_of_not_isMerge first, key, fault,
      (ownOf_eq_ok_iff later).mpr behind]
    rfl
  | cons e before ih =>
    obtain ⟨first, later⟩ := List.forall_mem_cons.mp own
    obtain ⟨⟨e', key', value'⟩, others⟩ := List.forall_mem_cons.mp others
    rw [List.cons_append, ownOf_cons_of_not_isMerge first, key', value', ih later others]
    rfl

theorem valueOf_map_of_hasNoMerges (own : HasNoMerges entries) :
  valueOf level (.map entries) = (ownOf (level + 1) entries).map mapping
  := by
  rw [valueOf, mergesWell_of_hasNoMerges own, if_pos rfl, mergedOf_of_hasNoMerges own]
  cases ownOf (level + 1) entries <;> rfl

theorem valueOf_map_eq_ok_iff (own : HasNoMerges entries) :
  valueOf level (.map entries) = .ok v
    ↔ ∃ es, List.Forall₂ (Entails (level + 1)) entries es ∧ mapping es = v
  := by
  rw [valueOf_map_of_hasNoMerges own, map_eq_ok]
  simp only [ownOf_eq_ok_iff own]

/-! ### What is found under a text -/

/-- What the last of the entries with a text for its key has. -/
def lastUnder (t : Text) (es : List (Scalar × Value)) : Option Value :=
  (es.reverse.find? fun e => e.1.same (.text t)).map Prod.snd

theorem lastUnder_append :
  lastUnder t (es ++ es') = (lastUnder t es').or (lastUnder t es)
  := by
  rw [lastUnder, List.reverse_append, List.find?_append, Option.map_or]
  rfl

theorem lastUnder_singleton {e : Scalar × Value} :
  lastUnder t [e] = if e.1 = .text t then some e.2 else none
  := by
  rw [lastUnder, List.reverse_singleton, List.find?_singleton, Option.map_if]
  simp only [Scalar.same_text_iff]

theorem exists_of_lastUnder (found : lastUnder t es = some v) :
  (.text t, v) ∈ es
  := by
  obtain ⟨⟨k, v⟩, first, rfl⟩ := Option.map_eq_some_iff.mp found
  have same := List.find?_some first
  obtain rfl := Scalar.same_text_iff.mp same
  exact List.mem_reverse.mp (List.mem_of_find?_eq_some first)

theorem lastUnder_eq_none_iff :
  lastUnder t es = none ↔ ∀ e ∈ es, e.1 ≠ .text t
  := by
  rw [lastUnder, Option.map_eq_none_iff, List.find?_eq_none]
  simp only [List.mem_reverse, Scalar.same_text_iff, ne_eq]

/-- An entry whose key is that of no other one is found under it. -/
theorem lastUnder_eq_some_iff (distinct : (es.map Prod.fst).Nodup) :
  lastUnder t es = some v ↔ (.text t, v) ∈ es
  := by
  constructor
  · exact exists_of_lastUnder
  · intro mem
    cases found : lastUnder t es with
    | none => exact absurd rfl (lastUnder_eq_none_iff.mp found _ mem)
    | some v' =>
      have same := List.inj_on_of_nodup_map distinct mem (exists_of_lastUnder found) rfl
      rw [(Prod.mk.inj same).2]

theorem lastUnder_perm (perm : es.Perm es') (distinct : (es'.map Prod.fst).Nodup) :
  lastUnder t es = lastUnder t es'
  := by
  have distinct' : (es.map Prod.fst).Nodup := (perm.map Prod.fst).nodup_iff.mpr distinct
  apply Option.ext
  intro v
  rw [lastUnder_eq_some_iff distinct, lastUnder_eq_some_iff distinct', perm.mem_iff]

/-- Another entry in between matters only under its own key. -/
theorem lastUnder_insert {s : Scalar} (other : s ≠ .text t) :
  lastUnder t (es ++ (s, v) :: es') = lastUnder t (es ++ es')
  := by
  rw [List.append_cons, lastUnder_append, lastUnder_append, lastUnder_append, lastUnder_singleton,
    if_neg other, Option.none_or]

/-- The last node under a key gives the value that is found. -/
theorem lastUnder_of_forall₂ {before after : List (Node × Node)} {k n : Node}
    (entails : List.Forall₂ (Entails level) (before ++ (k, n) :: after) es)
    (key : keyOf k = .ok (.text t)) (last : ∀ e ∈ after, keyOf e.1 ≠ .ok (.text t)) :
  ∃ v, valueOf level n = .ok v ∧ lastUnder t es = some v
  := by
  obtain ⟨bs, as, rfl, -, behind⟩ := exists_of_forall₂_append entails
  obtain _ | @⟨_, ⟨s, v⟩, _, as, ⟨key', value⟩, behind⟩ := behind
  have same : s = .text t := Except.ok.inj (key'.symm.trans key)
  subst same
  have none_behind : lastUnder t as = none := by
    rw [lastUnder_eq_none_iff]
    intro e' mem same
    obtain ⟨e, mem', key'', -⟩ := exists_of_mem_forall₂ behind.flip mem
    exact last e mem' (same ▸ key'')
  refine ⟨v, value, ?_⟩
  rw [List.append_cons, lastUnder_append, none_behind, lastUnder_append, lastUnder_singleton,
    if_pos rfl]
  rfl

/-! ### The mapping of some entries -/

theorem sameKey_text_iff {k : Scalar} :
  sameKey k (.text t) = true ↔ k = .text t
  := by simp [sameKey, isNan, Scalar.same_text_iff]

theorem text_sameKey_iff {k : Scalar} :
  sameKey (.text t) k = true ↔ k = .text t
  := by simp [sameKey, isNan, Scalar.text_same_iff]

/-- What a document puts under a text is found under that text, and all else is where it was. -/
theorem get?_put_sameKey (es : Entries Scalar Value) (k : Scalar) (v : Value) (t : Text) :
  Entries.get? (@Entries.put Scalar Value ⟨sameKey⟩ es k v) (.text t)
    = if k = .text t then some v else Entries.get? es (.text t)
  := by
  have beq_iff (a : Scalar) : (a == .text t) = true ↔ a = .text t := Scalar.same_text_iff
  induction es with
  | nil =>
    show Entries.get? [(k, v)] (.text t) = _
    simp only [Entries.get?, beq_iff]
  | cons e rest ih =>
    obtain ⟨k', v'⟩ := e
    have cut : @Entries.put Scalar Value ⟨sameKey⟩ ((k', v') :: rest) k v
        = if sameKey k' k then (k', v) :: rest
          else (k', v') :: @Entries.put Scalar Value ⟨sameKey⟩ rest k v := rfl
    rw [cut]
    by_cases same : sameKey k' k = true
    · rw [if_pos same]
      by_cases named : k = .text t
      · subst named
        obtain rfl := sameKey_text_iff.mp same
        simp only [Entries.get?, beq_iff, if_true]
      · have other : k' ≠ .text t := by
          rintro rfl
          exact named (text_sameKey_iff.mp same)
        simp only [Entries.get?, beq_iff, named, other, if_false]
    · rw [if_neg same]
      simp only [Entries.get?, beq_iff, ih]
      by_cases named : k' = .text t
      · have other : k ≠ .text t := by
          rintro rfl
          exact same (sameKey_text_iff.mpr named)
        simp only [named, other, if_true, if_false]
      · simp only [named, if_false]

/-- In the mapping of some entries a text finds what the last of them with that key has. -/
theorem exists_mapping (es : List (Scalar × Value)) :
  ∃ m, mapping es = .map m ∧ ∀ t, Entries.get? m (.text t) = lastUnder t es
  := by
  refine ⟨@Entries.ofList Scalar Value ⟨sameKey⟩ es, rfl, ?_⟩
  intro t
  induction es using List.reverseRecOn with
  | nil => rfl
  | append_singleton es e ih =>
    have last : @Entries.ofList Scalar Value ⟨sameKey⟩ (es ++ [e])
        = @Entries.put Scalar Value ⟨sameKey⟩ (@Entries.ofList Scalar Value ⟨sameKey⟩ es) e.1 e.2 :=
      List.foldl_append
    rw [last, get?_put_sameKey, ih, lastUnder_append, lastUnder_singleton]
    split <;> rfl

/-! ### Computed nodes -/

mutual

/-- The nodes are the same. -/
def Node.same : Node → Node → Bool
  | .plain cs, .plain cs' => cs == cs'
  | .text t, .text t' => t == t'
  | .list items, .list items' => sameItems items items'
  | .map entries, .map entries' => sameEntries entries entries'
  | _, _ => false

/-- The nodes of two lists are the same. -/
def sameItems : List Node → List Node → Bool
  | [], [] => true
  | n :: ns, n' :: ns' => n.same n' && sameItems ns ns'
  | _, _ => false

/-- The nodes of two mappings are the same. -/
def sameEntries : List (Node × Node) → List (Node × Node) → Bool
  | [], [] => true
  | (k, n) :: rest, (k', n') :: rest' => k.same k' && n.same n' && sameEntries rest rest'
  | _, _ => false

end

mutual

theorem eq_of_same {n n' : Node} (same : n.same n' = true) :
  n = n'
  := by
  cases n <;> cases n' <;> simp only [Node.same, Bool.false_eq_true, beq_iff_eq] at same
  case plain.plain => rw [same]
  case text.text => rw [same]
  case list.list => rw [eq_of_sameItems same]
  case map.map => rw [eq_of_sameEntries same]

theorem eq_of_sameItems {ns ns' : List Node} (same : sameItems ns ns' = true) :
  ns = ns'
  := by
  cases ns <;> cases ns' <;> simp only [sameItems, Bool.false_eq_true, Bool.and_eq_true] at same
  case nil.nil => rfl
  case cons.cons => rw [eq_of_same same.1, eq_of_sameItems same.2]

theorem eq_of_sameEntries {es es' : List (Node × Node)} (same : sameEntries es es' = true) :
  es = es'
  := by
  cases es <;> cases es'
  case nil.nil => rfl
  case cons.cons e es e' es' =>
    obtain ⟨k, n⟩ := e
    obtain ⟨k', n'⟩ := e'
    simp only [sameEntries, Bool.and_eq_true] at same
    rw [eq_of_same same.1.1, eq_of_same same.1.2, eq_of_sameEntries same.2]
  all_goals simp [sameEntries] at same

end

end ReflexPolicy.Yaml

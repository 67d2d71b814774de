/-!
# Ordered entries

A mapping that remembers the order in which its keys came: the list of its entries.  Putting a
value under a key that is already there keeps the key and its place and replaces the value.
-/

namespace ReflexPolicy

universe u v w

/-- The entries of a mapping, in the order of their first insertion. -/
abbrev Entries (κ : Type u) (ν : Type v) : Type (max u v) := List (κ × ν)

namespace Entries

variable {κ : Type u} {ν : Type v} {μ : Type w} [BEq κ]

/-- The value under a key. -/
def get? : Entries κ ν → κ → Option ν
  | [], _ => none
  | (k', v) :: rest, k => if k' == k then some v else get? rest k

/-- The key has an entry. -/
def has (es : Entries κ ν) (k : κ) : Bool := (get? es k).isSome

/-- The value under a key, or a default. -/
def getD (es : Entries κ ν) (k : κ) (default : ν) : ν := (get? es k).getD default

/-- The mapping with a value put under a key. -/
def put : Entries κ ν → κ → ν → Entries κ ν
  | [], k, v => [(k, v)]
  | (k', v') :: rest, k, v => if k' == k then (k', v) :: rest else (k', v') :: put rest k v

/-- The mapping that holds the given entries, put one after another. -/
def ofList (es : List (κ × ν)) : Entries κ ν :=
  es.foldl (fun acc e => put acc e.1 e.2) []

/-- The mapping without the entries whose key satisfies `drop`. -/
def without (es : Entries κ ν) (drop : κ → Bool) : Entries κ ν :=
  es.filter fun e => !drop e.1

/-- The keys, in order. -/
def keys (es : Entries κ ν) : List κ := es.map Prod.fst

theorem get?_congr [PartialEquivBEq κ] {k k' : κ} (es : Entries κ ν) (h : (k == k') = true) :
  get? es k = get? es k'
  := by
  induction es with
  | nil => rfl
  | cons e rest ih => simp [get?, BEq.congr_right h, ih]

theorem get?_put [EquivBEq κ] (es : Entries κ ν) (k k' : κ) (v : ν) :
  get? (put es k v) k' = if k == k' then some v else get? es k'
  := by
  induction es with
  | nil => simp [put, get?]
  | cons e rest ih =>
    obtain ⟨a, b⟩ := e
    by_cases h : (a == k) = true
    · by_cases h' : (k == k') = true
      · simp [put, get?, h, h', BEq.trans h h']
      · simp [put, get?, h, h', BEq.congr_left h]
    · by_cases h' : (a == k') = true
      · have apart : (k == k') = false := by
          rw [← BEq.congr_right h', BEq.comm]
          simpa using h
        simp [put, get?, h, h', apart]
      · simp [put, get?, h, h', ih]

/-- Entries are left out by their keys, if equal keys are left out together. -/
theorem get?_without_of_respects [PartialEquivBEq κ] (es : Entries κ ν) {drop : κ → Bool}
    (respects : ∀ a b, (a == b) = true → drop a = drop b) (k : κ) :
  get? (without es drop) k = if drop k then none else get? es k
  := by
  induction es with
  | nil => simp [without, get?]
  | cons e rest ih =>
    obtain ⟨a, b⟩ := e
    simp only [without] at ih
    by_cases same : (a == k) = true
    · cases dropped : drop k <;> simp [without, get?, same, respects a k same, dropped, ih]
    · cases dropped : drop a <;> simp [without, get?, same, dropped, ih]

theorem get?_without [PartialEquivBEq κ] (es : Entries κ ν) (k k' : κ) :
  get? (without es (· == k)) k' = if k == k' then none else get? es k'
  := by
  rw [get?_without_of_respects es fun _ _ same => BEq.congr_left same, BEq.comm]

theorem get?_append (es es' : Entries κ ν) (k : κ) :
  get? (es ++ es') k = (get? es k).or (get? es' k)
  := by
  induction es with
  | nil => rfl
  | cons e rest ih =>
    simp only [List.cons_append, get?]
    split
    · rfl
    · apply ih

theorem mem_of_get? {es : Entries κ ν} {k : κ} {v : ν} (h : get? es k = some v) :
  ∃ k', (k' == k) = true ∧ (k', v) ∈ es
  := by
  induction es with
  | nil => simp [get?] at h
  | cons e rest ih =>
    obtain ⟨a, b⟩ := e
    by_cases same : (a == k) = true
    · simp only [get?, same, if_true, Option.some.injEq] at h
      subst h
      exact ⟨a, same, List.mem_cons_self⟩
    · simp only [get?, same, Bool.false_eq_true, if_false] at h
      obtain ⟨k', same', mem⟩ := ih h
      exact ⟨k', same', List.mem_cons_of_mem _ mem⟩

theorem mem_of_mem_put [LawfulBEq κ] {es : Entries κ ν} {k : κ} {v : ν} {e : κ × ν}
    (mem : e ∈ put es k v) :
  e ∈ es ∨ e = (k, v)
  := by
  induction es with
  | nil => exact .inr (by simpa [put] using mem)
  | cons first rest ih =>
    rw [put] at mem
    split at mem
    · rename_i same
      obtain rfl | mem := List.mem_cons.mp mem
      · exact .inr (by rw [eq_of_beq same])
      · exact .inl (List.mem_cons_of_mem _ mem)
    · obtain rfl | mem := List.mem_cons.mp mem
      · exact .inl List.mem_cons_self
      · exact (ih mem).imp_left (List.mem_cons_of_mem _)

/-- A mapping without repeated keys holds exactly its entries, whatever their order. -/
theorem get?_eq_some_iff [LawfulBEq κ] {es : Entries κ ν} {k : κ} {v : ν}
    (nodup : (keys es).Nodup) :
  get? es k = some v ↔ (k, v) ∈ es
  := by
  induction es with
  | nil => simp [get?]
  | cons e rest ih =>
    obtain ⟨a, b⟩ := e
    rw [keys, List.map_cons, List.nodup_cons] at nodup
    obtain ⟨fresh, nodup⟩ := nodup
    by_cases h : a = k
    · subst h
      have absent : (a, v) ∉ rest := fun mem => fresh (List.mem_map.mpr ⟨_, mem, rfl⟩)
      simp [get?, absent, eq_comm]
    · simp [get?, h, Ne.symm h, ih nodup]

theorem has_eq_any (es : Entries κ ν) (k : κ) :
  has es k = (keys es).any (· == k)
  := by
  induction es with
  | nil => rfl
  | cons e rest ih =>
    obtain ⟨a, b⟩ := e
    simp only [has, keys] at ih
    by_cases same : (a == k) = true
    · simp [has, get?, keys, same]
    · simp [has, get?, keys, same, ih]

theorem mem_keys_iff [LawfulBEq κ] {es : Entries κ ν} {k : κ} :
  k ∈ keys es ↔ ∃ v, get? es k = some v
  := by
  rw [← Option.isSome_iff_exists, ← has, has_eq_any, List.any_eq_true]
  simp

/-- Putting a value under a key makes no other entries. -/
theorem of_mem_put {es : Entries κ ν} {k : κ} {v : ν} {e : κ × ν} (mem : e ∈ put es k v) :
  e ∈ es ∨ e.2 = v ∧ (e.1 = k ∨ e.1 ∈ keys es)
  := by
  induction es with
  | nil =>
    obtain rfl := List.mem_singleton.mp mem
    exact .inr ⟨rfl, .inl rfl⟩
  | cons first rest ih =>
    rw [put] at mem
    rw [keys, List.map_cons, List.mem_cons, List.mem_cons]
    split at mem
    · obtain rfl | mem := List.mem_cons.mp mem
      · exact .inr ⟨rfl, .inr (.inl rfl)⟩
      · exact .inl (.inr mem)
    · obtain rfl | mem := List.mem_cons.mp mem
      · exact .inl (.inl rfl)
      · exact (ih mem).imp .inr (And.imp_right (Or.imp_right .inr))

/-- What holds of no entries, and still holds when one more is put in, holds of the mapping. -/
theorem ofList_induction {P : Entries κ ν → Prop} {es : List (κ × ν)} (nil : P [])
    (step : ∀ acc, P acc → ∀ e ∈ es, P (put acc e.1 e.2)) :
  P (ofList es)
  := by
  have fold (acc : Entries κ ν) (h : P acc) :
      P (es.foldl (fun acc e => put acc e.1 e.2) acc) := by
    induction es generalizing acc with
    | nil => exact h
    | cons e rest ih =>
      apply ih
      · exact fun acc h e mem => step acc h e (List.mem_cons_of_mem _ mem)
      · exact step acc h e List.mem_cons_self
  exact fold [] nil

/-- What holds of every value that is put in holds of every value of the mapping. -/
theorem forall_ofList {P : ν → Prop} {es : List (κ × ν)} (h : ∀ e ∈ es, P e.2) :
  ∀ e ∈ ofList es, P e.2
  := by
  apply ofList_induction (P := fun acc => ∀ e ∈ acc, P e.2)
  · simp
  · intro acc all new mem e put
    obtain old | ⟨same, -⟩ := of_mem_put put
    · exact all e old
    · rw [same]
      exact h new mem

/-- What holds of every key that is put in holds of every key of the mapping. -/
theorem forall_keys_ofList {P : κ → Prop} {es : List (κ × ν)} (h : ∀ e ∈ es, P e.1) :
  ∀ e ∈ ofList es, P e.1
  := by
  apply ofList_induction (P := fun acc => ∀ e ∈ acc, P e.1)
  · simp
  · intro acc all new mem e put
    obtain old | ⟨-, same | old⟩ := of_mem_put put
    · exact all e old
    · rw [same]
      exact h new mem
    · obtain ⟨e', old, same⟩ := List.mem_map.mp old
      rw [← same]
      exact all e' old

/-- A value under a new key is put behind the others. -/
theorem put_of_absent {es : Entries κ ν} {k : κ} (absent : has es k = false) (v : ν) :
  put es k v = es ++ [(k, v)]
  := by
  induction es with
  | nil => rfl
  | cons e rest ih =>
    obtain ⟨a, b⟩ := e
    by_cases same : (a == k) = true
    · simp [has, get?, same] at absent
    · have absent : has rest k = false := by simpa [has, get?, same] using absent
      simp [put, same, ih absent]

theorem keys_put_of_has (es : Entries κ ν) (k : κ) (v : ν) :
  keys (put es k v) = if has es k then keys es else keys es ++ [k]
  := by
  induction es with
  | nil => rfl
  | cons e rest ih =>
    obtain ⟨a, b⟩ := e
    by_cases same : (a == k) = true
    · simp [put, keys, has, get?, same]
    · simp only [keys, has] at ih
      by_cases found : (get? rest k).isSome = true <;> simp [put, keys, has, get?, same, found, ih]

theorem keys_put [LawfulBEq κ] (es : Entries κ ν) (k : κ) (v : ν) :
  keys (put es k v) = if k ∈ keys es then keys es else keys es ++ [k]
  := by
  rw [keys_put_of_has, has_eq_any]
  simp

/-- No two entries of the mapping are under one key. -/
def IsDistinct (es : Entries κ ν) : Prop := (keys es).Pairwise fun k k' => (k == k') = false

theorem isDistinct_put {es : Entries κ ν} (distinct : es.IsDistinct) (k : κ) (v : ν) :
  (put es k v).IsDistinct
  := by
  rw [IsDistinct, keys_put_of_has]
  split
  · exact distinct
  · rename_i absent
    rw [has_eq_any] at absent
    refine List.pairwise_append.mpr ⟨distinct, List.pairwise_singleton _ _, ?_⟩
    simpa using absent

theorem isDistinct_ofList (es : List (κ × ν)) :
  (ofList es).IsDistinct
  := ofList_induction List.Pairwise.nil fun _ distinct e _ => isDistinct_put distinct e.1 e.2

/-- Entries under keys of their own are put one behind another. -/
theorem foldl_put {acc es : Entries κ ν} (distinct : (acc ++ es : Entries κ ν).IsDistinct) :
  es.foldl (fun acc e => put acc e.1 e.2) acc = acc ++ es
  := by
  induction es generalizing acc with
  | nil => rw [List.foldl_nil, List.append_nil]
  | cons e rest ih =>
    have absent : has acc e.1 = false := by
      rw [IsDistinct, keys, List.map_append, List.pairwise_append] at distinct
      rw [has_eq_any, List.any_eq_false]
      intro k mem
      rw [distinct.2.2 k mem e.1 List.mem_cons_self]
      apply Bool.false_ne_true
    rw [List.append_cons] at distinct
    rw [List.foldl_cons, put_of_absent absent, ih distinct, ← List.append_cons]

theorem ofList_of_isDistinct {es : Entries κ ν} (distinct : es.IsDistinct) :
  ofList es = es
  := foldl_put distinct

omit [BEq κ] in
theorem eq_cons_of_keys {es : Entries κ ν} {k : κ} {ks : List κ} (names : keys es = k :: ks) :
  ∃ v rest, es = (k, v) :: rest ∧ keys rest = ks
  := by
  obtain ⟨⟨_, v⟩, rest, rfl, rfl, behind⟩ := List.map_eq_cons_iff.mp names
  exact ⟨v, rest, rfl, behind⟩

/-- Entries whose keys are listed among some names are found name by name. -/
theorem flatMap_of_sublist [LawfulBEq κ] {es : Entries κ ν} {names : List κ}
    (sub : (keys es).Sublist names) (nodup : names.Nodup) :
  names.flatMap (fun k => ((get? es k).map fun v => (k, v)).toList) = es
  := by
  induction names generalizing es with
  | nil =>
    rw [List.map_eq_nil_iff.mp (List.sublist_nil.mp sub)]
    rfl
  | cons k rest ih =>
    obtain ⟨fresh, nodup⟩ := List.nodup_cons.mp nodup
    obtain behind | ⟨ks, listed, behind⟩ := List.sublist_cons_iff.mp sub
    · have absent : get? es k = none := by
        rw [Option.eq_none_iff_forall_ne_some]
        intro v found
        exact fresh (behind.subset (mem_keys_iff.mpr ⟨v, found⟩))
      rw [List.flatMap_cons, absent, ih behind nodup]
      rfl
    · obtain ⟨v, es', rfl, rfl⟩ := eq_cons_of_keys listed
      have later : rest.flatMap
          (fun k' => ((get? ((k, v) :: es') k').map fun v => (k', v)).toList)
          = rest.flatMap (fun k' => ((get? es' k').map fun v => (k', v)).toList) := by
        rw [List.flatMap_def, List.flatMap_def]
        congr 1
        apply List.map_congr_left
        intro k' mem
        have apart : k ≠ k' := by
          rintro rfl
          exact fresh mem
        rw [get?, if_neg (by simpa using apart)]
      rw [List.flatMap_cons, later, ih behind nodup, get?, if_pos BEq.rfl]
      rfl

end Entries

end ReflexPolicy

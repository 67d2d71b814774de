import ReflexPolicy.Evaluation
import ReflexPolicy.Proofs.Codex.Sections

/-!
# Keys of a request on the wire

A mapping writes a field of a request under any of the spellings of the field.  What is picked for a
field that is written at most once is the value that is written, so that it does not matter which
spelling is used, nor what stands under keys that spell no field: `Respells` says that two mappings
write the same under spellings of the same fields, and by `evaluateWire_respelled` nothing that is
read or evaluated can tell them apart.
-/

namespace ReflexPolicy

/-- The key is one of the spellings of a field. -/
def spells (names : List String) (k : Scalar) : Bool := names.any fun name => k.same (.text name)

/-- The spellings of each field of a request. -/
def Spellings.fields (s : Spellings) : List (List String) :=
  [s.tier, s.mode, s.scores, s.age, s.externalClaim, s.citation, s.omission, s.profile]

/-- The spellings of each count of an age. -/
def Spellings.counts (s : Spellings) : List (List String) := [s.turns, s.tokens]

/-- No two of the fields have a spelling in common. -/
def AreApart (fields : List (List String)) : Prop :=
  ∀ names ∈ fields, ∀ names' ∈ fields, ∀ name ∈ names, name ∈ names' → names = names'

theorem areApart_fields :
  AreApart spellings.fields
  := by
  rw [AreApart]
  decide

theorem areApart_counts :
  AreApart spellings.counts
  := by
  rw [AreApart]
  decide

theorem spells_iff {names : List String} {k : Scalar} :
  spells names k = true ↔ ∃ name ∈ names, k = .text name
  := by simp only [spells, List.any_eq_true, Scalar.same_text_iff]

/-- A key spells one field only. -/
theorem AreApart.eq_of_spells {fields : List (List String)} (apart : AreApart fields)
    {names names' : List String} (mem : names ∈ fields) (mem' : names' ∈ fields) {k : Scalar}
    (spelled : spells names k = true) (spelled' : spells names' k = true) :
  names = names'
  := by
  obtain ⟨name, listed, rfl⟩ := spells_iff.mp spelled
  obtain ⟨name', listed', same⟩ := spells_iff.mp spelled'
  rw [Scalar.text.injEq, Text.ofString_inj] at same
  exact apart names mem names' mem' name listed (same ▸ listed')

/-! ### Fields that are written once -/

/-- The mapping writes a value for a field. -/
def Writes (es : Entries Scalar Value) (names : List String) (v : Value) : Prop :=
  ∃ e ∈ es, spells names e.1 = true ∧ e.2 = v

/-- The mapping writes the field under one key at most. -/
def WritesOnce (es : Entries Scalar Value) (names : List String) : Prop :=
  es.countP (fun e => spells names e.1) ≤ 1

instance (es : Entries Scalar Value) (names : List String) : Decidable (WritesOnce es names) :=
  Nat.decLe _ _

/-- The entries that stand under a spelling of one of the fields. -/
def recognized (fields : List (List String)) (es : Entries Scalar Value) : Entries Scalar Value :=
  es.filter fun e => fields.any fun names => spells names e.1

variable {es es' : Entries Scalar Value} {names : List String} {fields : List (List String)}

theorem mem_recognized_iff {e : Scalar × Value} :
  e ∈ recognized fields es ↔ e ∈ es ∧ ∃ names ∈ fields, spells names e.1 = true
  := by rw [recognized, List.mem_filter, List.any_eq_true]

theorem mem_recognized {e : Scalar × Value} (mem : e ∈ es) (known : names ∈ fields)
    (spelled : spells names e.1 = true) :
  e ∈ recognized fields es
  := mem_recognized_iff.mpr ⟨mem, names, known, spelled⟩

/-- Keys that spell no field do not count among those that spell one. -/
theorem countP_recognized (known : names ∈ fields) (es : Entries Scalar Value) :
  (recognized fields es).countP (fun e => spells names e.1) = es.countP fun e => spells names e.1
  := by
  rw [recognized, List.countP_filter]
  apply List.countP_congr
  intro e _
  rw [Bool.and_eq_true, List.any_eq_true, and_iff_left_iff_imp]
  exact fun spelled => ⟨names, known, spelled⟩

theorem WritesOnce.eq (once : WritesOnce es names) {e e' : Scalar × Value} (mem : e ∈ es)
    (mem' : e' ∈ es) (spelled : spells names e.1 = true) (spelled' : spells names e'.1 = true) :
  e = e'
  := by
  have mem : e ∈ es.filter fun e => spells names e.1 := List.mem_filter.mpr ⟨mem, spelled⟩
  have mem' : e' ∈ es.filter fun e => spells names e.1 := List.mem_filter.mpr ⟨mem', spelled'⟩
  rw [WritesOnce, List.countP_eq_length_filter] at once
  match written : es.filter fun e => spells names e.1 with
  | [] =>
    rw [written] at mem
    cases mem
  | [x] =>
    rw [written, List.mem_singleton] at mem mem'
    rw [mem, mem']
  | x :: y :: rest =>
    rw [written] at once
    simp at once

/-- What is picked for a field is written for it. -/
theorem writes_of_pick? {v : Value} (picked : pick? es names = some v) :
  Writes es names v
  := by
  induction names with
  | nil => cases picked
  | cons name rest ih =>
    rw [pick?] at picked
    cases found : Value.field? es name with
    | some w =>
      rw [found] at picked
      cases picked
      obtain ⟨k, same, mem⟩ := Entries.mem_of_get? found
      exact ⟨(k, v), mem, spells_iff.mpr ⟨name, List.mem_cons_self, Scalar.same_text_iff.mp same⟩,
        rfl⟩
    | none =>
      rw [found, Option.none_or] at picked
      obtain ⟨e, mem, spelled, value⟩ := ih picked
      obtain ⟨name', listed, key⟩ := spells_iff.mp spelled
      exact ⟨e, mem, spells_iff.mpr ⟨name', List.mem_cons_of_mem _ listed, key⟩, value⟩

/-- Something is picked for a field that is written. -/
theorem isSome_pick? {v : Value} (writes : Writes es names v) :
  (pick? es names).isSome = true
  := by
  obtain ⟨⟨k, v⟩, mem, spelled, rfl⟩ := writes
  obtain ⟨name, listed, rfl⟩ := spells_iff.mp spelled
  have found : (Value.field? es name).isSome = true := by
    have there : Entries.has es (.text name) = true := by
      rw [Entries.has_eq_any, List.any_eq_true]
      exact ⟨.text name, List.mem_map_of_mem mem, Scalar.same_text_iff.mpr rfl⟩
    exact there
  clear spelled
  induction names with
  | nil => cases listed
  | cons first rest ih =>
    rw [pick?, Option.isSome_or, Bool.or_eq_true]
    obtain rfl | listed := List.mem_cons.mp listed
    · exact .inl found
    · exact .inr (ih listed)

/-- What is picked for a field that is written once at most is what is written for it. -/
theorem pick?_eq_some_iff (once : WritesOnce es names) {v : Value} :
  pick? es names = some v ↔ Writes es names v
  := by
  constructor
  · exact writes_of_pick?
  · intro writes
    obtain ⟨w, picked⟩ := Option.isSome_iff_exists.mp (isSome_pick? writes)
    obtain ⟨e, mem, spelled, rfl⟩ := writes
    obtain ⟨e', mem', spelled', rfl⟩ := writes_of_pick? picked
    rw [picked, once.eq mem mem' spelled spelled']

theorem pick?_eq_none_iff :
  pick? es names = none ↔ ∀ v, ¬Writes es names v
  := by
  rw [← Option.not_isSome_iff_eq_none]
  constructor
  · intro none v writes
    exact none (isSome_pick? writes)
  · intro unwritten picked
    obtain ⟨v, picked⟩ := Option.isSome_iff_exists.mp picked
    exact unwritten v (writes_of_pick? picked)

/-- No field of a request, and no count of its age, is written under two keys. -/
structure IsWrittenOnce (es : Entries Scalar Value) : Prop where
  fields : ∀ names ∈ spellings.fields, WritesOnce es names
  counts : ∀ e ∈ es, spells spellings.age e.1 = true → ∀ names ∈ spellings.counts,
    WritesOnce (e.2.entries?.getD []) names

theorem IsWrittenOnce.counts_of_writes (once : IsWrittenOnce es) {as : Entries Scalar Value}
    (writes : Writes es spellings.age (.map as)) :
  ∀ names ∈ spellings.counts, WritesOnce as names
  := by
  obtain ⟨e, mem, spelled, value⟩ := writes
  have counts := once.counts e mem spelled
  rw [value] at counts
  exact counts

/-! ### Other spellings -/

/-- The keys are spellings of one of the fields. -/
def SpellAlike (fields : List (List String)) (k k' : Scalar) : Prop :=
  ∃ names ∈ fields, spells names k = true ∧ spells names k' = true

/-- Keys that spell one field, in a form that can be computed. -/
theorem spellAlike_of_any {fields : List (List String)} {k k' : Scalar}
    (alike : (fields.any fun names => spells names k && spells names k') = true) :
  SpellAlike fields k k'
  := by
  obtain ⟨names, known, both⟩ := List.any_eq_true.mp alike
  exact ⟨names, known, Bool.and_eq_true_iff.mp both⟩

/-- The mappings write alike values under spellings of the same fields, each in an order of its own;
what stands under keys that spell no field does not matter. -/
def RespellsBy (fields : List (List String)) (alike : Scalar → Value → Value → Prop)
    (es es' : Entries Scalar Value) : Prop :=
  ∃ l, List.Forall₂ (fun e e' => SpellAlike fields e.1 e'.1 ∧ alike e.1 e.2 e'.2)
      (recognized fields es) l
    ∧ l.Perm (recognized fields es')

/-- The ages are the same, or mappings that write the same counts. -/
def AgesAlike (v v' : Value) : Prop :=
  v = v' ∨ ∃ as as', v = .map as ∧ v' = .map as'
    ∧ RespellsBy spellings.counts (fun _ w w' => w = w') as as'

/-- The mappings write the same request, each field and each count of the age under any of its
spellings. -/
def Respells (es es' : Entries Scalar Value) : Prop :=
  RespellsBy spellings.fields
    (fun k v v' => if spells spellings.age k then AgesAlike v v' else v = v') es es'

section

variable {alike : Scalar → Value → Value → Prop}

theorem SpellAlike.spells_eq (apart : AreApart fields) {k k' : Scalar}
    (same : SpellAlike fields k k') (known : names ∈ fields) :
  spells names k' = spells names k
  := by
  obtain ⟨names', known', spelled, spelled'⟩ := same
  rw [Bool.eq_iff_iff]
  constructor
  · intro h
    rwa [apart.eq_of_spells known known' h spelled']
  · intro h
    rwa [apart.eq_of_spells known known' h spelled]

/-- A field that is written once is so under another spelling. -/
theorem RespellsBy.writesOnce (respells : RespellsBy fields alike es es') (apart : AreApart fields)
    (known : names ∈ fields) (once : WritesOnce es names) :
  WritesOnce es' names
  := by
  obtain ⟨l, respells, perm⟩ := respells
  have counts : l.countP (fun e => spells names e.1)
      = (recognized fields es).countP fun e => spells names e.1 := by
    clear perm
    generalize recognized fields es = l' at respells
    induction respells with
    | nil => rfl
    | cons first _ ih => rw [List.countP_cons, List.countP_cons, ih, first.1.spells_eq apart known]
  rw [WritesOnce, ← countP_recognized known, ← perm.countP_eq, counts, countP_recognized known]
  exact once

theorem RespellsBy.writes (respells : RespellsBy fields alike es es') (apart : AreApart fields)
    (known : names ∈ fields) {v : Value} (writes : Writes es names v) :
  ∃ v' k, spells names k = true ∧ alike k v v' ∧ Writes es' names v'
  := by
  obtain ⟨e, mem, spelled, rfl⟩ := writes
  obtain ⟨l, respells, perm⟩ := respells
  obtain ⟨e', mem', same, related⟩ :=
    Codex.exists_of_forall₂ respells.flip (mem_recognized mem known spelled)
  have there := (mem_recognized_iff.mp (perm.mem_iff.mp mem')).1
  exact ⟨e'.2, e.1, spelled, related, e', there, (same.spells_eq apart known).trans spelled, rfl⟩

theorem RespellsBy.writes_of_writes (respells : RespellsBy fields alike es es')
    (apart : AreApart fields) (known : names ∈ fields) {v' : Value} (writes : Writes es' names v') :
  ∃ v, Writes es names v
  := by
  obtain ⟨e', mem', spelled', rfl⟩ := writes
  obtain ⟨l, respells, perm⟩ := respells
  obtain ⟨e, mem, same, -⟩ :=
    Codex.exists_of_forall₂ respells (perm.mem_iff.mpr (mem_recognized mem' known spelled'))
  exact ⟨e.2, e, (mem_recognized_iff.mp mem).1, (same.spells_eq apart known).symm.trans spelled',
    rfl⟩

/-- What is picked for a field is alike under another spelling. -/
theorem RespellsBy.pick? (respells : RespellsBy fields alike es es') (apart : AreApart fields)
    (known : names ∈ fields) (once : WritesOnce es names) :
  Option.Rel (fun v v' => Writes es names v ∧ ∃ k, spells names k = true ∧ alike k v v')
    (pick? es names) (pick? es' names)
  := by
  have once' := respells.writesOnce apart known once
  cases picked : ReflexPolicy.pick? es names with
  | none =>
    cases picked' : ReflexPolicy.pick? es' names with
    | none => exact .none
    | some v' =>
      obtain ⟨v, writes⟩ := respells.writes_of_writes apart known (writes_of_pick? picked')
      exact absurd writes (pick?_eq_none_iff.mp picked v)
  | some v =>
    have writes := writes_of_pick? picked
    obtain ⟨v', k, spelled, related, writes'⟩ := respells.writes apart known writes
    rw [(pick?_eq_some_iff once').mpr writes']
    exact .some ⟨writes, k, spelled, related⟩

end

/-! ### Requests -/

/-- The age of a mapping is that of its counts; a mapping without any is no exception. -/
theorem ageOfField_map (as : Entries Scalar Value) :
  ageOfField (some (.map as)) = .ok (.counts ((pick? as spellings.turns).getD (.int 0))
    ((pick? as spellings.tokens).getD (.int 0)))
  := by
  cases as with
  | nil => rfl
  | cons a as => rfl

/-- A function of options that does not tell related values apart does not tell related options
apart. -/
theorem congr_of_rel {α β : Type} {r : α → α → Prop} (f : Option α → β)
    (same : ∀ a b, r a b → f (some a) = f (some b)) {x y : Option α} (related : Option.Rel r x y) :
  f x = f y
  := by
  cases related with
  | none => rfl
  | some related => exact same _ _ related

theorem pick?_count_of_respells {as as' : Entries Scalar Value}
    (respells : RespellsBy spellings.counts (fun _ w w' => w = w') as as')
    (known : names ∈ spellings.counts) (once : WritesOnce as names) :
  pick? as names = pick? as' names
  := by
  apply congr_of_rel id _ (respells.pick? areApart_counts known once)
  rintro v v' ⟨-, -, -, rfl⟩
  rfl

theorem ageOfField_of_respells (respells : Respells es es') (once : IsWrittenOnce es) :
  ageOfField (pick? es spellings.age) = ageOfField (pick? es' spellings.age)
  := by
  have known : spellings.age ∈ spellings.fields := by simp [Spellings.fields]
  have picked := RespellsBy.pick? respells areApart_fields known (once.fields _ known)
  apply congr_of_rel ageOfField _ picked
  rintro v v' ⟨writes, k, spelled, related⟩
  rw [if_pos spelled] at related
  obtain rfl | ⟨as, as', rfl, rfl, respells⟩ := related
  · rfl
  · have counts := once.counts_of_writes writes
    have turns : spellings.turns ∈ spellings.counts := by simp [Spellings.counts]
    have tokens : spellings.tokens ∈ spellings.counts := by simp [Spellings.counts]
    rw [ageOfField_map, ageOfField_map, pick?_count_of_respells respells turns (counts _ turns),
      pick?_count_of_respells respells tokens (counts _ tokens)]

/-- What is picked for a field other than the age is the same under another spelling. -/
theorem pick?_field_of_respells (respells : Respells es es') (once : IsWrittenOnce es)
    (known : names ∈ spellings.fields) (other : names ≠ spellings.age) :
  pick? es names = pick? es' names
  := by
  have age : spellings.age ∈ spellings.fields := by simp [Spellings.fields]
  have picked := RespellsBy.pick? respells areApart_fields known (once.fields _ known)
  apply congr_of_rel id _ picked
  rintro v v' ⟨-, k, spelled, related⟩
  have unaged : ¬spells spellings.age k = true := fun aged =>
    other (areApart_fields.eq_of_spells known age spelled aged)
  rw [if_neg unaged] at related
  rw [related]

theorem ofEntries_of_respells (respells : Respells es es') (once : IsWrittenOnce es) :
  Draft.ofEntries es = Draft.ofEntries es'
  := by
  have field {names : List String} (known : names ∈ spellings.fields := by decide)
      (other : names ≠ spellings.age := by decide) : pick? es names = pick? es' names :=
    pick?_field_of_respells respells once known other
  have tier : pick? es spellings.tier = pick? es' spellings.tier := field
  have mode : pick? es spellings.mode = pick? es' spellings.mode := field
  have scores : pick? es spellings.scores = pick? es' spellings.scores := field
  have externalClaim : pick? es spellings.externalClaim = pick? es' spellings.externalClaim := field
  have citation : pick? es spellings.citation = pick? es' spellings.citation := field
  have omission : pick? es spellings.omission = pick? es' spellings.omission := field
  have profile : pick? es spellings.profile = pick? es' spellings.profile := field
  rw [Draft.ofEntries, Draft.ofEntries, tier, mode, scores, externalClaim, citation, omission,
    profile, ageOfField_of_respells respells once]

/-- Mappings that write the same request, each field under any of its spellings, are read as the same
draft or rejected alike, and so they are evaluated: nothing that comes of them, and nothing that is
announced, can tell which spellings are used or what stands under other keys. -/
theorem evaluateWire_respelled {σ : Type} (c : Codex) (sink : Option (Sink σ)) (now : Value)
    (state : σ) (once : IsWrittenOnce es) (respells : Respells es es') :
  Draft.ofValue (.map es) = Draft.ofValue (.map es')
    ∧ c.evaluateWire (.map es) sink now state = c.evaluateWire (.map es') sink now state
  := by
  have same : Draft.ofValue (.map es) = Draft.ofValue (.map es') :=
    ofEntries_of_respells respells once
  use same
  rw [Codex.evaluateWire, Codex.evaluateWire, same]

/-- A request under the preferred spellings. -/
def preferredKeys : Entries Scalar Value :=
  [(.text "tier", .text "high"), (.text "mode", .text "careful"),
    (.text "contextAge", .map [(.text "turnsSinceRecap", .int 3)]),
    (.text "citationOverride", .bool false), (.text "profile", .null)]

/-- The same request under other spellings, with its first keys in another order and all of them
among keys that spell no field. -/
def otherKeys : Entries Scalar Value :=
  [(.text "mode", .text "careful"), (.text "stakes", .text "high"), (.text "Tier", .text "low"),
    (.text "context_age", .map [(.null, .bool true), (.text "turns_since_recap", .int 3)]),
    (.text "citePolicyOverride", .bool false), (.text "reflex_profile", .null), (.null, .null)]

set_option maxRecDepth 4000 in
theorem respells_otherKeys :
  Respells preferredKeys otherKeys
  := by
  have counts : RespellsBy spellings.counts (fun _ w w' => w = w')
      [(.text "turnsSinceRecap", .int 3)]
      [(.null, .bool true), (.text "turns_since_recap", .int 3)] :=
    ⟨[(.text "turns_since_recap", .int 3)], .cons ⟨spellAlike_of_any (by decide), rfl⟩ .nil, .refl _⟩
  refine ⟨[(.text "stakes", .text "high"), (.text "mode", .text "careful"),
    (.text "context_age", .map [(.null, .bool true), (.text "turns_since_recap", .int 3)]),
    (.text "citePolicyOverride", .bool false), (.text "reflex_profile", .null)], ?_, .swap _ _ _⟩
  apply List.Forall₂.cons ⟨spellAlike_of_any (by decide), rfl⟩
  apply List.Forall₂.cons ⟨spellAlike_of_any (by decide), rfl⟩
  apply List.Forall₂.cons ⟨spellAlike_of_any (by decide), .inr ⟨_, _, rfl, rfl, counts⟩⟩
  apply List.Forall₂.cons ⟨spellAlike_of_any (by decide), rfl⟩
  apply List.Forall₂.cons ⟨spellAlike_of_any (by decide), rfl⟩
  exact .nil

set_option maxRecDepth 4000 in
/-- Two ways to write one request are read and evaluated alike. -/
theorem evaluateWire_respelled_otherKeys :
  IsWrittenOnce preferredKeys ∧ Respells preferredKeys otherKeys
    ∧ ∀ c : Codex, Draft.ofValue (.map preferredKeys) = Draft.ofValue (.map otherKeys)
      ∧ c.evaluateWire (.map preferredKeys) (none : Option (Sink Unit)) .null ()
        = c.evaluateWire (.map otherKeys) none .null ()
  := by
  have once : IsWrittenOnce preferredKeys := ⟨by decide, by decide⟩
  use once, respells_otherKeys
  intro c
  exact evaluateWire_respelled c none .null () once respells_otherKeys

end ReflexPolicy

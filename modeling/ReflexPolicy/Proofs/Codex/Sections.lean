import ReflexPolicy.Proofs.Binary64.Whole
import ReflexPolicy.Proofs.Codex.WellFormed
import ReflexPolicy.Proofs.Codex.Reading

/-!
# What the sections of a document give

One statement for each reading of `ReflexPolicy.Codex`: what a section gives when it is read
without problems.  They say what the thresholds, the orders and the names of a codex can rely on,
and nothing later opens a reading again.
-/

namespace ReflexPolicy

open Reading

/-! ### Thresholds, and the rules that are read from a mapping -/

/-- The value is a number of the unit interval, and this is the same number in the binary64 format.
-/
def Value.Sets (v : Value) (x : Binary64) : Prop :=
  ∃ n, v.number? = some n ∧ (Number.whole 0).le n = true ∧ n.le (.whole 1) = true
    ∧ n.toBinary64? = some x ∧ n.equals (.float x) = true

theorem Value.sets_iff {v : Value} {x : Binary64} :
  v.Sets x ↔ x.isUnit = true ∧ ∃ n, v.number? = some n ∧ n.toBinary64? = some x
  := by
  constructor
  · rintro ⟨n, number, nonneg, le_one, given, same⟩
    exact ⟨(Number.isUnit_iff same).mpr ⟨nonneg, le_one⟩, n, number, given⟩
  · rintro ⟨unit, n, number, given⟩
    obtain ⟨nonneg, le_one⟩ := Number.unit_of_toBinary64? given unit
    obtain ⟨x', given', same⟩ := Number.toBinary64?_of_unit nonneg le_one
    rw [given, Option.some.injEq] at given'
    exact ⟨n, number, nonneg, le_one, given, given' ▸ same⟩

theorem Value.Sets.isUnit {v : Value} {x : Binary64} (sets : v.Sets x) :
  x.isUnit = true
  := (Value.sets_iff.mp sets).1

theorem readUnit_gives_iff_sets {place : Text} {default x : Binary64} {v : Value} :
  (readUnit place default v).Gives x ↔ v.Sets x
  := readUnit_gives.trans Value.sets_iff.symm

/-- The rules of a tier are those of a mapping. -/
structure TierPolicy.IsOf (p : TierPolicy) (raw : Entries Scalar Value) : Prop where
  floor : (Value.field raw "min_confidence").Sets p.minConfidence
  required : p.citationRequired = (Value.field raw "citation_required").truthy
  citation : (Value.fieldD raw "citation_score_floor" (.float 1)).Sets p.citationFloor
  scan : p.omissionScan = (Value.field raw "omission_scan").truthy

/-- The rules of a mode are those of a mapping. -/
structure ModePolicy.IsOf (p : ModePolicy) (mode : Mode) (raw : Entries Scalar Value) : Prop where
  boost : (Codex.readBoost mode (Value.fieldD raw "confidence_boost" (.float 0))).Gives
    p.confidenceBoost
  description : (readText (Value.fieldD raw "description" (.text ""))).Gives p.description

/-- The reflex is that of a mapping, under an id. -/
structure Reflex.IsOf (r : Reflex) (id : Scalar) (raw : Entries Scalar Value) : Prop where
  named : r.id = id
  label : (readText (Value.fieldD raw "label" (.scalar id))).Gives r.label
  severity : Value.fieldD raw "severity" (.int 5) = .int r.severity
  inside : 1 ≤ r.severity ∧ r.severity ≤ 10
  trigger : (Value.field raw "trigger_at").Sets r.triggerAt
  blocks : (Codex.readBlocks id r.triggerAt (Value.field raw "block_if_over")).Gives r.blockIfOver
  suppress : (Codex.readSuppression id (Value.field raw "suppress_below")).Gives r.suppressBelow

namespace Codex

/-- A reading of parts, each of which gives a list of one entry, gives the list of the entries. -/
theorem forall₂_flatten {α β : Type} {R : α → β → Prop} {as : List α} {parts : List (List β)}
    (h : List.Forall₂ (fun a part => ∃ b, part = [b] ∧ R a b) as parts) :
  List.Forall₂ R as parts.flatten
  := by
  induction h with
  | nil => exact .nil
  | cons first _ ih =>
    obtain ⟨b, rfl, hb⟩ := first
    exact .cons hb ih

/-- Whatever stands in the second list is related to something in the first. -/
theorem exists_of_forall₂ {α β : Type} {R : α → β → Prop} {as : List α} {bs : List β} {b : β}
    (h : List.Forall₂ R as bs) (mem : b ∈ bs) :
  ∃ a ∈ as, R a b
  := by
  induction h with
  | nil => simp at mem
  | cons first _ ih =>
    obtain _ | ⟨_, mem⟩ := mem
    · exact ⟨_, List.mem_cons_self, first⟩
    · obtain ⟨a, mem', related⟩ := ih mem
      exact ⟨a, List.mem_cons_of_mem _ mem', related⟩

/-! ### Risk tiers -/

/-- The rules of a tier come from a mapping under its name. -/
theorem readTier_gives {es : Entries Scalar Value} {tier : Tier} {part : List (Tier × TierPolicy)} :
  (readTier es tier).Gives part
    ↔ ∃ p raw, Value.field es tier.name = .map raw ∧ p.IsOf raw ∧ part = [(tier, p)]
  := by
  rw [readTier]
  split
  · rename_i raw found
    simp only [gives_bind, gives_pure, readUnit_gives_iff_sets]
    constructor
    · rintro ⟨floor, ofFloor, citation, ofCitation, rfl⟩
      exact ⟨_, raw, found, ⟨ofFloor, rfl, ofCitation, rfl⟩, rfl⟩
    · rintro ⟨p, raw', found', ⟨floor, required, citation, scan⟩, rfl⟩
      rw [found, Value.map.injEq] at found'
      subst found'
      exact ⟨_, floor, _, citation, by rw [← required, ← scan]⟩
  · rename_i other
    simp only [not_gives_instead, false_iff]
    rintro ⟨p, raw, found, -⟩
    exact other raw found

/-- Every tier has the rules that stand under its name, and the floors do not decrease from low to
high. -/
theorem readTiers_gives {doc : Entries Scalar Value} {tiers : Entries Tier TierPolicy}
    (h : (readTiers doc).Gives tiers) :
  ∃ es low medium high, Value.field doc "tiers" = .map es
    ∧ tiers = [(.low, low), (.medium, medium), (.high, high)]
    ∧ (∀ e ∈ tiers, ∃ raw, Value.field es e.1.name = .map raw ∧ e.2.IsOf raw)
    ∧ low.minConfidence.le medium.minConfidence = true
    ∧ medium.minConfidence.le high.minConfidence = true
  := by
  simp only [readTiers, gives_bind, gives_pure, gives_each, gives_require, readSection_gives] at h
  obtain ⟨es, section_, parts, each, -, -, -, ordered, rfl⟩ := h
  have entries := forall₂_flatten (R := fun t e => e.1 = t ∧ ∃ raw,
      Value.field es e.1.name = .map raw ∧ e.2.IsOf raw) (each.imp fun t part given => by
    obtain ⟨p, raw, found, isOf, rfl⟩ := readTier_gives.mp given
    exact ⟨(t, p), rfl, rfl, raw, found, isOf⟩)
  generalize parts.flatten = tiers at entries ordered
  simp only [Tier.all, List.forall₂_cons_left_iff, List.forall₂_nil_left_iff] at entries
  obtain ⟨⟨_, low⟩, _, ⟨rfl, hl⟩, ⟨⟨_, medium⟩, _, ⟨rfl, hm⟩, ⟨⟨_, high⟩, _, ⟨rfl, hh⟩, rfl,
    rfl⟩, rfl⟩, rfl⟩ := entries
  use es, low, medium, high, section_, rfl
  constructor
  · intro e mem
    simp only [List.mem_cons, List.not_mem_nil, or_false] at mem
    obtain rfl | rfl | rfl := mem
    · apply hl
    · apply hm
    · apply hh
  · simpa [Tier.all, nonDecreasing] using ordered

theorem units_of_readTiers {doc : Entries Scalar Value} {tiers : Entries Tier TierPolicy}
    (h : (readTiers doc).Gives tiers) :
  ∀ e ∈ tiers, e.2.minConfidence.isUnit = true ∧ e.2.citationFloor.isUnit = true
  := by
  obtain ⟨_, _, _, _, -, -, sources, -⟩ := readTiers_gives h
  intro e mem
  obtain ⟨raw, -, isOf⟩ := sources e mem
  exact ⟨isOf.floor.isUnit, isOf.citation.isUnit⟩

/-! ### Modes -/

/-- A boost is a number that is not below zero, or no number at all. -/
theorem readBoost_gives {mode : Mode} {v : Value} {boost : Binary64}
    (h : (readBoost mode v).Gives boost) :
  boost.lt 0 = false
  := by
  rw [readBoost] at h
  split at h
  · simp at h
  · split at h
    · simp at h
    · rename_i nonneg
      split at h
      · simp at h
      · rename_i x given
        rw [gives_reading_pure] at h
        rw [← h]
        apply Number.lt_zero_of_toBinary64? given
        simpa using nonneg

/-- The rules of a mode come from a mapping under its name. -/
theorem readMode_gives {es : Entries Scalar Value} {mode : Mode} {part : List (Mode × ModePolicy)} :
  (readMode es mode).Gives part
    ↔ ∃ p raw, Value.field es mode.name = .map raw ∧ p.IsOf mode raw ∧ part = [(mode, p)]
  := by
  rw [readMode]
  split
  · rename_i absent
    simp [absent]
  · rename_i raw found
    simp only [gives_bind, gives_pure]
    constructor
    · rintro ⟨boost, ofBoost, description, ofDescription, rfl⟩
      exact ⟨_, raw, found, ⟨ofBoost, ofDescription⟩, rfl⟩
    · rintro ⟨p, raw', found', isOf, rfl⟩
      rw [found, Value.map.injEq] at found'
      subst found'
      exact ⟨p.confidenceBoost, isOf.boost, p.description, isOf.description, rfl⟩
  · rename_i other
    simp only [not_gives_instead, false_iff]
    rintro ⟨p, raw, found, -⟩
    exact other raw found

theorem isZero_iff {x : Binary64} :
  isZero x = true ↔ x.extended? = some (.units 0)
  := by
  have same : isZero x = Number.equals (.float x) (.float 0) := rfl
  rw [same, Number.equals_iff]
  simp [Number.extended?, Binary64.extended?_zero]

/-- Every mode has its rules, no boost is below zero, and the direct mode has none. -/
theorem readModes_gives {doc : Entries Scalar Value} {modes : Entries Mode ModePolicy}
    (h : (readModes doc).Gives modes) :
  ∃ direct careful recap, modes = [(.direct, direct), (.careful, careful), (.recap, recap)]
    ∧ (∀ e ∈ modes, e.2.confidenceBoost.lt 0 = false)
    ∧ direct.confidenceBoost.extended? = some (.units 0)
  := by
  simp only [readModes, gives_bind, gives_pure, gives_each, gives_require] at h
  obtain ⟨es, -, parts, each, -, unboosted, rfl⟩ := h
  have entries := forall₂_flatten (R := fun m e => e.1 = m ∧ e.2.confidenceBoost.lt 0 = false)
    (each.imp fun m part given => by
      obtain ⟨p, raw, -, isOf, rfl⟩ := readMode_gives.mp given
      exact ⟨(m, p), rfl, rfl, readBoost_gives isOf.boost⟩)
  generalize parts.flatten = modes at entries unboosted
  simp only [Mode.all, List.forall₂_cons_left_iff, List.forall₂_nil_left_iff] at entries
  obtain ⟨⟨_, direct⟩, _, ⟨rfl, hd⟩, ⟨⟨_, careful⟩, _, ⟨rfl, hc⟩, ⟨⟨_, recap⟩, _, ⟨rfl, hr⟩, rfl,
    rfl⟩, rfl⟩, rfl⟩ := entries
  use direct, careful, recap, rfl
  constructor
  · intro e mem
    simp only [List.mem_cons, List.not_mem_nil, or_false] at mem
    obtain rfl | rfl | rfl := mem
    · apply hd
    · apply hc
    · apply hr
  · apply isZero_iff.mp
    simpa [Entries.get?] using unboosted

/-! ### Reflexes -/

theorem readBlock_gives {id : Scalar} {trigger : Binary64} {entry : Scalar × Value}
    {part : List (Tier × Binary64)} (triggerUnit : trigger.isUnit = true)
    (h : (readBlock id trigger entry).Gives part) :
  ∃ tier block, part = [(tier, block)] ∧ block.isUnit = true ∧ trigger.le block = true
  := by
  simp only [readBlock, gives_bind, readWord_gives] at h
  obtain ⟨_, ⟨tier, -, rfl⟩, h⟩ := h
  simp only [gives_bind, gives_pure, gives_require, readUnit_gives] at h
  obtain ⟨block, ⟨blockUnit, -⟩, -, not_lt, rfl⟩ := h
  use tier, block, rfl, blockUnit
  apply (Binary64.lt_eq_false_iff (Binary64.isNan_of_isUnit blockUnit)
    (Binary64.isNan_of_isUnit triggerUnit)).mp
  simpa using not_lt

/-- Every blocking threshold lies in the unit interval and not below the trigger, under whatever
spelling of its tier it was given. -/
theorem readBlocks_gives {id : Scalar} {trigger : Binary64} {v : Value}
    {blocks : Entries Tier Binary64} (triggerUnit : trigger.isUnit = true)
    (h : (readBlocks id trigger v).Gives blocks) :
  ∀ e ∈ blocks, e.2.isUnit = true ∧ trigger.le e.2 = true
  := by
  obtain ⟨es, parts, each, rfl⟩ : ∃ es parts,
      List.Forall₂ (fun entry part => (readBlock id trigger entry).Gives part) es parts
        ∧ Entries.ofList parts.flatten = blocks := by
    unfold readBlocks at h
    split at h
    · simp only [gives_bind, gives_pure, gives_reading_pure, gives_each] at h
      obtain ⟨es, -, parts, given⟩ := h
      exact ⟨es, parts, given⟩
    · split at h
      · simp only [gives_bind, gives_pure, gives_reading_pure, gives_each] at h
        obtain ⟨es, -, parts, given⟩ := h
        exact ⟨es, parts, given⟩
      · simp at h
  apply Entries.forall_ofList (P := fun b => b.isUnit = true ∧ trigger.le b = true)
  have entries := forall₂_flatten (R := fun _ e => e.2.isUnit = true ∧ trigger.le e.2 = true)
    (each.imp fun entry part given => by
      obtain ⟨tier, block, rfl, bounds⟩ := readBlock_gives triggerUnit given
      exact ⟨(tier, block), rfl, bounds⟩)
  intro e mem
  obtain ⟨_, -, bounds⟩ := exists_of_forall₂ entries mem
  apply bounds

theorem readSeverity_gives {id : Scalar} {v : Value} {severity : Nat} :
  (readSeverity id v).Gives severity ↔ v = .int severity ∧ 1 ≤ severity ∧ severity ≤ 10
  := by
  unfold readSeverity
  split
  · rename_i n
    by_cases inside : 1 ≤ n ∧ n ≤ 10
    · simp only [inside, and_self, if_true, gives_reading_pure, Value.scalar.injEq,
        Scalar.number.injEq, Number.whole.injEq]
      omega
    · simp only [inside, if_false, not_gives_instead, Value.scalar.injEq, Scalar.number.injEq,
        Number.whole.injEq, false_iff]
      omega
  · rename_i not_int
    simp only [not_gives_instead, false_iff, not_and]
    intro h
    exact absurd h (not_int _)

/-- A reflex comes from a mapping. -/
theorem readReflexOf_gives {id : Scalar} {v : Value} {part : List (Scalar × Reflex)} :
  (readReflexOf id v).Gives part ↔ ∃ r raw, v = .map raw ∧ r.IsOf id raw ∧ part = [(id, r)]
  := by
  rw [readReflexOf.eq_def]
  split
  · rename_i raw
    simp only [gives_bind, gives_pure, readUnit_gives_iff_sets, readSeverity_gives]
    constructor
    · rintro ⟨trigger, ofTrigger, blocks, ofBlocks, suppressBelow, ofSuppression, severity,
        ⟨ofSeverity, inside⟩, label, ofLabel, rfl⟩
      let r : Reflex :=
        { id := id, label := label, severity := severity, triggerAt := trigger,
          blockIfOver := blocks, suppressBelow := suppressBelow }
      exact ⟨r, raw, rfl,
        ⟨rfl, ofLabel, ofSeverity, inside, ofTrigger, ofBlocks, ofSuppression⟩, rfl⟩
    · rintro ⟨r, _, ⟨⟩, isOf, rfl⟩
      obtain rfl := isOf.named
      exact ⟨r.triggerAt, isOf.trigger, r.blockIfOver, isOf.blocks, r.suppressBelow, isOf.suppress,
        r.severity, ⟨isOf.severity, isOf.inside⟩, r.label, isOf.label, rfl⟩
  · rename_i other
    simp only [not_gives_instead, false_iff]
    rintro ⟨r, raw, found, -⟩
    exact other raw found

theorem readReflex_gives {entry : Scalar × Value} {part : List (Scalar × Reflex)} :
  (readReflex entry).Gives part ↔ entry.1.isWritable = true
    ∧ ∃ r raw, entry.2 = .map raw ∧ r.IsOf entry.1 raw ∧ part = [(entry.1, r)]
  := by
  simp only [readReflex, gives_bind, readText_gives, readReflexOf_gives]
  constructor
  · rintro ⟨_, ⟨writable, -⟩, reads⟩
    exact ⟨writable, reads⟩
  · rintro ⟨writable, reads⟩
    exact ⟨_, ⟨writable, rfl⟩, reads⟩

theorem wellFormed_of_isOf {r : Reflex} {id : Scalar} {raw : Entries Scalar Value}
    (isOf : r.IsOf id raw) :
  r.WellFormed
  where
    trigger := isOf.trigger.isUnit
    severity := isOf.inside
    blocks := readBlocks_gives isOf.trigger.isUnit isOf.blocks

/-- Every reflex is read from the mapping under its key. -/
theorem readReflexes_gives {doc : Entries Scalar Value} {reflexes : Entries Scalar Reflex}
    (h : (readReflexes doc).Gives reflexes) :
  ∃ es, Value.field doc "reflexes" = .map es
    ∧ List.Forall₂ (fun e e' => e'.1 = e.1 ∧ ∃ raw, e.2 = .map raw ∧ e'.2.IsOf e.1 raw) es reflexes
  := by
  simp only [readReflexes, gives_bind, gives_pure, gives_each, readSection_gives] at h
  obtain ⟨es, section_, parts, each, rfl⟩ := h
  use es, section_
  apply forall₂_flatten
  apply each.imp
  intro entry part given
  obtain ⟨-, r, raw, found, isOf, rfl⟩ := readReflex_gives.mp given
  exact ⟨_, rfl, rfl, raw, found, isOf⟩

/-! ### Profiles -/

/-- An order is read from a list of texts, all of them defined and no two the same. -/
theorem readOrder_gives {reflexes : List Scalar} {name : Scalar} {seen : List Text}
    {items : List Value} {ids : List Text} :
  (readOrder reflexes name seen items).Gives ids
    ↔ items = ids.map Value.text ∧ ids.Nodup
      ∧ ∀ id ∈ ids, id ∉ seen ∧ reflexes.any (·.same (.text id)) = true
  := by
  fun_induction readOrder reflexes name seen items generalizing ids with
  | case1 =>
    simp only [gives_reading_pure, List.nil_eq, List.map_eq_nil_iff]
    constructor
    · rintro rfl
      simp
    · rintro ⟨rfl, -⟩
      rfl
  | case2 seen id rest ih =>
    simp only [gives_bind, gives_pure, gives_require, ih]
    constructor
    · rintro ⟨-, defined, -, fresh, ids, ⟨rfl, nodup, all⟩, rfl⟩
      refine ⟨rfl, List.nodup_cons.mpr ⟨?_, nodup⟩, List.forall_mem_cons.mpr ⟨⟨?_, defined⟩, ?_⟩⟩
      · intro mem
        exact (all id mem).1 List.mem_cons_self
      · simpa using fresh
      · intro id' mem
        exact ⟨fun before => (all id' mem).1 (List.mem_cons_of_mem _ before), (all id' mem).2⟩
    · rintro ⟨items, nodup, all⟩
      cases ids with
      | nil => simp at items
      | cons id' ids =>
        simp only [List.map_cons, List.cons.injEq, Value.scalar.injEq, Scalar.text.injEq] at items
        obtain ⟨rfl, rfl⟩ := items
        obtain ⟨fresh, nodup⟩ := List.nodup_cons.mp nodup
        obtain ⟨⟨unseen, defined⟩, all⟩ := List.forall_mem_cons.mp all
        refine ⟨(), defined, (), by simpa using unseen, ids, ⟨rfl, nodup, ?_⟩, rfl⟩
        intro id' mem
        refine ⟨?_, (all id' mem).2⟩
        rintro (_ | ⟨_, before⟩)
        · apply fresh mem
        · exact (all id' mem).1 before
  | case3 seen v rest not_text ih =>
    simp only [gives_bind, not_gives_note, false_and, exists_false, false_iff]
    rintro ⟨items, -⟩
    cases ids with
    | nil => simp at items
    | cons id ids =>
      simp only [List.map_cons, List.cons.injEq] at items
      apply not_text id items.1

/-- A profile has an order of defined reflexes, each listed once, and leaves out nothing of the
list that it is read from. -/
theorem readProfile_gives {reflexes : List Scalar} {entry : Scalar × Value}
    {part : List (Scalar × Profile)} (h : (readProfile reflexes entry).Gives part) :
  ∃ p, part = [(entry.1, p)] ∧ orderOf entry.2 = .list (p.order.map Value.text)
    ∧ p.order.Nodup ∧ ∀ id ∈ p.order, reflexes.any (·.same (.text id)) = true
  := by
  rw [readProfile] at h
  split at h
  · rename_i items list
    simp only [gives_bind, gives_pure, readOrder_gives] at h
    obtain ⟨order, ⟨rfl, nodup, all⟩, rfl⟩ := h
    exact ⟨_, rfl, list, nodup, fun id mem => (all id mem).2⟩
  · simp at h

theorem readProfiles_gives {doc : Entries Scalar Value} {reflexes : List Scalar}
    {profiles : Entries Scalar Profile} (h : (readProfiles doc reflexes).Gives profiles) :
  ∃ es, Value.field doc "profiles" = .map es
    ∧ List.Forall₂ (fun e e' => e'.1 = e.1 ∧ orderOf e.2 = .list (e'.2.order.map Value.text)
        ∧ e'.2.order.Nodup ∧ ∀ id ∈ e'.2.order, reflexes.any (·.same (.text id)) = true)
      es profiles
    ∧ listsSomething es defaultProfile = true
  := by
  simp only [readProfiles, gives_bind, gives_pure, gives_each, gives_require,
    readSection_gives] at h
  obtain ⟨es, section_, parts, each, -, something, rfl⟩ := h
  refine ⟨es, section_, ?_, something⟩
  apply forall₂_flatten
  apply each.imp
  intro entry part given
  obtain ⟨p, rfl, order⟩ := readProfile_gives given
  exact ⟨_, rfl, rfl, order⟩

/-- The default profile is among the profiles of a document that lists something under its
name. -/
theorem get?_profiles {es : Entries Scalar Value} {profiles : Entries Scalar Profile}
    {name : String}
    (h : List.Forall₂
      (fun e e' => e'.1 = e.1 ∧ orderOf e.2 = .list (e'.2.order.map Value.text)) es profiles)
    (something : listsSomething es name = true) :
  ∃ p, Entries.get? profiles (.text name) = some p ∧ p.order ≠ []
  := by
  induction h with
  | nil => simp [listsSomething, Value.field, Value.field?, Entries.get?, orderOf] at something
  | @cons e e' es profiles first _ ih =>
    obtain ⟨_, v⟩ := e
    obtain ⟨k, p⟩ := e'
    simp only at first
    obtain ⟨rfl, order⟩ := first
    by_cases same : (k == Scalar.text name) = true
    · use p
      constructor
      · simp [Entries.get?, same]
      · rintro empty
        simp [listsSomething, Value.field, Value.field?, Entries.get?, same, order, empty]
          at something
    · have later : listsSomething es name = true := by
        simpa [listsSomething, Value.field, Value.field?, Entries.get?, same] using something
      simpa [Entries.get?, same] using ih later

/-! ### Context decay -/

/-- A limit is a whole number of the section that is not below zero.  Only an empty section gives
one that it does not have, and that is zero. -/
theorem readLimit_gives {es : Entries Scalar Value} {name : String} {limit : Nat} :
  (readLimit es name).Gives limit
    ↔ Value.field es name = .int limit ∨ es = [] ∧ limit = 0
  := by
  have nothing {n : Int} (h : Value.field es name = .int n) : es ≠ [] := by
    rintro rfl
    simp [Value.field, Value.field?, Entries.get?] at h
  have missing : (Reading.bind (Reading.require es.isEmpty (.limitNotNonNegative name))
      fun _ => Reading.pure 0).Gives limit ↔ es = [] ∧ limit = 0 := by
    change (Reading.require es.isEmpty _ >>= fun _ => Reading.pure 0).Gives limit ↔ _
    simp only [gives_bind, gives_require, gives_reading_pure, exists_const, List.isEmpty_iff]
    exact and_congr_right fun _ => eq_comm
  rw [readLimit]
  split
  · rename_i n h
    split
    · simp only [gives_reading_pure, h, nothing h, false_and, or_false, Value.scalar.injEq,
        Scalar.number.injEq, Number.whole.injEq]
      omega
    · rw [missing]
      simp only [h, nothing h, false_and, or_false, Value.scalar.injEq, Scalar.number.injEq,
        Number.whole.injEq, false_iff]
      omega
  · rename_i not_int
    rw [missing]
    constructor
    · exact .inr
    · rintro (h | h)
      · exact absurd h (not_int _)
      · apply h

theorem readContextDecay_gives {doc : Entries Scalar Value} {decay : ContextDecay}
    (h : (readContextDecay doc).Gives decay) :
  ∃ es, Value.field doc "context_decay" = .map es
    ∧ (Value.field es "max_turns_without_recap" = .int decay.maxTurns
      ∨ es = [] ∧ decay.maxTurns = 0)
    ∧ (Value.field es "max_tokens_since_recap" = .int decay.maxTokens
      ∨ es = [] ∧ decay.maxTokens = 0)
  := by
  simp only [readContextDecay, gives_bind, gives_pure, readSection_gives, readLimit_gives] at h
  obtain ⟨es, section_, turns, givenTurns, tokens, givenTokens, mode, -, rfl⟩ := h
  exact ⟨es, section_, givenTurns, givenTokens⟩

/-! ### Settings -/

/-- The profile of the handshake defaults is one of the document, if it has any. -/
theorem readHandshakeDefaults_gives {doc : Entries Scalar Value} {profiles : List Scalar}
    {defaults : HandshakeDefaults} (h : (readHandshakeDefaults doc profiles).Gives defaults) :
  profiles = [] ∨ profiles.any (·.same (.text defaults.profile)) = true
  := by
  simp only [readHandshakeDefaults, gives_bind, readSettings_gives] at h
  obtain ⟨found, given, h⟩ := h
  obtain ⟨es, rfl⟩ : ∃ es, found = some es := by
    obtain ⟨-, rfl⟩ | ⟨es, -, -, rfl⟩ := given
    · exact ⟨_, rfl⟩
    · exact ⟨_, rfl⟩
  simp only [gives_bind, gives_pure, gives_require] at h
  obtain ⟨mode, -, tier, -, citation, -, omission, -, profile, -, -, defined, rfl⟩ := h
  simpa [List.isEmpty_iff] using defined

/-- The threshold of refusals is not above that of hedges, and both lie in the unit interval. -/
theorem readFailureSemantics_gives {doc : Entries Scalar Value} {failures : FailureSemantics}
    (h : (readFailureSemantics doc).Gives failures) :
  Binary64.le 0 failures.refuseThreshold = true
    ∧ failures.refuseThreshold.le failures.hedgeThreshold = true
    ∧ failures.hedgeThreshold.le 1 = true
  := by
  simp only [readFailureSemantics, gives_bind, readSettings_gives] at h
  obtain ⟨found, given, h⟩ := h
  obtain ⟨es, rfl⟩ : ∃ es, found = some es := by
    obtain ⟨-, rfl⟩ | ⟨es, -, -, rfl⟩ := given
    · exact ⟨_, rfl⟩
    · exact ⟨_, rfl⟩
  simp only [gives_bind, gives_pure, gives_require, readUnit_gives] at h
  obtain ⟨hedge, ⟨hedgeUnit, -⟩, refuse, ⟨refuseUnit, -⟩, -, not_lt, messages, -, rfl⟩ := h
  refine ⟨(Binary64.isUnit_iff.mp refuseUnit).1, ?_, (Binary64.isUnit_iff.mp hedgeUnit).2⟩
  apply (Binary64.lt_eq_false_iff (Binary64.isNan_of_isUnit hedgeUnit)
    (Binary64.isNan_of_isUnit refuseUnit)).mp
  simpa using not_lt

theorem texts?_eq_some {items : List Value} {names : List Text} :
  texts? items = some names ↔ items = names.map Value.text
  := by
  induction items generalizing names with
  | nil =>
    simp only [texts?, Option.some.injEq, List.nil_eq, List.map_eq_nil_iff]
  | cons v rest ih =>
    unfold texts?
    split
    · simp_all
    · rename_i s rest' h
      cases h
      cases names <;> simp [ih]
      tauto
    · rename_i not_nil not_text
      cases names with
      | nil => simp
      | cons name names =>
        simp only [reduceCtorEq, List.map_cons, List.cons.injEq, false_iff, not_and]
        rintro rfl
        exact absurd rfl (not_text _ _)

/-- The hidden fields are read from a list of texts, or from anything that counts as false. -/
theorem readNames_gives {v : Value} {names : List Text} :
  (readNames v).Gives names
    ↔ v.truthy = false ∧ names = [] ∨ v.truthy = true ∧ v = .list (names.map Value.text)
  := by
  rw [readNames]
  cases truth : v.truthy with
  | false => simp [eq_comm]
  | true =>
    simp only [Bool.not_true, Bool.false_eq_true, if_false, true_and]
    cases v with
    | scalar s => simp [Value.items?]
    | map es => simp [Value.items?]
    | list items =>
      simp only [Value.items?, Option.bind_some, Value.list.injEq, ← texts?_eq_some]
      cases texts? items <;> simp

/-- The hidden fields are those of a list of texts of the document. -/
theorem readTelemetry_gives {doc : Entries Scalar Value} {telemetry : TelemetrySettings}
    (h : (readTelemetry doc).Gives telemetry) :
  telemetry.redactFields = [] ∨ ∃ es, ∃ names : List Text, Value.field doc "telemetry" = .map es
    ∧ Value.field es "redact_fields" = .list (names.map Value.text)
    ∧ ∀ name, name ∈ telemetry.redactFields ↔ name ∈ names
  := by
  simp only [readTelemetry, gives_bind, readSettings_gives] at h
  obtain ⟨_, ⟨-, rfl⟩ | ⟨es, -, settings, rfl⟩, h⟩ := h
  · simp only [gives_bind, gives_pure, readNames_gives] at h
    obtain ⟨names, ⟨-, rfl⟩ | ⟨truth, -⟩, rfl⟩ := h
    · exact .inl rfl
    · simp [Value.field, Value.field?, Entries.get?, Value.truthy, Scalar.truthy] at truth
  · simp only [gives_bind, gives_pure, readNames_gives] at h
    obtain ⟨names, ⟨-, rfl⟩ | ⟨-, list⟩, rfl⟩ := h
    · exact .inl rfl
    · right
      use es, names, settings, list
      intro name
      apply List.mem_eraseDups

end Codex

end ReflexPolicy

import ReflexPolicy.Proofs.Codex.Loading
import ReflexPolicy.Proofs.Request.Checked

/-!
# The rule of an evaluation

What an evaluation answers, said of the whole order of a profile at once.  A reflex blocks or fires
on its own account: neither depends on the reflexes before it.  What is scanned is then the part of
the order in front of the first reflex that blocks, or all of it if there is none.
-/

namespace ReflexPolicy

/-! ### Verdicts of a reflex -/

namespace Reflex

variable {x : Reflex} {tier : Tier}

theorem isActive_iff :
  x.isActive tier = true ↔ ∀ least, x.suppressBelow = some least → least.rank ≤ tier.rank
  := by
  rw [isActive]
  cases x.suppressBelow <;> simp

theorem blocks_iff {s : Binary64} :
  x.blocks tier (.float s) = true ↔ ∃ b, Entries.get? x.blockIfOver tier = some b ∧ b.le s = true
  := by
  simp only [blocks, blockAt?]
  cases Entries.get? x.blockIfOver tier <;> simp [Number.le_float]

theorem judge_eq_block_iff {s : Number} :
  x.judge tier s = .block ↔ x.isActive tier = true ∧ x.blocks tier s = true
  := by
  rw [judge]
  cases x.isActive tier <;> cases x.blocks tier s <;> cases x.fires s <;> simp

theorem judge_eq_fire_iff {s : Number} :
  x.judge tier s = .fire
    ↔ x.isActive tier = true ∧ x.blocks tier s = false ∧ x.fires s = true
  := by
  rw [judge]
  cases x.isActive tier <;> cases x.blocks tier s <;> cases x.fires s <;> simp

end Reflex

namespace Codex

variable (c : Codex) (r : Request)

/-! ### What blocks and what fires -/

/-- The reflex is one of the codex and counts at the tier of the request. -/
def Counts (id : Text) (x : Reflex) : Prop :=
  c.reflexNamed? id = some x ∧ ∀ least, x.suppressBelow = some least → least.rank ≤ r.tier.rank

/-- The score of the reflex reaches a threshold from which it blocks. -/
def Blocks (id : Text) : Prop :=
  ∃ x b, c.Counts r id x ∧ Entries.get? x.blockIfOver r.tier = some b
    ∧ b.le (r.score id) = true

/-- The score of the reflex reaches its trigger, and none from which it blocks. -/
def Fires (id : Text) : Prop :=
  ∃ x, c.Counts r id x ∧ ¬c.Blocks r id ∧ x.triggerAt.le (r.score id) = true

/-- The verdict of the codex on the score that the request has for a reflex. -/
def verdict (id : Text) : Verdict := c.judge (.text id) r.tier (.float (r.score id))

theorem verdict_eq_block_iff (id : Text) :
  c.verdict r id = .block ↔ c.Blocks r id
  := by
  simp only [verdict, judge, Blocks, Counts, reflexNamed?]
  cases c.reflex? (.text id) with
  | none => simp
  | some x =>
    simp only [Reflex.judge_eq_block_iff, Reflex.isActive_iff, Reflex.blocks_iff]
    constructor
    · rintro ⟨active, b, threshold, reached⟩
      exact ⟨x, b, ⟨rfl, active⟩, threshold, reached⟩
    · rintro ⟨y, b, ⟨same, active⟩, threshold, reached⟩
      cases same
      exact ⟨active, b, threshold, reached⟩

theorem verdict_eq_fire_iff (id : Text) :
  c.verdict r id = .fire ↔ c.Fires r id
  := by
  rw [Fires]
  rw [← verdict_eq_block_iff]
  simp only [verdict, judge, Counts, reflexNamed?]
  cases c.reflex? (.text id) with
  | none => simp
  | some x =>
    simp only [Reflex.judge_eq_fire_iff, Reflex.judge_eq_block_iff, Reflex.isActive_iff,
      Reflex.fires, Number.le_float]
    constructor
    · rintro ⟨active, free, reached⟩
      use x, ⟨rfl, active⟩
      constructor
      · rintro ⟨-, blocks⟩
        rw [free] at blocks
        cases blocks
      · apply reached
    · rintro ⟨y, ⟨same, active⟩, free, reached⟩
      cases same
      use active
      constructor
      · rw [Bool.eq_false_iff]
        intro blocks
        apply free ⟨active, blocks⟩
      · apply reached

instance (id : Text) : Decidable (c.Blocks r id) :=
  decidable_of_iff _ (verdict_eq_block_iff c r id)

instance (id : Text) : Decidable (c.Fires r id) :=
  decidable_of_iff _ (verdict_eq_fire_iff c r id)

/-- The reflexes of a list that fire, in order, with their scores. -/
def firing (ids : List Text) : List Hit :=
  (ids.filter fun id => c.Fires r id).map fun id => ⟨id, r.score id⟩

theorem firing_cons (id : Text) (ids : List Text) :
  c.firing r (id :: ids)
    = if c.Fires r id then ⟨id, r.score id⟩ :: c.firing r ids else c.firing r ids
  := by
  by_cases fires : c.Fires r id <;> simp [firing, fires]

theorem ids_firing (ids : List Text) :
  (c.firing r ids).map Hit.id = ids.filter fun id => c.Fires r id
  := by
  simp [firing, Function.comp_def]

/-! ### The scan -/

/-- What the scan of an order finds. -/
def scanned (order : List Text) : Scan :=
  scan (fun id s => c.judge (.text id) r.tier (.float s)) r.score order

theorem scanned_cons (id : Text) (rest : List Text) :
  c.scanned r (id :: rest) = match c.verdict r id with
    | .block => { fired := [], blockedBy := some ⟨id, r.score id⟩ }
    | .fire => { c.scanned r rest with fired := ⟨id, r.score id⟩ :: (c.scanned r rest).fired }
    | .silent => c.scanned r rest
  := rfl

variable {c r}

/-- The scan goes past reflexes that do not block, and takes along those of them that fire. -/
theorem scanned_append {before : List Text} (free : ∀ id ∈ before, ¬c.Blocks r id)
    (rest : List Text) :
  c.scanned r (before ++ rest)
    = { c.scanned r rest with fired := c.firing r before ++ (c.scanned r rest).fired }
  := by
  induction before with
  | nil => rfl
  | cons id ids ih =>
    obtain ⟨first, others⟩ := List.forall_mem_cons.mp free
    rw [List.cons_append, scanned_cons, ih others, firing_cons]
    cases given : c.verdict r id with
    | block => exact absurd ((c.verdict_eq_block_iff r id).mp given) first
    | fire => simp [(c.verdict_eq_fire_iff r id).mp given]
    | silent =>
      have quiet : ¬c.Fires r id := by
        rw [← verdict_eq_fire_iff, given]
        simp
      simp [quiet]

theorem scanned_of_free {order : List Text} (free : ∀ id ∈ order, ¬c.Blocks r id) :
  c.scanned r order = { fired := c.firing r order, blockedBy := none }
  := by
  have := scanned_append free []
  rw [List.append_nil] at this
  rw [this]
  simp [scanned, scan]

theorem scanned_of_first {before : List Text} {id : Text} (after : List Text)
    (free : ∀ i ∈ before, ¬c.Blocks r i) (blocks : c.Blocks r id) :
  c.scanned r (before ++ id :: after)
    = { fired := c.firing r before, blockedBy := some ⟨id, r.score id⟩ }
  := by
  rw [scanned_append free, scanned_cons, (c.verdict_eq_block_iff r id).mpr blocks]
  simp

/-- An order has a first reflex that blocks, or none. -/
theorem free_or_first (c : Codex) (r : Request) (order : List Text) :
  (∀ id ∈ order, ¬c.Blocks r id)
    ∨ ∃ before id after, order = before ++ id :: after
      ∧ (∀ i ∈ before, ¬c.Blocks r i) ∧ c.Blocks r id
  := by
  cases found : order.find? fun id => c.Blocks r id with
  | none =>
    rw [List.find?_eq_none] at found
    exact .inl (by simpa using found)
  | some id =>
    rw [List.find?_eq_some_iff_append] at found
    obtain ⟨blocks, before, after, split, free⟩ := found
    exact .inr ⟨before, id, after, split, by simpa using free, by simpa using blocks⟩

end Codex

end ReflexPolicy

import Mathlib.Data.List.Forall2
import Mathlib.Tactic.Common
import ReflexPolicy.Codex.Reading
import ReflexPolicy.Proofs.Binary64.Order

/-!
# Readings without problems

A reading that is not broken off has a value, and meets problems on the way: a sequence of readings
meets those of each of them, one after another (`meets_bind`).  It gives its value when it meets
none.  Because a problem once noted is never taken back, a sequence of readings gives a value
exactly when each of them does (`gives_bind`), and a default that is read in place of a value is
given by no reading at all (`not_gives_instead`).
-/

namespace ReflexPolicy

namespace Reading

variable {α β : Type}

/-- The reading gives a value, and these are the problems on the way. -/
def Meets (x : Reading α) (a : α) (problems : List Problem) : Prop :=
  @Eq (Except BreakOff (α × List Problem)) x (.ok (a, problems))

theorem meets_bind {x : Reading α} {f : α → Reading β} {b : β} {problems : List Problem} :
  (x >>= f).Meets b problems
    ↔ ∃ a before after, x.Meets a before ∧ (f a).Meets b after ∧ problems = before ++ after
  := by
  change (Reading.bind x f).Meets b problems ↔ _
  simp only [Meets, Reading.bind]
  cases x with
  | error e => simp
  | ok found =>
    obtain ⟨a, before⟩ := found
    constructor
    · intro h
      cases hf : f a with
      | error e => simp [hf] at h
      | ok found =>
        obtain ⟨b', after⟩ := found
        simp only [hf, Except.ok.injEq, Prod.mk.injEq] at h
        obtain ⟨rfl, rfl⟩ := h
        exact ⟨a, before, after, rfl, hf, rfl⟩
    · rintro ⟨a', before', after, ha, hb, rfl⟩
      cases ha
      simp only [hb]

theorem meets_pure {a b : α} {problems : List Problem} :
  (Pure.pure a : Reading α).Meets b problems ↔ a = b ∧ problems = []
  := by
  change (Except.ok (a, []) : Except BreakOff (α × List Problem)) = .ok (b, problems) ↔ _
  simp [eq_comm]

/-- The reading gives a value and meets no problems. -/
def Gives (x : Reading α) (a : α) : Prop :=
  @Eq (Except BreakOff (α × List Problem)) x (.ok (a, []))

theorem gives_iff_meets {x : Reading α} {a : α} :
  x.Gives a ↔ x.Meets a []
  := Iff.rfl

@[simp]
theorem gives_bind {x : Reading α} {f : α → Reading β} {b : β} :
  (x >>= f).Gives b ↔ ∃ a, x.Gives a ∧ (f a).Gives b
  := by
  simp only [gives_iff_meets, meets_bind]
  constructor
  · rintro ⟨a, before, after, first, next, nothing⟩
    obtain ⟨rfl, rfl⟩ := List.append_eq_nil_iff.mp nothing.symm
    exact ⟨a, first, next⟩
  · rintro ⟨a, first, next⟩
    exact ⟨a, [], [], first, next, rfl⟩

@[simp]
theorem gives_pure {a b : α} :
  (Pure.pure a : Reading α).Gives b ↔ a = b
  := by
  change (Except.ok (a, []) : Except BreakOff (α × List Problem)) = .ok (b, []) ↔ _
  simp

@[simp]
theorem gives_reading_pure {a b : α} :
  (Reading.pure a).Gives b ↔ a = b
  := gives_pure

@[simp]
theorem not_gives_error {e : BreakOff} {a : α} :
  ¬ Gives (.error e : Reading α) a
  := by
  simp [Gives]

/-- A problem that is noted stays. -/
@[simp]
theorem not_gives_note {p : Problem} {u : Unit} :
  ¬ (note p).Gives u
  := by
  rw [note]
  by_cases writable : p.isWritable = true <;> simp [writable, Gives]

@[simp]
theorem gives_require {condition : Bool} {p : Problem} {u : Unit} :
  (require condition p).Gives u ↔ condition = true
  := by
  cases condition <;> simp [require]

/-- A default is read in place of a value only along with a problem. -/
@[simp]
theorem not_gives_instead {default a : α} {p : Problem} :
  ¬ (instead default p).Gives a
  := by
  change ¬ (note p >>= fun _ => Reading.pure default).Gives a
  simp

/-- The items of a list are read without problems when each of them is. -/
@[simp]
theorem gives_each {f : α → Reading β} {as : List α} {bs : List β} :
  (each f as).Gives bs ↔ List.Forall₂ (fun a b => (f a).Gives b) as bs
  := by
  induction as generalizing bs with
  | nil => simp [each, eq_comm]
  | cons a as ih =>
    change (f a >>= fun b => each f as >>= fun bs => Reading.pure (b :: bs)).Gives bs ↔ _
    simp only [gives_bind, gives_reading_pure, ih, List.forall₂_cons_left_iff]
    constructor
    · rintro ⟨b, hb, bs', hbs, rfl⟩
      exact ⟨b, bs', hb, hbs, rfl⟩
    · rintro ⟨b, bs', hb, hbs, rfl⟩
      exact ⟨b, hb, bs', hbs, rfl⟩

/-- Items that are read back from what they are written as make one entry each. -/
theorem each_singletons {write : β → α} {f : α → Reading (List β)} {bs : List β}
    (reads : ∀ b ∈ bs, (f (write b)).Gives [b]) :
  (each f (bs.map write)).Gives (bs.map fun b => [b])
  := by
  rw [gives_each, List.forall₂_map_left_iff, List.forall₂_map_right_iff, List.forall₂_same]
  exact reads

theorem flatten_singletons (bs : List β) :
  (bs.map fun b => [b]).flatten = bs
  := by rw [← List.flatMap_def, List.flatMap_singleton']

end Reading

open Reading

/-! ### Parts of a document -/

/-- A text is what a value joins, if that can be written. -/
theorem readText_gives {v : Value} {t : Text} :
  (readText v).Gives t ↔ v.isWritable = true ∧ v.plain = t
  := by
  rw [readText]
  cases v.isWritable <;> simp

/-- A number of the unit interval is read from that number alone, be it whole or binary. -/
theorem readUnit_gives {place : Text} {default x : Binary64} {v : Value} :
  (readUnit place default v).Gives x
    ↔ x.isUnit = true ∧ ∃ n, v.number? = some n ∧ n.toBinary64? = some x
  := by
  rw [readUnit]
  cases v.number? with
  | none => simp
  | some n =>
    cases hn : n.toBinary64? with
    | none => simp [hn]
    | some y =>
      by_cases unit : y.isUnit = true
      · simp only [hn, unit, if_true, gives_reading_pure, Option.some.injEq, exists_eq_left']
        constructor
        · rintro rfl
          exact ⟨unit, rfl⟩
        · rintro ⟨-, h⟩
          apply h
      · simp only [hn, unit, Bool.false_eq_true, if_false, not_gives_instead, Option.some.injEq,
          exists_eq_left', false_iff]
        rintro ⟨unit', rfl⟩
        apply unit unit'

/-- A section is read from a mapping. -/
theorem readSection_gives {doc es : Entries Scalar Value} {name : String} :
  (readSection doc name).Gives es ↔ Value.field doc name = .map es
  := by
  rw [readSection]
  split <;> simp_all

/-- Settings are read from a mapping, or from anything that counts as false. -/
theorem readSettings_gives {doc : Entries Scalar Value} {name : String}
    {found : Option (Entries Scalar Value)} :
  (readSettings doc name).Gives found
    ↔ ((Value.field doc name).truthy = false ∧ found = some [])
      ∨ ∃ es, (Value.field doc name).truthy = true ∧ Value.field doc name = .map es
          ∧ found = some es
  := by
  rw [readSettings]
  cases truth : (Value.field doc name).truthy with
  | false =>
    simp only [Bool.not_false, if_true, gives_reading_pure, true_and, Bool.false_eq_true,
      false_and, exists_const, or_false]
    apply eq_comm
  | true =>
    simp only [Bool.not_true, Bool.false_eq_true, if_false, true_and]
    cases Value.field doc name with
    | scalar s => simp
    | list items => simp
    | map es => simp [eq_comm]

/-- A word is read where the vocabulary has it. -/
theorem readWord_gives {α : Type} {parse : Value → Except Rejection α} {place : Text} {v : Value}
    {found : Option α} :
  (readWord parse place v).Gives found ↔ ∃ a, parse v = .ok a ∧ found = some a
  := by
  rw [readWord]
  cases parse v with
  | error r => simp
  | ok a => simp [eq_comm]

end ReflexPolicy

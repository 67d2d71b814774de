import Mathlib.Tactic.Common

/-!
# Computations that succeed

When computations that may fail succeed, and with which results.  A computation yields results of
some kind when it succeeds with one of them.
-/

namespace ReflexPolicy

variable {ε α β : Type}

/-- A computation that goes on after another one succeeds exactly when both do. -/
theorem bind_eq_ok {x : Except ε α} {f : α → Except ε β} {b : β} :
  (x >>= f) = .ok b ↔ ∃ a, x = .ok a ∧ f a = .ok b
  := by
  cases x with
  | error e => simp [bind, Except.bind]
  | ok a => simp [bind, Except.bind]

/-- A computation that goes on after another one fails exactly when one of them does. -/
theorem bind_eq_error {x : Except ε α} {f : α → Except ε β} {e : ε} :
  (x >>= f) = .error e ↔ x = .error e ∨ ∃ a, x = .ok a ∧ f a = .error e
  := by
  cases x with
  | error e' => simp [bind, Except.bind]
  | ok a => simp [bind, Except.bind]

theorem exists_bind_iff {x : Except ε α} {f : α → Except ε β} :
  (∃ b, (x >>= f) = .ok b) ↔ ∃ a, x = .ok a ∧ ∃ b, f a = .ok b
  := by
  simp only [bind_eq_ok]
  constructor
  · rintro ⟨b, a, first, second⟩
    exact ⟨a, first, b, second⟩
  · rintro ⟨a, first, b, second⟩
    exact ⟨b, a, first, second⟩

theorem pure_eq_ok {a b : α} :
  (pure a : Except ε α) = .ok b ↔ a = b
  := by
  simp [pure, Except.pure]

theorem map_eq_ok {x : Except ε α} {f : α → β} {b : β} :
  x.map f = .ok b ↔ ∃ a, x = .ok a ∧ f a = b
  := by
  cases x <;> simp [Except.map]

/-! ### Computed tests -/

/-- The computation succeeds with a result that passes a test. -/
def passes (test : α → Bool) : Except ε α → Bool
  | .ok a => test a
  | .error _ => false

/-- The computation fails with an error that passes a test. -/
def fails (test : ε → Bool) : Except ε α → Bool
  | .ok _ => false
  | .error e => test e

theorem exists_of_isOk {x : Except ε α} (isOk : x.isOk = true) :
  ∃ a, x = .ok a
  := by
  cases x with
  | error e => cases isOk
  | ok a => exact ⟨a, rfl⟩

theorem exists_of_passes {test : α → Bool} {x : Except ε α} (passed : passes test x = true) :
  ∃ a, x = .ok a ∧ test a = true
  := by
  cases x with
  | error e => cases passed
  | ok a => exact ⟨a, rfl, passed⟩

theorem exists_of_fails {test : ε → Bool} {x : Except ε α} (failed : fails test x = true) :
  ∃ e, x = .error e ∧ test e = true
  := by
  cases x with
  | error e => exact ⟨e, rfl, failed⟩
  | ok a => cases failed

/-! ### Results of a kind -/

variable {Q : α → Prop} {R : β → Prop}

/-- The computation succeeds, with a result of the kind. -/
def Yields (Q : α → Prop) (x : Except ε α) : Prop := ∃ a, x = .ok a ∧ Q a

theorem yields_ok {a : α} (h : Q a) :
  Yields Q (.ok a : Except ε α)
  := ⟨a, rfl, h⟩

theorem yields_pure {a : α} (h : Q a) :
  Yields Q (pure a : Except ε α)
  := yields_ok h

theorem yields_bind {x : Except ε α} {f : α → Except ε β} (first : Yields Q x)
    (next : ∀ a, Q a → Yields R (f a)) :
  Yields R (x >>= f)
  := by
  obtain ⟨a, rfl, h⟩ := first
  exact next a h

theorem yields_map {x : Except ε α} {f : α → β} (first : Yields Q x) (next : ∀ a, Q a → R (f a)) :
  Yields R (x.map f)
  := by
  obtain ⟨a, rfl, h⟩ := first
  exact yields_ok (next a h)

/-! ### Errors of a kind -/

variable {P : ε → Prop}

/-- If the computation fails, then with an error of the kind. -/
def FailsAs (P : ε → Prop) (x : Except ε α) : Prop := ∀ e, x = .error e → P e

theorem failsAs_ok {a : α} :
  FailsAs P (.ok a)
  := by
  intro e failed
  cases failed

theorem failsAs_error {e : ε} (h : P e) :
  FailsAs P (.error e : Except ε α)
  := by
  intro e' failed
  cases failed
  exact h

theorem failsAs_bind {x : Except ε α} {f : α → Except ε β} (first : FailsAs P x)
    (next : ∀ a, x = .ok a → FailsAs P (f a)) :
  FailsAs P (x >>= f)
  := by
  intro e failed
  obtain failed | ⟨a, given, failed⟩ := bind_eq_error.mp failed
  · exact first e failed
  · exact next a given e failed

end ReflexPolicy

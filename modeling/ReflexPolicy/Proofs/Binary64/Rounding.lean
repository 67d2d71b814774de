import Mathlib.Algebra.Group.Int.Defs
import Mathlib.Algebra.Group.Nat.Defs
import Mathlib.Tactic.Common
import ReflexPolicy.Binary64.Basic

/-!
# Rounding

A number of units that the format holds is never rounded past: whatever lies above it stays above
it.  This is all that the order of rounded sums rests on.
-/

namespace ReflexPolicy

/-- The number of units has at most 53 significant bits. -/
def Significant (units : Nat) : Prop := ∃ m e, m ≤ 1 <<< 53 ∧ units = m <<< e

theorem significant_zero :
  Significant 0
  := ⟨0, 0, Nat.zero_le _, rfl⟩

theorem significant_roundUnits (num den : Nat) :
  Significant (roundUnits num den)
  := roundUnits_significant num den

/-- The last place of a number of units. -/
def lastPlace (units : Nat) : Nat := 1 <<< (units.log2 - 52)

theorem lastPlace_pos (units : Nat) :
  0 < lastPlace units
  := by
  rw [lastPlace, Nat.one_shiftLeft]
  apply Nat.two_pow_pos

theorem lastPlace_dvd_leading (units : Nat) :
  lastPlace units ∣ 2 ^ units.log2
  := by
  rw [lastPlace, Nat.one_shiftLeft]
  apply Nat.pow_dvd_pow 2 (Nat.sub_le _ _)

/-- A number that has few significant bits is a multiple of the last place of another one, or it is
so small that it is at most the leading power of two of that one. -/
theorem Significant.dvd_or_le {n : Nat} (significant : Significant n) (units : Nat) :
  lastPlace units ∣ n ∨ n ≤ 2 ^ units.log2 ∧ 2 ^ units.log2 ≤ units
  := by
  obtain ⟨m, e, few, rfl⟩ := significant
  rw [Nat.shiftLeft_eq]
  rw [Nat.one_shiftLeft] at few
  by_cases fine : units.log2 - 52 ≤ e
  · left
    rw [lastPlace, Nat.one_shiftLeft]
    apply Nat.dvd_mul_left_of_dvd (Nat.pow_dvd_pow 2 fine)
  · right
    constructor
    · apply Nat.le_trans (Nat.mul_le_mul_right _ few)
      rw [← Nat.pow_add]
      apply Nat.pow_le_pow_right
      · decide
      · omega
    · apply Nat.log2_self_le
      rintro rfl
      simp at fine

/-- Rounding cuts off at most what does not fill the last place. -/
theorem floor_le_roundUnits (units : Nat) :
  units / lastPlace units * lastPlace units ≤ roundUnits units 1
  := by
  rw [roundUnits, Nat.div_one, Nat.shiftLeft_eq, ← Nat.one_shiftLeft]
  apply Nat.mul_le_mul_right
  apply le_roundDiv

/-- What fills the last place of a number is not below a number of the format that is at most that
number. -/
theorem le_floor_of_significant {low units : Nat} (significant : Significant low)
    (le : low ≤ units) :
  low ≤ units / lastPlace units * lastPlace units
  := by
  have multiple {n : Nat} (dvd : lastPlace units ∣ n) (below : n ≤ units) :
      n ≤ units / lastPlace units * lastPlace units := by
    obtain ⟨q, rfl⟩ := dvd
    rw [Nat.mul_comm]
    apply Nat.mul_le_mul_right
    rw [Nat.le_div_iff_mul_le (lastPlace_pos units), Nat.mul_comm]
    apply below
  obtain dvd | ⟨small, leading⟩ := significant.dvd_or_le units
  · apply multiple dvd le
  · apply Nat.le_trans small (multiple (lastPlace_dvd_leading units) leading)

/-- What lies above a number of the format is not rounded below it. -/
theorem le_roundUnits_of_le {low units : Nat} (significant : Significant low)
    (le : low ≤ units) :
  low ≤ roundUnits units 1
  := by
  apply Nat.le_trans (le_floor_of_significant significant le)
  apply floor_le_roundUnits

end ReflexPolicy

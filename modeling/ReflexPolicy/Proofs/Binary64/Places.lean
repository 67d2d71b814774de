import ReflexPolicy.Proofs.Binary64.Order
import ReflexPolicy.Proofs.Binary64.Rounding

/-!
# Bounds that rounding keeps

Rounding does not carry a number past a power of two of units, so a number that is at most one is
at most one when it has been rounded to decimal places.
-/

namespace ReflexPolicy

/-! ### Quotients -/

theorem roundDiv_le_of_le_mul {num den bound : Nat} (h : num ≤ bound * den) :
  roundDiv num den ≤ bound
  := by
  obtain rfl | pos := Nat.eq_zero_or_pos den
  · rw [Nat.mul_zero, Nat.le_zero] at h
    simp [roundDiv, h]
  · obtain rfl | lt := Nat.eq_or_lt_of_le h
    · simp [roundDiv, pos]
    · apply Nat.le_trans (roundDiv_le num den)
      apply Nat.succ_le_of_lt
      apply Nat.div_lt_of_lt_mul
      rw [Nat.mul_comm]
      apply lt

/-- A power of two is a multiple of the last place of whatever is not above it. -/
theorem roundUnits_le_two_pow {num den e : Nat} (h : num ≤ 2 ^ e * den) :
  roundUnits num den ≤ 2 ^ e
  := by
  have fine : (num / den).log2 - 52 ≤ e := by
    have quotient : num / den ≤ 2 ^ e := Nat.div_le_of_le_mul (by rwa [Nat.mul_comm])
    obtain zero | pos := Nat.eq_zero_or_pos (num / den)
    · simp [zero]
    · have lead : (num / den).log2 < e + 1 := by
        rw [Nat.log2_lt (Nat.ne_of_gt pos), Nat.pow_succ]
        omega
      omega
  rw [roundUnits, Nat.shiftLeft_eq, Nat.shiftLeft_eq, ← Nat.sub_add_cancel fine, Nat.pow_add]
  apply Nat.mul_le_mul_right
  apply roundDiv_le_of_le_mul
  rw [Nat.mul_left_comm, ← Nat.pow_add, Nat.sub_add_cancel fine, Nat.mul_comm]
  apply h

/-- What lies below a number of the format is not rounded above it. -/
theorem roundUnits_le_of_le {units high : Nat} (significant : Significant high)
    (le : units ≤ high) :
  roundUnits units 1 ≤ high
  := by
  have multiple {n : Nat} (dvd : lastPlace units ∣ n) (above : units ≤ n) :
      roundUnits units 1 ≤ n := by
    obtain ⟨q, rfl⟩ := dvd
    rw [lastPlace, Nat.one_shiftLeft, Nat.mul_comm] at above ⊢
    rw [roundUnits, Nat.div_one, Nat.shiftLeft_eq, Nat.shiftLeft_eq, Nat.one_mul]
    apply Nat.mul_le_mul_right
    apply roundDiv_le_of_le_mul above
  obtain dvd | ⟨small, leading⟩ := significant.dvd_or_le units
  · apply multiple dvd le
  · -- Nothing is between the leading power of two and the number.
    have same : units = 2 ^ units.log2 := Nat.le_antisymm (Nat.le_trans le small) leading
    apply Nat.le_trans (multiple (lastPlace_dvd_leading units) (Nat.le_of_eq same))
    apply Nat.le_trans leading le

/-- A number of the format is not rounded. -/
theorem roundUnits_of_significant {units : Nat} (significant : Significant units) :
  roundUnits units 1 = units
  := by
  apply Nat.le_antisymm
  · apply roundUnits_le_of_le significant (Nat.le_refl _)
  · apply le_roundUnits_of_le significant (Nat.le_refl _)

namespace Binary64

theorem unitsPerOne_eq :
  unitsPerOne = 2 ^ 1074
  := Nat.one_shiftLeft 1074

theorem unitsPerOne_lt_unitsLimit :
  unitsPerOne < unitsLimit
  := by
  rw [unitsPerOne_eq, unitsLimit, Nat.one_shiftLeft]
  apply Nat.pow_lt_pow_right
  · omega
  · omega

theorem le_one_iff {s : Bool} {u : Nat} {fits : Representable u} :
  (finite s u fits).le 1 = true ↔ s = true ∨ u ≤ unitsPerOne
  := by
  rw [le, extended?_one]
  cases s <;> simp [extended?, signed, Extended.holds, Extended.le]

/-- Units that are at most those of one, rounded into the format, are at most one. -/
theorem ofUnits_le_one {s : Bool} {num den : Nat} (h : s = true ∨ num ≤ unitsPerOne * den) :
  (ofUnits s num den).le 1 = true
  := by
  rw [ofUnits]
  split
  · rw [le_one_iff]
    apply h.imp_right
    rw [unitsPerOne_eq]
    apply roundUnits_le_two_pow
  · rename_i beyond
    obtain rfl | le := h
    · rw [Binary64.le, extended?_one]
      rfl
    · have below := unitsPerOne_lt_unitsLimit
      rw [unitsPerOne_eq] at le below
      exact absurd (Nat.lt_of_le_of_lt (roundUnits_le_two_pow le) below) beyond

/-- As a decimal, a number that is at most one has no more last places than one has. -/
theorem roundDiv_le_tenTo {places u : Nat} (le : u ≤ unitsPerOne) :
  roundDiv (u * tenTo places) unitsPerOne ≤ tenTo places
  := by
  apply roundDiv_le_of_le_mul
  rw [Nat.mul_comm]
  apply Nat.mul_le_mul_left _ le

/-- Rounding to decimal places leaves what is at most one at most one. -/
theorem roundPlaces_le_one {x : Binary64} (places : Nat) (h : x.le 1 = true) :
  (x.roundPlaces places).le 1 = true
  := by
  cases x with
  | nan => exact h
  | infinite s => exact h
  | finite s u fits =>
    rw [le_one_iff] at h
    apply ofUnits_le_one
    apply h.imp_right
    intro le
    rw [Nat.mul_comm]
    apply Nat.mul_le_mul_left _ (roundDiv_le_tenTo le)

/-! ### Minima -/

theorem le_min {a b c : Binary64} (ha : c.le a = true) (hb : c.le b = true) :
  c.le (a.min b) = true
  := by
  rw [min]
  split
  · apply hb
  · apply ha

theorem min_le_left {a b : Binary64} (ha : a.isNan = false) :
  (a.min b).le a = true
  := by
  rw [min]
  split
  · rename_i lt
    apply le_of_lt lt
  · apply le_refl ha

theorem not_infinite_le_one :
  (infinite false).le 1 = false
  := by
  rw [le, extended?_one]
  rfl

/-- One has a single form, unlike zero. -/
theorem eq_one_of_le {x : Binary64} (le_one : x.le 1 = true) (one_le : le 1 x = true) :
  x = 1
  := by
  apply IsUnsigned.antisymm _ isUnsigned_one le_one one_le
  obtain ⟨one, place, atOne, atX, above⟩ := le_iff.mp one_le
  rw [extended?_one] at atOne
  cases atOne
  cases x with
  | nan => cases atX
  | infinite s =>
    cases s with
    | true =>
      cases atX
      simp [Extended.le] at above
    | false =>
      rw [not_infinite_le_one] at le_one
      cases le_one
  | finite s u fits =>
    cases s with
    | false => exact ⟨u, fits, rfl⟩
    | true =>
      cases atX
      have pos := unitsPerOne_pos
      simp [Extended.le, signed] at above
      omega

theorem min_one {x : Binary64} (le_one : x.le 1 = true) :
  min 1 x = x
  := by
  rw [min]
  split
  · rfl
  · rename_i not_lt
    symm
    apply eq_one_of_le le_one
    rw [← lt_eq_false_iff (isNan_of_le_left le_one) (isNan_of_le_right le_one)]
    simpa using not_lt

end Binary64

end ReflexPolicy

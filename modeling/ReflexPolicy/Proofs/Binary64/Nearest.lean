import ReflexPolicy.Proofs.Binary64.Monotone

/-!
# How far rounding goes

A rounded quotient is off by at most one half, and units rounded into the format by at most half of
their last place.  So a number that is the nearest one to a decimal with few places is not changed
by rounding it to so many places (`roundPlaces_of_hasPlaces`), and any other number of the unit
interval is lowered by less than one of the last of them (`reaches_of_roundPlaces_le`).
-/

namespace ReflexPolicy

/-! ### Rounded quotients -/

/-- A rounded quotient is off by at most one half. -/
theorem roundDiv_near (num : Nat) {den : Nat} (pos : 0 < den) :
  2 * num ≤ 2 * (roundDiv num den * den) + den ∧ 2 * (roundDiv num den * den) ≤ 2 * num + den
  := by
  have split := Nat.div_add_mod num den
  have below := Nat.mod_lt num pos
  have down : num / den * den = den * (num / den) := Nat.mul_comm _ _
  have up : (num / den + 1) * den = den * (num / den) + den := by
    rw [Nat.add_mul, Nat.one_mul, down]
  simp only [roundDiv]
  split_ifs
  · rw [down]
    omega
  · rw [up]
    omega
  · obtain even | odd := Nat.mod_two_eq_zero_or_one (num / den)
    · rw [even, Nat.add_zero, down]
      omega
    · rw [odd, up]
      omega

/-- The whole number that is less than one half away from a quotient is the rounded quotient. -/
theorem roundDiv_eq_of_near {num den n : Nat} (below : 2 * num < 2 * (n * den) + den)
    (above : 2 * (n * den) < 2 * num + den) :
  roundDiv num den = n
  := by
  have pos : 0 < den := by omega
  obtain ⟨near, near'⟩ := roundDiv_near num pos
  have close {m n : Nat} (h : 2 * (m * den) < 2 * (n * den) + 2 * den) : m ≤ n := by
    have lt : m * den < (n + 1) * den := by
      rw [Nat.add_mul]
      omega
    exact Nat.le_of_lt_succ (Nat.lt_of_mul_lt_mul_right lt)
  apply Nat.le_antisymm
  · exact close (by omega)
  · exact close (by omega)

theorem roundDiv_mul_mul {num den c : Nat} (pos : 0 < c) :
  roundDiv (num * c) (den * c) = roundDiv num den
  := by
  have below : 2 * (num % den * c) < den * c ↔ 2 * (num % den) < den := by
    rw [← Nat.mul_assoc, Nat.mul_lt_mul_right pos]
  have above : den * c < 2 * (num % den * c) ↔ den < 2 * (num % den) := by
    rw [← Nat.mul_assoc, Nat.mul_lt_mul_right pos]
  simp only [roundDiv, Nat.mul_div_mul_right _ _ pos, Nat.mul_mod_mul_right, below, above]

/-! ### Units rounded into the format -/

/-- Rounding units into the format depends on their quotient only. -/
theorem roundUnits_mul_mul {num den c : Nat} (pos : 0 < c) :
  roundUnits (num * c) (den * c) = roundUnits num den
  := by
  simp only [roundUnits, Nat.mul_div_mul_right _ _ pos, Nat.shiftLeft_eq, Nat.mul_right_comm den c]
  rw [roundDiv_mul_mul pos]

/-- Units up to a power of two are off by at most half of the last place there. -/
theorem roundUnits_near {num den place : Nat} (pos : 0 < den) (h : num ≤ 2 ^ (place + 52) * den) :
  2 * num ≤ 2 * (roundUnits num den * den) + den * 2 ^ place
    ∧ 2 * (roundUnits num den * den) ≤ 2 * num + den * 2 ^ place
  := by
  have fine : (num / den).log2 - 52 ≤ place := by
    have quotient : num / den ≤ 2 ^ (place + 52) := Nat.div_le_of_le_mul (by rwa [Nat.mul_comm])
    by_cases zero : num / den = 0
    · simp [zero]
    · have lead : (num / den).log2 ≤ place + 52 := (Nat.pow_le_pow_iff_right (by decide)).mp
        (Nat.le_trans (Nat.log2_self_le zero) quotient)
      omega
  have smaller : den * 2 ^ ((num / den).log2 - 52) ≤ den * 2 ^ place :=
    Nat.mul_le_mul_left _ (Nat.pow_le_pow_right (by decide) fine)
  obtain ⟨near, near'⟩ := roundDiv_near num
    (Nat.mul_pos pos (Nat.two_pow_pos ((num / den).log2 - 52)))
  have same : roundUnits num den * den = roundDiv num (den * 2 ^ ((num / den).log2 - 52))
      * (den * 2 ^ ((num / den).log2 - 52)) := by
    rw [roundUnits, Nat.shiftLeft_eq, Nat.shiftLeft_eq, Nat.mul_assoc, Nat.mul_comm _ den]
  rw [same]
  omega

namespace Binary64

/-! ### Decimals with few places -/

/-- The number is the nearest one to a decimal of the unit interval with at most so many places. -/
def HasPlaces (places : Nat) (x : Binary64) : Prop :=
  ∃ digits fewer, fewer ≤ places ∧ digits ≤ tenTo fewer ∧ x = ofRatio false digits (tenTo fewer)

/-- One number reaches another one, or lies below it by less than the last of so many places. -/
def Reaches (places : Nat) (x y : Binary64) : Prop :=
  ∃ u v, x.extended? = some (.units u) ∧ y.extended? = some (.units v)
    ∧ v * tenTo places < u * tenTo places + unitsPerOne

/-- So many places can be told apart in the unit interval. -/
def Tells (places : Nat) : Prop := tenTo places * 2 ^ 1022 < unitsPerOne

theorem mul_two_pow_lt {n e e' : Nat} (few : n < 2 ^ e) :
  n * 2 ^ e' < 2 ^ (e + e')
  := by
  rw [Nat.pow_add]
  exact Nat.mul_lt_mul_of_pos_right few (Nat.two_pow_pos e')

theorem tells_six :
  Tells 6
  := by
  have few : tenTo 6 < 2 ^ 52 := by decide
  have split : 1074 = 52 + 1022 := rfl
  rw [Tells, unitsPerOne_eq, split]
  exact mul_two_pow_lt few

theorem tenTo_add (m n : Nat) :
  tenTo (m + n) = tenTo m * tenTo n
  := Nat.pow_add 10 m n

/-- The same decimal can be written with more places. -/
theorem HasPlaces.exists_digits {places : Nat} {x : Binary64} (h : x.HasPlaces places) :
  ∃ digits, digits ≤ tenTo places ∧ x = ofRatio false digits (tenTo places)
  := by
  obtain ⟨digits, fewer, le, few, rfl⟩ := h
  obtain ⟨more, rfl⟩ := Nat.exists_eq_add_of_le le
  use digits * tenTo more
  rw [tenTo_add]
  constructor
  · apply Nat.mul_le_mul_right _ few
  · simp only [ofRatio, ofUnits, Nat.mul_right_comm digits, roundUnits_mul_mul (tenTo_pos more)]

variable {places : Nat}

theorem ofRatio_of_le {digits : Nat} (few : digits ≤ tenTo places) :
  ∃ fits, ofRatio false digits (tenTo places)
    = .finite false (roundUnits (digits * unitsPerOne) (tenTo places)) fits
  := by
  have below : roundUnits (digits * unitsPerOne) (tenTo places) ≤ unitsPerOne := by
    rw [unitsPerOne_eq]
    apply roundUnits_le_two_pow
    rw [Nat.mul_comm]
    apply Nat.mul_le_mul_left _ few
  exact ⟨_, dif_pos (Nat.lt_of_le_of_lt below unitsPerOne_lt_unitsLimit)⟩

/-- The number nearest to a decimal of the unit interval is less than half a unit of the last place
away from it. -/
theorem roundUnits_decimal_near (tells : Tells places) {digits : Nat}
    (few : digits ≤ tenTo places) :
  2 * (digits * unitsPerOne)
      < 2 * (roundUnits (digits * unitsPerOne) (tenTo places) * tenTo places) + unitsPerOne
    ∧ 2 * (roundUnits (digits * unitsPerOne) (tenTo places) * tenTo places)
      < 2 * (digits * unitsPerOne) + unitsPerOne
  := by
  have one : unitsPerOne = 2 ^ (1022 + 52) := by
    have split : 1074 = 1022 + 52 := rfl
    rw [unitsPerOne_eq, split]
  have bound : digits * unitsPerOne ≤ 2 ^ (1022 + 52) * tenTo places := by
    rw [← one, Nat.mul_comm]
    apply Nat.mul_le_mul_left _ few
  obtain ⟨near, near'⟩ := roundUnits_near (tenTo_pos places) bound
  rw [Tells] at tells
  omega

/-- A number that is nearest to a decimal with few places is not changed by rounding it to so many
places. -/
theorem roundPlaces_of_hasPlaces (tells : Tells places) {x : Binary64} (h : x.HasPlaces places) :
  x.roundPlaces places = x
  := by
  obtain ⟨digits, few, rfl⟩ := h.exists_digits
  obtain ⟨near, near'⟩ := roundUnits_decimal_near tells few
  obtain ⟨fits, same⟩ := ofRatio_of_le few
  rw [same, roundPlaces, roundDiv_eq_of_near near' near, same]

/-- A number of the unit interval is so many units, at most those of one. -/
theorem units_of_unit {x : Binary64} (nonneg : le 0 x = true) (le_one : x.le 1 = true) :
  ∃ s u fits, x = .finite s u fits ∧ (s = true → u = 0) ∧ u ≤ unitsPerOne
  := by
  obtain ⟨s, u, fits, rfl, unsigned⟩ | rfl := cases_of_zero_le nonneg
  · refine ⟨s, u, fits, rfl, unsigned, ?_⟩
    obtain rfl | le := le_one_iff.mp le_one
    · rw [unsigned rfl]
      exact Nat.zero_le _
    · exact le
  · rw [not_infinite_le_one] at le_one
    cases le_one

/-- What is not below a number of the unit interval that has been rounded reaches the number itself
to within the last place. -/
theorem reaches_of_roundPlaces_le (tells : Tells places) {x y : Binary64} (unit : x.isUnit = true)
    (above : (x.roundPlaces places).le y = true) (bounded : y.le 1 = true) :
  y.Reaches places x
  := by
  obtain ⟨nonneg, le_one⟩ := isUnit_iff.mp unit
  obtain ⟨s, u, fits, rfl, hs, below⟩ := units_of_unit nonneg le_one
  obtain ⟨t, v, fits', rfl, ht, -⟩ := units_of_unit
    (le_trans (zero_le_roundPlaces places nonneg) above) bounded
  have rounded : roundUnits (roundDiv (u * tenTo places) unitsPerOne * unitsPerOne) (tenTo places)
      ≤ v := by
    obtain ⟨place, place', atRounded, atBound, le⟩ := le_iff.mp above
    rw [extended?_roundPlaces hs] at atRounded
    cases atRounded
    rw [extended?, signed_of_unsigned ht] at atBound
    cases atBound
    apply Extended.le_of_rounded_le le
  obtain ⟨near, -⟩ := roundDiv_near (u * tenTo places) unitsPerOne_pos
  obtain ⟨near', -⟩ := roundUnits_decimal_near tells (roundDiv_le_tenTo below)
  have reached : u * tenTo places < v * tenTo places + unitsPerOne := by
    have := Nat.mul_le_mul_right (tenTo places) rounded
    omega
  refine ⟨v, u, ?_, ?_, ?_⟩
  · rw [extended?, signed_of_unsigned ht]
  · rw [extended?, signed_of_unsigned hs]
  · exact_mod_cast reached

end Binary64

end ReflexPolicy

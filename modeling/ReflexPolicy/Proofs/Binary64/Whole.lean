import ReflexPolicy.Proofs.Binary64.Monotone

/-!
# Numbers as binary64 numbers

A number that is turned into a binary64 number keeps its side of zero, and its side of one.  In the
unit interval it keeps its value, for the whole numbers there are zero and one.
-/

namespace ReflexPolicy

theorem significant_ones {n : Nat} (few : n ≤ 1 <<< 53) :
  Significant (n * unitsPerOne)
  := by
  refine ⟨n, 1074, few, ?_⟩
  rw [unitsPerOne, Nat.one_shiftLeft, Nat.shiftLeft_eq]

theorem significant_unitsLimit :
  Significant unitsLimit
  := ⟨1, 2098, by decide, rfl⟩

/-- As many ones as the format can hold are not rounded past. -/
theorem le_roundUnits_ones {m n : Nat} (few : m ≤ 1 <<< 53) (le : m ≤ n) :
  m * unitsPerOne ≤ roundUnits (n * unitsPerOne) 1
  := by
  apply le_roundUnits_of_le (significant_ones few)
  apply Nat.mul_le_mul_right _ le

namespace Binary64

/-- What a whole number becomes is the number nearest to it, where that is finite. -/
theorem ofInt?_eq_some_iff {n : Int} {x : Binary64} :
  ofInt? n = some x ↔ ∃ s u fits, ofRatio (decide (n < 0)) n.natAbs 1 = .finite s u fits
    ∧ x = .finite s u fits
  := by
  -- The function is unfolded by itself: unfolded at a number, it would be computed.
  generalize unfolded : ofInt? = f
  delta ofInt? at unfolded
  rw [← unfolded]
  beta_reduce
  cases ofRatio (decide (n < 0)) n.natAbs 1 with
  | nan => simp
  | infinite s => simp
  | finite s u fits =>
    constructor
    · intro given
      cases given
      exact ⟨s, u, fits, rfl, rfl⟩
    · rintro ⟨_, _, _, same, rfl⟩
      rw [same]

theorem finite_of_ofInt? {n : Int} {x : Binary64} (given : ofInt? n = some x) :
  ∃ fits, x = .finite (decide (n < 0)) (roundUnits (n.natAbs * unitsPerOne) 1) fits
  := by
  obtain ⟨s, u, fits, nearest, rfl⟩ := ofInt?_eq_some_iff.mp given
  rw [ofRatio, ofUnits] at nearest
  split at nearest
  · cases nearest
    exact ⟨fits, rfl⟩
  · cases nearest

/-- A whole number is beyond the format when the units in it are. -/
theorem ofInt?_of_le {n : Int} (h : unitsLimit ≤ n.natAbs * unitsPerOne) :
  ofInt? n = none
  := by
  rw [Option.eq_none_iff_forall_ne_some]
  intro x given
  obtain ⟨fits, -⟩ := finite_of_ofInt? given
  apply Nat.not_lt.mpr _ fits.1
  apply le_roundUnits_of_le significant_unitsLimit h

/-- Zero and one keep their values. -/
theorem ofInt?_of_few {n : Nat} (few : n ∈ [0, 1]) :
  ∃ fits, ofInt? n = some (.finite false (n * unitsPerOne) fits)
  := by
  obtain ⟨fits, same⟩ := ofRatio_of_few few
  have sign : decide ((n : Int) < 0) = false := by simp
  use fits
  rw [ofInt?_eq_some_iff, sign, Int.natAbs_natCast]
  exact ⟨_, _, fits, same, rfl⟩

theorem signed_mul (s : Bool) (m n : Nat) :
  signed s (m * n) = signed s m * n
  := by
  cases s with
  | false => exact Int.natCast_mul m n
  | true => rw [signed, signed, if_pos rfl, if_pos rfl, Int.natCast_mul, Int.neg_mul]

/-- A number is whole when its place is that of a whole number. -/
theorem whole?_eq_some_iff {x : Binary64} {k : Int} :
  x.whole? = some k ↔ x.extended? = some (.units (k * unitsPerOne))
  := by
  cases x with
  | nan => simp [whole?, extended?]
  | infinite s => cases s <;> simp [whole?, extended?]
  | finite s u fits =>
    have pos : (unitsPerOne : Int) ≠ 0 := by exact_mod_cast Nat.ne_of_gt unitsPerOne_pos
    rw [whole?, extended?, Option.some.injEq, Extended.units.injEq]
    split
    · rename_i dvd
      have units := Nat.div_mul_cancel (Nat.dvd_of_mod_eq_zero dvd)
      rw [Option.some.injEq, ← congrArg (signed s) units, signed_mul]
      exact (Int.mul_eq_mul_right_iff pos).symm
    · rename_i not_dvd
      refine iff_of_false (by simp) ?_
      intro place
      apply not_dvd
      apply Nat.mod_eq_zero_of_dvd
      have dvd : (unitsPerOne : Int) ∣ signed s u := ⟨k, by rw [place, Int.mul_comm]⟩
      cases s <;> simpa [signed, Int.natCast_dvd_natCast] using dvd

end Binary64

namespace Number

variable {n : Number} {x : Binary64}

/-- Numbers have the same value when they have the same place on the line. -/
theorem equals_iff {m n : Number} :
  m.equals n = true ↔ ∃ place, m.extended? = some place ∧ n.extended? = some place
  := by
  rw [equals, le, le]
  cases m.extended? with
  | none => simp [Extended.holds]
  | some x =>
    cases n.extended? with
    | none => simp [Extended.holds]
    | some y =>
      simp only [Extended.holds, Bool.and_eq_true, Option.some.injEq, exists_eq_left']
      constructor
      · rintro ⟨le, le'⟩
        exact Extended.le_antisymm le' le
      · rintro rfl
        exact ⟨Extended.le_refl _, Extended.le_refl _⟩

theorem whole_le_whole_iff {m k : Int} :
  (whole m).le (whole k) = true ↔ m ≤ k
  := by
  have pos : (0 : Int) < (unitsPerOne : Nat) := by exact_mod_cast Binary64.unitsPerOne_pos
  simp only [le, extended?, Extended.holds, Extended.le, decide_eq_true_eq]
  constructor
  · intro h
    exact Int.le_of_mul_le_mul_right h pos
  · intro h
    exact Int.mul_le_mul_of_nonneg_right h (Int.le_of_lt pos)

/-- Compared with zero and one, a binary64 number is compared as such. -/
theorem whole_zero_le_float :
  (whole 0).le (float x) = Binary64.le 0 x
  := by
  rw [le, Binary64.le, Binary64.extended?_zero, extended?, extended?, Int.zero_mul]

theorem float_le_whole_one :
  (float x).le (whole 1) = x.le 1
  := by
  rw [le, Binary64.le, Binary64.extended?_one, extended?, extended?, Int.one_mul]

theorem float_lt_whole_zero :
  (float x).lt (whole 0) = x.lt 0
  := by
  rw [lt, Binary64.lt, Binary64.extended?_zero, extended?, extended?, Int.zero_mul]

theorem isUnit_iff {m : Number} {x : Binary64} (same : m.equals (float x) = true) :
  x.isUnit = true ↔ (whole 0).le m = true ∧ m.le (whole 1) = true
  := by
  obtain ⟨place, atNumber, atFloat⟩ := equals_iff.mp same
  rw [Binary64.isUnit_iff, ← whole_zero_le_float, ← float_le_whole_one]
  simp only [le, atNumber, atFloat]

/-- A number that is not below zero does not become one that is. -/
theorem lt_zero_of_toBinary64? (given : n.toBinary64? = some x) (h : n.lt (whole 0) = false) :
  x.lt 0 = false
  := by
  cases n with
  | whole k =>
    rw [lt_whole, decide_eq_false_iff_not] at h
    obtain ⟨fits, rfl⟩ := Binary64.finite_of_ofInt? given
    rw [decide_eq_false h, Binary64.lt, Binary64.extended?_zero]
    simp [Binary64.extended?, Binary64.signed, Extended.holds, Extended.lt, Extended.le]
  | float y =>
    cases given
    rwa [float_lt_whole_zero] at h

/-- A number of the unit interval becomes a binary64 number of the same value. -/
theorem toBinary64?_of_unit (nonneg : (whole 0).le n = true) (le_one : n.le (whole 1) = true) :
  ∃ x, n.toBinary64? = some x ∧ n.equals (float x) = true
  := by
  cases n with
  | whole k =>
    rw [whole_le_whole_iff] at nonneg le_one
    obtain ⟨m, rfl⟩ := Int.eq_ofNat_of_zero_le nonneg
    have few : m ∈ [0, 1] := by
      simp only [List.mem_cons, List.not_mem_nil, or_false]
      omega
    obtain ⟨fits, given⟩ := Binary64.ofInt?_of_few few
    refine ⟨_, given, equals_iff.mpr ⟨_, rfl, ?_⟩⟩
    rw [extended?, Binary64.extended?, Binary64.signed_of_unsigned (by simp), Int.natCast_mul]
  | float x =>
    obtain ⟨place, atFloat⟩ := Binary64.extended?_of_isNan
      (Binary64.isNan_of_le_right (whole_zero_le_float.symm.trans nonneg))
    exact ⟨x, rfl, equals_iff.mpr ⟨place, atFloat, atFloat⟩⟩

theorem nonneg_of_ofInt? {k : Int} (given : Binary64.ofInt? k = some x)
    (nonneg : Binary64.le 0 x = true) :
  0 ≤ k
  := by
  obtain ⟨fits, rfl⟩ := Binary64.finite_of_ofInt? given
  by_contra negative
  rw [Int.not_le] at negative
  have above : 1 * unitsPerOne ≤ roundUnits (k.natAbs * unitsPerOne) 1 :=
    le_roundUnits_ones (by decide) (by omega)
  obtain ⟨s, u, fits', same, unsigned⟩ | same := Binary64.cases_of_zero_le nonneg
  · cases same
    rw [unsigned (decide_eq_true negative), Nat.one_mul, Nat.le_zero] at above
    exact Nat.ne_of_gt Binary64.unitsPerOne_pos above
  · cases same

/-- A number that becomes one that is not below zero is not below zero. -/
theorem not_lt_zero_of_toBinary64? (given : n.toBinary64? = some x)
    (nonneg : Binary64.le 0 x = true) :
  n.lt (whole 0) = false
  := by
  cases n with
  | whole k =>
    rw [lt_whole, decide_eq_false_iff_not, Int.not_lt]
    apply nonneg_of_ofInt? given nonneg
  | float y =>
    cases given
    rw [float_lt_whole_zero]
    exact (Binary64.lt_eq_false_iff (Binary64.isNan_of_le_right nonneg)
      (Binary64.isNan_of_le_left nonneg)).mpr nonneg

theorem le_one_of_ofInt? {k : Int} (given : Binary64.ofInt? k = some x)
    (le_one : x.le 1 = true) :
  k ≤ 1
  := by
  obtain ⟨fits, rfl⟩ := Binary64.finite_of_ofInt? given
  by_contra large
  rw [Int.not_le] at large
  have above : 2 * unitsPerOne ≤ roundUnits (k.natAbs * unitsPerOne) 1 :=
    le_roundUnits_ones (by decide) (by omega)
  have unsigned : ¬ k < 0 := by omega
  rw [Binary64.le_one_iff, decide_eq_false unsigned] at le_one
  simp only [Bool.false_eq_true, false_or] at le_one
  have pos := Binary64.unitsPerOne_pos
  omega

/-- Whatever becomes a number of the unit interval is one. -/
theorem unit_of_toBinary64? (given : n.toBinary64? = some x) (unit : x.isUnit = true) :
  (whole 0).le n = true ∧ n.le (whole 1) = true
  := by
  obtain ⟨nonneg, le_one⟩ := Binary64.isUnit_iff.mp unit
  cases n with
  | float y =>
    cases given
    exact ⟨whole_zero_le_float.trans nonneg, float_le_whole_one.trans le_one⟩
  | whole k =>
    rw [whole_le_whole_iff, whole_le_whole_iff]
    exact ⟨nonneg_of_ofInt? given nonneg, le_one_of_ofInt? given le_one⟩

end Number

end ReflexPolicy

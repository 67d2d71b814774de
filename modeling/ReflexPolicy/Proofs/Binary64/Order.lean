import Mathlib.Tactic.Common
import ReflexPolicy.Number

/-!
# The order of numbers

The line of `Extended` points is ordered totally.  A binary64 number that is a number has a point
on it, so that among such numbers `≤` is total and transitive, and `<` is its complement.  Whole
numbers compare as such: their distance in units does not matter.
-/

namespace ReflexPolicy

namespace Extended

theorem le_refl (x : Extended) :
  x.le x = true
  := by
  cases x <;> simp [le]

theorem le_trans {x y z : Extended} (h : x.le y = true) (h' : y.le z = true) :
  x.le z = true
  := by
  cases x <;> cases y <;> cases z <;> simp_all [le]
  omega

theorem le_antisymm {x y : Extended} (h : x.le y = true) (h' : y.le x = true) :
  x = y
  := by
  cases x <;> cases y <;> simp_all [le]
  omega

theorem le_total (x y : Extended) :
  x.le y = true ∨ y.le x = true
  := by
  cases x <;> cases y <;> simp [le]
  omega

end Extended

namespace Binary64

/-! ### Numbers that are numbers -/

/-- A number compares with another one exactly where both have a point on the line. -/
theorem le_iff {a b : Binary64} :
  a.le b = true ↔ ∃ x y, a.extended? = some x ∧ b.extended? = some y ∧ x.le y = true
  := by
  rw [le]
  cases a.extended? <;> cases b.extended? <;> simp [Extended.holds]

theorem lt_iff {a b : Binary64} :
  a.lt b = true ↔ ∃ x y, a.extended? = some x ∧ b.extended? = some y ∧ y.le x = false
  := by
  rw [lt]
  cases a.extended? <;> cases b.extended? <;> simp [Extended.holds, Extended.lt]

theorem extended?_of_isNan {a : Binary64} (h : a.isNan = false) :
  ∃ x, a.extended? = some x
  := by
  cases a with
  | nan => simp [isNan] at h
  | infinite s => cases s <;> exact ⟨_, rfl⟩
  | finite s u fits => exact ⟨_, rfl⟩

theorem isNan_of_le_right {a b : Binary64} (h : a.le b = true) :
  b.isNan = false
  := by
  obtain ⟨x, y, -, hy, -⟩ := le_iff.mp h
  cases b with
  | nan => simp [extended?] at hy
  | infinite s => rfl
  | finite s u fits => rfl

theorem isNan_of_le_left {a b : Binary64} (h : a.le b = true) :
  a.isNan = false
  := by
  obtain ⟨x, y, hx, -, -⟩ := le_iff.mp h
  cases a with
  | nan => simp [extended?] at hx
  | infinite s => rfl
  | finite s u fits => rfl

theorem le_refl {a : Binary64} (h : a.isNan = false) :
  a.le a = true
  := by
  obtain ⟨x, hx⟩ := extended?_of_isNan h
  apply le_iff.mpr ⟨x, x, hx, hx, x.le_refl⟩

theorem le_trans {a b c : Binary64} (h : a.le b = true) (h' : b.le c = true) :
  a.le c = true
  := by
  obtain ⟨x, y, hx, hy, hxy⟩ := le_iff.mp h
  obtain ⟨y', z, hy', hz, hyz⟩ := le_iff.mp h'
  rw [hy] at hy'
  cases hy'
  apply le_iff.mpr ⟨x, z, hx, hz, Extended.le_trans hxy hyz⟩

/-- What does not lie below a number is not above it the other way round. -/
theorem lt_eq_false_iff {a b : Binary64} (ha : a.isNan = false) (hb : b.isNan = false) :
  a.lt b = false ↔ b.le a = true
  := by
  obtain ⟨x, hx⟩ := extended?_of_isNan ha
  obtain ⟨y, hy⟩ := extended?_of_isNan hb
  simp only [lt, le]
  simp [hx, hy, Extended.holds, Extended.lt]

theorem le_of_lt {a b : Binary64} (h : a.lt b = true) :
  a.le b = true
  := by
  obtain ⟨x, y, hx, hy, hlt⟩ := lt_iff.mp h
  apply le_iff.mpr
  use x, y, hx, hy
  have := x.le_total y
  simpa [hlt] using this

/-- The larger of two numbers lies above what one of them lies above. -/
theorem le_max_iff {c a b : Binary64} (ha : a.isNan = false) (hb : b.isNan = false) :
  c.le (a.max b) = true ↔ c.le a = true ∨ c.le b = true
  := by
  rw [max]
  split
  · rename_i lt
    constructor
    · exact .inr
    · rintro (h | h)
      · apply le_trans h (le_of_lt lt)
      · apply h
  · rename_i not_lt
    have le := (lt_eq_false_iff ha hb).mp (by simpa using not_lt)
    constructor
    · exact .inl
    · rintro (h | h)
      · apply h
      · apply le_trans h le

theorem isNan_max {a b : Binary64} (ha : a.isNan = false) (hb : b.isNan = false) :
  (a.max b).isNan = false
  := by
  rw [max]
  split
  · apply hb
  · apply ha

/-! ### Zero and one -/

/-- Zero and one are whole numbers of units, so that nothing is rounded. -/
theorem ofRatio_of_few {n : Nat} (few : n ∈ [0, 1]) :
  ∃ fits, ofRatio false n 1 = .finite false (n * unitsPerOne) fits
  := by
  have all : ∀ n ∈ [0, 1], roundUnits (n * unitsPerOne) 1 = n * unitsPerOne
      ∧ n * unitsPerOne < unitsLimit := by decide +kernel
  obtain ⟨rounded, below⟩ := all n few
  have fits : Representable (roundUnits (n * unitsPerOne) 1) :=
    roundUnits_representable (by rwa [rounded])
  rw [rounded] at fits
  use fits
  simp only [ofRatio, ofUnits, rounded, below, dite_true]

theorem zero_eq :
  ∃ fits, (0 : Binary64) = .finite false 0 fits
  := by
  have units := ofRatio_of_few (List.mem_cons_self : 0 ∈ [0, 1])
  rwa [Nat.zero_mul] at units

theorem one_eq :
  ∃ fits, (1 : Binary64) = .finite false unitsPerOne fits
  := by
  have units := ofRatio_of_few (by simp : 1 ∈ [0, 1])
  rwa [Nat.one_mul] at units

theorem unitsPerOne_pos :
  0 < unitsPerOne
  := by
  rw [unitsPerOne, Nat.one_shiftLeft]
  exact Nat.two_pow_pos 1074

/-- Zero, with or without a sign, is the number that lies neither above nor below it. -/
theorem extended?_zero :
  (0 : Binary64).extended? = some (.units 0)
  := by
  obtain ⟨_, zero⟩ := zero_eq
  rw [zero]
  rfl

theorem extended?_one :
  (1 : Binary64).extended? = some (.units unitsPerOne)
  := by
  obtain ⟨_, one⟩ := one_eq
  rw [one]
  rfl

theorem lt_zero_one :
  lt 0 1 = true
  := by
  have pos := unitsPerOne_pos
  simp [lt, extended?_zero, extended?_one, Extended.holds, Extended.lt, Extended.le]
  omega

/-! ### Numbers of the unit interval -/

theorem isUnit_iff {x : Binary64} :
  x.isUnit = true ↔ le 0 x = true ∧ x.le 1 = true
  := by
  simp [isUnit]

theorem isNan_of_isUnit {x : Binary64} (h : x.isUnit = true) :
  x.isNan = false
  := isNan_of_le_right (isUnit_iff.mp h).1

theorem isUnit_zero :
  (0 : Binary64).isUnit = true
  := by
  rw [isUnit_iff]
  simp [le, extended?_zero, extended?_one, Extended.holds, Extended.le]

theorem isUnit_one :
  (1 : Binary64).isUnit = true
  := by
  rw [isUnit_iff]
  simp [le, extended?_zero, extended?_one, Extended.holds, Extended.le]

/-! ### Numbers without a minus sign -/

/-- The number is finite and bears no minus sign. -/
def IsUnsigned (x : Binary64) : Prop := ∃ units fits, x = .finite false units fits

/-- Unsigned numbers of one value are one number. -/
theorem IsUnsigned.antisymm {x y : Binary64} (hx : x.IsUnsigned) (hy : y.IsUnsigned)
    (h : x.le y = true) (h' : y.le x = true) :
  x = y
  := by
  obtain ⟨u, _, rfl⟩ := hx
  obtain ⟨v, _, rfl⟩ := hy
  simp only [le, extended?, Extended.holds, Extended.le, signed, decide_eq_true_eq] at h h'
  simp only [finite.injEq, true_and]
  simp at h h'
  omega

theorem isUnsigned_zero :
  (0 : Binary64).IsUnsigned
  := by
  obtain ⟨fits, zero⟩ := zero_eq
  exact ⟨0, fits, zero⟩

theorem isUnsigned_one :
  (1 : Binary64).IsUnsigned
  := by
  obtain ⟨fits, one⟩ := one_eq
  exact ⟨unitsPerOne, fits, one⟩

/-- A number moved into the unit interval is zero, one, or a number between them. -/
theorem clampUnit_cases (x : Binary64) :
  x.clampUnit = 0 ∨ x.clampUnit = 1
    ∨ x.clampUnit = x ∧ lt 0 x = true ∧ x.lt 1 = true
  := by
  simp only [clampUnit, min, max]
  by_cases above : lt 0 x = true
  · by_cases under : x.lt 1 = true <;> simp [above, under]
  · simp [above, lt_zero_one]

theorem isUnit_clampUnit (x : Binary64) :
  x.clampUnit.isUnit = true
  := by
  obtain same | same | ⟨same, above, under⟩ := clampUnit_cases x
  · rw [same]
    exact isUnit_zero
  · rw [same]
    exact isUnit_one
  · rw [same]
    exact isUnit_iff.mpr ⟨le_of_lt above, le_of_lt under⟩

theorem isUnsigned_of_between {x : Binary64} (above : lt 0 x = true) (under : x.lt 1 = true) :
  x.IsUnsigned
  := by
  obtain ⟨zero, place, atZero, atPlace, above⟩ := lt_iff.mp above
  obtain ⟨place', one, atPlace', atOne, under⟩ := lt_iff.mp under
  rw [extended?_zero, Option.some.injEq] at atZero
  subst atZero
  cases x with
  | nan => simp [extended?] at atPlace
  | infinite s =>
    cases s with
    | true =>
      cases atPlace
      simp [Extended.le] at above
    | false =>
      cases atPlace'
      obtain ⟨u, fits, unsigned⟩ := isUnsigned_one
      rw [unsigned] at atOne
      cases atOne
      simp [Extended.le] at under
  | finite s u fits =>
    cases s with
    | false => exact ⟨u, fits, rfl⟩
    | true =>
      cases atPlace
      simp [Extended.le, signed] at above

theorem isUnsigned_clampUnit (x : Binary64) :
  x.clampUnit.IsUnsigned
  := by
  obtain same | same | ⟨same, above, under⟩ := clampUnit_cases x
  · rw [same]
    exact isUnsigned_zero
  · rw [same]
    exact isUnsigned_one
  · rw [same]
    exact isUnsigned_of_between above under

end Binary64

namespace Number

/-- Whole numbers compare as such. -/
theorem lt_whole (m n : Int) :
  lt (whole m) (whole n) = decide (m < n)
  := by
  have pos : (0 : Int) < (unitsPerOne : Nat) := by exact_mod_cast Binary64.unitsPerOne_pos
  simp only [lt, extended?, Extended.holds, Extended.lt, Extended.le]
  rw [← decide_not]
  apply decide_eq_decide.mpr
  rw [Int.not_le]
  constructor
  · intro h
    apply Int.lt_of_mul_lt_mul_right h (Int.le_of_lt pos)
  · intro h
    apply Int.mul_lt_mul_of_pos_right h pos

end Number

end ReflexPolicy

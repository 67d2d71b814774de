import ReflexPolicy.Proofs.Binary64.Whole

/-!
# Numbers moved into the unit interval

`Number.Clamps` says what a number of either kind is moved to, by comparisons with zero and one and
without rounding.  `clamps_of_toBinary64?` says that a number that is first brought into the format
and then moved is moved there, and `Clamps.le_of_le` that moving keeps the order.
-/

namespace ReflexPolicy

namespace Binary64

variable {x : Binary64}

theorem isNan_of_ne_nan (h : x ≠ .nan) :
  x.isNan = false
  := by
  cases x with
  | nan => exact absurd rfl h
  | infinite s => rfl
  | finite s u fits => rfl

/-- Of two numbers, one that does not lie below the other lies above it. -/
theorem le_of_not_le {y : Binary64} (hx : x.isNan = false) (hy : y.isNan = false)
    (h : ¬ x.le y = true) :
  y.le x = true
  := by
  obtain ⟨p, atX⟩ := extended?_of_isNan hx
  obtain ⟨q, atY⟩ := extended?_of_isNan hy
  rw [le_iff] at h
  obtain below | above := p.le_total q
  · exact absurd ⟨p, q, atX, atY, below⟩ h
  · exact le_iff.mpr ⟨q, p, atY, atX, above⟩

/-- Nothing with a minus sign lies above zero. -/
theorem not_pos_of_signed {units : Nat} (fits : Representable units) :
  lt 0 (.finite true units fits) = false
  := by
  rw [lt, extended?_zero]
  simp [extended?, signed, Extended.holds, Extended.lt, Extended.le]

/-- What does not lie above zero is moved to zero. -/
theorem clampUnit_of_not_pos (h : lt 0 x = false) :
  x.clampUnit = 0
  := by simp [clampUnit, max, min, h, lt_zero_one]

/-- What does not lie below one is moved to one. -/
theorem clampUnit_of_one_le (h : le 1 x = true) :
  x.clampUnit = 1
  := by
  have number := isNan_of_le_right h
  have zero : (0 : Binary64).isNan = false := isNan_of_isUnit isUnit_zero
  have one : (1 : Binary64).isNan = false := isNan_of_isUnit isUnit_one
  have pos : lt 0 x = true := by
    by_contra not_pos
    have below := (lt_eq_false_iff zero number).mp (Bool.not_eq_true _ ▸ not_pos)
    have apart := (lt_eq_false_iff zero one).mpr (le_trans h below)
    rw [lt_zero_one] at apart
    cases apart
  have not_under : x.lt 1 = false := (lt_eq_false_iff number one).mpr h
  simp [clampUnit, max, min, pos, not_under]

/-- What lies in the unit interval keeps its place. -/
theorem extended?_clampUnit (unit : x.isUnit = true) :
  x.clampUnit.extended? = x.extended?
  := by
  obtain ⟨nonneg, le_one⟩ := isUnit_iff.mp unit
  have number := isNan_of_isUnit unit
  have zero : (0 : Binary64).isNan = false := isNan_of_isUnit isUnit_zero
  have one : (1 : Binary64).isNan = false := isNan_of_isUnit isUnit_one
  cases pos : lt 0 x with
  | false =>
    rw [clampUnit_of_not_pos pos]
    obtain ⟨p, q, atZero, atX, below⟩ := le_iff.mp nonneg
    obtain ⟨q', p', atX', atZero', above⟩ := le_iff.mp ((lt_eq_false_iff zero number).mp pos)
    rw [atX] at atX'
    rw [atZero] at atZero'
    cases atX'
    cases atZero'
    rw [atZero, atX, Extended.le_antisymm below above]
  | true =>
    cases under : x.lt 1 with
    | true => simp [clampUnit, max, min, pos, under]
    | false =>
      rw [eq_one_of_le le_one ((lt_eq_false_iff number one).mp under),
        clampUnit_of_one_le (le_refl one)]

/-- An unsigned number of the unit interval is kept. -/
theorem clampUnit_of_isUnsigned (unsigned : x.IsUnsigned) (unit : x.isUnit = true) :
  x.clampUnit = x
  := by
  have here : x.le x = true := le_refl (isNan_of_isUnit unit)
  apply (isUnsigned_clampUnit x).antisymm unsigned
  · rwa [le, extended?_clampUnit unit]
  · rwa [le, extended?_clampUnit unit]

end Binary64

namespace Number

/-- The binary64 number is the number moved into the unit interval: what lies below the interval
goes to zero, what lies above it to one, what lies in it keeps its value, and what is not a number
goes to zero.  It bears no minus sign. -/
structure Clamps (n : Number) (x : Binary64) : Prop where
  below : n.lt (.whole 0) = true → x = 0
  above : lt (.whole 1) n = true → x = 1
  within : le (.whole 0) n = true → n.le (.whole 1) = true → n.equals (.float x) = true
  nan : n = .float .nan → x = 0
  unsigned : x.IsUnsigned

variable {m n : Number} {x y : Binary64}

theorem le_iff {m n : Number} :
  m.le n = true ↔ ∃ p q, m.extended? = some p ∧ n.extended? = some q ∧ p.le q = true
  := by
  rw [le]
  cases m.extended? <;> cases n.extended? <;> simp [Extended.holds]

theorem lt_iff {m n : Number} :
  m.lt n = true ↔ ∃ p q, m.extended? = some p ∧ n.extended? = some q ∧ q.le p = false
  := by
  rw [lt]
  cases m.extended? <;> cases n.extended? <;> simp [Extended.holds, Extended.lt]

theorem extended?_of_ne_nan (number : n ≠ .float .nan) :
  ∃ p, n.extended? = some p
  := by
  cases n with
  | whole k => exact ⟨_, rfl⟩
  | float x =>
    apply Binary64.extended?_of_isNan
    apply Binary64.isNan_of_ne_nan
    rintro rfl
    exact number rfl

theorem ne_nan_of_extended? {p : Extended} (place : n.extended? = some p) :
  n ≠ .float .nan
  := by
  rintro rfl
  cases place

/-- Every number is at most another one, or above it. -/
theorem le_or_lt (hm : m ≠ .float .nan) (hn : n ≠ .float .nan) :
  m.le n = true ∨ n.lt m = true
  := by
  obtain ⟨p, atM⟩ := extended?_of_ne_nan hm
  obtain ⟨q, atN⟩ := extended?_of_ne_nan hn
  cases ordered : p.le q with
  | true => exact .inl (le_iff.mpr ⟨p, q, atM, atN, ordered⟩)
  | false => exact .inr (lt_iff.mpr ⟨q, p, atN, atM, ordered⟩)

theorem le_self (number : n ≠ .float .nan) :
  n.le n = true
  := by
  obtain ⟨p, atN⟩ := extended?_of_ne_nan number
  exact le_iff.mpr ⟨p, p, atN, atN, p.le_refl⟩

theorem le_of_lt (h : m.lt n = true) :
  m.le n = true
  := by
  obtain ⟨p, q, atM, atN, apart⟩ := lt_iff.mp h
  obtain ordered | ordered := p.le_total q
  · exact le_iff.mpr ⟨p, q, atM, atN, ordered⟩
  · rw [ordered] at apart
    cases apart

theorem le_trans {k : Number} (h : k.le m = true) (h' : m.le n = true) :
  k.le n = true
  := by
  obtain ⟨p, q, atK, atM, first⟩ := le_iff.mp h
  obtain ⟨q', r, atM', atN, second⟩ := le_iff.mp h'
  rw [atM] at atM'
  cases atM'
  exact le_iff.mpr ⟨p, r, atK, atN, Extended.le_trans first second⟩

theorem lt_of_lt_of_le {k : Number} (h : k.lt m = true) (h' : m.le n = true) :
  k.lt n = true
  := by
  obtain ⟨p, q, atK, atM, apart⟩ := lt_iff.mp h
  obtain ⟨q', r, atM', atN, ordered⟩ := le_iff.mp h'
  rw [atM] at atM'
  cases atM'
  refine lt_iff.mpr ⟨p, r, atK, atN, ?_⟩
  by_contra back
  have back : r.le p = true := by simpa using back
  rw [Extended.le_trans ordered back] at apart
  cases apart

theorem not_lt_self (n : Number) :
  ¬ n.lt n = true
  := by
  intro below
  obtain ⟨p, q, atN, atN', apart⟩ := lt_iff.mp below
  rw [atN] at atN'
  cases atN'
  rw [Extended.le_refl] at apart
  cases apart

/-- A number lies below the unit interval, in it, or above it. -/
theorem place_of_ne_nan (number : n ≠ .float .nan) :
  n.lt (.whole 0) = true
    ∨ le (.whole 0) n = true ∧ n.le (.whole 1) = true
    ∨ lt (.whole 1) n = true
  := by
  obtain nonneg | negative := le_or_lt (m := .whole 0) (n := n) (by simp) number
  · obtain le_one | above := le_or_lt (m := n) (n := .whole 1) number (by simp)
    · exact .inr (.inl ⟨nonneg, le_one⟩)
    · exact .inr (.inr above)
  · exact .inl negative

/-! ### Moving through the format -/

/-- A number that is one becomes one. -/
theorem isNan_of_toBinary64? (number : n ≠ .float .nan) (given : n.toBinary64? = some x) :
  x.isNan = false
  := by
  cases n with
  | whole k =>
    obtain ⟨fits, rfl⟩ := Binary64.finite_of_ofInt? given
    rfl
  | float y =>
    cases given
    apply Binary64.isNan_of_ne_nan
    rintro rfl
    exact number rfl

/-- What lies below zero does not become a number above it. -/
theorem not_pos_of_toBinary64? (given : n.toBinary64? = some x)
    (negative : n.lt (.whole 0) = true) :
  Binary64.lt 0 x = false
  := by
  cases n with
  | float y =>
    cases given
    rw [float_lt_whole_zero] at negative
    have number := Binary64.isNan_of_le_left (Binary64.le_of_lt negative)
    have zero : (0 : Binary64).isNan = false := Binary64.isNan_of_isUnit Binary64.isUnit_zero
    exact (Binary64.lt_eq_false_iff zero number).mpr (Binary64.le_of_lt negative)
  | whole k =>
    rw [lt_whole, decide_eq_true_eq] at negative
    obtain ⟨fits, rfl⟩ := Binary64.finite_of_ofInt? given
    rw [decide_eq_true negative]
    apply Binary64.not_pos_of_signed

/-- What lies above one becomes a number that does not lie below it. -/
theorem one_le_of_toBinary64? (given : n.toBinary64? = some x) (above : lt (.whole 1) n = true) :
  Binary64.le 1 x = true
  := by
  have one : (1 : Binary64).isNan = false := Binary64.isNan_of_isUnit Binary64.isUnit_one
  cases n with
  | float y =>
    cases given
    obtain ⟨p, q, atOne, atY, apart⟩ := lt_iff.mp above
    have above : Binary64.lt 1 x = true := by
      refine Binary64.lt_iff.mpr ⟨p, q, ?_, atY, apart⟩
      rw [Binary64.extended?_one, ← atOne, extended?, Int.one_mul]
    exact Binary64.le_of_lt above
  | whole k =>
    rw [lt_whole, decide_eq_true_eq] at above
    have number := isNan_of_toBinary64? (by simp) given
    apply Binary64.le_of_not_le number one
    intro le_one
    have few := le_one_of_ofInt? given le_one
    omega

/-- A number that is brought into the format and then moved into the unit interval has been moved
there. -/
theorem clamps_of_toBinary64? (given : n.toBinary64? = some x) :
  n.Clamps x.clampUnit
  where
  below negative := Binary64.clampUnit_of_not_pos (not_pos_of_toBinary64? given negative)
  above beyond := Binary64.clampUnit_of_one_le (one_le_of_toBinary64? given beyond)
  within nonneg le_one := by
    obtain ⟨y, given', same⟩ := toBinary64?_of_unit nonneg le_one
    rw [given] at given'
    cases given'
    obtain ⟨place, atN, atX⟩ := equals_iff.mp same
    refine equals_iff.mpr ⟨place, atN, ?_⟩
    rw [extended?, Binary64.extended?_clampUnit ((isUnit_iff same).mpr ⟨nonneg, le_one⟩)]
    exact atX
  nan unnumbered := by
    subst unnumbered
    cases given
    apply Binary64.clampUnit_of_not_pos
    rw [Binary64.lt, Binary64.extended?_zero]
    rfl
  unsigned := Binary64.isUnsigned_clampUnit x

/-! ### What is moved -/

theorem Clamps.isUnit (clamps : n.Clamps x) :
  x.isUnit = true
  := by
  by_cases number : n = .float .nan
  · rw [clamps.nan number]
    exact Binary64.isUnit_zero
  · obtain negative | ⟨nonneg, le_one⟩ | above := place_of_ne_nan number
    · rw [clamps.below negative]
      exact Binary64.isUnit_zero
    · exact (isUnit_iff (clamps.within nonneg le_one)).mpr ⟨nonneg, le_one⟩
    · rw [clamps.above above]
      exact Binary64.isUnit_one

/-- Numbers of the unit interval that are moved keep their order. -/
theorem Clamps.le_of_within (clamps : m.Clamps x) (clamps' : n.Clamps y)
    (nonneg : le (.whole 0) m = true) (h : m.le n = true) (le_one : n.le (.whole 1) = true) :
  x.le y = true
  := by
  obtain ⟨p, atM, atX⟩ := equals_iff.mp (clamps.within nonneg (le_trans h le_one))
  obtain ⟨q, atN, atY⟩ := equals_iff.mp (clamps'.within (le_trans nonneg h) le_one)
  obtain ⟨p', q', atM', atN', ordered⟩ := le_iff.mp h
  rw [atM] at atM'
  rw [atN] at atN'
  cases atM'
  cases atN'
  exact Binary64.le_iff.mpr ⟨p, q, atX, atY, ordered⟩

/-- Numbers that are moved into the unit interval keep their order. -/
theorem Clamps.le_of_le (clamps : m.Clamps x) (clamps' : n.Clamps y) (h : m.le n = true) :
  x.le y = true
  := by
  obtain ⟨nonneg, le_one⟩ := Binary64.isUnit_iff.mp clamps.isUnit
  obtain ⟨nonneg', le_one'⟩ := Binary64.isUnit_iff.mp clamps'.isUnit
  obtain ⟨p, q, atM, atN, -⟩ := le_iff.mp h
  obtain negative | ⟨mNonneg, -⟩ | above := place_of_ne_nan (ne_nan_of_extended? atM)
  · rw [clamps.below negative]
    exact nonneg'
  · obtain negative | ⟨-, nLeOne⟩ | above := place_of_ne_nan (ne_nan_of_extended? atN)
    · exact absurd (lt_of_lt_of_le negative (le_trans mNonneg h)) (not_lt_self n)
    · exact clamps.le_of_within clamps' mNonneg h nLeOne
    · rw [clamps'.above above]
      exact le_one
  · rw [clamps'.above (lt_of_lt_of_le above h)]
    exact le_one

end Number

end ReflexPolicy

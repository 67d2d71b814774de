/-!
# Binary64 numbers

A `Binary64` is kept exactly: the magnitude of a finite number is a whole number of units of
`2 ^ -1074`, the smallest positive number of the format.  `Representable` says which magnitudes
the format holds, `Binary64.ofRatio` rounds a quotient to the nearest of them, a half going to
the even neighbour, and `roundUnits_representable` says that rounding lands in the format.
Comparison goes through `Extended`, the number line with its two ends, so that it is comparison
of whole numbers; a number that is not a number stands in no order.
-/

namespace ReflexPolicy

/-- The quotient `num / den` rounded to the nearest whole number, a half to the even one. -/
def roundDiv (num den : Nat) : Nat :=
  let q := num / den
  let r := num % den
  if 2 * r < den then q else if den < 2 * r then q + 1 else q + q % 2

theorem roundDiv_le (num den : Nat) :
  roundDiv num den ≤ num / den + 1
  := by
  simp only [roundDiv]
  split
  · omega
  · split <;> omega

theorem le_roundDiv (num den : Nat) :
  num / den ≤ roundDiv num den
  := by
  simp only [roundDiv]
  split
  · omega
  · split <;> omega

/-- A power of ten. -/
def tenTo (exponent : Nat) : Nat := Nat.pow 10 exponent

/-- The units in one. -/
def unitsPerOne : Nat := 1 <<< 1074

/-- The units of `2 ^ 1024`, the least power of two beyond the format. -/
def unitsLimit : Nat := 1 <<< 2098

/-- The units that a finite number can have: at most 53 significant bits, below `2 ^ 1024`. -/
def Representable (units : Nat) : Prop :=
  units < unitsLimit ∧ ∃ m e, m ≤ 1 <<< 53 ∧ units = m <<< e

theorem representable_zero :
  Representable 0
  := by
  refine ⟨?_, 0, 0, Nat.zero_le _, rfl⟩
  rw [unitsLimit, Nat.one_shiftLeft]
  apply Nat.two_pow_pos

/-- The quotient `num / den` rounded to 53 significant bits. -/
def roundUnits (num den : Nat) : Nat :=
  let shift := (num / den).log2 - 52
  roundDiv num (den <<< shift) <<< shift

theorem roundUnits_significant (num den : Nat) :
  ∃ m e, m ≤ 1 <<< 53 ∧ roundUnits num den = m <<< e
  := by
  refine ⟨roundDiv num (den <<< ((num / den).log2 - 52)), (num / den).log2 - 52, ?_, rfl⟩
  apply Nat.le_trans (roundDiv_le _ _)
  rw [Nat.shiftLeft_eq, Nat.one_shiftLeft, ← Nat.div_div_eq_div_mul]
  apply Nat.succ_le_of_lt
  apply Nat.div_lt_of_lt_mul
  apply Nat.lt_of_lt_of_le Nat.lt_log2_self
  rw [← Nat.pow_add]
  apply Nat.pow_le_pow_right (by decide)
  omega

theorem roundUnits_representable {num den : Nat} (h : roundUnits num den < unitsLimit) :
  Representable (roundUnits num den)
  := ⟨h, roundUnits_significant num den⟩

/-- A binary64 number. -/
inductive Binary64 where
  /-- Not a number. -/
  | nan
  /-- An infinity. -/
  | infinite (negative : Bool)
  /-- A signed magnitude of so many units of `2 ^ -1074`; zero has a sign too. -/
  | finite (negative : Bool) (units : Nat) (fits : Representable units)
  deriving DecidableEq

/-- The number line with its two ends, in units of `2 ^ -1074`. -/
inductive Extended where
  | bottom
  | units (n : Int)
  | top
  deriving DecidableEq

namespace Extended

/-- The order of the line. -/
def le : Extended → Extended → Bool
  | bottom, _ => true
  | _, top => true
  | units a, units b => decide (a ≤ b)
  | _, _ => false

/-- The strict order of the line. -/
def lt (a b : Extended) : Bool := !b.le a

/-- `holds rel x y`: both points exist and stand in `rel`. -/
def holds (rel : Extended → Extended → Bool) : Option Extended → Option Extended → Bool
  | some a, some b => rel a b
  | _, _ => false

end Extended

namespace Binary64

/-- Zero without a minus sign. -/
def zero : Binary64 := .finite false 0 representable_zero

/-- `num / den` units, rounded into the format; a magnitude beyond it becomes infinite. -/
def ofUnits (negative : Bool) (num den : Nat) : Binary64 :=
  if h : roundUnits num den < unitsLimit then
    .finite negative (roundUnits num den) (roundUnits_representable h)
  else
    .infinite negative

/-- The number nearest to `num / den`. -/
def ofRatio (negative : Bool) (num den : Nat) : Binary64 :=
  ofUnits negative (num * unitsPerOne) den

/-- The number nearest to a whole number, unless that is beyond the format. -/
def ofInt? (n : Int) : Option Binary64 :=
  match ofRatio (decide (n < 0)) n.natAbs 1 with
  | .finite s u h => some (.finite s u h)
  | _ => none

instance : OfScientific Binary64 where
  ofScientific m negativeExponent e :=
    if negativeExponent then ofRatio false m (tenTo e) else ofRatio false (m * tenTo e) 1

instance (n : Nat) : OfNat Binary64 n where
  ofNat := ofRatio false n 1

/-- The signed number of units of a sign and a magnitude. -/
def signed (negative : Bool) (units : Nat) : Int :=
  if negative then -(units : Int) else units

/-- The place of a number on the line. -/
def extended? : Binary64 → Option Extended
  | nan => none
  | infinite true => some .bottom
  | infinite false => some .top
  | finite s u _ => some (.units (signed s u))

/-- `a ≤ b`, false when either is not a number. -/
def le (a b : Binary64) : Bool := Extended.holds Extended.le a.extended? b.extended?

/-- `a < b`, false when either is not a number. -/
def lt (a b : Binary64) : Bool := Extended.holds Extended.lt a.extended? b.extended?

/-- The first number unless the second is smaller. -/
def min (a b : Binary64) : Binary64 := if b.lt a then b else a

/-- The first number unless the second is larger. -/
def max (a b : Binary64) : Binary64 := if a.lt b then b else a

/-- The number moved into `[0, 1]`; what is not a number becomes `0`. -/
def clampUnit (x : Binary64) : Binary64 := min 1 (max 0 x)

/-- The number lies in `[0, 1]`. -/
def isUnit (x : Binary64) : Bool := le 0 x && le x 1

/-- The number is not a number. -/
def isNan : Binary64 → Bool
  | nan => true
  | _ => false

/-- The number with its sign changed. -/
def neg : Binary64 → Binary64
  | nan => nan
  | infinite s => infinite (!s)
  | finite s u h => finite (!s) u h

/-- The exact sum, rounded into the format; opposite infinities have no sum, and a zero sum is
negative only when both terms are. -/
def add : Binary64 → Binary64 → Binary64
  | nan, _ => nan
  | _, nan => nan
  | infinite s, infinite t => if s = t then infinite s else nan
  | infinite s, _ => infinite s
  | _, infinite t => infinite t
  | finite s u _, finite t v _ =>
    let sum := signed s u + signed t v
    ofUnits (if sum = 0 then s && t else decide (sum < 0)) sum.natAbs 1

/-- The exact product, rounded into the format; an infinity has no product with zero. -/
def mul : Binary64 → Binary64 → Binary64
  | nan, _ => nan
  | _, nan => nan
  | infinite s, infinite t => infinite (s != t)
  | infinite s, finite t v _ => if v = 0 then nan else infinite (s != t)
  | finite s u _, infinite t => if u = 0 then nan else infinite (s != t)
  | finite s u _, finite t v _ => ofUnits (s != t) (u * v) unitsPerOne

/-- The whole number that the number equals. -/
def whole? : Binary64 → Option Int
  | finite s u _ => if u % unitsPerOne = 0 then some (signed s (u / unitsPerOne)) else none
  | _ => none

/-- The number rounded to so many decimal places: the decimal nearest to its exact value, a half
to the even digit, read back into the format. -/
def roundPlaces (places : Nat) : Binary64 → Binary64
  | finite s u _ => ofRatio s (roundDiv (u * tenTo places) unitsPerOne) (tenTo places)
  | x => x

end Binary64

end ReflexPolicy

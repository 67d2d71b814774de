import ReflexPolicy.Binary64.Basic

/-!
# Decimal numbers and their binary64 numbers

`Decimal.toBinary64` reads a decimal as the nearest binary64 number.  `Decimal.shortest` goes the
other way: the decimal of fewest digits that reads back as the given magnitude, and among those
the nearest to it.  `shortest_reads_back` says that whatever the search finds reads back.
-/

namespace ReflexPolicy

/-- The decimal number `digits * 10 ^ exponent`. -/
structure Decimal where
  digits : Nat
  exponent : Int
  deriving DecidableEq

namespace Decimal

/-- The decimal digits of a whole number, the leading one first. -/
def digitsOf (n : Nat) : List Char := Nat.toDigits 10 n

/-- The place of the digit before the first one: the number is below `10 ^ d.top`, and not below
`10 ^ (d.top - 1)` unless it is zero. -/
def top (d : Decimal) : Int := d.exponent + (digitsOf d.digits).length

/-- The binary64 number nearest to a decimal of the given sign.  Decimals so large or so small
that only an infinity or zero is near are settled by their leading place. -/
def toBinary64 (negative : Bool) (d : Decimal) : Binary64 :=
  if d.digits = 0 ∨ d.top < -330 then .finite negative 0 representable_zero
  else if 310 < d.top then .infinite negative
  else match d.exponent with
    | .ofNat e => .ofRatio negative (d.digits * tenTo e) 1
    | .negSucc e => .ofRatio negative d.digits (tenTo (e + 1))

/-- The numerator and denominator of `units * 2 ^ -1074 * 10 ^ scale`. -/
def scaled (units : Nat) (scale : Int) : Nat × Nat :=
  match scale with
  | .ofNat k => (units * tenTo k, unitsPerOne)
  | .negSucc k => (units, unitsPerOne * tenTo (k + 1))

/-- The exponent `e` for which the magnitude lies in `[10 ^ e, 10 ^ (e + 1))`: the estimate from
the binary length, moved by one where it is too low or too high. -/
def leadingExponent (units : Nat) : Int :=
  let estimate := Int.fdiv (((units.log2 : Int) - 1074) * 30103) 100000
  let (num, den) := scaled units (-estimate)
  if num < den then estimate - 1 else if 10 * den ≤ num then estimate + 1 else estimate

/-- The decimals at the place `10 ^ exponent` on both sides of a magnitude, the nearer first. -/
def neighbours (units : Nat) (exponent : Int) : List Decimal :=
  let (num, den) := scaled units (-exponent)
  let below := num / den
  let near := roundDiv num den
  [⟨near, exponent⟩, ⟨if near = below then below + 1 else below, exponent⟩]

/-- The decimal reads back as the magnitude. -/
def readsBack (units : Nat) (d : Decimal) : Bool :=
  match d.toBinary64 false with
  | .finite _ u _ => u == units
  | _ => false

/-- The decimal without its trailing zeros; the fuel bounds how many are taken off. -/
def trim : Nat → Decimal → Decimal
  | 0, d => d
  | fuel + 1, d =>
    if d.digits ≠ 0 ∧ d.digits % 10 = 0 then trim fuel ⟨d.digits / 10, d.exponent + 1⟩ else d

/-- The first decimal that reads back, with one digit, two digits and so on up to seventeen. -/
def firstReadBack (units : Nat) : Option Decimal :=
  let lead := leadingExponent units
  (List.range 17).findSome? fun (i : Nat) => (neighbours units (lead - i)).find? (readsBack units)

/-- The decimal of fewest digits that reads back as the magnitude, without trailing zeros. -/
def shortest (units : Nat) : Decimal :=
  match firstReadBack units with
  | some d => trim 20 d
  | none => ⟨0, 0⟩

theorem firstReadBack_reads_back {units : Nat} {d : Decimal} (h : firstReadBack units = some d) :
  readsBack units d = true
  := by
  obtain ⟨_, _, hi⟩ := List.exists_of_findSome?_eq_some h
  exact List.find?_some hi

end Decimal

end ReflexPolicy

import ReflexPolicy.Binary64.Decimal

/-!
# Written forms of binary64 numbers

`Binary64.literal` is the shortest form that reads back: positional while the leading digit
stands between the places `10 ^ -4` and `10 ^ 15`, and with an exponent of at least two digits
outside of them.  `Binary64.fixed` has a fixed number of places, a half going to the even digit
of the exact value.
-/

namespace ReflexPolicy

namespace Decimal

/-- So many zeros. -/
def zeros (n : Nat) : List Char := List.replicate n '0'

/-- The decimal with a point and at least one digit on both sides of it. -/
def positional (d : Decimal) : List Char :=
  let ds := digitsOf d.digits
  match d.exponent with
  | .ofNat e => ds ++ zeros e ++ ['.', '0']
  | .negSucc e =>
    let places := e + 1
    if places < ds.length then
      ds.take (ds.length - places) ++ '.' :: ds.drop (ds.length - places)
    else
      '0' :: '.' :: (zeros (places - ds.length) ++ ds)

/-- An exponent with its sign and at least two digits. -/
def exponentText (e : Int) : List Char :=
  let ds := digitsOf e.natAbs
  (if e < 0 then '-' else '+') :: (zeros (2 - ds.length) ++ ds)

/-- The decimal with one digit before the point and an exponent. -/
def scientific (d : Decimal) : List Char :=
  let mantissa := match digitsOf d.digits with
    | [] => []
    | [c] => [c]
    | c :: cs => c :: '.' :: cs
  mantissa ++ 'e' :: exponentText (d.top - 1)

end Decimal

namespace Binary64

/-- The minus sign of a negative number. -/
def minus (negative : Bool) : List Char := if negative then ['-'] else []

/-- The written form of what is not finite: `nan`, `inf` and `-inf`. -/
def infinityText (negative : Bool) : List Char := minus negative ++ ['i', 'n', 'f']

/-- The shortest written form of a magnitude. -/
def magnitudeText (units : Nat) : List Char :=
  if units = 0 then ['0', '.', '0']
  else
    let d := Decimal.shortest units
    if -4 < d.top ∧ d.top ≤ 16 then d.positional else d.scientific

/-- The shortest written form that reads back. -/
def literal : Binary64 → String
  | nan => "nan"
  | infinite s => String.ofList (infinityText s)
  | finite s u _ => String.ofList (minus s ++ magnitudeText u)

/-- A whole number of hundredths, tenths and so on, with a point before the last `places`
digits. -/
def pointed (places n : Nat) : List Char :=
  let ds := Decimal.digitsOf n
  let padded := Decimal.zeros (places + 1 - ds.length) ++ ds
  padded.take (padded.length - places) ++ '.' :: padded.drop (padded.length - places)

/-- The number with the given number of places after the point, at least one. -/
def fixed (places : Nat) : Binary64 → String
  | nan => "nan"
  | infinite s => String.ofList (infinityText s)
  | finite s u _ =>
    String.ofList (minus s ++ pointed places (roundDiv (u * tenTo places) unitsPerOne))

end Binary64

end ReflexPolicy

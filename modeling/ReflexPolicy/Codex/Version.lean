import ReflexPolicy.Text.Basic
import ReflexPolicy.Text.Digit

/-!
# Version numbers

A version is three runs of decimal digits joined by points.  Digits of every script count, and a
single line feed may follow.
-/

namespace ReflexPolicy.Codex

/-- The text after a run of at least one digit. -/
def afterDigits? (cs : List Char) : Option (List Char) :=
  match cs with
  | c :: rest => if Text.isDigit c then some (rest.dropWhile Text.isDigit) else none
  | [] => none

/-- The text after a point. -/
def afterPoint? : List Char → Option (List Char)
  | '.' :: rest => some rest
  | _ => none

/-- The text after so many runs of digits, and one more, joined by points. -/
def afterRuns? : Nat → List Char → Option (List Char)
  | 0, cs => afterDigits? cs
  | n + 1, cs => ((afterDigits? cs).bind afterPoint?).bind (afterRuns? n)

/-- The text is three runs of digits joined by points. -/
def isVersion (t : Text) : Bool :=
  match (t.chars?).bind (afterRuns? 2) with
  | some rest => rest == [] || rest == ['\n']
  | none => false

end ReflexPolicy.Codex

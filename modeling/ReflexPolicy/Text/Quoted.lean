import ReflexPolicy.Text.Basic
import ReflexPolicy.Text.Printable

/-!
# Quoted texts

The written form of a text inside a message: in single quotes, or in double quotes when the text
holds a single quote and no double one.  The quote and the backslash are escaped, as is every
character that is not printable and every surrogate, so that the written form is a string.
-/

namespace ReflexPolicy.Text

/-- A hexadecimal digit. -/
def hexDigit (n : Nat) : Char := Nat.digitChar (n % 16)

/-- The last `width` hexadecimal digits of a number, in small letters. -/
def hex : Nat → Nat → List Char
  | 0, _ => []
  | width + 1, n => hex width (n / 16) ++ [hexDigit n]

/-- The quote that a text is written in. -/
def quoteFor (ls : List Letter) : Char :=
  if ls.contains (.char '\'') && !ls.contains (.char '"') then '"' else '\''

/-- A character as it stands between the given quotes. -/
def escape (quote c : Char) : List Char :=
  if c == quote || c == '\\' then ['\\', c]
  else if c == '\n' then ['\\', 'n']
  else if c == '\r' then ['\\', 'r']
  else if c == '\t' then ['\\', 't']
  else if isPrintable c then [c]
  else if c.toNat < 0x100 then '\\' :: 'x' :: hex 2 c.toNat
  else if c.toNat < 0x10000 then '\\' :: 'u' :: hex 4 c.toNat
  else '\\' :: 'U' :: hex 8 c.toNat

/-- A letter as it stands between the given quotes. -/
def escapeLetter (quote : Char) : Letter → List Char
  | .char c => escape quote c
  | .surrogate n => '\\' :: 'u' :: hex 4 (Letter.surrogate n).code

/-- The written form of a text. -/
def quoted (t : Text) : List Char :=
  let quote := quoteFor t.letters
  quote :: (t.letters.flatMap (escapeLetter quote) ++ [quote])

end ReflexPolicy.Text

namespace ReflexPolicy

/-- The written form of a text. -/
def quote (t : Text) : String := String.ofList (Text.quoted t)

end ReflexPolicy

import ReflexPolicy.Value.Order
import ReflexPolicy.Sorting.Basic

/-!
# Writing JSON

`Json.write` writes a value as JSON text in ASCII: every other character becomes an escape, or
a pair of them beyond the basic plane, and a surrogate becomes the escape of its number.  A layout
says whether the parts go on lines of their own and whether keys are sorted.
-/

namespace ReflexPolicy.Json

/-- How JSON text is laid out. -/
structure Layout where
  /-- The step of indentation, if the parts go on lines of their own. -/
  indent : Option Nat
  /-- Whether the keys of mappings are sorted. -/
  sortKeys : Bool

/-- All on one line, the keys in their own order. -/
def Layout.line : Layout := { indent := none, sortKeys := false }

/-- All on one line, the keys sorted. -/
def Layout.sortedLine : Layout := { indent := none, sortKeys := true }

/-- Every part on its own line, indented by two spaces. -/
def Layout.pages : Layout := { indent := some 2, sortKeys := false }

/-- The escape of one 16-bit unit. -/
def unitEscape (n : Nat) : List Char := '\\' :: 'u' :: Text.hex 4 n

/-- A character inside a JSON text. -/
def escape (c : Char) : List Char :=
  if c == '"' then ['\\', '"']
  else if c == '\\' then ['\\', '\\']
  else if c == '\n' then ['\\', 'n']
  else if c == '\r' then ['\\', 'r']
  else if c == '\t' then ['\\', 't']
  else if c == '\x0c' then ['\\', 'f']
  else if c == '\x08' then ['\\', 'b']
  else if ' ' ≤ c && c ≤ '~' then [c]
  else if c.toNat < 0x10000 then unitEscape c.toNat
  else
    let n := c.toNat - 0x10000
    unitEscape (0xD800 + n / 0x400) ++ unitEscape (0xDC00 + n % 0x400)

/-- A letter inside a JSON text. -/
def escapeLetter : Letter → List Char
  | .char c => escape c
  | .surrogate n => unitEscape (Letter.surrogate n).code

/-- A JSON text. -/
def quoted (t : Text) : String :=
  String.ofList ('"' :: (t.letters.flatMap escapeLetter ++ ['"']))

/-- A binary64 number in JSON, with names for what is not finite. -/
def floatText : Binary64 → String
  | .nan => "NaN"
  | .infinite false => "Infinity"
  | .infinite true => "-Infinity"
  | x => x.literal

/-- A scalar in JSON. -/
def scalarText : Scalar → Except Mismatch String
  | .null => .ok "null"
  | .bool true => .ok "true"
  | .bool false => .ok "false"
  | .number (.whole n) => .ok (toString n)
  | .number (.float x) => .ok (floatText x)
  | .text s => .ok (quoted s)
  | .date _ => .error (.noJson "date")
  | .moment _ => .error (.noJson "datetime")

/-- A key in JSON: the text of a scalar. -/
def keyText : Scalar → Except Mismatch String
  | .text s => .ok (quoted s)
  | .date d => .error (.noJsonKey (Scalar.date d).kind)
  | .moment m => .error (.noJsonKey (Scalar.moment m).kind)
  | s => (scalarText s).map fun t => quoted t

/-- The line break before a part at a level of nesting. -/
def lineBreak (layout : Layout) (level : Nat) : String :=
  match layout.indent with
  | none => ""
  | some step => String.ofList ('\n' :: List.replicate (step * level) ' ')

/-- Parts between brackets. -/
def enclose (layout : Layout) (level : Nat) (opening closing : String) (parts : List String) :
    String :=
  if parts.isEmpty then opening ++ closing
  else
    let between := match layout.indent with
      | none => ", "
      | some _ => "," ++ lineBreak layout (level + 1)
    opening ++ lineBreak layout (level + 1) ++ String.intercalate between parts
      ++ lineBreak layout level ++ closing

/-- The entry of a mapping, as far as it can be written, with its key. -/
abbrev Part : Type := Scalar × Except Mismatch String

/-- The texts of some parts, up to the first that cannot be written. -/
def texts : List Part → Except Mismatch (List String)
  | [] => .ok []
  | (_, .error m) :: _ => .error m
  | (_, .ok t) :: rest => (texts rest).map fun ts => t :: ts

/-- The texts of some parts in the order of a layout.  The keys are put in order before anything
is written, so that keys without an order are reported before an entry that cannot be written. -/
def arrange (layout : Layout) (parts : List Part) : Except Mismatch (List String) :=
  if layout.sortKeys then do
    texts (← Sorting.sort (fun a b : Part => a.1.compare b.1 .less) parts)
  else texts parts

mutual

/-- A value in JSON, at a level of nesting. -/
def writeAt (layout : Layout) (level : Nat) : Value → Except Mismatch String
  | .scalar s => scalarText s
  | .list items => do
    return enclose layout level "[" "]" (← writeItems layout (level + 1) items)
  | .map entries => do
    let parts := writeEntries layout (level + 1) entries
    return enclose layout level "\x7b" "\x7d" (← arrange layout parts)

/-- The items of a list in JSON. -/
def writeItems (layout : Layout) (level : Nat) : List Value → Except Mismatch (List String)
  | [] => .ok []
  | v :: vs => do
    let first ← writeAt layout level v
    return first :: (← writeItems layout level vs)

/-- The entries of a mapping in JSON, each with its key. -/
def writeEntries (layout : Layout) (level : Nat) : List (Scalar × Value) → List Part
  | [] => []
  | (k, v) :: rest =>
    let part := do
      let key ← keyText k
      let value ← writeAt layout level v
      return key ++ ": " ++ value
    (k, part) :: writeEntries layout level rest

end

/-- A value as JSON text. -/
def write (layout : Layout) (v : Value) : Except Mismatch String := writeAt layout 0 v

end ReflexPolicy.Json

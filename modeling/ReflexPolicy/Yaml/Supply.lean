import ReflexPolicy.Text.Stream
import ReflexPolicy.Yaml.ReadFault

/-!
# Supplies of characters

Whoever reads YAML is supplied with characters as they are asked for.  A supply may break off: the
file cannot be decoded further, or holds a character that no YAML text may hold.  That shows only
when somebody looks at what comes next; a fault that is found before then is found first.

Characters come in pieces, and a piece with a forbidden character is not handed out at all.
-/

namespace ReflexPolicy.Yaml

/-- A character that a YAML text may hold. -/
def isAllowed (c : Char) : Bool :=
  let n := c.toNat
  n == 9 || n == 10 || n == 13 || (0x20 ≤ n && n ≤ 0x7E) || n == 0x85
    || (0xA0 ≤ n && n ≤ 0xD7FF) || (0xE000 ≤ n && n ≤ 0xFFFD) || 0x10000 ≤ n

/-- The characters that can be looked at, and what happens to whoever looks further; nothing does
if the text ends there. -/
structure Supply where
  text : List Char
  stop : Option ReadFault

namespace Supply

/-- The supply of pieces and of what comes after them. -/
def ofPieces (stop : Option ReadFault) : List (List Char) → Supply
  | [] => { text := [], stop := stop }
  | piece :: rest =>
    if piece.all isAllowed then
      let later := ofPieces stop rest
      { later with text := piece ++ later.text }
    else { text := [], stop := some .malformed }

/-- The supply of a text in one piece. -/
def ofText (cs : List Char) : Supply := ofPieces none [cs]

/-- The supply of a file.  Its first two portions are one piece, and every other one is a piece of
its own. -/
def ofBytes (bytes : List UInt8) : Supply :=
  match TextStream.portionsOf bytes with
  | (first :: second :: rest, fault) =>
    ofPieces (fault.map fun cause => .unusable (.undecodable cause)) ((first ++ second) :: rest)
  | (_, some cause) => { text := [], stop := some (.unusable (.undecodable cause)) }
  | (portions, none) => ofPieces none portions

/-- The supply without the byte order mark that it may begin with. -/
def withoutMark (s : Supply) : Supply :=
  match s.text with
  | c :: rest => if c == '\ufeff' then { s with text := rest } else s
  | [] => s

end Supply

end ReflexPolicy.Yaml

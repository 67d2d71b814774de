import ReflexPolicy.Binary64.Basic
import ReflexPolicy.Text.Lines
import ReflexPolicy.Text.Utf8

/-!
# Text streams

A text stream decodes the bytes of a file piece by piece and hands its characters out portion by
portion, with their line ends made alike.  A piece is decoded when a portion needs more characters
than are waiting, so a fault in the bytes shows when the portion is asked for that needs them.

A character that a piece cuts off is decoded with the next piece, and so is a carriage return at
the end of a piece, for a line feed may follow it.
-/

namespace ReflexPolicy

/-- The bytes of a file, some of them decoded. -/
structure TextStream where
  /-- The bytes that have not been decoded. -/
  bytes : List UInt8
  /-- The bytes of a character that the last piece cut off. -/
  cut : List UInt8
  /-- The last piece ended in a carriage return that has not been decoded. -/
  returnHeld : Bool
  /-- The characters that have been decoded and not handed out. -/
  waiting : List Char
  /-- The number of bytes for a character in the last piece, in the units of binary64. -/
  density : Nat

namespace TextStream

/-- The stream of some bytes. -/
def start (bytes : List UInt8) : TextStream :=
  { bytes := bytes, cut := [], returnHeld := false, waiting := [], density := 0 }

/-- The least number of bytes in a piece. -/
def pieceLength : Nat := 8192

/-- The number of bytes in a piece that is to give so many characters, going by the density of the
last piece. -/
def pieceFor (wanted : Nat) (s : TextStream) : Nat :=
  max pieceLength (roundUnits (max s.density unitsPerOne * wanted) 1 / unitsPerOne)

/-- The characters of a piece, and the bytes of a character that it cuts off; the last piece of
all, which is empty, cuts off none. -/
def decode (cut piece : List UInt8) : Except Undecodable (List Char × List UInt8) :=
  if piece.isEmpty then (Utf8.decode cut).map fun cs => (cs, [])
  else Utf8.decodePiece (cut ++ piece)

/-- The characters of a piece without a carriage return at their end, and whether there is one; the
last piece of all keeps it. -/
def holdReturn (isLast : Bool) (cs : List Char) : List Char × Bool :=
  if !isLast && cs.getLast? == some '\r' then (cs.dropLast, true) else (cs, false)

/-- The stream with the next piece decoded, for a portion that needs so many characters. -/
def fill (wanted : Nat) (s : TextStream) : Except Undecodable TextStream := do
  let size := s.pieceFor wanted
  let piece := s.bytes.take size
  let (decoded, cut) ← decode s.cut piece
  let released := s.returnHeld && (piece.isEmpty || !decoded.isEmpty)
  let (kept, held) := holdReturn piece.isEmpty (if released then '\r' :: decoded else decoded)
  let cs := Text.unifyLineEnds kept
  return {
    bytes := s.bytes.drop size
    cut := cut
    returnHeld := held || (s.returnHeld && !released)
    waiting := cs
    density := if cs.isEmpty then 0 else roundUnits (piece.length * unitsPerOne) cs.length }

/-- The next characters, so many of them unless the text ends, and the stream after them. -/
def take (wanted : Nat) : Nat → TextStream → Except Undecodable (List Char × TextStream)
  | 0, s => .ok ([], s)
  | fuel + 1, s => do
    let found := s.waiting.take wanted
    let rest := { s with waiting := s.waiting.drop wanted }
    let missing := wanted - found.length
    if missing = 0 then return (found, rest)
    let filled ← rest.fill missing
    if rest.bytes.isEmpty && filled.waiting.isEmpty then return (found, filled)
    let (others, last) ← take missing fuel filled
    return (found ++ others, last)

/-- The number of characters in a portion. -/
def portionLength : Nat := 4096

/-- The portions of a stream up to its end, or up to a fault in its bytes. -/
def portions : Nat → TextStream → List (List Char) × Option Undecodable
  | 0, _ => ([], none)
  | fuel + 1, s =>
    match s.take portionLength (s.bytes.length + 2) with
    | .error cause => ([], some cause)
    | .ok (cs, rest) =>
      if cs.isEmpty then ([], none)
      else
        let (others, fault) := portions fuel rest
        (cs :: others, fault)

/-- The portions of the text that bytes encode, up to a fault in the bytes. -/
def portionsOf (bytes : List UInt8) : List (List Char) × Option Undecodable :=
  portions (bytes.length + 2) (start bytes)

end TextStream

end ReflexPolicy

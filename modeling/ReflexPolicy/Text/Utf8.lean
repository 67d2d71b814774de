import ReflexPolicy.Fault

/-!
# Decoding UTF-8

`Utf8.decode` is the text that a run of bytes encodes.  Where the bytes encode no text, the fault
says which bytes stand in the way and where: a byte that begins no character, the beginning of a
character with a wrong byte after it, or the beginning of a character at the end.
-/

namespace ReflexPolicy.Utf8

/-- A byte that continues a character. -/
def isContinuation (b : UInt8) : Bool := 0x80 ≤ b && b < 0xC0

/-- The number of bytes of a character that begins with a byte; none begins with the others. -/
def width? (lead : UInt8) : Option Nat :=
  if lead < 0x80 then some 1
  else if 0xC2 ≤ lead && lead < 0xE0 then some 2
  else if 0xE0 ≤ lead && lead < 0xF0 then some 3
  else if 0xF0 ≤ lead && lead < 0xF5 then some 4
  else none

/-- A byte may come second in a character: characters are encoded with no more bytes than they
need, and the surrogates and what lies beyond the last character are not encoded. -/
def isSecond (lead second : UInt8) : Bool :=
  isContinuation second
    && (if lead == 0xE0 then 0xA0 ≤ second
      else if lead == 0xED then second < 0xA0
      else if lead == 0xF0 then 0x90 ≤ second
      else if lead == 0xF4 then second < 0x90
      else true)

/-- The bits that a first byte gives to a character of so many bytes. -/
def leadBits (width : Nat) (lead : UInt8) : Nat :=
  match width with
  | 1 => lead.toNat
  | 2 => lead.toNat % 0x20
  | 3 => lead.toNat % 0x10
  | _ => lead.toNat % 0x08

/-- The bytes after the first one that belong to a character, at most so many. -/
def tailBytes (lead : UInt8) (count : Nat) (bs : List UInt8) : List UInt8 :=
  match count, bs with
  | n + 1, b :: rest =>
    if isSecond lead b then b :: (rest.takeWhile isContinuation).take n else []
  | _, _ => []

/-- The code point of a first byte and the bytes after it. -/
def codePoint (width : Nat) (lead : UInt8) (tail : List UInt8) : Nat :=
  tail.foldl (fun n b => n * 0x40 + b.toNat % 0x40) (leadBits width lead)

/-- Why a character of so many bytes is not there: `found` of its bytes are, and the text ends
after them or goes on with another byte. -/
def incomplete (found : List UInt8) (position : Nat) (atEnd : Bool) : Undecodable :=
  let bytes := found.map UInt8.toNat
  if atEnd then .endsEarly bytes position else .badContinuation bytes position

/-- The characters that bytes encode from a position on. -/
def decodeFrom (position : Nat) (bs : List UInt8) : Except Undecodable (List Char) :=
  match bs with
  | [] => .ok []
  | lead :: rest =>
    match width? lead with
    | none => .error (.badStart lead.toNat position)
    | some width =>
      let tail := tailBytes lead (width - 1) rest
      if tail.length + 1 < width then
        .error (incomplete (lead :: tail) position (rest.length = tail.length))
      else
        (decodeFrom (position + width) (rest.drop (width - 1))).map
          (Char.ofNat (codePoint width lead tail) :: ·)
termination_by bs.length
decreasing_by
  simp only [List.length_cons, List.length_drop]
  omega

/-- The text that bytes encode. -/
def decode (bs : List UInt8) : Except Undecodable (List Char) := decodeFrom 0 bs

/-! ### Pieces -/

/-- The bytes are the first two of what would be a surrogate. -/
def isHalfSurrogate (bs : List UInt8) : Bool :=
  match bs with
  | [lead, second] => lead == 0xED && 0xA0 ≤ second && second < 0xC0
  | _ => false

/-- The text of the bytes before a position, and the bytes from there on. -/
def cutAt (position : Nat) (bs : List UInt8) : Except Undecodable (List Char × List UInt8) :=
  (decode (bs.take position)).map fun cs => (cs, bs.drop position)

/-- The text of a piece, and the bytes of a character that the piece cuts off.  A surrogate that is
cut off is left to the next piece, too, though it is no character. -/
def decodePiece (bs : List UInt8) : Except Undecodable (List Char × List UInt8) :=
  match decode bs with
  | .ok cs => .ok (cs, [])
  | .error (.endsEarly _ position) => cutAt position bs
  | .error (.badContinuation found position) =>
    if isHalfSurrogate (bs.drop position) then cutAt position bs
    else .error (.badContinuation found position)
  | .error cause => .error cause

end ReflexPolicy.Utf8

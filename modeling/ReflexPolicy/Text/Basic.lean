/-!
# Texts

A `Text` is a list of letters.  A letter is a character, or a surrogate that stands alone: an
escape in a document may name half of a surrogate pair without the other half, and a text keeps
it as it is.  Strings are texts of characters only; `Text.chars?` gives the characters back, and
`chars?_ofString` says that nothing is lost on the way.
-/

namespace ReflexPolicy

/-- A character, or the surrogate of a number behind the first one. -/
inductive Letter where
  | char (c : Char)
  | surrogate (n : Fin 0x800)
  deriving DecidableEq

namespace Letter

instance : Coe Char Letter := ⟨char⟩

/-- The first surrogate. -/
def firstSurrogate : Nat := 0xD800

/-- The number of a letter, by which letters are ordered. -/
def code : Letter → Nat
  | char c => c.toNat
  | surrogate n => firstSurrogate + n.val

/-- The letter of a number that is that of a letter. -/
def ofCode (n : Nat) : Letter :=
  if h : n - firstSurrogate < 0x800 then
    if firstSurrogate ≤ n then surrogate ⟨n - firstSurrogate, h⟩ else char (Char.ofNat n)
  else char (Char.ofNat n)

/-- The character that a letter is. -/
def char? : Letter → Option Char
  | char c => some c
  | surrogate _ => none

/-- No character has the number of a surrogate. -/
theorem code_char_ne (c : Char) (n : Fin 0x800) :
  (char c).code ≠ (surrogate n).code
  := by
  have valid : c.toNat.isValidChar := c.valid
  have below := n.isLt
  simp only [code, firstSurrogate]
  omega

theorem code_inj {a b : Letter} :
  a.code = b.code ↔ a = b
  := by
  constructor
  · intro same
    cases a with
    | char c =>
      cases b with
      | char d => rw [Char.toNat_inj.mp same]
      | surrogate n => exact absurd same (code_char_ne c n)
    | surrogate m =>
      cases b with
      | char d => exact absurd same.symm (code_char_ne d m)
      | surrogate n => rw [Fin.ext (Nat.add_left_cancel same)]
  · rintro rfl
    rfl

end Letter

/-- A text. -/
structure Text where
  letters : List Letter
  deriving DecidableEq

namespace Text

/-- The text of some characters. -/
def ofChars (cs : List Char) : Text := ⟨cs.map .char⟩

/-- The text of a string. -/
def ofString (s : String) : Text := ofChars s.toList

instance : Coe String Text := ⟨ofString⟩

instance : Inhabited Text := ⟨⟨[]⟩⟩

/-- One text after another. -/
def append (s t : Text) : Text := ⟨s.letters ++ t.letters⟩

instance : Append Text := ⟨append⟩

/-- The text has no letters. -/
def isEmpty (t : Text) : Bool := t.letters.isEmpty

/-- The first letters of a text, so many of them. -/
def take (count : Nat) (t : Text) : Text := ⟨t.letters.take count⟩

/-- The texts with another one between them. -/
def joined (between : Text) (ts : List Text) : Text :=
  ⟨List.intercalate between.letters (ts.map letters)⟩

/-- The characters of some letters, if all of them are characters. -/
def charsOf? : List Letter → Option (List Char)
  | [] => some []
  | .char c :: rest => (charsOf? rest).map (c :: ·)
  | .surrogate _ :: _ => none

/-- The characters of a text, if all of its letters are characters. -/
def chars? (t : Text) : Option (List Char) := charsOf? t.letters

/-- The string that a text is. -/
def string? (t : Text) : Option String := t.chars?.map String.ofList

/-- The numbers of the letters of a text. -/
def codes (t : Text) : List Nat := t.letters.map Letter.code

/-- The text stands before another one, letter by letter. -/
def before (s t : Text) : Bool := decide (s.codes < t.codes)

/-- The text is another one, or stands before it. -/
def beforeOrSame (s t : Text) : Bool := !t.before s

theorem charsOf?_map_char (cs : List Char) :
  charsOf? (cs.map .char) = some cs
  := by
  induction cs with
  | nil => rfl
  | cons c cs ih => simp [charsOf?, ih]

theorem chars?_ofString (s : String) :
  (ofString s).chars? = some s.toList
  := charsOf?_map_char s.toList

theorem ofString_inj {s t : String} :
  ofString s = ofString t ↔ s = t
  := by
  constructor
  · intro h
    have hs := chars?_ofString s
    rw [h, chars?_ofString] at hs
    exact (String.toList_inj.mp (Option.some.inj hs)).symm
  · rintro rfl
    rfl

/-! ### Order -/

theorem codes_inj {s t : Text} :
  s.codes = t.codes ↔ s = t
  := by
  constructor
  · intro same
    obtain ⟨letters⟩ := s
    obtain ⟨letters'⟩ := t
    congr
    exact (List.map_inj_right fun _ _ => Letter.code_inj.mp).mp same
  · rintro rfl
    rfl

theorem beforeOrSame_iff {s t : Text} :
  s.beforeOrSame t = true ↔ ¬ t.codes < s.codes
  := by simp [beforeOrSame, before]

theorem beforeOrSame_trans (r s t : Text) (first : r.beforeOrSame s = true)
    (second : s.beforeOrSame t = true) :
  r.beforeOrSame t = true
  := by
  rw [beforeOrSame_iff, List.not_lt] at *
  exact List.le_trans first second

theorem beforeOrSame_total (s t : Text) :
  (s.beforeOrSame t || t.beforeOrSame s) = true
  := by
  rw [Bool.or_eq_true, beforeOrSame_iff, beforeOrSame_iff, List.not_lt, List.not_lt]
  exact List.le_total _ _

theorem beforeOrSame_antisymm (s t : Text) (first : s.beforeOrSame t = true)
    (second : t.beforeOrSame s = true) :
  s = t
  := by
  rw [beforeOrSame_iff, List.not_lt] at *
  exact codes_inj.mp (List.le_antisymm first second)

end Text

end ReflexPolicy

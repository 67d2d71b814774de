/-!
# Letter case

Two views of letter case, both as far as ASCII words can meet it.  `lower` is the lower case of
a text: of the characters outside ASCII only the dotted capital I and the Kelvin sign have a
lower case that begins with an ASCII letter, and they alone are changed.  `fold` is the caseless
form of one character, in which the long s, the Kelvin sign and both Turkish forms of i are
forms of an ASCII letter too.
-/

namespace ReflexPolicy.Text

/-- The lower case of an ASCII capital, and any other character itself. -/
def lowerAscii (c : Char) : Char :=
  if 'A' ≤ c && c ≤ 'Z' then Char.ofNat (c.toNat + 32) else c

/-- The lower case of a character; that of the dotted capital I has a combining dot above. -/
def lowerChar (c : Char) : List Char :=
  if c == '\u0130' then ['i', '\u0307']
  else if c == '\u212a' then ['k']
  else [lowerAscii c]

/-- The lower case of a text. -/
def lower (cs : List Char) : List Char := cs.flatMap lowerChar

/-- The caseless form of a character. -/
def fold (c : Char) : Char :=
  if c == '\u017f' then 's'
  else if c == '\u212a' then 'k'
  else if c == '\u0130' || c == '\u0131' then 'i'
  else lowerAscii c

end ReflexPolicy.Text

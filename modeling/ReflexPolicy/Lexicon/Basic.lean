import ReflexPolicy.Finding
import ReflexPolicy.Pattern.Search

/-!
# Lexicons

A lexicon is a table of cues for one reflex.  A cue is a pattern with the score that its
occurrence is worth.  `Lexicon.findings` gives one finding for every cue that occurs in a text, in
the order of the table, with the first occurrence as evidence.
-/

namespace ReflexPolicy

/-- A pattern that speaks for a reflex. -/
structure Cue where
  pattern : Pattern
  score : Binary64
  label : String
  rationale : String

/-- The cues of one reflex. -/
structure Lexicon where
  reflexId : String
  tags : List String
  cues : List Cue

/-- The number of characters of an occurrence that a finding quotes. -/
def quotedLength : Nat := 80

/-- The tags of a finding as a value. -/
def tagsValue (tags : List String) : Value := .list (tags.map fun (t : String) => .text t)

/-- The finding of a cue that occurs in a text. -/
def Cue.finding (cue : Cue) (reflexId : String) (tags : List String) (found : List Char) :
    Finding :=
  { reflexId := .text reflexId
    score := .float cue.score
    rationale := .text (cue.rationale ++ ". Phrase: \""
      ++ String.ofList (found.take quotedLength) ++ "\"")
    label := .text cue.label
    tags := tagsValue tags }

namespace Lexicon

/-- The finding of one cue in a text, if it occurs there. -/
def finding? (l : Lexicon) (text : List Char) (cue : Cue) : Option Finding :=
  (cue.pattern.search? text).map (cue.finding l.reflexId l.tags)

/-- The findings in a text; the empty text has none. -/
def findings (l : Lexicon) (text : List Char) : List Finding :=
  if text.isEmpty then [] else l.cues.filterMap (l.finding? text)

end Lexicon

end ReflexPolicy

import ReflexPolicy.Detector
import ReflexPolicy.Lexicon.Claims
import ReflexPolicy.Lexicon.Omission
import ReflexPolicy.Lexicon.Rhetoric

/-!
# The registry of lexical detectors

The lexical detectors that run when no others are asked for, in the order in which they were
registered.  Registering a detector again changes nothing.
-/

namespace ReflexPolicy

/-- A detector that looks for the cues of one reflex. -/
structure LexicalDetector where
  reflexId : String
  name : String
  findings : List Char → List Finding

namespace LexicalDetector

/-- A lexical detector as a detector; it never fails. -/
def detector (d : LexicalDetector) : Detector := fun text => .ok (some (d.findings text.toList))

/-- The detectors with one more, unless it is there already. -/
def register (registered : List LexicalDetector) (d : LexicalDetector) : List LexicalDetector :=
  if registered.any fun r => r.name == d.name then registered else registered ++ [d]

/-- A detector of the cues of a lexicon. -/
def ofLexicon (name : String) (l : Lexicon) : LexicalDetector :=
  { reflexId := l.reflexId, name := name, findings := l.findings }

/-- The detector of urgency. -/
def urgency : LexicalDetector where
  reflexId := Lexicon.urgency.reflexId
  name := "FalseUrgencyDetector"
  findings := Lexicon.urgencyFindings

/-- The detector of omissions. -/
def omission : LexicalDetector where
  reflexId := Lexicon.omissionId
  name := "OmissionDetector"
  findings := Lexicon.omissionFindings

/-- The registered detectors, in order. -/
def registered : List LexicalDetector :=
  [ofLexicon "HallucinationDetector" Lexicon.implausible,
    ofLexicon "DatalessClaimDetector" Lexicon.dataless,
    ofLexicon "FalsePrecisionDetector" Lexicon.precision,
    ofLexicon "SpeculativeOverreachDetector" Lexicon.speculation,
    ofLexicon "RhetoricalEntrapmentDetector" Lexicon.entrapment,
    urgency,
    omission].foldl register []

/-- The registered detector of a reflex. -/
def forReflex? (id : String) : Option LexicalDetector :=
  registered.find? fun d => d.reflexId == id

/-- The settings that a detector is given: none unless there are some. -/
def settings (given : Value) : Value := if given.truthy then given else .map []

end LexicalDetector

end ReflexPolicy

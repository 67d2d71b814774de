import ReflexPolicy.Detector
import ReflexPolicy.Json.Writer
import ReflexPolicy.Semantic.Reply

/-!
# Scoring by a model

A `Scorer` asks a model for one score for each reflex of a catalogue.  It asks only when it has a
client and a catalogue and the passage is not blank; an answer that fails or holds nothing gives
no findings.
-/

namespace ReflexPolicy

/-- What is put to a model. -/
structure Prompt where
  model : Value
  maxTokens : Nat
  policy : String
  message : Text

/-- What comes back from a model. -/
inductive Answer where
  | text (s : String)
  | empty
  | failed (message : Text)

/-- A connection to a model. -/
abbrev Client := Prompt → Answer

/-- A detector that asks a model. -/
structure Scorer where
  /-- The labels of the reflexes to be scored. -/
  catalogue : Entries Scalar Value
  /-- The handshake of the session. -/
  session : Entries Scalar Value
  model : Value
  client : Option Client

namespace Scorer

/-- The model that is asked unless another one is named. -/
def defaultModel : String := "claude-haiku-4-5-20251001"

/-- The most tokens of an answer. -/
def answerTokens : Nat := 400

/-- The number of characters of a passage that are put to a model. -/
def passageLength : Nat := 4000

/-- The instructions to the model. -/
def scoringPolicy : String :=
  String.intercalate "\n" [
    "You score a passage for epistemic failure modes (\"reflexes\").",
    "",
    "For each reflex id you are given, return how strongly the passage exhibits it,",
    "from 0.0 (absent) to 1.0 (unmistakable). Judge the passage only; do not use",
    "outside knowledge about its author.",
    "",
    "Respond with JSON only:",
    "\x7b\"scores\": \x7b\"<reflex id>\": <0.0-1.0>, ...\x7d, "
      ++ "\"rationale\": \x7b\"<reflex id>\": \"one sentence\", ...\x7d\x7d"]

/-- The first value that counts as true, or else a default. -/
def firstTruthy (default : Value) (vs : List Value) : Value :=
  (vs.find? Value.truthy).getD default

/-- The model to ask: the one that is named, else that of the environment, else the default. -/
def chooseModel (named environment : Value) : Value :=
  firstTruthy (.text defaultModel) [named, environment]

/-- The client to use: the one that is given, else one that is connected with the first key that
is not empty. -/
def chooseClient (given : Option Client) (keys : List Value) (connect : Value → Option Client) :
    Option Client :=
  match given with
  | some client => some client
  | none => (keys.find? Value.truthy).bind connect

/-- The scorer has what it needs to ask. -/
def isAvailable (s : Scorer) : Bool := s.client.isSome && !s.catalogue.isEmpty

/-- The line of the catalogue on one reflex. -/
def catalogueLine (entry : Scalar × Value) : Text :=
  "- " ++ entry.1.plain ++ ": " ++ entry.2.plain

/-- What the scorer puts to the model about a passage. -/
def prompt (s : Scorer) (passage : String) : Except Fault Prompt :=
  match Json.write Json.Layout.sortedLine (.map s.session) with
  | .error m => .error (.mismatch m)
  | .ok session => .ok
    { model := s.model
      maxTokens := answerTokens
      policy := scoringPolicy
      message := "REFLEXES:\n" ++ Text.joined "\n" (s.catalogue.map catalogueLine)
        ++ "\n\nSESSION POLICY: " ++ session
        ++ "\n\nPASSAGE:\n" ++ String.ofList (passage.toList.take passageLength) }

/-- The passage holds nothing but blanks. -/
def isBlankText (passage : String) : Bool := passage.toList.all Text.isBlank

/-- What the scorer asks about a passage, if it asks at all, and the client it asks. -/
def question? (s : Scorer) (passage : String) : Except Fault (Option (Client × Prompt)) :=
  match s.client with
  | some client =>
    if s.catalogue.isEmpty || isBlankText passage then .ok none
    else (s.prompt passage).map fun p => some (client, p)
  | none => .ok none

/-- The findings that the scorer draws from an answer. -/
def findingsOfAnswer (s : Scorer) : Answer → Except Fault (List Finding)
  | .text t => Reply.findings s.catalogue t
  | .empty => .ok []
  | .failed _ => .ok []

/-- The findings in a passage. -/
def findings (s : Scorer) (passage : String) : Except Fault (List Finding) := do
  match ← s.question? passage with
  | some (client, p) => s.findingsOfAnswer (client p)
  | none => return []

/-- The scorer as a detector. -/
def detector (s : Scorer) : Detector := fun passage =>
  match s.findings passage with
  | .ok found => .ok (some found)
  | .error e => .error e.message

end Scorer

end ReflexPolicy

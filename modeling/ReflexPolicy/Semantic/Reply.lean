import ReflexPolicy.Finding
import ReflexPolicy.Json.Reader
import ReflexPolicy.Text.Blank

/-!
# Replies of a scoring model

A model answers with a JSON object of scores and rationales, perhaps inside a fence or between
other words.  `Reply.findings` turns an answer into findings: entries of reflexes that are not in
the catalogue, and scores that are not numbers, are left out.
-/

namespace ReflexPolicy.Reply

/-- The mark at the head of a line that fences code. -/
def fence : List Char := "```".toList

/-- The line fences code. -/
def isFence (line : List Char) : Bool := fence.isPrefixOf (Text.strip line)

/-- The lines of a text. -/
def linesOf : List Char → List (List Char)
  | [] => [[]]
  | c :: cs =>
    if c == '\n' then [] :: linesOf cs
    else match linesOf cs with
      | [] => [[c]]
      | line :: rest => (c :: line) :: rest

/-- The text without its fences, if it begins with one. -/
def unfenced (cs : List Char) : List Char :=
  if fence.isPrefixOf cs then
    List.intercalate ['\n'] ((linesOf cs).filter fun line => !isFence line)
  else cs

/-- The stretch of a text from its first opening brace to its last closing one. -/
def braced? (cs : List Char) : Option (List Char) :=
  match cs.dropWhile (· != '\x7b') with
  | [] => none
  | inside =>
    match Text.trimEnd (· != '\x7d') inside with
    | [] => none
    | found => some found

/-- The value that a text writes as JSON, whole or between its braces. -/
def valueOf (cs : List Char) : Except Fault (Option Value) :=
  match Json.read cs with
  | .ok v => .ok (some v)
  | .error (.tooManyDigits n) => .error (.misuse (.tooManyDigits n))
  | .error .malformed =>
    match (braced? cs).map Json.read with
    | some (.ok v) => .ok (some v)
    | some (.error (.tooManyDigits n)) => .error (.misuse (.tooManyDigits n))
    | _ => .ok none

/-- The finding of one score of a reply, if the reflex is in the catalogue and the score is a
number. -/
def finding? (catalogue rationales : Entries Scalar Value) (id : Scalar) (score : Value) :
    Except Fault (Option Finding) :=
  match Entries.get? catalogue id, score.number? with
  | some label, some n => match n.toBinary64? with
    | none => .error .tooLarge
    | some x => .ok (some
      { reflexId := .scalar id
        score := .float x.clampUnit
        rationale := .text ((Entries.get? rationales id).getD (.text "")).plain
        label := label
        tags := .list [.text "semantic"] })
  | _, _ => .ok none

/-- The findings of the scores of a reply, in order. -/
def findingsOf (catalogue rationales : Entries Scalar Value) :
    Entries Scalar Value → Except Fault (List Finding)
  | [] => .ok []
  | (id, score) :: rest => do
    let first ← finding? catalogue rationales id score
    let others ← findingsOf catalogue rationales rest
    return first.toList ++ others

/-- The entries of a mapping, none for any other value. -/
def entriesOf (v : Value) : Entries Scalar Value := v.entries?.getD []

/-- The findings of an answer, for the reflexes of a catalogue. -/
def findings (catalogue : Entries Scalar Value) (answer : String) :
    Except Fault (List Finding) := do
  match ← valueOf (unfenced (Text.strip answer.toList)) with
  | some (.map es) =>
    findingsOf catalogue (entriesOf (Value.field es "rationale"))
      (entriesOf (Value.field es "scores"))
  | _ => return []

end ReflexPolicy.Reply

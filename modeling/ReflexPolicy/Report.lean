import ReflexPolicy.Outcome
import ReflexPolicy.Policy.Unchecked
import ReflexPolicy.Finding
import ReflexPolicy.Json.Writer
import ReflexPolicy.Sorting.Basic

/-!
# Reports

The report on an outcome, with or without the findings that it rests on: as lines of text, and as
JSON.  Reports take outcomes and findings whose fields have not been checked, and fail where a
field cannot be shown.
-/

namespace ReflexPolicy.Report

/-- A value as a number with two places. -/
def twoPlaces (v : Value) : Except Fault String :=
  match v.asNumber? with
  | some n => match n.toBinary64? with
    | some x => .ok (x.fixed 2)
    | none => .error .tooLarge
  | none => match v with
    | .text _ => .error (.misuse .placesOfText)
    | _ => .error (.mismatch (.noPlaces v.kind))

/-- A value as it joins a line; a whole number with too many digits in it cannot be written. -/
def shown (v : Value) : Except Fault Text :=
  if v.isWritable then .ok v.plain else .error (.misuse .tooLong)

theorem eq_plain_of_shown {v : Value} {t : Text} (given : shown v = .ok t) :
  t = v.plain
  := by
  rw [shown] at given
  split at given <;> cases given
  rfl

/-- A rule of so many characters. -/
def rule (c : Char) (width : Nat) : String := String.ofList (List.replicate width c)

/-- A decision in words. -/
def yesNo (v : Value) : String := if v.truthy then "YES" else "no"

/-- The reflex of an unchecked id. -/
def reflexOf (c : Codex) (id : Value) : Except Fault (Option Reflex) :=
  (keyOf id).map c.reflex?

/-- The lines on what blocked. -/
def blockLines (c : Codex) (s : Sheet) : Except Fault (List Text) := do
  if s.isBlocked then
    let known ← reflexOf c s.blockedBy
    let id ← shown s.blockedBy
    let label := match known with
      | some r => r.label
      | none => id
    return ["BLOCKED by " ++ id ++ " (" ++ label ++ ") at score " ++ (← twoPlaces s.blockScore)]
  else
    return ["Not blocked"]

/-- The line on one reflex that fired. -/
def firedLine (c : Codex) (f : Value × Value) : Except Fault Text := do
  let label := match ← reflexOf c f.1 with
    | some r => r.label
    | none => ""
  let id ← shown f.1
  return "  " ++ id ++ " [" ++ (← twoPlaces f.2) ++ "] " ++ label

/-- Lines that are made one by one. -/
def linesOf {α : Type} (line : α → Except Fault Text) : List α → Except Fault (List Text)
  | [] => .ok []
  | a :: as => do
    let first ← line a
    return first :: (← linesOf line as)

/-- The lines on what fired. -/
def firedLines (c : Codex) (s : Sheet) : Except Fault (List Text) := do
  let lines ← linesOf (firedLine c) s.fired
  return ("FIRED REFLEXES (" ++ toString s.fired.length ++ ")")
    :: (if lines.isEmpty then ["  None."] else lines)

/-- The line on context decay. -/
def expiryLine (c : Codex) (s : Sheet) : Text :=
  if s.contextExpired.truthy then
    "  Context expired: YES (switch to --" ++ c.contextDecay.onExpire.name ++ ")"
  else if s.isBlocked then "  Context expired: not evaluated"
  else "  Context expired: no"

/-- The line on what is said instead of a blocked answer. -/
def failoverLines (c : Codex) (s : Sheet) : List Text :=
  let m := c.failureMessage FailureKind.refuse.name
  if s.isBlocked && !m.text.isEmpty then ["  Failover: " ++ m.text ++ " [" ++ m.action ++ "]"]
  else []

/-- The lines on policy decisions. -/
def policyLines (c : Codex) (s : Sheet) : List Text :=
  "POLICY"
    :: ("  Citations required: " ++ yesNo s.needCitation)
    :: ("  Omission scan: " ++ yesNo s.runOmissionScan)
    :: expiryLine c s
    :: failoverLines c s

/-! ### Findings -/

/-- A score with its sign changed. -/
def negated (v : Value) : Except Fault Value :=
  match v.asNumber? with
  | some n => .ok (.number n.neg)
  | none => .error (.mismatch (.noMinus v.kind))

/-- The findings with the keys that they are sorted by: the score, the highest first, and the
id. -/
def keyed : List Finding → Except Fault (List (Value × Finding))
  | [] => .ok []
  | f :: rest => do
    let score ← negated f.score
    return (.list [score, f.reflexId], f) :: (← keyed rest)

/-- The findings as a report lists them. -/
def sorted (findings : List Finding) : Except Fault (List Finding) := do
  let keys ← keyed findings
  match Sorting.sort (fun a b : Value × Finding => a.1.less b.1) keys with
  | .ok found => return found.map Prod.snd
  | .error m => .error (.mismatch m)

/-- The beginning of a value: so many letters of a text, or items of a list. -/
def beginning (count : Nat) : Value → Except Fault Text
  | .text s => .ok (s.take count)
  | .list items => shown (.list (items.take count))
  | .map _ => .error (.mismatch (.noKey "slice"))
  | v => .error (.mismatch (.noSlice v.kind))

/-- The label of a finding, empty when it counts as false. -/
def labelText (label : Value) : Except Fault Text :=
  if label.truthy then shown label else .ok ""

/-- The line on the rationale of a finding; there is none when it counts as false. -/
def rationaleLines (rationale : Value) : Except Fault (List Text) :=
  if rationale.truthy then (beginning 100 rationale).map fun t => ["    " ++ t] else .ok []

/-- The lines on one finding. -/
def findingLines (f : Finding) : Except Fault (List Text) := do
  let id ← shown f.reflexId
  let score ← twoPlaces f.score
  let label ← labelText f.label
  let rationale ← rationaleLines f.rationale
  return ("  " ++ id ++ " [" ++ score ++ "] " ++ label) :: rationale

/-- The lines on several findings. -/
def linesOfFindings : List Finding → Except Fault (List Text)
  | [] => .ok []
  | f :: rest => do
    let first ← findingLines f
    return first ++ (← linesOfFindings rest)

/-- The lines on the findings, if there are any. -/
def findingsLines (findings : List Finding) : Except Fault (List Text) := do
  if findings.isEmpty then return []
  let lines ← linesOfFindings (← sorted findings)
  return "" :: ("DETECTOR FINDINGS (" ++ toString findings.length ++ ")") :: lines

/-! ### Whole reports -/

/-- The report as lines of text. -/
def text (c : Codex) (s : Sheet) (findings : List Finding) : Except Fault Text := do
  let profile ← shown s.profile
  let floor ← twoPlaces s.minConfidence
  let block ← blockLines c s
  let fired ← firedLines c s
  let found ← findingsLines findings
  let head : List Text := [rule '=' 60, "REFLEX GATE EVALUATION", rule '=' 60,
    "Codex: " ++ c.version ++ " | Profile: " ++ profile,
    "Minimum confidence: " ++ floor, ""]
  let narrow : Text := rule '-' 40
  let blank : Text := ""
  let wide : Text := rule '=' 60
  return Text.joined "\n" (head ++ [narrow] ++ block ++ [narrow] ++ fired ++ [blank]
    ++ policyLines c s ++ found ++ [wide])

/-- A finding in JSON. -/
def findingValue (f : Finding) : Value :=
  .ofFields [("reflexId", f.reflexId), ("score", f.score), ("label", f.label),
    ("rationale", f.rationale), ("tags", f.tags)]

/-- What the report as JSON holds: the outcome, and the findings if they are given. -/
def content (s : Sheet) (findings : Option (List Finding)) : Value :=
  let found := match findings with
    | some fs => [("findings", Value.list (fs.map findingValue))]
    | none => []
  .ofFields (s.fields ++ found)

/-- The report as JSON, with the findings if they are given. -/
def json (s : Sheet) (findings : Option (List Finding)) : Except Fault String :=
  match Json.write Json.Layout.pages (content s findings) with
  | .ok t => if (content s findings).isWritable then .ok t else .error (.misuse .tooLong)
  | .error m => .error (.mismatch m)

end ReflexPolicy.Report

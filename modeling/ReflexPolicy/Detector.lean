import ReflexPolicy.Evaluation
import ReflexPolicy.Finding

/-!
# Detectors and analysis

A detector looks at a text and gives findings, or nothing, or fails.  One that fails contributes
nothing.  An analysis runs detectors over a text and evaluates the scores of their findings.
-/

namespace ReflexPolicy

/-- A detector: it fails with a message, or gives findings or nothing. -/
abbrev Detector := String → Except Text (Option (List Finding))

/-- The findings that one detector contributes. -/
def contribution (text : String) (d : Detector) : List Finding :=
  match d text with
  | .ok (some findings) => findings
  | _ => []

/-- The findings of all detectors, in order. -/
def runDetectors (text : String) (ds : List Detector) : List Finding :=
  ds.flatMap (contribution text)

/-- Scores as the field of a draft. -/
def scoresValue (scores : Entries Text Binary64) : Value :=
  .map (scores.map fun s => (.text s.1, .float s.2))

/-- The age of a session in an analysis: what counts as false is the age of a new session. -/
def DraftAge.orFresh : DraftAge → DraftAge
  | .other v => if v.truthy then .other v else .fresh
  | age => age

/-- A draft for the scores of some findings. -/
def Draft.ofFindings (d : Draft) (findings : List Finding) : Except Fault Draft := do
  let scores ← collectScores findings
  return { d with scores := scoresValue scores, age := d.age.orFresh }

namespace Codex

/-- The outcome of a text, with the findings it rests on, and the state of a sink after the
announcement.  The scores of the draft are those of the findings. -/
def analyze {σ : Type} (c : Codex) (text : String) (ds : List Detector) (d : Draft)
    (sink : Option (Sink σ)) (now : Value) (state : σ) :
    Except Fault (Outcome × List Finding) × σ :=
  let findings := runDetectors text ds
  match d.ofFindings findings with
  | .error e => (.error e, state)
  | .ok draft => match c.evaluateWith draft sink now state with
    | (.error e, after) => (.error e, after)
    | (.ok o, after) => (.ok (o, findings), after)

end Codex

end ReflexPolicy

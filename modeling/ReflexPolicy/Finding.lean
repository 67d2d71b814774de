import ReflexPolicy.Fault

/-!
# Findings and scores

A finding is one hit of a detector.  Findings come from outside and may hold anything; those with
a text for an id and a number for a score are collapsed into one score for each reflex, the
highest, moved into `[0, 1]`.
-/

namespace ReflexPolicy

/-- One hit of a detector. -/
structure Finding where
  reflexId : Value
  score : Value
  rationale : Value
  label : Value
  tags : Value

namespace Finding

/-- A finding that holds nothing. -/
def empty : Finding :=
  { reflexId := .null, score := .null, rationale := .null, label := .null, tags := .null }

/-- The binary64 number of a finding's score; truth values and what is not a number have none. -/
def scoreNumber (f : Finding) : Except Fault (Option Binary64) :=
  match f.score.number? with
  | none => .ok none
  | some n => match n.toBinary64? with
    | none => .error .tooLarge
    | some x => .ok (if x.isNan then none else some x)

/-- The reflex and the score of a well-formed finding. -/
def entry? (f : Finding) : Except Fault (Option (Text × Binary64)) :=
  match f.reflexId.text? with
  | none => .ok none
  | some id => (f.scoreNumber).map fun x => x.map fun x => (id, x.clampUnit)

end Finding

/-- The scores with one more, kept if it is higher than the one before it. -/
def raiseScore (scores : Entries Text Binary64) (id : Text) (score : Binary64) :
    Entries Text Binary64 :=
  match Entries.get? scores id with
  | some before => if before.lt score then Entries.put scores id score else scores
  | none => Entries.put scores id score

/-- The scores of the findings on top of scores before them. -/
def collectFrom (scores : Entries Text Binary64) :
    List Finding → Except Fault (Entries Text Binary64)
  | [] => .ok scores
  | f :: rest => match f.entry? with
    | .error e => .error e
    | .ok none => collectFrom scores rest
    | .ok (some (id, score)) => collectFrom (raiseScore scores id score) rest

/-- The scores of the findings, in the order in which the reflexes first appear. -/
def collectScores (findings : List Finding) : Except Fault (Entries Text Binary64) :=
  collectFrom [] findings

end ReflexPolicy

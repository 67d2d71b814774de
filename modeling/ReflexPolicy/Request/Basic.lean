import ReflexPolicy.Fault

/-!
# Requests

A `Draft` is a request as a caller writes it, with fields that may hold anything; a `Request` is
one that has been checked.  `Draft.validate` leads from the first to the second, and looks at the
fields in a fixed order, so that the first thing wrong is the one that is reported.
-/

namespace ReflexPolicy

/-- How far a session has run since the last recap. -/
structure ContextAge where
  turns : Nat
  tokens : Nat
  deriving DecidableEq

/-- A request that has been checked. -/
structure Request where
  tier : Tier
  mode : Mode
  scores : Entries Text Binary64
  age : ContextAge
  externalClaim : Bool
  citation : CitationOverride
  omission : OmissionOverride
  profile : Text

/-- The age of a session as a caller writes it: two counts, or something that is no age. -/
inductive DraftAge where
  | counts (turns tokens : Value)
  | other (v : Value)

/-- The age of a session that has just begun. -/
def DraftAge.fresh : DraftAge := .counts (.int 0) (.int 0)

/-- A request as a caller writes it. -/
structure Draft where
  tier : Value
  mode : Value
  scores : Value
  age : DraftAge
  externalClaim : Value
  citation : Value
  omission : Value
  profile : Value

/-! ### Checks of single fields -/

/-- A score: a number of `[0, 1]` that is not a truth value. -/
def checkScore (id v : Value) : Except Fault Binary64 :=
  match v.number? with
  | none => .error (.rejected (.scoreNotNumeric id v))
  | some n => match n.toBinary64? with
    | none => .error .tooLarge
    | some x => if x.isUnit then .ok x else .error (.rejected (.scoreOutside id v))

/-- The scores of a request, each under an id that is a text. -/
def checkScores : List (Scalar × Value) → Except Fault (Entries Text Binary64)
  | [] => .ok []
  | (.text id, v) :: rest => do
    let score ← checkScore (.text id) v
    return (id, score) :: (← checkScores rest)
  | (k, _) :: _ => .error (.rejected (.reflexIdNotText k))

/-- A count: a number without a fraction that is not below zero. -/
def checkCount (name : String) (v : Value) : Except Rejection Nat :=
  match v with
  | .int n => if 0 ≤ n then .ok n.toNat else .error (.notNonNegative name v)
  | .float x => match x.whole? with
    | none => .error (.notWhole name v)
    | some n => if 0 ≤ n then .ok n.toNat else .error (.notNonNegative name v)
  | _ => .error (.notNonNegative name v)

/-- The age of a session. -/
def checkAge : DraftAge → Except Rejection ContextAge
  | .counts turns tokens => do
    let m ← checkCount "turns_since_recap" turns
    let n ← checkCount "tokens_since_recap" tokens
    return { turns := m, tokens := n }
  | .other _ => .error .notAge

/-- A truth value. -/
def checkExternal : Value → Except Rejection Bool
  | .bool b => .ok b
  | v => .error (.externalNotBool v)

/-- The name of a profile: a text that is not empty. -/
def checkProfile : Value → Except Rejection Text
  | .text s => if s.isEmpty then .error (.profileNotText (.text s)) else .ok s
  | v => .error (.profileNotText v)

namespace Draft

/-- The request that a draft asks for. -/
def validate (d : Draft) : Except Fault Request := do
  let tier ← Fault.ofRejection (Tier.parse d.tier)
  let mode ← Fault.ofRejection (Mode.parse d.mode)
  let citation ← Fault.ofRejection (CitationOverride.parse d.citation)
  let omission ← Fault.ofRejection (OmissionOverride.parse d.omission)
  let entries ← match d.scores.entries? with
    | some es => .ok es
    | none => .error (.rejected .scoresNotMapping)
  let scores ← checkScores entries
  let age ← Fault.ofRejection (checkAge d.age)
  let external ← Fault.ofRejection (checkExternal d.externalClaim)
  let profile ← Fault.ofRejection (checkProfile d.profile)
  return { tier := tier, mode := mode, scores := scores, age := age, externalClaim := external,
           citation := citation, omission := omission, profile := profile }

end Draft

/-! ### Requests as drafts -/

namespace Request

/-- The value of an omission override: absent, or a truth value. -/
def omissionValue (o : OmissionOverride) : Value :=
  match o with
  | none => .null
  | some b => .bool b

/-- A request as the draft that asks for it. -/
def draft (r : Request) : Draft :=
  { tier := .text r.tier.name
    mode := .text r.mode.name
    scores := .map (r.scores.map fun s => (.text s.1, .float s.2))
    age := .counts (.int r.age.turns) (.int r.age.tokens)
    externalClaim := .bool r.externalClaim
    citation := .text r.citation.name
    omission := omissionValue r.omission
    profile := .text r.profile }

end Request

end ReflexPolicy

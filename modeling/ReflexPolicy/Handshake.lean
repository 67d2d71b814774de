import ReflexPolicy.Options
import ReflexPolicy.Policy.Unchecked

/-!
# Handshakes

A handshake is the part of a policy that travels with each request of a session.  Its confidence
may be raised by the caller but never lowered below the floor of its tier and mode.  Building a
handshake is strict: the first bad option is a fault.  Updating one is lenient: a bad value is
reported and the old one kept.
-/

namespace ReflexPolicy

/-- The part of a policy that travels with a request. -/
structure Handshake where
  mode : Mode
  tier : Tier
  minConfidence : Binary64
  citation : CitationOverride
  omission : OmissionOverride
  profile : Scalar
  codexVersion : Text

namespace Handshake

/-- The handshake on the wire. -/
def wire (h : Handshake) : Value :=
  .ofFields [("mode", .text h.mode.name),
    ("tier", .text h.tier.name),
    ("min_confidence", .float h.minConfidence),
    ("cite_policy", .text h.citation.name),
    ("omission_scan", match h.omission with
      | none => .text "auto"
      | some b => .bool b),
    ("reflex_profile", .scalar h.profile),
    ("codex_version", .text h.codexVersion)]

/-- The options of a handshake. -/
def optionNames : List Text :=
  ["mode", "tier", "min_confidence", "cite_policy", "omission_scan", "reflex_profile"]

/-- The value of an option, unless it is missing or absent. -/
def option? (options : Entries Text Value) (name : Text) : Option Value :=
  (Entries.get? options name).filter fun v => !v.isNull

/-- The confidence in a value: a number of `[0, 1]` that is not a truth value. -/
def confidence? (v : Value) : Option Binary64 :=
  match v.number? with
  | none => none
  | some n => match n.toBinary64? with
    | none => none
    | some x => if x.isUnit then some x else none

/-- The confidence that a caller gets: at least the floor, and at most one. -/
def enforce (c : Codex) (tier : Tier) (mode : Mode) (requested : Option Binary64) :
    Except Fault Binary64 := do
  let floor ← c.minConfidence tier mode
  match requested with
  | none => return floor
  | some x => return Binary64.min 1 (Binary64.max floor x)

/-- The value of an option that has to parse, or its default. -/
def optionOr {α : Type} (parse : Value → Except Rejection α) (v : Option Value) (default : α) :
    Except Fault α :=
  match v with
  | none => .ok default
  | some v => Fault.ofRejection (parse v)

/-- The value asks for the default omission override. -/
def leavesOmission : Option Value → Bool
  | none => true
  | some (.text s) => s == "auto"
  | some _ => false

/-- The confidence that the options ask for. -/
def requestedConfidence (v : Option Value) : Except Fault (Option Binary64) :=
  match v with
  | none => .ok none
  | some v => match confidence? v with
    | some x => .ok (some x)
    | none => .error (.rejected (.confidenceOutside v))

/-- Why an option cannot be used to build a handshake, if it cannot. -/
def optionFault? (name : Text) : Option Mismatch :=
  if name = "codex" then some (.optionTwice "build_handshake" name)
  else if optionNames.contains name then none
  else some (.unknownOption name)

/-- The handshake of the defaults of a codex and of some options. -/
def build (c : Codex) (options : Entries Text Value) : Except Fault Handshake := do
  match (Entries.keys options).findSome? optionFault? with
  | some m => throw (.mismatch m)
  | none => pure ()
  let defaults := c.handshakeDefaults
  let mode ← optionOr Mode.parse (option? options "mode") defaults.mode
  let tier ← optionOr Tier.parse (option? options "tier") defaults.tier
  let citation ← optionOr CitationOverride.parse (option? options "cite_policy")
    defaults.citation
  let asked := option? options "omission_scan"
  let omission ← if leavesOmission asked then .ok defaults.omission
    else optionOr OmissionOverride.parse asked defaults.omission
  let requested ← requestedConfidence (option? options "min_confidence")
  let named := (Entries.getD options "reflex_profile" .null)
  let wanted ← keyOf (if named.truthy then named else .text defaults.profile)
  let confidence ← enforce c tier mode requested
  return { mode := mode
           tier := tier
           minConfidence := confidence
           citation := citation
           omission := omission
           profile := if c.hasProfile wanted then wanted else .text defaultProfile
           codexVersion := c.version }

/-! ### Updates -/

/-- A value that was changed or kept, and what was wrong with the change. -/
structure Change (α : Type) where
  value : α
  reports : List Rejection

/-- A change to a value that parses; otherwise the value is kept and the change reported. -/
def change {α : Type} (parse : Value → Except Rejection α) (v : Option Value) (base : α) :
    Change α :=
  match v with
  | none => { value := base, reports := [] }
  | some v => match parse v with
    | .ok a => { value := a, reports := [] }
    | .error r => { value := base, reports := [r] }

/-- The names of the changes that are no options, sorted. -/
def unknownFields (changes : Entries Text Value) : List Text :=
  ((Entries.keys changes).filter fun k => !optionNames.contains k).mergeSort Text.beforeOrSame

/-- A change whose reports quote the value at once, which has to be one that can be written. -/
def Change.quoted {α : Type} (changed : Change α) : Except Fault (Change α) :=
  if changed.reports.all Rejection.isWritable then .ok changed else .error (.misuse .tooLong)

/-- A change of the profile, which has to be one of the codex. -/
def changeProfile (c : Codex) (v : Option Value) (base : Scalar) :
    Except Fault (Change Scalar) := do
  match v with
  | none => return { value := base, reports := [] }
  | some v =>
    let key ← keyOf v
    if c.hasProfile key then return { value := key, reports := [] }
    else Change.quoted { value := base, reports := [.unknownProfile v] }

/-- The confidence in a value, or why there is none. -/
def parseConfidence (v : Value) : Except Rejection Binary64 :=
  match confidence? v with
  | some x => .ok x
  | none => .error (.confidenceOutside v)

/-- The handshake after some changes, and what was wrong with them.  When the tier or the mode
changes and no confidence is given, the confidence is that of the new floor. -/
def update (c : Codex) (base : Handshake) (changes : Entries Text Value) :
    Except Fault (Handshake × List Rejection) := do
  match Options.clash? "update_handshake" ["codex", "base"] changes with
  | some m => throw (.mismatch m)
  | none => pure ()
  let unknown := (unknownFields changes).map Rejection.unknownField
  let mode := change Mode.parse (option? changes "mode") base.mode
  let tier := change Tier.parse (option? changes "tier") base.tier
  let citation := change CitationOverride.parse (option? changes "cite_policy") base.citation
  let omission := change OmissionOverride.parse (Entries.get? changes "omission_scan")
    base.omission
  let profile ← changeProfile c (option? changes "reflex_profile") base.profile
  let asked := option? changes "min_confidence"
  let confidence ← (change parseConfidence asked base.minConfidence).quoted
  let moved := tier.value ≠ base.tier ∨ mode.value ≠ base.mode
  let requested := if moved ∧ asked.isNone then none else some confidence.value
  let minConfidence ← enforce c tier.value mode.value requested
  return ({ mode := mode.value
            tier := tier.value
            minConfidence := minConfidence
            citation := citation.value
            omission := omission.value
            profile := profile.value
            codexVersion := c.version },
    unknown ++ mode.reports ++ tier.reports ++ citation.reports ++ omission.reports
      ++ profile.reports ++ confidence.reports)

/-- The wording of a report.  A value that cannot be written has been met when its word was read,
and what is reported is the fault of writing it. -/
def wording (report : Rejection) : Text := (Fault.rejected report).reported.message

end Handshake

end ReflexPolicy

import ReflexPolicy.Request.Basic

/-!
# Requests on the wire

A request travels as a mapping whose fields have several accepted spellings.  The first spelling
that is there is taken, whatever its value; a field that has none gets its default.
-/

namespace ReflexPolicy

/-- The value under the first of some spellings that is there. -/
def pick? (es : Entries Scalar Value) : List String → Option Value
  | [] => none
  | name :: rest => (Value.field? es name).or (pick? es rest)

/-- The spellings of the fields of a request. -/
structure Spellings where
  tier : List String
  mode : List String
  scores : List String
  age : List String
  turns : List String
  tokens : List String
  externalClaim : List String
  citation : List String
  omission : List String
  profile : List String

/-- The accepted spellings, the preferred one first. -/
def spellings : Spellings where
  tier := ["tier", "stakes"]
  mode := ["mode"]
  scores := ["scores"]
  age := ["contextAge", "context_age"]
  turns := ["turnsSinceRecap", "turns_since_recap"]
  tokens := ["tokensSinceRecap", "tokens_since_recap"]
  externalClaim := ["externalClaim", "external_claim"]
  citation := ["citationOverride", "citation_override", "citePolicyOverride"]
  omission := ["omissionOverride", "omission_override"]
  profile := ["profile", "reflexProfile", "reflex_profile"]

/-- The age in a field: a mapping with two counts.  Anything that counts as false is the age of a
session that has just begun. -/
def ageOfField (field : Option Value) : Except Rejection DraftAge :=
  match field with
  | none => .ok .fresh
  | some v =>
    if !v.truthy then .ok .fresh
    else match v with
      | .map es => .ok (.counts ((pick? es spellings.turns).getD (.int 0))
          ((pick? es spellings.tokens).getD (.int 0)))
      | _ => .error .ageNotMapping

namespace Draft

/-- The draft that a mapping writes. -/
def ofEntries (es : Entries Scalar Value) : Except Rejection Draft := do
  let tier := (pick? es spellings.tier).getD .null
  let mode := (pick? es spellings.mode).getD .null
  if tier.isNull then throw .tierMissing
  if mode.isNull then throw .modeMissing
  let age ← ageOfField (pick? es spellings.age)
  return { tier := tier
           mode := mode
           scores := (pick? es spellings.scores).getD (.map [])
           age := age
           externalClaim := (pick? es spellings.externalClaim).getD (.bool false)
           citation := (pick? es spellings.citation).getD (.text "auto")
           omission := (pick? es spellings.omission).getD .null
           profile := (pick? es spellings.profile).getD (.text "default") }

/-- The draft that a value writes. -/
def ofValue : Value → Except Rejection Draft
  | .map es => ofEntries es
  | _ => .error .inputNotMapping

end Draft

end ReflexPolicy

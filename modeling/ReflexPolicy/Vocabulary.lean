import ReflexPolicy.Rejection
import ReflexPolicy.Text.Blank
import ReflexPolicy.Text.Case

/-!
# The vocabulary of a policy

Risk tiers, modes, citation overrides, omission overrides and failure kinds: the words that a
policy is written in.  Each has a name, and all but the failure kinds are read leniently from any
value by the text it joins with: blanks around the word and its letter case do not matter.
-/

namespace ReflexPolicy

/-- The word that a text spells: without the blanks around it, in lower case.  A text with a
surrogate in it spells none. -/
def spelling? (t : Text) : Option (List Char) :=
  t.chars?.map fun cs => Text.lower (Text.strip cs)

/-! ### Risk tiers -/

/-- The risk of a request, which selects every threshold. -/
inductive Tier where
  | low
  | medium
  | high
  deriving DecidableEq

namespace Tier

/-- The tiers from the lowest risk to the highest. -/
def all : List Tier := [low, medium, high]

/-- The place of a tier in the order of risk. -/
def rank : Tier → Nat
  | low => 0
  | medium => 1
  | high => 2

/-- The name of a tier. -/
def name : Tier → String
  | low => "low"
  | medium => "medium"
  | high => "high"

/-- The tier that a text spells. -/
def ofText? (s : Text) : Option Tier :=
  all.find? fun t => spelling? s == some t.name.toList

/-- The tier that a value spells. -/
def parse (v : Value) : Except Rejection Tier :=
  match ofText? v.plain with
  | some t => .ok t
  | none => .error (.unknownTier v)

theorem rejection_of_parse {v : Value} {r : Rejection} (unread : parse v = .error r) :
  r = .unknownTier v
  := by
  rw [parse] at unread
  split at unread <;> cases unread
  rfl

end Tier

/-! ### Modes -/

/-- The strictness of an evaluation. -/
inductive Mode where
  | direct
  | careful
  | recap
  deriving DecidableEq

namespace Mode

/-- The modes. -/
def all : List Mode := [direct, careful, recap]

/-- The name of a mode. -/
def name : Mode → String
  | direct => "direct"
  | careful => "careful"
  | recap => "recap"

/-- The mode that a text spells; hyphens in front of the word are ignored. -/
def ofText? (s : Text) : Option Mode :=
  let word := (spelling? s).map fun cs => cs.dropWhile (· == '-')
  all.find? fun m => word == some m.name.toList

/-- The mode that a value spells. -/
def parse (v : Value) : Except Rejection Mode :=
  match ofText? v.plain with
  | some m => .ok m
  | none => .error (.unknownMode v)

theorem rejection_of_parse {v : Value} {r : Rejection} (unread : parse v = .error r) :
  r = .unknownMode v
  := by
  rw [parse] at unread
  split at unread <;> cases unread
  rfl

end Mode

/-! ### Overrides -/

/-- What a caller asks of the citation decision. -/
inductive CitationOverride where
  | off
  | auto
  | force
  deriving DecidableEq

namespace CitationOverride

/-- The citation overrides. -/
def all : List CitationOverride := [off, auto, force]

/-- The name of a citation override. -/
def name : CitationOverride → String
  | off => "off"
  | auto => "auto"
  | force => "force"

/-- The citation override that a text spells. -/
def ofText? (s : Text) : Option CitationOverride :=
  all.find? fun c => spelling? s == some c.name.toList

/-- The citation override that a value spells; an absent value leaves the decision alone. -/
def parse : Value → Except Rejection CitationOverride
  | .null => .ok auto
  | v => match ofText? v.plain with
    | some c => .ok c
    | none => .error (.unknownCitation v)

theorem rejection_of_parse {v : Value} {r : Rejection} (unread : parse v = .error r) :
  r = .unknownCitation v
  := by
  rw [parse.eq_def] at unread
  split at unread
  · cases unread
  · split at unread <;> cases unread
    rfl

end CitationOverride

/-- What a caller asks of the omission scan: to have it, not to have it, or nothing. -/
abbrev OmissionOverride := Option Bool

namespace OmissionOverride

/-- The words for each omission override. -/
def words : List (String × OmissionOverride) :=
  [("auto", none), ("true", some true), ("on", some true), ("yes", some true),
    ("false", some false), ("off", some false), ("no", some false)]

/-- The omission override that a text spells. -/
def ofText? (s : Text) : Option OmissionOverride :=
  (words.find? fun w => spelling? s == some w.1.toList).map Prod.snd

/-- The omission override that a value spells; a truth value is itself one. -/
def parse : Value → Except Rejection OmissionOverride
  | .null => .ok none
  | .bool b => .ok (some b)
  | v => match ofText? v.plain with
    | some o => .ok o
    | none => .error (.unknownOmission v)

theorem rejection_of_parse {v : Value} {r : Rejection} (unread : parse v = .error r) :
  r = .unknownOmission v
  := by
  rw [parse.eq_def] at unread
  split at unread
  · cases unread
  · cases unread
  · split at unread <;> cases unread
    rfl

end OmissionOverride

/-! ### Failure kinds -/

/-- How an answer of some confidence should degrade. -/
inductive FailureKind where
  | ok
  | hedge
  | refuse
  deriving DecidableEq

namespace FailureKind

/-- The failure kinds. -/
def all : List FailureKind := [ok, hedge, refuse]

/-- The name of a failure kind. -/
def name : FailureKind → String
  | ok => "ok"
  | hedge => "hedge"
  | refuse => "refuse"

/-- The failure kind of exactly this name. -/
def ofName? (s : Text) : Option FailureKind := all.find? fun k => s == k.name

end FailureKind

end ReflexPolicy

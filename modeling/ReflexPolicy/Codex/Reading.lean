import ReflexPolicy.Codex.Problem

/-!
# Readings

A reading of a part of a document gives a value together with the problems met on the way, so
that all problems of a document are found in one pass: `Reading.bind` appends the problems of the
second step to those of the first.  A reading is broken off only at a whole number that is too
large to be a binary64 number, or too long to be written where its text is needed.
-/

namespace ReflexPolicy

/-- Why a reading is broken off. -/
inductive BreakOff where
  /-- A whole number is beyond the binary64 format. -/
  | tooLarge
  /-- A whole number has too many digits to be written. -/
  | tooLong
  deriving DecidableEq

/-- A value read from a document, and the problems met on the way. -/
def Reading (α : Type) : Type := Except BreakOff (α × List Problem)

namespace Reading

variable {α β : Type}

/-- A value read without problems. -/
def pure (a : α) : Reading α := .ok (a, [])

/-- A reading that uses what another one read. -/
def bind (x : Reading α) (f : α → Reading β) : Reading β :=
  match x with
  | .error e => .error e
  | .ok (a, before) => match f a with
    | .error e => .error e
    | .ok (b, after) => .ok (b, before ++ after)

instance : Monad Reading where
  pure := pure
  bind := bind

/-- A problem is noted, in words. -/
def note (p : Problem) : Reading Unit :=
  if p.isWritable then .ok ((), [p]) else .error .tooLong

/-- A problem is noted if a condition fails. -/
def require (condition : Bool) (p : Problem) : Reading Unit :=
  if condition then pure () else note p

/-- A default is read in place of a value, and the problem noted. -/
def instead (default : α) (p : Problem) : Reading α := bind (note p) fun _ => pure default

/-- The readings of the items of a list, one after another. -/
def each (f : α → Reading β) : List α → Reading (List β)
  | [] => pure []
  | a :: as => bind (f a) fun b => bind (each f as) fun bs => pure (b :: bs)

end Reading

/-! ### Parts of a document -/

/-- The text that a value joins. -/
def readText (v : Value) : Reading Text :=
  if v.isWritable then .pure v.plain else .error .tooLong

/-- A number of `[0, 1]`. -/
def readUnit (place : Text) (default : Binary64) (v : Value) : Reading Binary64 :=
  match v.number? with
  | none => .instead default (.notNumber place v)
  | some n => match n.toBinary64? with
    | none => .error .tooLarge
    | some x => if x.isUnit then .pure x else .instead default (.outsideUnit place v)

/-- The section of a document that has to be there: a mapping. -/
def readSection (doc : Entries Scalar Value) (name : String) : Reading (Entries Scalar Value) :=
  match Value.field doc name with
  | .null => .instead [] (.sectionMissing name)
  | .map es => .pure es
  | _ => .instead [] (.sectionNotMapping name)

/-- The settings of a document that may be left out: a mapping, none when it is missing or
empty, or when it is anything else. -/
def readSettings (doc : Entries Scalar Value) (name : String) :
    Reading (Option (Entries Scalar Value)) :=
  let v := Value.field doc name
  if !v.truthy then .pure (some [])
  else match v with
    | .map es => .pure (some es)
    | _ => .instead none (.settingsNotMapping name)

/-- A word of some vocabulary. -/
def readWord {α : Type} (parse : Value → Except Rejection α) (place : Text) (v : Value) :
    Reading (Option α) :=
  match parse v with
  | .ok a => .pure (some a)
  | .error _ => .instead none (.unknownWord place v)

end ReflexPolicy

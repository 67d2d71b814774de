import ReflexPolicy.Codex.Basic
import ReflexPolicy.Value.Literal

/-!
# Telemetry

An event has a name and a payload.  Before it is sent, the fields that the codex hides are masked,
and the version of the codex and the time are added where they are missing.  A sink that fails
keeps that to itself: `emit` goes on with the state in which the sink was left.
-/

namespace ReflexPolicy

/-- An event that is announced or sent. -/
structure Event where
  name : Text
  payload : Entries Scalar Value

/-- The mask of a hidden field. -/
def redacted : Value := .text "[redacted]"

namespace Codex

/-- The field is one that the codex hides. -/
def hides (c : Codex) (key : Scalar) : Bool :=
  c.telemetry.redactFields.any fun name => key.same (.text name)

/-- The payload with the hidden fields masked. -/
def redact (c : Codex) (payload : Entries Scalar Value) : Entries Scalar Value :=
  payload.map fun e => (e.1, if c.hides e.1 then redacted else e.2)

end Codex

/-- The payload with a field added where it is missing. -/
def addMissing (payload : Entries Scalar Value) (name : String) (v : Value) :
    Entries Scalar Value :=
  if payload.has (.text name) then payload else payload ++ [(.text name, v)]

/-- The letters of a text as texts. -/
def lettersOf (t : Text) : List Value := t.letters.map fun l => .text ⟨[l]⟩

/-- The parts of a value that can be gone through: the items of a list, the letters of a text
and the keys of a mapping. -/
def partsOf? : Value → Option (List Value)
  | .list items => some items
  | .text s => some (lettersOf s)
  | .map es => some (es.map fun e => .scalar e.1)
  | _ => none

/-- The entry that a value with two parts writes. -/
def pairOf? (v : Value) : Option (Scalar × Value) :=
  match partsOf? v with
  | some [.scalar k, item] => some (k, item)
  | _ => none

/-- The entries that some values write. -/
def pairsOf? : List Value → Option (List (Scalar × Value))
  | [] => some []
  | v :: rest => do
    let e ← pairOf? v
    let es ← pairsOf? rest
    return e :: es

/-- The payload that a value stands for: a mapping, or parts that write entries. -/
def payloadOf? (v : Value) : Option (Entries Scalar Value) :=
  if !v.truthy then some []
  else match v with
    | .map es => some es
    | other => ((partsOf? other).bind pairsOf?).map Entries.ofList

namespace Codex

/-- The event as it is sent, if the codex sends events and the payload is one. -/
def outgoing? (c : Codex) (name : Text) (payload now : Value) : Option Event :=
  if c.telemetry.enabled then
    (payloadOf? payload).map fun es =>
      { name := name
        payload := addMissing (addMissing (c.redact es) "codex_version" (.text c.version))
          "timestamp" now }
  else none

end Codex

/-- A receiver of events with a state of its own.  It may fail, and may have changed its state
before that. -/
structure Sink (σ : Type) where
  receive : Event → σ → Except Text Unit × σ

/-- A sink that keeps the events. -/
def Sink.collecting : Sink (List Event) where
  receive e kept := (.ok (), kept ++ [e])

/-- A sink that always fails. -/
def Sink.failing {σ : Type} (message : Text) : Sink σ where
  receive _ state := (.error message, state)

/-- A sink that keeps one line for every event. -/
def Sink.logging : Sink (List Text) where
  receive e kept :=
    (.ok (), kept ++ ["[telemetry] " ++ e.name ++ " " ++ (Value.map e.payload).literal])

/-- The state of a sink, if there is one, after an event has been sent to it. -/
def emit {σ : Type} (c : Codex) (sink : Option (Sink σ)) (name : Text) (payload now : Value)
    (state : σ) : σ :=
  match sink, c.outgoing? name payload now with
  | some s, some e => (s.receive e state).2
  | _, _ => state

end ReflexPolicy

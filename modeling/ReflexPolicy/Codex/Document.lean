import ReflexPolicy.Codex.Sections
import ReflexPolicy.Codex.Version

/-!
# Codex documents

`Codex.ofValue` reads and validates a document.  The problems of its parts are listed in the
order of the parts: version, tiers, modes, reflexes, profiles, context decay, handshake defaults,
failure semantics and telemetry.
-/

namespace ReflexPolicy.Codex

/-- The version of a document. -/
def readVersion (doc : Entries Scalar Value) : Reading Text := do
  let version ← readText (Value.fieldD doc "codex_version" (.text ""))
  Reading.require (isVersion version) (.notSemver version)
  return version

/-- The date of a document, which may be any value. -/
def dateOf (doc : Entries Scalar Value) : Value := Value.fieldD doc "codex_date" (.text "")

/-- The description of a document, which may be any value. -/
def descriptionOf (doc : Entries Scalar Value) : Value :=
  Value.fieldD doc "description" (.text "")

/-- A codex, and the problems of the document it is read from. -/
def read (doc : Entries Scalar Value) : Reading Codex := do
  let version ← readVersion doc
  let tiers ← readTiers doc
  let modes ← readModes doc
  let reflexes ← readReflexes doc
  let profiles ← readProfiles doc (Entries.keys reflexes)
  let contextDecay ← readContextDecay doc
  let handshakeDefaults ← readHandshakeDefaults doc (Entries.keys profiles)
  let failureSemantics ← readFailureSemantics doc
  let telemetry ← readTelemetry doc
  return { version := version
           date := (dateOf doc).plain
           description := (descriptionOf doc).plain
           reflexes := reflexes
           tiers := tiers
           modes := modes
           profiles := profiles
           contextDecay := contextDecay
           omissionOverridesAllowed := allowsOmissionOverrides doc
           handshakeDefaults := handshakeDefaults
           failureSemantics := failureSemantics
           telemetry := telemetry }

/-- The codex of a document without problems.  Its date and its description are written last, when
no problem stands in the way. -/
def ofEntries (doc : Entries Scalar Value) : Except Fault Codex :=
  match read doc with
  | .error .tooLarge => .error .tooLarge
  | .error .tooLong => .error (.misuse .tooLong)
  | .ok (codex, []) =>
    if (dateOf doc).isWritable && (descriptionOf doc).isWritable then .ok codex
    else .error (.misuse .tooLong)
  | .ok (_, problems) => .error (.invalidCodex problems)

/-- The codex that a value is the document of. -/
def ofValue : Value → Except Fault Codex
  | .map doc => ofEntries doc
  | _ => .error (.invalidCodex [.notMapping])

end ReflexPolicy.Codex

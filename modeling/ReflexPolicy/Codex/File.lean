import ReflexPolicy.Codex.Document
import ReflexPolicy.Codex.Shipped
import ReflexPolicy.File
import ReflexPolicy.Yaml.Document

/-!
# Codex files

A codex is loaded from the YAML file at a path.  The path is the one that is asked for, or else
the one that the environment names; if neither is given, the shipped document is used.
-/

namespace ReflexPolicy.Codex

/-- Where a codex comes from. -/
inductive Source where
  | shipped
  | path (p : String)
  deriving DecidableEq

/-- The source that is asked for, or else the one that the environment names. -/
def chooseSource (asked environment : Option String) : Source :=
  match ([asked, environment].filterMap id).find? (· != "") with
  | some p => .path (File.plainPath p)
  | none => .shipped

/-- The codex that a supply of YAML writes; one whose value counts as false is an empty document.
The path is the one that faults name. -/
def ofSupply (path : String) (s : Yaml.Supply) : Except Fault Codex :=
  match Yaml.read s with
  | .ok v => ofValue (if v.truthy then v else .map [])
  | .error .malformed => .error (.invalidCodex [.notYaml path])
  | .error (.unusable cause) => .error cause

/-- The codex that a YAML text writes. -/
def ofText (path : String) (cs : List Char) : Except Fault Codex :=
  ofSupply path (Yaml.Supply.ofText cs)

/-- The codex that the bytes of a file write. -/
def ofBytes (path : String) (bytes : List UInt8) : Except Fault Codex :=
  ofSupply path (Yaml.Supply.ofBytes bytes)

/-- The codex of a source. -/
def load (files : Directory) : Source → Except Fault Codex
  | .shipped => ofText "codex.yaml" shippedText
  | .path p => match File.bytesAt files p with
    | .ok bytes => ofBytes p bytes
    | .error (.unreadable _ fault) => .error (.invalidCodex [.unreadable p (fault.message p)])
    | .error fault => .error fault

end ReflexPolicy.Codex

import ReflexPolicy.CommandLine.Run
import Std.Time

/-!
# The program

`main` reads the files that the command line asks for, lets `CommandLine.run` conclude, and shows
the conclusion.  No connection to a model is made, so a run that asks for one goes on without it.
-/

namespace ReflexPolicy.CommandLine

/-- The file fault that an error of the system is. -/
def faultOfSystem : IO.Error → FileFault
  | .permissionDenied .. => .notPermitted
  | .inappropriateType _ code _ => if code == 21 then .isDirectory else .notDirectory
  | .invalidArgument _ code _ => if code == 36 then .nameTooLong else .missing
  | _ => .missing

/-- What stands at a path. -/
def readPath (path : String) : IO (Except FileFault (List UInt8)) := do
  try
    return .ok (← IO.FS.readBinFile path).toList
  catch e =>
    return .error (faultOfSystem e)

/-- What stands at some paths. -/
def readPaths : List String → IO (List (String × Except FileFault (List UInt8)))
  | [] => return []
  | path :: rest => do
    let found ← readPath path
    return (path, found) :: (← readPaths rest)

/-- The files that have been read, as a directory. -/
def directoryOf (found : List (String × Except FileFault (List UInt8))) : Directory := fun path =>
  Entries.getD found path (.error .missing)

/-- The paths that a command line asks for; none if it is misread. -/
def pathsOf (arguments : List String) (codexPath : Option String) : List String :=
  match Settings.read arguments with
  | .ok s => s.paths codexPath
  | .error _ => []

/-- The seconds since the epoch. -/
def secondsNow : IO Value := do
  let elapsed := (← Std.Time.Timestamp.now).toNanosecondsSinceUnixEpoch.val
  return .float (Decimal.toBinary64 (decide (elapsed < 0)) ⟨elapsed.natAbs, -9⟩)

/-- What a run of some arguments finds around it. -/
def worldOf (arguments : List String) : IO World := do
  let codexPath ← IO.getEnv "REFLEX_GATE_CODEX"
  let found ← readPaths (pathsOf arguments codexPath)
  return { files := directoryOf found
           codexPath := codexPath
           model := ← IO.getEnv "REFLEX_GATE_MODEL"
           key := ← IO.getEnv "ANTHROPIC_API_KEY"
           connect := fun _ => none
           now := ← secondsNow }

/-- A text as it is shown: a surrogate, which no stream takes, by its escape. -/
def shown (t : Text) : String :=
  String.ofList (t.letters.flatMap fun
    | .char c => [c]
    | .surrogate n => Text.escapeLetter '"' (.surrogate n))

/-- The lines of a log, shown with the time. -/
def showLog : List Text → IO Unit
  | [] => return
  | line :: rest => do
    let time := (← Std.Time.PlainDateTime.now).format "uuuu-MM-dd HH:mm:ss,SSS"
    IO.eprintln (time ++ " reflex_gate.telemetry INFO " ++ shown line)
    showLog rest

/-- A conclusion is shown; the result is the code of the program. -/
def showConclusion : Except Fault Conclusion → IO UInt32
  | .ok conclusion => do
    IO.print (shown conclusion.output)
    IO.eprint (shown conclusion.complaint)
    return UInt32.ofNat conclusion.code
  | .error fault => do
    IO.eprintln (shown fault.message)
    return 1

end ReflexPolicy.CommandLine

/-- The program. -/
def main (arguments : List String) : IO UInt32 := do
  let world ← ReflexPolicy.CommandLine.worldOf arguments
  let (conclusion, log) := ReflexPolicy.CommandLine.run world arguments
  ReflexPolicy.CommandLine.showLog log
  ReflexPolicy.CommandLine.showConclusion conclusion

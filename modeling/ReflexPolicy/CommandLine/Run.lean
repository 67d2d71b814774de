import ReflexPolicy.Codex.File
import ReflexPolicy.CommandLine.Help
import ReflexPolicy.CommandLine.Settings
import ReflexPolicy.Handshake
import ReflexPolicy.Lexicon.Registry
import ReflexPolicy.Report
import ReflexPolicy.Semantic.Scorer

/-!
# Runs of the program

`run` is what the program does with a command line: it loads the codex, evaluates scores that are
given or analyzes a text, and reports the outcome.  Faults of the codex, of the input and of its
files are shown as complaints; any other fault breaks the run.
-/

namespace ReflexPolicy.CommandLine

/-- What a run finds around it. -/
structure World where
  files : Directory
  /-- The path of the codex that the environment names. -/
  codexPath : Option String
  /-- The model that the environment names. -/
  model : Option String
  /-- The key to the models that the environment holds. -/
  key : Option String
  /-- The connection that a key gives. -/
  connect : Value → Option Client
  /-- The time that events are given. -/
  now : Value

/-- How a run ends. -/
inductive Conclusion where
  | reported (report : Text)
  | complained (fault : Fault)
  | misread (cause : Misread)
  | helped

namespace Conclusion

/-- The code that a run ends with. -/
def code : Conclusion → Nat
  | reported _ => 0
  | complained _ => 2
  | misread _ => 2
  | helped => 0

/-- What a run shows as its output. -/
def output : Conclusion → Text
  | reported report => report ++ "\n"
  | helped => helpText
  | _ => ""

/-- What a run shows as its complaint. -/
def complaint : Conclusion → Text
  | complained fault => "error: " ++ fault.message ++ "\n"
  | misread cause => cause.complaint
  | _ => ""

end Conclusion

/-- A value for a text that may be missing. -/
def valueOfText? : Option String → Value
  | some s => .text s
  | none => .null

/-- The text, if it is there and not empty. -/
def nonempty? (s : Option String) : Option String := s.filter (· != "")

namespace Settings

/-- The paths of the files that the settings ask for. -/
def paths (s : Settings) (codexPath : Option String) : List String :=
  let ofCodex := match Codex.chooseSource s.codex codexPath with
    | .path p => [p]
    | .shipped => []
  ofCodex ++ [s.scores, s.file].filterMap nonempty?

/-- The tier of a run. -/
def tierFor (s : Settings) (c : Codex) : Tier := s.tier.getD c.handshakeDefaults.tier

/-- The mode of a run. -/
def modeFor (s : Settings) (c : Codex) : Mode := s.mode.getD c.handshakeDefaults.mode

/-- The profile of a run. -/
def profileFor (s : Settings) (c : Codex) : Text :=
  ((nonempty? s.profile).map Text.ofString).getD c.handshakeDefaults.profile

/-- The draft of a run, for some scores. -/
def draft (s : Settings) (c : Codex) (scores : Value) : Draft where
  tier := .text (s.tierFor c).name
  mode := .text (s.modeFor c).name
  scores := scores
  age := .counts s.turns s.tokens
  externalClaim := .bool s.externalClaim
  citation := s.citation
  omission := .null
  profile := .text (s.profileFor c)

/-- The handshake of a run that asks a model. -/
def handshake (s : Settings) (c : Codex) : Except Fault Handshake :=
  Handshake.build c [("mode", .text (s.modeFor c).name), ("tier", .text (s.tierFor c).name),
    ("cite_policy", s.citation), ("reflex_profile", .text (s.profileFor c))]

/-- The scorer of a run that asks a model. -/
def scorer (s : Settings) (c : Codex) (world : World) : Except Fault Scorer := do
  let h ← s.handshake c
  return { catalogue := c.reflexes.map fun e => (e.1, .text e.2.label)
           session := (h.wire.entries?).getD []
           model := Scorer.chooseModel .null (valueOfText? world.model)
           client := Scorer.chooseClient none [valueOfText? world.key] world.connect }

/-- The detectors of a run: the registered ones, and a model if it is asked for. -/
def detectors (s : Settings) (c : Codex) (world : World) : Except Fault (List Detector) := do
  let lexical := LexicalDetector.registered.map LexicalDetector.detector
  if s.semantic then return lexical ++ [(← s.scorer c world).detector] else return lexical

/-- The sink of a run, which keeps lines for a log. -/
def sink (s : Settings) : Option (Sink (List Text)) :=
  if s.verbose then some Sink.logging else none

end Settings

/-! ### Outcomes -/

/-- Why a run comes to no outcome. -/
inductive Stop where
  | misread (cause : Misread)
  | fault (cause : Fault)

/-- The scores in a file. -/
def scoresIn (files : Directory) (path : String) : Except Fault Value := do
  match Json.read (← File.textAt files path) with
  | .ok v => return v
  | .error .malformed => throw (.misuse .notJson)
  | .error (.tooManyDigits count) => throw (.misuse (.tooManyDigits count))

/-- The text that a run analyzes: the one given, or that of the file. -/
def textFor (files : Directory) (s : Settings) : Except Stop String :=
  match s.text, nonempty? s.file with
  | some text, _ => .ok text
  | none, some path => match File.textAt files path with
    | .ok cs => .ok (String.ofList cs)
    | .error fault => .error (.fault fault)
  | none, none => .error (.misread .nothingToAnalyze)

/-- The outcome of a run, with the findings if a text is analyzed, and the lines of its log. -/
abbrev Evaluated := Except Stop (Outcome × Option (List Finding)) × List Text

/-- The outcome of the scores in a file. -/
def evaluateFile (world : World) (c : Codex) (s : Settings) (path : String) : Evaluated :=
  match scoresIn world.files path with
  | .error fault => (.error (.fault fault), [])
  | .ok scores => match c.evaluateWith (s.draft c scores) s.sink world.now [] with
    | (.error fault, log) => (.error (.fault fault), log)
    | (.ok outcome, log) => (.ok (outcome, none), log)

/-- The outcome of a text. -/
def analyzeText (world : World) (c : Codex) (s : Settings) : Evaluated :=
  match textFor world.files s with
  | .error stop => (.error stop, [])
  | .ok text => match s.detectors c world with
    | .error fault => (.error (.fault fault), [])
    | .ok ds => match c.analyze text ds (s.draft c (.map [])) s.sink world.now [] with
      | (.error fault, log) => (.error (.fault fault), log)
      | (.ok (outcome, findings), log) => (.ok (outcome, some findings), log)

/-- The outcome that the settings ask for. -/
def outcomeOf (world : World) (c : Codex) (s : Settings) : Evaluated :=
  match nonempty? s.scores with
  | some path => evaluateFile world c s path
  | none => analyzeText world c s

/-- The report on an outcome, in the form that the settings ask for. -/
def report (c : Codex) (s : Settings) (outcome : Outcome) (findings : Option (List Finding)) :
    Except Fault Text :=
  if s.json then (Report.json outcome.sheet findings).map Text.ofString
  else Report.text c outcome.sheet (findings.getD [])

/-! ### Whole runs -/

/-- The fault of a codex is shown as a complaint. -/
def complainsOfCodex : Fault → Bool
  | .rejected _ => true
  | .invalidCodex _ => true
  | _ => false

/-- The fault of an input is shown as a complaint: all but those of a value that is too large or
of the wrong kind. -/
def complainsOfInput : Fault → Bool
  | .tooLarge => false
  | .mismatch _ => false
  | _ => true

/-- The conclusion of a run that is stopped; a fault that is no complaint breaks the run. -/
def Stop.conclusion (complains : Fault → Bool) : Stop → Except Fault Conclusion
  | misread cause => .ok (.misread cause)
  | fault cause => if complains cause then .ok (.complained cause) else .error cause

/-- The conclusion of a run with a codex, and the lines of its log. -/
def runWith (world : World) (s : Settings) (c : Codex) : Except Fault Conclusion × List Text :=
  match outcomeOf world c s with
  | (.error stop, log) => (stop.conclusion complainsOfInput, log)
  | (.ok (outcome, findings), log) => ((report c s outcome findings).map .reported, log)

/-- The conclusion of a run with settings, and the lines of its log. -/
def runSettings (world : World) (s : Settings) : Except Fault Conclusion × List Text :=
  match Codex.load world.files (Codex.chooseSource s.codex world.codexPath) with
  | .error fault => ((Stop.fault fault).conclusion complainsOfCodex, [])
  | .ok c => runWith world s c

/-- The conclusion of a run, and the lines of its log. -/
def run (world : World) (arguments : List String) : Except Fault Conclusion × List Text :=
  match Settings.read arguments with
  | .error .help => (.ok .helped, [])
  | .error (.misread cause) => (.ok (.misread cause), [])
  | .ok s => runSettings world s

end ReflexPolicy.CommandLine

import ReflexPolicy.CommandLine.Piece
import ReflexPolicy.Json.Reader
import ReflexPolicy.Vocabulary

/-!
# Settings

`Settings.read` goes through the pieces of a command line from left to right and settles what each
of them asks for.  A switch that takes a value and carries none takes the word behind it; the first
other word names the file; whatever is left over is reported at the end.  A switch that carries a
double hyphen is given the empty list, which counts as no value where a missing one is allowed.
-/

namespace ReflexPolicy.CommandLine

/-- What a command line asks for. -/
structure Settings where
  file : Option String
  text : Option String
  scores : Option String
  codex : Option String
  tier : Option Tier
  mode : Option Mode
  profile : Option String
  citation : Value
  externalClaim : Bool
  turns : Value
  tokens : Value
  semantic : Bool
  json : Bool
  verbose : Bool

/-- The settings of an empty command line. -/
def Settings.default : Settings where
  file := none
  text := none
  scores := none
  codex := none
  tier := none
  mode := none
  profile := none
  citation := .text CitationOverride.auto.name
  externalClaim := false
  turns := .int 0
  tokens := .int 0
  semantic := false
  json := false
  verbose := false

/-- Why the reading of a command line ends early. -/
inductive Halt where
  | help
  | misread (cause : Misread)

/-! ### Whole numbers -/

/-- A blank that may stand around a number: any but the separator controls. -/
def isPadding (c : Char) : Bool := Text.isBlank c && !(0x1C ≤ c.toNat && c.toNat ≤ 0x1F)

/-- The digits of a number; a single underscore may stand between two of them. -/
def digitsOf? : List Char → Option (List Nat)
  | [] => none
  | [c] => (Text.digitValue? c).map fun d => [d]
  | c :: '_' :: rest => do
    let d ← Text.digitValue? c
    return d :: (← digitsOf? rest)
  | c :: rest => do
    let d ← Text.digitValue? c
    return d :: (← digitsOf? rest)

/-- The number of a run of digits that is not too long. -/
def natural? (cs : List Char) : Option Nat :=
  match digitsOf? cs with
  | none => none
  | some ds =>
    if Number.digitLimit < ds.length then none else some (ds.foldl (fun n d => 10 * n + d) 0)

/-- The whole number that a word writes. -/
def integer? (s : String) : Option Int :=
  match Text.trimEnd isPadding (s.toList.dropWhile isPadding) with
  | '-' :: body => (natural? body).map fun n => -(n : Int)
  | '+' :: body => (natural? body).map fun n => (n : Int)
  | body => (natural? body).map fun n => (n : Int)

namespace Settings

/-! ### Single switches -/

/-- The whole number that is given to a switch. -/
def wholeFor (s : Switch) (value : String) : Except Misread Int :=
  match integer? value with
  | some n => .ok n
  | none => .error (.notWhole s value)

/-- The one of some named things whose name is given to a switch. -/
def oneFor {α : Type} (s : Switch) (all : List α) (name : α → String) (value : String) :
    Except Misread α :=
  match all.find? fun a => name a == value with
  | some a => .ok a
  | none => .error (.notOneOf s value (all.map name))

/-- The settings after a switch with a value. -/
def assign (settings : Settings) (s : Switch) (value : String) : Except Misread Settings :=
  match s with
  | .text => .ok { settings with text := some value }
  | .scores => .ok { settings with scores := some value }
  | .codex => .ok { settings with codex := some value }
  | .tier => do
    return { settings with tier := some (← oneFor s Tier.all Tier.name value) }
  | .mode => do
    return { settings with mode := some (← oneFor s Mode.all Mode.name value) }
  | .profile => .ok { settings with profile := some value }
  | .cite => do
    let citation ← oneFor s CitationOverride.all CitationOverride.name value
    return { settings with citation := .text citation.name }
  | .turns => do return { settings with turns := .int (← wholeFor s value) }
  | .tokens => do return { settings with tokens := .int (← wholeFor s value) }
  | _ => .ok settings

/-- The settings after a switch that is given the empty list. -/
def assignNothing (settings : Settings) (s : Switch) : Settings :=
  match s with
  | .text => { settings with text := some "" }
  | .scores => { settings with scores := none }
  | .codex => { settings with codex := none }
  | .tier => { settings with tier := none }
  | .mode => { settings with mode := none }
  | .profile => { settings with profile := none }
  | .cite => { settings with citation := .list [] }
  | .turns => { settings with turns := .list [] }
  | .tokens => { settings with tokens := .list [] }
  | _ => settings

/-- The settings after a switch without a value; a call for help ends the reading. -/
def turnOn (settings : Settings) (s : Switch) : Except Halt Settings :=
  match s with
  | .help => .error .help
  | .externalClaim => .ok { settings with externalClaim := true }
  | .semantic => .ok { settings with semantic := true }
  | .json => .ok { settings with json := true }
  | .verbose => .ok { settings with verbose := true }
  | _ => .ok settings

/-- The settings after several switches without values. -/
def turnAllOn (settings : Settings) : List Switch → Except Halt Settings
  | [] => .ok settings
  | s :: rest => do
    let next ← settings.turnOn s
    next.turnAllOn rest

/-- A short switch and the ones that are spelled by the characters behind it. -/
def chain (s : Switch) : List Char → Except Misread (List Switch)
  | [] => .ok [s]
  | c :: rest => match Switch.ofSpelling? ['-', c] with
    | some next => (chain next rest).map (s :: ·)
    | none => .error (.valueUnused s (String.ofList (c :: rest)))

/-- The switches without values that an argument spells: a long one carries nothing, a short one
carries nothing or the characters of others. -/
def switchesOf (s : Switch) (short : Bool) (carried : Option (List Char)) :
    Except Misread (List Switch) :=
  match carried with
  | none => .ok [s]
  | some [] => .error (.valueUnused s "")
  | some cs => if short then chain s cs else .error (.valueUnused s (String.ofList cs))

/-- A misread command line ends the reading. -/
def ofMisread {α : Type} : Except Misread α → Except Halt α
  | .ok a => .ok a
  | .error cause => .error (.misread cause)

/-- The settings after a switch that carries its value. -/
def assignCarried (settings : Settings) (s : Switch) (value : List Char) :
    Except Misread Settings :=
  if value == ['-', '-'] then .ok (settings.assignNothing s)
  else settings.assign s (String.ofList value)

end Settings

/-! ### Whole command lines -/

/-- How far the reading of a command line has come. -/
structure Progress where
  settings : Settings
  /-- The switch that waits for its value. -/
  waiting : Option Switch
  /-- The piece before was the name of the file. -/
  besideFile : Bool
  /-- The arguments that are left over. -/
  left : List String

namespace Progress

/-- Nothing has been read. -/
def start : Progress where
  settings := Settings.default
  waiting := none
  besideFile := false
  left := []

/-- One more argument is left over. -/
def leave (p : Progress) (given : String) : Progress :=
  { p with besideFile := false, left := p.left ++ [given] }

/-- The switches of a piece have been read, and one may wait for its value. -/
def settle (p : Progress) (settings : Settings) (waiting : Option Switch) : Progress :=
  { p with settings := settings, waiting := waiting, besideFile := false }

/-- A word that is no value: the name of the file, or left over. -/
def takeWord (p : Progress) (given : String) : Progress :=
  match p.settings.file with
  | none => { p with settings := { p.settings with file := some given }, besideFile := true }
  | some _ => p.leave given

/-- The double hyphen: it belongs to the name of the file right before or behind it. -/
def takeMark (p : Progress) (given : String) : Progress :=
  if p.settings.file.isNone || p.besideFile then { p with besideFile := false }
  else p.leave given

/-- A switch, with the value that its argument carries. -/
def takeSwitch (p : Progress) (s : Switch) (short : Bool) (carried : Option (List Char)) :
    Except Halt Progress :=
  if s.takesValue then
    match carried with
    | some value => do
      let settings ← Settings.ofMisread (p.settings.assignCarried s value)
      return p.settle settings none
    | none => .ok (p.settle p.settings (some s))
  else do
    let switches ← Settings.ofMisread (Settings.switchesOf s short carried)
    return p.settle (← p.settings.turnAllOn switches) none

/-- The next piece.  A switch that waits for its value takes a word and nothing else. -/
def take (p : Progress) (given : String × Piece) : Except Halt Progress :=
  match p.waiting, given with
  | some s, (value, .word) => do
    return p.settle (← Settings.ofMisread (p.settings.assign s value)) none
  | some s, _ => .error (.misread (.valueMissing s))
  | none, (word, .word) => .ok (p.takeWord word)
  | none, (mark, .mark) => .ok (p.takeMark mark)
  | none, (stranger, .stranger) => .ok (p.leave stranger)
  | none, (_, .switch s short carried) => p.takeSwitch s short carried

/-- The settings when all pieces have been read. -/
def finish (p : Progress) : Except Halt Settings :=
  match p.waiting, p.left with
  | some s, _ => .error (.misread (.valueMissing s))
  | none, [] => .ok p.settings
  | none, left => .error (.misread (.unrecognized left))

end Progress

/-- The settings that a command line asks for. -/
def Settings.read (arguments : List String) : Except Halt Settings := do
  let pieces ← Settings.ofMisread (classifyAll arguments)
  let last ← pieces.foldlM Progress.take Progress.start
  last.finish

end ReflexPolicy.CommandLine

import ReflexPolicy.Text.Quoted

/-!
# Switches

The switches of the command line, their spellings, and the ways in which a command line is
misread.  A switch either stands alone or takes one value.
-/

namespace ReflexPolicy.CommandLine

/-- A switch of the command line. -/
inductive Switch where
  | help
  | text
  | scores
  | codex
  | tier
  | mode
  | profile
  | cite
  | externalClaim
  | turns
  | tokens
  | semantic
  | json
  | verbose
  deriving DecidableEq

namespace Switch

/-- The switches in the order in which they are listed. -/
def all : List Switch :=
  [help, text, scores, codex, tier, mode, profile, cite, externalClaim, turns, tokens, semantic,
    json, verbose]

/-- The spellings of a switch. -/
def spellings : Switch → List String
  | help => ["-h", "--help"]
  | text => ["--text"]
  | scores => ["--scores"]
  | codex => ["--codex"]
  | tier => ["--tier"]
  | mode => ["--mode"]
  | profile => ["--profile"]
  | cite => ["--cite"]
  | externalClaim => ["--external-claim"]
  | turns => ["--turns"]
  | tokens => ["--tokens"]
  | semantic => ["--semantic"]
  | json => ["--json"]
  | verbose => ["-v", "--verbose"]

/-- The switch takes a value. -/
def takesValue : Switch → Bool
  | help | externalClaim | semantic | json | verbose => false
  | _ => true

/-- The title of a switch: its spellings between slashes. -/
def title (s : Switch) : String := String.intercalate "/" s.spellings

/-- Every spelling with its switch, in order. -/
def spelled : List (List Char × Switch) :=
  all.flatMap fun s => s.spellings.map fun w => (w.toList, s)

/-- The switch of a spelling. -/
def ofSpelling? (cs : List Char) : Option Switch :=
  (spelled.find? fun e => e.1 == cs).map Prod.snd

end Switch

/-- Why a command line is not understood. -/
inductive Misread where
  | ambiguous (given : String) (candidates : List String)
  | valueMissing (s : Switch)
  | valueUnused (s : Switch) (value : String)
  | notWhole (s : Switch) (value : String)
  | notOneOf (s : Switch) (value : String) (words : List String)
  | unrecognized (arguments : List String)
  | nothingToAnalyze
  deriving DecidableEq

namespace Misread

/-- The beginning of a message about a switch. -/
def about (s : Switch) : String := "argument " ++ s.title ++ ": "

/-- The wording of a misread command line. -/
def message : Misread → String
  | ambiguous given candidates =>
    "ambiguous option: " ++ given ++ " could match " ++ String.intercalate ", " candidates
  | valueMissing s => about s ++ "expected one argument"
  | valueUnused s value => about s ++ "ignored explicit argument " ++ quote value
  | notWhole s value => about s ++ "invalid int value: " ++ quote value
  | notOneOf s value words =>
    about s ++ "invalid choice: " ++ quote value ++ " (choose from "
      ++ String.intercalate ", " (words.map fun (w : String) => quote w) ++ ")"
  | unrecognized arguments => "unrecognized arguments: " ++ String.intercalate " " arguments
  | nothingToAnalyze => "provide input_file, --text or --scores"

end Misread

end ReflexPolicy.CommandLine

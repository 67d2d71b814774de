import ReflexPolicy.CommandLine.Switch

/-!
# Help

The summary of the command line that goes before a complaint about it, and the explanation of all
switches.
-/

namespace ReflexPolicy.CommandLine

/-- The name of the program. -/
def programName : String := "reflex-gate"

/-- The lines of the summary. -/
def usageLines : List String := [
  "usage: reflex-gate [-h] [--text TEXT] [--scores SCORES] [--codex CODEX]",
  "                   [--tier \x7blow,medium,high\x7d] [--mode \x7bdirect,careful,recap\x7d]",
  "                   [--profile PROFILE] [--cite \x7boff,auto,force\x7d]",
  "                   [--external-claim] [--turns TURNS] [--tokens TOKENS]",
  "                   [--semantic] [--json] [-v]",
  "                   [input_file]"]

/-- The lines of the explanation. -/
def explanationLines : List String := [
  "",
  "Reflex Gate - reflex policy evaluation",
  "",
  "positional arguments:",
  "  input_file            File containing the text to analyze",
  "",
  "options:",
  "  -h, --help            show this help message and exit",
  "  --text TEXT           Text to analyze (instead of a file)",
  "  --scores SCORES       JSON file of precomputed \x7breflex_id: score\x7d; skips",
  "                        detectors",
  "  --codex CODEX         Codex YAML path (default: $REFLEX_GATE_CODEX or",
  "                        config/codex.yaml)",
  "  --tier \x7blow,medium,high\x7d",
  "  --mode \x7bdirect,careful,recap\x7d",
  "  --profile PROFILE     Reflex firing-order profile",
  "  --cite \x7boff,auto,force\x7d",
  "                        Citation override (default: auto)",
  "  --external-claim      The text makes claims about the outside world",
  "  --turns TURNS         Turns since last recap",
  "  --tokens TOKENS       Tokens since last recap",
  "  --semantic            Also score with the model-backed detector (needs",
  "                        ANTHROPIC_API_KEY)",
  "  --json                Output as JSON",
  "  -v, --verbose         Log telemetry events"]

/-- Lines as a text, each with its end. -/
def textOfLines (lines : List String) : String := String.join (lines.map (· ++ "\n"))

/-- The text that a call for help shows. -/
def helpText : String := textOfLines (usageLines ++ explanationLines)

/-- The complaint about a misread command line. -/
def Misread.complaint (m : Misread) : String :=
  textOfLines (usageLines ++ [programName ++ ": error: " ++ m.message])

end ReflexPolicy.CommandLine

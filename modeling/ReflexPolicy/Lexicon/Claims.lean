import ReflexPolicy.Lexicon.Basic

/-!
# Claims that outrun their evidence

The lexicons of implausible claims, of claims without data and of false precision.
-/

namespace ReflexPolicy.Lexicon

open Pattern

/-! ### Implausible claims -/

/-- The claim that the world is flat. -/
def flatEarth : Cue where
  pattern := delimited (inOrder [words "the ", wordsOf "world" ["earth"], words " is flat"])
  score := 0.95
  label := "Factually implausible claim"
  rationale := "Contradicts established scientific consensus"

/-- The claim that the moon is made of cheese. -/
def cheeseMoon : Cue where
  pattern := delimited (words "the moon is made of cheese")
  score := 0.95
  label := "Factually implausible claim"
  rationale := "Contradicts established scientific consensus"

/-- The claim that vaccines cause autism. -/
def vaccineHarm : Cue where
  pattern := delimited (words "vaccines cause autism")
  score := 0.95
  label := "Factually implausible claim"
  rationale := "Repeats a claim refuted by large-scale studies"

/-- The claim that climate change is a hoax. -/
def climateHoax : Cue where
  pattern := delimited (words "climate change is a hoax")
  score := 0.95
  label := "Factually implausible claim"
  rationale := "Contradicts established scientific consensus"

/-- The claim that the earth is young. -/
def youngEarth : Cue where
  pattern := delimited
    (inOrder [words "earth is only ", run .digit 1 none, words " years old"])
  score := 0.95
  label := "Factually implausible claim"
  rationale := "Contradicts geological and astronomical dating"

/-- The demand that others disprove a claim. -/
def burdenReversal : Cue where
  pattern := oneOf
    (inOrder [words "until ", run .notNewline 0 (some 40), words "prove ",
      optional (words "me "), words "otherwise"])
    [words "prove me wrong", words "burden of proof is on you"]
  score := 0.85
  label := "Burden of proof reversal"
  rationale := "Demands others disprove the claim instead of supporting it"

/-- Common knowledge about what nobody can know. -/
def speculativeConsensus : Cue where
  pattern := inOrder [words "everyone knows that ", run .notNewline 0 (some 60), boundary,
    wordsOf "aliens" ["telepathy", "psychic"]]
  score := 0.75
  label := "Consensus fallacy on speculative claim"
  rationale := "Claims universal agreement on an unverifiable topic"

/-- Sources without a name. -/
def namelessSource : Cue where
  pattern := inOrder [words "according to ", wordsOf "unnamed" ["anonymous"], words " sources"]
  score := 0.65
  label := "Unverifiable source"
  rationale := "Attribution cannot be checked"

/-- Implausible claims. -/
def implausible : Lexicon where
  reflexId := "vx-ha01"
  tags := ["hallucination"]
  cues := [flatEarth, cheeseMoon, vaccineHarm, climateHoax, youngEarth, burdenReversal,
    speculativeConsensus, namelessSource]

/-! ### Claims without data -/

/-- Authority without a name. -/
def vagueAttribution : Cue where
  pattern := delimited (inOrder
    [wordsOf "scientists" ["experts", "researchers", "studies"], words " ",
      wordsOf "claim" ["say", "show", "agree"]])
  score := 0.8
  label := "Vague attribution"
  rationale := "Invokes authority without naming a study or researcher"

/-- A cause that is only asserted. -/
def bareCausation : Cue where
  pattern := delimited (inOrder [wordsOf "is" ["are"], words " caused by"])
  score := 0.75
  label := "Causal claim without evidence"
  rationale := "Asserts causation as fact without citing data"

/-- Acceptance that is only asserted. -/
def vagueConsensus : Cue where
  pattern := delimited
    (inOrder [words "it", optional (words "'"), words "s widely accepted"])
  score := 0.8
  label := "Vague consensus"
  rationale := "Claims broad acceptance without evidence of it"

/-- Agreement of everybody. -/
def falseUnanimity : Cue where
  pattern := oneOf (delimited (words "nobody disputes")) [delimited (words "no one disagrees")]
  score := 0.85
  label := "False unanimity"
  rationale := "Presents a contested issue as settled"

/-- A source named before the sentence ends. -/
def sourceAhead : Pattern :=
  inOrder [run .notDot 0 none, delimited (wordsOf "source" ["study", "according", "et al"])]

/-- Data that is never identified. -/
def namelessData : Cue where
  pattern := inOrder [boundary, optional (words "the "),
    wordsOf "data" ["numbers", "research"], words " ", optional (words "clearly "),
    oneOf (inOrder [words "show", optional (words "s")])
      [inOrder [words "prove", optional (words "s")]],
    boundary, notAhead sourceAhead]
  score := 0.65
  label := "Unsourced data reference"
  rationale := "Refers to data that is never identified"

/-- Claims without data. -/
def dataless : Lexicon where
  reflexId := "vx-da01"
  tags := ["data-less", "evidence"]
  cues := [vagueAttribution, bareCausation, vagueConsensus, falseUnanimity, namelessData]

/-! ### False precision -/

/-- A percentage with four decimals or more. -/
def precisePercentage : Cue where
  pattern := inOrder [boundary, run .digit 1 (some 3), words ".", run .digit 4 none,
    run .blank 0 none, words "%"]
  score := 0.8
  label := "False precision"
  rationale := "Percentage quoted to more decimals than any measurement supports"

/-- A number with six decimals or more. -/
def preciseNumber : Cue where
  pattern := delimited (inOrder [run .digit 1 none, words ".", run .digit 6 none])
  score := 0.75
  label := "False precision"
  rationale := "Overly precise number without meaningful justification"

/-- A number that is said to be exact. -/
def assertedExactness : Cue where
  pattern := inOrder [boundary, wordsOf "exactly" ["precisely", "down to the penny"],
    run .blank 1 none, one .digit]
  score := 0.7
  label := "False precision"
  rationale := "Absolute modifier attached to an estimate"

/-- Numbers that are too precise. -/
def precision : Lexicon where
  reflexId := "vx-fp01"
  tags := ["false-precision", "numerical"]
  cues := [precisePercentage, preciseNumber, assertedExactness]

end ReflexPolicy.Lexicon

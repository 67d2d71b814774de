import ReflexPolicy.Lexicon.Basic

/-!
# Pressure in place of evidence

The lexicons of speculation, of rhetorical entrapment and of urgency.  Two or more cues of
urgency in one text are one finding more, which scores higher than each of them.
-/

namespace ReflexPolicy.Lexicon

open Pattern

/-! ### Speculation -/

/-- The score of a strong cue. -/
def strong : Binary64 := 0.8

/-- The score of a cue of middling strength. -/
def middling : Binary64 := 0.6

/-- Two hedges on one claim. -/
def doubleHedge : Cue where
  pattern := delimited (words "could potentially")
  score := strong
  label := "Double speculation"
  rationale := "Layered hedging that sounds more authoritative than it is"

/-- A projection that is told as likely. -/
def likelyGrowth : Cue where
  pattern := delimited (words "likely growing")
  score := strong
  label := "Speculative certainty"
  rationale := "Presents a projection as probable fact without a statistical basis"

/-- Likelihood without a basis. -/
def barePossibility : Cue where
  pattern := delimited (words "possibly")
  score := strong
  label := "Speculation"
  rationale := "Suggests likelihood without offering any basis for it"

/-- Knowledge that commits to nothing. -/
def mightBe : Cue where
  pattern := delimited (words "might be")
  score := middling
  label := "Speculation"
  rationale := "Implies knowledge while committing to nothing"

/-- A conclusion from estimates. -/
def estimatesShow : Cue where
  pattern := delimited
    (inOrder [words "estimates ", wordsOf "suggest" ["show", "indicate"]])
  score := middling
  label := "Data hedging"
  rationale := "Builds a definitive conclusion on acknowledged estimates"

/-- Speculation that is told as insight. -/
def speculation : Lexicon where
  reflexId := "vx-so01"
  tags := ["speculation", "overreach"]
  cues := [doubleHedge, likelyGrowth, barePossibility, mightBe, estimatesShow]

/-! ### Entrapment -/

/-- A choice of two sides. -/
def falseBinary : Cue where
  pattern := inOrder [words "you", optional (words "'"),
    words "re either with us or against us"]
  score := 0.9
  label := "False binary"
  rationale := "Forces a two-sided choice and erases the middle ground"

/-- A question that presumes fear. -/
def presumedFear : Cue where
  pattern := words "why are you afraid to answer"
  score := 0.9
  label := "Intimidation question"
  rationale := "Treats hesitation as fear to pressure a quick response"

/-- A question that presumes guilt. -/
def presumedGuilt : Cue where
  pattern := words "what do you have to hide"
  score := 0.9
  label := "Guilt presumption"
  rationale := "Presumes wrongdoing to compel disclosure"

/-- A demand to confess. -/
def demandedConfession : Cue where
  pattern := delimited (words "just admit it")
  score := 0.9
  label := "Confession pressure"
  rationale := "Demands concession without allowing consideration"

/-- Agreement that was never given. -/
def presumedAgreement : Cue where
  pattern := delimited (inOrder [words "so you agree", optional (words ","), words " then"])
  score := 0.75
  label := "False conclusion"
  rationale := "Reads hesitation or nuance as agreement"

/-- Rhetorical entrapment. -/
def entrapment : Lexicon where
  reflexId := "vx-em09"
  tags := ["rhetorical-entrapment", "manipulation"]
  cues := [falseBinary, presumedFear, presumedGuilt, demandedConfession, presumedAgreement]

/-! ### Urgency -/

/-- A call to act at once. -/
def actNow : Cue where
  pattern := delimited (words "act now")
  score := 0.85
  label := "Call to immediate action"
  rationale := "Pushes for action before the claim can be checked"

/-- A last chance. -/
def lastChance : Cue where
  pattern := delimited (words "last chance")
  score := 0.8
  label := "Scarcity pressure"
  rationale := "Frames the decision as now-or-never"

/-- A deadline that nobody stated. -/
def tooLate : Cue where
  pattern := inOrder [words "before it", optional (words "'"), words "s too late"]
  score := 0.8
  label := "Catastrophic deadline"
  rationale := "Invokes an unstated deadline to cut deliberation short"

/-- A window that shrinks. -/
def runningOut : Cue where
  pattern := delimited (words "time is running out")
  score := 0.75
  label := "Countdown framing"
  rationale := "Asserts a shrinking window without saying why"

/-- An offer for a limited time. -/
def limitedTime : Cue where
  pattern := delimited (words "limited time only")
  score := 0.7
  label := "Limited-time framing"
  rationale := "Commercial urgency cue"

/-- Urgency that has been made up. -/
def urgency : Lexicon where
  reflexId := "vx-fo01"
  tags := ["urgency", "pressure"]
  cues := [actNow, lastChance, tooLate, runningOut, limitedTime]

/-- The cues of a lexicon that occur in a text. -/
def occurring (l : Lexicon) (text : List Char) : List Cue :=
  l.cues.filter fun cue => cue.pattern.occursIn text

/-- The score of stacked cues: a tenth above the highest of them, and at most `0.95`. -/
def stackedScore (first : Binary64) (others : List Binary64) : Binary64 :=
  ((others.foldl Binary64.max first).add 0.1).min 0.95

/-- The finding of several cues of urgency in one text. -/
def stackedFinding (first second : Cue) (others : List Cue) : Finding :=
  { reflexId := .text urgency.reflexId
    score := .float (stackedScore first.score (second.score :: others.map Cue.score))
    rationale := .text (toString (others.length + 2)
      ++ " separate urgency cues in one passage")
    label := .text "Stacked urgency cues"
    tags := tagsValue (urgency.tags ++ ["stacked"]) }

/-- The finding of stacked cues, if at least two occur. -/
def stacked : List Cue → List Finding
  | first :: second :: others => [stackedFinding first second others]
  | _ => []

/-- The findings of urgency in a text. -/
def urgencyFindings (text : List Char) : List Finding :=
  urgency.findings text ++ if text.isEmpty then [] else stacked (urgency.occurring text)

end ReflexPolicy.Lexicon

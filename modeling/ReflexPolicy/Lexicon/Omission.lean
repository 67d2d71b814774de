import ReflexPolicy.Lexicon.Basic

/-!
# Omissions

Markers of what a passage leaves out.  A marker is a phrase that stands in the lower case of a
text between word boundaries.  A marker of citation counts a little more where the text mentions
no source at all.
-/

namespace ReflexPolicy

/-- What a passage leaves out. -/
inductive OmissionKind where
  | citation
  | authority
  | consensus
  | buriedAdmission
  | dataQuality
  | contradiction
  deriving DecidableEq

namespace OmissionKind

/-- The tag of a kind. -/
def tag : OmissionKind → String
  | citation => "citation"
  | authority => "authority"
  | consensus => "consensus"
  | buriedAdmission => "buried-admission"
  | dataQuality => "data-quality"
  | contradiction => "contradiction"

/-- The label of a kind. -/
def label : OmissionKind → String
  | citation => "Citation omission"
  | authority => "Authority omission"
  | consensus => "Consensus omission"
  | buriedAdmission => "Buried admission omission"
  | dataQuality => "Data quality omission"
  | contradiction => "Contradiction omission"

/-- What a marker of a kind indicates. -/
def meaning : OmissionKind → String
  | citation => "missing source attribution"
  | authority => "vague appeal to authority"
  | consensus => "implied consensus without justification"
  | buriedAdmission => "a data limitation stated in passing and then ignored"
  | dataQuality => "a data-quality caveat left out of the conclusion"
  | contradiction => "evidence that cuts against the surrounding claim"

end OmissionKind

/-- A phrase that marks an omission. -/
structure OmissionMarker where
  phrase : String
  kind : OmissionKind
  score : Binary64

namespace OmissionMarker

/-- The markers, in the order in which they are reported. -/
def all : List OmissionMarker :=
  [⟨"studies show", .citation, 0.9⟩,
    ⟨"experts agree", .citation, 0.9⟩,
    ⟨"research indicates", .citation, 0.75⟩,
    ⟨"no longer conducts rigorous", .buriedAdmission, 0.9⟩,
    ⟨"fewer people are also", .dataQuality, 0.9⟩,
    ⟨"but the data do provide", .contradiction, 0.9⟩,
    ⟨"some say", .authority, 0.75⟩,
    ⟨"it is believed", .authority, 0.75⟩,
    ⟨"as everyone knows", .consensus, 0.9⟩,
    ⟨"clearly", .consensus, 0.6⟩]

/-- The marker stands in a text. -/
def standsIn (m : OmissionMarker) (text : List Char) : Bool :=
  (Pattern.delimited (.literally m.phrase)).occursIn (Text.lower text)

/-- The score of a marker in a text with or without sources. -/
def scoreIn (m : OmissionMarker) (hasSources : Bool) : Binary64 :=
  if m.kind = .citation ∧ !hasSources then (m.score.add 0.05).min 0.95 else m.score

end OmissionMarker

namespace Lexicon

open Pattern

/-- A mention of a source. -/
def sourceCue : Pattern :=
  oneOf (delimited (wordsOf "source" ["link", "reference", "citation", "doi", "et al"]))
    [inOrder [words "http", optional (words "s"), words "://"]]

/-- The reflex that omissions speak for. -/
def omissionId : String := "vx-os01"

/-- The finding of a marker. -/
def omissionFinding (hasSources : Bool) (m : OmissionMarker) : Finding :=
  { reflexId := .text omissionId
    score := .float (m.scoreIn hasSources)
    rationale := .text ("\"" ++ m.phrase ++ "\" indicates " ++ m.kind.meaning)
    label := .text m.kind.label
    tags := tagsValue ["omission", m.kind.tag] }

/-- The findings of omissions in a text. -/
def omissionFindings (text : List Char) : List Finding :=
  (OmissionMarker.all.filter (·.standsIn text)).map
    (omissionFinding (sourceCue.occursIn text))

end Lexicon

end ReflexPolicy

import Mathlib.Data.List.Nodup
import ReflexPolicy.Lexicon.Registry
import ReflexPolicy.Proofs.Pattern.Carrying
import ReflexPolicy.Proofs.Text.LetterCase

/-!
# Markers as whole words

A marker of an omission is looked for in the lower case of a text, between word boundaries.  It is
reported exactly if a stretch of the text itself has the phrase for its lower case, with no word
character behind it, and before it either no word character or a dotted capital I.  That letter is
a word character, but its lower case ends with a combining dot, which is none: what goes on behind
it is taken for a whole word.
-/

namespace ReflexPolicy

theorem Text.isWordAt_or {c d : Option Char} (word : isWordAt c = true) :
  isWordAt (c.or d) = true
  := by
  cases c with
  | none => cases word
  | some c => exact word

namespace Pattern

variable {p : Pattern} {a e : Place} {cs : List Char}

/-! ### Phrases between word boundaries -/

theorem mem_ends_inOrder_cons {ps : List Pattern} :
  e ∈ (inOrder (p :: ps)).ends a ↔ ∃ middle ∈ p.ends a, e ∈ (inOrder ps).ends middle
  := by
  cases ps with
  | nil => simp [inOrder, ends]
  | cons q ps =>
    rw [inOrder, ends, List.mem_flatMap]
    simp

/-- A text that is written out has one stretch, which ends behind it. -/
theorem mem_ends_exactly_iff :
  e ∈ (inOrder (cs.map exactly)).ends a
    ↔ ∃ rest, a.rest = cs ++ rest ∧ e = ⟨cs.getLast?.or a.before, rest⟩
  := by
  induction cs generalizing a with
  | nil =>
    obtain ⟨before, rest⟩ := a
    simp [inOrder, ends]
  | cons c cs ih =>
    simp only [List.map_cons, mem_ends_inOrder_cons, ends, mem_step_iff, ih, getLast?_cons_or]
    constructor
    · rintro ⟨middle, ⟨d, rest, cut, same, rfl⟩, rest', cut', rfl⟩
      obtain rfl := beq_iff_eq.mp same
      dsimp only at cut'
      exact ⟨rest', by rw [cut, cut', List.cons_append], rfl⟩
    · rintro ⟨rest, cut, rfl⟩
      exact ⟨_, ⟨c, cs ++ rest, cut, by simp, rfl⟩, rest, rfl, rfl⟩

theorem beginsAt_delimited_iff :
  (delimited p).BeginsAt a ↔ atBoundary a = true ∧ ∃ e ∈ p.ends a, atBoundary e = true
  := by simp [BeginsAt, delimited, ends, List.mem_flatMap]

/-- A phrase that begins and ends with a word character stands between word boundaries where no
word character stands right before or right behind it. -/
theorem occursIn_delimited_literally_iff {phrase : String}
    (opens : Text.isWordAt phrase.toList.head? = true)
    (closes : Text.isWordAt phrase.toList.getLast? = true) :
  (delimited (literally phrase)).occursIn cs = true
    ↔ ∃ before after, cs = before ++ phrase.toList ++ after
      ∧ Text.isWordAt before.getLast? = false ∧ Text.isWordAt after.head? = false
  := by
  have left (before : Option Char) (after : List Char) :
      atBoundary ⟨before, phrase.toList ++ after⟩ = !Text.isWordAt before := by
    simp [atBoundary, Text.isBoundary, List.head?_append, Text.isWordAt_or opens]
  have right (before : Option Char) (after : List Char) :
      atBoundary ⟨phrase.toList.getLast?.or before, after⟩ = !Text.isWordAt after.head? := by
    simp [atBoundary, Text.isBoundary, Text.isWordAt_or closes]
  simp only [occursIn_iff, beginsAt_delimited_iff, literally, mem_ends_exactly_iff]
  constructor
  · rintro ⟨before, rest, rfl, bounded, e, ⟨after, rfl, rfl⟩, bounded'⟩
    rw [left, Bool.not_eq_true'] at bounded
    rw [right, Bool.not_eq_true'] at bounded'
    exact ⟨before, after, by simp, bounded, bounded'⟩
  · rintro ⟨before, after, rfl, bounded, bounded'⟩
    refine ⟨before, phrase.toList ++ after, by simp, by simp [left, bounded], _,
      ⟨after, rfl, rfl⟩, by simp [right, bounded']⟩

end Pattern

namespace Text

variable {cs front rest : List Char}

/-! ### Lower case -/

theorem lower_append (front rest : List Char) :
  lower (front ++ rest) = lower front ++ lower rest
  := List.flatMap_append

theorem lower_cons (c : Char) (cs : List Char) :
  lower (c :: cs) = lowerChar c ++ lower cs
  := List.flatMap_cons

/-- The lower case of a character is a single one, a word character if the character is, but for
the dotted capital I. -/
theorem lowerChar_cases (c : Char) :
  (∃ d, lowerChar c = [d] ∧ isWord d = isWord c ∧ c ≠ '\u0130')
    ∨ c = '\u0130' ∧ lowerChar c = ['i', '\u0307']
  := by
  rw [lowerChar]
  split
  · rename_i dotted
    exact .inr ⟨beq_iff_eq.mp dotted, rfl⟩
  · rename_i undotted
    rw [beq_iff_eq] at undotted
    split
    · rename_i kelvin
      rw [beq_iff_eq] at kelvin
      exact .inl ⟨'k', rfl, by rw [kelvin]; decide +kernel, undotted⟩
    · exact .inl ⟨_, rfl, ignoresCase_isWord c, undotted⟩

/-- A text in lower case is cut between two characters of the text, unless between an i and its
dot. -/
theorem exists_of_lower_eq_append (cut : lower cs = front ++ rest)
    (undotted : front.getLast? ≠ some 'i' ∨ rest.head? ≠ some '\u0307') :
  ∃ before after, cs = before ++ after ∧ lower before = front ∧ lower after = rest
  := by
  induction cs generalizing front with
  | nil =>
    obtain ⟨rfl, rfl⟩ := List.append_eq_nil_iff.mp cut.symm
    exact ⟨[], [], rfl, rfl, rfl⟩
  | cons c cs ih =>
    have undotted_of_cons {d : Char} {front : List Char}
        (undotted : (d :: front).getLast? ≠ some 'i' ∨ rest.head? ≠ some '\u0307') :
        front.getLast? ≠ some 'i' ∨ rest.head? ≠ some '\u0307' := by
      refine undotted.imp_left fun other last => other ?_
      rw [List.getLast?_cons, last, Option.getD_some]
    cases front with
    | nil => exact ⟨[], c :: cs, rfl, rfl, cut⟩
    | cons d front =>
      have next := undotted_of_cons undotted
      rw [lower_cons] at cut
      obtain ⟨e, single, -⟩ | ⟨-, dotted⟩ := lowerChar_cases c
      · simp only [single, List.cons_append, List.nil_append, List.cons.injEq] at cut
        obtain ⟨before, after, rfl, rfl, rfl⟩ := ih cut.2 next
        exact ⟨c :: before, after, rfl, by simp [lower_cons, single, cut.1], rfl⟩
      · simp only [dotted, List.cons_append, List.nil_append, List.cons.injEq] at cut
        cases front with
        | nil =>
          rw [List.nil_append] at cut
          simp [← cut.1, ← cut.2] at undotted
        | cons d' front =>
          simp only [List.cons_append, List.cons.injEq] at cut
          obtain ⟨before, after, rfl, rfl, rfl⟩ := ih cut.2.2 (undotted_of_cons next)
          exact ⟨c :: before, after, rfl, by simp [lower_cons, dotted, ← cut.1, ← cut.2.1], rfl⟩

/-- The lower case of a text begins with a word character if the text does. -/
theorem isWordAt_head?_lower (cs : List Char) :
  isWordAt (lower cs).head? = isWordAt cs.head?
  := by
  cases cs with
  | nil => rfl
  | cons c cs =>
    rw [lower_cons, List.head?_append, List.head?_cons]
    obtain ⟨d, single, same, -⟩ | ⟨rfl, dotted⟩ := lowerChar_cases c
    · rw [single]
      exact same
    · rw [dotted]
      show isWord 'i' = isWord '\u0130'
      decide

/-- The lower case of a text ends with a word character if the text does, unless that is a dotted
capital I. -/
theorem isWordAt_getLast?_lower_iff (cs : List Char) :
  isWordAt (lower cs).getLast? = false
    ↔ isWordAt cs.getLast? = false ∨ cs.getLast? = some '\u0130'
  := by
  obtain rfl | ⟨front, c, rfl⟩ := cs.eq_nil_or_concat
  · simp [lower]
  · rw [List.concat_eq_append, lower_append, List.getLast?_append, List.getLast?_append]
    have dotless : isWord '\u0307' = false := by decide
    obtain ⟨d, single, same, other⟩ | ⟨rfl, dotted⟩ := lowerChar_cases c
    · simp [lower, single, isWordAt, same, other]
    · simp [lower, dotted, isWordAt, dotless]

end Text

namespace OmissionMarker

variable {m : OmissionMarker} {text : String}

/-! ### Reported markers -/

/-- The detector of omissions has a finding of the marker in a text. -/
def IsReported (m : OmissionMarker) (text : String) : Prop :=
  ∃ hasSources,
    Lexicon.omissionFinding hasSources m ∈ LexicalDetector.omission.findings text.toList

/-- The findings of different markers say different things. -/
theorem eq_of_rationale_eq {m' : OmissionMarker} {hasSources hasSources' : Bool}
    (mem : m ∈ all) (mem' : m' ∈ all)
    (same : (Lexicon.omissionFinding hasSources m).rationale
      = (Lexicon.omissionFinding hasSources' m').rationale) :
  m = m'
  := by
  have apart : (all.map fun m : OmissionMarker =>
      ("\"" ++ m.phrase ++ "\" indicates " ++ m.kind.meaning : Text)).Nodup := by
    decide +kernel
  refine List.inj_on_of_nodup_map apart mem mem' ?_
  simpa only [Lexicon.omissionFinding, Scalar.text.injEq, Value.scalar.injEq] using same

theorem isReported_iff_standsIn (mem : m ∈ all) :
  m.IsReported text ↔ m.standsIn text.toList = true
  := by
  simp only [IsReported, LexicalDetector.omission, Lexicon.omissionFindings, List.mem_map,
    List.mem_filter]
  constructor
  · rintro ⟨hasSources, m', ⟨mem', stands⟩, same⟩
    obtain rfl := eq_of_rationale_eq mem' mem (congrArg Finding.rationale same)
    exact stands
  · intro stands
    exact ⟨_, m, ⟨mem, stands⟩, rfl⟩

/-! ### Whole words -/

/-- A stretch of the text has the phrase for its lower case, and no word character is next to it
on either side. -/
def StandsWhole (phrase : String) (text : List Char) : Prop :=
  ∃ before word after, text = before ++ word ++ after ∧ Text.lower word = phrase.toList
    ∧ Text.isWordAt before.getLast? = false ∧ Text.isWordAt after.head? = false

theorem standsWhole_iff {phrase : String} {text : List Char} :
  StandsWhole phrase text
    ↔ ∃ start ≤ text.length, ∃ length ≤ text.length,
      Text.lower ((text.drop start).take length) = phrase.toList
        ∧ Text.isWordAt (text.take start).getLast? = false
        ∧ Text.isWordAt ((text.drop start).drop length).head? = false
  := by
  constructor
  · rintro ⟨before, word, after, rfl, same, bounded, bounded'⟩
    refine ⟨before.length, by simp, word.length, by simp; omega, ?_⟩
    simp [same, bounded, bounded']
  · rintro ⟨start, -, length, -, same, bounded, bounded'⟩
    exact ⟨text.take start, (text.drop start).take length, (text.drop start).drop length,
      by rw [List.append_assoc, List.take_append_drop, List.take_append_drop], same, bounded,
      bounded'⟩

instance {phrase : String} {text : List Char} : Decidable (StandsWhole phrase text) :=
  decidable_of_iff _ standsWhole_iff.symm

/-- A stretch of the text has the phrase for its lower case, no word character is right behind it,
and right before it is none, or a dotted capital I. -/
def StandsApart (phrase : String) (text : List Char) : Prop :=
  ∃ before word after, text = before ++ word ++ after ∧ Text.lower word = phrase.toList
    ∧ (Text.isWordAt before.getLast? = false ∨ before.getLast? = some '\u0130')
    ∧ Text.isWordAt after.head? = false

/-- The phrases of the markers begin and end with a word character, and none of them ends with
an i. -/
theorem phrase_ends (mem : m ∈ all) :
  Text.isWordAt m.phrase.toList.head? = true ∧ Text.isWordAt m.phrase.toList.getLast? = true
    ∧ m.phrase.toList.getLast? ≠ some 'i'
  := by
  have ends : ∀ m ∈ all, Text.isWordAt m.phrase.toList.head? = true
      ∧ Text.isWordAt m.phrase.toList.getLast? = true
      ∧ m.phrase.toList.getLast? ≠ some 'i' := by
    decide
  exact ends m mem

theorem standsIn_iff (mem : m ∈ all) {text : List Char} :
  m.standsIn text = true ↔ StandsApart m.phrase text
  := by
  obtain ⟨opens, closes, undotted⟩ := phrase_ends mem
  rw [standsIn, Pattern.occursIn_delimited_literally_iff opens closes]
  constructor
  · rintro ⟨front, rest, cut, bounded, bounded'⟩
    have dotless : (m.phrase.toList ++ rest).head? ≠ some '\u0307' := by
      intro dotted
      have word : Text.isWordAt (m.phrase.toList ++ rest).head? = true := by
        rw [List.head?_append]
        exact Text.isWordAt_or opens
      rw [dotted] at word
      revert word
      decide
    -- the phrase begins with no dot and ends with no i, so the text is cut at both its ends
    rw [List.append_assoc] at cut
    obtain ⟨before, tail, rfl, rfl, cut'⟩ := Text.exists_of_lower_eq_append cut (.inr dotless)
    obtain ⟨word, after, rfl, same, rfl⟩ := Text.exists_of_lower_eq_append cut' (.inl undotted)
    refine ⟨before, word, after, (List.append_assoc ..).symm, same, ?_, ?_⟩
    · rwa [← Text.isWordAt_getLast?_lower_iff]
    · rwa [← Text.isWordAt_head?_lower]
  · rintro ⟨before, word, after, rfl, same, bounded, bounded'⟩
    refine ⟨Text.lower before, Text.lower after, ?_, ?_, ?_⟩
    · rw [Text.lower_append, Text.lower_append, same]
    · rwa [Text.isWordAt_getLast?_lower_iff]
    · rwa [Text.isWordAt_head?_lower]

/-- A marker is reported exactly if its phrase stands apart, and in a text without a dotted
capital I exactly if its phrase stands there as whole words. -/
theorem isReported_iff_standsApart (mem : m ∈ all) :
  (m.IsReported text ↔ StandsApart m.phrase text.toList)
    ∧ ('\u0130' ∉ text.toList → (m.IsReported text ↔ StandsWhole m.phrase text.toList))
  := by
  have apart : m.IsReported text ↔ StandsApart m.phrase text.toList :=
    (isReported_iff_standsIn mem).trans (standsIn_iff mem)
  refine ⟨apart, fun undotted => apart.trans ?_⟩
  constructor
  · rintro ⟨before, word, after, cut, same, bounded | dotted, bounded'⟩
    · exact ⟨before, word, after, cut, same, bounded, bounded'⟩
    · refine absurd ?_ undotted
      rw [cut]
      simp [List.mem_of_getLast? dotted]
  · rintro ⟨before, word, after, cut, same, bounded, bounded'⟩
    exact ⟨before, word, after, cut, same, .inl bounded, bounded'⟩

/-- The marker of consensus that is a single word. -/
def clearly : OmissionMarker := ⟨"clearly", .consensus, 0.6⟩

theorem clearly_mem : clearly ∈ all
  := by simp [all, clearly]

/-- The marker is reported in capitals, but not within another word. -/
theorem isReported_clearly :
  clearly.IsReported "CLEARLY, this is so." ∧ ¬ clearly.IsReported "It is unclearly said."
  := by
  constructor
  · exact ((isReported_iff_standsApart clearly_mem).2 (by decide +kernel)).mpr (by decide +kernel)
  · rw [(isReported_iff_standsApart clearly_mem).2 (by decide +kernel)]
    decide +kernel

/-- Behind a dotted capital I the marker is reported although it is the end of a word. -/
theorem isReported_dottedWord :
  clearly ∈ all ∧ clearly.IsReported "\u0130clearly"
    ∧ ¬ StandsWhole clearly.phrase "\u0130clearly".toList
  := by
  refine ⟨clearly_mem, ?_, by decide +kernel⟩
  rw [isReported_iff_standsIn clearly_mem]
  decide +kernel

end OmissionMarker

end ReflexPolicy

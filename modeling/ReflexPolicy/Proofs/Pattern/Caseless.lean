import ReflexPolicy.Proofs.Pattern.Carrying
import ReflexPolicy.Proofs.Text.LetterCase

/-!
# Patterns without letter case

A pattern whose tests do not tell capitals from small letters does not tell apart texts that differ
only in the case of ASCII letters: it occurs in both or in none.
-/

namespace ReflexPolicy.Pattern

variable {p : Pattern} {a b : Place} {cs cs' : List Char}

/-- No test of the pattern tells a capital from a small letter. -/
def IsCaseless (p : Pattern) : Prop := p.Tests Text.IgnoresCase Text.IgnoresCase

theorem ignoresCase_anyCase (c : Char) :
  Text.IgnoresCase fun d => Text.fold d == c
  := by
  intro d
  exact congrArg (· == c) (Text.ignoresCase_fold d)

theorem isCaseless_words (s : String) :
  (words s).IsCaseless
  := tests_words_iff.mpr fun c _ => ignoresCase_anyCase c

/-- Characters of one kind stand right before the places, and the texts ahead differ only in the
case of ASCII letters. -/
structure AlikePlaces (a b : Place) : Prop where
  before : Text.isWordAt a.before = Text.isWordAt b.before
  ahead : Text.SameButCase a.rest b.rest

theorem AlikePlaces.symm (alike : AlikePlaces a b) :
  AlikePlaces b a
  := ⟨alike.before.symm, alike.ahead.symm⟩

theorem flip_alikePlaces :
  flip AlikePlaces = AlikePlaces
  := by
  funext a b
  exact propext ⟨AlikePlaces.symm, AlikePlaces.symm⟩

/-- Tests that ignore letter case do not tell such places apart. -/
theorem carries_alikePlaces :
  Carries AlikePlaces Text.IgnoresCase
  where
  boundary a b alike := by
    apply atBoundary_congr alike.before
    apply Text.isWordAt_of_map_eq
    rw [← List.head?_map, ← List.head?_map, alike.ahead]
  step a b test e alike ignores stepped := by
    obtain ⟨c, rest, cut, passed, rfl⟩ := mem_step_iff.mp stepped
    have ahead := alike.ahead
    rw [cut, Text.SameButCase, List.map_cons] at ahead
    obtain ⟨d, rest', cut', same, same'⟩ := List.map_eq_cons_iff.mp ahead.symm
    have passed' : test d = true := by rw [← ignores d, same, ignores c, passed]
    refine ⟨_, mem_step_iff.mpr ⟨d, rest', cut', passed', rfl⟩, ?_, same'.symm⟩
    exact Text.isWordAt_of_map_eq (congrArg some same.symm)

theorem occursIn_of_sameButCase (caseless : p.IsCaseless) (same : Text.SameButCase cs cs')
    (occurs : p.occursIn cs = true) :
  p.occursIn cs' = true
  := by
  obtain ⟨front, rest, rfl, begins⟩ := occursIn_iff.mp occurs
  rw [Text.SameButCase, List.map_append] at same
  obtain ⟨front', rest', rfl, before, ahead⟩ := List.map_eq_append_iff.mp same.symm
  have alike : AlikePlaces ⟨front.getLast?, rest⟩ ⟨front'.getLast?, rest'⟩ := by
    refine ⟨?_, ahead.symm⟩
    apply Text.isWordAt_of_map_eq
    rw [← List.getLast?_map, ← List.getLast?_map, before]
  have back : Carries (flip AlikePlaces) Text.IgnoresCase := by
    rw [flip_alikePlaces]
    exact carries_alikePlaces
  exact occursIn_iff.mpr ⟨front', rest', rfl,
    carries_alikePlaces.beginsAt back caseless alike begins⟩

/-- A pattern without letter case occurs in both of two texts that differ in nothing else, or in
none. -/
theorem occursIn_congr (caseless : p.IsCaseless) (same : Text.SameButCase cs cs') :
  p.occursIn cs = p.occursIn cs'
  := by
  rw [Bool.eq_iff_iff]
  exact ⟨occursIn_of_sameButCase caseless same, occursIn_of_sameButCase caseless same.symm⟩

end ReflexPolicy.Pattern

import ReflexPolicy.Proofs.Pattern.Carrying

/-!
# Stretches in enclosed texts

A text that stands between others keeps its stretches if neither neighbour is a word character: no
pattern sees farther back than one character, and none that is excluded ahead gets past a full
stop.  A pattern that no full stop is part of has no other stretches in a text with full stops than
those in its pieces.
-/

namespace ReflexPolicy.Pattern

variable {p : Pattern} {cs front more rest : List Char}

/-- The test rejects the full stop. -/
def RejectsStop (test : Char → Bool) : Prop := test '.' = false

/-- No test that rejects the full stop gets into the text. -/
def Stops (more : List Char) : Prop := more = [] ∨ ∃ rest, more = '.' :: rest

/-- The other place has more text ahead, and the same kind of character right before it. -/
structure Longer (more : List Char) (a b : Place) : Prop where
  before : Text.isWordAt a.before = Text.isWordAt b.before
  ahead : b.rest = a.rest ++ more

theorem isWordAt_of_stops (stops : Stops more) :
  Text.isWordAt more.head? = false
  := by
  obtain rfl | ⟨rest, rfl⟩ := stops
  · rfl
  · show Text.isWord '.' = false
    decide

theorem Longer.atBoundary_eq {a b : Place} (stops : Stops more) (longer : Longer more a b) :
  atBoundary a = atBoundary b
  := by
  apply atBoundary_congr longer.before
  rw [longer.ahead]
  cases a.rest with
  | nil => exact (isWordAt_of_stops stops).symm
  | cons c rest => rfl

/-- With more text ahead, nothing is lost. -/
theorem carries_longer (stops : Stops more) :
  Carries (Longer more) fun _ => True
  where
  boundary a b longer := longer.atBoundary_eq stops
  step a b test e longer _ stepped := by
    obtain ⟨c, rest, cut, passed, rfl⟩ := mem_step_iff.mp stepped
    have ahead : b.rest = c :: (rest ++ more) := by rw [longer.ahead, cut, List.cons_append]
    exact ⟨_, mem_step_iff.mpr ⟨c, _, ahead, passed, rfl⟩, rfl, rfl⟩

/-- With more text ahead, nothing is won that rejects full stops. -/
theorem carries_flip_longer (stops : Stops more) :
  Carries (flip (Longer more)) RejectsStop
  where
  boundary a b longer := (Longer.atBoundary_eq stops longer).symm
  step a b test e longer rejects stepped := by
    obtain ⟨c, rest, cut, passed, rfl⟩ := mem_step_iff.mp stepped
    have ahead : c :: rest = b.rest ++ more := cut.symm.trans longer.ahead
    cases within : b.rest with
    | cons d rest' =>
      rw [within, List.cons_append] at ahead
      obtain ⟨rfl, rfl⟩ := List.cons.inj ahead
      exact ⟨_, mem_step_iff.mpr ⟨c, rest', within, passed, rfl⟩, rfl, rfl⟩
    | nil =>
      rw [within, List.nil_append] at ahead
      obtain rfl | ⟨rest', rfl⟩ := stops
      · cases ahead
      · obtain ⟨rfl, rfl⟩ := List.cons.inj ahead
        rw [RejectsStop, passed] at rejects
        cases rejects

theorem isWordAt_getLast?_append (bounded : Text.isWordAt front.getLast? = false)
    (cs : List Char) :
  Text.isWordAt cs.getLast? = Text.isWordAt (front ++ cs).getLast?
  := by
  rw [List.getLast?_append]
  cases cs.getLast? with
  | none => exact bounded.symm
  | some c => rfl

/-- A text that stands behind no word character and before a full stop keeps its stretches. -/
theorem occursIn_enclosed (tests : p.Tests (fun _ => True) RejectsStop)
    (bounded : Text.isWordAt front.getLast? = false) (stops : Stops more)
    (occurs : p.occursIn cs = true) :
  p.occursIn (front ++ (cs ++ more)) = true
  := by
  obtain ⟨before, rest, rfl, begins⟩ := occursIn_iff.mp occurs
  refine occursIn_iff.mpr ⟨front ++ before, rest ++ more, by simp, ?_⟩
  have longer : Longer more ⟨before.getLast?, rest⟩ ⟨(front ++ before).getLast?, rest ++ more⟩ :=
    ⟨isWordAt_getLast?_append bounded before, rfl⟩
  exact (carries_longer stops).beginsAt (carries_flip_longer stops) tests longer begins

/-- A stretch that begins after another text, behind no word character, begins there without that
text, too. -/
theorem occursIn_of_beginsAt (tests : p.Tests RejectsStop RejectsStop)
    (bounded : Text.isWordAt front.getLast? = false)
    (begins : p.BeginsAt ⟨(front ++ cs).getLast?, rest⟩) :
  p.occursIn (cs ++ rest) = true
  := by
  have shorter : Longer [] ⟨(front ++ cs).getLast?, rest⟩ ⟨cs.getLast?, rest⟩ :=
    ⟨(isWordAt_getLast?_append bounded cs).symm, rest.append_nil.symm⟩
  have forth : Carries (Longer []) RejectsStop :=
    (carries_longer (.inl rfl)).mono fun _ _ => trivial
  have back := carries_flip_longer (.inl rfl)
  exact occursIn_iff.mpr ⟨cs, rest, rfl, forth.beginsAt back tests shorter begins⟩

/-- A stretch of a pattern that rejects full stops lies on one side of a full stop. -/
theorem occursIn_or_of_stop (tests : p.Tests RejectsStop RejectsStop)
    (occurs : p.occursIn (front ++ '.' :: more) = true) :
  p.occursIn front = true ∨ p.occursIn more = true
  := by
  obtain ⟨before, rest, cut, begins⟩ := occursIn_iff.mp occurs
  have ahead (middle : List Char) (cut : front = before ++ middle)
      (cut' : rest = middle ++ '.' :: more) : p.occursIn front = true := by
    subst cut cut'
    have forth : Carries (Longer ('.' :: more)) RejectsStop :=
      (carries_longer (.inr ⟨more, rfl⟩)).mono fun _ _ => trivial
    have shorter : flip (Longer ('.' :: more)) ⟨before.getLast?, middle ++ '.' :: more⟩
        ⟨before.getLast?, middle⟩ := ⟨rfl, rfl⟩
    exact occursIn_iff.mpr ⟨before, middle, rfl,
      (carries_flip_longer (.inr ⟨more, rfl⟩)).beginsAt forth tests shorter begins⟩
  obtain ⟨middle, rfl, cut'⟩ | ⟨middle, cut, cut'⟩ := List.append_eq_append_iff.mp cut
  · cases middle with
    | nil => exact .inl (ahead [] (by simp) cut'.symm)
    | cons d middle =>
      rw [List.cons_append] at cut'
      obtain ⟨rfl, rfl⟩ := List.cons.inj cut'
      have bounded : Text.isWordAt (front ++ ['.']).getLast? = false := by
        rw [List.getLast?_concat]
        show Text.isWord '.' = false
        decide
      rw [List.append_cons] at begins
      exact .inr (occursIn_of_beginsAt tests bounded begins)
  · exact .inl (ahead middle cut cut')

/-- A stretch that does not begin with the first character of a text, which is no word character,
is one of the rest. -/
theorem occursIn_of_cons (tests : p.Tests RejectsStop RejectsStop) {c : Char}
    (bounded : Text.isWord c = false) (elsewhere : ¬ p.BeginsAt ⟨none, c :: cs⟩)
    (occurs : p.occursIn (c :: cs) = true) :
  p.occursIn cs = true
  := by
  obtain ⟨before, rest, cut, begins⟩ := occursIn_iff.mp occurs
  cases before with
  | nil =>
    rw [cut] at elsewhere
    exact absurd begins elsewhere
  | cons d before =>
    obtain ⟨rfl, rfl⟩ := List.cons.inj cut
    have bounded' : Text.isWordAt [c].getLast? = false := bounded
    exact occursIn_of_beginsAt tests bounded' begins

end ReflexPolicy.Pattern

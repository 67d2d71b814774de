import Mathlib.Data.List.TakeWhile
import Mathlib.Tactic.Common
import ReflexPolicy.Codex.Version

/-!
# What counts as a version

Runs of digits that are joined by points, as a grammar, and the texts that `Codex.isVersion` takes
for versions.  A semantic version is three runs of ASCII digits.  Every semantic version counts,
and besides them runs of digits of other scripts, and a line feed behind the runs.
-/

namespace ReflexPolicy

/-! ### Runs of digits -/

/-- A run of at least one digit. -/
def IsRun (digit : Char → Bool) (cs : List Char) : Prop := cs ≠ [] ∧ ∀ c ∈ cs, digit c = true

/-- So many runs of digits, and one more, joined by points. -/
inductive Runs (digit : Char → Bool) : Nat → List Char → Prop where
  | last {ds : List Char} (run : IsRun digit ds) : Runs digit 0 ds
  | more {n : Nat} {ds cs : List Char} (run : IsRun digit ds) (rest : Runs digit n cs) :
    Runs digit (n + 1) (ds ++ '.' :: cs)

section

variable {digit digit' : Char → Bool} {n : Nat} {cs : List Char}

theorem IsRun.of_digits (run : IsRun digit cs)
    (digits : ∀ c ∈ cs, digit c = true → digit' c = true) :
  IsRun digit' cs
  := ⟨run.1, fun c mem => digits c mem (run.2 c mem)⟩

/-- Runs are made of digits and points. -/
theorem Runs.mem (runs : Runs digit n cs) {c : Char} (mem : c ∈ cs) :
  digit c = true ∨ c = '.'
  := by
  induction runs with
  | last run => exact .inl (run.2 c mem)
  | more run _ ih =>
    obtain mem | mem := List.mem_append.mp mem
    · exact .inl (run.2 c mem)
    · obtain point | mem := List.mem_cons.mp mem
      · exact .inr point
      · exact ih mem

/-- Runs are runs of other digits when their digits are. -/
theorem Runs.of_digits (runs : Runs digit n cs)
    (digits : ∀ c ∈ cs, digit c = true → digit' c = true) :
  Runs digit' n cs
  := by
  induction runs with
  | last run => exact .last (run.of_digits digits)
  | more run _ ih =>
    apply Runs.more
    · apply run.of_digits
      intro c mem
      exact digits c (List.mem_append_left _ mem)
    · apply ih
      intro c mem
      exact digits c (List.mem_append_right _ (List.mem_cons_of_mem _ mem))

/-- Three runs, one by one. -/
theorem runs_three_iff :
  Runs digit 2 cs ↔ ∃ major minor patch, IsRun digit major ∧ IsRun digit minor ∧ IsRun digit patch
    ∧ cs = major ++ '.' :: (minor ++ '.' :: patch)
  := by
  constructor
  · intro runs
    cases runs with
    | more major rest =>
      cases rest with
      | more minor rest =>
        cases rest with
        | last patch => exact ⟨_, _, _, major, minor, patch, rfl⟩
  · rintro ⟨_, _, _, major, minor, patch, rfl⟩
    exact .more major (.more minor (.last patch))

end

namespace Codex

/-! ### What is left of a text behind runs -/

variable {cs rest : List Char}

/-- The text does not begin with a digit. -/
def Halts (cs : List Char) : Prop := ∀ c ∈ cs.head?, Text.isDigit c = false

theorem dropWhile_of_halts (halts : Halts rest) :
  rest.dropWhile Text.isDigit = rest
  := by
  cases rest with
  | nil => rfl
  | cons c cs => rw [List.dropWhile_cons_of_neg (by simpa using halts c rfl)]

theorem halts_dropWhile (cs : List Char) :
  Halts (cs.dropWhile Text.isDigit)
  := by
  intro c mem
  have first := List.head?_dropWhile_not Text.isDigit cs
  rw [Option.mem_def.mp mem] at first
  exact first

theorem afterDigits?_eq_some_iff :
  afterDigits? cs = some rest ↔ ∃ ds, IsRun Text.isDigit ds ∧ cs = ds ++ rest ∧ Halts rest
  := by
  constructor
  · intro after
    cases cs with
    | nil => cases after
    | cons c cs =>
      rw [afterDigits?] at after
      split at after
      · rename_i digit
        cases after
        refine ⟨c :: cs.takeWhile Text.isDigit, ⟨List.cons_ne_nil _ _, ?_⟩, ?_, halts_dropWhile cs⟩
        · rw [List.forall_mem_cons]
          exact ⟨digit, fun _ => List.mem_takeWhile_imp⟩
        · rw [List.cons_append, List.takeWhile_append_dropWhile]
      · cases after
  · rintro ⟨ds, ⟨something, digits⟩, rfl, halts⟩
    cases ds with
    | nil => exact absurd rfl something
    | cons d ds =>
      obtain ⟨digit, digits⟩ := List.forall_mem_cons.mp digits
      rw [List.cons_append, afterDigits?, if_pos digit, List.dropWhile_append_of_pos digits,
        dropWhile_of_halts halts]

theorem afterPoint?_eq_some_iff :
  afterPoint? cs = some rest ↔ cs = '.' :: rest
  := by
  unfold afterPoint?
  split
  · simp
  · rename_i other
    simp only [reduceCtorEq, false_iff]
    exact other rest

/-- What is left behind runs is all that follows them: it does not begin with a digit. -/
theorem afterRuns?_eq_some_iff {n : Nat} :
  afterRuns? n cs = some rest
    ↔ ∃ front, Runs Text.isDigit n front ∧ cs = front ++ rest ∧ Halts rest
  := by
  induction n generalizing cs with
  | zero =>
    rw [afterRuns?, afterDigits?_eq_some_iff]
    constructor
    · rintro ⟨ds, run, split⟩
      exact ⟨ds, .last run, split⟩
    · rintro ⟨front, _ | _, split⟩
      exact ⟨front, ‹_›, split⟩
  | succ n ih =>
    simp only [afterRuns?, Option.bind_eq_some_iff, afterDigits?_eq_some_iff,
      afterPoint?_eq_some_iff, ih]
    constructor
    · rintro ⟨cs', ⟨_, ⟨ds, run, rfl, -⟩, rfl⟩, front, runs, rfl, halts⟩
      exact ⟨ds ++ '.' :: front, .more run runs, by simp, halts⟩
    · rintro ⟨_, _ | @⟨_, ds, front, run, runs⟩, rfl, halts⟩
      refine ⟨front ++ rest, ⟨_, ⟨ds, run, by simp, ?_⟩, rfl⟩, front, runs, rfl, halts⟩
      -- A point is no digit.
      rintro _ ⟨⟩
      decide

end Codex

/-! ### Versions -/

namespace Text

variable {t : Text} {cs : List Char}

theorem chars?_ofChars (cs : List Char) :
  (ofChars cs).chars? = some cs
  := charsOf?_map_char cs

theorem map_char_of_charsOf? {letters : List Letter} (given : charsOf? letters = some cs) :
  letters = cs.map .char
  := by
  induction letters generalizing cs with
  | nil =>
    cases given
    rfl
  | cons l rest ih =>
    cases l with
    | surrogate n => cases given
    | char c =>
      obtain ⟨cs', behind, rfl⟩ := Option.map_eq_some_iff.mp given
      rw [ih behind, List.map_cons]

theorem chars?_eq_some_iff :
  t.chars? = some cs ↔ t = ofChars cs
  := by
  constructor
  · obtain ⟨letters⟩ := t
    intro given
    exact congrArg Text.mk (map_char_of_charsOf? given)
  · rintro rfl
    apply chars?_ofChars

/-- The text counts as a version: three runs of digits of any script, and perhaps a line feed. -/
def IsVersion (t : Text) : Prop :=
  ∃ cs, Runs isDigit 2 cs ∧ (t = ofChars cs ∨ t = ofChars (cs ++ ['\n']))

/-- The text is a semantic version: three runs of ASCII digits, joined by points, and nothing else.
-/
def IsSemver (t : Text) : Prop :=
  ∃ major minor patch,
    IsRun isAsciiDigit major ∧ IsRun isAsciiDigit minor ∧ IsRun isAsciiDigit patch
    ∧ t = ofChars (major ++ '.' :: (minor ++ '.' :: patch))

/-- The text is made of ASCII digits and points. -/
def IsPlain (t : Text) : Prop :=
  ∀ l ∈ t.letters, ∃ c, l = .char c ∧ (isAsciiDigit c = true ∨ c = '.')

theorem isSemver_iff :
  t.IsSemver ↔ ∃ cs, Runs isAsciiDigit 2 cs ∧ t = ofChars cs
  := by
  simp only [IsSemver, runs_three_iff]
  constructor
  · rintro ⟨major, minor, patch, ofMajor, ofMinor, ofPatch, same⟩
    exact ⟨_, ⟨major, minor, patch, ofMajor, ofMinor, ofPatch, rfl⟩, same⟩
  · rintro ⟨_, ⟨major, minor, patch, ofMajor, ofMinor, ofPatch, rfl⟩, same⟩
    exact ⟨major, minor, patch, ofMajor, ofMinor, ofPatch, same⟩

theorem isDigit_of_isAsciiDigit {c : Char} (digit : isAsciiDigit c = true) :
  isDigit c = true
  := by
  rw [isAsciiDigit, Bool.and_eq_true, decide_eq_true_eq, decide_eq_true_eq] at digit
  have least : 0x30 ≤ c.toNat := digit.1
  have most : c.toNat ≤ 0x39 := digit.2
  rw [isDigit, digitValue?, Option.isSome_map, List.find?_isSome]
  refine ⟨0x30, List.mem_cons_self, ?_⟩
  rw [Bool.and_eq_true, decide_eq_true_eq, decide_eq_true_eq]
  omega

theorem isVersion_of_isSemver (semver : t.IsSemver) :
  t.IsVersion
  := by
  obtain ⟨cs, runs, same⟩ := isSemver_iff.mp semver
  exact ⟨cs, runs.of_digits fun _ _ => isDigit_of_isAsciiDigit, .inl same⟩

theorem isPlain_of_isSemver (semver : t.IsSemver) :
  t.IsPlain
  := by
  intro l mem
  obtain ⟨cs, runs, rfl⟩ := isSemver_iff.mp semver
  obtain ⟨c, mem', rfl⟩ := List.mem_map.mp mem
  exact ⟨c, rfl, runs.mem mem'⟩

/-- A version is semantic unless it has a letter that is neither an ASCII digit nor a point. -/
theorem isSemver_iff_isPlain (version : t.IsVersion) :
  t.IsSemver ↔ t.IsPlain
  := by
  constructor
  · apply isPlain_of_isSemver
  · intro plain
    obtain ⟨cs, runs, ends⟩ := version
    obtain rfl | rfl := ends
    · refine isSemver_iff.mpr ⟨cs, runs.of_digits ?_, rfl⟩
      intro c mem digit
      obtain ⟨_, ⟨⟩, ascii | rfl⟩ := plain (.char c) (List.mem_map_of_mem mem)
      · exact ascii
      · exact absurd digit (by decide)
    · -- A line feed is neither a digit nor a point.
      obtain ⟨_, ⟨⟩, none⟩ := plain (.char '\n') (List.mem_map_of_mem (by simp))
      exact absurd none (by decide)

end Text

theorem Codex.isVersion_iff {t : Text} :
  isVersion t = true ↔ t.IsVersion
  := by
  rw [isVersion]
  constructor
  · split
    · rename_i rest given
      obtain ⟨cs, chars, after⟩ := Option.bind_eq_some_iff.mp given
      obtain ⟨front, runs, rfl, -⟩ := afterRuns?_eq_some_iff.mp after
      rw [Text.chars?_eq_some_iff.mp chars, Bool.or_eq_true, beq_iff_eq, beq_iff_eq]
      rintro (rfl | rfl)
      · exact ⟨front, runs, .inl (by rw [List.append_nil])⟩
      · exact ⟨front, runs, .inr rfl⟩
    · rintro ⟨⟩
  · rintro ⟨front, runs, rfl | rfl⟩
    · have after : afterRuns? 2 front = some [] :=
        afterRuns?_eq_some_iff.mpr ⟨front, runs, by simp, by rintro _ ⟨⟩⟩
      rw [Text.chars?_ofChars, Option.bind_some, after]
      rfl
    · have after : afterRuns? 2 (front ++ ['\n']) = some ['\n'] := by
        refine afterRuns?_eq_some_iff.mpr ⟨front, runs, rfl, ?_⟩
        rintro _ ⟨⟩
        decide
      rw [Text.chars?_ofChars, Option.bind_some, after]
      rfl

end ReflexPolicy

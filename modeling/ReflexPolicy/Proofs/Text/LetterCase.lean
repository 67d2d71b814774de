import Mathlib.Tactic.Common
import ReflexPolicy.Pattern.Basic

/-!
# What letter case does not change

A function on characters ignores letter case if it does not tell the capitals of ASCII from the
small letters.  The caseless form of a character ignores it, and so do its lower case and the
classes of characters that patterns are written in.
-/

namespace ReflexPolicy.Text

variable {α : Type} {f : Char → α}

/-- The function does not tell the capitals of ASCII from the small letters. -/
def IgnoresCase (f : Char → α) : Prop := ∀ c, f (lowerAscii c) = f c

/-- A character that is changed is one of the capitals. -/
theorem lowerAscii_cases (c : Char) :
  lowerAscii c = c ∨ ∃ n < 26, c = Char.ofNat ('A'.toNat + n)
  := by
  rw [lowerAscii]
  split
  · rename_i capital
    simp only [Bool.and_eq_true, decide_eq_true_eq] at capital
    have low : 'A'.toNat ≤ c.toNat := capital.1
    have high : c.toNat ≤ 'Z'.toNat := capital.2
    refine .inr ⟨c.toNat - 'A'.toNat, ?_, ?_⟩
    · simp only [Char.reduceToNat] at low high ⊢
      omega
    · rw [Nat.add_sub_cancel' low, Char.ofNat_toNat]
  · exact .inl rfl

/-- A function that agrees on the two cases of each letter ignores letter case. -/
theorem ignoresCase_of_capitals
    (agrees : ∀ n < 26, f (lowerAscii (Char.ofNat ('A'.toNat + n))) = f (Char.ofNat ('A'.toNat + n))) :
  IgnoresCase f
  := by
  intro c
  obtain same | ⟨n, few, rfl⟩ := lowerAscii_cases c
  · rw [same]
  · exact agrees n few

theorem ignoresCase_fold :
  IgnoresCase fold
  := ignoresCase_of_capitals (by decide)

theorem ignoresCase_lowerChar :
  IgnoresCase lowerChar
  := ignoresCase_of_capitals (by decide)

theorem ignoresCase_isWord :
  IgnoresCase isWord
  := ignoresCase_of_capitals (by decide)

theorem ignoresCase_has (k : CharClass) :
  IgnoresCase k.has
  := by
  apply ignoresCase_of_capitals
  cases k <;> decide

/-! ### Texts that differ in letter case -/

variable {cs cs' : List Char}

/-- The texts differ only in the case of ASCII letters. -/
def SameButCase (cs cs' : List Char) : Prop := cs.map lowerAscii = cs'.map lowerAscii

theorem isEmpty_of_sameButCase (same : SameButCase cs cs') :
  cs.isEmpty = cs'.isEmpty
  := by rw [← List.isEmpty_map, same, List.isEmpty_map]

theorem lower_of_sameButCase (same : SameButCase cs cs') :
  lower cs = lower cs'
  := by
  have ignores (cs : List Char) : lower (cs.map lowerAscii) = lower cs := by
    rw [lower, List.flatMap_map]
    exact congrArg cs.flatMap (funext ignoresCase_lowerChar)
  rw [← ignores cs, same, ignores cs']

theorem isWordAt_of_map_eq {c d : Option Char} (same : c.map lowerAscii = d.map lowerAscii) :
  isWordAt c = isWordAt d
  := by
  have ignores (c : Option Char) : isWordAt (c.map lowerAscii) = isWordAt c := by
    cases c with
    | none => rfl
    | some c => exact ignoresCase_isWord c
  rw [← ignores c, same, ignores d]

end ReflexPolicy.Text

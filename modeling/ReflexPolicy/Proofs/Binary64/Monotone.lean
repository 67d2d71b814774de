import ReflexPolicy.Proofs.Binary64.Places

/-!
# Operations that keep the order

Rounding a quotient keeps the order of what is rounded.  So do the operations that round: sums of
numbers that are not negative (`add_le_add`), and roundings to decimal places
(`roundPlaces_le_roundPlaces`).  Minima keep it as they are.
-/

namespace ReflexPolicy

/-! ### Rounded quotients -/

theorem roundDiv_le_roundDiv {num num' den : Nat} (h : num ≤ num') :
  roundDiv num den ≤ roundDiv num' den
  := by
  obtain same | lt := Nat.eq_or_lt_of_le (Nat.div_le_div_right (c := den) h)
  · -- With the same quotient, the larger number has the larger remainder.
    have rest : num % den ≤ num' % den := by
      have split := Nat.div_add_mod num den
      have split' := Nat.div_add_mod num' den
      rw [same] at split
      omega
    simp only [roundDiv, same]
    split_ifs <;> omega
  · calc
      roundDiv num den ≤ num / den + 1 := roundDiv_le num den
      _ ≤ num' / den := lt
      _ ≤ roundDiv num' den := le_roundDiv num' den

/-- The leading power of two of a quotient is not rounded below itself. -/
theorem two_pow_log2_le_roundUnits {num den : Nat} (pos : num / den ≠ 0) :
  2 ^ (num / den).log2 ≤ roundUnits num den
  := by
  have lead : 2 ^ (num / den).log2 ≤ num / den := Nat.log2_self_le pos
  rw [roundUnits, Nat.shiftLeft_eq, Nat.shiftLeft_eq]
  generalize (num / den).log2 = e at lead ⊢
  have apart : 2 ^ e = 2 ^ (e - (e - 52)) * 2 ^ (e - 52) := by
    rw [← Nat.pow_add]
    congr 1
    omega
  calc
    2 ^ e = 2 ^ (e - (e - 52)) * 2 ^ (e - 52) := apart
    _ ≤ num / (den * 2 ^ (e - 52)) * 2 ^ (e - 52) := by
      apply Nat.mul_le_mul_right
      rw [← Nat.div_div_eq_div_mul, Nat.le_div_iff_mul_le (Nat.two_pow_pos _), ← apart]
      exact lead
    _ ≤ roundDiv num (den * 2 ^ (e - 52)) * 2 ^ (e - 52) :=
      Nat.mul_le_mul_right _ (le_roundDiv _ _)

theorem roundUnits_le_roundUnits {num num' den : Nat} (pos : 0 < den) (h : num ≤ num') :
  roundUnits num den ≤ roundUnits num' den
  := by
  have quotients : num / den ≤ num' / den := Nat.div_le_div_right h
  by_cases lead : (num' / den).log2 ≤ (num / den).log2
  · have same : (num / den).log2 = (num' / den).log2 := by
      apply Nat.le_antisymm _ lead
      by_cases zero : num / den = 0
      · simp [zero]
      · have ne : num' / den ≠ 0 := by
          intro zero'
          rw [zero', Nat.le_zero] at quotients
          exact zero quotients
        rw [Nat.le_log2 ne]
        apply Nat.le_trans (Nat.log2_self_le zero) quotients
    rw [roundUnits, roundUnits, same, Nat.shiftLeft_eq, Nat.shiftLeft_eq, Nat.shiftLeft_eq]
    apply Nat.mul_le_mul_right
    apply roundDiv_le_roundDiv h
  · -- A power of two lies between the two quotients, and is not rounded past.
    have ne : num' / den ≠ 0 := by
      intro zero
      simp [zero] at lead
    have below : num ≤ 2 ^ (num' / den).log2 * den := by
      apply Nat.le_of_lt
      rw [← Nat.div_lt_iff_lt_mul pos]
      by_cases zero : num / den = 0
      · rw [zero]
        apply Nat.two_pow_pos
      · rw [← Nat.log2_lt zero]
        omega
    calc
      roundUnits num den ≤ 2 ^ (num' / den).log2 := roundUnits_le_two_pow below
      _ ≤ roundUnits num' den := two_pow_log2_le_roundUnits ne

theorem roundDiv_zero (den : Nat) :
  roundDiv 0 den = 0
  := Nat.le_zero.mp (roundDiv_le_of_le_mul (Nat.zero_le _))

theorem roundUnits_zero (den : Nat) :
  roundUnits 0 den = 0
  := by
  rw [roundUnits, roundDiv_zero, Nat.shiftLeft_eq, Nat.zero_mul]

/-- The place on the line of a quotient of units that is rounded into the format. -/
def Extended.rounded (num den : Nat) : Extended :=
  if roundUnits num den < unitsLimit then .units (roundUnits num den) else .top

theorem Extended.rounded_le_rounded {num num' den : Nat} (pos : 0 < den) (h : num ≤ num') :
  (rounded num den).le (rounded num' den) = true
  := by
  have mono := roundUnits_le_roundUnits pos h
  simp only [rounded]
  split
  · split
    · simpa [le] using mono
    · rfl
  · rename_i beyond
    rw [if_neg (by omega)]
    rfl

theorem Extended.le_of_rounded_le {num den n : Nat}
    (h : (rounded num den).le (units n) = true) :
  roundUnits num den ≤ n
  := by
  rw [rounded] at h
  split at h
  · simpa [le] using h
  · simp [le] at h

theorem Extended.zero_le_rounded {num den : Nat} :
  (units 0).le (rounded num den) = true
  := by
  rw [rounded]
  split
  · simp [le]
  · rfl

namespace Binary64

/-! ### Numbers that are not negative -/

/-- Units with their sign that stand for a number that is not negative. -/
theorem signed_of_unsigned {s : Bool} {u : Nat} (unsigned : s = true → u = 0) :
  signed s u = u
  := by
  cases s with
  | false => rfl
  | true => simp [signed, unsigned rfl]

/-- A number that is not negative is infinite, or so many units; only zero may bear a minus
sign. -/
theorem cases_of_zero_le {x : Binary64} (h : le 0 x = true) :
  (∃ s u fits, x = .finite s u fits ∧ (s = true → u = 0)) ∨ x = .infinite false
  := by
  obtain ⟨zero, place, atZero, atPlace, above⟩ := le_iff.mp h
  rw [extended?_zero, Option.some.injEq] at atZero
  subst atZero
  cases x with
  | nan => cases atPlace
  | infinite s =>
    cases s with
    | false => exact .inr rfl
    | true =>
      cases atPlace
      simp [Extended.le] at above
  | finite s u fits =>
    cases atPlace
    refine .inl ⟨s, u, fits, rfl, ?_⟩
    rintro rfl
    simpa [Extended.le, signed] using above

/-- What is not a number below zero is no number at all, or not negative. -/
theorem nan_or_zero_le {x : Binary64} (h : x.lt 0 = false) :
  x = .nan ∨ le 0 x = true
  := by
  cases number : x.isNan with
  | true =>
    cases x with
    | nan => exact .inl rfl
    | infinite s => cases number
    | finite s u fits => cases number
  | false => exact .inr ((lt_eq_false_iff number (isNan_of_isUnit isUnit_zero)).mp h)

theorem le_infinite {x : Binary64} (h : x.isNan = false) :
  x.le (.infinite false) = true
  := by
  obtain ⟨place, atPlace⟩ := extended?_of_isNan h
  refine le_iff.mpr ⟨place, .top, atPlace, rfl, ?_⟩
  cases place <;> rfl

/-- The place of units rounded into the format, where only zero may bear a minus sign. -/
theorem extended?_ofUnits {s : Bool} {num den : Nat} (unsigned : s = true → num = 0) :
  (ofUnits s num den).extended? = some (.rounded num den)
  := by
  have sign (h : s = true) : roundUnits num den = 0 := by rw [unsigned h, roundUnits_zero]
  rw [ofUnits, Extended.rounded]
  split
  · rw [extended?, signed_of_unsigned sign]
  · rename_i beyond
    cases s with
    | false => rfl
    | true =>
      rw [sign rfl] at beyond
      exact absurd (representable_zero.1) beyond

theorem zero_le_zero :
  le 0 0 = true
  := le_refl (isNan_of_isUnit isUnit_zero)

/-! ### Sums -/

variable {a b c d : Binary64}

/-- The place of a sum of finite numbers that are not negative. -/
theorem extended?_add {s t : Bool} {u v : Nat} {fits : Representable u} {fits' : Representable v}
    (hs : s = true → u = 0) (ht : t = true → v = 0) :
  ((finite s u fits).add (finite t v fits')).extended? = some (.rounded (u + v) 1)
  := by
  rw [add, signed_of_unsigned hs, signed_of_unsigned ht]
  have size : ((u : Int) + v).natAbs = u + v := by omega
  simp only [size]
  apply extended?_ofUnits
  split
  · intro _
    omega
  · intro negative
    have := of_decide_eq_true negative
    omega

theorem isNan_add (ha : le 0 a = true) (hb : le 0 b = true) :
  (a.add b).isNan = false
  := by
  obtain ⟨s, u, fits, rfl, hs⟩ | rfl := cases_of_zero_le ha
  · obtain ⟨t, v, fits', rfl, ht⟩ | rfl := cases_of_zero_le hb
    · cases sum : (finite s u fits).add (finite t v fits') with
      | nan =>
        have place : ((finite s u fits).add (finite t v fits')).extended? = some _ :=
          extended?_add hs ht
        rw [sum] at place
        cases place
      | infinite s => rfl
      | finite s u fits => rfl
    · rfl
  · obtain ⟨t, v, fits', rfl, ht⟩ | rfl := cases_of_zero_le hb
    · rfl
    · rfl

/-- Sums keep the order of numbers that are not negative. -/
theorem add_le_add (ha : le 0 a = true) (hb : le 0 b = true) (hac : a.le c = true)
    (hbd : b.le d = true) :
  (a.add b).le (c.add d) = true
  := by
  have number := isNan_add ha hb
  obtain ⟨s, w, fits, rfl, hs⟩ | rfl := cases_of_zero_le (le_trans ha hac)
  · obtain ⟨t, x, fits', rfl, ht⟩ | rfl := cases_of_zero_le (le_trans hb hbd)
    · obtain ⟨s', u, fits'', rfl, hs'⟩ | rfl := cases_of_zero_le ha
      · obtain ⟨t', v, fits''', rfl, ht'⟩ | rfl := cases_of_zero_le hb
        · refine le_iff.mpr ⟨_, _, extended?_add hs' ht', extended?_add hs ht, ?_⟩
          apply Extended.rounded_le_rounded (by decide)
          simp only [le, extended?, signed_of_unsigned hs, signed_of_unsigned hs',
            Extended.holds, Extended.le, decide_eq_true_eq] at hac
          simp only [le, extended?, signed_of_unsigned ht, signed_of_unsigned ht',
            Extended.holds, Extended.le, decide_eq_true_eq] at hbd
          omega
        · simp [le, extended?, Extended.holds, Extended.le] at hbd
      · simp [le, extended?, Extended.holds, Extended.le] at hac
    · exact le_infinite number
  · obtain ⟨t, x, fits', rfl, ht⟩ | rfl := cases_of_zero_le (le_trans hb hbd)
    · exact le_infinite number
    · exact le_infinite number

/-- Adding zero does not change the value of a number that is not negative. -/
theorem extended?_add_zero (ha : le 0 a = true) (hb : b.extended? = some (.units 0)) :
  (a.add b).extended? = a.extended?
  := by
  obtain ⟨t, v, fits', rfl, rfl⟩ : ∃ t v fits', b = .finite t v fits' ∧ v = 0 := by
    cases b with
    | nan => cases hb
    | infinite t => cases t <;> cases hb
    | finite t v fits' =>
      refine ⟨t, v, fits', rfl, ?_⟩
      cases t <;> simpa [extended?, signed] using hb
  obtain ⟨s, u, fits, rfl, hs⟩ | rfl := cases_of_zero_le ha
  · rw [extended?_add hs (fun _ => rfl), extended?, signed_of_unsigned hs, Nat.add_zero,
      Extended.rounded, roundUnits_of_significant fits.2, if_pos fits.1]
  · rfl

/-- A sum is not below its first term when the second one is not negative. -/
theorem le_add (ha : le 0 a = true) (hb : le 0 b = true) :
  a.le (a.add b) = true
  := by
  have above : (a.add 0).le (a.add b) = true :=
    add_le_add ha zero_le_zero (le_refl (isNan_of_le_right ha)) hb
  rwa [le, extended?_add_zero ha extended?_zero] at above

theorem add_nan (a : Binary64) :
  a.add .nan = .nan
  := by
  cases a <;> rfl

/-! ### Minima -/

theorem min_nan (a : Binary64) :
  a.min .nan = a
  := by
  rw [min, if_neg]
  simp [lt, extended?, Extended.holds]

theorem min_le_right (ha : a.isNan = false) (hb : b.isNan = false) :
  (a.min b).le b = true
  := by
  rw [min]
  split
  · apply le_refl hb
  · rename_i not_lt
    apply (lt_eq_false_iff hb ha).mp
    simpa using not_lt

theorem min_le_min_left (ha : a.isNan = false) (h : b.le c = true) :
  (a.min b).le (a.min c) = true
  := by
  apply le_min
  · apply min_le_left ha
  · apply le_trans (min_le_right ha (isNan_of_le_left h)) h

theorem le_max_left (ha : a.isNan = false) :
  a.le (a.max b) = true
  := by
  rw [max]
  split
  · rename_i lt
    apply le_of_lt lt
  · apply le_refl ha

/-! ### Decimal places -/

/-- The place of a finite number that is not negative, rounded to decimal places. -/
theorem extended?_roundPlaces {places : Nat} {s : Bool} {u : Nat} {fits : Representable u}
    (hs : s = true → u = 0) :
  ((finite s u fits).roundPlaces places).extended?
    = some (.rounded (roundDiv (u * tenTo places) unitsPerOne * unitsPerOne) (tenTo places))
  := by
  apply extended?_ofUnits
  intro negative
  rw [hs negative, Nat.zero_mul, roundDiv_zero, Nat.zero_mul]

theorem tenTo_pos (places : Nat) :
  0 < tenTo places
  := Nat.pow_pos (by decide)

theorem isNan_roundPlaces {x : Binary64} (places : Nat) (h : x.isNan = false) :
  (x.roundPlaces places).isNan = false
  := by
  cases x with
  | nan => cases h
  | infinite s => rfl
  | finite s u fits =>
    rw [roundPlaces, ofRatio, ofUnits]
    split <;> rfl

/-- Rounding to decimal places keeps the order of numbers that are not negative. -/
theorem roundPlaces_le_roundPlaces {x y : Binary64} (places : Nat) (hx : le 0 x = true)
    (h : x.le y = true) :
  (x.roundPlaces places).le (y.roundPlaces places) = true
  := by
  obtain ⟨s, v, fits, rfl, hs⟩ | rfl := cases_of_zero_le (le_trans hx h)
  · obtain ⟨s', u, fits', rfl, hs'⟩ | rfl := cases_of_zero_le hx
    · refine le_iff.mpr ⟨_, _, extended?_roundPlaces hs', extended?_roundPlaces hs, ?_⟩
      apply Extended.rounded_le_rounded (tenTo_pos places)
      apply Nat.mul_le_mul_right
      apply roundDiv_le_roundDiv
      apply Nat.mul_le_mul_right
      simpa [le, extended?, signed_of_unsigned hs, signed_of_unsigned hs', Extended.holds,
        Extended.le] using h
    · simp [le, extended?, Extended.holds, Extended.le] at h
  · exact le_infinite (isNan_roundPlaces places (isNan_of_le_left h))

theorem zero_le_roundPlaces {x : Binary64} (places : Nat) (h : le 0 x = true) :
  le 0 (x.roundPlaces places) = true
  := by
  obtain ⟨s, u, fits, rfl, hs⟩ | rfl := cases_of_zero_le h
  · exact le_iff.mpr ⟨_, _, extended?_zero, extended?_roundPlaces hs, Extended.zero_le_rounded⟩
  · exact h

end Binary64

end ReflexPolicy

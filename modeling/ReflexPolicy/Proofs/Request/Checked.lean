import ReflexPolicy.Evaluation
import ReflexPolicy.Proofs.Binary64.Order
import ReflexPolicy.Proofs.Success

/-!
# Checked requests

A request that has been checked has scores of the unit interval only, so that the score of every
reflex is one: a reflex without a score has the score zero.
-/

namespace ReflexPolicy

theorem rejected_of_ofRejection {α : Type} {x : Except Rejection α} {e : Fault}
    (failed : Fault.ofRejection x = .error e) :
  ∃ r, e = .rejected r
  := by
  cases x with
  | ok a => cases failed
  | error r =>
    cases failed
    exact ⟨r, rfl⟩

theorem isUnit_of_checkScore {id v : Value} {x : Binary64} (h : checkScore id v = .ok x) :
  x.isUnit = true
  := by
  rw [checkScore] at h
  split at h
  · cases h
  · split at h
    · cases h
    · split at h
      · rename_i unit
        cases h
        apply unit
      · cases h

theorem isUnit_of_checkScores {es : List (Scalar × Value)} {scores : Entries Text Binary64}
    (h : checkScores es = .ok scores) :
  ∀ e ∈ scores, e.2.isUnit = true
  := by
  induction es generalizing scores with
  | nil =>
    cases h
    simp
  | cons e rest ih =>
    obtain ⟨k, v⟩ := e
    cases k with
    | text id =>
      simp only [checkScores, bind_eq_ok, pure_eq_ok] at h
      obtain ⟨x, checked, others, checkedOthers, rfl⟩ := h
      rw [List.forall_mem_cons]
      exact ⟨isUnit_of_checkScore checked, ih checkedOthers⟩
    | _ => simp [checkScores] at h

/-! ### Drafts that pass -/

theorem ofRejection_eq_ok_iff {α : Type} {x : Except Rejection α} {a : α} :
  Fault.ofRejection x = .ok a ↔ x = .ok a
  := by
  cases x <;> simp [Fault.ofRejection]

/-- Every field of a draft passes its check, and the request holds what comes of it. -/
structure Draft.Passes (d : Draft) (r : Request) : Prop where
  tier : Tier.parse d.tier = .ok r.tier
  mode : Mode.parse d.mode = .ok r.mode
  citation : CitationOverride.parse d.citation = .ok r.citation
  omission : OmissionOverride.parse d.omission = .ok r.omission
  scores : ∃ es, d.scores.entries? = some es ∧ checkScores es = .ok r.scores
  age : checkAge d.age = .ok r.age
  external : checkExternal d.externalClaim = .ok r.externalClaim
  profile : checkProfile d.profile = .ok r.profile

/-- A draft is turned into the request that it passes as. -/
theorem Draft.validate_eq_ok_iff {d : Draft} {r : Request} :
  d.validate = .ok r ↔ d.Passes r
  := by
  simp only [Draft.validate, bind_eq_ok, ofRejection_eq_ok_iff]
  constructor
  · rintro ⟨tier, tierPassed, mode, modePassed, citation, citationPassed, omission, omissionPassed,
      valid⟩
    split at valid
    · rename_i es entries
      simp only [bind_eq_ok, ofRejection_eq_ok_iff, pure_eq_ok] at valid
      obtain ⟨es', same, scores, checked, age, aged, external, claimed, profile, named, rfl⟩ := valid
      cases same
      exact ⟨tierPassed, modePassed, citationPassed, omissionPassed, ⟨es, entries, checked⟩, aged,
        claimed, named⟩
    · obtain ⟨es, failed, -⟩ := bind_eq_ok.mp valid
      cases failed
  · rintro ⟨tier, mode, citation, omission, ⟨es, entries, checked⟩, age, external, profile⟩
    refine ⟨r.tier, tier, r.mode, mode, r.citation, citation, r.omission, omission, ?_⟩
    rw [entries]
    simp only [bind_eq_ok, ofRejection_eq_ok_iff, pure_eq_ok]
    exact ⟨es, rfl, r.scores, checked, r.age, age, r.externalClaim, external, r.profile, profile,
      rfl⟩

theorem isUnit_of_validate {d : Draft} {r : Request} (valid : d.validate = .ok r) :
  ∀ e ∈ r.scores, e.2.isUnit = true
  := by
  obtain ⟨es, -, checked⟩ := (Draft.validate_eq_ok_iff.mp valid).scores
  exact isUnit_of_checkScores checked

/-! ### Drafts that fail -/

/-- Some of the scores is a whole number beyond the format, and those before it pass their checks. -/
def Overflows (es : Entries Scalar Value) : Prop :=
  ∃ before id n after, es = before ++ (.text id, .int n) :: after
    ∧ (∃ scores, checkScores before = .ok scores) ∧ Binary64.ofInt? n = none

theorem overflows_cons {id : Text} {v : Value} {x : Binary64} {es : Entries Scalar Value}
    (checked : checkScore (.text id) v = .ok x) (overflows : Overflows es) :
  Overflows ((.text id, v) :: es)
  := by
  obtain ⟨before, id', n, after, rfl, ⟨scores, checkedBefore⟩, beyond⟩ := overflows
  refine ⟨(.text id, v) :: before, id', n, after, rfl, ⟨(id, x) :: scores, ?_⟩, beyond⟩
  simp only [checkScores, checked, checkedBefore]
  rfl

/-- A score that fails its check is rejected, unless it is a whole number beyond the format. -/
theorem rejected_or_of_checkScore {id v : Value} {e : Fault} (failed : checkScore id v = .error e) :
  (∃ r, e = .rejected r) ∨ e = .tooLarge ∧ ∃ n, v = .int n ∧ Binary64.ofInt? n = none
  := by
  rw [checkScore] at failed
  split at failed
  · cases failed
    exact .inl ⟨_, rfl⟩
  · rename_i n number
    obtain rfl := Value.number?_eq_some_iff.mp number
    split at failed
    · rename_i beyond
      cases failed
      cases n with
      | whole n => exact .inr ⟨rfl, n, rfl, beyond⟩
      | float x => cases beyond
    · split at failed
      · cases failed
      · cases failed
        exact .inl ⟨_, rfl⟩

/-- Scores that fail their checks are rejected, unless one of them is beyond the format. -/
theorem rejected_or_of_checkScores {es : Entries Scalar Value} {e : Fault}
    (failed : checkScores es = .error e) :
  (∃ r, e = .rejected r) ∨ e = .tooLarge ∧ Overflows es
  := by
  induction es with
  | nil => cases failed
  | cons entry rest ih =>
    obtain ⟨k, v⟩ := entry
    cases k with
    | text id =>
      rw [checkScores] at failed
      obtain failed | ⟨x, checked, failed⟩ := bind_eq_error.mp failed
      · obtain rejected | ⟨rfl, n, rfl, beyond⟩ := rejected_or_of_checkScore failed
        · exact .inl rejected
        · exact .inr ⟨rfl, [], id, n, rest, rfl, ⟨[], rfl⟩, beyond⟩
      · obtain failed | ⟨scores, -, failed⟩ := bind_eq_error.mp failed
        · exact (ih failed).imp_right fun ⟨same, overflows⟩ =>
            ⟨same, overflows_cons checked overflows⟩
        · cases failed
    | _ =>
      cases failed
      exact .inl ⟨_, rfl⟩

theorem checkScore_of_beyond {id : Value} {n : Number} (beyond : n.toBinary64? = none) :
  checkScore id (.number n) = .error .tooLarge
  := by
  simp only [checkScore, Value.number?, beyond]

/-- A score beyond the format is found when those before it pass. -/
theorem checkScores_of_overflows {es : Entries Scalar Value} (overflows : Overflows es) :
  checkScores es = .error .tooLarge
  := by
  obtain ⟨before, id, n, after, rfl, ⟨scores, checked⟩, beyond⟩ := overflows
  induction before generalizing scores with
  | nil =>
    have checked : checkScore (.text id) (.int n) = .error .tooLarge :=
      checkScore_of_beyond beyond
    rw [List.nil_append, checkScores]
    exact bind_eq_error.mpr (.inl checked)
  | cons entry before ih =>
    obtain ⟨k, v⟩ := entry
    cases k with
    | text id =>
      simp only [checkScores, bind_eq_ok, pure_eq_ok] at checked
      obtain ⟨x, checked, others, checkedOthers, rfl⟩ := checked
      rw [List.cons_append, checkScores]
      exact bind_eq_error.mpr (.inr ⟨x, checked, bind_eq_error.mpr (.inl (ih others checkedOthers))⟩)
    | _ => simp [checkScores] at checked

/-- The fields of the draft that are looked at before its scores pass their checks, and some of its
scores is beyond the format. -/
structure Draft.Overflows (d : Draft) : Prop where
  tier : ∃ t, Tier.parse d.tier = .ok t
  mode : ∃ m, Mode.parse d.mode = .ok m
  citation : ∃ o, CitationOverride.parse d.citation = .ok o
  omission : ∃ o, OmissionOverride.parse d.omission = .ok o
  scores : ∃ es, d.scores.entries? = some es ∧ ReflexPolicy.Overflows es

theorem exists_of_ofRejection {α : Type} {x : Except Rejection α} {a : α}
    (passed : Fault.ofRejection x = .ok a) :
  ∃ a, x = .ok a
  := by
  cases x with
  | ok a => exact ⟨a, rfl⟩
  | error r => cases passed

/-- A draft that fails its checks is rejected, unless one of its scores is beyond the format. -/
theorem rejected_or_of_validate {d : Draft} {e : Fault} (failed : d.validate = .error e) :
  (∃ r, e = .rejected r) ∨ e = .tooLarge ∧ d.Overflows
  := by
  simp only [Draft.validate] at failed
  obtain failed | ⟨tier, tierPassed, failed⟩ := bind_eq_error.mp failed
  · exact .inl (rejected_of_ofRejection failed)
  obtain failed | ⟨mode, modePassed, failed⟩ := bind_eq_error.mp failed
  · exact .inl (rejected_of_ofRejection failed)
  obtain failed | ⟨citation, citationPassed, failed⟩ := bind_eq_error.mp failed
  · exact .inl (rejected_of_ofRejection failed)
  obtain failed | ⟨omission, omissionPassed, failed⟩ := bind_eq_error.mp failed
  · exact .inl (rejected_of_ofRejection failed)
  split at failed
  case h_2 =>
    cases failed
    exact .inl ⟨_, rfl⟩
  rename_i es entries
  change checkScores es >>= _ = _ at failed
  obtain failed | ⟨scores, -, failed⟩ := bind_eq_error.mp failed
  · refine (rejected_or_of_checkScores failed).imp_right fun ⟨same, overflows⟩ => ⟨same, ?_⟩
    exact {
      tier := exists_of_ofRejection tierPassed
      mode := exists_of_ofRejection modePassed
      citation := exists_of_ofRejection citationPassed
      omission := exists_of_ofRejection omissionPassed
      scores := ⟨es, entries, overflows⟩ }
  obtain failed | ⟨age, -, failed⟩ := bind_eq_error.mp failed
  · exact .inl (rejected_of_ofRejection failed)
  obtain failed | ⟨external, -, failed⟩ := bind_eq_error.mp failed
  · exact .inl (rejected_of_ofRejection failed)
  obtain failed | ⟨profile, -, failed⟩ := bind_eq_error.mp failed
  · exact .inl (rejected_of_ofRejection failed)
  cases failed

theorem Draft.Overflows.validate {d : Draft} (overflows : d.Overflows) :
  d.validate = .error .tooLarge
  := by
  obtain ⟨⟨t, tier⟩, ⟨m, mode⟩, ⟨o, citation⟩, ⟨o', omission⟩, es, entries, overflows⟩ := overflows
  rw [Draft.validate, tier, mode, citation, omission, entries]
  refine bind_eq_error.mpr (.inr ⟨t, rfl, ?_⟩)
  refine bind_eq_error.mpr (.inr ⟨m, rfl, ?_⟩)
  refine bind_eq_error.mpr (.inr ⟨o, rfl, ?_⟩)
  refine bind_eq_error.mpr (.inr ⟨o', rfl, ?_⟩)
  refine bind_eq_error.mpr (.inr ⟨es, rfl, ?_⟩)
  exact bind_eq_error.mpr (.inl (checkScores_of_overflows overflows))

namespace Request

/-- The score of every reflex is one of the unit interval. -/
theorem isUnit_score {d : Draft} {r : Request} (valid : d.validate = .ok r) (id : Text) :
  (r.score id).isUnit = true
  := by
  have units := isUnit_of_validate valid
  simp only [score, Entries.getD]
  cases given : Entries.get? r.scores id with
  | none => exact Binary64.isUnit_zero
  | some x =>
    obtain ⟨id', -, mem⟩ := Entries.mem_of_get? given
    apply units _ mem

end Request

end ReflexPolicy

import ReflexPolicy.Proofs.Coalescer.Moment

/-!
# Looking after the agenda

The agenda is tidied in every turn and with almost every request.  What it loses is stale, and
nothing else changes: `tidy_trims` says so once for all.
-/

namespace ReflexPolicy.Coalescer

variable {σ α ρ : Type} [BEq σ]

namespace State

/-- An agenda holds what that of the state holds, but for stale appointments. -/
structure Trims (s : State σ α ρ) (agenda : Agenda (Deed σ)) : Prop where
  made : agenda.made = s.agenda.made
  filled : s.agenda.Filled → agenda.Filled
  ordered : s.agenda.IsOrdered → agenda.IsOrdered
  members : s.agenda.Filled → ∃ gone, s.agenda.members.Perm (gone ++ agenda.members)
    ∧ ∀ a ∈ gone, s.isStale a = true

theorem trims_self (s : State σ α ρ) :
  s.Trims s.agenda
  where
    made := rfl
    filled := id
    ordered := id
    members := fun _ => ⟨[], List.Perm.refl _, by simp⟩

theorem dropStale_trims (fuel : Nat) (s : State σ α ρ) :
  ∃ agenda stale, dropStale fuel s = { s with agenda := agenda, stale := stale }
    ∧ s.Trims agenda
  := by
  induction fuel generalizing s with
  | zero => exact ⟨s.agenda, s.stale, rfl, s.trims_self⟩
  | succ fuel ih =>
    rw [dropStale]
    split
    · rename_i a next
      split
      · rename_i stale
        obtain ⟨agenda, number, dropped, trims⟩ :=
          ih { s with agenda := s.agenda.dropNext, stale := s.stale - 1 }
        use agenda, number, dropped
        exact {
          made := trims.made.trans (Agenda.made_dropNext s.agenda)
          filled := fun filled => trims.filled (Agenda.filled_dropNext filled)
          ordered := fun ordered => trims.ordered (Agenda.isOrdered_dropNext ordered)
          members := by
            intro filled
            obtain ⟨gone, perm, all⟩ := trims.members (Agenda.filled_dropNext filled)
            use a :: gone
            constructor
            · exact (Agenda.members_dropNext next).trans (perm.cons a)
            · rw [List.forall_mem_cons]
              exact ⟨stale, all⟩ }
      · exact ⟨s.agenda, s.stale, rfl, s.trims_self⟩
    · exact ⟨s.agenda, s.stale, rfl, s.trims_self⟩

theorem tidy_trims (s : State σ α ρ) :
  ∃ agenda stale, s.tidy = { s with agenda := agenda, stale := stale } ∧ s.Trims agenda
  := by
  rw [tidy]
  split
  · refine ⟨_, _, rfl, ?_⟩
    exact {
      made := rfl
      filled := fun _ => Agenda.filled_rebuilt _ _
      ordered := fun _ => Agenda.isOrdered_rebuilt _ _
      members := by
        intro filled
        use s.agenda.members.filter s.isStale
        constructor
        · apply List.Perm.trans (List.filter_append_perm s.isStale s.agenda.members).symm
          exact (Agenda.members_rebuilt filled).symm.append_left _
        · exact fun a mem => (List.mem_filter.mp mem).2 }
  · apply dropStale_trims _ s

theorem pass_trims (s : State σ α ρ) :
  ∃ agenda stale, s.pass = { s with agenda := agenda, stale := stale, leaving := [] }
    ∧ s.Trims agenda
  := by
  obtain ⟨agenda, stale, tidied, trims⟩ := s.tidy_trims
  use agenda, stale
  rw [pass, tidied]
  exact ⟨rfl, trims⟩

theorem trims_tidy (s : State σ α ρ) :
  s.Trims s.tidy.agenda
  := by
  obtain ⟨agenda, stale, tidied, trims⟩ := s.tidy_trims
  rw [tidied]
  apply trims

theorem trims_pass (s : State σ α ρ) :
  s.Trims s.pass.agenda
  := s.trims_tidy

theorem now_pass (s : State σ α ρ) :
  s.pass.now = s.now
  := by
  obtain ⟨agenda, stale, passed, -⟩ := s.pass_trims
  rw [passed]

theorem slots_pass (s : State σ α ρ) :
  s.pass.slots = s.slots
  := by
  obtain ⟨agenda, stale, passed, -⟩ := s.pass_trims
  rw [passed]

theorem calls_pass (s : State σ α ρ) :
  s.pass.calls = s.calls
  := by
  obtain ⟨agenda, stale, passed, -⟩ := s.pass_trims
  rw [passed]

theorem submits_pass (s : State σ α ρ) :
  s.pass.submits = s.submits
  := by
  obtain ⟨agenda, stale, passed, -⟩ := s.pass_trims
  rw [passed]

end State

end ReflexPolicy.Coalescer

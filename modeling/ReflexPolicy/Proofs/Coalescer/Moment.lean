import Mathlib.Tactic.Common
import ReflexPolicy.Coalescer.Run
import ReflexPolicy.Proofs.Agenda.Filled

/-!
# Moments of a coalescer

A moment is a state together with the appointments that have been taken from its agenda and are
still to be done.  `Reached` says which moments there are: a request may come at any of them, and
between requests the clock jumps and what is due is done, one appointment after another.  It keeps
the requests as a log, each with the moment at which it came.  `reached_run` says that a run leads
through such moments only.
-/

namespace ReflexPolicy.Coalescer

/-- A state, and what was taken from its agenda and is still to be done. -/
structure Moment (σ α ρ : Type) where
  state : State σ α ρ
  due : List (Appointment (Deed σ))

/-- A request, and the moment at which it came. -/
structure Act (σ α ρ : Type) where
  before : Moment σ α ρ
  request : Request σ α

variable {σ α ρ : Type} [BEq σ]

namespace Act

/-- A submit of a session that comes while no call of the session runs. -/
def Joins (act : Act σ α ρ) (k : σ) (args : α) : Prop :=
  ∃ k', act.request = .submit k' args ∧ (k' == k) = true
    ∧ act.before.state.isRunning k = false

/-- A cancel of a session that has an open window. -/
def Leaves (act : Act σ α ρ) (k : σ) : Prop :=
  ∃ k', act.request = .cancel k' ∧ (k' == k) = true ∧ act.before.state.isPending k = true

/-- A request that lets the window of a session wait anew, or gives it up. -/
def Touches (act : Act σ α ρ) (k : σ) : Prop := (∃ args, act.Joins k args) ∨ act.Leaves k

/-- The request is a submit of the session that comes while no call of the session runs. -/
def joins (act : Act σ α ρ) (k : σ) : Bool :=
  match act.request with
  | .submit k' _ => k' == k && !act.before.state.isRunning k
  | _ => false

theorem joins_of_joins {act : Act σ α ρ} {k : σ} {args : α} (h : act.Joins k args) :
  act.joins k = true
  := by
  obtain ⟨k', request, same, free⟩ := h
  simp [joins, request, same, free]

end Act

/-- The moments that there are, each with the requests that came before it. -/
inductive Reached (c : Coalescer α ρ) : List (Act σ α ρ) → Moment σ α ρ → Prop where
  | start : Reached c [] { state := .start, due := [] }
  /-- A request comes. -/
  | ask {log : List (Act σ α ρ)} {m : Moment σ α ρ} (q : Request σ α) (before : Reached c log m) :
    Reached c (log ++ [{ before := m, request := q }]) { m with state := c.apply m.state q }
  /-- Someone goes to sleep until some time. -/
  | sleep {log : List (Act σ α ρ)} {m : Moment σ α ρ} (time : Nat) (before : Reached c log m) :
    Reached c log { m with state := m.state.appoint time .wake }
  /-- The clock jumps, and what is due is taken from the agenda. -/
  | jump {log : List (Act σ α ρ)} {s : State σ α ρ}
    (before : Reached c log { state := s, due := [] }) :
    Reached c log { state := (c.jump s.tidy).1.pass, due := (c.jump s.tidy).2 }
  /-- An appointment that is due is done. -/
  | perform {log : List (Act σ α ρ)} {s : State σ α ρ} {a : Appointment (Deed σ)}
    {due : List (Appointment (Deed σ))}
    (before : Reached c log { state := s, due := a :: due }) :
    Reached c log { state := c.perform s a, due := due }

/-- Every request came at a moment that there was, after the requests before it. -/
theorem reached_of_split {c : Coalescer α ρ} {log older newer : List (Act σ α ρ)}
    {m : Moment σ α ρ} {act : Act σ α ρ} (reached : Reached c log m)
    (split : log = older ++ act :: newer) :
  Reached c older act.before
  := by
  induction reached generalizing newer with
  | start => cases older <;> cases split
  | @ask log m q before ih =>
    obtain rfl | ⟨init, last, rfl⟩ := List.eq_nil_or_concat newer
    · obtain ⟨rfl, same⟩ := List.append_inj' split rfl
      cases same
      apply before
    · rw [List.concat_eq_append, ← List.cons_append, ← List.append_assoc] at split
      apply ih (List.append_inj' split rfl).1
  | sleep _ _ ih => apply ih split
  | jump _ ih => apply ih split
  | perform _ ih => apply ih split

theorem reached_of_mem {c : Coalescer α ρ} {log : List (Act σ α ρ)} {m : Moment σ α ρ}
    (reached : Reached c log m) {act : Act σ α ρ} (mem : act ∈ log) :
  ∃ older, Reached c older act.before
  := by
  obtain ⟨older, newer, split⟩ := List.append_of_mem mem
  exact ⟨older, reached_of_split reached split⟩

/-! ### Runs -/

/-- The requests of a run, each with the moment at which it comes. -/
def acts (c : Coalescer α ρ) : State σ α ρ → List (Timed σ α) → List (Act σ α ρ)
  | _, [] => []
  | s, r :: rest =>
    let before := c.sleepUntil r.time s
    { before := { state := before, due := [] }, request := r.request }
      :: acts c (c.apply before r.request) rest

variable {c : Coalescer α ρ} {log : List (Act σ α ρ)}

theorem reached_foldl {s : State σ α ρ} {due : List (Appointment (Deed σ))}
    (before : Reached c log { state := s, due := due }) :
  Reached c log { state := due.foldl c.perform s, due := [] }
  := by
  induction due generalizing s with
  | nil => exact before
  | cons a rest ih => exact ih (.perform before)

theorem turn_eq (c : Coalescer α ρ) (s : State σ α ρ) :
  (c.turn s).1 = (c.jump s.tidy).2.foldl c.perform (c.jump s.tidy).1.pass
  := rfl

theorem reached_turn {s : State σ α ρ} (before : Reached c log { state := s, due := [] }) :
  Reached c log { state := (c.turn s).1, due := [] }
  := reached_foldl (.jump before)

/-- What every turn keeps is kept until someone wakes up. -/
theorem turnsUntilAwake_induction {P : State σ α ρ → Prop} (turns : ∀ s, P s → P (c.turn s).1)
    (fuel : Nat) {s : State σ α ρ} (before : P s) :
  P (c.turnsUntilAwake fuel s)
  := by
  induction fuel generalizing s with
  | zero => exact before
  | succ fuel ih =>
    simp only [turnsUntilAwake]
    split
    · apply turns s before
    · apply ih (turns s before)

/-- What every turn keeps is kept to the end. -/
theorem turnsToTheEnd_induction {P : State σ α ρ → Prop} (turns : ∀ s, P s → P (c.turn s).1)
    (fuel : Nat) {s : State σ α ρ} (before : P s) :
  P (c.turnsToTheEnd fuel s)
  := by
  induction fuel generalizing s with
  | zero => exact before
  | succ fuel ih =>
    rw [turnsToTheEnd]
    split
    · apply before
    · apply ih (turns s before)

theorem reached_sleepUntil (time : Nat) {s : State σ α ρ}
    (before : Reached c log { state := s, due := [] }) :
  Reached c log { state := c.sleepUntil time s, due := [] }
  := by
  rw [sleepUntil]
  split
  · apply before
  · exact turnsUntilAwake_induction (P := fun s => Reached c log { state := s, due := [] })
      (fun _ => reached_turn) _ (before.sleep _)

theorem reached_drain {s : State σ α ρ} (before : Reached c log { state := s, due := [] }) :
  Reached c log { state := c.drain s, due := [] }
  := turnsToTheEnd_induction (P := fun s => Reached c log { state := s, due := [] })
    (fun _ => reached_turn) _ (before.sleep _)

/-- A run leads to a moment whose log has the requests of the run. -/
theorem reached_run {s : State σ α ρ} (requests : List (Timed σ α))
    (before : Reached c log { state := s, due := [] }) :
  Reached c (log ++ c.acts s requests) { state := (c.run s requests).1, due := [] }
  := by
  induction requests generalizing log s with
  | nil =>
    rw [acts, List.append_nil]
    apply before
  | cons r rest ih =>
    have more := ih (.ask r.request (reached_sleepUntil r.time before))
    rw [List.append_assoc] at more
    apply more

theorem reached_runOut (requests : List (Timed σ α)) :
  Reached c (c.acts .start requests) { state := (c.runOut requests).1, due := [] }
  := reached_drain (reached_run requests .start)

end ReflexPolicy.Coalescer

import ReflexPolicy.Proofs.Coalescer.Draining
import ReflexPolicy.Proofs.Coalescer.Lots

/-!
# What becomes of waiters

In a run to the end every waiter ends, and ends once.  `Answered` says when it ends and what it
gets, for every clock: a waiter that is dropped before anything else has ended it is cancelled then;
one whose window is given up is cancelled then; and any other gets what comes of the first call of
its session that ends after its submit, when that call ends.
-/

namespace ReflexPolicy.Coalescer

variable {σ α ρ : Type} [BEq σ]

/-- The times at which calls have ended, by their numbers: none that the clock tells from the time
at which the call was to end, and each in the order of the requests and of the calls of a session. -/
structure EndsAt (c : Coalescer α ρ) (ended : Nat → Nat) (log : List (Act σ α ρ))
    (calls : List (Made σ α)) : Prop where
  near : ∀ made ∈ calls, c.clock.Near (ended made.number) (made.endsAt c)
  before : ∀ act ∈ log, ∀ made, act.before.state.Over made →
    ended made.number ≤ act.before.state.now
  after : ∀ act ∈ log, ∀ made ∈ calls, ¬act.before.state.Over made →
    act.before.state.now ≤ ended made.number
  serial : calls.Pairwise fun made later => (made.session == later.session) = true →
    ended made.number ≤ later.time

/-- How the waiter of a submit ends, by what is asked for after the submit. -/
structure Resolved (c : Coalescer α ρ) (ended : Nat → Nat) (last : State σ α ρ) (k : σ)
    (act : Act σ α ρ) (newer : List (Act σ α ρ)) : Prop where
  dropped : ∀ b ∈ newer, b.Drops act.before.state.submits →
    Entries.get? last.endings act.before.state.submits =
      some { time := b.before.state.now, result := .cancelled }
  left : (∀ b ∈ newer, ¬b.Drops act.before.state.submits) →
    ∀ between b after, newer = between ++ b :: after → GivesUp k act between b →
      Entries.get? last.endings act.before.state.submits =
        some { time := b.before.state.now, result := .cancelled }
  called : Spared k act newer → ∃ made, act.First k last.calls made
    ∧ Entries.get? last.endings act.before.state.submits =
      some { time := ended made.number, result := c.result made.number made.args }

/-- Every waiter of a run ends, and as it should. -/
structure Answered (c : Coalescer α ρ) (log : List (Act σ α ρ)) (last : State σ α ρ) : Prop where
  /-- Each submit has a waiter of its own. -/
  numbered : log.filterMap Act.waiter? = List.range last.submits
  once : (Entries.keys last.endings).Perm (List.range last.submits)
  refused : ∀ act ∈ log, ∀ cause, act.request = .refused cause →
    Entries.get? last.endings act.before.state.submits =
      some { time := act.before.state.now, result := .refused cause }
  submitted : ∃ ended : Nat → Nat, EndsAt c ended log last.calls
    ∧ ∀ older act newer k args, log = older ++ act :: newer → act.request = .submit k args →
      Resolved c ended last k act newer
  /-- Two submits of a session end together when none of its calls ends between them. -/
  together : ∀ older act between later newer k k' args args',
    log = older ++ act :: (between ++ later :: newer) → act.request = .submit k args →
    later.request = .submit k' args' → (k == k') = true →
    (∀ made ∈ last.calls, (made.session == k) = true →
      (later.before.state.Over made ↔ act.before.state.Over made)) →
    Spared k act (between ++ later :: newer) → Spared k' later newer →
      Entries.get? last.endings later.before.state.submits =
        Entries.get? last.endings act.before.state.submits
  /-- A cancel ends no waiter of a call that runs. -/
  running : ∀ act ∈ log, ∀ k, act.request = .cancel k → ∀ k' call,
    (act.before.state.slot k').running = some call → ∀ w ∈ call.waiters,
      Entries.get? (c.apply act.before.state act.request).endings w =
        Entries.get? act.before.state.endings w

variable {c : Coalescer α ρ} {log : List (Act σ α ρ)} {m : Moment σ α ρ}

/-! ### Requests that decide -/

/-- Only one cancel gives up the window of a submit. -/
theorem GivesUp.unique {k : σ} {act b b' : Act σ α ρ} {between between' after after' :
    List (Act σ α ρ)} (gives : GivesUp k act between b) (gives' : GivesUp k act between' b')
    (split : between ++ b :: after = between' ++ b' :: after') :
  b = b'
  := by
  obtain ⟨more, rfl, rest⟩ | ⟨more, rfl, rest⟩ := List.append_eq_append_iff.mp split
  · cases more with
    | nil => exact (List.cons.inj rest).1
    | cons first more =>
      cases rest
      apply absurd gives.leaves
      apply gives'.first
      simp
  · cases more with
    | nil => exact (List.cons.inj rest).1.symm
    | cons first more =>
      cases rest
      apply absurd gives'.leaves
      apply gives.first
      simp

theorem GivesUp.not_spared {k : σ} {act b : Act σ α ρ} {between newer : List (Act σ α ρ)}
    (gives : GivesUp k act between b) (mem : b ∈ newer) :
  ¬Spared k act newer
  := by
  intro spared
  apply spared.kept b mem gives.joined gives.leaves gives.uncalled

/-- Requests between which no call of the session ends have the same first call after them. -/
theorem Act.First.of_over {k : σ} {act later : Act σ α ρ} {calls : List (Made σ α)}
    {made : Made σ α} (first : act.First k calls made)
    (same : ∀ made ∈ calls, (made.session == k) = true →
      (later.before.state.Over made ↔ act.before.state.Over made)) :
  later.First k calls made
  where
    mem := first.mem
    session := first.session
    after := by
      rw [same made first.mem first.session]
      apply first.after
    first := by
      intro other mem session
      rw [same other mem session]
      apply first.first other mem session

/-- When nothing is left to happen, no waiter waits any more. -/
theorem Lot.resolved {ended : Nat → Nat} {k : σ} {act : Act σ α ρ} {newer : List (Act σ α ρ)}
    (nothing : m.scheduled = []) (lot : Lot c ended m k act newer) :
  Resolved c ended m.state k act newer
  := by
  cases lot with
  | waiting _ _ stands =>
    obtain ⟨a, -, timers, -, -⟩ := stands.of_waiting
    rw [Moment.timers, nothing] at timers
    cases timers
  | calling _ _ calling =>
    have executions := calling.executions
    rw [Moment.executions, nothing] at executions
    cases executions
  | dropped mem drops once ending =>
    exact {
      dropped := by
        intro b member drops'
        rw [once b member drops']
        apply ending
      left := fun undropped => absurd drops (undropped _ mem)
      called := fun spared => absurd drops (spared.undropped _ mem) }
  | left undropped split gives ending =>
    exact {
      dropped := fun b member drops => absurd drops (undropped b member)
      left := by
        intro _ between b after split' gives'
        rw [split] at split'
        rw [← gives.unique gives' split']
        apply ending
      called := by
        intro spared
        apply absurd spared
        apply gives.not_spared
        rw [split]
        simp }
  | called spared first isOver ending =>
    exact {
      dropped := fun b member drops => absurd drops (spared.undropped b member)
      left := by
        intro _ between b after split gives
        apply absurd spared
        apply gives.not_spared
        rw [split]
        simp
      called := fun _ => ⟨_, first, ending⟩ }

theorem Lot.has {ended : Nat → Nat} {k : σ} {act : Act σ α ρ} {newer : List (Act σ α ρ)}
    (nothing : m.scheduled = []) (lot : Lot c ended m k act newer) :
  Entries.has m.state.endings act.before.state.submits = true
  := by
  by_contra free
  rw [Bool.not_eq_true] at free
  obtain ⟨-, ⟨_, _, _, stands, -⟩ | ⟨_, _, _, calling, -⟩⟩ := lot.of_free free
  · obtain ⟨a, -, timers, -, -⟩ := stands.of_waiting
    rw [Moment.timers, nothing] at timers
    cases timers
  · have executions := calling.executions
    rw [Moment.executions, nothing] at executions
    cases executions

variable [EquivBEq σ]

/-- Only one call is the first one after a request. -/
theorem Act.First.unique (reached : Reached c log m) {k : σ} {act : Act σ α ρ}
    {made made' : Made σ α} (first : act.First k m.state.calls made)
    (first' : act.First k m.state.calls made') :
  made = made'
  := by
  apply eq_of_number reached first.mem first'.mem
  apply Nat.le_antisymm
  · apply first.first made' first'.mem first'.session first'.after
  · apply first'.first made first.mem first.session first.after

/-! ### The end of a run -/

/-- A submit that cannot be made ends at once. -/
theorem refused_of_reached (reached : Reached c log m) :
  ∀ act ∈ log, ∀ cause, act.request = .refused cause →
    Entries.get? m.state.endings act.before.state.submits =
      some { time := act.before.state.now, result := .refused cause }
  := by
  induction reached with
  | start => nofun
  | @ask log m q before ih =>
    rw [List.forall_mem_append, List.forall_mem_singleton]
    constructor
    · intro act mem cause request
      apply (onward_ask c m q).endings
      apply ih act mem cause request
    · rintro cause rfl
      have free : Entries.has m.state.endings m.state.submits = false := by
        by_contra has
        rw [Bool.not_eq_false] at has
        apply Nat.lt_irrefl _ ((parted_of_reached before).ended _ has)
      apply get?_of_free free (endings_apply c m.state (.refused cause))
      apply List.mem_singleton_self
  | sleep time before ih => apply ih
  | @jump log s before ih =>
    simp only [(turn_waiters c s).2.2]
    apply ih
  | @perform log s a due before ih =>
    obtain ⟨waiters, r, endings, -⟩ :=
      (effect_of_phases (c := c) (phases_of_reached before)).settles
    intro act mem cause request
    rw [endings, get?_settle, ih act mem cause request, Option.some_or]

theorem running_of_reached (reached : Reached c log m) (k : σ) {k' : σ} {call : Running α}
    (running : (m.state.slot k').running = some call) {w : Nat} (mem : w ∈ call.waiters) :
  Entries.get? (c.apply m.state (.cancel k)).endings w = Entries.get? m.state.endings w
  := by
  have theirs : w ∈ (m.state.slot k').waiters := by
    rw [Slot.waiters, running]
    apply List.mem_append_right _ mem
  rw [endings_apply, get?_settle, if_neg, Option.or_none]
  intro ends
  have same := (parted_of_reached reached).apart k k' w (List.mem_append_left _ ends) theirs
  -- A session whose call runs has no open window.
  rw [Request.ended, slot_congr _ same] at ends
  obtain ⟨p, stands⟩ := phases_of_reached reached k'
  cases stands with
  | idle slot => rw [slot_of_none slot] at running; cases running
  | waiting slot => rw [slot_of_get? slot] at running; cases running
  | calling slot => rw [slot_of_get? slot] at ends; cases ends

theorem over_of_nothing (reached : Reached c log m) (nothing : m.scheduled = [])
    {made : Made σ α} (mem : made ∈ m.state.calls) :
  m.state.Over made
  := by
  apply over_of_free mem
  by_contra running
  rw [Bool.not_eq_false] at running
  obtain ⟨_, _, _, runs⟩ := runs_of_reached reached made.session running
  have scheduled := runs.calling.scheduled
  rw [nothing] at scheduled
  cases scheduled

theorem Act.First.congr {k k' : σ} {act : Act σ α ρ} {calls : List (Made σ α)} {made : Made σ α}
    (same : (k == k') = true) (first : act.First k calls made) :
  act.First k' calls made
  where
    mem := first.mem
    session := BEq.trans first.session same
    after := first.after
    first := fun other mem session =>
      first.first other mem (BEq.trans session (BEq.symm same))

/-- When nothing is left to happen, every waiter has ended as it should. -/
theorem answered_of_reached (reached : Reached c log m) (nothing : m.scheduled = []) :
  Answered c log m.state
  := by
  obtain ⟨ended, told, lots⟩ := lots_of_reached reached
  have parted := parted_of_reached reached
  have numbered := waiters_of_reached reached
  have refused := refused_of_reached reached
  have resolved := fun older act newer k args split request =>
    (lots older act newer k args split request).resolved nothing
  exact {
    numbered := numbered
    once := by
      rw [List.perm_ext_iff_of_nodup parted.nodup List.nodup_range]
      intro w
      rw [mem_keys_endings]
      constructor
      · exact fun has => List.mem_range.mpr (parted.ended w has)
      · intro mem
        obtain ⟨act, logged, rfl, ⟨k, args, request⟩ | ⟨cause, request⟩⟩ :=
          exists_act_of_waiter reached (List.mem_range.mp mem)
        · obtain ⟨older, newer, split⟩ := List.append_of_mem logged
          exact (lots older act newer k args split request).has nothing
        · exact has_of_get? (refused act logged cause request)
    refused := refused
    submitted := by
      refine ⟨ended, ?_, resolved⟩
      exact {
        near := fun made mem => (told.isOver made (over_of_nothing reached nothing mem)).2
        before := fun act mem made isOver => (told.before act mem made isOver).2
        after := fun act logged made mem =>
          told.after act logged made (over_of_nothing reached nothing mem)
        serial := told.serial.imp fun serial session => (serial session).2 }
    together := by
      intro older act between later newer k k' args args' split request request' same isOver
        spared spared'
      have split' : log = (older ++ act :: between) ++ later :: newer := by
        rw [split]
        simp
      obtain ⟨made, first, ending⟩ := (resolved _ _ _ k args split request).called spared
      obtain ⟨made', first', ending'⟩ := (resolved _ _ _ k' args' split' request').called spared'
      have one : made' = made :=
        first'.unique reached ((first.of_over isOver).congr same)
      rw [ending, ending', one]
    running := by
      intro act mem k request k' call running w waits
      obtain ⟨older, before⟩ := reached_of_mem reached mem
      rw [request]
      apply running_of_reached before k running waits }

/-- In a run to the end every waiter ends, and as it should. -/
theorem answered_runOut (c : Coalescer α ρ) (requests : List (Timed σ α)) :
  Answered c (c.acts .start requests) (c.runOut requests).1
  := answered_of_reached (reached_runOut requests)
    (scheduled_drain (reached_run requests .start))

/-- The value that a call has given. -/
def Result.value? : Result ρ → Option ρ
  | .value r => some r
  | _ => none

theorem answered_smallRequests :
  Answered smallCoalescer
      (smallCoalescer.acts .start (smallRequests ++ [{ time := 21, request := .drop 4 }]))
      (smallCoalescer.runOut (smallRequests ++ [{ time := 21, request := .drop 4 }])).1
    ∧ ((smallCoalescer.runOut (smallRequests ++ [{ time := 21, request := .drop 4 }])).1.endings.map
        fun e => (e.1, e.2.time, Result.value? e.2.result))
      = [(3, 14, none), (0, 16, some 1), (1, 16, some 1), (2, 16, some 1), (4, 21, none)]
  := ⟨answered_runOut smallCoalescer _, by decide +kernel⟩

end ReflexPolicy.Coalescer

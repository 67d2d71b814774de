import ReflexPolicy.Coalescer.Basic

/-!
# Runs of a coalescer

A run is a list of requests, each at its time.  Before a request is answered, whoever makes it
sleeps until its time has come, and everything that is due by then happens, in the order of the
agenda: windows close and calls end.  The clock jumps from one appointment to the next.

Time goes by in turns.  A request also takes a turn, except a probe, but no time: the waiters of a
window that has been given up leave in the turn after.
-/

namespace ReflexPolicy.Coalescer

/-- What is asked of a coalescer. -/
inductive Request (σ α : Type) where
  | submit (session : σ) (args : α)
  /-- A submit that cannot be made. -/
  | refused (cause : Mismatch)
  | cancel (session : σ)
  | probe (session : σ)
  | drop (waiter : Nat)

/-- What a coalescer answers. -/
inductive Answer where
  /-- The number of the new waiter. -/
  | waiter (number : Nat)
  /-- Whether there was an open window. -/
  | cancelled (done : Bool)
  /-- Whether a window is open, and whether a call runs. -/
  | probed (pending running : Bool)
  /-- Whether the waiter had not ended, or was still leaving. -/
  | dropped (done : Bool)
  deriving DecidableEq

/-- A request at its time. -/
structure Timed (σ α : Type) where
  time : Nat
  request : Request σ α

variable {σ α ρ : Type} [BEq σ]

/-! ### Turns -/

/-- Someone wakes up at the appointment. -/
def wakes (a : Appointment (Deed σ)) : Bool :=
  match a.deed with
  | .wake => true
  | _ => false

/-- What an appointment is for is done, unless the appointment is stale. -/
def perform (c : Coalescer α ρ) (s : State σ α ρ) (a : Appointment (Deed σ)) : State σ α ρ :=
  if s.isStale a then s
  else match a.deed with
    | .close k => c.close s k
    | .finish k => c.finish s k
    | .wake => s

/-- The clock jumps to the next appointment, and what is due then is taken from the agenda. -/
def jump (c : Coalescer α ρ) (s : State σ α ρ) : State σ α ρ × List (Appointment (Deed σ)) :=
  match s.agenda.next? with
  | none => (s, [])
  | some a =>
    let now := max s.now a.due
    let (due, rest) := s.agenda.takeDue now (c.clock.horizon now) s.agenda.size
    ({ s with now := now, agenda := rest }, due)

/-- The clock jumps to the next appointment, and one turn later everything that is due then is done.
The result says whether someone wakes up. -/
def turn (c : Coalescer α ρ) (s : State σ α ρ) : State σ α ρ × Bool :=
  let (after, due) := c.jump s.tidy
  (due.foldl c.perform after.pass, due.any wakes)

/-- Turns until someone wakes up, at most so many. -/
def turnsUntilAwake (c : Coalescer α ρ) : Nat → State σ α ρ → State σ α ρ
  | 0, s => s
  | fuel + 1, s =>
    let (after, awake) := c.turn s
    if awake then after else turnsUntilAwake c fuel after

/-- Turns until nothing is left to happen, at most so many. -/
def turnsToTheEnd (c : Coalescer α ρ) : Nat → State σ α ρ → State σ α ρ
  | 0, s => s
  | fuel + 1, s =>
    if s.agenda.next?.isNone then s else turnsToTheEnd c fuel (c.turn s).1

/-- The number of turns that is enough for all appointments: each may close a window, and then
there is one more, at which the call ends. -/
def turnsFor (s : State σ α ρ) : Nat := 2 * s.agenda.size

/-- Everything that is due before a time, if that is yet to come, happens. -/
def sleepUntil (c : Coalescer α ρ) (time : Nat) (s : State σ α ρ) : State σ α ρ :=
  if time ≤ s.now then s
  else
    let asleep := s.appoint (c.clock.after s.now (c.clock.between s.now time)) .wake
    c.turnsUntilAwake (turnsFor asleep) asleep

/-- A time after all others. -/
def longAfter (s : State σ α ρ) : Nat := s.now + unitsLimit

/-- Everything that is left to happen happens, while someone sleeps for long. -/
def drain (c : Coalescer α ρ) (s : State σ α ρ) : State σ α ρ :=
  let asleep := s.appoint (longAfter s) .wake
  c.turnsToTheEnd (turnsFor asleep) asleep

/-! ### Requests -/

/-- The state after a request.  Except for a probe, a turn goes by: before a submit comes to the
coalescer, and after a window has been given up or a waiter dropped.  The waiters of the window
are leaving then. -/
def apply (c : Coalescer α ρ) (s : State σ α ρ) : Request σ α → State σ α ρ
  | .submit k args => c.submit s.pass k args
  | .refused cause => s.pass.refuse cause
  | .cancel k => { (s.abandon k).pass with leaving := s.windowWaiters k }
  | .probe _ => s
  | .drop w => (s.drop w).pass

/-- The answer to a request. -/
def answer (s : State σ α ρ) : Request σ α → Answer
  | .submit _ _ => .waiter s.submits
  | .refused _ => .waiter s.submits
  | .cancel k => .cancelled (s.isPending k)
  | .probe k => .probed (s.isPending k) (s.isRunning k)
  | .drop w => .dropped (s.isWaiting w)

/-- The state after requests, and their answers. -/
def run (c : Coalescer α ρ) : State σ α ρ → List (Timed σ α) → State σ α ρ × List Answer
  | s, [] => (s, [])
  | s, r :: rest =>
    let before := c.sleepUntil r.time s
    let (after, answers) := run c (c.apply before r.request) rest
    (after, answer before r.request :: answers)

/-- The state when nothing is left to happen after some requests, and their answers. -/
def runOut (c : Coalescer α ρ) (requests : List (Timed σ α)) : State σ α ρ × List Answer :=
  let (last, answers) := c.run State.start requests
  (c.drain last, answers)

end ReflexPolicy.Coalescer

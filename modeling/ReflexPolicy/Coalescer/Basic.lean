import ReflexPolicy.Agenda
import ReflexPolicy.Coalescer.Clock
import ReflexPolicy.Fault
import ReflexPolicy.Entries

/-!
# Coalescing calls

A coalescer stands before a function that is called for sessions.  Submits of one session that
come within the wait of one another share one call, which is made with the arguments of the last
of them; submits that come while that call runs share its result.  A window that has not closed
can be cancelled; a running call is never interrupted.

The state keeps a slot for every session with an open window or a running call, the calls made,
and how each waiter ended.  What happens by itself, the closing of a window and the end of a call,
is an appointment of the agenda.  When a window is given up or waits anew, its appointment stays
in the agenda and is stale: the timer of the slot no longer names it.
-/

namespace ReflexPolicy

/-- What comes of a call. -/
inductive Result (ρ : Type) where
  | value (r : ρ)
  | failed (message : String)
  | cancelled
  | refused (cause : Mismatch)

/-- A function whose calls are coalesced, and the wait. -/
structure Coalescer (α ρ : Type) where
  clock : Clock
  /-- The time between the last submit of a window and its call. -/
  wait : Nat
  /-- The time that a call with some arguments takes. -/
  duration : α → Nat
  /-- What comes of the call of a number with some arguments. -/
  result : Nat → α → Result ρ

namespace Coalescer

/-- A wait is not negative. -/
def checkWait (v : Value) : Except Fault Unit :=
  match v.asNumber? with
  | some n => if n.lt (.whole 0) then .error (.misuse (.negativeWait v)) else .ok ()
  | none => .error (.mismatch (.unordered "<" v.kind "int"))

/-- What is done by itself when it is due. -/
inductive Deed (σ : Type) where
  /-- The window of a session closes. -/
  | close (session : σ)
  /-- The call of a session ends. -/
  | finish (session : σ)
  /-- Whoever waits for a time wakes up. -/
  | wake

/-- A call that runs, and the waiters that share it. -/
structure Running (α : Type) where
  number : Nat
  args : α
  ends : Nat
  waiters : List Nat

/-- What a session has under way. -/
structure Slot (α : Type) where
  /-- The number of the appointment at which the open window closes. -/
  timer : Option Nat
  /-- The waiters of the open window. -/
  window : Option (List Nat)
  /-- The arguments of the last submit of the open window. -/
  args : Option α
  /-- The call that runs. -/
  running : Option (Running α)

/-- A session with nothing under way. -/
def Slot.idle {α : Type} : Slot α :=
  { timer := none, window := none, args := none, running := none }

/-- Nothing is under way. -/
def Slot.isIdle {α : Type} (s : Slot α) : Bool := s.window.isNone && s.running.isNone

/-- A call that has been made. -/
structure Made (σ α : Type) where
  session : σ
  number : Nat
  time : Nat
  args : α

/-- How, and when, a waiter ended. -/
structure Ending (ρ : Type) where
  time : Nat
  result : Result ρ

/-- The state of a coalescer. -/
structure State (σ α ρ : Type) where
  now : Nat
  agenda : Agenda (Deed σ)
  /-- The number of appointments that became stale and have not been looked at since. -/
  stale : Nat
  slots : Entries σ (Slot α)
  /-- The calls made, the first one first. -/
  calls : List (Made σ α)
  /-- The number of submits; the waiters are numbered by them. -/
  submits : Nat
  /-- The waiters that have ended. -/
  endings : Entries Nat (Ending ρ)
  /-- The waiters of the window that was given up last.  They have ended, but stay to be dropped
  until a turn goes by. -/
  leaving : List Nat

namespace State

variable {σ α ρ : Type} [BEq σ]

/-- The state before the first submit. -/
def start : State σ α ρ :=
  { now := 0, agenda := .empty, stale := 0, slots := [], calls := [], submits := 0
    endings := [], leaving := [] }

/-- What a session has under way. -/
def slot (s : State σ α ρ) (k : σ) : Slot α := (Entries.get? s.slots k).getD Slot.idle

/-- The session has an open window. -/
def isPending (s : State σ α ρ) (k : σ) : Bool := (s.slot k).window.isSome

/-- A call of the session runs. -/
def isRunning (s : State σ α ρ) (k : σ) : Bool := (s.slot k).running.isSome

/-- The state with a slot for a session. -/
def put (s : State σ α ρ) (k : σ) (slot : Slot α) : State σ α ρ :=
  { s with slots := Entries.put s.slots k slot }

/-- The state with a slot for a session, or none if nothing is under way. -/
def putUnlessIdle (s : State σ α ρ) (k : σ) (slot : Slot α) : State σ α ρ :=
  if slot.isIdle then { s with slots := s.slots.without (· == k) } else s.put k slot

/-! ### Appointments -/

/-- The state with one more appointment. -/
def appoint (s : State σ α ρ) (due : Nat) (deed : Deed σ) : State σ α ρ :=
  { s with agenda := s.agenda.add due deed }

/-- The appointment is that of a window which has been given up or waits anew. -/
def isStale (s : State σ α ρ) (a : Appointment (Deed σ)) : Bool :=
  match a.deed with
  | .close k => (s.slot k).timer != some a.number
  | _ => false

/-- The stale appointments that come next are dropped, at most so many. -/
def dropStale : Nat → State σ α ρ → State σ α ρ
  | 0, s => s
  | fuel + 1, s =>
    match s.agenda.next? with
    | some a =>
      if s.isStale a then
        dropStale fuel { s with agenda := s.agenda.dropNext, stale := s.stale - 1 }
      else s
    | none => s

/-- The number of appointments up to which no agenda is rebuilt. -/
def smallAgenda : Nat := 100

/-- The agenda is looked after: one that is large and mostly stale is rebuilt without the stale
appointments; from any other, the stale ones that come next are dropped. -/
def tidy (s : State σ α ρ) : State σ α ρ :=
  if smallAgenda < s.agenda.size ∧ s.agenda.size < 2 * s.stale then
    { s with agenda := s.agenda.rebuilt fun a => !s.isStale a, stale := 0 }
  else dropStale s.agenda.size s

/-- A turn goes by: the agenda is looked after, and whoever is leaving goes. -/
def pass (s : State σ α ρ) : State σ α ρ := { s.tidy with leaving := [] }

/-! ### Waiters -/

/-- A waiter ends, unless it has ended before. -/
def settleOne (e : Ending ρ) (endings : Entries Nat (Ending ρ)) (w : Nat) :
    Entries Nat (Ending ρ) :=
  if endings.has w then endings else endings ++ [(w, e)]

/-- Some waiters end now. -/
def settle (s : State σ α ρ) (waiters : List Nat) (r : Result ρ) : State σ α ρ :=
  { s with endings := waiters.foldl (settleOne { time := s.now, result := r }) s.endings }

/-- A submit joins the call that runs. -/
def joinCall (s : State σ α ρ) (k : σ) (call : Running α) : State σ α ρ :=
  { s.put k { s.slot k with
      running := some { call with waiters := call.waiters ++ [s.submits] } } with
    submits := s.submits + 1 }

/-- A submit joins the open window, or opens one: the window closes at a new appointment, and the
arguments are now those of this submit. -/
def joinWindow (s : State σ α ρ) (k : σ) (closes : Nat) (args : α) : State σ α ρ :=
  let slot := s.slot k
  { (s.put k { slot with
      timer := some s.agenda.made
      window := some (slot.window.getD [] ++ [s.submits])
      args := some args }).appoint closes (.close k) with
    stale := s.stale + slot.timer.toList.length
    submits := s.submits + 1 }

/-- A submit that is refused before it comes to the coalescer: its waiter ends. -/
def refuse (s : State σ α ρ) (cause : Mismatch) : State σ α ρ :=
  { s.settle [s.submits] (.refused cause) with submits := s.submits + 1 }

/-- The open window of a session is given up, and its waiters end; nothing happens without
one. -/
def abandon (s : State σ α ρ) (k : σ) : State σ α ρ :=
  let slot := s.slot k
  match slot.window with
  | none => s
  | some waiters =>
    { (s.settle waiters .cancelled).putUnlessIdle k
        { slot with timer := none, window := none, args := none } with
      stale := s.stale + slot.timer.toList.length }

/-- The waiters of the open window of a session that have not ended. -/
def windowWaiters (s : State σ α ρ) (k : σ) : List Nat :=
  ((s.slot k).window.getD []).filter fun w => !s.endings.has w

/-- The waiter has been submitted, and has not ended or is still leaving. -/
def isWaiting (s : State σ α ρ) (waiter : Nat) : Bool :=
  decide (waiter < s.submits) && (!s.endings.has waiter || s.leaving.contains waiter)

/-- A waiter is dropped; nothing happens if it has ended. -/
def drop (s : State σ α ρ) (waiter : Nat) : State σ α ρ :=
  if s.isWaiting waiter then s.settle [waiter] .cancelled else s

end State

variable {σ α ρ : Type} [BEq σ]

/-- A submit of a session. -/
def submit (c : Coalescer α ρ) (s : State σ α ρ) (k : σ) (args : α) : State σ α ρ :=
  match (s.slot k).running with
  | some call => s.joinCall k call
  | none => s.joinWindow k (c.clock.after s.now c.wait) args

/-- The call of a session ends, and with it its waiters. -/
def finish (c : Coalescer α ρ) (s : State σ α ρ) (k : σ) : State σ α ρ :=
  match (s.slot k).running with
  | some call =>
    (s.settle call.waiters (c.result call.number call.args)).putUnlessIdle k
      { s.slot k with running := none }
  | none => s

/-- The open window of a session closes, and its call is made; a call that takes no time ends at
once. -/
def close (c : Coalescer α ρ) (s : State σ α ρ) (k : σ) : State σ α ρ :=
  match (s.slot k).window, (s.slot k).args with
  | some waiters, some args =>
    let number := s.calls.length + 1
    let ends := c.clock.after s.now (c.duration args)
    let call : Running α := { number := number, args := args, ends := ends, waiters := waiters }
    let calling : State σ α ρ :=
      { s.put k { timer := none, window := none, args := none, running := some call } with
        calls := s.calls ++ [{ session := k, number := number, time := s.now, args := args }] }
    if c.duration args = 0 then c.finish calling k else calling.appoint ends (.finish k)
  | _, _ => s

end Coalescer

end ReflexPolicy

import ReflexPolicy.Proofs.Coalescer.Counted
import ReflexPolicy.Proofs.Coalescer.Leaving
import ReflexPolicy.Proofs.Coalescer.Sessions

/-!
# Sessions do not interact

A run from which the requests of all other sessions are taken away is the same run for a session:
`Alone` says that the calls, the endings of the waiters and the answers are the same.  The waiters
have other numbers then, those that they have among themselves.

One answer may differ, and for one reason: the waiters of a window that has been given up can still
be dropped until a turn goes by, and it is no matter whose request takes that turn.
-/

namespace ReflexPolicy.Coalescer

variable {σ α ρ : Type}

theorem renumbered_all (q : Request σ α) :
  q.renumbered (fun _ => true) = q
  := by cases q <;> simp [Request.renumbered, place_all]

theorem probes_renumbered (own : Nat → Bool) (q : Request σ α) :
  (q.renumbered own).probes = q.probes
  := by cases q <;> rfl

theorem eq_cancel_of_renumbered (own : Nat → Bool) {k : σ} {q : Request σ α}
    (cancels : q.renumbered own = .cancel k) :
  q = .cancel k
  := by
  cases q with
  | cancel k' => exact cancels
  | _ => cases cancels

theorem isWaiting_iff {s : State σ α ρ} {w : Nat} :
  s.isWaiting w = true ↔ w < s.submits ∧ Entries.has s.endings w = false
    ∨ w < s.submits ∧ w ∈ s.leaving
  := by simp [State.isWaiting, and_or_left]

theorem endsAt_sharpened (c : Coalescer α ρ) (made : Made σ α) :
  made.endsAt c.sharpened = made.endsAt c
  := by
  have twice (begins ends : Nat) : max begins (max begins ends) = max begins ends :=
    Nat.max_eq_right (Nat.le_max_left _ _)
  simp only [Made.endsAt, sharpened, Clock.sharpened, twice]

/-- A request has the same times with other numbers. -/
theorem counted_of_renumbered {c : Coalescer α ρ} {Comes Holds : Nat → Prop} {own : Nat → Bool}
    {time : Nat} {q q' : Request σ α}
    (counted : Timed.Counted c Comes Holds { time := time, request := q })
    (request : q' = q.renumbered own) :
  Timed.Counted c Comes Holds { time := time, request := q' }
  := by
  obtain ⟨comes, closes, ends⟩ := counted
  have submits {k : σ} {args : α} (submit : q' = .submit k args) : q = .submit k args := by
    rw [request] at submit
    cases q <;> cases submit
    rfl
  exact {
    comes := comes
    closes := fun k args submit => closes k args (submits submit)
    ends := fun k args closed submit => ends k args closed (submits submit) }

variable [BEq σ]

/-- The answer when only the waiters of the session are numbered. -/
def Answer.renumbered (own : Nat → Bool) : Answer → Answer
  | .waiter number => .waiter (place own number)
  | a => a

/-- The answer to the request. -/
def Act.answer (act : Act σ α ρ) : Answer :=
  Coalescer.answer act.before.state act.request

/-- The request drops a waiter whose window was given up at that very time, and a request of another
session has taken a turn since. -/
def Overtaken (k : σ) (own : Nat → Bool) (older : List (Act σ α ρ)) (act : Act σ α ρ) : Prop :=
  ∃ w since, act.request = .drop w ∧ LeftAt older act.before.state.now w since
    ∧ ∃ b ∈ since, b.isOf k own = false ∧ b.request.probes = false

/-- A request of a session and its answer are the same as one in another run, in which there are no
other sessions. -/
structure Alike (k : σ) (own : Nat → Bool) (older : List (Act σ α ρ)) (act act' : Act σ α ρ) :
    Prop where
  time : act'.before.state.now = act.before.state.now
  request : act'.request = act.request.renumbered own
  answer : ¬Overtaken k own older act → act'.answer = act.answer.renumbered own

/-- What becomes of a session in a run is what becomes of it in another one, in which there are no
other sessions. -/
structure Alone (k : σ) (own : Nat → Bool) (log log' : List (Act σ α ρ))
    (last last' : State σ α ρ) : Prop where
  /-- The calls are made at the same times with the same arguments. -/
  calls : callsOf k last'.calls = callsOf k last.calls
  submits : last'.submits = place own last.submits
  /-- The waiters end at the same times, and get the same. -/
  endings : ∀ w, own w = true → w < last.submits →
    Entries.get? last'.endings (place own w) = Entries.get? last.endings w
  length : log'.length = log.countP (·.isOf k own)
  acts : ∀ older act newer, log = older ++ act :: newer → act.isOf k own = true →
    ∃ act', log'[older.countP (·.isOf k own)]? = some act' ∧ Alike k own older act act'

variable {c : Coalescer α ρ} {log log' : List (Act σ α ρ)} {m m' : Moment σ α ρ} {k : σ}
  {own : Nat → Bool} {v : Track α ρ} {Comes Holds : Nat → Prop}

/-! ### Moments with the same track -/

/-- A window is open. -/
def Stage.isWaiting : Stage α → Bool
  | .waiting _ _ => true
  | _ => false

/-- A call runs. -/
def Stage.isCalling : Stage α → Bool
  | .calling _ _ => true
  | _ => false

theorem Mirrors.isPending (mirrors : Mirrors m k own v) :
  m.state.isPending k = v.stage.isWaiting
  := by
  obtain ⟨stage, calls, endings⟩ := v
  cases mirrors.stage with
  | idle stands => exact stands.isPending
  | waiting stands => exact stands.isPending
  | calling calling => exact calling.stands.isPending

theorem Mirrors.isRunning (mirrors : Mirrors m k own v) :
  m.state.isRunning k = v.stage.isCalling
  := by
  obtain ⟨stage, calls, endings⟩ := v
  cases mirrors.stage with
  | idle stands => exact stands.isRunning
  | waiting stands => exact stands.isRunning
  | calling calling => exact calling.stands.isRunning

theorem Mirrors.submitted (mirrors : Mirrors m k own v) {w : Nat} (mine : own w = true) :
  w < m.state.submits ↔ place own w < v.endings.length
  := by
  rw [mirrors.books.length]
  constructor
  · apply place_lt mine
  · intro less
    by_contra le
    rw [Nat.not_lt] at le
    apply Nat.not_lt_of_le (place_mono own le) less

/-- A waiter of the session has been submitted and has not ended. -/
theorem Mirrors.free (mirrors : Mirrors m k own v) {w : Nat} (mine : own w = true) :
  w < m.state.submits ∧ Entries.has m.state.endings w = false
    ↔ v.endings[place own w]? = some none
  := by
  constructor
  · rintro ⟨submitted, free⟩
    rw [mirrors.books.endings w mine submitted]
    rw [Entries.has, Option.isSome_eq_false_iff, Option.isNone_iff_eq_none] at free
    rw [free]
  · intro none
    obtain ⟨less, -⟩ := List.getElem?_eq_some_iff.mp none
    have submitted := (mirrors.submitted mine).mpr less
    rw [mirrors.books.endings w mine submitted, Option.some.injEq] at none
    use submitted
    rw [Entries.has, none]
    rfl

/-- A waiter of the session waits for an open window. -/
theorem Mirrors.mem_windowWaiters (mirrors : Mirrors m k own v) (parted : Parted m.state) {w : Nat}
    (mine : own w = true) :
  w ∈ m.state.windowWaiters k
    ↔ v.stage.isWaiting = true ∧ v.endings[place own w]? = some none
  := by
  rw [← mirrors.free mine, State.windowWaiters, List.mem_filter, Bool.not_eq_true']
  constructor
  · rintro ⟨mem, free⟩
    refine ⟨?_, parted.submitted k w (List.mem_append_left _ mem), free⟩
    rw [← mirrors.isPending, State.isPending, Option.isSome_iff_ne_none]
    intro closed
    rw [closed] at mem
    cases mem
  · rintro ⟨waits, submitted, free⟩
    refine ⟨?_, free⟩
    have mem := mirrors.books.waits w mine submitted free
    obtain ⟨stage, calls, endings⟩ := v
    cases mirrors.stage with
    | idle => cases waits
    | waiting stands =>
      rw [waiters_of_stands stands] at mem
      rw [stands.window]
      apply mem
    | calling => cases waits

/-- A waiter of the session waits for no window but that of the session. -/
theorem Mirrors.session (mirrors : Mirrors m k own v) (parted : Parted m.state) {w : Nat}
    (mine : own w = true) {k' : σ} (mem : w ∈ m.state.windowWaiters k') :
  (k' == k) = true
  := by
  rw [State.windowWaiters, List.mem_filter, Bool.not_eq_true'] at mem
  have theirs : w ∈ (m.state.slot k').waiters := List.mem_append_left _ mem.1
  have waits := mirrors.books.waits w mine (parted.submitted k' w theirs) mem.2
  apply parted.apart k' k w theirs waits

/-! ### Requests that come one after another -/

/-- When a request comes, there is a track that mirrors the session.  When a request of the session
comes, it is the one that the requests of the session before it have made. -/
structure Meets (c : Coalescer α ρ) (k : σ) (own : Nat → Bool) (older : List (Act σ α ρ))
    (act : Act σ α ρ) : Prop where
  parted : Parted act.before.state
  mirrored : ∃ v, Mirrors act.before k own v
  mirrors : act.isOf k own = true → Mirrors act.before k own
    ((Track.start.after c (requestsOf k own older)).advance c act.before.state.now)

/-- There are no other sessions. -/
def Whole (k : σ) (log : List (Act σ α ρ)) : Prop :=
  ∀ act ∈ log, act.isOf k (fun _ => true) = true

/-- A request and its counterpart find the same waiters in the window. -/
theorem mem_windowWaiters_of_timed {older older' : List (Act σ α ρ)} {b b' : Act σ α ρ}
    (meets : Meets c k own older b) (meets' : Meets c k (fun _ => true) older' b')
    (isOf : b.isOf k own = true) (isOf' : b'.isOf k (fun _ => true) = true)
    (same : requestsOf k (fun _ => true) older' = requestsOf k own older)
    (timed : b'.timed (fun _ => true) = b.timed own) {w : Nat} (mine : own w = true) :
  place own w ∈ b'.before.state.windowWaiters k ↔ w ∈ b.before.state.windowWaiters k
  := by
  have mirrors := meets.mirrors isOf
  have mirrors' := meets'.mirrors isOf'
  have time : b'.before.state.now = b.before.state.now := congrArg Timed.time timed
  rw [same, time] at mirrors'
  rw [mirrors.mem_windowWaiters meets.parted mine,
    mirrors'.mem_windowWaiters meets'.parted (w := place own w) rfl, place_all]

theorem length_of_whole (whole : Whole k log')
    (same : requestsOf k (fun _ => true) log' = requestsOf k own log) :
  log'.length = log.countP (·.isOf k own)
  := by
  have lengths := congrArg List.length same
  rw [requestsOf, requestsOf, List.length_map, List.length_map, List.filter_eq_self.mpr whole]
    at lengths
  rw [lengths, List.countP_eq_length_filter]

/-- The requests of a session take no turn if their counterparts take none. -/
theorem probes_of_requestsOf {own' : Nat → Bool}
    (same : requestsOf k own log = requestsOf k own' log')
    (probes : ∀ act ∈ log', act.request.probes = true) :
  ∀ act ∈ log, act.isOf k own = true → act.request.probes = true
  := by
  intro act mem isOf
  have request : act.timed own ∈ requestsOf k own log :=
    List.mem_map_of_mem (List.mem_filter.mpr ⟨mem, isOf⟩)
  rw [same, requestsOf, List.mem_map] at request
  obtain ⟨act', mem', timed⟩ := request
  have turns := congrArg (fun r => Request.probes r.request) timed
  simp only [Act.timed, probes_renumbered] at turns
  rw [← turns]
  apply probes act' (List.mem_filter.mp mem').1

/-! ### The requests of one session -/

/-- The number of a submit is one of the session if the submit is. -/
def Request.owned (k : σ) (own : Nat → Bool) (number : Nat) : Request σ α → Bool
  | .submit k' _ => own number == (k' == k)
  | _ => true

/-- The numbers of the session are those of its submits.  A submit that cannot be made is of any
session. -/
def Owns (k : σ) (own : Nat → Bool) (requests : List (Timed σ α)) : Prop :=
  ∀ e ∈ numbered 0 requests, ∀ k' args, e.2.request = .submit k' args → own e.1 = (k' == k)

instance (k : σ) (own : Nat → Bool) (requests : List (Timed σ α)) :
    Decidable (Owns k own requests) :=
  decidable_of_iff (∀ e ∈ numbered 0 requests, e.2.request.owned k own e.1 = true) (by
    constructor
    · intro all e mem k' args request
      have owned := all e mem
      rw [request] at owned
      exact eq_of_beq owned
    · intro owns e mem
      cases request : e.2.request with
      | submit k' args => exact beq_iff_eq.mpr (owns e mem k' args request)
      | _ => rfl)

/-- The requests of a session alone. -/
def only (k : σ) (own : Nat → Bool) (requests : List (Timed σ α)) : List (Timed σ α) :=
  ((numbered 0 requests).filter fun e => e.2.request.isOf k own e.1).map fun e =>
    { time := e.2.time, request := e.2.request.renumbered own }

theorem isOf_renumbered {q : Request σ α} {number : Nat} (isOf : q.isOf k own number = true)
    (number' : Nat) :
  (q.renumbered own).isOf k (fun _ => true) number' = true
  := by
  cases q with
  | submit k' args => exact isOf
  | refused cause => rfl
  | cancel k' => exact isOf
  | probe k' => exact isOf
  | drop w => rfl

theorem isOf_only {requests : List (Timed σ α)} {r : Timed σ α} (mem : r ∈ only k own requests)
    (number : Nat) :
  r.request.isOf k (fun _ => true) number = true
  := by
  obtain ⟨e, kept, rfl⟩ := List.mem_map.mp mem
  apply isOf_renumbered (List.mem_filter.mp kept).2

theorem sorted_only {requests : List (Timed σ α)}
    (sorted : requests.Pairwise fun r r' => r.time ≤ r'.time) :
  (only k own requests).Pairwise fun r r' => r.time ≤ r'.time
  := by
  rw [← map_numbered 0 requests, List.pairwise_map] at sorted
  rw [only, List.pairwise_map]
  apply sorted.sublist List.filter_sublist

/-- The requests of a session alone come when they do among the others. -/
theorem mem_only {requests : List (Timed σ α)} {r : Timed σ α} (mem : r ∈ only k own requests) :
  ∃ q, { time := r.time, request := q } ∈ requests ∧ r.request = q.renumbered own
  := by
  obtain ⟨e, kept, rfl⟩ := List.mem_map.mp mem
  have asked := List.mem_map_of_mem (f := (·.2)) (List.mem_filter.mp kept).1
  rw [map_numbered] at asked
  exact ⟨e.2.request, asked, rfl⟩

theorem comes_only {requests : List (Timed σ α)} (comes : ∀ r ∈ requests, Comes r.time) :
  ∀ r ∈ only k own requests, Comes r.time
  := by
  intro r mem
  obtain ⟨q, asked, -⟩ := mem_only mem
  apply comes _ asked

/-- The requests of a session alone are those of that session. -/
theorem only_all {requests : List (Timed σ α)}
    (all : ∀ r ∈ requests, ∀ number, r.request.isOf k (fun _ => true) number = true) :
  only k (fun _ => true) requests = requests
  := by
  have whole : (numbered 0 requests).filter (fun e => e.2.request.isOf k (fun _ => true) e.1)
      = numbered 0 requests := by
    rw [List.filter_eq_self]
    intro e mem
    apply all
    rw [← map_numbered 0 requests]
    apply List.mem_map_of_mem mem
  simp only [only, whole, renumbered_all]
  apply map_numbered

variable {requests : List (Timed σ α)}

theorem requestsOf_acts (sharp : c.clock.Sharp Comes) (comes : ∀ r ∈ requests, Comes r.time)
    (sorted : requests.Pairwise fun r r' => r.time ≤ r'.time) (k : σ) (own : Nat → Bool) :
  requestsOf k own (c.acts .start requests) = only k own requests
  := by
  rw [only, ← numbered_run sharp comes sorted, List.filter_map, List.map_map]
  rfl

theorem owns_acts (sharp : c.clock.Sharp Comes) (comes : ∀ r ∈ requests, Comes r.time)
    (sorted : requests.Pairwise fun r r' => r.time ≤ r'.time) (owns : Owns k own requests) :
  ∀ act ∈ c.acts .start requests, act.Owns k own
  := by
  intro act mem k' args request
  apply owns act.numbered _ k' args request
  rw [← numbered_run sharp comes sorted]
  apply List.mem_map_of_mem mem

theorem whole_only (sharp : c.clock.Sharp Comes) (comes : ∀ r ∈ requests, Comes r.time)
    (sorted : requests.Pairwise fun r r' => r.time ≤ r'.time) :
  Whole k (c.acts .start (only k own requests))
  := by
  intro act mem
  have numbered : act.numbered ∈ numbered 0 (only k own requests) := by
    rw [← numbered_run sharp (comes_only comes) (sorted_only sorted)]
    apply List.mem_map_of_mem mem
  have request := List.mem_map_of_mem (f := (·.2)) numbered
  rw [map_numbered] at request
  apply isOf_only request

theorem counted_only (counted : ∀ r ∈ requests, r.Counted c Comes Holds) :
  ∀ r ∈ only k own requests, r.Counted c Comes Holds
  := by
  intro r mem
  obtain ⟨q, asked, request⟩ := mem_only mem
  apply counted_of_renumbered (counted _ asked) request

/-! ### Both runs -/

variable [EquivBEq σ]

/-- The answers are the same, if those who are leaving are. -/
theorem answer_of_mirrors (mirrors : Mirrors m k own v)
    (mirrors' : Mirrors m' k (fun _ => true) v) {q : Request σ α}
    (mine : q.isOf k own m.state.submits = true)
    (leaving : ∀ w, q = .drop w → (place own w ∈ m'.state.leaving ↔ w ∈ m.state.leaving)) :
  answer m'.state (q.renumbered own) = (answer m.state q).renumbered own
  := by
  have submits : m'.state.submits = place own m.state.submits := by
    rw [← mirrors.books.length, mirrors'.books.length, place_all]
  cases q with
  | submit k' args => exact congrArg Answer.waiter submits
  | refused cause => exact congrArg Answer.waiter submits
  | cancel k' =>
    have pending := mirrors'.isPending.trans mirrors.isPending.symm
    rw [State.isPending, State.isPending, ← slot_congr _ mine, ← slot_congr _ mine] at pending
    exact congrArg Answer.cancelled pending
  | probe k' =>
    have pending := mirrors'.isPending.trans mirrors.isPending.symm
    have running := mirrors'.isRunning.trans mirrors.isRunning.symm
    rw [State.isPending, State.isPending, ← slot_congr _ mine, ← slot_congr _ mine] at pending
    rw [State.isRunning, State.isRunning, ← slot_congr _ mine, ← slot_congr _ mine] at running
    exact congrArg₂ Answer.probed pending running
  | drop w =>
    have waiting : m'.state.isWaiting (place own w) = m.state.isWaiting w := by
      have free := mirrors.free mine
      have free' := mirrors'.free (w := place own w) rfl
      rw [place_all, ← free] at free'
      have submitted := mirrors.submitted mine
      have submitted' := mirrors'.submitted (w := place own w) rfl
      rw [place_all, ← submitted] at submitted'
      rw [Bool.eq_iff_iff, isWaiting_iff, isWaiting_iff, free', submitted', leaving w rfl]
    exact congrArg Answer.dropped waiting

theorem windowWaiters_congr (s : State σ α ρ) {k k' : σ} (same : (k == k') = true) :
  s.windowWaiters k = s.windowWaiters k'
  := by rw [State.windowWaiters, State.windowWaiters, slot_congr s same]

/-- A waiter is leaving in both runs or in none, unless a request of another session has taken a
turn. -/
theorem lingers_iff
    (meets : ∀ older act newer, log = older ++ act :: newer → Meets c k own older act)
    (meets' : ∀ older act newer, log' = older ++ act :: newer →
      Meets c k (fun _ => true) older act)
    (whole : Whole k log')
    (same : requestsOf k (fun _ => true) log' = requestsOf k own log) {time w : Nat}
    (mine : own w = true)
    (undisturbed : ∀ since, LeftAt log time w since → ∀ b ∈ since, b.isOf k own = false →
      b.request.probes = true) :
  Lingers log' time (place own w) ↔ Lingers log time w
  := by
  constructor
  · rintro ⟨since', ⟨older', b', k', rfl, request, mem, rfl⟩, probes⟩
    have isOf' := whole b' (by simp)
    have session : (k' == k) = true := by
      rw [Act.isOf, request] at isOf'
      apply isOf'
    rw [requestsOf_split isOf'] at same
    obtain ⟨older, b, since, rfl, isOf, timed, same, others⟩ := split_of_requestsOf same.symm
    have cancels : b.request = .cancel k' := by
      apply eq_cancel_of_renumbered own
      rw [← request, ← renumbered_all b'.request]
      exact congrArg Timed.request timed
    have windows := mem_windowWaiters_of_timed (meets older b since rfl)
      (meets' older' b' since' rfl) isOf isOf' same.symm timed.symm mine
    rw [windowWaiters_congr _ session, windows, ← windowWaiters_congr _ session] at mem
    have left : LeftAt (older ++ b :: since) b'.before.state.now w since :=
      ⟨older, b, k', rfl, cancels, mem, congrArg Timed.time timed⟩
    refine ⟨since, left, ?_⟩
    intro act mem
    by_cases isOf : act.isOf k own = true
    · apply probes_of_requestsOf others probes act mem isOf
    · rw [Bool.not_eq_true] at isOf
      apply undisturbed since left act mem isOf
  · rintro ⟨since, ⟨older, b, k', rfl, request, mem, rfl⟩, probes⟩
    have met := meets older b since rfl
    have session : (k' == k) = true := by
      obtain ⟨v, mirrors⟩ := met.mirrored
      apply mirrors.session met.parted mine mem
    have isOf : b.isOf k own = true := by
      rw [Act.isOf, request]
      apply session
    rw [requestsOf_split isOf] at same
    obtain ⟨older', b', since', rfl, isOf', timed, same, others⟩ := split_of_requestsOf same
    have cancels : b'.request = .cancel k' := by
      rw [← renumbered_all b'.request]
      apply (congrArg Timed.request timed).trans
      rw [Act.timed, request]
      rfl
    have windows := mem_windowWaiters_of_timed met (meets' older' b' since' rfl) isOf isOf' same
      timed mine
    rw [windowWaiters_congr _ session, ← windows, ← windowWaiters_congr _ session] at mem
    refine ⟨since', ⟨older', b', k', rfl, cancels, mem, congrArg Timed.time timed⟩, ?_⟩
    intro act' mem'
    apply probes_of_requestsOf others probes act' mem'
    apply whole act' (by simp [mem'])

/-! ### Runs -/

/-- A request of the session has a counterpart, which is answered alike. -/
theorem alike_of_meets
    (meets : ∀ {older act newer}, log = older ++ act :: newer → Meets c k own older act)
    (meets' : ∀ {older act newer}, log' = older ++ act :: newer →
      Meets c k (fun _ => true) older act)
    (leaving : ∀ {older newer act}, log = older ++ act :: newer → ∀ w,
      w ∈ act.before.state.leaving ↔ Lingers older act.before.state.now w)
    (leaving' : ∀ {older newer act}, log' = older ++ act :: newer → ∀ w,
      w ∈ act.before.state.leaving ↔ Lingers older act.before.state.now w)
    (whole : Whole k log') (same : requestsOf k (fun _ => true) log' = requestsOf k own log)
    {older newer : List (Act σ α ρ)} {act : Act σ α ρ} (split : log = older ++ act :: newer)
    (isOf : act.isOf k own = true) :
  ∃ act', log'[older.countP (·.isOf k own)]? = some act' ∧ Alike k own older act act'
  := by
  rw [split, requestsOf_split isOf] at same
  obtain ⟨older', act', newer', split', isOf', timed, same, -⟩ := split_of_requestsOf same
  have time : act'.before.state.now = act.before.state.now := congrArg Timed.time timed
  have request : act'.request = act.request.renumbered own := by
    rw [← renumbered_all act'.request]
    exact congrArg Timed.request timed
  have whole : Whole k older' := by
    intro b mem
    apply whole
    rw [split']
    apply List.mem_append_left _ mem
  refine ⟨act', ?_, time, request, ?_⟩
  · rw [split', ← length_of_whole whole same, List.getElem?_append_right (Nat.le_refl _),
      Nat.sub_self]
    rfl
  · intro undisturbed
    have met := (meets split).mirrors isOf
    have met' := (meets' split').mirrors isOf'
    rw [same, time] at met'
    rw [Act.answer, Act.answer, request]
    apply answer_of_mirrors met met' isOf
    intro w drops
    have mine : own w = true := by
      rw [Act.isOf, drops] at isOf
      apply isOf
    rw [leaving split, leaving' split', time]
    refine lingers_iff (c := c) ?_ ?_ whole same mine ?_
    · intro before b after within
      have longer : log = before ++ b :: (after ++ act :: newer) := by
        rw [split, within]
        simp
      apply meets longer
    · intro before b after within
      have longer : log' = before ++ b :: (after ++ act' :: newer') := by
        rw [split', within]
        simp
      apply meets' longer
    · intro since left b mem other
      by_contra turns
      rw [Bool.not_eq_true] at turns
      exact undisturbed ⟨w, since, drops, left, b, mem, other, turns⟩

theorem meets_of_reached (sharp : c.clock.Sharp Comes)
    (alike : ∀ number number' args, c.result number args = c.result number' args)
    (reached : Reached c log m) (owns : ∀ act ∈ log, act.Owns k own)
    (apart : Track.start.Apart c (requestsOf k own log)) :
  ∀ {older act newer}, log = older ++ act :: newer → Meets c k own older act
  := by
  intro older act newer split
  have before := reached_of_split reached split
  exact {
    parted := parted_of_reached before
    mirrored := by
      rw [split, requestsOf, List.filter_append, List.map_append, Track.apart_append,
        ← requestsOf] at apart
      rw [split] at owns
      obtain ⟨v, mirrors, -⟩ := mirrors_of_reached sharp alike before
        (fun act mem => owns act (List.mem_append_left _ mem)) apart.1
      exact ⟨v, mirrors⟩
    mirrors := mirrors_of_split sharp alike reached owns apart split }

/-- With a sharp clock the requests of other sessions can be taken away. -/
theorem alone_of_sharp (sharp : c.clock.Sharp Comes) (comes : ∀ r ∈ requests, Comes r.time)
    (alike : ∀ number number' args, c.result number args = c.result number' args)
    (sorted : requests.Pairwise fun r r' => r.time ≤ r'.time) (owns : Owns k own requests)
    (clear : ∀ act ∈ c.acts .start requests, act.isOf k own = true → act.Clear c k) :
  Alone k own (c.acts .start requests) (c.acts .start (only k own requests))
    (c.runOut requests).1 (c.runOut (only k own requests)).1
  := by
  have reached := reached_runOut (c := c) requests
  have reached' := reached_runOut (c := c) (only k own requests)
  have owned := owns_acts sharp comes sorted owns
  have whole : Whole k (c.acts .start (only k own requests)) := whole_only sharp comes sorted
  have owned' : ∀ act ∈ c.acts .start (only k own requests), act.Owns k fun _ => true := by
    intro act mem k' args request
    have isOf := whole act mem
    rw [Act.isOf, request] at isOf
    apply isOf.symm
  have same : requestsOf k (fun _ => true) (c.acts .start (only k own requests))
      = requestsOf k own (c.acts .start requests) := by
    rw [requestsOf_acts sharp (comes_only comes) (sorted_only sorted),
      requestsOf_acts sharp comes sorted, only_all fun r mem => isOf_only mem]
  have apart := apart_of_clear sharp alike reached owned clear
  have apart' := apart
  rw [← same] at apart'
  obtain ⟨v, mirrors, becomes⟩ := mirrors_of_reached sharp alike reached owned apart
  obtain ⟨v', mirrors', becomes'⟩ := mirrors_of_reached sharp alike reached' owned' apart'
  -- Long after both runs the tracks are what the same requests have made of them.
  have same_track : v' = v := by
    have later := Nat.le_max_left (c.runOut requests).1.now (c.runOut (only k own requests)).1.now
    have later' := Nat.le_max_right (c.runOut requests).1.now (c.runOut (only k own requests)).1.now
    rw [← mirrors.advance_of_nothing (scheduled_drain (reached_run requests .start)) _,
      ← mirrors'.advance_of_nothing (scheduled_drain (reached_run (only k own requests) .start)) _,
      becomes _ later, becomes' _ later', same]
  rw [same_track] at mirrors'
  have submits : (c.runOut (only k own requests)).1.submits
      = place own (c.runOut requests).1.submits := by
    rw [← mirrors.books.length, mirrors'.books.length, place_all]
  exact {
    calls := by rw [← mirrors.books.calls, mirrors'.books.calls]
    submits := submits
    endings := by
      intro w mine submitted
      have ending := mirrors.books.endings w mine submitted
      have ending' := mirrors'.books.endings (place own w) rfl (by
        rw [submits]
        apply place_lt mine submitted)
      rw [place_all, ending, Option.some.injEq] at ending'
      apply ending'.symm
    length := length_of_whole whole same
    acts := fun older act newer split isOf =>
      alike_of_meets (meets_of_reached sharp alike reached owned apart)
        (meets_of_reached sharp alike reached' owned' apart') (leaving_run sharp comes sorted)
        (leaving_run sharp (comes_only comes) (sorted_only sorted)) whole same split isOf }

/-- Sessions do not interact: where the clock tells the times of a run apart, the requests of other
sessions can be taken away. -/
theorem alone_runOut (counts : c.clock.Counts Comes Holds)
    (counted : ∀ r ∈ requests, r.Counted c Comes Holds)
    (alike : ∀ number number' args, c.result number args = c.result number' args)
    (sorted : requests.Pairwise fun r r' => r.time ≤ r'.time) (owns : Owns k own requests)
    (clear : ∀ act ∈ c.acts .start requests, act.isOf k own = true → act.Clear c k) :
  Alone k own (c.acts .start requests) (c.acts .start (only k own requests))
    (c.runOut requests).1 (c.runOut (only k own requests)).1
  := by
  obtain ⟨acts, run⟩ := runOut_sharpened counts counted sorted
  obtain ⟨acts', run'⟩ := runOut_sharpened counts (counted_only counted) (sorted_only sorted)
  rw [acts] at clear
  rw [acts, run, acts', run']
  refine alone_of_sharp (c := c.sharpened) counts.sharp (fun r mem => (counted r mem).comes) alike
    sorted owns ?_
  intro act mem isOf
  obtain ⟨ahead, behind⟩ := clear act mem isOf
  exact {
    ahead := ahead
    behind := by
      intro made called session
      rw [endsAt_sharpened]
      apply behind made called session }

/-- A coalescer on the binary64 clock that waits for some seconds, and whose calls take some. -/
def secondsCoalescer (wait duration : Nat) : Coalescer String String where
  clock := .binary64
  wait := wait * unitsPerOne
  duration := fun _ => duration * unitsPerOne
  result := fun _ args => .value args

/-- Requests at whole seconds. -/
def atSeconds (requests : List (Nat × Request Nat String)) : List (Timed Nat String) :=
  requests.map fun e => { time := e.1 * unitsPerOne, request := e.2 }

/-- A session whose window waits anew and whose call is shared, and then a second window that is
given up; another session has a window and a call meanwhile. -/
def mixedRequests : List (Timed Nat String) :=
  atSeconds [(0, .submit 1 "first"), (3, .submit 2 "other"), (5, .submit 1 "second"),
    (12, .cancel 2), (14, .submit 1 "shared"), (15, .drop 2), (20, .submit 1 "again"),
    (21, .cancel 1), (21, .drop 4)]

theorem counted_atSeconds {wait duration : Nat} {requests : List (Nat × Request Nat String)}
    (small : ∀ e ∈ requests, e.1 + wait + duration ≤ 2 ^ 53) :
  ∀ r ∈ atSeconds requests, r.Counted (secondsCoalescer wait duration) (Grid 1074) (Grid 1074)
  := by
  intro r mem
  obtain ⟨e, asked, rfl⟩ := List.mem_map.mp mem
  have few := small e asked
  have seconds (n : Nat) : n * unitsPerOne = n * 2 ^ 1074 := by rw [Binary64.unitsPerOne_eq]
  apply counted_binary64 rfl (seconds wait) (seconds e.1)
  · omega
  · exact fun _ _ _ => ⟨duration, seconds duration, few⟩

theorem alone_mixedRequests :
  Clock.binary64.Counts (Grid 1074) (Grid 1074)
    ∧ (∀ r ∈ mixedRequests, r.Counted (secondsCoalescer 8 5) (Grid 1074) (Grid 1074))
    ∧ (mixedRequests.Pairwise fun r r' => r.time ≤ r'.time) ∧ Owns 1 (· != 1) mixedRequests
    ∧ (∀ act ∈ (secondsCoalescer 8 5).acts .start mixedRequests, act.isOf 1 (· != 1) = true →
      act.Clear (secondsCoalescer 8 5) 1)
    ∧ Alone 1 (· != 1) ((secondsCoalescer 8 5).acts .start mixedRequests)
      ((secondsCoalescer 8 5).acts .start (only 1 (· != 1) mixedRequests))
      ((secondsCoalescer 8 5).runOut mixedRequests).1
      ((secondsCoalescer 8 5).runOut (only 1 (· != 1) mixedRequests)).1
    ∧ callsOf 1 ((secondsCoalescer 8 5).runOut mixedRequests).1.calls
      = [(13 * unitsPerOne, "second")]
    ∧ ((secondsCoalescer 8 5).runOut mixedRequests).2
      = [.waiter 0, .waiter 1, .waiter 2, .cancelled false, .waiter 3, .dropped true, .waiter 4,
        .cancelled true, .dropped true]
    ∧ ((secondsCoalescer 8 5).runOut (only 1 (· != 1) mixedRequests)).2
      = [.waiter 0, .waiter 1, .waiter 2, .dropped true, .waiter 3, .cancelled true,
        .dropped true]
  := by
  have counts : Clock.binary64.Counts (Grid 1074) (Grid 1074) :=
    Clock.counts_grid (by decide) (by decide)
  have counted : ∀ r ∈ mixedRequests, r.Counted (secondsCoalescer 8 5) (Grid 1074) (Grid 1074) := by
    apply counted_atSeconds
    decide
  have sorted : mixedRequests.Pairwise fun r r' => r.time ≤ r'.time := by decide +kernel
  have owns : Owns 1 (· != 1) mixedRequests := by decide +kernel
  have clear : ∀ act ∈ (secondsCoalescer 8 5).acts .start mixedRequests,
      act.isOf 1 (· != 1) = true → act.Clear (secondsCoalescer 8 5) 1 := by decide +kernel
  refine ⟨counts, counted, sorted, owns, clear, ?_, ?_, ?_, ?_⟩
  · exact alone_runOut counts counted (fun _ _ _ => rfl) sorted owns clear
  · decide +kernel
  · decide +kernel
  · decide +kernel

/-- Two sessions give up their windows at one time, and a waiter of the first one is dropped
then. -/
def overtakenRequests : List (Timed Nat String) :=
  atSeconds [(0, .submit 1 "first"), (0, .submit 2 "other"), (2, .cancel 1), (2, .cancel 2),
    (2, .drop 0)]

/-- Two sessions open their windows within half a nanosecond. -/
def hastenedRequests : List (Timed Nat String) :=
  [{ time := 0, request := .submit 1 "first" },
    { time := roundUnits (5 * unitsPerOne) (tenTo 10), request := .submit 2 "other" }]

/-- A drop answers otherwise when another session has taken a turn, and the binary64 clock makes a
call early when another one is due. -/
theorem overtaken_and_hastened :
  Owns 1 (· == 0) overtakenRequests
    ∧ (∀ act ∈ (secondsCoalescer 5 4).acts .start overtakenRequests,
      act.Clear (secondsCoalescer 5 4) 1 ∧ act.Clear (secondsCoalescer 5 4) 2)
    ∧ ((secondsCoalescer 5 4).runOut overtakenRequests).2
      = [.waiter 0, .waiter 1, .cancelled true, .cancelled true, .dropped false]
    ∧ ((secondsCoalescer 5 4).runOut (only 1 (· == 0) overtakenRequests)).2
      = [.waiter 0, .cancelled true, .dropped true]
    ∧ Owns 2 (· == 1) hastenedRequests
    ∧ (∀ act ∈ (secondsCoalescer 1 0).acts .start hastenedRequests,
      act.Clear (secondsCoalescer 1 0) 1 ∧ act.Clear (secondsCoalescer 1 0) 2)
    ∧ callsOf 2 ((secondsCoalescer 1 0).runOut hastenedRequests).1.calls
      ≠ callsOf 2 ((secondsCoalescer 1 0).runOut (only 2 (· == 1) hastenedRequests)).1.calls
  := by
  refine ⟨?_, ?_, ?_, ?_, ?_, ?_, ?_⟩
  · decide +kernel
  · decide +kernel
  · decide +kernel
  · decide +kernel
  · decide +kernel
  · decide +kernel
  · decide +kernel

end ReflexPolicy.Coalescer

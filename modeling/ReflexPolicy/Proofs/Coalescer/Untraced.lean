import ReflexPolicy.Proofs.Coalescer.Cancelling

/-!
# Cancelled windows leave no trace

A run from which a cancel is taken away, and with it the submits of the window that it gave up and
the drops of their waiters, is the same run for everybody else: `Untraced` says that the calls, the
endings of the other waiters and the answers are the same.  The other waiters have the numbers that
they have among themselves.

Before the cancel the session is asked about a window that the other run does not have.  And a drop
may find a waiter that is leaving in one run only, since a cancel takes a turn.
-/

namespace ReflexPolicy.Coalescer

variable {σ α ρ : Type}

/-- The request drops a waiter. -/
def Request.drops : Request σ α → Bool
  | .drop _ => true
  | _ => false

/-- The requests come by some time. -/
theorem exists_last (requests : List (Timed σ α)) :
  ∃ last, ∀ r ∈ requests, r.time ≤ last
  := by
  induction requests with
  | nil => exact ⟨0, nofun⟩
  | cons r rest ih =>
    obtain ⟨last, ended⟩ := ih
    refine ⟨max r.time last, ?_⟩
    rw [List.forall_mem_cons]
    exact ⟨Nat.le_max_left _ _, fun r' mem => Nat.le_trans (ended r' mem) (Nat.le_max_right _ _)⟩

/-- The sharpened clock closes windows when they close after the request. -/
theorem lt_closesAt_sharpened {c : Coalescer α ρ} {act : Act σ α ρ} {time : Nat}
    (before : act.before.state.now ≤ time) :
  time < act.closesAt c.sharpened ↔ time < act.closesAt c
  := by
  change time < max act.before.state.now (act.closesAt c) ↔ time < act.closesAt c
  omega

variable [BEq σ]

/-- The request asks for the window of a session, be it to give it up. -/
def Request.asks (k : σ) : Request σ α → Bool
  | .cancel k' => k' == k
  | .probe k' => k' == k
  | _ => false

/-- A request comes at the same time in another run, in which some waiters are missing, and is
answered alike unless the answer does not matter. -/
structure Recurs (goes : Nat → Bool) (moot : Request σ α → Bool) (act act' : Act σ α ρ) :
    Prop where
  time : act'.before.state.now = act.before.state.now
  request : act'.request = act.request.renumbered (others goes)
  answer : moot act.request = false → act'.answer = act.answer.renumbered (others goes)

/-- A session has given up a window, and another run is the same without it.  The requests of the
first run are those before the cancel and those after it. -/
structure Untraced (k : σ) (goes : Nat → Bool) (older newer log' : List (Act σ α ρ))
    (last last' : State σ α ρ) : Prop where
  /-- The calls of each session are made at the same times with the same arguments. -/
  calls : ∀ k', callsOf k' last'.calls = callsOf k' last.calls
  submits : last'.submits = place (others goes) last.submits
  /-- The other waiters end at the same times, and get the same. -/
  endings : ∀ w, goes w = false → w < last.submits →
    Entries.get? last'.endings (place (others goes) w) = Entries.get? last.endings w
  acts : ∃ older' newer', log' = older' ++ newer'
    ∧ Thins (Act.IsAbout goes) (Recurs goes fun q => q.drops || q.asks k) older older'
    ∧ Thins (Act.IsAbout goes) (Recurs goes Request.drops) newer newer'

variable {c : Coalescer α ρ} {m m' : Moment σ α ρ} {own own' goes : Nat → Bool}
  {v u : Track α ρ} {Comes Holds : Nat → Prop} {earlier later requests : List (Timed σ α)}
  {time : Nat} {k : σ}

theorem Mirrors.stage_eq (mirrors : Mirrors m k own v) (mirrors' : Mirrors m' k own' u)
    (same : u.stage = v.stage) :
  m'.state.isPending k = m.state.isPending k ∧ m'.state.isRunning k = m.state.isRunning k
  := by
  constructor
  · rw [mirrors'.isPending, mirrors.isPending, same]
  · rw [mirrors'.isRunning, mirrors.isRunning, same]

/-- A request recurs if what is asked about its session is the same. -/
theorem recurs_of_shifted {moot : Request σ α → Bool} {act act' : Act σ α ρ}
    (shifts : act'.numbered = shifted goes act.numbered) (drops : ∀ w, moot (.drop w) = true)
    (stages : ∀ k', act.request = .cancel k' ∨ act.request = .probe k' →
      moot act.request = false →
      act'.before.state.isPending k' = act.before.state.isPending k'
        ∧ act'.before.state.isRunning k' = act.before.state.isRunning k') :
  Recurs goes moot act act'
  := by
  have number : act'.before.state.submits = place (others goes) act.before.state.submits :=
    congrArg (·.1) shifts
  have request : act'.request = act.request.renumbered (others goes) :=
    congrArg (fun e => e.2.request) shifts
  refine ⟨congrArg (fun e => e.2.time) shifts, request, ?_⟩
  intro matters
  rw [Act.answer, Act.answer, request]
  cases asked : act.request with
  | submit k' args => exact congrArg Answer.waiter number
  | refused cause => exact congrArg Answer.waiter number
  | cancel k' => exact congrArg Answer.cancelled (stages k' (.inl asked) matters).1
  | probe k' =>
    obtain ⟨pending, running⟩ := stages k' (.inr asked) matters
    exact congrArg₂ Answer.probed pending running
  | drop w =>
    rw [asked, drops] at matters
    cases matters

/-- A waiter that stays ends alike. -/
theorem get?_of_matches (mirrors : Mirrors m k own v) (mirrors' : Mirrors m' k own' u)
    (same : Track.Matches own goes m.state.submits v u)
    (places : ∀ w, goes w = false → own' (place (others goes) w) = own w)
    (submits : m'.state.submits = place (others goes) m.state.submits) {w : Nat}
    (mine : own w = true) (stays : goes w = false) (less : w < m.state.submits) :
  Entries.get? m'.state.endings (place (others goes) w) = Entries.get? m.state.endings w
  := by
  have less' : place (others goes) w < m'.state.submits := by
    rw [submits]
    apply place_lt (others_eq_true_iff.mpr stays) less
  have ending := same.endings.entries w mine stays less
  rw [mirrors.books.endings w mine less, ← place_others places,
    mirrors'.books.endings _ ((places w stays).trans mine) less', Option.some.injEq] at ending
  exact ending

/-- What a session asks for without some waiters. -/
theorem ownOf_without (k : σ) (goes : Nat → Bool) (requests : List (Timed σ α))
    (es : List (Nat × Timed σ α)) :
  ownOf k (submitted k (without goes requests)) (spared goes es)
    = sparedOf k (submitted k requests) goes es
  := ownOf_spared (fun _ stays => submitted_without requests stays) es

theorem Act.Clear.sharpened {act : Act σ α ρ} (clear : act.Clear c k) :
  act.Clear c.sharpened k
  where
    ahead := clear.ahead
    behind := by
      intro made called session
      rw [endsAt_sharpened]
      apply clear.behind made called session

/-- Nothing happens when the request comes. -/
def Act.Calm (c : Coalescer α ρ) (act : Act σ α ρ) : Prop :=
  (∀ a ∈ act.before.scheduled, a.due ≠ act.before.state.now)
    ∧ ∀ made ∈ act.before.state.calls,
      made.time ≠ act.before.state.now ∧ made.endsAt c ≠ act.before.state.now

instance (c : Coalescer α ρ) (act : Act σ α ρ) : Decidable (act.Calm c) :=
  inferInstanceAs (Decidable ((∀ a ∈ act.before.scheduled, a.due ≠ act.before.state.now)
    ∧ ∀ made ∈ act.before.state.calls,
      made.time ≠ act.before.state.now ∧ made.endsAt c ≠ act.before.state.now))

theorem Act.Calm.clear {act : Act σ α ρ} (calm : act.Calm c) (k : σ) :
  act.Clear c k
  where
    ahead := by
      intro a mem
      rw [Moment.timers, Moment.executions, List.mem_append, List.mem_filter, List.mem_filter]
        at mem
      obtain mem | mem := mem
      · apply calm.1 a mem.1
      · apply calm.1 a mem.1
    behind := fun made mem _ => calm.2 made mem

variable [EquivBEq σ]

/-- The tracks of a session in both runs match whenever it is asked about. -/
theorem Orderly.stage_eq (orderly : Orderly c Comes requests)
    (orderly' : Orderly c Comes (without goes (earlier ++ later)))
    (owns : Owns k (submitted k (earlier ++ later)) requests)
    (apart : Track.start.Apart c (ownOf k (submitted k (earlier ++ later)) (numbered 0 requests)))
    (apart' : Track.start.Apart c
      (sparedOf k (submitted k (earlier ++ later)) goes (numbered 0 (earlier ++ later))))
    {before after before' after' : List (Act σ α ρ)} {act act' : Act σ α ρ}
    (split : c.acts .start requests = before ++ act :: after)
    (split' : c.acts .start (without goes (earlier ++ later)) = before' ++ act' :: after')
    (shifts : act'.numbered = shifted goes act.numbered)
    (asked : act.request = .cancel k ∨ act.request = .probe k) {es : List (Nat × Timed σ α)}
    (numbers : before'.map Act.numbered = spared goes es) {number : Nat}
    (keeps : Track.Keeps c (submitted k (earlier ++ later)) goes number act.before.state.now
      (Track.start.after c (ownOf k (submitted k (earlier ++ later)) (before.map Act.numbered)))
      (Track.start.after c (sparedOf k (submitted k (earlier ++ later)) goes es))) :
  act'.before.state.isPending k = act.before.state.isPending k
    ∧ act'.before.state.isRunning k = act.before.state.isRunning k
  := by
  have now : act'.before.state.now = act.before.state.now := congrArg (fun e => e.2.time) shifts
  have request : act'.request = act.request.renumbered (others goes) :=
    congrArg (fun e => e.2.request) shifts
  have mine (own : Nat → Bool) : act.isOf k own = true ∧ act'.isOf k own = true := by
    rw [Act.isOf, Act.isOf, request]
    obtain cancels | probes := asked
    · rw [cancels]
      exact ⟨BEq.rfl, BEq.rfl⟩
    · rw [probes]
      exact ⟨BEq.rfl, BEq.rfl⟩
  rw [← ownOf_without, ← numbered_without] at apart'
  have mirrors := orderly.mirrors owns apart split (mine _).1
  have mirrors' := orderly'.mirrors (owns_submitted k _) apart' split' (mine _).2
  rw [numbers, ownOf_without, now] at mirrors'
  apply mirrors.stage_eq mirrors' (keeps _ (Nat.le_refl _)).stage

/-! ### Both runs -/

/-- The tracks of both runs match in the end. -/
theorem Orderly.keeps_all
    (orderly : Orderly c Comes (earlier ++ { time := time, request := .cancel k } :: later))
    (k' : σ) (apart : Track.start.Apart c (ownOf k' (submitted k' (earlier ++ later))
      (numbered 0 (earlier ++ { time := time, request := .cancel k } :: later)))) :
  (∃ last, Track.Keeps c (submitted k' (earlier ++ later)) (c.windowAt earlier time k)
      (following 0 (earlier ++ later)) last
      (Track.start.after c (ownOf k' (submitted k' (earlier ++ later))
        (numbered 0 (earlier ++ { time := time, request := .cancel k } :: later))))
      (Track.start.after c (sparedOf k' (submitted k' (earlier ++ later))
        (c.windowAt earlier time k) (numbered 0 (earlier ++ later)))))
    ∧ Track.start.Apart c (sparedOf k' (submitted k' (earlier ++ later))
        (c.windowAt earlier time k) (numbered 0 (earlier ++ later)))
  := by
  obtain ⟨last, ended⟩ := exists_last later
  obtain ⟨keeps, apart'⟩ := orderly.keeps_later k' apart (List.append_nil later).symm
    (Nat.le_max_left time last) fun r mem => Nat.le_trans (ended r mem) (Nat.le_max_right _ _)
  exact ⟨⟨max time last, keeps⟩, apart'⟩

/-- Before the cancel other sessions find the same. -/
theorem Orderly.thins_older
    (orderly : Orderly c Comes (earlier ++ { time := time, request := .cancel k } :: later))
    (clear : ∀ act ∈ c.acts .start (earlier ++ { time := time, request := .cancel k } :: later),
      ∀ k', act.Clear c k') {older' newer' : List (Act σ α ρ)}
    (split' : c.acts .start (without (c.windowAt earlier time k) (earlier ++ later))
      = older' ++ newer')
    (numbers' : older'.map Act.numbered
      = spared (c.windowAt earlier time k) (numbered 0 earlier)) :
  Thins (Act.IsAbout (c.windowAt earlier time k))
    (Recurs (c.windowAt earlier time k) fun q => q.drops || q.asks k)
    (c.acts .start earlier) older'
  := by
  have orderly' := orderly.around.shortened (c.windowAt earlier time k)
  have numbers := orderly.parts.1
  rw [← numbers] at numbers'
  apply thins_of_spared numbers'
  intro before act after before' act' after' within within' befores shifts
  apply recurs_of_shifted shifts fun _ => rfl
  intro k' asked matters
  have other : (k' == k) = false := by
    rw [Bool.or_eq_false_iff] at matters
    obtain cancels | probes := asked
    · rw [cancels] at matters
      exact matters.2
    · rw [probes] at matters
      exact matters.2
  have apart := orderly.apart (owns_around k' earlier later time)
    fun act mem => clear act mem k'
  obtain ⟨first, rest, parts, numbers_first, -⟩ := split_of_log numbers within
  have ended : ∀ r ∈ first, r.time ≤ act.before.state.now := by
    have sorted := (List.pairwise_append.mp orderly.sorted).1
    rw [parts] at sorted
    exact fun r mem => (List.pairwise_append.mp sorted).2.2 r mem _ List.mem_cons_self
  have whole : earlier ++ later = first ++ (act.numbered.2 :: rest ++ later) := by
    rw [parts, List.append_assoc]
  obtain ⟨keeps, -⟩ :=
    (orderly.goers k).keeps_elsewhere other orderly.around.sorted whole ended c
  rw [← numbers_first] at keeps
  have split := acts_split c earlier later { time := time, request := .cancel k }
  rw [within, List.append_assoc] at split
  rw [within', List.append_assoc] at split'
  exact orderly.stage_eq orderly' (owns_around k' earlier later time) apart
    (orderly.keeps_all k' apart).2 split split' shifts asked befores keeps

/-- After the cancel every session finds the same. -/
theorem Orderly.thins_newer
    (orderly : Orderly c Comes (earlier ++ { time := time, request := .cancel k } :: later))
    (clear : ∀ act ∈ c.acts .start (earlier ++ { time := time, request := .cancel k } :: later),
      ∀ k', act.Clear c k') {older' newer' : List (Act σ α ρ)}
    (split' : c.acts .start (without (c.windowAt earlier time k) (earlier ++ later))
      = older' ++ newer')
    (olders : older'.map Act.numbered
      = spared (c.windowAt earlier time k) (numbered 0 earlier))
    (numbers' : newer'.map Act.numbered
      = spared (c.windowAt earlier time k) (numbered (following 0 earlier) later)) :
  Thins (Act.IsAbout (c.windowAt earlier time k))
    (Recurs (c.windowAt earlier time k) Request.drops)
    (c.acts (c.apply (c.comesAfter earlier { time := time, request := .cancel k }).before.state
      (.cancel k)) later) newer'
  := by
  let cancelling := c.comesAfter earlier { time := time, request := .cancel k }
  have orderly' := orderly.around.shortened (c.windowAt earlier time k)
  obtain ⟨numbers_earlier, number, numbers⟩ := orderly.parts
  have numbers_later : (c.acts (c.apply cancelling.before.state (.cancel k)) later).map Act.numbered
      = numbered (following 0 earlier) later := numbers
  rw [← numbers_later] at numbers'
  apply thins_of_spared numbers'
  intro before act after before' act' after' within within' befores shifts
  apply recurs_of_shifted shifts fun _ => rfl
  intro k' asked _
  have apart := orderly.apart (owns_around k' earlier later time)
    fun act mem => clear act mem k'
  obtain ⟨first, rest, parts, numbers_first, -⟩ := split_of_log numbers_later within
  obtain ⟨late, sorted⟩ := List.pairwise_cons.mp (List.pairwise_append.mp orderly.sorted).2.1
  rw [parts] at late sorted
  have le := late _ (List.mem_append_right first List.mem_cons_self)
  have ended : ∀ r ∈ first, r.time ≤ act.before.state.now :=
    fun r mem => (List.pairwise_append.mp sorted).2.2 r mem _ List.mem_cons_self
  obtain ⟨keeps, -⟩ := orderly.keeps_later k' apart parts le ended
  have numbers_all : (c.acts .start earlier ++ cancelling :: before).map Act.numbered
      = numbered 0 (earlier ++ { time := time, request := .cancel k } :: first) := by
    rw [List.map_append, List.map_cons, numbers_earlier, number, numbers_first, numbered_append]
    rfl
  have befores_all : (older' ++ before').map Act.numbered
      = spared (c.windowAt earlier time k) (numbered 0 (earlier ++ first)) := by
    rw [List.map_append, olders, befores, numbers_first, numbered_append, spared_append]
  rw [← numbers_all] at keeps
  have split := acts_split c earlier later { time := time, request := .cancel k }
  rw [within, ← List.cons_append, ← List.append_assoc] at split
  rw [within', ← List.append_assoc] at split'
  exact orderly.stage_eq orderly' (owns_around k' earlier later time) apart
    (orderly.keeps_all k' apart).2 split split' shifts asked befores_all keeps

/-- A waiter whose submit was refused ends alike. -/
theorem get?_of_thins {log log' part part' : List (Act σ α ρ)} (reached : Reached c log m)
    (reached' : Reached c log' m') (within' : part' ⊆ log') {moot : Request σ α → Bool}
    (thins : Thins (Act.IsAbout goes) (Recurs goes moot) part part') {act : Act σ α ρ}
    (mem : act ∈ log) (here : act ∈ part) {cause : Mismatch}
    (request : act.request = .refused cause) (matters : moot (.refused cause) = false)
    (stays : goes act.before.state.submits = false) :
  Entries.get? m'.state.endings (place (others goes) act.before.state.submits)
    = Entries.get? m.state.endings act.before.state.submits
  := by
  have kept : ¬act.IsAbout goes := by
    rw [Act.IsAbout, request, Request.isAbout, stays]
    exact Bool.false_ne_true
  obtain ⟨act', mem', time, request', answer⟩ := thins.exists_of_mem here kept
  rw [request] at request' answer
  have number : act'.before.state.submits = place (others goes) act.before.state.submits := by
    have same := answer matters
    rw [Act.answer, Act.answer, request, request'] at same
    exact Answer.waiter.inj same
  rw [← number, refused_of_reached reached act mem cause request,
    refused_of_reached reached' act' (within' mem') cause request', time]

/-- Long after both runs the tracks of a session match. -/
theorem Orderly.matches_runOut
    (orderly : Orderly c Comes (earlier ++ { time := time, request := .cancel k } :: later))
    (k' : σ) (apart : Track.start.Apart c (ownOf k' (submitted k' (earlier ++ later))
      (numbered 0 (earlier ++ { time := time, request := .cancel k } :: later)))) :
  ∃ v u, Mirrors { state :=
        (c.runOut (earlier ++ { time := time, request := .cancel k } :: later)).1, due := [] }
      k' (submitted k' (earlier ++ later)) v
    ∧ Mirrors { state :=
        (c.runOut (without (c.windowAt earlier time k) (earlier ++ later))).1, due := [] }
      k' (submitted k' (without (c.windowAt earlier time k) (earlier ++ later))) u
    ∧ Track.Matches (submitted k' (earlier ++ later)) (c.windowAt earlier time k)
      (following 0 (earlier ++ later)) v u
  := by
  have orderly' := orderly.around.shortened (c.windowAt earlier time k)
  obtain ⟨⟨last, keeps⟩, apart'⟩ := orderly.keeps_all k' apart
  rw [← ownOf_without, ← numbered_without] at keeps apart'
  -- At this time both runs are at their ends.
  let late := max last
    (max (c.runOut (earlier ++ { time := time, request := .cancel k } :: later)).1.now
      (c.runOut (without (c.windowAt earlier time k) (earlier ++ later))).1.now)
  exact ⟨_, _, orderly.mirrors_runOut (owns_around k' earlier later time) apart (by omega),
    orderly'.mirrors_runOut (owns_submitted k' _) apart' (by omega),
    keeps late (Nat.le_max_left _ _)⟩

/-- With a sharp clock a cancelled window can be taken away. -/
theorem Orderly.untraced
    (orderly : Orderly c Comes (earlier ++ { time := time, request := .cancel k } :: later))
    (clear : ∀ act ∈ c.acts .start (earlier ++ { time := time, request := .cancel k } :: later),
      ∀ k', act.Clear c k') :
  Untraced k (c.windowAt earlier time k) (c.acts .start earlier)
    (c.acts (c.apply (c.comesAfter earlier { time := time, request := .cancel k }).before.state
      (.cancel k)) later)
    (c.acts .start (without (c.windowAt earlier time k) (earlier ++ later)))
    (c.runOut (earlier ++ { time := time, request := .cancel k } :: later)).1
    (c.runOut (without (c.windowAt earlier time k) (earlier ++ later))).1
  := by
  let goes := c.windowAt earlier time k
  let requests := earlier ++ { time := time, request := .cancel k } :: later
  have orderly' := orderly.around.shortened goes
  have reached := reached_runOut (c := c) requests
  have reached' := reached_runOut (c := c) (without goes (earlier ++ later))
  have count : (c.runOut requests).1.submits = following 0 (earlier ++ later) := by
    rw [submits_runOut, following_append, following_append, following_cons]
    rfl
  have submits : (c.runOut (without goes (earlier ++ later))).1.submits
      = place (others goes) (c.runOut requests).1.submits := by
    rw [count, submits_runOut, following_without]
  have both (k' : σ) := orderly.matches_runOut k'
    (orderly.apart (owns_around k' earlier later time) fun act mem => clear act mem k')
  have numbers' := orderly'.numbers
  rw [numbered_without, numbered_append, spared_append, List.map_eq_append_iff] at numbers'
  obtain ⟨older', newer', split', olders, newers⟩ := numbers'
  have thins := orderly.thins_older clear split' olders
  have thins' := orderly.thins_newer clear split' olders newers
  exact {
    calls := by
      intro k'
      obtain ⟨v, u, mirrors, mirrors', same⟩ := both k'
      exact mirrors'.books.calls.symm.trans (same.calls.trans mirrors.books.calls)
    submits := submits
    endings := by
      intro w stays less
      obtain ⟨act, mem, rfl, ⟨k', args, request⟩ | ⟨cause, request⟩⟩ :=
        exists_act_of_waiter reached less
      · obtain ⟨v, u, mirrors, mirrors', same⟩ := both k'
        have owned := owns_acts orderly.sharp orderly.comes orderly.sorted
          (owns_around k' earlier later time) act mem k' args request
        rw [← count] at same
        exact get?_of_matches mirrors mirrors' same (fun _ stays => submitted_without _ stays)
          submits (owned.trans BEq.rfl) stays less
      · have here := mem
        rw [acts_split, List.mem_append, List.mem_cons] at here
        obtain older | rfl | newer := here
        · refine get?_of_thins reached reached' ?_ thins mem older request rfl stays
          rw [split']
          apply List.subset_append_left
        · cases request
        · refine get?_of_thins reached reached' ?_ thins' mem newer request rfl stays
          rw [split']
          apply List.subset_append_right
    acts := ⟨older', newer', split', thins, thins'⟩ }

/-! ### Cancels and their answers -/

/-- A cancel finds a window exactly if the wait of the last submit is not over. -/
theorem Orderly.isPending_iff
    (orderly : Orderly c Comes (earlier ++ { time := time, request := .cancel k } :: later))
    (clear : (c.comesAfter earlier { time := time, request := .cancel k }).Clear c k) :
  (c.comesAfter earlier { time := time, request := .cancel k }).before.state.isPending k = true
    ↔ ∃ act args, Latest (c.acts .start earlier) k act ∧ act.Joins k args ∧ time < act.closesAt c
  := by
  let cancelling := c.comesAfter earlier { time := time, request := .cancel k }
  have now : cancelling.before.state.now = time := congrArg (fun e => e.2.time) orderly.parts.2.1
  have iff := Coalescer.isPending_iff orderly.sharp (reached_comesAfter c earlier _)
    fun a mem => clear.ahead a (List.mem_append_left _ mem)
  rw [now] at iff
  exact iff

/-- A cancelled window leaves no trace: where the clock tells the times of a run apart, a cancel can
be taken away with the window that it gives up, if it gives up one, and by itself otherwise. -/
theorem untraced_runOut (counts : c.clock.Counts Comes Holds)
    (counted : ∀ r ∈ earlier ++ { time := time, request := .cancel k } :: later,
      r.Counted c Comes Holds)
    (alike : ∀ number number' args, c.result number args = c.result number' args)
    (sorted : (earlier ++ { time := time, request := .cancel k } :: later).Pairwise
      fun r r' => r.time ≤ r'.time)
    (clear : ∀ act ∈ c.acts .start (earlier ++ { time := time, request := .cancel k } :: later),
      ∀ k', act.Clear c k') :
  ∃ cancelling newer done,
    c.acts .start (earlier ++ { time := time, request := .cancel k } :: later)
      = c.acts .start earlier ++ cancelling :: newer
    ∧ (c.runOut (earlier ++ { time := time, request := .cancel k } :: later)).2[earlier.length]?
      = some (.cancelled done)
    ∧ (done = true ↔ ∃ act args, Latest (c.acts .start earlier) k act ∧ act.Joins k args
      ∧ time < act.closesAt c)
    ∧ (done = true → ∃ before opening between waiters,
      c.acts .start earlier = before ++ opening :: between ∧ Opened k opening between waiters
      ∧ ∀ w, c.windowAt earlier time k w = true ↔ w ∈ waiters)
    ∧ (done = false →
      without (c.windowAt earlier time k) (earlier ++ later) = earlier ++ later)
    ∧ Untraced k (c.windowAt earlier time k) (c.acts .start earlier) newer
      (c.acts .start (without (c.windowAt earlier time k) (earlier ++ later)))
      (c.runOut (earlier ++ { time := time, request := .cancel k } :: later)).1
      (c.runOut (without (c.windowAt earlier time k) (earlier ++ later))).1
  := by
  let cancelling := c.comesAfter earlier { time := time, request := .cancel k }
  let cancelling' := c.sharpened.comesAfter earlier { time := time, request := .cancel k }
  -- The clock may be sharpened for both runs, and for the requests before the cancel.
  have first : earlier.Sublist (earlier ++ { time := time, request := .cancel k } :: later) :=
    List.sublist_append_left _ _
  have around : (earlier ++ later).Sublist
      (earlier ++ { time := time, request := .cancel k } :: later) :=
    List.Sublist.append_left (List.sublist_cons_self _ _) _
  obtain ⟨acts, run⟩ := runOut_sharpened counts counted sorted
  obtain ⟨acts_earlier, -⟩ := runOut_sharpened counts
    (fun r mem => counted r (first.subset mem)) (sorted.sublist first)
  have counted' : ∀ r ∈ without (c.windowAt earlier time k) (earlier ++ later),
      r.Counted c Comes Holds := counted_without fun r mem => counted r (around.subset mem)
  obtain ⟨acts', run'⟩ :=
    runOut_sharpened counts counted' (sorted_without (sorted.sublist around))
  have split' := acts_split c.sharpened earlier later { time := time, request := .cancel k }
  have both := split'
  rw [← acts, ← acts_earlier, acts_split c] at both
  obtain ⟨same, same_newer⟩ := List.cons.inj (List.append_cancel_left both)
  have window : c.windowAt earlier time k = c.sharpened.windowAt earlier time k :=
    congrArg (fun act : Act σ α ρ => act.before.state.inWindow k) same
  have orderly : Orderly c.sharpened Comes
      (earlier ++ { time := time, request := .cancel k } :: later) :=
    ⟨counts.sharp, alike, fun r mem => (counted r mem).comes, sorted⟩
  rw [acts] at clear
  have clear' := fun act mem k' => (clear act mem k').sharpened
  have split := acts_split c earlier later { time := time, request := .cancel k }
  refine ⟨cancelling, _, cancelling.before.state.isPending k, split,
    answer_runOut c earlier later _, ?_, opened_comesAfter, ?_, ?_⟩
  · have found := orderly.isPending_iff (clear' cancelling' (by simp [split', cancelling']) k)
    rw [← same] at found
    rw [acts_earlier]
    apply found.trans
    refine exists_congr fun act => exists_congr fun args => and_congr_right ?_
    rintro ⟨older, newer, parts, -⟩
    have mem : act ∈ c.sharpened.acts .start earlier := by
      rw [parts]
      apply List.mem_append_right _ List.mem_cons_self
    exact and_congr_right fun _ => lt_closesAt_sharpened (orderly.now_le mem)
  · intro closed
    have nobody : c.windowAt earlier time k = fun _ => false := inWindow_of_closed closed
    rw [nobody, without_none]
  · have newer : c.acts (c.apply cancelling.before.state (.cancel k)) later
        = c.sharpened.acts (c.sharpened.apply cancelling'.before.state (.cancel k)) later :=
      same_newer
    have untraced := orderly.untraced clear'
    rw [← window, ← acts_earlier, ← acts', ← run, ← run', ← newer] at untraced
    exact untraced

/-- Two sessions, one of which has a window of two submits, whose first waiter is dropped. -/
def openedRequests : List (Timed Nat String) :=
  atSeconds [(0, .submit 1 "first"), (1, .submit 2 "other"), (2, .submit 1 "fails"), (3, .drop 0),
    (3, .probe 1)]

/-- The other waiter is dropped as well, and both sessions go on; one of them finds no window to
give up. -/
def furtherRequests : List (Timed Nat String) :=
  atSeconds [(8, .probe 1), (8, .drop 2), (9, .submit 1 "fails"), (9, .submit 2 "shared"),
    (11, .cancel 2), (11, .drop 3), (20, .probe 2)]

/-- In between the window is given up. -/
def givenUpRequests : List (Timed Nat String) :=
  openedRequests ++ { time := 4 * unitsPerOne, request := .cancel 1 } :: furtherRequests

/-- The waiters of the window. -/
def givenUp : Nat → Bool :=
  (failingCoalescer 5 4).windowAt openedRequests (4 * unitsPerOne) (1 : Nat)

theorem untraced_givenUpRequests :
  Clock.binary64.Counts (Grid 1074) (Grid 1074)
    ∧ (∀ r ∈ givenUpRequests, r.Counted (failingCoalescer 5 4) (Grid 1074) (Grid 1074))
    ∧ (givenUpRequests.Pairwise fun r r' => r.time ≤ r'.time)
    ∧ (∀ act ∈ (failingCoalescer 5 4).acts .start givenUpRequests, ∀ k,
      act.Clear (failingCoalescer 5 4) k)
    ∧ (∃ cancelling newer, (failingCoalescer 5 4).acts .start givenUpRequests
        = (failingCoalescer 5 4).acts .start openedRequests ++ cancelling :: newer
      ∧ Untraced 1 givenUp ((failingCoalescer 5 4).acts .start openedRequests) newer
        ((failingCoalescer 5 4).acts .start (without givenUp (openedRequests ++ furtherRequests)))
        ((failingCoalescer 5 4).runOut givenUpRequests).1
        ((failingCoalescer 5 4).runOut (without givenUp (openedRequests ++ furtherRequests))).1)
    ∧ (List.range 5).filter givenUp = [0, 2]
    ∧ ((failingCoalescer 5 4).runOut givenUpRequests).2
      = [.waiter 0, .waiter 1, .waiter 2, .dropped true, .probed true false, .cancelled true,
        .probed false false, .dropped false, .waiter 3, .waiter 4, .cancelled false, .dropped true,
        .probed false false]
    ∧ ((failingCoalescer 5 4).runOut (without givenUp (openedRequests ++ furtherRequests))).2
      = [.waiter 0, .probed false false, .probed false false, .waiter 1, .waiter 2,
        .cancelled false, .dropped true, .probed false false]
    ∧ callsOf 1 ((failingCoalescer 5 4).runOut givenUpRequests).1.calls
      = [(14 * unitsPerOne, "fails")]
    ∧ callsOf 2 ((failingCoalescer 5 4).runOut givenUpRequests).1.calls
      = [(6 * unitsPerOne, "other")]
  := by
  have counts : Clock.binary64.Counts (Grid 1074) (Grid 1074) :=
    Clock.counts_grid (by decide) (by decide)
  have alike : ∀ r ∈ givenUpRequests,
      r.Counted (secondsCoalescer 5 4) (Grid 1074) (Grid 1074) := by
    have listed : givenUpRequests = atSeconds [(0, .submit 1 "first"), (1, .submit 2 "other"),
        (2, .submit 1 "fails"), (3, .drop 0), (3, .probe 1), (4, .cancel 1), (8, .probe 1),
        (8, .drop 2), (9, .submit 1 "fails"), (9, .submit 2 "shared"), (11, .cancel 2),
        (11, .drop 3), (20, .probe 2)] := rfl
    rw [listed]
    apply counted_atSeconds
    decide
  have counted : ∀ r ∈ givenUpRequests,
      r.Counted (failingCoalescer 5 4) (Grid 1074) (Grid 1074) :=
    fun r mem => ⟨(alike r mem).comes, (alike r mem).closes, (alike r mem).ends⟩
  have sorted : givenUpRequests.Pairwise fun r r' => r.time ≤ r'.time := by decide +kernel
  have calm : ∀ act ∈ (failingCoalescer 5 4).acts .start givenUpRequests,
      act.Calm (failingCoalescer 5 4) := by decide +kernel
  have clear : ∀ act ∈ (failingCoalescer 5 4).acts .start givenUpRequests, ∀ k,
      act.Clear (failingCoalescer 5 4) k := fun act mem k => (calm act mem).clear k
  refine ⟨counts, counted, sorted, clear, ?_, ?_, ?_, ?_, ?_, ?_⟩
  · obtain ⟨cancelling, newer, done, split, -, -, -, -, untraced⟩ :=
      untraced_runOut counts counted (fun _ _ _ => rfl) sorted clear
    exact ⟨cancelling, newer, split, untraced⟩
  · decide +kernel
  · decide +kernel
  · decide +kernel
  · decide +kernel
  · decide +kernel

/-- A session gives up a window that it does not have, while the windows of two others are open that
close at one time. -/
def idleRequests : List (Timed Nat String) :=
  atSeconds [(0, .submit 1 "first"), (0, .submit 1 "second"), (0, .submit 2 "other"),
    (1, .cancel 3)]

/-- A session gives up a window that it does not have, half a nanosecond before another one
closes. -/
def hastyRequests : List (Timed Nat String) :=
  [{ time := 0, request := .submit 1 "first" }, { time := 0, request := .submit 1 "second" },
    { time := roundUnits (9999999995 * unitsPerOne) (tenTo 10), request := .cancel 2 }]

/-- A cancel that finds no window changes the order of calls that are due at one time, and with the
order their numbers; and the binary64 clock makes a call early that is due right after it. -/
theorem disordered_and_hastened :
  (∀ act ∈ (tellingCoalescer 5 1).acts .start idleRequests, act.Calm (tellingCoalescer 5 1))
    ∧ ((tellingCoalescer 5 1).runOut idleRequests).2
      = [.waiter 0, .waiter 1, .waiter 2, .cancelled false]
    ∧ ((tellingCoalescer 5 1).runOut idleRequests).1.calls.map (·.args) = ["other", "second"]
    ∧ ((tellingCoalescer 5 1).runOut idleRequests.dropLast).1.calls.map (·.args)
      = ["second", "other"]
    ∧ (Entries.get? ((tellingCoalescer 5 1).runOut idleRequests).1.endings 1).map
        (fun e => Result.value? e.result) = some (some (2, "second"))
    ∧ (Entries.get? ((tellingCoalescer 5 1).runOut idleRequests.dropLast).1.endings 1).map
        (fun e => Result.value? e.result) = some (some (1, "second"))
    ∧ ((secondsCoalescer 1 1).runOut hastyRequests).2
      = [.waiter 0, .waiter 1, .cancelled false]
    ∧ callsOf 1 ((secondsCoalescer 1 1).runOut hastyRequests).1.calls
      ≠ callsOf 1 ((secondsCoalescer 1 1).runOut hastyRequests.dropLast).1.calls
  := by
  refine ⟨?_, ?_, ?_, ?_, ?_, ?_, ?_, ?_⟩
  · decide +kernel
  · decide +kernel
  · decide +kernel
  · decide +kernel
  · decide +kernel
  · decide +kernel
  · decide +kernel
  · decide +kernel

end ReflexPolicy.Coalescer

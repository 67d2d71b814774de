import ReflexPolicy.Proofs.Coalescer.Alone
import ReflexPolicy.Proofs.Coalescer.Elapse
import ReflexPolicy.Proofs.Coalescer.Waiters

/-!
# Drops

Whoever drops a waiter ends that waiter and nothing else.  A run from which some drops are taken
away is the same run for everybody else: `Unaffected` says that the calls, the answers and the
endings of all other waiters are the same.

The clock stops for a drop as for any request.  So a drop may change the order in which windows of
several sessions close at one time, but for each session by itself that makes no difference: the
tracks of the two runs differ in the endings of the waiters that were dropped.
-/

namespace ReflexPolicy.Coalescer

variable {σ α ρ : Type}

/-! ### Lists with some entries taken away -/

/-- The second list is the first one, entry by entry, without some entries that may go. -/
inductive Thins {β : Type} (Goes : β → Prop) (Stays : β → β → Prop) : List β → List β → Prop where
  | nil : Thins Goes Stays [] []
  | gone {x : β} {l l' : List β} (goes : Goes x) (rest : Thins Goes Stays l l') :
    Thins Goes Stays (x :: l) l'
  | kept {x x' : β} {l l' : List β} (stays : Stays x x') (rest : Thins Goes Stays l l') :
    Thins Goes Stays (x :: l) (x' :: l')

namespace Thins

variable {β : Type} {Goes : β → Prop} {Stays : β → β → Prop} {l l' : List β}

theorem sublist (thins : Thins Goes Eq l l') :
  l'.Sublist l
  := by
  induction thins with
  | nil => exact .slnil
  | gone _ _ ih => exact .cons _ ih
  | kept same _ ih =>
    cases same
    exact .cons_cons _ ih

theorem exists_of_mem (thins : Thins Goes Stays l l') {x : β} (mem : x ∈ l) (stays : ¬Goes x) :
  ∃ x' ∈ l', Stays x x'
  := by
  induction thins with
  | nil => cases mem
  | gone goes _ ih =>
    obtain rfl | mem := List.mem_cons.mp mem
    · apply absurd goes stays
    · apply ih mem
  | @kept y y' _ _ same _ ih =>
    obtain rfl | mem := List.mem_cons.mp mem
    · use y', List.mem_cons_self
    · obtain ⟨x', mem', same'⟩ := ih mem
      use x', List.mem_cons_of_mem y' mem'

end Thins

/-! ### Tracks that differ in some waiters -/

namespace Track

/-- Two tracks are the same except for how some waiters have ended. -/
structure Like (gone : Nat → Prop) (v u : Track α ρ) : Prop where
  stage : v.stage = u.stage
  calls : v.calls = u.calls
  length : v.endings.length = u.endings.length
  endings : ∀ p, ¬gone p → v.endings[p]? = u.endings[p]?

variable {gone : Nat → Prop} {c : Coalescer α ρ} {v u x : Track α ρ}

theorem Like.refl (gone : Nat → Prop) (v : Track α ρ) :
  Like gone v v
  := ⟨rfl, rfl, rfl, fun _ _ => rfl⟩

theorem Like.trans (first : Like gone v u) (second : Like gone u x) :
  Like gone v x
  where
    stage := first.stage.trans second.stage
    calls := first.calls.trans second.calls
    length := first.length.trans second.length
    endings := fun p other => (first.endings p other).trans (second.endings p other)

theorem Like.settle (like : Like gone v u) (time : Nat) (r : Result ρ) :
  Like gone (v.settle time r) (u.settle time r)
  where
    stage := rfl
    calls := like.calls
    length := by simpa [Track.settle] using like.length
    endings := by
      intro p other
      rw [Track.settle, Track.settle, List.getElem?_map, List.getElem?_map, like.endings p other]

theorem Like.close (like : Like gone v u) (time : Nat) (args : α) :
  Like gone (v.close c time args) (u.close c time args)
  := by
  have called : Like gone { v with calls := v.calls ++ [(time, args)] }
      { u with calls := u.calls ++ [(time, args)] } :=
    ⟨like.stage, by rw [like.calls], like.length, like.endings⟩
  rw [Track.close, Track.close]
  split
  · apply called.settle
  · exact ⟨rfl, called.calls, like.length, like.endings⟩

theorem Like.happen (like : Like gone v u) (time : Nat) :
  Like gone (v.happen c time) (u.happen c time)
  := by
  obtain ⟨stage, calls, endings⟩ := v
  obtain ⟨_, calls', endings'⟩ := u
  obtain rfl := like.stage
  cases stage with
  | idle => exact like
  | waiting closes args =>
    by_cases due : closes ≤ time
    · rw [happen_waiting rfl due, happen_waiting rfl due]
      apply like.close
    · simpa [Track.happen, closeBy, due] using like
  | calling ends args =>
    by_cases due : ends ≤ time
    · rw [happen_calling rfl due, happen_calling rfl due]
      apply like.settle
    · simpa [Track.happen, finishBy, due] using like

theorem Like.advance (like : Like gone v u) (time : Nat) :
  Like gone (v.advance c time) (u.advance c time)
  := by
  rw [advance_eq_happen, advance_eq_happen]
  apply (like.happen time).happen

theorem Like.elapse (like : Like gone v u) (last time : Nat) :
  Like gone (v.elapse c last time) (u.elapse c last time)
  := by
  rw [Track.elapse, Track.elapse]
  split
  · apply like
  · apply (like.advance _).happen

theorem Like.append (like : Like gone v u) {stage stage' : Stage α} (same : stage = stage')
    (e : Option (Ending ρ)) :
  Like gone { v with stage := stage, endings := v.endings ++ [e] }
    { u with stage := stage', endings := u.endings ++ [e] }
  where
    stage := same
    calls := like.calls
    length := by rw [List.length_append, List.length_append, like.length]
    endings := by
      intro p other
      simp only [List.getElem?_append, like.length, like.endings p other]

/-- A request keeps the tracks alike. -/
theorem Like.ask (like : Like gone v u) (time : Nat) (q : Request σ α) :
  Like gone (v.ask c time q) (u.ask c time q)
  := by
  have same := like.stage
  cases q with
  | submit k args =>
    simp only [Track.ask, ← same]
    split
    · rw [same]
      apply like.append rfl
    · apply like.append rfl
  | refused cause => exact like.append like.stage _
  | cancel k =>
    simp only [Track.ask, ← same]
    split
    · apply like.settle
    · apply like
  | probe k => exact like
  | drop p =>
    exact {
      stage := like.stage
      calls := like.calls
      length := by simpa [Track.ask] using like.length
      endings := by
        intro p' other
        simp only [Track.ask, List.getElem?_modify, like.endings p' other] }

/-- A drop makes a difference for the waiter that is dropped only. -/
theorem Like.drop (time : Nat) {p : Nat} (goes : gone p) :
  Like gone (v.ask c time (.drop p : Request σ α)) v
  where
    stage := rfl
    calls := rfl
    length := by simp [Track.ask]
    endings := by
      intro p' other
      have apart : p ≠ p' := by
        rintro rfl
        apply other goes
      simp [Track.ask, apart]

end Track

/-! ### Requests without some drops -/

theorem le_of_mem_numbered {number : Nat} {requests : List (Timed σ α)} {e : Nat × Timed σ α}
    (mem : e ∈ numbered number requests) :
  number ≤ e.1
  := by
  induction requests generalizing number with
  | nil => cases mem
  | cons r rest ih =>
    rw [numbered, List.mem_cons] at mem
    obtain rfl | mem := mem
    · apply Nat.le_refl
    · apply Nat.le_trans (Nat.le_add_right _ _) (ih mem)

theorem pairwise_numbered (number : Nat) (requests : List (Timed σ α)) :
  (numbered number requests).Pairwise fun e e' => e.2.request.submits = true → e.1 < e'.1
  := by
  induction requests generalizing number with
  | nil => exact .nil
  | cons r rest ih =>
    rw [numbered, List.pairwise_cons]
    refine ⟨?_, ih _⟩
    intro e mem submits
    have le := le_of_mem_numbered mem
    rw [submits] at le
    exact le

/-- Each submit has a number of its own. -/
theorem eq_of_numbered {requests : List (Timed σ α)} {e e' : Nat × Timed σ α}
    (mem : e ∈ numbered 0 requests) (mem' : e' ∈ numbered 0 requests)
    (submits : e.2.request.submits = true) (submits' : e'.2.request.submits = true)
    (same : e.1 = e'.1) :
  e = e'
  := by
  have earlier := pairwise_numbered 0 requests
  refine List.Pairwise.forall_of_forall_of_flip (R := fun e e' : Nat × Timed σ α =>
    e.2.request.submits = true → e'.2.request.submits = true → e.1 = e'.1 → e = e') ?_ ?_ ?_
    mem mem' submits submits' same
  · exact fun _ _ _ _ _ => rfl
  · exact earlier.imp fun less submits _ same => absurd same (Nat.ne_of_lt (less submits))
  · exact earlier.imp fun less _ submits same => absurd same.symm (Nat.ne_of_lt (less submits))

/-- The request drops one of some waiters. -/
def Request.DropsAny (gone : Nat → Prop) (q : Request σ α) : Prop := ∃ w, gone w ∧ q = .drop w

variable [BEq σ]

/-- The request is a submit of the session. -/
def Request.isSubmitOf (k : σ) : Request σ α → Bool
  | .submit k' _ => k' == k
  | _ => false

theorem Request.submits_of_isSubmitOf {k : σ} {q : Request σ α} (isOf : q.isSubmitOf k = true) :
  q.submits = true
  := by
  cases q with
  | submit k' args => rfl
  | _ => cases isOf

/-- The waiters of a session are those of its submits. -/
def submitted (k : σ) (requests : List (Timed σ α)) (w : Nat) : Bool :=
  (numbered 0 requests).any fun e => e.1 == w && e.2.request.isSubmitOf k

theorem owns_submitted (k : σ) (requests : List (Timed σ α)) :
  Owns k (submitted k requests) requests
  := by
  intro e mem k' args request
  rw [Bool.eq_iff_iff, submitted, List.any_eq_true]
  constructor
  · rintro ⟨e', mem', found⟩
    rw [Bool.and_eq_true, beq_iff_eq] at found
    obtain ⟨same, found⟩ := found
    have submits' := Request.submits_of_isSubmitOf found
    rw [eq_of_numbered mem' mem submits' (by rw [request, Request.submits]) same, request] at found
    exact found
  · intro same
    use e, mem
    simp [request, Request.isSubmitOf, same]

/-! ### Two runs at one time -/

/-- Someone may make a request. -/
structure Ready (c : Coalescer α ρ) (Comes : Nat → Prop) (s : State σ α ρ) : Prop where
  reached : ∃ log, Reached c log { state := s, due := [] }
  rested : Rested c.clock s
  comes : Comes s.now

/-- The places of some waiters among those of their session. -/
def Places (own : Nat → Bool) (gone : Nat → Prop) (p : Nat) : Prop :=
  ∃ w, own w = true ∧ gone w ∧ place own w = p

/-- Some drops have come in one run and not in another one, which may be behind in time: when it has
caught up, the tracks are the same but for the waiters that were dropped. -/
structure Level (c : Coalescer α ρ) (Comes : Nat → Prop) (own : σ → Nat → Bool)
    (gone : Nat → Prop) (s s' : State σ α ρ) : Prop where
  ready : Ready c Comes s
  ready' : Ready c Comes s'
  behind : s'.now ≤ s.now
  submits : s'.submits = s.submits
  tracks : ∀ k, ∃ v v', Mirrors { state := s, due := [] } k (own k) v
    ∧ Mirrors { state := s', due := [] } k (own k) v'
    ∧ Track.Like (Places (own k) gone) v (v'.elapse c s'.now s.now)

variable {c : Coalescer α ρ} {Comes : Nat → Prop} {s s' : State σ α ρ} {k : σ}
  {own : σ → Nat → Bool} {gone : Nat → Prop} {v : Track α ρ}

theorem Ready.sleep (sharp : c.clock.Sharp Comes) (ready : Ready c Comes s) {time : Nat}
    (comes : Comes time) (later : s.now ≤ time) :
  Ready c Comes (c.sleepUntil time s) ∧ (c.sleepUntil time s).now = time
  := by
  obtain ⟨⟨log, reached⟩, rested, now⟩ := ready
  obtain ⟨awakes, awake⟩ := now_sleepUntil sharp comes now reached rested later
  refine ⟨⟨⟨log, reached_sleepUntil time reached⟩, awake, ?_⟩, awakes⟩
  rw [awakes]
  apply comes

theorem Ready.ask (sharp : c.clock.Sharp Comes) (ready : Ready c Comes s) (q : Request σ α) :
  Ready c Comes (c.apply s q)
  := by
  obtain ⟨⟨log, reached⟩, rested, now⟩ := ready
  refine ⟨⟨_, reached.ask q⟩, rested_apply sharp (sound_of_reached reached) rested q, ?_⟩
  rw [(apply_frame c s q).1]
  apply now

/-- Answers at one time are the same, except to drops. -/
theorem Level.answer (level : Level c Comes own gone s s') (same : s'.now = s.now)
    {q : Request σ α} (other : ∀ w, q ≠ .drop w) :
  answer s' q = answer s q
  := by
  have stages (k : σ) : s'.isPending k = s.isPending k ∧ s'.isRunning k = s.isRunning k := by
    obtain ⟨v, v', mirrors, mirrors', like⟩ := level.tracks k
    rw [same, Track.elapse_self] at like
    exact ⟨by rw [mirrors'.isPending, mirrors.isPending, like.stage],
      by rw [mirrors'.isRunning, mirrors.isRunning, like.stage]⟩
  cases q with
  | submit k args => exact congrArg Answer.waiter level.submits
  | refused cause => exact congrArg Answer.waiter level.submits
  | cancel k => exact congrArg Answer.cancelled (stages k).1
  | probe k => exact congrArg₂ Answer.probed (stages k).1 (stages k).2
  | drop w => exact absurd rfl (other w)

/-- Requests come one after another, from some state on, and the numbers of each session are those
of its submits. -/
structure Follow (Comes : Nat → Prop) (own : σ → Nat → Bool) (s : State σ α ρ)
    (requests : List (Timed σ α)) : Prop where
  comes : ∀ r ∈ requests, Comes r.time
  later : ∀ r ∈ requests, s.now ≤ r.time
  sorted : requests.Pairwise fun r r' => r.time ≤ r'.time
  owns : ∀ k, ∀ e ∈ numbered s.submits requests, ∀ k' args, e.2.request = .submit k' args →
    own k e.1 = (k' == k)

theorem Follow.next {r : Timed σ α} {rest : List (Timed σ α)}
    (follow : Follow Comes own s (r :: rest)) (now : s'.now = r.time) (submits : s'.submits = s.submits) :
  Follow Comes own (c.apply s' r.request) rest
  where
    comes := fun r' mem => follow.comes r' (List.mem_cons_of_mem r mem)
    later := by
      rw [(apply_frame c s' r.request).1, now]
      apply (List.pairwise_cons.mp follow.sorted).1
    sorted := (List.pairwise_cons.mp follow.sorted).2
    owns := by
      rw [submits_apply, submits]
      exact fun k e mem => follow.owns k e (List.mem_cons_of_mem _ mem)

theorem level_start (sharp : c.clock.Sharp Comes) (own : σ → Nat → Bool) (gone : Nat → Prop) :
  Level c Comes own gone .start .start
  := by
  have ready : Ready c Comes (.start : State σ α ρ) := ⟨⟨[], .start⟩, rested_start _, sharp.zero⟩
  refine ⟨ready, ready, Nat.le_refl _, rfl, ?_⟩
  intro k
  refine ⟨.start, .start, mirrors_start, mirrors_start, ?_⟩
  rw [Track.elapse_self]
  apply Track.Like.refl

/-- A waiter that was not dropped ends alike. -/
theorem get?_of_like {m m' : Moment σ α ρ} {own : Nat → Bool} {v' : Track α ρ}
    (mirrors : Mirrors m k own v) (mirrors' : Mirrors m' k own v')
    (like : Track.Like (Places own gone) v v') (submits : m'.state.submits = m.state.submits)
    {w : Nat} (mine : own w = true) (stays : ¬gone w) (submitted : w < m.state.submits) :
  Entries.get? m'.state.endings w = Entries.get? m.state.endings w
  := by
  have other : ¬Places own gone (place own w) := by
    rintro ⟨w', mine', goes, same⟩
    rw [place_inj mine' mine same] at goes
    exact stays goes
  have same := like.endings _ other
  rw [mirrors.books.endings w mine submitted, mirrors'.books.endings w mine (submits ▸ submitted),
    Option.some.injEq] at same
  apply same.symm

variable [EquivBEq σ]

/-- A request does to a session what it does to the track, if it is one of the session. -/
theorem mirrors_apply (ready : Ready c Comes s) {own : Nat → Bool}
    (mirrors : Mirrors { state := s, due := [] } k own v) {q : Request σ α}
    (owns : ∀ k' args, q = .submit k' args → own s.submits = (k' == k)) :
  Mirrors { state := c.apply s q, due := [] } k own
    (if q.isOf k own s.submits then v.ask c s.now (q.renumbered own) else v)
  := by
  obtain ⟨log, reached⟩ := ready.reached
  have sound := sound_of_reached reached
  have parted := parted_of_reached reached
  split
  · rename_i mine
    exact mirrors_ask sound parted mirrors owns mine
  · rename_i other
    rw [Bool.not_eq_true] at other
    exact mirrors_of_elsewhere sound parted mirrors owns other

/-- The run that is ahead sleeps. -/
theorem Level.ahead (level : Level c Comes own gone s s') (sharp : c.clock.Sharp Comes)
    (alike : ∀ number number' args, c.result number args = c.result number' args) {time : Nat}
    (comes : Comes time) (later : s.now ≤ time) :
  Level c Comes own gone (c.sleepUntil time s) s'
  := by
  obtain ⟨ready, now⟩ := level.ready.sleep sharp comes later
  obtain ⟨log, reached⟩ := level.ready.reached
  exact {
    ready := ready
    ready' := level.ready'
    behind := by
      rw [now]
      apply Nat.le_trans level.behind later
    submits := by rw [submits_sleepUntil, level.submits]
    tracks := by
      intro k
      obtain ⟨v, v', mirrors, mirrors', like⟩ := level.tracks k
      refine ⟨_, v', mirrors_sleepUntil sharp alike comes level.ready.comes reached
        level.ready.rested mirrors, mirrors', ?_⟩
      rw [now, ← Track.elapse_elapse level.behind later]
      apply like.elapse }

/-- The run that is behind catches up. -/
theorem Level.caughtUp (level : Level c Comes own gone s s') (sharp : c.clock.Sharp Comes)
    (alike : ∀ number number' args, c.result number args = c.result number' args) :
  Level c Comes own gone s (c.sleepUntil s.now s') ∧ (c.sleepUntil s.now s').now = s.now
  := by
  obtain ⟨ready, now⟩ := level.ready'.sleep sharp level.ready.comes level.behind
  obtain ⟨log, reached⟩ := level.ready'.reached
  refine ⟨?_, now⟩
  exact {
    ready := level.ready
    ready' := ready
    behind := Nat.le_of_eq now
    submits := by rw [submits_sleepUntil, level.submits]
    tracks := by
      intro k
      obtain ⟨v, v', mirrors, mirrors', like⟩ := level.tracks k
      refine ⟨v, _, mirrors, mirrors_sleepUntil sharp alike level.ready.comes level.ready'.comes
        reached level.ready'.rested mirrors', ?_⟩
      rw [now, Track.elapse_self]
      apply like }

/-- A drop comes in the run that is ahead. -/
theorem Level.drop (level : Level c Comes own gone s s') (sharp : c.clock.Sharp Comes) {w : Nat}
    (goes : gone w) :
  Level c Comes own gone (c.apply s (.drop w)) s'
  where
    ready := level.ready.ask sharp _
    ready' := level.ready'
    behind := by
      rw [(apply_frame c s _).1]
      apply level.behind
    submits := by
      rw [submits_apply]
      apply level.submits
    tracks := by
      intro k
      obtain ⟨v, v', mirrors, mirrors', like⟩ := level.tracks k
      refine ⟨_, v', mirrors_apply level.ready mirrors nofun, mirrors', ?_⟩
      rw [(apply_frame c s _).1]
      apply Track.Like.trans _ like
      split
      · rename_i mine
        apply Track.Like.drop _ ⟨w, mine, goes, rfl⟩
      · apply Track.Like.refl

/-- A request comes in both runs at one time. -/
theorem Level.ask (level : Level c Comes own gone s s') (sharp : c.clock.Sharp Comes)
    (same : s'.now = s.now) {q : Request σ α}
    (owns : ∀ k k' args, q = .submit k' args → own k s.submits = (k' == k)) :
  Level c Comes own gone (c.apply s q) (c.apply s' q)
  where
    ready := level.ready.ask sharp q
    ready' := level.ready'.ask sharp q
    behind := by
      rw [(apply_frame c s _).1, (apply_frame c s' _).1]
      apply level.behind
    submits := by rw [submits_apply, submits_apply, level.submits]
    tracks := by
      intro k
      obtain ⟨v, v', mirrors, mirrors', like⟩ := level.tracks k
      have owns' := owns k
      rw [← level.submits] at owns'
      refine ⟨_, _, mirrors_apply level.ready mirrors (owns k),
        mirrors_apply level.ready' mirrors' owns', ?_⟩
      rw [same, Track.elapse_self] at like
      rw [(apply_frame c s _).1, (apply_frame c s' _).1, same, Track.elapse_self, level.submits]
      split
      · apply like.ask
      · apply like

/-- In the end the tracks are the same but for the waiters that were dropped. -/
theorem Level.drain (level : Level c Comes own gone s s') (sharp : c.clock.Sharp Comes)
    (alike : ∀ number number' args, c.result number args = c.result number' args) (k : σ) :
  ∃ v v', Mirrors { state := c.drain s, due := [] } k (own k) v
    ∧ Mirrors { state := c.drain s', due := [] } k (own k) v'
    ∧ Track.Like (Places (own k) gone) v v'
  := by
  obtain ⟨log, reached⟩ := level.ready.reached
  obtain ⟨log', reached'⟩ := level.ready'.reached
  obtain ⟨v, v', mirrors, mirrors', like⟩ := level.tracks k
  -- At this time both runs are at their ends.
  let time := max s.now (max (c.drain s).now (c.drain s').now)
  have last : (c.drain s).now ≤ time := by omega
  have last' : (c.drain s').now ≤ time := by omega
  refine ⟨_, _, mirrors_drain sharp alike reached mirrors last,
    mirrors_drain sharp alike reached' mirrors' last', ?_⟩
  have caughtUp : (v'.elapse c s'.now s.now).advance c time = v'.advance c time :=
    Track.advance_elapse (Nat.le_max_left _ _)
  rw [← caughtUp]
  apply like.advance

/-! ### Runs -/

/-- A request comes at the same time in another run, and is answered alike unless it is a drop. -/
structure Echoes (act act' : Act σ α ρ) : Prop where
  time : act'.before.state.now = act.before.state.now
  request : act'.request = act.request
  answer : (∀ w, act.request ≠ .drop w) → act'.answer = act.answer

/-- A run is not affected by some drops: without them it is the same for all waiters but those that
were dropped. -/
structure Unaffected (gone : Nat → Prop) (log log' : List (Act σ α ρ)) (last last' : State σ α ρ) :
    Prop where
  /-- The calls of each session are made at the same times with the same arguments. -/
  calls : ∀ k, callsOf k last'.calls = callsOf k last.calls
  acts : Thins (·.request.DropsAny gone) Echoes log log'
  /-- The other waiters end at the same times, and get the same. -/
  endings : ∀ w, ¬gone w → Entries.get? last'.endings w = Entries.get? last.endings w
  /-- Every call ends, and nothing stays under way. -/
  ended : ∀ made ∈ last.calls, last.Over made
  slots : last.slots = []

/-- Requests keep two runs level that come in both of them, and so do drops that come in one. -/
theorem thins_of_level (sharp : c.clock.Sharp Comes)
    (alike : ∀ number number' args, c.result number args = c.result number' args)
    {requests requests' : List (Timed σ α)}
    (thins : Thins (·.request.DropsAny gone) Eq requests requests')
    (level : Level c Comes own gone s s') (follow : Follow Comes own s requests) :
  Thins (·.request.DropsAny gone) Echoes (c.acts s requests) (c.acts s' requests')
    ∧ Level c Comes own gone (c.run s requests).1 (c.run s' requests').1
  := by
  induction thins generalizing s s' with
  | nil => exact ⟨.nil, level⟩
  | @gone r rest rest' goes thins ih =>
    have comes := follow.comes r List.mem_cons_self
    have later := follow.later r List.mem_cons_self
    have now := (level.ready.sleep sharp comes later).2
    have slept := level.ahead sharp alike comes later
    obtain ⟨w, dropped, request⟩ := goes
    have next := slept.drop sharp dropped
    rw [← request] at next
    obtain ⟨acts, last⟩ := ih next (follow.next now (submits_sleepUntil c r.time s))
    exact ⟨.gone ⟨w, dropped, request⟩ acts, last⟩
  | @kept r _ rest rest' same thins ih =>
    cases same
    have comes := follow.comes r List.mem_cons_self
    have later := follow.later r List.mem_cons_self
    have now := (level.ready.sleep sharp comes later).2
    have submits := submits_sleepUntil c r.time s
    obtain ⟨slept, together⟩ := (level.ahead sharp alike comes later).caughtUp sharp alike
    rw [now] at slept together
    replace together := together.trans now.symm
    have owns : ∀ k k' args, r.request = .submit k' args →
        own k (c.sleepUntil r.time s).submits = (k' == k) := by
      rw [submits]
      exact fun k => follow.owns k (s.submits, r) List.mem_cons_self
    obtain ⟨acts, last⟩ := ih (slept.ask sharp together owns) (follow.next now submits)
    exact ⟨.kept ⟨together, rfl, slept.answer together⟩ acts, last⟩

theorem get?_of_unsubmitted {log : List (Act σ α ρ)} {m : Moment σ α ρ} (reached : Reached c log m)
    {w : Nat} (more : ¬w < m.state.submits) :
  Entries.get? m.state.endings w = none
  := by
  rw [← Option.not_isSome_iff_eq_none]
  intro has
  apply more
  apply (parted_of_reached reached).ended w has

/-- A waiter whose submit was refused ends alike. -/
theorem get?_of_refused {log log' : List (Act σ α ρ)} {m m' : Moment σ α ρ}
    (reached : Reached c log m) (reached' : Reached c log' m')
    (acts : Thins (·.request.DropsAny gone) Echoes log log') {act : Act σ α ρ} (mem : act ∈ log)
    {cause : Mismatch} (request : act.request = .refused cause) :
  Entries.get? m'.state.endings act.before.state.submits
    = Entries.get? m.state.endings act.before.state.submits
  := by
  have stays : ¬act.request.DropsAny gone := by
    rintro ⟨w, -, drops⟩
    rw [request] at drops
    cases drops
  obtain ⟨act', mem', time, request', answer⟩ := acts.exists_of_mem mem stays
  rw [request] at request' answer
  have number : act'.before.state.submits = act.before.state.submits := by
    have same := answer nofun
    rw [Act.answer, Act.answer, request, request'] at same
    exact Answer.waiter.inj same
  have ending := refused_of_reached reached act mem cause request
  have ending' := refused_of_reached reached' act' mem' cause request'
  rw [number, time] at ending'
  rw [ending, ending']

/-- With a sharp clock some drops can be taken away. -/
theorem unaffected_of_sharp (sharp : c.clock.Sharp Comes)
    (alike : ∀ number number' args, c.result number args = c.result number' args)
    {requests requests' : List (Timed σ α)}
    (thins : Thins (·.request.DropsAny gone) Eq requests requests')
    (comes : ∀ r ∈ requests, Comes r.time)
    (sorted : requests.Pairwise fun r r' => r.time ≤ r'.time) :
  Unaffected gone (c.acts .start requests) (c.acts .start requests')
    (c.runOut requests).1 (c.runOut requests').1
  := by
  let own (k : σ) : Nat → Bool := submitted k requests
  have follow : Follow Comes own (.start : State σ α ρ) requests :=
    ⟨comes, fun _ _ => Nat.zero_le _, sorted, fun k => owns_submitted k requests⟩
  obtain ⟨acts, level⟩ := thins_of_level sharp alike thins (level_start sharp own gone) follow
  have reached := reached_runOut (c := c) requests
  have reached' := reached_runOut (c := c) requests'
  have nothing : Moment.scheduled { state := (c.runOut requests).1, due := [] } = [] :=
    scheduled_drain (reached_run requests .start)
  have submits : (c.runOut requests').1.submits = (c.runOut requests).1.submits := by
    rw [runOut, runOut, submits_drain, submits_drain, level.submits]
  exact {
    calls := by
      intro k
      obtain ⟨v, v', mirrors, mirrors', like⟩ := level.drain sharp alike k
      exact mirrors'.books.calls.symm.trans (like.calls.symm.trans mirrors.books.calls)
    acts := acts
    endings := by
      intro w stays
      by_cases less : w < (c.runOut requests).1.submits
      · obtain ⟨act, mem, rfl, ⟨k, args, request⟩ | ⟨cause, request⟩⟩ :=
          exists_act_of_waiter reached less
        · obtain ⟨v, v', mirrors, mirrors', like⟩ := level.drain sharp alike k
          apply get?_of_like mirrors mirrors' like submits _ stays less
          have owned := owns_acts sharp comes sorted (owns_submitted k requests) act mem k args
          apply (owned request).trans BEq.rfl
        · apply get?_of_refused reached reached' acts mem request
      · rw [get?_of_unsubmitted reached less]
        apply get?_of_unsubmitted reached'
        rw [submits]
        apply less
    ended := fun made mem => over_of_nothing reached nothing mem
    slots := by
      apply slots_of_reached reached
      intro k
      rw [Moment.timers, Moment.executions, nothing]
      exact ⟨rfl, rfl⟩ }

/-- Whoever drops a waiter affects nobody else: where the clock tells the times of a run apart,
some drops can be taken away. -/
theorem unaffected_runOut {Holds : Nat → Prop} (counts : c.clock.Counts Comes Holds)
    {requests requests' : List (Timed σ α)} (counted : ∀ r ∈ requests, r.Counted c Comes Holds)
    (alike : ∀ number number' args, c.result number args = c.result number' args)
    (sorted : requests.Pairwise fun r r' => r.time ≤ r'.time)
    (thins : Thins (·.request.DropsAny gone) Eq requests requests') :
  Unaffected gone (c.acts .start requests) (c.acts .start requests')
    (c.runOut requests).1 (c.runOut requests').1
  := by
  have fewer := thins.sublist
  obtain ⟨acts, run⟩ := runOut_sharpened counts counted sorted
  obtain ⟨acts', run'⟩ := runOut_sharpened counts
    (fun r mem => counted r (fewer.subset mem)) (sorted.sublist fewer)
  rw [acts, run, acts', run']
  exact unaffected_of_sharp (c := c.sharpened) counts.sharp alike thins
    (fun r mem => (counted r mem).comes) sorted

/-- A coalescer like the others on the binary64 clock, whose calls fail with some arguments. -/
def failingCoalescer (wait duration : Nat) : Coalescer String String :=
  { secondsCoalescer wait duration with
    result := fun _ args => if args = "fails" then .failed args else .value args }

/-- Two sessions whose first waiters are all dropped, while their windows are open or their calls
run; both calls fail.  Then the call of the first session is shared, and the second one gives up a
window. -/
def droppedRequests : List (Timed Nat String) :=
  atSeconds [(0, .submit 1 "first"), (0, .submit 2 "fails"), (1, .drop 0), (2, .probe 1),
    (3, .submit 1 "fails"), (6, .drop 1), (7, .probe 2), (7, .drop 2), (10, .submit 1 "shared"),
    (11, .submit 2 "again"), (13, .cancel 2), (13, .drop 4)]

/-- The same requests without the first three drops. -/
def undroppedRequests : List (Timed Nat String) :=
  atSeconds [(0, .submit 1 "first"), (0, .submit 2 "fails"), (2, .probe 1), (3, .submit 1 "fails"),
    (7, .probe 2), (10, .submit 1 "shared"), (11, .submit 2 "again"), (13, .cancel 2),
    (13, .drop 4)]

theorem unaffected_droppedRequests :
  Clock.binary64.Counts (Grid 1074) (Grid 1074)
    ∧ (∀ r ∈ droppedRequests, r.Counted (failingCoalescer 5 4) (Grid 1074) (Grid 1074))
    ∧ (droppedRequests.Pairwise fun r r' => r.time ≤ r'.time)
    ∧ Thins (·.request.DropsAny (· < 3)) Eq droppedRequests undroppedRequests
    ∧ Unaffected (· < 3) ((failingCoalescer 5 4).acts .start droppedRequests)
      ((failingCoalescer 5 4).acts .start undroppedRequests)
      ((failingCoalescer 5 4).runOut droppedRequests).1
      ((failingCoalescer 5 4).runOut undroppedRequests).1
    ∧ callsOf 1 ((failingCoalescer 5 4).runOut droppedRequests).1.calls
      = [(8 * unitsPerOne, "fails")]
    ∧ callsOf 2 ((failingCoalescer 5 4).runOut droppedRequests).1.calls
      = [(5 * unitsPerOne, "fails")]
    ∧ ((failingCoalescer 5 4).runOut droppedRequests).1.endings.map (fun e => (e.1, e.2.time))
      = [(0, unitsPerOne), (1, 6 * unitsPerOne), (2, 7 * unitsPerOne), (3, 12 * unitsPerOne),
        (4, 13 * unitsPerOne)]
    ∧ ((failingCoalescer 5 4).runOut undroppedRequests).1.endings.map (fun e => (e.1, e.2.time))
      = [(1, 9 * unitsPerOne), (0, 12 * unitsPerOne), (2, 12 * unitsPerOne),
        (3, 12 * unitsPerOne), (4, 13 * unitsPerOne)]
  := by
  have counts : Clock.binary64.Counts (Grid 1074) (Grid 1074) :=
    Clock.counts_grid (by decide) (by decide)
  have alike : ∀ r ∈ droppedRequests,
      r.Counted (secondsCoalescer 5 4) (Grid 1074) (Grid 1074) := by
    apply counted_atSeconds
    decide
  have counted : ∀ r ∈ droppedRequests,
      r.Counted (failingCoalescer 5 4) (Grid 1074) (Grid 1074) :=
    fun r mem => ⟨(alike r mem).comes, (alike r mem).closes, (alike r mem).ends⟩
  have sorted : droppedRequests.Pairwise fun r r' => r.time ≤ r'.time := by decide +kernel
  have thins : Thins (·.request.DropsAny (· < 3)) Eq droppedRequests undroppedRequests := by
    refine .kept rfl (.kept rfl (.gone ⟨0, by decide, rfl⟩ ?_))
    refine .kept rfl (.kept rfl (.gone ⟨1, by decide, rfl⟩ ?_))
    refine .kept rfl (.gone ⟨2, by decide, rfl⟩ ?_)
    exact .kept rfl (.kept rfl (.kept rfl (.kept rfl .nil)))
  refine ⟨counts, counted, sorted, thins, ?_, ?_, ?_, ?_, ?_⟩
  · exact unaffected_runOut counts counted (fun _ _ _ => rfl) sorted thins
  · decide +kernel
  · decide +kernel
  · decide +kernel
  · decide +kernel

/-- A coalescer on the binary64 clock whose results tell the numbers of calls. -/
def tellingCoalescer (wait duration : Nat) : Coalescer String (Nat × String) where
  clock := .binary64
  wait := wait * unitsPerOne
  duration := fun _ => duration * unitsPerOne
  result := fun number args => .value (number, args)

/-- The windows of two sessions close at one time, and a waiter of the first one is dropped
before. -/
def crowdedRequests : List (Timed Nat String) :=
  atSeconds [(0, .submit 1 "first"), (0, .submit 1 "second"), (0, .submit 2 "other"), (1, .drop 0)]

/-- A waiter is dropped half a nanosecond before its window closes. -/
def lateRequests : List (Timed Nat String) :=
  [{ time := 0, request := .submit 1 "first" }, { time := 0, request := .submit 1 "second" },
    { time := roundUnits (9999999995 * unitsPerOne) (tenTo 10), request := .drop 0 }]

/-- A drop changes the order of calls that are due at one time, and with the order their numbers;
and the binary64 clock makes a call early that is due right after a drop. -/
theorem reordered_and_hastened :
  Thins (·.request.DropsAny (· = 0)) Eq crowdedRequests crowdedRequests.dropLast
    ∧ ((tellingCoalescer 5 1).runOut crowdedRequests).1.calls.map (·.args) = ["other", "second"]
    ∧ ((tellingCoalescer 5 1).runOut crowdedRequests.dropLast).1.calls.map (·.args)
      = ["second", "other"]
    ∧ (Entries.get? ((tellingCoalescer 5 1).runOut crowdedRequests).1.endings 1).map
        (fun e => Result.value? e.result) = some (some (2, "second"))
    ∧ (Entries.get? ((tellingCoalescer 5 1).runOut crowdedRequests.dropLast).1.endings 1).map
        (fun e => Result.value? e.result) = some (some (1, "second"))
    ∧ Thins (·.request.DropsAny (· = 0)) Eq lateRequests lateRequests.dropLast
    ∧ callsOf 1 ((secondsCoalescer 1 1).runOut lateRequests).1.calls
      ≠ callsOf 1 ((secondsCoalescer 1 1).runOut lateRequests.dropLast).1.calls
  := by
  refine ⟨?_, ?_, ?_, ?_, ?_, ?_, ?_⟩
  · exact .kept rfl (.kept rfl (.kept rfl (.gone ⟨0, rfl, rfl⟩ .nil)))
  · decide +kernel
  · decide +kernel
  · decide +kernel
  · decide +kernel
  · exact .kept rfl (.kept rfl (.gone ⟨0, rfl, rfl⟩ .nil))
  · decide +kernel

end ReflexPolicy.Coalescer

import ReflexPolicy.Proofs.Coalescer.Openings
import ReflexPolicy.Proofs.Coalescer.Spared

/-!
# Orderly runs

A run is orderly when its requests come one after another, at times at which sleeps end with a sharp
clock.  Then its log has the requests with their numbers, also when some are taken away, and its
tracks are what the requests of the sessions make of them.

The waiters of a window that is open when a request comes are those of the submits since it was
opened, all of them of its session: `Orderly.goers`.
-/

namespace ReflexPolicy.Coalescer

variable {σ α ρ : Type} {c : Coalescer α ρ} {goes : Nat → Bool} {Comes : Nat → Prop}
  {requests earlier later : List (Timed σ α)} {r : Timed σ α}

/-! ### Numbers of a log -/

/-- The request is about one of some waiters. -/
def Act.IsAbout (goes : Nat → Bool) (act : Act σ α ρ) : Prop :=
  act.request.isAbout goes act.before.state.submits = true

/-- The requests of two runs correspond if their numbers do. -/
theorem thins_of_spared {Stays : Act σ α ρ → Act σ α ρ → Prop} {log log' : List (Act σ α ρ)}
    (same : log'.map Act.numbered = spared goes (log.map Act.numbered))
    (pairs : ∀ before act after before' act' after', log = before ++ act :: after →
      log' = before' ++ act' :: after' →
      before'.map Act.numbered = spared goes (before.map Act.numbered) →
      act'.numbered = shifted goes act.numbered → Stays act act') :
  Thins (Act.IsAbout goes) Stays log log'
  := by
  induction log generalizing log' with
  | nil =>
    rw [List.map_eq_nil_iff.mp same]
    exact .nil
  | cons act rest ih =>
    rw [List.map_cons] at same
    cases about : act.request.isAbout goes act.before.state.submits with
    | true =>
      rw [spared_cons_gone about] at same
      refine .gone about (ih same ?_)
      intro before b after before' b' after' split split' numbers shifts
      refine pairs (act :: before) b after before' b' after' ?_ split' ?_ shifts
      · rw [split]
        rfl
      · rw [numbers, List.map_cons, spared_cons_gone about]
    | false =>
      rw [spared_cons about] at same
      obtain ⟨act', rest', rfl, number, same⟩ := List.map_eq_cons_iff.mp same
      refine .kept (pairs [] act rest [] act' rest' rfl rfl rfl number) (ih same ?_)
      intro before b after before' b' after' split split' numbers shifts
      refine pairs (act :: before) b after (act' :: before') b' after' ?_ ?_ ?_ shifts
      · rw [split]
        rfl
      · rw [split']
        rfl
      · rw [List.map_cons, numbers, number, List.map_cons, spared_cons about]

/-- The requests of a log fall into those before an entry, its own and the others. -/
theorem split_of_log {log before after : List (Act σ α ρ)} {act : Act σ α ρ} {number : Nat}
    (numbers : log.map Act.numbered = numbered number requests)
    (split : log = before ++ act :: after) :
  ∃ first rest, requests = first ++ act.numbered.2 :: rest
    ∧ before.map Act.numbered = numbered number first
    ∧ (act :: after).map Act.numbered
      = numbered (following number first) (act.numbered.2 :: rest)
  := by
  rw [split, List.map_append] at numbers
  obtain ⟨first, second, parts, numbers_first, numbers_second⟩ := split_of_numbered numbers.symm
  cases second with
  | nil => cases numbers_second
  | cons r rest =>
    obtain rfl : act.numbered.2 = r :=
      congrArg (fun e : Nat × Timed σ α => e.2) (List.cons.inj numbers_second).1
    exact ⟨first, rest, parts, numbers_first, numbers_second⟩

/-- The requests of a run come one after another, at times at which sleeps with a sharp clock end,
and what a call gives depends on its arguments only. -/
structure Orderly (c : Coalescer α ρ) (Comes : Nat → Prop) (requests : List (Timed σ α)) :
    Prop where
  sharp : c.clock.Sharp Comes
  alike : ∀ number number' args, c.result number args = c.result number' args
  comes : ∀ r ∈ requests, Comes r.time
  sorted : requests.Pairwise fun r r' => r.time ≤ r'.time

theorem Orderly.of_sublist (orderly : Orderly c Comes requests) {fewer : List (Timed σ α)}
    (sublist : fewer.Sublist requests) :
  Orderly c Comes fewer
  where
    sharp := orderly.sharp
    alike := orderly.alike
    comes := fun r mem => orderly.comes r (sublist.subset mem)
    sorted := orderly.sorted.sublist sublist

theorem Orderly.shortened (orderly : Orderly c Comes requests) (goes : Nat → Bool) :
  Orderly c Comes (without goes requests)
  where
    sharp := orderly.sharp
    alike := orderly.alike
    comes := by
      intro r mem
      obtain ⟨q, asked, -⟩ := mem_without mem
      apply orderly.comes _ asked
    sorted := sorted_without orderly.sorted

theorem Orderly.around (orderly : Orderly c Comes (earlier ++ r :: later)) :
  Orderly c Comes (earlier ++ later)
  := orderly.of_sublist (List.Sublist.append_left (List.sublist_cons_self _ _) _)

variable [BEq σ] {k : σ} {own : Nat → Bool}

/-- A request as it comes after others. -/
def comesAfter (c : Coalescer α ρ) (earlier : List (Timed σ α)) (r : Timed σ α) : Act σ α ρ :=
  { before := { state := c.sleepUntil r.time (c.run .start earlier).1, due := [] }
    request := r.request }

theorem acts_append (s : State σ α ρ) (first second : List (Timed σ α)) :
  c.acts s (first ++ second) = c.acts s first ++ c.acts (c.run s first).1 second
  := by
  induction first generalizing s with
  | nil => rfl
  | cons r rest ih =>
    rw [List.cons_append, acts, ih]
    rfl

theorem acts_split (c : Coalescer α ρ) (earlier later : List (Timed σ α)) (r : Timed σ α) :
  c.acts .start (earlier ++ r :: later) = c.acts .start earlier ++ c.comesAfter earlier r
    :: c.acts (c.apply (c.comesAfter earlier r).before.state r.request) later
  := acts_append .start earlier (r :: later)

theorem answers_eq (c : Coalescer α ρ) (s : State σ α ρ) (requests : List (Timed σ α)) :
  (c.run s requests).2 = (c.acts s requests).map Act.answer
  := by
  induction requests generalizing s with
  | nil => rfl
  | cons r rest ih =>
    rw [acts, List.map_cons, ← ih]
    rfl

theorem submits_run (c : Coalescer α ρ) (s : State σ α ρ) (requests : List (Timed σ α)) :
  (c.run s requests).1.submits = following s.submits requests
  := by
  induction requests generalizing s with
  | nil => rfl
  | cons r rest ih =>
    rw [following_cons, ← submits_sleepUntil c r.time s, ← submits_apply, ← ih]
    rfl

theorem submits_runOut (c : Coalescer α ρ) (requests : List (Timed σ α)) :
  (c.runOut requests).1.submits = following 0 requests
  := by
  rw [runOut, submits_drain, submits_run]
  rfl

/-- A request is answered by what it finds. -/
theorem answer_runOut (c : Coalescer α ρ) (earlier later : List (Timed σ α)) (r : Timed σ α) :
  (c.runOut (earlier ++ r :: later)).2[earlier.length]? = some (c.comesAfter earlier r).answer
  := by
  have length (s : State σ α ρ) (requests : List (Timed σ α)) :
      (c.acts s requests).length = requests.length := by
    induction requests generalizing s with
    | nil => rfl
    | cons r rest ih => exact congrArg (· + 1) (ih _)
  change (c.run .start (earlier ++ r :: later)).2[earlier.length]? = _
  rw [answers_eq, acts_split, List.getElem?_map, ← length .start earlier,
    List.getElem?_append_right (Nat.le_refl _), Nat.sub_self]
  rfl

theorem reached_comesAfter (c : Coalescer α ρ) (earlier : List (Timed σ α)) (r : Timed σ α) :
  Reached c (c.acts .start earlier) (c.comesAfter earlier r).before
  := reached_sleepUntil r.time (reached_run earlier .start)

theorem Orderly.numbers (orderly : Orderly c Comes requests) :
  (c.acts .start requests).map Act.numbered = numbered 0 requests
  := numbered_run orderly.sharp orderly.comes orderly.sorted

/-- The requests before and after a request have their numbers. -/
theorem Orderly.parts (orderly : Orderly c Comes (earlier ++ r :: later)) :
  (c.acts .start earlier).map Act.numbered = numbered 0 earlier
    ∧ (c.comesAfter earlier r).numbered = (following 0 earlier, r)
    ∧ (c.acts (c.apply (c.comesAfter earlier r).before.state r.request) later).map Act.numbered
      = numbered (following 0 earlier + r.request.submits.toNat) later
  := by
  have first := (orderly.of_sublist (List.sublist_append_left earlier _)).numbers
  have all := orderly.numbers
  rw [acts_split, List.map_append, first, numbered_append, List.map_cons,
    numbered] at all
  obtain ⟨mine, second⟩ := List.cons.inj (List.append_cancel_left all)
  exact ⟨first, mine, second⟩

/-- The requests before a request come no later. -/
theorem Orderly.now_le (orderly : Orderly c Comes (earlier ++ r :: later)) {act : Act σ α ρ}
    (mem : act ∈ c.acts .start earlier) :
  act.before.state.now ≤ r.time
  := by
  have asked := List.mem_map_of_mem (f := Act.numbered) mem
  rw [orderly.parts.1] at asked
  have came := List.mem_map_of_mem (f := (·.2)) asked
  rw [map_numbered] at came
  exact (List.pairwise_append.mp orderly.sorted).2.2 _ came _ List.mem_cons_self

/-! ### The waiters of a window -/

/-- A waiter of the open window of a session, be it dropped or not. -/
def State.inWindow (s : State σ α ρ) (k : σ) (w : Nat) : Bool :=
  ((s.slot k).window.getD []).contains w

theorem inWindow_of_closed {s : State σ α ρ} (closed : s.isPending k = false) :
  s.inWindow k = fun _ => false
  := by
  rw [State.isPending, Option.isSome_eq_false_iff, Option.isNone_iff_eq_none] at closed
  funext w
  rw [State.inWindow, closed]
  rfl

/-- The submits of a session since a window was opened are submits of the window. -/
theorem gone_of_opened {first : Act σ α ρ} {between : List (Act σ α ρ)} {waiters : List Nat}
    (opened : Opened k first between waiters)
    (asked : ∀ b ∈ first :: between, b.numbered ∈ numbered 0 requests) {e : Nat × Timed σ α}
    (mem : e ∈ (first :: between).map Act.numbered) (submits : e.2.request.submits = true)
    (mine : submitted k requests e.1 = true) :
  e.1 ∈ waiters
  := by
  obtain ⟨b, here, rfl⟩ := List.mem_map.mp mem
  have isSubmit := isSubmitOf_of_submitted (asked b here) submits mine
  rw [opened.waiters]
  exact List.mem_map_of_mem (List.mem_filter.mpr ⟨here, isSubmit⟩)

/-- The submits of a session before a window was opened are none of the window. -/
theorem stays_of_opened {first : Act σ α ρ} {between : List (Act σ α ρ)} {waiters : List Nat}
    (opened : Opened k first between waiters) {old new : List (Timed σ α)}
    (numbers : (first :: between).map Act.numbered = numbered (following 0 old) new)
    {e : Nat × Timed σ α} (mem : e ∈ numbered 0 old) (submits : e.2.request.submits = true) :
  e.1 ∉ waiters
  := by
  intro goes
  rw [opened.waiters, submitters, List.mem_map] at goes
  obtain ⟨b, here, same⟩ := goes
  have later := List.mem_map_of_mem (f := Act.numbered) (List.mem_filter.mp here).1
  rw [numbers] at later
  apply Nat.lt_irrefl e.1
  apply Nat.lt_of_lt_of_le (lt_of_mem_numbered mem submits)
  rw [← same]
  apply le_of_mem_numbered later

theorem idle_of_mirrors {m : Moment σ α ρ} {v : Track α ρ} (mirrors : Mirrors m k own v)
    (closed : m.state.isPending k = false) (free : m.state.isRunning k = false) :
  v.stage = .idle
  := by
  rw [mirrors.isPending] at closed
  rw [mirrors.isRunning] at free
  cases stage : v.stage with
  | idle => rfl
  | waiting =>
    rw [stage] at closed
    cases closed
  | calling =>
    rw [stage] at free
    cases free

/-- The waiters of a session that are not in its open window have ended. -/
theorem ended_of_opened {m : Moment σ α ρ} {v : Track α ρ} (mirrors : Mirrors m k own v)
    (waits : v.stage.isWaiting = true) {w : Nat} (mine : own w = true)
    (stays : m.state.inWindow k w = false) (less : w < m.state.submits) :
  ∃ e, v.endings[place own w]? = some (some e)
  := by
  have stages := mirrors.stage
  rw [mirrors.books.endings w mine less]
  cases ended : Entries.get? m.state.endings w with
  | some e => exact ⟨e, rfl⟩
  | none =>
    have free : Entries.has m.state.endings w = false := by rw [Entries.has, ended]; rfl
    have mem := mirrors.books.waits w mine less free
    obtain ⟨stage, calls, endings⟩ := v
    cases stages with
    | waiting stands =>
      rw [waiters_of_stands stands] at mem
      rw [State.inWindow, stands.window, ← Bool.not_eq_true, List.contains_iff_mem] at stays
      exact absurd mem stays
    | _ => cases waits

/-- Some waiters of a session, all of them submitted before. -/
structure Goers (k : σ) (goes : Nat → Bool) (earlier later : List (Timed σ α)) : Prop where
  old : ∀ w, goes w = true → w < following 0 earlier
  own : ∀ w, goes w = true → submitted k (earlier ++ later) w = true

/-- The waiters that come later stay. -/
theorem Goers.comesLater (goers : Goers k goes earlier later) {requests : List (Timed σ α)}
    {e : Nat × Timed σ α} (mem : e ∈ numbered (following 0 earlier) requests) :
  goes e.1 = false
  := by
  by_contra gone
  rw [Bool.not_eq_false] at gone
  apply Nat.lt_irrefl e.1
  apply Nat.lt_of_lt_of_le (goers.old _ gone) (le_of_mem_numbered mem)

/-- The waiters of sessions among all requests but the cancel. -/
theorem owns_around (k' : σ) (earlier later : List (Timed σ α)) (time : Nat) :
  Owns k' (submitted k' (earlier ++ later))
    (earlier ++ { time := time, request := .cancel k } :: later)
  := by
  have owns := owns_submitted k' (earlier ++ later)
  rw [Owns, numbered_append, List.forall_mem_append] at owns ⊢
  refine ⟨owns.1, ?_⟩
  rw [numbered, List.forall_mem_cons]
  refine ⟨?_, owns.2⟩
  intro k'' args submits
  cases submits

variable [EquivBEq σ]

/-- The waiters of an open window are those of the submits since it was opened. -/
theorem opened_comesAfter (pending : (c.comesAfter earlier r).before.state.isPending k = true) :
  ∃ before first between waiters, c.acts .start earlier = before ++ first :: between
    ∧ Opened k first between waiters
    ∧ ∀ w, (c.comesAfter earlier r).before.state.inWindow k w = true ↔ w ∈ waiters
  := by
  obtain ⟨p, stands⟩ := phases_of_reached (reached_comesAfter c earlier r) k
  rw [stands.isPending] at pending
  cases p with
  | waiting closes waiters args =>
    obtain ⟨before, first, between, split, opened⟩ :=
      opened_of_reached (reached_comesAfter c earlier r) stands
    refine ⟨before, first, between, waiters, split, opened, ?_⟩
    intro w
    rw [State.inWindow, stands.window, List.contains_iff_mem]
    exact Iff.rfl
  | _ => cases pending

theorem Orderly.goers (orderly : Orderly c Comes (earlier ++ r :: later)) (k : σ) :
  Goers k ((c.comesAfter earlier r).before.state.inWindow k) earlier later
  := by
  cases pending : (c.comesAfter earlier r).before.state.isPending k with
  | false =>
    rw [inWindow_of_closed pending]
    exact ⟨nofun, nofun⟩
  | true =>
    obtain ⟨before, first, between, waiters, split, opened, inWindow⟩ := opened_comesAfter pending
    have submit {w : Nat} (goes : (c.comesAfter earlier r).before.state.inWindow k w = true) :
        ∃ e ∈ numbered 0 earlier, e.2.request.isSubmitOf k = true ∧ e.1 = w := by
      rw [inWindow, opened.waiters, submitters, List.mem_map] at goes
      obtain ⟨b, mem, same⟩ := goes
      obtain ⟨mem, isSubmit⟩ := List.mem_filter.mp mem
      refine ⟨b.numbered, ?_, isSubmit, same⟩
      rw [← orderly.parts.1]
      apply List.mem_map_of_mem
      rw [split]
      apply List.mem_append_right _ mem
    constructor
    · intro w goes
      obtain ⟨e, mem, isSubmit, rfl⟩ := submit goes
      apply lt_of_mem_numbered mem (Request.submits_of_isSubmitOf isSubmit)
    · intro w goes
      obtain ⟨e, mem, isSubmit, rfl⟩ := submit goes
      rw [submitted, List.any_eq_true, numbered_append]
      refine ⟨e, List.mem_append_left _ mem, ?_⟩
      rw [isSubmit, Bool.and_true]
      apply beq_self_eq_true

/-- The waiters of other sessions stay. -/
theorem Goers.elsewhere (goers : Goers k goes earlier later) {k' : σ} (other : (k' == k) = false)
    {w : Nat} (mine : submitted k' (earlier ++ later) w = true) :
  goes w = false
  := by
  by_contra gone
  rw [Bool.not_eq_false] at gone
  have theirs := goers.own w gone
  rw [submitted, List.any_eq_true] at mine theirs
  obtain ⟨e, mem, found⟩ := mine
  obtain ⟨e', mem', found'⟩ := theirs
  rw [Bool.and_eq_true, beq_iff_eq] at found found'
  have same := eq_of_numbered mem mem' (Request.submits_of_isSubmitOf found.2)
    (Request.submits_of_isSubmitOf found'.2) (found.1.trans found'.1.symm)
  obtain ⟨-, first⟩ := found
  obtain ⟨-, second⟩ := found'
  rw [← same] at second
  cases request : e.2.request with
  | submit k'' args =>
    rw [request] at first second
    have same_session : (k' == k) = true := BEq.trans (BEq.symm first) second
    rw [same_session] at other
    cases other
  | _ =>
    rw [request] at first
    cases first

/-! ### Tracks of a run -/

theorem Orderly.apart (orderly : Orderly c Comes requests) (owns : Owns k own requests)
    (clear : ∀ act ∈ c.acts .start requests, act.Clear c k) :
  Track.start.Apart c (ownOf k own (numbered 0 requests))
  := by
  rw [← orderly.numbers, ← requestsOf_eq]
  apply apart_of_clear orderly.sharp orderly.alike (reached_runOut requests)
    (owns_acts orderly.sharp orderly.comes orderly.sorted owns)
  exact fun act mem _ => clear act mem

/-- When a request of a session comes, the track of the session is what its requests have made. -/
theorem Orderly.mirrors (orderly : Orderly c Comes requests) (owns : Owns k own requests)
    (apart : Track.start.Apart c (ownOf k own (numbered 0 requests)))
    {before after : List (Act σ α ρ)} {act : Act σ α ρ}
    (split : c.acts .start requests = before ++ act :: after) (mine : act.isOf k own = true) :
  Mirrors act.before k own ((Track.start.after c (ownOf k own (before.map Act.numbered))).advance c
    act.before.state.now)
  := by
  rw [← orderly.numbers, ← requestsOf_eq] at apart
  rw [← requestsOf_eq]
  exact mirrors_of_split orderly.sharp orderly.alike (reached_runOut requests)
    (owns_acts orderly.sharp orderly.comes orderly.sorted owns) apart split mine

/-- In the end all has happened that the requests of a session have made. -/
theorem Orderly.mirrors_runOut (orderly : Orderly c Comes requests) (owns : Owns k own requests)
    (apart : Track.start.Apart c (ownOf k own (numbered 0 requests))) {time : Nat}
    (late : (c.runOut requests).1.now ≤ time) :
  Mirrors { state := (c.runOut requests).1, due := [] } k own
    ((Track.start.after c (ownOf k own (numbered 0 requests))).advance c time)
  := by
  rw [← orderly.numbers, ← requestsOf_eq] at apart ⊢
  obtain ⟨v, mirrors, same⟩ := mirrors_of_reached orderly.sharp orderly.alike
    (reached_runOut requests)
    (owns_acts orderly.sharp orderly.comes orderly.sorted owns) apart
  rw [← same time late,
    mirrors.advance_of_nothing (scheduled_drain (reached_run requests .start)) time]
  exact mirrors

/-- A window stays open from the request that opened it on, as long as no request gives it up. -/
theorem Orderly.staysOpen (orderly : Orderly c Comes requests) (owns : Owns k own requests)
    (apart : Track.start.Apart c (ownOf k own (numbered 0 requests)))
    {before between after : List (Act σ α ρ)}
    (split : c.acts .start requests = before ++ (between ++ after))
    (waits : ∀ b ∈ between, b.before.state.isPending k = true ∧ ¬b.Leaves k) :
  Track.StaysOpen c (Track.start.after c (ownOf k own (before.map Act.numbered)))
    (ownOf k own (between.map Act.numbered))
  := by
  intro older r newer parts
  rw [← requestsOf_eq] at parts
  obtain ⟨first, act, second, rfl, mine, timed, same, -⟩ := split_of_requestsOf parts
  obtain ⟨pending, stays⟩ := waits act (by simp)
  have longer : c.acts .start requests = (before ++ first) ++ act :: (second ++ after) := by
    rw [split]
    simp
  have mirrors := orderly.mirrors owns apart longer mine
  rw [List.map_append, ownOf_append, Track.after_append, ← requestsOf_eq _ _ first, same]
    at mirrors
  rw [← timed]
  constructor
  · rw [mirrors.isPending] at pending
    exact pending
  · intro k' cancels
    have request := eq_cancel_of_renumbered own cancels
    apply stays
    refine ⟨k', request, ?_, pending⟩
    rw [Act.isOf, request] at mine
    exact mine

end ReflexPolicy.Coalescer

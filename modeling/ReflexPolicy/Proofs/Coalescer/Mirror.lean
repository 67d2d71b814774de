import ReflexPolicy.Proofs.Coalescer.Lots
import ReflexPolicy.Proofs.Coalescer.Track

/-!
# Tracks and coalescers

A track mirrors what a coalescer has under way for a session, the calls that it has made for the
session, and how the waiters of the session have ended, which it numbers among themselves.  A
request of the session does to the coalescer what it does to the track, and a request of another one
does nothing: `mirrors_ask` and `mirrors_of_elsewhere`.
-/

namespace ReflexPolicy.Coalescer

variable {σ α ρ : Type}

/-! ### The waiters of one session -/

/-- The number of a waiter among those of its own session. -/
def place (own : Nat → Bool) (w : Nat) : Nat := (List.range w).countP own

theorem place_succ (own : Nat → Bool) (w : Nat) :
  place own (w + 1) = place own w + (own w).toNat
  := by
  rw [place, place, List.range_succ, List.countP_append, List.countP_singleton]
  cases own w <;> rfl

theorem place_mono (own : Nat → Bool) {w w' : Nat} (le : w ≤ w') :
  place own w ≤ place own w'
  := by
  induction le with
  | refl => apply Nat.le_refl
  | step _ ih =>
    rw [Nat.succ_eq_add_one, place_succ]
    apply Nat.le_add_right_of_le ih

theorem place_lt {own : Nat → Bool} {w w' : Nat} (mine : own w = true) (less : w < w') :
  place own w < place own w'
  := by
  apply Nat.lt_of_lt_of_le _ (place_mono own less)
  rw [Nat.succ_eq_add_one, place_succ, mine]
  apply Nat.lt_succ_self

theorem place_inj {own : Nat → Bool} {w w' : Nat} (mine : own w = true) (mine' : own w' = true)
    (same : place own w = place own w') :
  w = w'
  := by
  obtain less | same' | less := Nat.lt_trichotomy w w'
  · apply absurd same (Nat.ne_of_lt (place_lt mine less))
  · apply same'
  · apply absurd same.symm (Nat.ne_of_lt (place_lt mine' less))

theorem place_all (w : Nat) :
  place (fun _ => true) w = w
  := by simp [place]

variable [BEq σ]

/-- The request is one of the session: a submit or a question of it, or about one of its own
waiters, when the next waiter has a number. -/
def Request.isOf (k : σ) (own : Nat → Bool) (number : Nat) : Request σ α → Bool
  | .submit k' _ => k' == k
  | .refused _ => own number
  | .cancel k' => k' == k
  | .probe k' => k' == k
  | .drop w => own w

/-- The request when only the waiters of the session are numbered. -/
def Request.renumbered (own : Nat → Bool) : Request σ α → Request σ α
  | .drop w => .drop (place own w)
  | q => q

/-! ### Tracks -/

/-- A stage is what a session has under way. -/
inductive Stages (m : Moment σ α ρ) (k : σ) : Stage α → Prop where
  | idle (stands : Stands m k .idle) : Stages m k .idle
  | waiting {closes : Nat} {waiters : List Nat} {args : α}
    (stands : Stands m k (.waiting closes waiters args)) : Stages m k (.waiting closes args)
  | calling {call : Running α} {a : Appointment (Deed σ)} (calling : Calling m k call a) :
    Stages m k (.calling a.due call.args)

/-- The calls that have been made for a session. -/
def callsOf (k : σ) (calls : List (Made σ α)) : List (Nat × α) :=
  (calls.filter (·.session == k)).map fun made => (made.time, made.args)

/-- A track has the calls of a session and the endings of its waiters; those that have not ended
wait for what the session has under way. -/
structure Books (s : State σ α ρ) (k : σ) (own : Nat → Bool) (v : Track α ρ) : Prop where
  calls : v.calls = callsOf k s.calls
  length : v.endings.length = place own s.submits
  endings : ∀ w, own w = true → w < s.submits →
    v.endings[place own w]? = some (Entries.get? s.endings w)
  waits : ∀ w, own w = true → w < s.submits → Entries.has s.endings w = false →
    w ∈ (s.slot k).waiters

/-- A track mirrors what has become of a session. -/
structure Mirrors (m : Moment σ α ρ) (k : σ) (own : Nat → Bool) (v : Track α ρ) : Prop where
  stage : Stages m k v.stage
  books : Books m.state k own v

variable {m m' : Moment σ α ρ} {s s' : State σ α ρ} {k : σ} {own : Nat → Bool} {v : Track α ρ}

theorem Stages.still {stage : Stage α} (stages : Stages m k stage) (still : Still m m' k) :
  Stages m' k stage
  := by
  cases stages with
  | idle stands => exact .idle (still.stands stands)
  | waiting stands => exact .waiting (still.stands stands)
  | calling calling => exact .calling (still.calling calling)

theorem Stages.eq_waiting {stage : Stage α} (stages : Stages m k stage) {closes : Nat}
    {waiters : List Nat} {args : α} (stands : Stands m k (.waiting closes waiters args)) :
  stage = .waiting closes args
  := by
  cases stages with
  | idle stands' => cases stands.unique stands'
  | waiting stands' =>
    cases stands.unique stands'
    rfl
  | calling calling => cases stands.unique calling.stands

theorem Stages.eq_calling {stage : Stage α} (stages : Stages m k stage) {call : Running α}
    {a : Appointment (Deed σ)} (calling : Calling m k call a) :
  stage = .calling a.due call.args
  := by
  cases stages with
  | idle stands => cases calling.stands.unique stands
  | waiting stands => cases calling.stands.unique stands
  | calling calling' =>
    have calls := calling'.slot
    have executions := calling'.executions
    rw [calling.slot] at calls
    rw [calling.executions] at executions
    cases calls
    cases executions
    rfl

theorem Stages.timer {closes : Nat} {args : α} (stages : Stages m k (.waiting closes args)) :
  ∃ a ∈ m.timers k, a.due = closes
  := by
  cases stages with
  | waiting stands =>
    obtain ⟨a, due, timers, -, -⟩ := stands.of_waiting
    rw [timers]
    exact ⟨a, List.mem_singleton_self a, due⟩

theorem Stages.execution {ends : Nat} {args : α} (stages : Stages m k (.calling ends args)) :
  ∃ a ∈ m.executions k, a.due = ends
  := by
  cases stages with
  | @calling _ a calling =>
    rw [calling.executions]
    exact ⟨a, List.mem_singleton_self a, rfl⟩

theorem callsOf_concat (k : σ) (calls : List (Made σ α)) (made : Made σ α) :
  callsOf k (calls ++ [made]) =
    if made.session == k then callsOf k calls ++ [(made.time, made.args)] else callsOf k calls
  := by
  rw [callsOf, List.filter_append, List.map_append]
  by_cases same : (made.session == k) = true
  · simp [callsOf, same]
  · simp [callsOf, same]

/-- A waiter of the session has ended unless it waits for what the session has under way. -/
theorem Books.ended (books : Books s k own v) {w : Nat} (mine : own w = true)
    (submitted : w < s.submits) (gone : w ∉ (s.slot k).waiters) :
  ∃ e, Entries.get? s.endings w = some e
  := by
  apply Option.isSome_iff_exists.mp
  by_contra free
  rw [Bool.not_eq_true] at free
  apply gone (books.waits w mine submitted free)

/-- A waiter of the session does not end with other waiters. -/
theorem Books.get?_settle_of_apart (books : Books s k own v) {waiters : List Nat} {r : Result ρ}
    {w : Nat} (mine : own w = true) (submitted : w < s.submits)
    (apart : w ∈ (s.slot k).waiters → w ∉ waiters) :
  Entries.get? (s.settle waiters r).endings w = Entries.get? s.endings w
  := by
  rw [get?_settle]
  by_cases waits : w ∈ (s.slot k).waiters
  · rw [if_neg (apart waits), Option.or_none]
  · obtain ⟨e, ended⟩ := books.ended mine submitted waits
    rw [ended, Option.some_or]

/-- No waiter of the session comes or ends. -/
theorem Books.kept (books : Books s k own v) {v' : Track α ρ} (track : v'.endings = v.endings)
    (calls : v'.calls = callsOf k s'.calls)
    (submits : s'.submits = s.submits ∨ s'.submits = s.submits + 1 ∧ own s.submits = false)
    (endings : ∀ w, own w = true → w < s.submits →
      Entries.get? s'.endings w = Entries.get? s.endings w)
    (waiters : ∀ w ∈ (s.slot k).waiters, w ∈ (s'.slot k).waiters) :
  Books s' k own v'
  := by
  have old {w : Nat} (mine : own w = true) (submitted : w < s'.submits) : w < s.submits := by
    obtain same | ⟨more, other⟩ := submits
    · rw [← same]
      apply submitted
    · rw [more] at submitted
      apply Nat.lt_of_le_of_ne (Nat.le_of_lt_succ submitted)
      rintro rfl
      rw [mine] at other
      cases other
  exact {
    calls := calls
    length := by
      rw [track, books.length]
      obtain same | ⟨more, other⟩ := submits
      · rw [same]
      · rw [more, place_succ, other]
        rfl
    endings := by
      intro w mine submitted
      rw [track, endings w mine (old mine submitted)]
      apply books.endings w mine (old mine submitted)
    waits := by
      intro w mine submitted
      rw [Entries.has, endings w mine (old mine submitted)]
      intro free
      apply waiters
      apply books.waits w mine (old mine submitted) free }

/-- All waiters of the session end. -/
theorem Books.settle (books : Books s k own v) {v' : Track α ρ} (r : Result ρ)
    (track : v'.endings = (v.settle s.now r).endings) (calls : v'.calls = callsOf k s'.calls)
    (submits : s'.submits = s.submits)
    (endings : s'.endings = (s.settle (s.slot k).waiters r).endings) :
  Books s' k own v'
  where
    calls := calls
    length := by
      rw [track, submits, Track.settle, List.length_map]
      apply books.length
    endings := by
      intro w mine submitted
      rw [submits] at submitted
      rw [track, endings, get?_settle, Track.settle, List.getElem?_map,
        books.endings w mine submitted, Option.map_some]
      by_cases waits : w ∈ (s.slot k).waiters
      · rw [if_pos waits]
      · obtain ⟨e, ended⟩ := books.ended mine submitted waits
        rw [if_neg waits, ended, Option.some_or, Option.some_or]
    waits := by
      intro w mine submitted free
      rw [submits] at submitted
      rw [endings, ← Bool.not_eq_true, has_settle, not_or, Bool.not_eq_true] at free
      apply absurd (books.waits w mine submitted free.1) free.2

/-- The session has one more waiter. -/
theorem Books.submit (books : Books s k own v) {v' : Track α ρ} {e : Option (Ending ρ)}
    (track : v'.endings = v.endings ++ [e]) (calls : v'.calls = callsOf k s'.calls)
    (submits : s'.submits = s.submits + 1) (mine : own s.submits = true)
    (endings : ∀ w, w < s.submits → Entries.get? s'.endings w = Entries.get? s.endings w)
    (new : Entries.get? s'.endings s.submits = e)
    (waiters : ∀ w ∈ (s.slot k).waiters, w ∈ (s'.slot k).waiters)
    (waits : e = none → s.submits ∈ (s'.slot k).waiters) :
  Books s' k own v'
  where
    calls := calls
    length := by
      rw [track, submits, place_succ, mine, List.length_append, books.length]
      rfl
    endings := by
      intro w mine' submitted
      rw [submits] at submitted
      obtain less | rfl := Nat.lt_succ_iff_lt_or_eq.mp submitted
      · rw [track, endings w less, List.getElem?_append_left]
        · apply books.endings w mine' less
        · rw [books.length]
          apply place_lt mine' less
      · rw [track, new, ← books.length, List.getElem?_concat_length]
    waits := by
      intro w mine' submitted free
      rw [submits] at submitted
      obtain less | rfl := Nat.lt_succ_iff_lt_or_eq.mp submitted
      · rw [Entries.has, endings w less] at free
        apply waiters
        apply books.waits w mine' less free
      · rw [Entries.has, new, Option.isSome_eq_false_iff, Option.isNone_iff_eq_none] at free
        apply waits free

/-- A waiter of the session is dropped. -/
theorem Books.drop (books : Books s k own v) {v' : Track α ρ} {w : Nat} (mine : own w = true)
    (track : v'.endings = v.endings.modify (place own w) fun e =>
      e.or (some { time := s.now, result := .cancelled }))
    (calls : v'.calls = callsOf k s'.calls) (submits : s'.submits = s.submits)
    (endings : s'.endings = (s.settle (if w < s.submits then [w] else []) .cancelled).endings)
    (waiters : ∀ w ∈ (s.slot k).waiters, w ∈ (s'.slot k).waiters) :
  Books s' k own v'
  where
    calls := calls
    length := by
      rw [track, List.length_modify, submits]
      apply books.length
    endings := by
      intro w' mine' submitted
      rw [submits] at submitted
      rw [track, endings, get?_settle, List.getElem?_modify, books.endings w' mine' submitted]
      by_cases same : w' = w
      · subst same
        simp [submitted]
      · have apart : place own w ≠ place own w' :=
          fun one => same (place_inj mine mine' one).symm
        have others : w' ∉ if w < s.submits then [w] else [] := by
          split <;> simp [same]
        simp only [if_neg apart, if_neg others, Option.or_none, Option.map_eq_map, Option.map_some]
    waits := by
      intro w' mine' submitted free
      rw [submits] at submitted
      rw [endings, ← Bool.not_eq_true, has_settle, not_or, Bool.not_eq_true] at free
      apply waiters
      apply books.waits w' mine' submitted free.1

/-- The waiters of a session do not end with those of another one. -/
theorem get?_of_apart (parted : Parted m.state) (books : Books m.state k own v) {k' : σ}
    (other : (k' == k) = false) {waiters : List Nat} {r : Result ρ}
    (theirs : (m.state.slot k').waiters = waiters) {w : Nat} (mine : own w = true)
    (submitted : w < m.state.submits) :
  Entries.get? (m.state.settle waiters r).endings w = Entries.get? m.state.endings w
  := by
  apply books.get?_settle_of_apart mine submitted
  intro waits mem
  rw [← theirs] at mem
  rw [parted.apart k' k w mem waits] at other
  cases other

variable [EquivBEq σ] {c : Coalescer α ρ} {q : Request σ α}

/-- What is under way for a session ends later than now if all is later that is scheduled for it. -/
theorem Mirrors.later (mirrors : Mirrors m k own v) {time : Nat}
    (later : ∀ a ∈ m.scheduled, concerns m.state k a = true → time < a.due) :
  (∀ closes args, v.stage = .waiting closes args → time < closes)
    ∧ ∀ ends args, v.stage = .calling ends args → time < ends
  := by
  have due {a : Appointment (Deed σ)} (mem : a ∈ m.timers k ++ m.executions k) :
      time < a.due := by
    obtain ⟨scheduled, concerned⟩ := mem_timers_executions_iff.mp mem
    apply later a scheduled concerned
  have stages := mirrors.stage
  constructor
  · intro closes args stage
    rw [stage] at stages
    obtain ⟨a, mem, rfl⟩ := stages.timer
    apply due (List.mem_append_left _ mem)
  · intro ends args stage
    rw [stage] at stages
    obtain ⟨a, mem, rfl⟩ := stages.execution
    apply due (List.mem_append_right _ mem)

theorem Mirrors.advance_of_nothing (mirrors : Mirrors m k own v) (nothing : m.scheduled = [])
    (time : Nat) :
  v.advance c time = v
  := by
  have none : ∀ a ∈ m.scheduled, concerns m.state k a = true → time < a.due := by
    rw [nothing]
    exact nofun
  apply Track.advance_of_ahead (mirrors.later none).1 (mirrors.later none).2

/-! ### Requests -/

/-- The waiters of a session that wait are those of what it has under way, and end as these do. -/
theorem get?_apply (parted : Parted m.state) (books : Books m.state k own v) {w : Nat}
    (mine : own w = true) (submitted : w < m.state.submits) (undropped : q ≠ .drop w)
    (stays : ¬Act.Leaves { before := m, request := q } k) :
  Entries.get? (c.apply m.state q).endings w = Entries.get? m.state.endings w
  := by
  rw [endings_apply]
  apply books.get?_settle_of_apart mine submitted
  exact fun waits => not_mem_ended parted waits undropped stays

/-- A request that leaves what the session has under way, and drops none of its waiters, is nothing
to the session. -/
theorem Mirrors.apply_of_still (mirrors : Mirrors m k own v) (parted : Parted m.state)
    (still : Still m { m with state := c.apply m.state q } k)
    (stays : ¬Act.Leaves { before := m, request := q } k)
    (undropped : ∀ w, own w = true → q ≠ .drop w)
    (elsewhere : q.submits = true → own m.state.submits = false) :
  Mirrors { m with state := c.apply m.state q } k own v
  where
    stage := mirrors.stage.still still
    books := by
      apply mirrors.books.kept rfl
      · rw [(apply_frame c m.state q).2]
        apply mirrors.books.calls
      · rw [submits_apply]
        cases submits : q.submits with
        | false => exact .inl rfl
        | true => exact .inr ⟨rfl, elsewhere submits⟩
      · intro w mine submitted
        apply get?_apply parted mirrors.books mine submitted (undropped w mine) stays
      · rw [still.slot_eq]
        exact fun _ => id

/-- A request of another session is nothing to a session. -/
theorem mirrors_of_elsewhere (sound : m.Sound) (parted : Parted m.state)
    (mirrors : Mirrors m k own v)
    (owns : ∀ k' args, q = .submit k' args → own m.state.submits = (k' == k))
    (other : q.isOf k own m.state.submits = false) :
  Mirrors { m with state := c.apply m.state q } k own v
  := by
  have stays : ¬Act.Leaves { before := m, request := q } k := by
    rintro ⟨k', rfl, same, -⟩
    rw [Request.isOf, same] at other
    cases other
  have still : Still m { m with state := c.apply m.state q } k := by
    apply still_of_elsewhere sound _ stays
    rintro k' args rfl
    apply other
  apply mirrors.apply_of_still parted still stays
  · rintro w mine rfl
    rw [Request.isOf, mine] at other
    cases other
  · intro submits
    obtain ⟨k', args, rfl⟩ | ⟨cause, rfl⟩ := Request.submit_or_refused submits
    · rw [owns k' args rfl]
      apply other
    · apply other

/-- A submit of the session lets its window wait anew, or shares the call that runs. -/
theorem mirrors_submit (sound : m.Sound) (parted : Parted m.state)
    (mirrors : Mirrors m k own v) {k' : σ} (same : (k' == k) = true) (args : α)
    (mine : own m.state.submits = true) :
  Mirrors { m with state := c.apply m.state (.submit k' args) } k own
    (v.ask c m.state.now (.submit k' args))
  := by
  have kept (w : Nat) : Entries.get? (c.apply m.state (.submit k' args)).endings w
      = Entries.get? m.state.endings w := by
    rw [endings_apply]
    rfl
  have books {v' : Track α ρ} (track : v'.endings = v.endings ++ [none])
      (calls : v'.calls = v.calls)
      (waiters : ∀ w ∈ (m.state.slot k).waiters ++ [m.state.submits],
        w ∈ ((c.apply m.state (.submit k' args)).slot k).waiters) :
      Books (c.apply m.state (.submit k' args)) k own v' := by
    apply mirrors.books.submit track _ (submits_apply c m.state _) mine
    · intro w _
      apply kept
    · rw [kept]
      by_contra has
      apply Nat.lt_irrefl m.state.submits
      apply parted.ended
      apply Option.isSome_iff_ne_none.mpr has
    · intro w mem
      apply waiters w (List.mem_append_left _ mem)
    · intro _
      apply waiters
      apply List.mem_append_right _ (List.mem_singleton_self _)
    · rw [calls, (apply_frame c m.state _).2]
      apply mirrors.books.calls
  -- A call that runs is shared, and otherwise a window is open afterwards.
  have opens {p : Phase α} (stands : Stands m k p) (free : m.state.isRunning k = false)
      (waiters : (m.state.slot k).waiters = p.waiters) :
      Mirrors { m with state := c.apply m.state (.submit k' args) } k own
        { v with
          stage := .waiting (c.clock.after m.state.now c.wait) args
          endings := v.endings ++ [none] } := by
    have joins : Act.Joins { before := m, request := .submit k' args } k args :=
      ⟨k', rfl, same, free⟩
    have after := stands_of_joins (c := c) sound joins stands
    exact {
      stage := .waiting after
      books := by
        refine books rfl rfl ?_
        rw [waiters_of_stands after, waiters]
        exact fun _ => id }
  obtain ⟨stage, calls, endings⟩ := v
  cases mirrors.stage with
  | idle stands =>
    apply opens stands stands.isRunning
    cases stands with
    | idle slot => rw [slot_of_none slot]; rfl
  | waiting stands => exact opens stands stands.isRunning (waiters_of_stands stands)
  | @calling call a calling =>
    have after := calling_of_shares (c := c) sound same args calling
    have stage := Stages.calling after
    exact {
      stage := stage
      books := by
        refine books rfl rfl ?_
        rw [after.waiters, calling.waiters]
        exact fun _ => id }

/-- A submit of the session that cannot be made has a waiter, which ends. -/
theorem mirrors_refuse (sound : m.Sound) (parted : Parted m.state) (mirrors : Mirrors m k own v)
    (cause : Mismatch) (mine : own m.state.submits = true) :
  Mirrors { m with state := c.apply m.state (.refused cause) } k own
    (v.ask c m.state.now (.refused cause : Request σ α))
  := by
  have still : Still m { m with state := c.apply m.state (.refused cause) } k := by
    refine still_of_elsewhere sound nofun ?_
    rintro ⟨_, request, -⟩
    cases request
  exact {
    stage := mirrors.stage.still still
    books := by
      refine mirrors.books.submit rfl ?_ (submits_apply c m.state _) mine ?_ ?_ ?_ nofun
      · rw [(apply_frame c m.state _).2]
        apply mirrors.books.calls
      · intro w submitted
        rw [endings_apply, get?_settle, Request.ended, if_neg, Option.or_none]
        rw [List.mem_singleton]
        apply Nat.ne_of_lt submitted
      · have free : Entries.has m.state.endings m.state.submits = false := by
          by_contra has
          rw [Bool.not_eq_false] at has
          apply Nat.lt_irrefl _ (parted.ended _ has)
        apply get?_of_free free (endings_apply c m.state (.refused cause))
        apply List.mem_singleton_self
      · rw [still.slot_eq]
        exact fun _ => id }

/-- A cancel of the session gives up its window, if it has one. -/
theorem mirrors_cancel (sound : m.Sound) (parted : Parted m.state) (mirrors : Mirrors m k own v)
    {k' : σ} (same : (k' == k) = true) :
  Mirrors { m with state := c.apply m.state (.cancel k') } k own
    (v.ask c m.state.now (.cancel k' : Request σ α))
  := by
  -- Without a window nothing happens.
  have stays (closed : m.state.isPending k = false) :
      Mirrors { m with state := c.apply m.state (.cancel k') } k own v := by
    have stays : ¬Act.Leaves { before := m, request := .cancel k' } k := by
      rintro ⟨_, -, -, pending⟩
      rw [closed] at pending
      cases pending
    exact mirrors.apply_of_still parted (still_of_elsewhere sound nofun stays) stays nofun nofun
  obtain ⟨stage, made, endings⟩ := v
  cases id mirrors.stage with
  | idle stands => exact stays stands.isPending
  | waiting stands =>
    have leaves : Act.Leaves { before := m, request := .cancel k' } k :=
      ⟨k', rfl, same, stands.isPending⟩
    exact {
      stage := .idle (stands_of_leaves sound leaves stands)
      books := by
        refine mirrors.books.settle .cancelled rfl ?_ (submits_apply c m.state _) ?_
        · rw [(apply_frame c m.state _).2]
          apply mirrors.books.calls
        · rw [endings_apply, waiters_of_stands stands, Request.ended, slot_congr _ same,
            stands.window]
          rfl }
  | calling calling => exact stays calling.stands.isPending

/-- A drop ends a waiter, unless it has ended before. -/
theorem mirrors_drop (sound : m.Sound) (mirrors : Mirrors m k own v) {w : Nat}
    (mine : own w = true) :
  Mirrors { m with state := c.apply m.state (.drop w) } k own
    (v.ask c m.state.now (.drop (place own w) : Request σ α))
  := by
  have still : Still m { m with state := c.apply m.state (.drop w) } k := by
    refine still_of_elsewhere sound nofun ?_
    rintro ⟨_, request, -⟩
    cases request
  exact {
    stage := mirrors.stage.still still
    books := by
      refine mirrors.books.drop mine rfl ?_ (submits_apply c m.state _)
        (endings_apply c m.state _) ?_
      · rw [(apply_frame c m.state _).2]
        apply mirrors.books.calls
      · rw [still.slot_eq]
        exact fun _ => id }

/-- A request of the session does to the coalescer what it does to the track. -/
theorem mirrors_ask (sound : m.Sound) (parted : Parted m.state)
    (mirrors : Mirrors m k own v)
    (owns : ∀ k' args, q = .submit k' args → own m.state.submits = (k' == k))
    (mine : q.isOf k own m.state.submits = true) :
  Mirrors { m with state := c.apply m.state q } k own
    (v.ask c m.state.now (q.renumbered own))
  := by
  cases q with
  | submit k' args =>
    apply mirrors_submit sound parted mirrors mine args
    rw [owns k' args rfl]
    apply mine
  | refused cause => exact mirrors_refuse sound parted mirrors cause mine
  | cancel k' => exact mirrors_cancel sound parted mirrors mine
  | probe k' => exact mirrors
  | drop w => exact mirrors_drop sound mirrors mine

/-! ### Appointments -/

variable {a : Appointment (Deed σ)}

/-- The window of the session closes, and its call runs. -/
theorem mirrors_of_called (mirrors : Mirrors m k own v) {k' : σ} (same : (k' == k) = true)
    {due number : Nat} {waiters : List Nat} {args : α} {b : Appointment (Deed σ)}
    (lasting : c.duration args ≠ 0) (before : Stands m k' (.waiting due waiters args))
    (ends : b.due = c.clock.after m.state.now (c.duration args))
    (after : Calling m' k'
      { number := number, args := args, ends := b.due, waiters := waiters } b)
    (calls : m'.state.calls = m.state.calls ++
      [{ session := k', number := number, time := m.state.now, args := args }])
    (endings : m'.state.endings = m.state.endings)
    (submits : m'.state.submits = m.state.submits) :
  Mirrors m' k own (v.close c m.state.now args)
  where
    stage := by
      have runs := Stages.calling (after.congr same)
      rw [ends] at runs
      rw [Track.close, if_neg lasting]
      exact runs
    books := by
      apply mirrors.books.kept _ _ (.inl submits)
      · intro w _ _
        rw [endings]
      · rw [waiters_of_stands (before.congr same), (after.congr same).waiters]
        exact fun _ => id
      · rw [Track.close, if_neg lasting]
      · rw [Track.calls_close, calls, callsOf_concat, if_pos same, mirrors.books.calls]

/-- The window of the session closes, and its call ends at once. -/
theorem mirrors_of_instant
    (alike : ∀ number number' args, c.result number args = c.result number' args)
    (mirrors : Mirrors m k own v) {k' : σ} (same : (k' == k) = true) {due number : Nat}
    {waiters : List Nat} {args : α} (instant : c.duration args = 0)
    (before : Stands m k' (.waiting due waiters args)) (after : Stands m' k' .idle)
    (calls : m'.state.calls = m.state.calls ++
      [{ session := k', number := number, time := m.state.now, args := args }])
    (endings : m'.state.endings = (m.state.settle waiters (c.result number args)).endings)
    (submits : m'.state.submits = m.state.submits) :
  Mirrors m' k own (v.close c m.state.now args)
  where
    stage := by
      rw [Track.close, if_pos instant]
      exact .idle (after.congr same)
    books := by
      refine mirrors.books.settle (c.result number args) ?_ ?_ submits ?_
      · rw [Track.close, if_pos instant, alike 0 number]
        rfl
      · rw [Track.calls_close, calls, callsOf_concat, if_pos same, mirrors.books.calls]
      · rw [endings, waiters_of_stands (before.congr same)]

/-- The call of the session ends. -/
theorem mirrors_of_finished
    (alike : ∀ number number' args, c.result number args = c.result number' args)
    (mirrors : Mirrors m k own v) {k' : σ} (same : (k' == k) = true) {call : Running α}
    (before : Calling m k' call a) (after : Stands m' k' .idle)
    (calls : m'.state.calls = m.state.calls)
    (endings : m'.state.endings =
      (m.state.settle call.waiters (c.result call.number call.args)).endings)
    (submits : m'.state.submits = m.state.submits) :
  Mirrors m' k own (v.settle m.state.now (c.result 0 call.args))
  where
    stage := .idle (after.congr same)
    books := by
      refine mirrors.books.settle (c.result call.number call.args) ?_ ?_ submits ?_
      · rw [alike 0 call.number]
      · rw [calls]
        apply mirrors.books.calls
      · rw [endings, (before.congr same).waiters]

/-- An appointment that is done at its time does to the session that it is for what is next to
happen to the track. -/
theorem mirrors_of_effect
    (alike : ∀ number number' args, c.result number args = c.result number' args)
    (parted : Parted m.state) (mirrors : Mirrors m k own v) (effect : Effect c a m m')
    (submits : m'.state.submits = m.state.submits)
    (punctual : wakes a = false → m.state.now = a.due) :
  Mirrors m' k own (if concerns m.state k a then v.happen c m.state.now else v)
  := by
  have kept (quiet : concerns m.state k a = false) (still : Still m m' k)
      (calls : callsOf k m'.state.calls = callsOf k m.state.calls)
      (endings : ∀ w, own w = true → w < m.state.submits →
        Entries.get? m'.state.endings w = Entries.get? m.state.endings w) :
      Mirrors m' k own (if concerns m.state k a then v.happen c m.state.now else v) := by
    rw [quiet, if_neg Bool.false_ne_true]
    refine ⟨mirrors.stage.still still, ?_⟩
    apply mirrors.books.kept rfl _ (.inl submits) endings
    · rw [still.slot_eq]
      exact fun _ => id
    · rw [calls]
      apply mirrors.books.calls
  cases effect with
  | nothing still calls endings quiet =>
    apply kept (quiet k) (still k)
    · rw [calls]
    · intro w _ _
      rw [endings]
  | @called k' waiters args b deed lasting before ends number after others calls endings mine =>
    by_cases same : (k' == k) = true
    · have now := punctual (by rw [wakes, deed])
      have stage := mirrors.stage.eq_waiting (before.congr same)
      rw [← concerns_congr _ same, if_pos mine, Track.happen_waiting stage (Nat.le_of_eq now.symm),
        ← now]
      apply mirrors_of_called mirrors same lasting before ends after calls endings submits
    · rw [Bool.not_eq_true] at same
      apply kept (concerns_of_elsewhere _ (.inl deed) same) (others k same)
      · rw [calls, callsOf_concat, same]
        rfl
      · intro w _ _
        rw [endings]
  | @instant k' waiters args deed instant before after others calls endings mine =>
    by_cases same : (k' == k) = true
    · have now := punctual (by rw [wakes, deed])
      have stage := mirrors.stage.eq_waiting (before.congr same)
      rw [← concerns_congr _ same, if_pos mine, Track.happen_waiting stage (Nat.le_of_eq now.symm),
        ← now]
      apply mirrors_of_instant alike mirrors same instant before after calls endings submits
    · rw [Bool.not_eq_true] at same
      apply kept (concerns_of_elsewhere _ (.inl deed) same) (others k same)
      · rw [calls, callsOf_concat, same]
        rfl
      · intro w mine submitted
        rw [endings]
        apply get?_of_apart parted mirrors.books same (waiters_of_stands before) mine submitted
  | @finished k' call deed before after others calls endings mine =>
    by_cases same : (k' == k) = true
    · have now := punctual (by rw [wakes, deed])
      have stage := mirrors.stage.eq_calling (before.congr same)
      rw [← concerns_congr _ same, if_pos mine, Track.happen_calling stage (Nat.le_of_eq now.symm),
        ← now]
      apply mirrors_of_finished alike mirrors same before after calls endings submits
    · rw [Bool.not_eq_true] at same
      apply kept (concerns_of_elsewhere _ (.inr deed) same) (others k same)
      · rw [calls]
      · intro w mine submitted
        rw [endings]
        apply get?_of_apart parted mirrors.books same before.waiters mine submitted

end ReflexPolicy.Coalescer

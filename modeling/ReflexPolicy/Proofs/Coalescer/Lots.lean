import ReflexPolicy.Proofs.Coalescer.Ended

/-!
# The lots of waiters

The waiter of a submit is dropped, or its window is given up, or it gets the result of a call: of
the first call of its session that ends after the submit.  `Lot` follows a waiter through the
moments of a run, along the window and the call that it waits for: `lots_ask` for one request,
`lots_perform` for one appointment, and `lots_of_reached` for all of them.
-/

namespace ReflexPolicy.Coalescer

variable {σ α ρ : Type}

namespace Act

/-- A waiter is dropped before anything else ends it. -/
def Drops (act : Act σ α ρ) (w : Nat) : Prop :=
  act.request = .drop w ∧ Entries.has act.before.state.endings w = false

end Act

theorem has_of_get? {endings : Entries Nat (Ending ρ)} {w : Nat} {e : Ending ρ}
    (ended : Entries.get? endings w = some e) :
  Entries.has endings w = true
  := by
  rw [Entries.has, ended]
  rfl

theorem get?_of_free {s s' : State σ α ρ} {waiters : List Nat} {r : Result ρ} {w : Nat}
    (free : Entries.has s.endings w = false) (endings : s'.endings = (s.settle waiters r).endings)
    (mem : w ∈ waiters) :
  Entries.get? s'.endings w = some { time := s.now, result := r }
  := by
  rw [Entries.has, Option.isSome_eq_false_iff, Option.isNone_iff_eq_none] at free
  rw [endings, get?_settle, if_pos mem, free, Option.none_or]

variable [BEq σ]

namespace Act

/-- Of some calls none has been made for the session since the request. -/
def Uncalled (act : Act σ α ρ) (k : σ) (calls : List (Made σ α)) : Prop :=
  ∀ made ∈ calls, (made.session == k) = true → made ∈ act.before.state.calls

/-- Of some calls this is the first one of the session that ends after the request. -/
structure First (act : Act σ α ρ) (k : σ) (calls : List (Made σ α)) (made : Made σ α) :
    Prop where
  mem : made ∈ calls
  session : (made.session == k) = true
  after : ¬act.before.state.Over made
  first : ∀ other ∈ calls, (other.session == k) = true → ¬act.before.state.Over other →
    made.number ≤ other.number

end Act

/-- A cancel gives up the window that a submit has joined: none did so between them, and the
window's call has not been made. -/
structure GivesUp (k : σ) (act : Act σ α ρ) (between : List (Act σ α ρ)) (b : Act σ α ρ) :
    Prop where
  joined : ∃ args, act.Joins k args
  leaves : b.Leaves k
  uncalled : act.Uncalled k b.before.state.calls
  first : ∀ b' ∈ between, ¬b'.Leaves k

/-- None of the requests after a submit drops its waiter or gives up its window. -/
structure Spared (k : σ) (act : Act σ α ρ) (newer : List (Act σ α ρ)) : Prop where
  undropped : ∀ b ∈ newer, ¬b.Drops act.before.state.submits
  kept : ∀ b ∈ newer, (∃ args, act.Joins k args) → b.Leaves k →
    ¬act.Uncalled k b.before.state.calls

/-- What has become of the waiter of a submit after some more requests. -/
inductive Lot (c : Coalescer α ρ) (ended : Nat → Nat) (m : Moment σ α ρ) (k : σ)
    (act : Act σ α ρ) (newer : List (Act σ α ρ)) : Prop where
  /-- Its window is open. -/
  | waiting {due : Nat} {waiters : List Nat} {args : α} (spared : Spared k act newer)
    (free : Entries.has m.state.endings act.before.state.submits = false)
    (stands : Stands m k (.waiting due waiters args))
    (mem : act.before.state.submits ∈ waiters) (joined : ∃ args, act.Joins k args)
    (uncalled : act.Uncalled k m.state.calls)
  /-- The call runs that it waits for. -/
  | calling {call : Running α} {a : Appointment (Deed σ)} {made : Made σ α}
    (spared : Spared k act newer)
    (free : Entries.has m.state.endings act.before.state.submits = false)
    (calling : Calling m k call a) (mem : act.before.state.submits ∈ call.waiters)
    (first : act.First k m.state.calls made) (number : call.number = made.number)
    (args : call.args = made.args)
  | dropped {b : Act σ α ρ} (mem : b ∈ newer) (drops : b.Drops act.before.state.submits)
    (once : ∀ b' ∈ newer, b'.Drops act.before.state.submits → b' = b)
    (ending : Entries.get? m.state.endings act.before.state.submits =
      some { time := b.before.state.now, result := .cancelled })
  | left {between after : List (Act σ α ρ)} {b : Act σ α ρ}
    (undropped : ∀ b ∈ newer, ¬b.Drops act.before.state.submits)
    (split : newer = between ++ b :: after) (gives : GivesUp k act between b)
    (ending : Entries.get? m.state.endings act.before.state.submits =
      some { time := b.before.state.now, result := .cancelled })
  | called {made : Made σ α} (spared : Spared k act newer)
    (first : act.First k m.state.calls made) (isOver : m.state.Over made)
    (ending : Entries.get? m.state.endings act.before.state.submits =
      some { time := ended made.number, result := c.result made.number made.args })

/-- Every submit has its lot. -/
def Lots (c : Coalescer α ρ) (ended : Nat → Nat) (log : List (Act σ α ρ)) (m : Moment σ α ρ) :
    Prop :=
  ∀ older act newer k args, log = older ++ act :: newer → act.request = .submit k args →
    Lot c ended m k act newer

variable {c : Coalescer α ρ} {ended ended' : Nat → Nat} {log : List (Act σ α ρ)}
  {m m' : Moment σ α ρ}

theorem lots_congr (lots : Lots c ended log m)
    (same : ∀ made, m.state.Over made → ended' made.number = ended made.number) :
  Lots c ended' log m
  := by
  intro older act newer k args split request
  cases lots older act newer k args split request with
  | waiting spared free stands mem joined uncalled =>
    exact .waiting spared free stands mem joined uncalled
  | calling spared free calling mem first number args =>
    exact .calling spared free calling mem first number args
  | dropped mem drops once ending => exact .dropped mem drops once ending
  | left undropped split gives ending => exact .left undropped split gives ending
  | called spared first isOver ending =>
    rw [← same _ isOver] at ending
    exact .called spared first isOver ending

/-! ### Steps -/

/-- What has happened stays so from one moment to another. -/
structure Onward (m m' : Moment σ α ρ) : Prop where
  endings : ∀ w e, Entries.get? m.state.endings w = some e →
    Entries.get? m'.state.endings w = some e
  calls : ∀ made ∈ m.state.calls, made ∈ m'.state.calls
  newer : ∀ made ∈ m'.state.calls, made ∈ m.state.calls
    ∨ ∀ old ∈ m.state.calls, old.number ≤ made.number
  isOver : ∀ made, m.state.Over made → m'.state.Over made

theorem onward_of_same (endings : m'.state.endings = m.state.endings)
    (calls : m'.state.calls = m.state.calls)
    (isOver : ∀ made, m'.state.Over made ↔ m.state.Over made) :
  Onward m m'
  where
    endings := by
      rw [endings]
      exact fun _ _ => id
    calls := by
      rw [calls]
      exact fun _ => id
    newer := by
      rw [calls]
      exact fun _ => .inl
    isOver := fun made => (isOver made).mpr

theorem Act.First.onward {k : σ} {act : Act σ α ρ} {made : Made σ α} (onward : Onward m m')
    (first : act.First k m.state.calls made) :
  act.First k m'.state.calls made
  where
    mem := onward.calls made first.mem
    session := first.session
    after := first.after
    first := by
      intro other mem session after
      obtain old | newer := onward.newer other mem
      · apply first.first other old session after
      · apply newer made first.mem

variable {k : σ} {act : Act σ α ρ} {newer : List (Act σ α ρ)}

/-- A waiter that has ended has met its lot. -/
theorem Lot.onward (onward : Onward m m')
    (has : Entries.has m.state.endings act.before.state.submits = true)
    (lot : Lot c ended m k act newer) :
  Lot c ended m' k act newer
  := by
  cases lot with
  | waiting _ free =>
    rw [free] at has
    cases has
  | calling _ free =>
    rw [free] at has
    cases has
  | dropped mem drops once ending =>
    exact .dropped mem drops once (onward.endings _ _ ending)
  | left undropped split gives ending =>
    exact .left undropped split gives (onward.endings _ _ ending)
  | called spared first isOver ending =>
    exact .called spared (first.onward onward) (onward.isOver _ isOver) (onward.endings _ _ ending)

/-- A waiter that has not ended waits for its window to close, or for the end of a call. -/
theorem Lot.of_free (free : Entries.has m.state.endings act.before.state.submits = false)
    (lot : Lot c ended m k act newer) :
  Spared k act newer
    ∧ ((∃ due waiters args, Stands m k (.waiting due waiters args)
        ∧ act.before.state.submits ∈ waiters ∧ (∃ args, act.Joins k args)
        ∧ act.Uncalled k m.state.calls)
      ∨ ∃ call a made, Calling m k call a ∧ act.before.state.submits ∈ call.waiters
        ∧ act.First k m.state.calls made ∧ call.number = made.number ∧ call.args = made.args)
  := by
  have ends {e : Ending ρ}
      (ending : Entries.get? m.state.endings act.before.state.submits = some e) : False := by
    rw [has_of_get? ending] at free
    cases free
  cases lot with
  | waiting spared _ stands mem joined uncalled =>
    exact ⟨spared, .inl ⟨_, _, _, stands, mem, joined, uncalled⟩⟩
  | calling spared _ calling mem first number args =>
    exact ⟨spared, .inr ⟨_, _, _, calling, mem, first, number, args⟩⟩
  | dropped _ _ _ ending => exact (ends ending).elim
  | left _ _ _ ending => exact (ends ending).elim
  | called _ _ _ ending => exact (ends ending).elim

/-- A waiter whose session is concerned has met its lot, or has not ended. -/
theorem Lot.or_free (onward : Onward m m') (lot : Lot c ended m k act newer)
    (go : Entries.has m.state.endings act.before.state.submits = false →
      Lot c ended m' k act newer) :
  Lot c ended m' k act newer
  := by
  by_cases has : Entries.has m.state.endings act.before.state.submits = true
  · exact lot.onward onward has
  · rw [Bool.not_eq_true] at has
    apply go has

/-- A waiter goes on waiting while nothing happens to its session. -/
theorem Lot.still (onward : Onward m m') (still : Still m m' k)
    (free : ∀ w ∈ (m.state.slot k).waiters, Entries.has m.state.endings w = false →
      Entries.has m'.state.endings w = false)
    (calls : ∀ made ∈ m'.state.calls, (made.session == k) = true → made ∈ m.state.calls)
    (lot : Lot c ended m k act newer) :
  Lot c ended m' k act newer
  := by
  by_cases has : Entries.has m.state.endings act.before.state.submits = true
  · exact lot.onward onward has
  · rw [Bool.not_eq_true] at has
    obtain ⟨spared, ⟨_, _, _, stands, mem, joined, uncalled⟩
      | ⟨_, _, _, calling, mem, first, number, args⟩⟩ := lot.of_free has
    · have free' := free _ (by rw [waiters_of_stands stands]; apply mem) has
      refine .waiting spared free' (still.stands stands) mem joined ?_
      exact fun made member session => uncalled made (calls made member session) session
    · have free' := free _ (by rw [calling.waiters]; apply mem) has
      exact .calling spared free' (still.calling calling) mem (first.onward onward) number args

theorem lots_of_still (lots : Lots c ended log m) (still : ∀ k, Still m m' k)
    (endings : m'.state.endings = m.state.endings) (calls : m'.state.calls = m.state.calls) :
  Lots c ended log m'
  := by
  have isOver : ∀ made, m'.state.Over made ↔ m.state.Over made := by
    intro made
    apply over_of_still (still made.session)
    rw [calls]
  intro older act newer k args split request
  apply Lot.still (onward_of_same endings calls isOver) (still k) _ _
    (lots older act newer k args split request)
  · intro w _
    rw [endings]
    exact id
  · intro made mem _
    rw [calls] at mem
    apply mem

/-- What ends the waiters of one session ends none of another. -/
theorem free_of_apart (parted : Parted m.state) {k' : σ} (other : (k' == k) = false)
    {waiters : List Nat} {r : Result ρ} (theirs : (m.state.slot k').waiters = waiters)
    (endings : m'.state.endings = (m.state.settle waiters r).endings) :
  ∀ w ∈ (m.state.slot k).waiters, Entries.has m.state.endings w = false →
    Entries.has m'.state.endings w = false
  := by
  intro w mem free
  rw [endings, ← Bool.not_eq_true, has_settle, free]
  rintro (has | mem')
  · cases has
  · rw [← theirs] at mem'
    rw [parted.apart k' k w mem' mem] at other
    cases other

theorem Spared.concat (spared : Spared k act newer) {b : Act σ α ρ}
    (undropped : ¬b.Drops act.before.state.submits)
    (kept : (∃ args, act.Joins k args) → b.Leaves k → ¬act.Uncalled k b.before.state.calls) :
  Spared k act (newer ++ [b])
  where
    undropped := by
      rw [List.forall_mem_append, List.forall_mem_singleton]
      exact ⟨spared.undropped, undropped⟩
    kept := by
      rw [List.forall_mem_append, List.forall_mem_singleton]
      exact ⟨spared.kept, kept⟩

theorem free_apply {q : Request σ α} {w : Nat} (free : Entries.has m.state.endings w = false)
    (others : w ∉ q.ended m.state) :
  Entries.has (c.apply m.state q).endings w = false
  := by
  rw [← Bool.not_eq_true, endings_apply, has_settle, free]
  rintro (has | mem)
  · cases has
  · apply others mem

/-- A waiter is dropped. -/
theorem Lot.drop (parted : Parted m.state) {w : Nat} (mem : w ∈ (m.state.slot k).waiters)
    (free : Entries.has m.state.endings w = false) :
  Act.Drops { before := m, request := .drop w } w
    ∧ Entries.get? (c.apply m.state (.drop w)).endings w =
      some { time := m.state.now, result := .cancelled }
  := by
  constructor
  · exact ⟨rfl, free⟩
  · apply get?_of_free free (endings_apply c m.state (.drop w))
    rw [Request.ended, if_pos (parted.submitted k w mem)]
    apply List.mem_singleton_self

/-! ### Appointments -/

variable [EquivBEq σ] {a : Appointment (Deed σ)}

theorem onward_of_effect (reached : Reached c log m) (effect : Effect c a m m')
    (kept : ∀ made, m.state.Over made → m'.state.Over made) :
  Onward m m'
  where
    endings := by
      obtain ⟨waiters, r, endings, -⟩ := effect.settles
      intro w e ended
      rw [endings, get?_settle, ended, Option.some_or]
    calls := fun _ => mem_calls_of_effect effect
    newer := by
      intro made mem
      obtain same | ⟨new, more, -, number, -⟩ := calls_of_effect effect
      · rw [same] at mem
        exact .inl mem
      · rw [more, List.mem_append, List.mem_singleton] at mem
        apply mem.imp_right
        rintro rfl old mem
        rw [number]
        apply Nat.le_succ_of_le (number_le_of_reached reached mem)
    isOver := kept

/-- The call of a window is the first one that ends after the submits which joined it. -/
theorem first_of_called (reached : Reached c log m) (told : Told c ended log m) (mem : act ∈ log)
    (joined : ∃ args, act.Joins k args) (uncalled : act.Uncalled k m.state.calls)
    {new : Made σ α} (session : (new.session == k) = true)
    (number : new.number = m.state.calls.length + 1)
    (calls : m'.state.calls = m.state.calls ++ [new]) :
  act.First k m'.state.calls new
  where
    mem := by
      rw [calls]
      apply List.mem_append_right _ (List.mem_singleton_self _)
    session := session
    after := by
      intro isOver
      have := number_le_of_reached reached (told.calls act mem new isOver.1)
      omega
    first := by
      intro other member session' after
      rw [calls, List.mem_append, List.mem_singleton] at member
      obtain old | rfl := member
      · -- The calls before were over when the submit joined the window.
        obtain ⟨args, _, -, -, free⟩ := joined
        rw [← isRunning_congr session'] at free
        apply absurd (over_of_free (uncalled other old session') free) after
      · apply Nat.le_refl

/-- The window closes for which a waiter waits, and the call of the window runs. -/
theorem Lot.called_of_close (reached : Reached c log m) (told : Told c ended log m)
    (mem : act ∈ log) (onward : Onward m m') (lot : Lot c ended m k act newer) {due : Nat}
    {waiters : List Nat} {args : α} (before : Stands m k (.waiting due waiters args))
    {new : Made σ α} {call : Running α} {b : Appointment (Deed σ)} (after : Calling m' k call b)
    (shared : call.waiters = waiters) (number : call.number = new.number)
    (same : call.args = new.args) (session : (new.session == k) = true)
    (last : new.number = m.state.calls.length + 1)
    (calls : m'.state.calls = m.state.calls ++ [new])
    (endings : m'.state.endings = m.state.endings) :
  Lot c ended m' k act newer
  := by
  apply lot.or_free onward
  intro free
  obtain ⟨spared, ⟨_, _, _, stands, waits, joined, uncalled⟩ | ⟨_, _, _, calling, -⟩⟩ :=
    lot.of_free free
  · cases stands.unique before
    have first := first_of_called reached told mem joined uncalled session last calls
    rw [← endings] at free
    rw [← shared] at waits
    exact .calling spared free after waits first number same
  · cases calling.stands.unique before

/-- The window closes for which a waiter waits, and the call of the window ends at once. -/
theorem Lot.called_of_instant (reached : Reached c log m) (told : Told c ended log m)
    (mem : act ∈ log) (onward : Onward m m') (lot : Lot c ended m k act newer) {due : Nat}
    {waiters : List Nat} {args : α} (before : Stands m k (.waiting due waiters args))
    {new : Made σ α} (session : (new.session == k) = true)
    (last : new.number = m.state.calls.length + 1)
    (calls : m'.state.calls = m.state.calls ++ [new]) (isOver : m'.state.Over new)
    (now : ended new.number = m.state.now)
    (endings : m'.state.endings =
      (m.state.settle waiters (c.result new.number new.args)).endings) :
  Lot c ended m' k act newer
  := by
  apply lot.or_free onward
  intro free
  obtain ⟨spared, ⟨_, _, _, stands, waits, joined, uncalled⟩ | ⟨_, _, _, calling, -⟩⟩ :=
    lot.of_free free
  · cases stands.unique before
    have first := first_of_called reached told mem joined uncalled session last calls
    refine .called spared first isOver ?_
    rw [now]
    apply get?_of_free free endings waits
  · cases calling.stands.unique before

/-- The call ends for which a waiter waits. -/
theorem Lot.called_of_finish (onward : Onward m m') (lot : Lot c ended m k act newer)
    {call : Running α} (before : Calling m k call a) (after : Stands m' k .idle)
    (now : ∀ made, m'.state.Over made → m.state.Over made ∨ ended made.number = m.state.now)
    (endings : m'.state.endings =
      (m.state.settle call.waiters (c.result call.number call.args)).endings) :
  Lot c ended m' k act newer
  := by
  apply lot.or_free onward
  intro free
  obtain ⟨spared, ⟨_, _, _, stands, -⟩ | ⟨_, _, made, calling, waits, first, number, args⟩⟩ :=
    lot.of_free free
  · cases stands.unique before.stands
  · have slot := calling.slot
    rw [before.slot] at slot
    cases slot
    have isOver : m'.state.Over made := by
      apply over_of_free (onward.calls made first.mem)
      rw [isRunning_congr first.session]
      apply after.isRunning
    have ends : ended made.number = m.state.now := by
      apply (now made isOver).resolve_left
      apply not_over_of_calling calling first.session number
    refine .called spared (first.onward onward) isOver ?_
    rw [ends, ← number, ← args]
    apply get?_of_free free endings waits

/-- What becomes of waiters when an appointment is done. -/
theorem lots_perform (reached : Reached c log m) (told : Told c ended log m)
    (lots : Lots c ended log m) (effect : Effect c a m m')
    (ends : ∀ made, m'.state.Over made → m.state.Over made ∨ ended made.number = m.state.now)
    (kept : ∀ made, m.state.Over made → m'.state.Over made) :
  Lots c ended log m'
  := by
  have parted := parted_of_reached reached
  have onward := onward_of_effect reached effect kept
  intro older act newer k args split request
  have lot := lots older act newer k args split request
  have logged : act ∈ log := by
    rw [split]
    simp
  have others {k' : σ} (other : (k' == k) = false) {new : Made σ α} (session : new.session = k')
      (calls : m'.state.calls = m.state.calls ++ [new]) :
      ∀ made ∈ m'.state.calls, (made.session == k) = true → made ∈ m.state.calls := by
    intro made mem session'
    rw [calls, List.mem_append, List.mem_singleton] at mem
    obtain mem | rfl := mem
    · apply mem
    · rw [session, other] at session'
      cases session'
  cases effect with
  | nothing still calls endings =>
    apply lot.still onward (still k)
    · rw [endings]
      exact fun _ _ => id
    · rw [calls]
      exact fun _ mem _ => mem
  | @called k' waiters args' b _ lasting before _ _ after rest calls endings =>
    by_cases same : (k' == k) = true
    · exact lot.called_of_close reached told logged onward (before.congr same) (after.congr same)
        rfl rfl rfl same rfl calls endings
    · rw [Bool.not_eq_true] at same
      apply lot.still onward (rest k same) _ (others same rfl calls)
      rw [endings]
      exact fun _ _ => id
  | @instant k' waiters args' _ instant before after rest calls endings =>
    by_cases same : (k' == k) = true
    · let new : Made σ α :=
        { session := k', number := m.state.calls.length + 1, time := m.state.now, args := args' }
      have isOver : m'.state.Over new := by
        apply over_of_free _ after.isRunning
        rw [calls]
        simp [new]
      have now : ended new.number = m.state.now := by
        apply (ends new isOver).resolve_left
        intro old
        apply absurd (number_le_of_reached reached old.1)
        apply Nat.not_succ_le_self
      exact lot.called_of_instant reached told logged onward (before.congr same) same rfl calls
        isOver now endings
    · rw [Bool.not_eq_true] at same
      apply lot.still onward (rest k same) _ (others same rfl calls)
      apply free_of_apart parted same (waiters_of_stands before) endings
  | @finished k' call _ before after rest calls endings =>
    by_cases same : (k' == k) = true
    · exact lot.called_of_finish onward (before.congr same) (after.congr same) ends endings
    · rw [Bool.not_eq_true] at same
      apply lot.still onward (rest k same)
      · apply free_of_apart parted same before.waiters endings
      · rw [calls]
        exact fun _ mem _ => mem

/-! ### Requests -/

/-- A request ends no waiter of a session but the one that it drops and those of the window that
it gives up. -/
theorem not_mem_ended (parted : Parted m.state) {q : Request σ α} {w : Nat}
    (mem : w ∈ (m.state.slot k).waiters) (undropped : q ≠ .drop w)
    (stays : ¬Act.Leaves { before := m, request := q } k) :
  w ∉ q.ended m.state
  := by
  intro ends
  cases q with
  | submit k' args => cases ends
  | refused cause =>
    have less := parted.submitted k w mem
    rw [List.mem_singleton.mp ends] at less
    apply Nat.lt_irrefl _ less
  | cancel k' =>
    apply stays
    have same := parted.apart k' k w (List.mem_append_left _ ends) mem
    use k', rfl, same
    rw [State.isPending, ← slot_congr _ same, Option.isSome_iff_ne_none]
    intro closed
    rw [Request.ended, closed] at ends
    cases ends
  | probe k' => cases ends
  | drop w' =>
    rw [Request.ended] at ends
    split at ends
    · rw [List.mem_singleton.mp ends] at undropped
      apply undropped rfl
    · cases ends

theorem onward_ask (c : Coalescer α ρ) (m : Moment σ α ρ) (q : Request σ α) :
  Onward m { m with state := c.apply m.state q }
  where
    endings := by
      intro w e ended
      rw [endings_apply, get?_settle, ended, Option.some_or]
    calls := by
      simp only [(apply_frame c m.state q).2]
      exact fun _ => id
    newer := by
      simp only [(apply_frame c m.state q).2]
      exact fun _ => .inl
    isOver := fun made => (over_apply c m.state q made).mpr

/-- A waiter that has ended has met its lot, whatever is asked for. -/
theorem Lot.concat (lot : Lot c ended m k act newer) (q : Request σ α)
    (has : Entries.has m.state.endings act.before.state.submits = true) :
  Lot c ended { m with state := c.apply m.state q } k act
    (newer ++ [{ before := m, request := q }])
  := by
  have undropped : ¬Act.Drops { before := m, request := q } act.before.state.submits := by
    rintro ⟨-, free⟩
    rw [has] at free
    cases free
  have onward := onward_ask c m q
  cases lot with
  | waiting _ free =>
    rw [free] at has
    cases has
  | calling _ free =>
    rw [free] at has
    cases has
  | dropped mem drops once ending =>
    refine .dropped (List.mem_append_left _ mem) drops ?_ (onward.endings _ _ ending)
    rw [List.forall_mem_append, List.forall_mem_singleton]
    exact ⟨once, fun drops' => absurd drops' undropped⟩
  | @left between after b undropped' split gives ending =>
    have split' : newer ++ [{ before := m, request := q }]
        = between ++ b :: (after ++ [{ before := m, request := q }]) := by
      rw [split]
      simp
    refine .left ?_ split' gives (onward.endings _ _ ending)
    rw [List.forall_mem_append, List.forall_mem_singleton]
    exact ⟨undropped', undropped⟩
  | called spared first isOver ending =>
    refine .called (spared.concat undropped ?_) (first.onward onward) (onward.isOver _ isOver)
      (onward.endings _ _ ending)
    -- The call that it has waited for has been made since.
    rintro ⟨args, _, -, -, free⟩ - uncalled
    apply first.after
    apply over_of_free (uncalled _ first.mem first.session)
    rw [isRunning_congr first.session]
    apply free

/-- The window of a waiter is given up, for the first time since the submit. -/
theorem Lot.leave (told : Told c ended log m) (logged : ∀ b ∈ newer, b ∈ log)
    (spared : Spared k act newer)
    (free : Entries.has m.state.endings act.before.state.submits = false) {due : Nat}
    {waiters : List Nat} {args : α} (stands : Stands m k (.waiting due waiters args))
    (mem : act.before.state.submits ∈ waiters) (joined : ∃ args, act.Joins k args)
    (uncalled : act.Uncalled k m.state.calls) {q : Request σ α}
    (leaves : Act.Leaves { before := m, request := q } k) :
  Lot c ended { m with state := c.apply m.state q } k act
    (newer ++ [{ before := m, request := q }])
  := by
  have gives : GivesUp k act newer { before := m, request := q } := {
    joined := joined
    leaves := leaves
    uncalled := uncalled
    first := by
      intro b member leaves'
      apply spared.kept b member joined leaves'
      intro made called session
      apply uncalled made (told.calls b (logged b member) made called) session }
  obtain ⟨k', rfl, same, -⟩ := leaves
  refine .left ?_ rfl gives ?_
  · rw [List.forall_mem_append, List.forall_mem_singleton]
    use spared.undropped
    rintro ⟨drops, -⟩
    cases drops
  · apply get?_of_free free (endings_apply c m.state (.cancel k'))
    obtain ⟨_, -, -, -, slot⟩ := stands.of_waiting
    rw [Request.ended, slot_congr _ same, slot_of_get? slot]
    apply mem

/-- What becomes of a waiter, after one more request. -/
theorem Lot.ask (reached : Reached c log m) (told : Told c ended log m)
    (logged : ∀ b ∈ newer, b ∈ log) (lot : Lot c ended m k act newer) (q : Request σ α) :
  Lot c ended { m with state := c.apply m.state q } k act
    (newer ++ [{ before := m, request := q }])
  := by
  have sound := sound_of_reached reached
  have parted := parted_of_reached reached
  by_cases has : Entries.has m.state.endings act.before.state.submits = true
  · exact lot.concat q has
  rw [Bool.not_eq_true] at has
  obtain ⟨spared, lot⟩ := lot.of_free has
  have waits : act.before.state.submits ∈ (m.state.slot k).waiters := by
    obtain ⟨_, _, _, stands, mem, -⟩ | ⟨_, _, _, calling, mem, -⟩ := lot
    · rw [waiters_of_stands stands]
      apply mem
    · rw [calling.waiters]
      apply mem
  by_cases drops : q = .drop act.before.state.submits
  · subst drops
    obtain ⟨dropped, ending⟩ := Lot.drop (c := c) parted waits has
    refine .dropped (List.mem_append_right _ (List.mem_singleton_self _)) dropped ?_ ending
    rw [List.forall_mem_append, List.forall_mem_singleton]
    exact ⟨fun b mem drops => absurd drops (spared.undropped b mem), fun _ => rfl⟩
  have undropped : ¬Act.Drops { before := m, request := q } act.before.state.submits :=
    fun dropped => drops dropped.1
  obtain ⟨due, waiters, args, stands, mem, joined, uncalled⟩
    | ⟨call, a, made, calling, mem, first, number, args⟩ := lot
  · by_cases leaves : Act.Leaves { before := m, request := q } k
    · exact Lot.leave told logged spared has stands mem joined uncalled leaves
    · have spared' := spared.concat undropped fun _ leaves' => absurd leaves' leaves
      have free := free_apply (c := c) has (not_mem_ended parted waits drops leaves)
      have uncalled' : act.Uncalled k (c.apply m.state q).calls := by
        rw [(apply_frame c m.state q).2]
        apply uncalled
      by_cases joins : ∃ args, Act.Joins { before := m, request := q } k args
      · obtain ⟨args', joins⟩ := joins
        have waiting := stands_of_joins (c := c) sound joins stands
        exact .waiting spared' free waiting (List.mem_append_left _ mem) joined uncalled'
      · have waiting := stands_of_not_touches (c := c) sound (not_or.mpr ⟨joins, leaves⟩) stands
        exact .waiting spared' free waiting mem joined uncalled'
  · have stays : ¬Act.Leaves { before := m, request := q } k := by
      rintro ⟨_, -, -, pending⟩
      rw [calling.stands.isPending] at pending
      cases pending
    have spared' := spared.concat undropped fun _ leaves => absurd leaves stays
    have free := free_apply (c := c) has (not_mem_ended parted waits drops stays)
    have runs := calling_ask (c := c) sound q calling
    exact .calling spared' free runs (List.mem_append_left _ mem) (first.onward (onward_ask c m q))
      number args

/-- The waiter of a new submit waits for its window to close, or for the end of the call that
runs. -/
theorem lot_of_submit (reached : Reached c log m) (ended : Nat → Nat) (k : σ) (args : α) :
  Lot c ended { m with state := c.apply m.state (.submit k args) } k
    { before := m, request := .submit k args } []
  := by
  have sound := sound_of_reached reached
  have calls := (apply_frame c m.state (.submit k args)).2
  have spared : Spared k { before := m, request := .submit k args } [] := ⟨nofun, nofun⟩
  have free : Entries.has (c.apply m.state (.submit k args)).endings m.state.submits = false := by
    apply free_apply _ List.not_mem_nil
    by_contra has
    rw [Bool.not_eq_false] at has
    apply Nat.lt_irrefl _ ((parted_of_reached reached).ended _ has)
  cases running : m.state.isRunning k with
  | true =>
    obtain ⟨made, waiters, a, runs⟩ := runs_of_reached reached k running
    have first : Act.First { before := m, request := .submit k args } k m.state.calls made := {
      mem := runs.mem
      session := runs.session
      after := not_over_of_calling runs.calling runs.session rfl
      first := by
        intro other mem session after
        -- Only the call that runs is not over.
        apply Nat.le_of_eq
        by_contra number
        apply after
        use mem
        rw [slot_congr _ session, slot_of_get? runs.calling.slot]
        rintro _ ⟨⟩
        apply number }
    refine .calling spared free (calling_ask sound _ runs.calling) ?_
      (first.onward (onward_ask c m _)) rfl rfl
    simp [Request.newcomers]
  | false =>
    obtain ⟨p, stands⟩ := phases_of_reached reached k
    have joins : Act.Joins { before := m, request := .submit k args } k args :=
      ⟨k, rfl, BEq.rfl, running⟩
    refine .waiting spared free (stands_of_joins sound joins stands) ?_ ⟨args, joins⟩ ?_
    · apply List.mem_append_right _ (List.mem_singleton_self _)
    · intro made mem _
      rw [calls] at mem
      apply mem

theorem lots_ask (reached : Reached c log m) (told : Told c ended log m)
    (lots : Lots c ended log m) (q : Request σ α) :
  Lots c ended (log ++ [{ before := m, request := q }])
    { m with state := c.apply m.state q }
  := by
  intro older act newer k args split request
  obtain rfl | ⟨newer, b, rfl⟩ := List.eq_nil_or_concat' newer
  · -- The submit is the request itself.
    obtain ⟨rfl, last⟩ := List.append_inj' split rfl
    cases last
    cases request
    apply lot_of_submit reached
  · -- The submit came before, and the request follows it.
    rw [← List.cons_append, ← List.append_assoc] at split
    obtain ⟨rfl, last⟩ := List.append_inj' split rfl
    cases last
    apply (lots older act newer k args rfl request).ask reached told
    intro b mem
    simp [mem]

/-! ### Every moment -/

theorem lots_of_reached (reached : Reached c log m) :
  ∃ ended : Nat → Nat, Told c ended log m ∧ Lots c ended log m
  := by
  induction reached with
  | start =>
    refine ⟨fun _ => 0, told_start, ?_⟩
    intro older act newer k args split
    simp at split
  | ask q before ih =>
    obtain ⟨ended, told, lots⟩ := ih
    exact ⟨ended, told_ask told q, lots_ask before told lots q⟩
  | @sleep log m time before ih =>
    obtain ⟨ended, told, lots⟩ := ih
    have still (k : σ) : Still m { m with state := m.state.appoint time .wake } k :=
      still_appoint time rfl
    use ended
    constructor
    · exact told_of_quiet told (Nat.le_refl _) rfl fun _ => Iff.rfl
    · exact lots_of_still lots still rfl rfl
  | @jump log s before ih =>
    obtain ⟨ended, told, lots⟩ := ih
    use ended, told_turn before told
    apply lots_of_still lots
    · apply still_turn (sound_of_reached before)
    · apply (turn_waiters c s).2.2
    · apply calls_turn
  | @perform log s a due before ih =>
    obtain ⟨ended, told, lots⟩ := ih
    have effect := effect_of_phases (c := c) (phases_of_reached before)
    obtain ⟨ended', agree, now, told'⟩ := told_perform before told
    obtain ⟨ends, isOver, -⟩ := over_of_effect before List.mem_cons_self effect
    use ended', told'
    apply lots_perform before (told_congr told agree) (lots_congr lots agree) effect now
    exact fun made old => (isOver made).mpr (.inl old)

end ReflexPolicy.Coalescer

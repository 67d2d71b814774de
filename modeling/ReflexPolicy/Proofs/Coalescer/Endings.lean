import ReflexPolicy.Proofs.Coalescer.SingleFlight

/-!
# Waiters and how they end

How a waiter has ended is written down once and stays.  `endings_apply` says which waiters end with
a request, and `Parted` what holds of waiters at every moment: the sessions share none of them, and
none has ended that has not been submitted.
-/

namespace ReflexPolicy.Coalescer

variable {σ α ρ : Type}

/-! ### Endings -/

theorem get?_settleOne (e : Ending ρ) (endings : Entries Nat (Ending ρ)) (w w' : Nat) :
  Entries.get? (State.settleOne e endings w) w' =
    (Entries.get? endings w').or (if w' = w then some e else none)
  := by
  have get?_append : Entries.get? (endings ++ [(w, e)]) w' =
      (Entries.get? endings w').or (if w' = w then some e else none) := by
    induction endings with
    | nil =>
      rw [List.nil_append, Entries.get?, Entries.get?, Option.none_or]
      by_cases same : w' = w
      · simp [same]
      · simp [same, Ne.symm same, Entries.get?]
    | cons first rest ih =>
      rw [List.cons_append, Entries.get?, Entries.get?, ih]
      split <;> rfl
  rw [State.settleOne, Entries.has]
  split
  · rename_i has
    split
    · rename_i same
      rw [same]
      obtain ⟨e', ended⟩ := Option.isSome_iff_exists.mp has
      rw [ended, Option.some_or]
    · rw [Option.or_none]
  · apply get?_append

/-- What has been written down stays, and the rest of the waiters end now. -/
theorem get?_settle (s : State σ α ρ) (waiters : List Nat) (r : Result ρ) (w : Nat) :
  Entries.get? (s.settle waiters r).endings w =
    (Entries.get? s.endings w).or
      (if w ∈ waiters then some { time := s.now, result := r } else none)
  := by
  have folded (endings : Entries Nat (Ending ρ)) :
      Entries.get? (waiters.foldl (State.settleOne { time := s.now, result := r }) endings) w =
        (Entries.get? endings w).or
          (if w ∈ waiters then some { time := s.now, result := r } else none) := by
    induction waiters generalizing endings with
    | nil => rw [List.foldl_nil, if_neg List.not_mem_nil, Option.or_none]
    | cons first rest ih =>
      rw [List.foldl_cons, ih, get?_settleOne, Option.or_assoc]
      by_cases here : w = first <;> simp [here]
  apply folded

theorem has_settle (s : State σ α ρ) (waiters : List Nat) (r : Result ρ) (w : Nat) :
  Entries.has (s.settle waiters r).endings w = true
    ↔ Entries.has s.endings w = true ∨ w ∈ waiters
  := by
  rw [Entries.has, Entries.has, get?_settle]
  by_cases mem : w ∈ waiters <;> simp [mem]

theorem nodup_settle {s : State σ α ρ} (nodup : (Entries.keys s.endings).Nodup)
    (waiters : List Nat) (r : Result ρ) :
  (Entries.keys (s.settle waiters r).endings).Nodup
  := by
  have folded (endings : Entries Nat (Ending ρ)) (nodup : (Entries.keys endings).Nodup) :
      (Entries.keys (waiters.foldl (State.settleOne { time := s.now, result := r })
        endings)).Nodup := by
    induction waiters generalizing endings with
    | nil => exact nodup
    | cons first rest ih =>
      rw [List.foldl_cons]
      apply ih
      rw [State.settleOne]
      split
      · exact nodup
      · rename_i new
        rw [Entries.has_eq_any] at new
        rw [Entries.keys, List.map_append, List.map_singleton, ← List.concat_eq_append]
        apply List.Nodup.concat _ nodup
        intro mem
        apply new
        rw [List.any_eq_true]
        exact ⟨first, mem, BEq.rfl⟩
  apply folded _ nodup

theorem mem_keys_endings {s : State σ α ρ} {w : Nat} :
  w ∈ Entries.keys s.endings ↔ Entries.has s.endings w = true
  := by simp [Entries.has_eq_any]

theorem endings_drop (s : State σ α ρ) (w : Nat) :
  (s.drop w).endings = (s.settle (if w < s.submits then [w] else []) .cancelled).endings
  := by
  rw [State.drop, State.isWaiting]
  by_cases submitted : w < s.submits
  · by_cases ended : Entries.has s.endings w = true
    · simp only [submitted, State.settle, if_true, List.foldl_cons, List.foldl_nil,
        State.settleOne, ended, ite_self]
    · simp [submitted, ended]
  · simp [submitted, State.settle]

theorem jump_waiters (c : Coalescer α ρ) (s : State σ α ρ) :
  (c.jump s).1.submits = s.submits ∧ (c.jump s).1.endings = s.endings
  := by
  rw [jump]
  split <;> exact ⟨rfl, rfl⟩

/-! ### Requests -/

/-- The request is a submit, so that there is a new waiter. -/
def Request.submits : Request σ α → Bool
  | .submit _ _ => true
  | .refused _ => true
  | _ => false

theorem Request.submit_or_refused {q : Request σ α} (submits : q.submits = true) :
  (∃ k args, q = .submit k args) ∨ ∃ cause, q = .refused cause
  := by
  cases q with
  | submit k args => exact .inl ⟨k, args, rfl⟩
  | refused cause => exact .inr ⟨cause, rfl⟩
  | _ => cases submits

/-- What the waiters get that end with a request. -/
def Request.verdict : Request σ α → Result ρ
  | .refused cause => .refused cause
  | _ => .cancelled

/-- The new waiter, if the request is a submit. -/
def Act.waiter? (act : Act σ α ρ) : Option Nat :=
  if act.request.submits then some act.before.state.submits else none

theorem submits_of_waiter? {act : Act σ α ρ} {w : Nat} (waiter : act.waiter? = some w) :
  act.request.submits = true ∧ act.before.state.submits = w
  := by
  rw [Act.waiter?] at waiter
  split at waiter
  · rename_i submits
    exact ⟨submits, Option.some.inj waiter⟩
  · cases waiter

variable [BEq σ] {c : Coalescer α ρ} {s : State σ α ρ}

/-- The waiters that end with a request, unless they have ended before. -/
def Request.ended (q : Request σ α) (s : State σ α ρ) : List Nat :=
  match q with
  | .refused _ => [s.submits]
  | .cancel k => (s.slot k).window.getD []
  | .drop w => if w < s.submits then [w] else []
  | _ => []

theorem endings_pass (s : State σ α ρ) :
  s.pass.endings = s.endings
  := by
  obtain ⟨agenda, stale, passed, -⟩ := s.pass_trims
  rw [passed]

theorem slot_pass (s : State σ α ρ) (k : σ) :
  s.pass.slot k = s.slot k
  := by rw [State.slot, State.slot, State.slots_pass]

theorem endings_abandon (s : State σ α ρ) (k : σ) :
  (s.abandon k).endings = (s.settle ((s.slot k).window.getD []) .cancelled).endings
  := by
  simp only [State.abandon, State.putUnlessIdle, State.put]
  split
  · rename_i closed
    rw [closed]
    rfl
  · rename_i waiters open_
    rw [open_]
    split <;> rfl

theorem endings_apply (c : Coalescer α ρ) (s : State σ α ρ) (q : Request σ α) :
  (c.apply s q).endings = (s.settle (q.ended s) q.verdict).endings
  := by
  cases q with
  | submit k args =>
    rw [apply, submit]
    split <;> apply endings_pass
  | refused cause =>
    simp only [apply, State.refuse, State.settle, State.submits_pass, State.now_pass, endings_pass,
      Request.ended, Request.verdict]
  | cancel k => exact (endings_pass _).trans (endings_abandon s k)
  | probe k => rfl
  | drop w => exact (endings_pass _).trans (endings_drop s w)

theorem submits_apply (c : Coalescer α ρ) (s : State σ α ρ) (q : Request σ α) :
  (c.apply s q).submits = s.submits + q.submits.toNat
  := by
  cases q with
  | submit k args =>
    rw [apply, submit, Request.submits, ← s.submits_pass]
    split <;> rfl
  | refused cause =>
    rw [apply, Request.submits, ← s.submits_pass]
    rfl
  | cancel k =>
    apply (State.submits_pass _).trans
    simp only [State.abandon, State.putUnlessIdle, State.settle, State.put]
    split
    · rfl
    · split <;> rfl
  | probe k => rfl
  | drop w =>
    apply (State.submits_pass _).trans
    rw [State.drop]
    split <;> rfl

/-! ### Appointments -/

/-- No waiter comes or ends while the clock jumps. -/
theorem turn_waiters (c : Coalescer α ρ) (s : State σ α ρ) :
  (c.jump s.tidy).1.pass.slots = s.slots ∧ (c.jump s.tidy).1.pass.submits = s.submits
    ∧ (c.jump s.tidy).1.pass.endings = s.endings
  := by
  obtain ⟨submits, endings⟩ := jump_waiters c s.tidy
  rw [State.slots_pass, State.submits_pass, endings_pass, (jump_frame c s.tidy).1, submits, endings]
  exact ⟨s.slots_pass, s.submits_pass, endings_pass s⟩

theorem submits_perform (c : Coalescer α ρ) (s : State σ α ρ) (a : Appointment (Deed σ)) :
  (c.perform s a).submits = s.submits
  := by
  have finished (s : State σ α ρ) (k : σ) : (c.finish s k).submits = s.submits := by
    simp only [finish, State.putUnlessIdle, State.settle, State.put]
    split
    · split <;> rfl
    · rfl
  rw [perform]
  split
  · rfl
  · cases a.deed with
    | close k =>
      simp only [close]
      split
      · split
        · apply finished
        · rfl
      · rfl
    | finish k => apply finished
    | wake => rfl

/-- The waiters are numbered in the order of their submits. -/
theorem waiters_of_reached {log : List (Act σ α ρ)} {m : Moment σ α ρ}
    (reached : Reached c log m) :
  log.filterMap Act.waiter? = List.range m.state.submits
  := by
  induction reached with
  | start => rfl
  | @ask log m q before ih =>
    rw [List.filterMap_append, ih, submits_apply]
    by_cases submits : q.submits = true
    · simp [Act.waiter?, submits, List.range_succ]
    · simp [Act.waiter?, submits]
  | sleep time before ih => apply ih
  | @jump _ s before ih =>
    rw [(turn_waiters c s).2.1]
    apply ih
  | perform before ih =>
    rw [submits_perform]
    apply ih

/-- Every waiter goes back to a submit, unless that was refused. -/
theorem exists_act_of_waiter {log : List (Act σ α ρ)} {m : Moment σ α ρ} (reached : Reached c log m)
    {w : Nat} (less : w < m.state.submits) :
  ∃ act ∈ log, act.before.state.submits = w
    ∧ ((∃ k args, act.request = .submit k args) ∨ ∃ cause, act.request = .refused cause)
  := by
  have waiter := List.mem_range.mpr less
  rw [← waiters_of_reached reached, List.mem_filterMap] at waiter
  obtain ⟨act, mem, waiter⟩ := waiter
  obtain ⟨submits, number⟩ := submits_of_waiter? waiter
  exact ⟨act, mem, number, Request.submit_or_refused submits⟩

/-! ### The waiters of a session -/

/-- The waiters of what a session has under way, be they still there or not. -/
def Slot.waiters (slot : Slot α) : List Nat :=
  slot.window.getD [] ++ (slot.running.map (·.waiters)).getD []

theorem waiters_of_stands {m : Moment σ α ρ} {k : σ} {due : Nat} {waiters : List Nat} {args : α}
    (stands : Stands m k (.waiting due waiters args)) :
  (m.state.slot k).waiters = waiters
  := by
  obtain ⟨_, -, -, -, slot⟩ := stands.of_waiting
  rw [slot_of_get? slot, Slot.waiters]
  apply List.append_nil

theorem Calling.waiters {m : Moment σ α ρ} {k : σ} {call : Running α} {a : Appointment (Deed σ)}
    (calling : Calling m k call a) :
  (m.state.slot k).waiters = call.waiters
  := by
  rw [slot_of_get? calling.slot]
  rfl

/-- The waiters that end when an appointment is done are those of one session. -/
theorem Effect.settles {a : Appointment (Deed σ)} {m m' : Moment σ α ρ}
    (effect : Effect c a m m') :
  ∃ waiters r, m'.state.endings = (m.state.settle waiters r).endings
    ∧ ∀ w ∈ waiters, ∃ k, w ∈ (m.state.slot k).waiters
  := by
  cases effect with
  | nothing _ _ endings => exact ⟨[], .cancelled, endings, by simp⟩
  | called _ _ _ _ _ _ _ _ endings => exact ⟨[], .cancelled, endings, by simp⟩
  | instant _ _ before _ _ _ endings =>
    refine ⟨_, _, endings, fun w mem => ?_⟩
    rw [← waiters_of_stands before] at mem
    exact ⟨_, mem⟩
  | finished _ before _ _ _ endings =>
    refine ⟨_, _, endings, fun w mem => ?_⟩
    rw [← before.waiters] at mem
    exact ⟨_, mem⟩

theorem Slot.waiters_unlessIdle (slot : Slot α) :
  (if slot.isIdle then Slot.idle else slot).waiters = slot.waiters
  := by
  split
  · rename_i idle
    rw [isIdle, Bool.and_eq_true, Option.isNone_iff_eq_none, Option.isNone_iff_eq_none] at idle
    rw [waiters, waiters, idle.1, idle.2]
    rfl
  · rfl

theorem newcomers_submits {q : Request σ α} {k : σ} {number w : Nat}
    (mem : w ∈ q.newcomers k number) :
  w = number ∧ q.submits = true
  := by
  cases q with
  | submit k' args =>
    rw [Request.newcomers] at mem
    split at mem
    · exact ⟨List.mem_singleton.mp mem, rfl⟩
    · cases mem
  | refused cause => cases mem
  | cancel k' => cases mem
  | probe k' => cases mem
  | drop w' => cases mem

/-- Waiters are those of submits; no two sessions share one, and each ends but once. -/
structure Parted (s : State σ α ρ) : Prop where
  submitted : ∀ k, ∀ w ∈ (s.slot k).waiters, w < s.submits
  apart : ∀ k k', ∀ w ∈ (s.slot k).waiters, w ∈ (s.slot k').waiters → (k == k') = true
  ended : ∀ w, Entries.has s.endings w = true → w < s.submits
  nodup : (Entries.keys s.endings).Nodup

theorem parted_start :
  Parted (State.start : State σ α ρ)
  where
    submitted := by
      intro k w mem
      cases mem
    apart := by
      intro k k' w mem
      cases mem
    ended := by
      intro w ended
      cases ended
    nodup := List.nodup_nil

theorem parted_of_frame {s' : State σ α ρ} (parted : Parted s) (slots : s'.slots = s.slots)
    (submits : s'.submits = s.submits) (endings : s'.endings = s.endings) :
  Parted s'
  where
    submitted := by
      intro k
      rw [submits, State.slot, slots]
      apply parted.submitted
    apart := by
      intro k k'
      rw [State.slot, State.slot, slots]
      apply parted.apart
    ended := by
      rw [endings, submits]
      apply parted.ended
    nodup := by
      rw [endings]
      apply parted.nodup

theorem ended_submitted (parted : Parted s) {q : Request σ α} {w : Nat}
    (mem : w ∈ q.ended s) :
  w < s.submits + q.submits.toNat
  := by
  cases q with
  | submit k args => cases mem
  | refused cause =>
    rw [Request.ended, List.mem_singleton] at mem
    rw [mem]
    apply Nat.lt_succ_self
  | cancel k =>
    apply parted.submitted k
    apply List.mem_append_left _ mem
  | probe k => cases mem
  | drop w' =>
    rw [Request.ended] at mem
    split at mem
    · rename_i less
      rw [List.mem_singleton.mp mem]
      apply less
    · cases mem

variable [EquivBEq σ]

theorem slot_put (s : State σ α ρ) (k k' : σ) (slot : Slot α) :
  (s.put k slot).slot k' = if k == k' then slot else s.slot k'
  := by
  rw [State.slot, State.put, Entries.get?_put]
  split <;> rfl

theorem slot_putUnlessIdle (s : State σ α ρ) (k k' : σ) (slot : Slot α) :
  (s.putUnlessIdle k slot).slot k' =
    if k == k' then if slot.isIdle then .idle else slot else s.slot k'
  := by
  rw [State.putUnlessIdle]
  split
  · rw [State.slot, Entries.get?_without]
    split <;> rfl
  · apply slot_put

/-- A session has no new waiters but those who come. -/
theorem mem_waiters_apply {q : Request σ α} {k : σ} {w : Nat}
    (mem : w ∈ ((c.apply s q).slot k).waiters) :
  w ∈ (s.slot k).waiters ∨ w ∈ q.newcomers k s.submits
  := by
  cases q with
  | submit k' args =>
    simp only [apply, submit, slot_pass] at mem
    split at mem
    · rename_i call running
      change w ∈ ((State.put _ k' _).slot k).waiters at mem
      rw [slot_put] at mem
      split at mem
      · rename_i same
        rw [Slot.waiters, slot_pass, slot_congr s same, State.submits_pass] at mem
        rw [slot_congr s same] at running
        simp only [Request.newcomers, same, Slot.waiters, running]
        simpa [or_assoc] using mem
      · left
        rw [slot_pass] at mem
        apply mem
    · rename_i free
      change w ∈ ((State.put _ k' _).slot k).waiters at mem
      rw [slot_put] at mem
      split at mem
      · rename_i same
        rw [Slot.waiters, slot_pass, slot_congr s same, State.submits_pass] at mem
        rw [slot_congr s same] at free
        simp only [Request.newcomers, same, Slot.waiters, free] at mem ⊢
        simpa using mem
      · left
        rw [slot_pass] at mem
        apply mem
  | refused cause =>
    left
    change w ∈ (s.pass.slot k).waiters at mem
    rw [slot_pass] at mem
    apply mem
  | cancel k' =>
    left
    change w ∈ ((s.abandon k').pass.slot k).waiters at mem
    rw [slot_pass, State.abandon] at mem
    split at mem
    · apply mem
    · rename_i waiters open_
      change w ∈ ((State.putUnlessIdle _ k' _).slot k).waiters at mem
      rw [slot_putUnlessIdle] at mem
      split at mem
      · rename_i same
        rw [Slot.waiters_unlessIdle, slot_congr s same] at mem
        apply List.mem_append_right _ mem
      · apply mem
  | probe k' => exact .inl mem
  | drop w' =>
    left
    change w ∈ ((s.drop w').pass.slot k).waiters at mem
    rw [slot_pass, State.slot, (drop_frame s w').2.2.2] at mem
    apply mem

theorem mem_waiters_finish {k k' : σ} {w : Nat} (mem : w ∈ ((c.finish s k').slot k).waiters) :
  w ∈ (s.slot k).waiters
  := by
  rw [finish] at mem
  split at mem
  · rw [slot_putUnlessIdle] at mem
    split at mem
    · rename_i same
      rw [Slot.waiters_unlessIdle, slot_congr s same, Slot.waiters] at mem
      simp only [Option.map_none, Option.getD_none, List.append_nil] at mem
      apply List.mem_append_left _ mem
    · apply mem
  · apply mem

theorem mem_waiters_close {k k' : σ} {w : Nat} (mem : w ∈ ((c.close s k').slot k).waiters) :
  w ∈ (s.slot k).waiters
  := by
  have calling {waiters : List Nat} (open_ : (s.slot k').window = some waiters)
      {call : Running α} (same : call.waiters = waiters)
      (mem : w ∈ ((s.put k' { timer := none, window := none, args := none
                              running := some call }).slot k).waiters) :
      w ∈ (s.slot k).waiters := by
    rw [slot_put] at mem
    split at mem
    · rename_i session
      rw [slot_congr s session] at open_
      rw [Slot.waiters, open_]
      apply List.mem_append_left
      rw [Option.getD_some, ← same]
      apply mem
    · apply mem
  rw [close] at mem
  split at mem
  · rename_i waiters args open_ _
    by_cases instant : c.duration args = 0
    · simp only [instant, if_true] at mem
      have before := mem_waiters_finish mem
      apply calling open_ rfl before
    · simp only [instant, if_false] at mem
      apply calling open_ rfl mem
  · apply mem

theorem mem_waiters_perform {a : Appointment (Deed σ)} {k : σ} {w : Nat}
    (mem : w ∈ ((c.perform s a).slot k).waiters) :
  w ∈ (s.slot k).waiters
  := by
  rw [perform] at mem
  split at mem
  · apply mem
  · split at mem
    · apply mem_waiters_close mem
    · apply mem_waiters_finish mem
    · apply mem

/-! ### Every moment -/

theorem newcomers_apart {q : Request σ α} {k k' : σ} {number w : Nat}
    (mem : w ∈ q.newcomers k number) (mem' : w ∈ q.newcomers k' number) :
  (k == k') = true
  := by
  cases q with
  | submit k'' args =>
    simp only [Request.newcomers] at mem mem'
    split at mem
    · rename_i same
      split at mem'
      · rename_i same'
        exact BEq.trans (BEq.symm same) same'
      · cases mem'
    · cases mem
  | refused cause => cases mem
  | cancel k'' => cases mem
  | probe k'' => cases mem
  | drop w' => cases mem

theorem parted_ask (parted : Parted s) (q : Request σ α) :
  Parted (c.apply s q)
  where
    submitted := by
      intro k w mem
      rw [submits_apply]
      obtain mem | mem := mem_waiters_apply mem
      · apply Nat.lt_of_lt_of_le (parted.submitted k w mem)
        apply Nat.le_add_right
      · obtain ⟨rfl, submits⟩ := newcomers_submits mem
        rw [submits]
        apply Nat.lt_succ_self
    apart := by
      intro k k' w mem mem'
      -- A waiter that comes is not one of those that are there.
      obtain mem | mem := mem_waiters_apply mem
      · obtain mem' | mem' := mem_waiters_apply mem'
        · apply parted.apart k k' w mem mem'
        · have less := parted.submitted k w mem
          rw [(newcomers_submits mem').1] at less
          apply absurd less (Nat.lt_irrefl _)
      · obtain mem' | mem' := mem_waiters_apply mem'
        · have less := parted.submitted k' w mem'
          rw [(newcomers_submits mem).1] at less
          apply absurd less (Nat.lt_irrefl _)
        · apply newcomers_apart mem mem'
    ended := by
      intro w ended
      rw [endings_apply, has_settle] at ended
      rw [submits_apply]
      obtain ended | mem := ended
      · apply Nat.lt_of_lt_of_le (parted.ended w ended)
        apply Nat.le_add_right
      · apply ended_submitted parted mem
    nodup := by
      rw [endings_apply]
      apply nodup_settle parted.nodup

theorem parted_of_reached {log : List (Act σ α ρ)} {m : Moment σ α ρ}
    (reached : Reached c log m) :
  Parted m.state
  := by
  induction reached with
  | start => apply parted_start
  | ask q _ ih => apply parted_ask ih
  | sleep time _ ih => apply parted_of_frame ih <;> rfl
  | @jump _ s _ ih =>
    obtain ⟨slots, submits, endings⟩ := turn_waiters c s
    apply parted_of_frame ih slots submits endings
  | @perform _ s a due before ih =>
    obtain ⟨waiters, r, endings, theirs⟩ :=
      (effect_of_phases (c := c) (phases_of_reached before)).settles
    exact {
      submitted := by
        intro k w mem
        rw [submits_perform]
        apply ih.submitted k w (mem_waiters_perform mem)
      apart := by
        intro k k' w mem mem'
        apply ih.apart k k' w (mem_waiters_perform mem) (mem_waiters_perform mem')
      ended := by
        intro w ended
        rw [endings, has_settle] at ended
        rw [submits_perform]
        obtain ended | mem := ended
        · apply ih.ended w ended
        · obtain ⟨k, mem⟩ := theirs w mem
          apply ih.submitted k w mem
      nodup := by
        rw [endings]
        apply nodup_settle ih.nodup }

end ReflexPolicy.Coalescer

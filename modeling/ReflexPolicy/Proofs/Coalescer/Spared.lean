import ReflexPolicy.Proofs.Coalescer.Without

/-!
# Tracks without some waiters

Two tracks match when they have the same under way, the same calls and the same endings, but that
some waiters are missing in the second one.  They still match after the same requests, if those
about the missing waiters are made of the first one only: `Keeps.after`.

While a window is open all whose waiters are missing, the second track is idle, and a cancel of that
window lets the tracks match again: `Hides.after` and `Hides.cancel`.
-/

namespace ReflexPolicy.Coalescer

variable {σ α ρ : Type}

/-! ### Lists without some entries -/

/-- The first list has an entry for each waiter of a session, up to some number, and the second one
has those of the waiters that do not go. -/
structure Spares {β : Type} (own goes : Nat → Bool) (number : Nat) (l l' : List β) : Prop where
  length : l.length = place own number
  length' : l'.length = place (kept own goes) number
  entries : ∀ w, own w = true → goes w = false → w < number →
    l'[place (kept own goes) w]? = l[place own w]?

namespace Spares

variable {β : Type} {own goes : Nat → Bool} {number w : Nat} {l l' : List β}

theorem nil :
  Spares own goes 0 ([] : List β) []
  := ⟨rfl, rfl, nofun⟩

theorem map (spares : Spares own goes number l l') (f : β → β) :
  Spares own goes number (l.map f) (l'.map f)
  where
    length := by rw [List.length_map, spares.length]
    length' := by rw [List.length_map, spares.length']
    entries := by
      intro w mine stays less
      rw [List.getElem?_map, List.getElem?_map, spares.entries w mine stays less]

/-- The first list may change in the entries of the waiters that go. -/
theorem map_of_kept (spares : Spares own goes number l l') {f : β → β}
    (same : ∀ w, own w = true → goes w = false → w < number →
      l[place own w]?.map f = l[place own w]?) :
  Spares own goes number (l.map f) l'
  where
    length := by rw [List.length_map, spares.length]
    length' := spares.length'
    entries := by
      intro w mine stays less
      rw [List.getElem?_map, same w mine stays less, spares.entries w mine stays less]

/-- A waiter of another session has no entries. -/
theorem other (spares : Spares own goes number l l') (theirs : own number = false) :
  Spares own goes (number + 1) l l'
  where
    length := by
      rw [place_succ, theirs, spares.length]
      rfl
    length' := by
      rw [place_succ, kept, theirs, spares.length']
      rfl
    entries := by
      intro w mine stays less
      apply spares.entries w mine stays
      apply Nat.lt_of_le_of_ne (Nat.le_of_lt_succ less)
      rintro rfl
      rw [theirs] at mine
      cases mine

/-- A waiter that stays has an entry in both lists. -/
theorem append (spares : Spares own goes number l l') (mine : own number = true)
    (stays : goes number = false) (b : β) :
  Spares own goes (number + 1) (l ++ [b]) (l' ++ [b])
  where
    length := by
      rw [place_succ, mine, List.length_append, spares.length]
      rfl
    length' := by
      rw [place_succ, kept_eq_true_iff.mpr ⟨mine, stays⟩, List.length_append, spares.length']
      rfl
    entries := by
      intro w mine' stays' less
      obtain less | rfl := Nat.lt_succ_iff_lt_or_eq.mp less
      · rw [List.getElem?_append_left, List.getElem?_append_left,
          spares.entries w mine' stays' less]
        · rw [spares.length]
          apply place_lt mine' less
        · rw [spares.length']
          apply place_lt (kept_eq_true_iff.mpr ⟨mine', stays'⟩) less
      · rw [← spares.length', ← spares.length, List.getElem?_concat_length,
          List.getElem?_concat_length]

/-- A waiter that goes has an entry in the first list. -/
theorem append_gone (spares : Spares own goes number l l') (mine : own number = true)
    (gone : goes number = true) (b : β) :
  Spares own goes (number + 1) (l ++ [b]) l'
  where
    length := by
      rw [place_succ, mine, List.length_append, spares.length]
      rfl
    length' := by
      rw [place_succ, kept, others, gone, mine, spares.length']
      rfl
    entries := by
      intro w mine' stays less
      obtain less | rfl := Nat.lt_succ_iff_lt_or_eq.mp less
      · rw [List.getElem?_append_left, spares.entries w mine' stays less]
        rw [spares.length]
        apply place_lt mine' less
      · rw [gone] at stays
        cases stays

/-- The entry of a waiter that stays changes in both lists. -/
theorem modify (spares : Spares own goes number l l') (mine : own w = true)
    (stays : goes w = false) (f : β → β) :
  Spares own goes number (l.modify (place own w) f) (l'.modify (place (kept own goes) w) f)
  where
    length := by rw [List.length_modify, spares.length]
    length' := by rw [List.length_modify, spares.length']
    entries := by
      intro w' mine' stays' less
      have kept' := kept_eq_true_iff.mpr ⟨mine', stays'⟩
      rw [List.getElem?_modify, List.getElem?_modify, spares.entries w' mine' stays' less]
      by_cases same : w = w'
      · subst same
        simp only [if_pos]
      · have apart : place own w ≠ place own w' := fun one => same (place_inj mine mine' one)
        have apart' : place (kept own goes) w ≠ place (kept own goes) w' :=
          fun one => same (place_inj (kept_eq_true_iff.mpr ⟨mine, stays⟩) kept' one)
        simp only [if_neg apart, if_neg apart']

/-- The entry of a waiter that goes changes in the first list. -/
theorem modify_gone (spares : Spares own goes number l l') (mine : own w = true)
    (gone : goes w = true) (f : β → β) :
  Spares own goes number (l.modify (place own w) f) l'
  where
    length := by rw [List.length_modify, spares.length]
    length' := spares.length'
    entries := by
      intro w' mine' stays less
      have apart : place own w ≠ place own w' := by
        intro one
        rw [← place_inj mine mine' one, gone] at stays
        cases stays
      rw [List.getElem?_modify_ne _ _ apart, spares.entries w' mine' stays less]

/-- A request of another session changes nothing. -/
theorem elsewhere [BEq σ] {k : σ} {q : Request σ α} (spares : Spares own goes number l l')
    (owns : ∀ k' args, q = .submit k' args → own number = (k' == k))
    (theirs : q.isOf k own number = false) :
  Spares own goes (number + q.submits.toNat) l l'
  := by
  cases q with
  | submit k' args => exact spares.other ((owns k' args rfl).trans theirs)
  | refused cause => exact spares.other theirs
  | _ => exact spares

end Spares

namespace Track

/-! ### Tracks in time -/

/-- What happens depends on what is under way only: some calls are made, and all waiters fare
alike. -/
theorem happen_eq (c : Coalescer α ρ) (time : Nat) (stage : Stage α) :
  ∃ stage' made f, ∀ calls endings, Track.happen c time ⟨stage, calls, endings⟩
    = ⟨stage', calls ++ made, endings.map f⟩
  := by
  have nothing (same : ∀ calls endings, Track.happen c time ⟨stage, calls, endings⟩
      = ⟨stage, calls, endings⟩) :
      ∃ stage' made f, ∀ calls endings, Track.happen c time ⟨stage, calls, endings⟩
        = ⟨stage', calls ++ made, endings.map f⟩ := by
    refine ⟨stage, [], id, ?_⟩
    intro calls endings
    rw [same, List.append_nil, List.map_id]
  cases stage with
  | idle => exact nothing fun _ _ => rfl
  | waiting closes args =>
    by_cases due : closes ≤ time
    · by_cases instant : c.duration args = 0
      · refine ⟨.idle, [(closes, args)],
          fun e => e.or (some { time := closes, result := c.result 0 args }), ?_⟩
        intro calls endings
        rw [happen_waiting rfl due, close, if_pos instant]
        rfl
      · refine ⟨.calling (c.clock.after closes (c.duration args)) args, [(closes, args)], id, ?_⟩
        intro calls endings
        rw [happen_waiting rfl due, close, if_neg instant, List.map_id]
    · apply nothing
      intro calls endings
      simp [happen, closeBy, due]
  | calling ends args =>
    by_cases due : ends ≤ time
    · refine ⟨.idle, [], fun e => e.or (some { time := ends, result := c.result 0 args }), ?_⟩
      intro calls endings
      rw [happen_calling rfl due, List.append_nil]
      rfl
    · apply nothing
      intro calls endings
      simp [happen, finishBy, due]

theorem advance_eq (c : Coalescer α ρ) (time : Nat) (stage : Stage α) :
  ∃ stage' made f, ∀ calls endings, Track.advance c time ⟨stage, calls, endings⟩
    = ⟨stage', calls ++ made, endings.map f⟩
  := by
  obtain ⟨stage', made, f, once⟩ := happen_eq c time stage
  obtain ⟨stage'', made', f', again⟩ := happen_eq c time stage'
  refine ⟨stage'', made ++ made', f' ∘ f, ?_⟩
  intro calls endings
  rw [advance_eq_happen, once, again, List.append_assoc, List.map_map]

/-- A window that is open afterwards was open, and nothing has happened. -/
theorem advance_of_isWaiting {c : Coalescer α ρ} {time : Nat} {v : Track α ρ}
    (waits : (v.advance c time).stage.isWaiting = true) :
  v.advance c time = v
  := by
  obtain ⟨stage, calls, endings⟩ := v
  cases stage with
  | idle => rfl
  | waiting closes args =>
    by_cases due : closes ≤ time
    · rw [← advance_close rfl due, close] at waits
      split at waits
      · cases waits
      · rename_i lasting
        by_cases due' : c.clock.after closes (c.duration args) ≤ time
        · rw [← advance_finish rfl due'] at waits
          cases waits
        · simp [advance, closeBy, finishBy, due', Stage.isWaiting] at waits
    · simp [advance, closeBy, finishBy, due]
  | calling ends args =>
    by_cases due' : ends ≤ time
    · rw [← advance_finish rfl due'] at waits
      cases waits
    · simp [advance, closeBy, finishBy, due']

theorem advance_of_idle {c : Coalescer α ρ} {time : Nat} {v : Track α ρ} (idle : v.stage = .idle) :
  v.advance c time = v
  := by
  apply advance_of_ahead
  · intro closes args stage
    rw [idle] at stage
    cases stage
  · intro ends args stage
    rw [idle] at stage
    cases stage

theorem after_append (c : Coalescer α ρ) (v : Track α ρ) (first second : List (Timed σ α)) :
  v.after c (first ++ second) = (v.after c first).after c second
  := List.foldl_append

/-! ### Tracks that match -/

/-- Two tracks have the same under way and the same calls, and some waiters of the first one are
missing in the second one. -/
structure Matches (own goes : Nat → Bool) (number : Nat) (v u : Track α ρ) : Prop where
  stage : u.stage = v.stage
  calls : u.calls = v.calls
  endings : Spares own goes number v.endings u.endings

variable {c : Coalescer α ρ} {own goes : Nat → Bool} {number time : Nat} {v u : Track α ρ}

theorem matches_start (own goes : Nat → Bool) :
  Matches own goes 0 (start : Track α ρ) start
  := ⟨rfl, rfl, .nil⟩

theorem Matches.advance (same : Matches own goes number v u) (c : Coalescer α ρ) (time : Nat) :
  Matches own goes number (v.advance c time) (u.advance c time)
  := by
  obtain ⟨_, _, endings⟩ := v
  obtain ⟨stage, calls, endings'⟩ := u
  obtain ⟨rfl, rfl, spares⟩ := same
  obtain ⟨stage', made, f, frame⟩ := advance_eq c time stage
  rw [frame, frame]
  exact ⟨rfl, rfl, spares.map f⟩

theorem Matches.clear (same : Matches own goes number v u) (clear : v.Clear c time) :
  u.Clear c time
  where
    window := by
      rw [same.stage]
      apply clear.window
    call := by
      rw [same.stage]
      apply clear.call
    calls := by
      rw [same.calls]
      apply clear.calls

/-- A drop of a waiter that is missing is made of the first track only. -/
theorem Matches.drop (same : Matches own goes number v u) {w : Nat} (mine : own w = true)
    (gone : goes w = true) (time : Nat) :
  Matches own goes number (v.ask c time (.drop (place own w) : Request σ α)) u
  := ⟨same.stage, same.calls, same.endings.modify_gone mine gone _⟩

/-- Two tracks match at every time from some time on. -/
def Keeps (c : Coalescer α ρ) (own goes : Nat → Bool) (number time : Nat) (v u : Track α ρ) :
    Prop :=
  ∀ t, time ≤ t → Matches own goes number (v.advance c t) (u.advance c t)

theorem keeps_start (c : Coalescer α ρ) (own goes : Nat → Bool) (time : Nat) :
  Keeps c own goes 0 time (start : Track α ρ) start
  := fun t _ => (matches_start own goes).advance c t

theorem Keeps.later (keeps : Keeps c own goes number time v u) {time' : Nat} (le : time ≤ time') :
  Keeps c own goes number time' v u
  := fun t later => keeps t (Nat.le_trans le later)

/-- A cancel that finds no window changes nothing. -/
theorem Keeps.cancel (keeps : Keeps c own goes number time v u)
    (closed : (v.advance c time).stage.isWaiting = false) (k : σ) :
  Keeps c own goes number time ((v.advance c time).ask c time (.cancel k : Request σ α)) u
  := by
  have same : (v.advance c time).ask c time (.cancel k : Request σ α) = v.advance c time := by
    rw [Track.ask]
    split
    · rename_i stage
      rw [stage] at closed
      cases closed
    · rfl
  intro t later
  rw [same, advance_advance later]
  apply keeps t later

/-! ### Windows that are missing -/

/-- A window stays open while some requests come, and none of them is a cancel. -/
def StaysOpen (c : Coalescer α ρ) (v : Track α ρ) (requests : List (Timed σ α)) : Prop :=
  ∀ older r newer, requests = older ++ r :: newer →
    ((v.after c older).advance c r.time).stage.isWaiting = true ∧ ∀ k, r.request ≠ .cancel k

/-- A window is open whose waiters are missing in the second track, for which nothing is under way
then. -/
structure Hides (own goes : Nat → Bool) (number : Nat) (v u : Track α ρ) : Prop where
  waits : v.stage.isWaiting = true
  idle : u.stage = .idle
  calls : u.calls = v.calls
  endings : Spares own goes number v.endings u.endings

theorem StaysOpen.of_append {first second : List (Timed σ α)}
    (open_ : StaysOpen c v (first ++ second)) :
  StaysOpen c v first ∧ StaysOpen c (v.after c first) second
  := by
  constructor
  · intro older r newer split
    apply open_ older r (newer ++ second)
    rw [split, List.append_assoc]
    rfl
  · intro older r newer split
    rw [← after_append]
    apply open_ (first ++ older) r newer
    rw [split, List.append_assoc]

/-- A window opens whose waiters are missing in the second track. -/
theorem Hides.opened (same : Matches own goes number (v.advance c time) (u.advance c time))
    (idle : (v.advance c time).stage = .idle) (mine : own number = true)
    (gone : goes number = true) (k : σ) (args : α) :
  Hides own goes (number + 1) ((v.advance c time).ask c time (.submit k args)) (u.advance c time)
  := by
  obtain ⟨stage, calls, spares⟩ := same
  rw [idle] at stage
  simp only [Track.ask, idle]
  exact ⟨rfl, stage, calls, spares.append_gone mine gone none⟩

/-- A cancel gives up the window, and nothing is left of it but the endings of its waiters. -/
theorem Hides.cancel (hides : Hides own goes number v (u.advance c time))
    (waits : (v.advance c time).stage.isWaiting = true)
    (ended : ∀ w, own w = true → goes w = false → w < number →
      ∃ e, v.endings[place own w]? = some (some e)) (k : σ) :
  Keeps c own goes number time ((v.advance c time).ask c time (.cancel k : Request σ α)) u
  := by
  rw [advance_of_isWaiting waits]
  have given : v.ask c time (.cancel k : Request σ α) = v.settle time .cancelled := by
    obtain ⟨stage, calls, endings⟩ := v
    cases stage with
    | waiting => rfl
    | _ => cases hides.waits
  rw [given]
  intro t later
  have still : u.advance c t = u.advance c time := by
    rw [← advance_advance later, advance_of_idle hides.idle]
  rw [still, advance_of_idle rfl]
  refine ⟨hides.idle, hides.calls, hides.endings.map_of_kept ?_⟩
  intro w mine stays less
  obtain ⟨e, ends⟩ := ended w mine stays less
  rw [ends]
  rfl

/-! ### Requests -/

variable [BEq σ] {k : σ} {q : Request σ α}

/-- A request is made of both tracks. -/
theorem Matches.ask (same : Matches own goes number v u)
    (owns : ∀ k' args, q = .submit k' args → own number = (k' == k))
    (mine : q.isOf k own number = true) (stays : q.isAbout goes number = false) (time : Nat) :
  Matches own goes (number + q.submits.toNat) (v.ask c time (q.renumbered own))
    (u.ask c time (q.renumbered (kept own goes)))
  := by
  obtain ⟨_, _, endings⟩ := v
  obtain ⟨stage, calls, endings'⟩ := u
  obtain ⟨rfl, rfl, spares⟩ := same
  cases q with
  | submit k' args =>
    have spares' := spares.append ((owns k' args rfl).trans mine) stays none
    cases stage <;> exact ⟨rfl, rfl, spares'⟩
  | refused cause => exact ⟨rfl, rfl, spares.append mine stays _⟩
  | cancel k' =>
    cases stage with
    | waiting closes args => exact ⟨rfl, rfl, spares.map _⟩
    | _ => exact ⟨rfl, rfl, spares⟩
  | probe k' => exact ⟨rfl, rfl, spares⟩
  | drop w => exact ⟨rfl, rfl, spares.modify mine stays _⟩

/-- The next request is made of the first track if it is one of the session, and of the second one
unless it is about a waiter that is missing. -/
theorem Keeps.step (keeps : Keeps c own goes number time v u) {r : Timed σ α}
    (later : time ≤ r.time) (owns : ∀ k' args, r.request = .submit k' args → own number = (k' == k))
    (stays : r.request.submits = true → own number = true → goes number = false) :
  Keeps c own goes (number + r.request.submits.toNat) r.time
      (v.after c (ownOf k own [(number, r)])) (u.after c (sparedOf k own goes [(number, r)]))
    ∧ (v.Apart c (ownOf k own [(number, r)]) → u.Apart c (sparedOf k own goes [(number, r)]))
  := by
  have same := keeps r.time later
  cases isOf : r.request.isOf k own number with
  | false =>
    rw [ownOf_theirs isOf, sparedOf_theirs isOf]
    refine ⟨fun t le => ?_, fun _ => trivial⟩
    obtain ⟨stage, calls, spares⟩ := keeps t (Nat.le_trans later le)
    exact ⟨stage, calls, spares.elsewhere owns isOf⟩
  | true =>
    cases about : r.request.isAbout goes number with
    | false =>
      rw [ownOf_mine isOf, sparedOf_mine isOf about]
      constructor
      · intro t _
        apply (same.ask owns isOf about r.time).advance
      · exact fun apart => ⟨same.clear apart.1, trivial⟩
    | true =>
      obtain ⟨w, request, mine, gone⟩ := drops_of_isAbout owns stays isOf about
      rw [ownOf_mine isOf, sparedOf_gone about, request]
      constructor
      · intro t le
        have dropped : Matches own goes number
            ((v.advance c r.time).ask c r.time (.drop (place own w) : Request σ α))
            (u.advance c r.time) := same.drop mine gone r.time
        have onward := dropped.advance c t
        rw [advance_advance le] at onward
        exact onward
      · exact fun _ => trivial

/-- The tracks match after the same requests, if none of the submits is missing. -/
theorem Keeps.after {requests : List (Timed σ α)} (keeps : Keeps c own goes number time v u)
    (later : ∀ r ∈ requests, time ≤ r.time)
    (sorted : requests.Pairwise fun r r' => r.time ≤ r'.time)
    (owns : ∀ e ∈ numbered number requests, ∀ k' args, e.2.request = .submit k' args →
      own e.1 = (k' == k))
    (stay : ∀ e ∈ numbered number requests, e.2.request.submits = true → own e.1 = true →
      goes e.1 = false) {last : Nat} (le : time ≤ last) (ended : ∀ r ∈ requests, r.time ≤ last) :
  Keeps c own goes (following number requests) last
      (v.after c (ownOf k own (numbered number requests)))
      (u.after c (sparedOf k own goes (numbered number requests)))
    ∧ (v.Apart c (ownOf k own (numbered number requests)) →
      u.Apart c (sparedOf k own goes (numbered number requests)))
  := by
  induction requests generalizing number time v u with
  | nil => exact ⟨keeps.later le, fun _ => trivial⟩
  | cons r rest ih =>
    rw [List.forall_mem_cons] at later ended
    rw [numbered, List.forall_mem_cons] at owns stay
    rw [List.pairwise_cons] at sorted
    obtain ⟨next, apart⟩ := keeps.step later.1 owns.1 stay.1
    obtain ⟨following, apart'⟩ :=
      ih next sorted.1 sorted.2 owns.2 stay.2 ended.1 ended.2
    have split : (number, r) :: numbered (number + r.request.submits.toNat) rest
        = [(number, r)] ++ numbered (number + r.request.submits.toNat) rest := rfl
    rw [numbered, split, ownOf_append, sparedOf_append, after_append,
      after_append, apart_append, apart_append, following_cons]
    exact ⟨following, fun both => ⟨apart both.1, apart' both.2⟩⟩

/-- A request about a waiter that is missing is made of the first track only. -/
theorem Hides.askFirst (hides : Hides own goes number v u)
    (owns : ∀ k' args, q = .submit k' args → own number = (k' == k))
    (mine : q.isOf k own number = true) (gone : q.isAbout goes number = true) (time : Nat) :
  Hides own goes (number + q.submits.toNat) (v.ask c time (q.renumbered own)) u
  := by
  obtain ⟨stage, calls, endings⟩ := v
  obtain ⟨waits, idle, same, spares⟩ := hides
  cases q with
  | submit k' args =>
    have spares' := spares.append_gone ((owns k' args rfl).trans mine) gone none
    cases stage with
    | waiting => exact ⟨rfl, idle, same, spares'⟩
    | _ => cases waits
  | refused cause => exact ⟨waits, idle, same, spares.append_gone mine gone _⟩
  | cancel k' => cases gone
  | probe k' => cases gone
  | drop w => exact ⟨waits, idle, same, spares.modify_gone mine gone _⟩

/-- Any other request but a cancel is made of both tracks. -/
theorem Hides.ask (hides : Hides own goes number v u) (mine : q.isOf k own number = true)
    (stays : q.isAbout goes number = false) (old : q.submits = false)
    (uncancelled : ∀ k', q ≠ .cancel k') (time : Nat) :
  Hides own goes number (v.ask c time (q.renumbered own))
    (u.ask c time (q.renumbered (kept own goes)))
  := by
  obtain ⟨waits, idle, same, spares⟩ := hides
  cases q with
  | submit k' args => cases old
  | refused cause => cases old
  | cancel k' => exact (uncancelled k' rfl).elim
  | probe k' => exact ⟨waits, idle, same, spares⟩
  | drop w => exact ⟨waits, idle, same, spares.modify mine stays _⟩

/-- The window stays open, and the second track idle, when the next request comes. -/
theorem Hides.step {r : Timed σ α} (hides : Hides own goes number v (u.advance c time))
    (later : time ≤ r.time) (owns : ∀ k' args, r.request = .submit k' args → own number = (k' == k))
    (gone : r.request.submits = true → own number = true → goes number = true)
    (open_ : StaysOpen c v (ownOf k own [(number, r)])) :
  Hides own goes (number + r.request.submits.toNat) (v.after c (ownOf k own [(number, r)]))
      ((u.after c (sparedOf k own goes [(number, r)])).advance c r.time)
    ∧ (v.Apart c (ownOf k own [(number, r)]) → u.Apart c (sparedOf k own goes [(number, r)]))
  := by
  have still : u.advance c r.time = u.advance c time := by
    rw [← advance_advance later, advance_of_idle hides.idle]
  rw [← still] at hides
  cases isOf : r.request.isOf k own number with
  | false =>
    obtain ⟨waits, idle, calls, spares⟩ := hides
    rw [ownOf_theirs isOf, sparedOf_theirs isOf]
    exact ⟨⟨waits, idle, calls, spares.elsewhere owns isOf⟩, fun _ => trivial⟩
  | true =>
    rw [ownOf_mine isOf] at open_ ⊢
    obtain ⟨waits, uncancelled⟩ := open_ [] _ [] rfl
    have steady : v.advance c r.time = v := advance_of_isWaiting waits
    cases about : r.request.isAbout goes number with
    | true =>
      rw [sparedOf_gone about]
      refine ⟨?_, fun _ => trivial⟩
      have asked := hides.askFirst (c := c) owns isOf about r.time
      rw [← steady] at asked
      exact asked
    | false =>
      have old : r.request.submits = false := by
        by_contra submits
        rw [Bool.not_eq_false] at submits
        rw [isAbout_of_submits submits, gone submits (own_of_submits owns isOf submits)] at about
        cases about
      have asked := hides.ask (c := c) isOf about old
        (fun k' cancels => uncancelled k' (by rw [cancels]; rfl)) r.time
      rw [sparedOf_mine isOf about, old]
      rw [← steady] at asked
      constructor
      · rw [← advance_of_idle asked.idle] at asked
        exact asked
      · intro apart
        refine ⟨⟨?_, ?_, ?_⟩, trivial⟩
        · rw [hides.idle]
          exact nofun
        · rw [hides.idle]
          exact nofun
        · have clear := apart.1.calls
          rw [steady, ← hides.calls] at clear
          exact clear

/-- While the window is open, all its submits are missing in the second track. -/
theorem Hides.after {requests : List (Timed σ α)}
    (hides : Hides own goes number v (u.advance c time))
    (later : ∀ r ∈ requests, time ≤ r.time)
    (sorted : requests.Pairwise fun r r' => r.time ≤ r'.time)
    (owns : ∀ e ∈ numbered number requests, ∀ k' args, e.2.request = .submit k' args →
      own e.1 = (k' == k))
    (gone : ∀ e ∈ numbered number requests, e.2.request.submits = true → own e.1 = true →
      goes e.1 = true)
    (open_ : StaysOpen c v (ownOf k own (numbered number requests)))
    {last : Nat} (le : time ≤ last) (ended : ∀ r ∈ requests, r.time ≤ last) :
  Hides own goes (following number requests) (v.after c (ownOf k own (numbered number requests)))
      ((u.after c (sparedOf k own goes (numbered number requests))).advance c last)
    ∧ (v.Apart c (ownOf k own (numbered number requests)) →
      u.Apart c (sparedOf k own goes (numbered number requests)))
  := by
  induction requests generalizing number time v u with
  | nil =>
    refine ⟨?_, fun _ => trivial⟩
    have idle : (u.advance c time).advance c last = u.advance c time := advance_of_idle hides.idle
    rw [← idle, advance_advance le] at hides
    exact hides
  | cons r rest ih =>
    rw [List.forall_mem_cons] at later ended
    rw [numbered, List.forall_mem_cons] at owns gone
    rw [List.pairwise_cons] at sorted
    have split : (number, r) :: numbered (number + r.request.submits.toNat) rest
        = [(number, r)] ++ numbered (number + r.request.submits.toNat) rest := rfl
    rw [numbered, split, ownOf_append] at open_
    obtain ⟨first, second⟩ := open_.of_append
    obtain ⟨next, apart⟩ := hides.step later.1 owns.1 gone.1 first
    obtain ⟨following, apart'⟩ :=
      ih next sorted.1 sorted.2 owns.2 gone.2 second ended.1 ended.2
    rw [numbered, split, ownOf_append, sparedOf_append, after_append, after_append, apart_append,
      apart_append, following_cons]
    exact ⟨following, fun both => ⟨apart both.1, apart' both.2⟩⟩

/-- The tracks match until a window opens all whose waiters are missing, and afterwards the second
one is idle as long as the window stays open. -/
theorem hides_of_submit {old new : List (Timed σ α)} {r : Timed σ α}
    (sorted : (old ++ r :: new).Pairwise fun r r' => r.time ≤ r'.time)
    (owns : ∀ e ∈ numbered 0 (old ++ r :: new), ∀ k' args, e.2.request = .submit k' args →
      own e.1 = (k' == k))
    (submit : r.request.isSubmitOf k = true)
    (stay : ∀ e ∈ numbered 0 old, e.2.request.submits = true → own e.1 = true → goes e.1 = false)
    (gone : ∀ e ∈ numbered (following 0 old) (r :: new), e.2.request.submits = true →
      own e.1 = true → goes e.1 = true)
    (idle : ((start.after c (ownOf k own (numbered 0 old))).advance c r.time).stage = .idle)
    (open_ : StaysOpen c (start.after c (ownOf k own (numbered 0 old ++ [(following 0 old, r)])))
      (ownOf k own (numbered (following 0 old + r.request.submits.toNat) new)))
    {last : Nat} (ended : ∀ x ∈ old ++ r :: new, x.time ≤ last) :
  Hides own goes (following 0 (old ++ r :: new))
      (start.after c (ownOf k own (numbered 0 (old ++ r :: new))))
      ((start.after c (sparedOf k own goes (numbered 0 (old ++ r :: new)))).advance c last)
    ∧ (start.Apart c (ownOf k own (numbered 0 (old ++ r :: new))) →
      start.Apart c (sparedOf k own goes (numbered 0 (old ++ r :: new))))
  := by
  obtain ⟨sorted_old, sorted_new, before⟩ := List.pairwise_append.mp sorted
  obtain ⟨later, sorted_new⟩ := List.pairwise_cons.mp sorted_new
  rw [numbered_append, List.forall_mem_append, numbered, List.forall_mem_cons] at owns
  rw [numbered, List.forall_mem_cons] at gone
  rw [List.forall_mem_append, List.forall_mem_cons] at ended
  have submits := Request.submits_of_isSubmitOf submit
  have mine : r.request.isOf k own (following 0 old) = true := isOf_of_isSubmitOf submit _
  have mine' := own_of_submits owns.2.1 mine submits
  have about : r.request.isAbout goes (following 0 old) = true := by
    rw [isAbout_of_submits submits]
    exact gone.1 submits mine'
  -- Until the window opens, nothing is missing.
  obtain ⟨keeps, apart⟩ := (keeps_start c own goes 0).after (fun _ _ => Nat.zero_le _) sorted_old
    owns.1 stay (Nat.zero_le r.time) fun x mem => before x mem r List.mem_cons_self
  have first : Hides own goes (following 0 old + r.request.submits.toNat)
      (start.after c (ownOf k own (numbered 0 old ++ [(following 0 old, r)])))
      ((start.after c (sparedOf k own goes (numbered 0 old))).advance c r.time) := by
    rw [ownOf_append, ownOf_mine mine, after_append, submits]
    cases request : r.request with
    | submit k' args =>
      exact Hides.opened (keeps r.time (Nat.le_refl _)) idle mine' (gone.1 submits mine') k' args
    | _ =>
      rw [request] at submit
      cases submit
  obtain ⟨hides, apart'⟩ := first.after later sorted_new owns.2.2 gone.2 open_ ended.2.1 ended.2.2
  have parts : numbered 0 (old ++ r :: new) = (numbered 0 old ++ [(following 0 old, r)])
      ++ numbered (following 0 old + r.request.submits.toNat) new := by
    rw [numbered_append, numbered, List.append_assoc]
    rfl
  have missing : sparedOf k own goes (numbered 0 old ++ [(following 0 old, r)])
      = sparedOf k own goes (numbered 0 old) := by
    rw [sparedOf_append, sparedOf_gone about, List.append_nil]
  rw [parts, ownOf_append, sparedOf_append, missing, after_append, after_append, apart_append,
    apart_append, following_append, following_cons]
  refine ⟨hides, fun both => ⟨apart ?_, apart' both.2⟩⟩
  rw [ownOf_append, apart_append] at both
  exact both.1.1

end Track

end ReflexPolicy.Coalescer

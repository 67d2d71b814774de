import ReflexPolicy.Proofs.Coalescer.Orderly

/-!
# Cancels

The track of a session is compared with the one without the window that a cancel gives up.  Until
the window opens they match, while it is open the second one is idle, and from the cancel on they
match again: `Orderly.hides_opened` and `Orderly.keeps_cancel`.  A cancel that finds no window, and
one of another session, makes no difference.
-/

namespace ReflexPolicy.Coalescer

variable {σ α ρ : Type} [BEq σ] [EquivBEq σ] {c : Coalescer α ρ} {goes : Nat → Bool}
  {Comes : Nat → Prop} {earlier later : List (Timed σ α)} {time : Nat} {k : σ}

/-! ### Tracks with and without a window -/

/-- The tracks of other sessions match from the start. -/
theorem Goers.keeps_elsewhere (goers : Goers k goes earlier later) {k' : σ}
    (other : (k' == k) = false) (sorted : (earlier ++ later).Pairwise fun r r' => r.time ≤ r'.time)
    {first second : List (Timed σ α)} (split : earlier ++ later = first ++ second) {last : Nat}
    (ended : ∀ r ∈ first, r.time ≤ last) (c : Coalescer α ρ) :
  Track.Keeps c (submitted k' (earlier ++ later)) goes (following 0 first) last
      (Track.start.after c
        (ownOf k' (submitted k' (earlier ++ later)) (numbered 0 first)))
      (Track.start.after c
        (sparedOf k' (submitted k' (earlier ++ later)) goes (numbered 0 first)))
    ∧ (Track.start.Apart c
        (ownOf k' (submitted k' (earlier ++ later)) (numbered 0 first)) →
      Track.start.Apart c
        (sparedOf k' (submitted k' (earlier ++ later)) goes (numbered 0 first)))
  := by
  have owns := owns_submitted k' (earlier ++ later)
  have numbers : numbered 0 (earlier ++ later)
      = numbered 0 first ++ numbered (following 0 first) second := by
    rw [split, numbered_append]
  rw [Owns, numbers, List.forall_mem_append] at owns
  rw [split, List.pairwise_append] at sorted
  apply (Track.keeps_start c _ goes 0).after (fun _ _ => Nat.zero_le _) sorted.1 owns.1 _
    (Nat.zero_le _) ended
  exact fun e _ _ mine => goers.elsewhere other mine

/-- While a window is open, the track without it is idle, from the submit that opened it to the
cancel. -/
theorem Orderly.hides_opened
    (orderly : Orderly c Comes (earlier ++ { time := time, request := .cancel k } :: later))
    (apart : Track.start.Apart c (ownOf k (submitted k (earlier ++ later))
      (numbered 0 (earlier ++ { time := time, request := .cancel k } :: later))))
    {before between : List (Act σ α ρ)} {first : Act σ α ρ} {waiters : List Nat}
    (split : c.acts .start earlier = before ++ first :: between)
    (opened : Opened k first between waiters)
    (inWindow : ∀ w, goes w = true ↔ w ∈ waiters) :
  Track.Hides (submitted k (earlier ++ later)) goes (following 0 earlier)
      (Track.start.after c (ownOf k (submitted k (earlier ++ later)) (numbered 0 earlier)))
      ((Track.start.after c
        (sparedOf k (submitted k (earlier ++ later)) goes (numbered 0 earlier))).advance c time)
    ∧ (Track.start.Apart c (ownOf k (submitted k (earlier ++ later)) (numbered 0 earlier)) →
      Track.start.Apart c
        (sparedOf k (submitted k (earlier ++ later)) goes (numbered 0 earlier)))
  := by
  let own := submitted k (earlier ++ later)
  have owns := owns_around (k := k) k earlier later time
  -- The requests fall into those before the window was opened, the submit that did, and the others.
  have numbers := orderly.parts.1
  have asked : ∀ b ∈ c.acts .start earlier, b.numbered ∈ numbered 0 (earlier ++ later) := by
    intro b mem
    rw [numbered_append, ← numbers]
    apply List.mem_append_left _ (List.mem_map_of_mem mem)
  rw [split] at asked
  obtain ⟨old, new, parts, numbers_old, numbers'⟩ := split_of_log numbers split
  obtain ⟨opens, numbers_new⟩ := List.cons.inj numbers'
  have mine : first.isOf k own = true := isOf_of_isSubmitOf opened.submits _
  -- Since then only submits of the window have come, and before none.
  have gone : ∀ e ∈ numbered (following 0 old) (first.numbered.2 :: new),
      e.2.request.submits = true → own e.1 = true → goes e.1 = true := by
    rw [← numbers']
    intro e mem submits mine
    rw [inWindow]
    apply gone_of_opened opened _ mem submits mine
    exact fun b here => asked b (List.mem_append_right _ here)
  have stay : ∀ e ∈ numbered 0 old, e.2.request.submits = true → own e.1 = true →
      goes e.1 = false := by
    intro e mem submits _
    rw [← Bool.not_eq_true, inWindow]
    apply stays_of_opened opened numbers' mem submits
  let cancelling := c.comesAfter earlier { time := time, request := .cancel k }
  let rest := c.acts (c.apply cancelling.before.state (.cancel k)) later
  have whole : c.acts .start (earlier ++ { time := time, request := .cancel k } :: later)
      = before ++ first :: (between ++ cancelling :: rest) := by
    rw [acts_split, split, List.append_assoc]
    rfl
  have whole' : c.acts .start (earlier ++ { time := time, request := .cancel k } :: later)
      = (before ++ [first]) ++ (between ++ cancelling :: rest) := by
    rw [whole, List.append_assoc]
    rfl
  have idle : ((Track.start.after c (ownOf k own (numbered 0 old))).advance c
      first.before.state.now).stage = .idle := by
    have met := orderly.mirrors owns apart whole mine
    rw [numbers_old] at met
    exact idle_of_mirrors met opened.closed opened.free
  have open_ := orderly.staysOpen owns apart whole' opened.waits
  rw [List.map_append, numbers_old, numbers_new, List.map_singleton, opens] at open_
  have sorted := (List.pairwise_append.mp orderly.sorted).1
  have le_cancel : ∀ x ∈ earlier, x.time ≤ time := fun x mem =>
    (List.pairwise_append.mp orderly.sorted).2.2 x mem _ List.mem_cons_self
  subst parts
  refine Track.hides_of_submit sorted ?_ opened.submits stay gone idle open_ le_cancel
  rw [Owns, numbered_append, List.forall_mem_append] at owns
  exact owns.1

/-- The waiters of the window that a session has open at some time after some requests. -/
def windowAt (c : Coalescer α ρ) (earlier : List (Timed σ α)) (time : Nat) (k : σ) : Nat → Bool :=
  (c.sleepUntil time (c.run .start earlier).1).inWindow k

/-- A cancel lets the tracks match again, whether it finds a window or not. -/
theorem Orderly.keeps_cancel
    (orderly : Orderly c Comes (earlier ++ { time := time, request := .cancel k } :: later))
    (apart : Track.start.Apart c (ownOf k (submitted k (earlier ++ later))
      (numbered 0 (earlier ++ { time := time, request := .cancel k } :: later)))) :
  Track.Keeps c (submitted k (earlier ++ later)) (c.windowAt earlier time k) (following 0 earlier)
      time
      (Track.start.after c (ownOf k (submitted k (earlier ++ later))
        (numbered 0 earlier ++ [(following 0 earlier, { time := time, request := .cancel k })])))
      (Track.start.after c (sparedOf k (submitted k (earlier ++ later)) (c.windowAt earlier time k)
        (numbered 0 earlier)))
    ∧ Track.start.Apart c (sparedOf k (submitted k (earlier ++ later)) (c.windowAt earlier time k)
        (numbered 0 earlier))
  := by
  let own := submitted k (earlier ++ later)
  let cancelling := c.comesAfter earlier { time := time, request := .cancel k }
  have mine : (Request.cancel k : Request σ α).isOf k own (following 0 earlier) = true := BEq.rfl
  have owns := owns_around (k := k) k earlier later time
  obtain ⟨numbers, number, -⟩ := orderly.parts
  have now : cancelling.before.state.now = time := congrArg (fun e => e.2.time) number
  have submits : cancelling.before.state.submits = following 0 earlier := congrArg (·.1) number
  have met := orderly.mirrors owns apart (acts_split c earlier later _) mine
  rw [numbers, now] at met
  have pending_iff := met.isPending
  have first : Track.start.Apart c (ownOf k own (numbered 0 earlier)) := by
    rw [numbered_append, ownOf_append, Track.apart_append] at apart
    exact apart.1
  rw [ownOf_append, ownOf_mine (e := (following 0 earlier, _)) mine, Track.after_concat]
  cases pending : cancelling.before.state.isPending k with
  | false =>
    have nobody : c.windowAt earlier time k = fun _ => false := inWindow_of_closed pending
    have sorted := List.pairwise_append.mp orderly.sorted
    rw [Owns, numbered_append, List.forall_mem_append] at owns
    obtain ⟨keeps, apart'⟩ := (Track.keeps_start c own (fun _ => false) 0).after
      (fun _ _ => Nat.zero_le _) sorted.1 owns.1 (fun _ _ _ _ => rfl) (Nat.zero_le time)
      fun x mem => sorted.2.2 x mem _ List.mem_cons_self
    rw [nobody]
    exact ⟨keeps.cancel (pending_iff.symm.trans pending) k, apart' first⟩
  | true =>
    obtain ⟨before, opening, between, waiters, split, opened, inWindow⟩ := opened_comesAfter pending
    obtain ⟨hides, apart'⟩ := orderly.hides_opened apart split opened inWindow
    have waits := pending_iff.symm.trans pending
    refine ⟨hides.cancel waits ?_ k, apart' first⟩
    intro w mine stays less
    rw [← submits] at less
    have ended := ended_of_opened met waits mine stays less
    rw [Track.advance_of_isWaiting waits] at ended
    exact ended

/-- A cancel makes no difference to other sessions. -/
theorem Orderly.keeps_cancel_elsewhere
    (orderly : Orderly c Comes (earlier ++ { time := time, request := .cancel k } :: later))
    {k' : σ} (other : (k' == k) = false)
    (apart : Track.start.Apart c (ownOf k' (submitted k' (earlier ++ later))
      (numbered 0 (earlier ++ { time := time, request := .cancel k } :: later)))) :
  Track.Keeps c (submitted k' (earlier ++ later)) (c.windowAt earlier time k) (following 0 earlier)
      time
      (Track.start.after c (ownOf k' (submitted k' (earlier ++ later))
        (numbered 0 earlier ++ [(following 0 earlier, { time := time, request := .cancel k })])))
      (Track.start.after c (sparedOf k' (submitted k' (earlier ++ later))
        (c.windowAt earlier time k) (numbered 0 earlier)))
    ∧ Track.start.Apart c (sparedOf k' (submitted k' (earlier ++ later))
        (c.windowAt earlier time k) (numbered 0 earlier))
  := by
  have theirs : (Request.cancel k : Request σ α).isOf k' (submitted k' (earlier ++ later))
      (following 0 earlier) = false := by
    rw [Request.isOf, BEq.comm, other]
  have sorted := List.pairwise_append.mp orderly.sorted
  have sorted' := orderly.sorted.sublist (List.Sublist.append_left (List.sublist_cons_self _ _) _)
  obtain ⟨keeps, apart'⟩ := (orderly.goers k).keeps_elsewhere other sorted' rfl
    (fun x mem => sorted.2.2 x mem _ List.mem_cons_self) c
  rw [numbered_append, ownOf_append, Track.apart_append] at apart
  rw [ownOf_append, ownOf_theirs (e := (following 0 earlier, _)) theirs, List.append_nil]
  exact ⟨keeps, apart' apart.1⟩

/-- The tracks of every session match after the cancel and some of the requests after it. -/
theorem Orderly.keeps_later
    (orderly : Orderly c Comes (earlier ++ { time := time, request := .cancel k } :: later))
    (k' : σ) (apart : Track.start.Apart c (ownOf k' (submitted k' (earlier ++ later))
      (numbered 0 (earlier ++ { time := time, request := .cancel k } :: later))))
    {first second : List (Timed σ α)} (split : later = first ++ second) {last : Nat}
    (le : time ≤ last) (ended : ∀ r ∈ first, r.time ≤ last) :
  Track.Keeps c (submitted k' (earlier ++ later)) (c.windowAt earlier time k)
      (following 0 (earlier ++ first)) last
      (Track.start.after c (ownOf k' (submitted k' (earlier ++ later))
        (numbered 0 (earlier ++ { time := time, request := .cancel k } :: first))))
      (Track.start.after c (sparedOf k' (submitted k' (earlier ++ later))
        (c.windowAt earlier time k) (numbered 0 (earlier ++ first))))
    ∧ Track.start.Apart c (sparedOf k' (submitted k' (earlier ++ later))
        (c.windowAt earlier time k) (numbered 0 (earlier ++ first)))
  := by
  let own := submitted k' (earlier ++ later)
  have owns : Owns k' own (earlier ++ { time := time, request := .cancel k } :: later) :=
    owns_around k' earlier later time
  have keeps : Track.Keeps c own (c.windowAt earlier time k) (following 0 earlier) time
      (Track.start.after c (ownOf k' own
        (numbered 0 earlier ++ [(following 0 earlier, { time := time, request := .cancel k })])))
      (Track.start.after c (sparedOf k' own (c.windowAt earlier time k) (numbered 0 earlier)))
      ∧ Track.start.Apart c (sparedOf k' own (c.windowAt earlier time k) (numbered 0 earlier)) := by
    cases same : k' == k with
    | false => exact orderly.keeps_cancel_elsewhere same apart
    | true =>
      rw [ownOf_congr same, submitted_congr same] at apart
      simp only [own, ownOf_congr same, sparedOf_congr same, submitted_congr same]
      exact orderly.keeps_cancel apart
  obtain ⟨keeps, apart'⟩ := keeps
  have sorted := (List.pairwise_cons.mp (List.pairwise_append.mp orderly.sorted).2.1)
  have numbers : numbered 0 (earlier ++ { time := time, request := .cancel k } :: first)
      = (numbered 0 earlier ++ [(following 0 earlier, { time := time, request := .cancel k })])
        ++ numbered (following 0 earlier) first := by
    rw [numbered_append, numbered, List.append_assoc]
    rfl
  have numbers_later : numbered 0 (earlier ++ { time := time, request := .cancel k } :: later)
      = numbered 0 (earlier ++ { time := time, request := .cancel k } :: first)
        ++ numbered (following 0 (earlier ++ first)) second := by
    rw [split, ← List.cons_append, ← List.append_assoc, numbered_append, following_append,
      following_append, following_cons]
    rfl
  rw [numbers_later, ownOf_append, Track.apart_append, numbers, ownOf_append, Track.apart_append]
    at apart
  rw [Owns, numbers_later, numbers, List.forall_mem_append, List.forall_mem_append] at owns
  rw [split, List.forall_mem_append, List.pairwise_append] at sorted
  obtain ⟨after, apart_after⟩ := keeps.after sorted.1.1 sorted.2.1 owns.1.2
    (fun e mem _ _ => (orderly.goers k).comesLater mem) le ended
  rw [numbers, numbered_append, ownOf_append, sparedOf_append, Track.after_append,
    Track.after_append, Track.apart_append, following_append]
  exact ⟨after, apart', apart_after apart.1.2⟩

end ReflexPolicy.Coalescer

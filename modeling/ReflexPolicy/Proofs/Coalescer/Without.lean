import ReflexPolicy.Proofs.Coalescer.Dropping

/-!
# Requests without some waiters

Some waiters can be taken out of a list of requests: their submits and their drops are taken away,
and the other waiters get the numbers that they have without them.  What a session asks for is then
what it asked for before, without those waiters: `ownOf_spared`.
-/

namespace ReflexPolicy.Coalescer

variable {σ α ρ : Type}

/-! ### Numbers -/

/-- The waiters that do not go. -/
def others (goes : Nat → Bool) (w : Nat) : Bool := !goes w

/-- The waiters of a session that do not go. -/
def kept (own goes : Nat → Bool) (w : Nat) : Bool := own w && others goes w

variable {own own' goes : Nat → Bool}

theorem others_eq_true_iff {w : Nat} :
  others goes w = true ↔ goes w = false
  := by rw [others, Bool.not_eq_true']

theorem kept_eq_true_iff {w : Nat} :
  kept own goes w = true ↔ own w = true ∧ goes w = false
  := by rw [kept, Bool.and_eq_true, others_eq_true_iff]

/-- The waiters of a session are counted alike with the new numbers. -/
theorem place_others (same : ∀ w, goes w = false → own' (place (others goes) w) = own w)
    (w : Nat) :
  place own' (place (others goes) w) = place (kept own goes) w
  := by
  induction w with
  | zero => rfl
  | succ w ih =>
    rw [place_succ, place_succ, ← ih, kept]
    cases stays : others goes w with
    | false => rw [Bool.and_false]; rfl
    | true =>
      rw [Bool.and_true, ← same w (others_eq_true_iff.mp stays)]
      apply place_succ

/-! ### Requests -/

/-- The request is about one of some waiters: it is the submit of one, when the next waiter has a
number, or drops one. -/
def Request.isAbout (goes : Nat → Bool) (number : Nat) : Request σ α → Bool
  | .submit _ _ => goes number
  | .refused _ => goes number
  | .drop w => goes w
  | _ => false

/-- A numbered request with the new numbers. -/
def shifted (goes : Nat → Bool) (e : Nat × Timed σ α) : Nat × Timed σ α :=
  (place (others goes) e.1,
    { time := e.2.time, request := e.2.request.renumbered (others goes) })

/-- Numbered requests without those that are about some waiters. -/
def spared (goes : Nat → Bool) (es : List (Nat × Timed σ α)) : List (Nat × Timed σ α) :=
  (es.filter fun e => !e.2.request.isAbout goes e.1).map (shifted goes)

/-- The requests without those that are about some waiters.  The other waiters are numbered among
themselves. -/
def without (goes : Nat → Bool) (requests : List (Timed σ α)) : List (Timed σ α) :=
  (spared goes (numbered 0 requests)).map (·.2)

theorem isAbout_of_submits {q : Request σ α} (submits : q.submits = true) (number : Nat) :
  q.isAbout goes number = goes number
  := by
  cases q with
  | submit k args => rfl
  | refused cause => rfl
  | _ => cases submits

theorem submits_renumbered (own : Nat → Bool) (q : Request σ α) :
  (q.renumbered own).submits = q.submits
  := by cases q <;> rfl

/-- The number of the next waiter after some requests. -/
def following (number : Nat) (requests : List (Timed σ α)) : Nat :=
  number + requests.countP (·.request.submits)

theorem following_cons (number : Nat) (r : Timed σ α) (rest : List (Timed σ α)) :
  following number (r :: rest) = following (number + r.request.submits.toNat) rest
  := by
  rw [following, following, List.countP_cons]
  cases r.request.submits with
  | false => rfl
  | true => exact Nat.add_right_comm number _ 1

theorem following_append (number : Nat) (first second : List (Timed σ α)) :
  following number (first ++ second) = following (following number first) second
  := by rw [following, following, following, List.countP_append, Nat.add_assoc]

theorem numbered_append (number : Nat) (first second : List (Timed σ α)) :
  numbered number (first ++ second)
    = numbered number first ++ numbered (following number first) second
  := by
  induction first generalizing number with
  | nil => rfl
  | cons r rest ih =>
    rw [List.cons_append, numbered, numbered, ih, following_cons]
    rfl

/-- A part of numbered requests is a part of the requests, with its numbers. -/
theorem split_of_numbered {number : Nat} {requests : List (Timed σ α)}
    {es es' : List (Nat × Timed σ α)} (split : numbered number requests = es ++ es') :
  ∃ first second, requests = first ++ second ∧ es = numbered number first
    ∧ es' = numbered (following number first) second
  := by
  have parts := congrArg (List.map (·.2)) split
  rw [map_numbered, List.map_append] at parts
  refine ⟨_, _, parts, ?_⟩
  rw [parts, numbered_append] at split
  have lengths : (numbered number (es.map (·.2))).length = es.length := by
    rw [← List.length_map (f := (·.2)), map_numbered, List.length_map]
  obtain ⟨same, same'⟩ := List.append_inj split lengths
  exact ⟨same.symm, same'.symm⟩

theorem lt_of_mem_numbered {number : Nat} {requests : List (Timed σ α)} {e : Nat × Timed σ α}
    (mem : e ∈ numbered number requests) (submits : e.2.request.submits = true) :
  e.1 < following number requests
  := by
  induction requests generalizing number with
  | nil => cases mem
  | cons r rest ih =>
    rw [numbered, List.mem_cons] at mem
    obtain rfl | mem := mem
    · have one : 0 < (r :: rest).countP (·.request.submits) :=
        List.countP_pos_iff.mpr ⟨r, List.mem_cons_self, submits⟩
      exact Nat.lt_add_of_pos_right one
    · rw [following_cons]
      apply ih mem

/-- The number of the waiters that stay grows with each of them. -/
theorem place_step (number : Nat) (q : Request σ α) :
  place (others goes) (number + q.submits.toNat)
    = place (others goes) number + (q.submits && !q.isAbout goes number).toNat
  := by
  cases submits : q.submits with
  | false => rfl
  | true =>
    rw [Bool.toNat_true, place_succ, Bool.true_and, isAbout_of_submits submits]
    rfl

theorem spared_cons {e : Nat × Timed σ α} (stays : e.2.request.isAbout goes e.1 = false)
    (es : List (Nat × Timed σ α)) :
  spared goes (e :: es) = shifted goes e :: spared goes es
  := by
  rw [spared, List.filter_cons_of_pos (by rw [stays]; rfl)]
  rfl

theorem spared_cons_gone {e : Nat × Timed σ α} (gone : e.2.request.isAbout goes e.1 = true)
    (es : List (Nat × Timed σ α)) :
  spared goes (e :: es) = spared goes es
  := by
  rw [spared, List.filter_cons_of_neg (by simp [gone])]
  rfl

/-- The requests that are left have the new numbers. -/
theorem numbered_spared (number : Nat) (requests : List (Timed σ α)) :
  numbered (place (others goes) number) ((spared goes (numbered number requests)).map (·.2))
      = spared goes (numbered number requests)
    ∧ following (place (others goes) number) ((spared goes (numbered number requests)).map (·.2))
      = place (others goes) (following number requests)
  := by
  induction requests generalizing number with
  | nil => exact ⟨rfl, rfl⟩
  | cons r rest ih =>
    obtain ⟨same, next⟩ := ih (number + r.request.submits.toNat)
    rw [place_step] at same next
    rw [following_cons, ← next, numbered]
    cases about : r.request.isAbout goes number with
    | false =>
      rw [about, Bool.not_false, Bool.and_true] at same
      rw [spared_cons about, List.map_cons, shifted, numbered, following_cons, submits_renumbered,
        same, Bool.not_false, Bool.and_true]
      exact ⟨rfl, rfl⟩
    | true =>
      rw [about, Bool.not_true, Bool.and_false] at same
      rw [spared_cons_gone about, Bool.not_true, Bool.and_false]
      exact ⟨same, rfl⟩

theorem numbered_without (goes : Nat → Bool) (requests : List (Timed σ α)) :
  numbered 0 (without goes requests) = spared goes (numbered 0 requests)
  := (numbered_spared 0 requests).1

theorem following_without (goes : Nat → Bool) (requests : List (Timed σ α)) :
  following 0 (without goes requests) = place (others goes) (following 0 requests)
  := (numbered_spared 0 requests).2

theorem spared_append (goes : Nat → Bool) (es es' : List (Nat × Timed σ α)) :
  spared goes (es ++ es') = spared goes es ++ spared goes es'
  := by rw [spared, List.filter_append, List.map_append]; rfl

/-- If no waiter goes, nothing is taken away. -/
theorem spared_none (es : List (Nat × Timed σ α)) :
  spared (fun _ => false) es = es
  := by
  have all : ∀ e ∈ es, (!e.2.request.isAbout (fun _ => false) e.1) = true := by
    intro e _
    cases e.2.request <;> rfl
  have others : others (fun _ => false) = fun _ => true := rfl
  rw [spared, List.filter_eq_self.mpr all]
  apply (List.map_congr_left _).trans (List.map_id _)
  intro e _
  simp only [shifted, others, place_all, renumbered_all, id]

theorem without_none (requests : List (Timed σ α)) :
  without (fun _ => false) requests = requests
  := by rw [without, spared_none, map_numbered]

/-- The requests that are left come when they did. -/
theorem mem_without {requests : List (Timed σ α)} {r : Timed σ α}
    (mem : r ∈ without goes requests) :
  ∃ q, { time := r.time, request := q } ∈ requests ∧ r.request = q.renumbered (others goes)
  := by
  obtain ⟨e', mem', rfl⟩ := List.mem_map.mp mem
  obtain ⟨e, stays, rfl⟩ := List.mem_map.mp mem'
  have asked := List.mem_map_of_mem (f := (·.2)) (List.mem_filter.mp stays).1
  rw [map_numbered] at asked
  exact ⟨e.2.request, asked, rfl⟩

theorem sorted_without {requests : List (Timed σ α)}
    (sorted : requests.Pairwise fun r r' => r.time ≤ r'.time) :
  (without goes requests).Pairwise fun r r' => r.time ≤ r'.time
  := by
  rw [← map_numbered 0 requests, List.pairwise_map] at sorted
  rw [without, spared, List.map_map, List.pairwise_map]
  apply sorted.sublist List.filter_sublist

theorem counted_without {c : Coalescer α ρ} {Comes Holds : Nat → Prop}
    {requests : List (Timed σ α)} (counted : ∀ r ∈ requests, r.Counted c Comes Holds) :
  ∀ r ∈ without goes requests, r.Counted c Comes Holds
  := by
  intro r mem
  obtain ⟨q, asked, request⟩ := mem_without mem
  apply counted_of_renumbered (counted _ asked) request

/-! ### The requests of a session -/

variable [BEq σ] {k : σ}

/-- The numbered requests of a session, when only its waiters are numbered. -/
def ownOf (k : σ) (own : Nat → Bool) (es : List (Nat × Timed σ α)) : List (Timed σ α) :=
  (es.filter fun e => e.2.request.isOf k own e.1).map fun e =>
    { time := e.2.time, request := e.2.request.renumbered own }

/-- The numbered requests of a session without some of its waiters. -/
def sparedOf (k : σ) (own goes : Nat → Bool) (es : List (Nat × Timed σ α)) : List (Timed σ α) :=
  (es.filter fun e => e.2.request.isOf k own e.1 && !e.2.request.isAbout goes e.1).map fun e =>
    { time := e.2.time, request := e.2.request.renumbered (kept own goes) }

theorem ownOf_append (k : σ) (own : Nat → Bool) (es es' : List (Nat × Timed σ α)) :
  ownOf k own (es ++ es') = ownOf k own es ++ ownOf k own es'
  := by rw [ownOf, List.filter_append, List.map_append]; rfl

theorem sparedOf_append (k : σ) (own goes : Nat → Bool) (es es' : List (Nat × Timed σ α)) :
  sparedOf k own goes (es ++ es') = sparedOf k own goes es ++ sparedOf k own goes es'
  := by rw [sparedOf, List.filter_append, List.map_append]; rfl

theorem ownOf_mine {e : Nat × Timed σ α} (mine : e.2.request.isOf k own e.1 = true) :
  ownOf k own [e] = [{ time := e.2.time, request := e.2.request.renumbered own }]
  := by rw [ownOf, List.filter_singleton, mine]; rfl

theorem ownOf_theirs {e : Nat × Timed σ α} (theirs : e.2.request.isOf k own e.1 = false) :
  ownOf k own [e] = []
  := by rw [ownOf, List.filter_singleton, theirs]; rfl

theorem sparedOf_mine {e : Nat × Timed σ α} (mine : e.2.request.isOf k own e.1 = true)
    (stays : e.2.request.isAbout goes e.1 = false) :
  sparedOf k own goes [e]
    = [{ time := e.2.time, request := e.2.request.renumbered (kept own goes) }]
  := by rw [sparedOf, List.filter_singleton, mine, stays]; rfl

theorem sparedOf_theirs {e : Nat × Timed σ α} (theirs : e.2.request.isOf k own e.1 = false) :
  sparedOf k own goes [e] = []
  := by rw [sparedOf, List.filter_singleton, theirs]; rfl

theorem sparedOf_gone {e : Nat × Timed σ α} (gone : e.2.request.isAbout goes e.1 = true) :
  sparedOf k own goes [e] = []
  := by rw [sparedOf, List.filter_singleton, gone, Bool.not_true, Bool.and_false]; rfl

theorem requestsOf_eq (k : σ) (own : Nat → Bool) (log : List (Act σ α ρ)) :
  requestsOf k own log = ownOf k own (log.map Act.numbered)
  := by
  rw [ownOf, List.filter_map, List.map_map]
  rfl

theorem isOf_of_isSubmitOf {q : Request σ α} (submit : q.isSubmitOf k = true) (number : Nat) :
  q.isOf k own number = true
  := by
  cases q with
  | submit k' args => exact submit
  | _ => cases submit

/-- The waiter of a submit is one of the session if the submit is. -/
theorem own_of_submits {q : Request σ α} {number : Nat}
    (owns : ∀ k' args, q = .submit k' args → own number = (k' == k))
    (isOf : q.isOf k own number = true) (submits : q.submits = true) :
  own number = true
  := by
  obtain ⟨k', args, rfl⟩ | ⟨cause, rfl⟩ := Request.submit_or_refused submits
  · exact (owns k' args rfl).trans isOf
  · exact isOf

/-- A request of a session about waiters that go is a drop, if the waiter of a submit stays. -/
theorem drops_of_isAbout {q : Request σ α} {number : Nat}
    (owns : ∀ k' args, q = .submit k' args → own number = (k' == k))
    (stays : q.submits = true → own number = true → goes number = false)
    (isOf : q.isOf k own number = true) (about : q.isAbout goes number = true) :
  ∃ w, q = .drop w ∧ own w = true ∧ goes w = true
  := by
  have submits (submits : q.submits = true) : False := by
    rw [isAbout_of_submits submits, stays submits (own_of_submits owns isOf submits)] at about
    cases about
  cases q with
  | submit k' args => exact (submits rfl).elim
  | refused cause => exact (submits rfl).elim
  | cancel k' => cases about
  | probe k' => cases about
  | drop w => exact ⟨w, rfl, isOf, about⟩

/-- What a session asks for without some waiters is what it asked for, without them. -/
theorem ownOf_spared (same : ∀ w, goes w = false → own' (place (others goes) w) = own w)
    (es : List (Nat × Timed σ α)) :
  ownOf k own' (spared goes es) = sparedOf k own goes es
  := by
  have isOf (e : Nat × Timed σ α) (stays : e.2.request.isAbout goes e.1 = false) :
      (shifted goes e).2.request.isOf k own' (shifted goes e).1 = e.2.request.isOf k own e.1 := by
    obtain ⟨number, time, q⟩ := e
    cases q with
    | submit k' args => rfl
    | refused cause => exact same number stays
    | cancel k' => rfl
    | probe k' => rfl
    | drop w => exact same w stays
  have renumbered (e : Nat × Timed σ α) :
      (shifted goes e).2.request.renumbered own' = e.2.request.renumbered (kept own goes) := by
    obtain ⟨number, time, q⟩ := e
    cases q with
    | drop w => exact congrArg Request.drop (place_others same w)
    | _ => rfl
  rw [ownOf, spared, List.filter_map, List.filter_filter, List.map_map, sparedOf]
  congr 1
  · funext e
    exact congrArg (Timed.mk e.2.time) (renumbered e)
  · apply List.filter_congr
    intro e _
    cases about : e.2.request.isAbout goes e.1 with
    | false => simp only [Function.comp_apply, isOf e about]
    | true => simp only [Bool.not_true, Bool.and_false]

/-- A submit whose waiter is one of a session is a submit of the session. -/
theorem isSubmitOf_of_submitted {requests : List (Timed σ α)} {e : Nat × Timed σ α}
    (mem : e ∈ numbered 0 requests) (submits : e.2.request.submits = true)
    (mine : submitted k requests e.1 = true) :
  e.2.request.isSubmitOf k = true
  := by
  rw [submitted, List.any_eq_true] at mine
  obtain ⟨e', mem', found⟩ := mine
  rw [Bool.and_eq_true, beq_iff_eq] at found
  obtain ⟨same, isSubmit⟩ := found
  rw [eq_of_numbered mem mem' submits (Request.submits_of_isSubmitOf isSubmit) same.symm]
  exact isSubmit

/-- The waiters that are left belong to the sessions to which they belonged. -/
theorem submitted_without (requests : List (Timed σ α)) {w : Nat} (stays : goes w = false) :
  submitted k (without goes requests) (place (others goes) w) = submitted k requests w
  := by
  rw [Bool.eq_iff_iff, submitted, submitted, numbered_without, List.any_eq_true, List.any_eq_true]
  simp only [Bool.and_eq_true, beq_iff_eq]
  constructor
  · rintro ⟨e', mem', same, isOf⟩
    obtain ⟨e, mem, rfl⟩ := List.mem_map.mp mem'
    obtain ⟨mem, about⟩ := List.mem_filter.mp mem
    have isOf' : e.2.request.isSubmitOf k = true := by
      obtain ⟨number, time, q⟩ := e
      cases q with
      | submit k' args => exact isOf
      | _ => cases isOf
    rw [isAbout_of_submits (Request.submits_of_isSubmitOf isOf'), Bool.not_eq_true'] at about
    exact ⟨e, mem, place_inj (others_eq_true_iff.mpr about) (others_eq_true_iff.mpr stays) same,
      isOf'⟩
  · rintro ⟨e, mem, rfl, isOf⟩
    have about : e.2.request.isAbout goes e.1 = false := by
      rw [isAbout_of_submits (Request.submits_of_isSubmitOf isOf), stays]
    refine ⟨shifted goes e, List.mem_map_of_mem (List.mem_filter.mpr ⟨mem, ?_⟩), rfl, ?_⟩
    · rw [about]
      rfl
    · obtain ⟨number, time, q⟩ := e
      cases q with
      | submit k' args => exact isOf
      | _ => cases isOf

/-! ### Equal sessions -/

variable [EquivBEq σ] {k' : σ}

theorem Request.isOf_congr (same : (k == k') = true) (own : Nat → Bool) (number : Nat)
    (q : Request σ α) :
  q.isOf k own number = q.isOf k' own number
  := by
  cases q with
  | submit k'' args => exact BEq.congr_right same
  | cancel k'' => exact BEq.congr_right same
  | probe k'' => exact BEq.congr_right same
  | _ => rfl

theorem submitted_congr (same : (k == k') = true) (requests : List (Timed σ α)) :
  submitted k requests = submitted k' requests
  := by
  have isSubmitOf (q : Request σ α) : q.isSubmitOf k = q.isSubmitOf k' := by
    cases q with
    | submit k'' args => exact BEq.congr_right same
    | _ => rfl
  funext w
  simp only [submitted, isSubmitOf]

theorem ownOf_congr (same : (k == k') = true) (own : Nat → Bool) (es : List (Nat × Timed σ α)) :
  ownOf k own es = ownOf k' own es
  := by simp only [ownOf, Request.isOf_congr same]

theorem sparedOf_congr (same : (k == k') = true) (own goes : Nat → Bool)
    (es : List (Nat × Timed σ α)) :
  sparedOf k own goes es = sparedOf k' own goes es
  := by simp only [sparedOf, Request.isOf_congr same]

end ReflexPolicy.Coalescer

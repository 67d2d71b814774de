import Mathlib.Data.List.Nodup
import ReflexPolicy.Proofs.Binary64.Clamped
import ReflexPolicy.Proofs.Detector.Evidence
import ReflexPolicy.Proofs.Request.WellFormed

/-!
# Collected scores

The scores of some findings have one entry for each reflex that a well-formed finding gives a
score, in the order in which the reflexes first come.  The entry holds the highest of the scores,
moved into the unit interval, and passes the check of a request as it is.  As a mapping the scores
depend on the members of the list only, and those of two lists in a row are the higher ones of
both.
-/

namespace ReflexPolicy

/-! ### Well-formed findings -/

namespace Finding

/-- The finding is well-formed, and gives a reflex a number for a score. -/
structure Gives (f : Finding) (id : Text) (n : Number) : Prop where
  id : f.reflexId = .text id
  score : f.score = .number n
  number : n ≠ .float .nan

/-- The reflex that a well-formed finding gives a score. -/
def reflex? (f : Finding) : Option Text :=
  match f.reflexId, f.score with
  | .text id, .number n => if n = .float .nan then none else some id
  | _, _ => none

variable {f : Finding} {id : Text} {m n : Number}

theorem reflex?_eq_some_iff :
  f.reflex? = some id ↔ ∃ n, f.Gives id n
  := by
  rw [reflex?]
  constructor
  · intro given
    split at given
    · rename_i id' n named scored
      split at given
      · cases given
      · rename_i number
        cases given
        exact ⟨n, named, scored, number⟩
    · cases given
  · rintro ⟨n, gives⟩
    simp only [gives.id, gives.score, gives.number, if_false]

theorem Gives.unique (gives : f.Gives id n) (gives' : f.Gives id m) :
  n = m
  := by
  have same := gives.score.symm.trans gives'.score
  cases same
  rfl

/-- What a well-formed finding gives is the score in the format, moved into the unit interval. -/
theorem Gives.entry? (gives : f.Gives id n) {x : Binary64} (given : n.toBinary64? = some x) :
  f.entry? = .ok (some (id, x.clampUnit))
  := by
  have number := Number.isNan_of_toBinary64? gives.number given
  simp only [Finding.entry?, gives.id, Value.text?, scoreNumber, gives.score, Value.number?, given,
    number, Except.map, Bool.false_eq_true, if_false, Option.map_some]

theorem exists_of_entry? {y : Binary64} (said : f.entry? = .ok (some (id, y))) :
  ∃ n x, f.Gives id n ∧ n.toBinary64? = some x ∧ y = x.clampUnit
  := by
  have well : ¬ f.IsMalformed := by
    intro malformed
    rw [entry?_of_isMalformed malformed] at said
    cases said
  simp only [IsMalformed, not_or, not_forall, not_not] at well
  obtain ⟨⟨id', named⟩, ⟨n, scored⟩, unlike⟩ := well
  have gives : f.Gives id' n := by
    refine ⟨named, scored, ?_⟩
    rintro rfl
    exact unlike scored
  cases given : n.toBinary64? with
  | none => simp [Finding.entry?, scoreNumber, named, scored, Value.text?, Value.number?, given,
      Except.map] at said
  | some x =>
    rw [gives.entry? given] at said
    cases said
    exact ⟨n, x, gives, given, rfl⟩

/-- A finding that gives nothing speaks of no reflex. -/
theorem reflex?_of_silent (silent : f.entry? = .ok none) :
  f.reflex? = none
  := by
  rw [Option.eq_none_iff_forall_ne_some]
  intro id given
  obtain ⟨n, gives⟩ := reflex?_eq_some_iff.mp given
  cases toFormat : n.toBinary64? with
  | some x =>
    rw [gives.entry? toFormat] at silent
    cases silent
  | none =>
    simp [Finding.entry?, scoreNumber, gives.id, gives.score, Value.text?, Value.number?, toFormat,
      Except.map] at silent

end Finding

/-! ### Highest scores -/

/-- The number is the highest score that the findings give a reflex. -/
structure IsHighest (fs : List Finding) (id : Text) (n : Number) : Prop where
  given : ∃ f ∈ fs, f.Gives id n
  bounds : ∀ f ∈ fs, ∀ m, f.Gives id m → m.le n = true

variable {fs fs' : List Finding} {scores scores' : Entries Text Binary64} {id : Text}

/-- A finding with no higher score leaves the highest one as it is. -/
theorem IsHighest.cons {f : Finding} {n : Number} (highest : IsHighest fs id n)
    (bound : ∀ m, f.Gives id m → m.le n = true) :
  IsHighest (f :: fs) id n
  where
  given := by
    obtain ⟨g, mem, gives⟩ := highest.given
    exact ⟨g, List.mem_cons_of_mem f mem, gives⟩
  bounds := List.forall_mem_cons.mpr ⟨bound, highest.bounds⟩

/-- A finding with a score that none of the others exceeds has the highest one. -/
theorem Finding.Gives.isHighest {f : Finding} {n : Number} (gives : f.Gives id n)
    (bounds : ∀ g ∈ fs, ∀ m, g.Gives id m → m.le n = true) :
  IsHighest (f :: fs) id n
  where
  given := ⟨f, List.mem_cons_self, gives⟩
  bounds := by
    refine List.forall_mem_cons.mpr ⟨?_, bounds⟩
    intro m gives'
    rw [gives'.unique gives]
    exact Number.le_self gives.number

/-- The findings give a reflex a highest score as soon as they give it any. -/
theorem exists_highest (spoken : ∃ f ∈ fs, ∃ n, f.Gives id n) :
  ∃ n, IsHighest fs id n
  := by
  induction fs with
  | nil => simp at spoken
  | cons f fs ih =>
    by_cases others : ∃ g ∈ fs, ∃ n, g.Gives id n
    · obtain ⟨n, highest⟩ := ih others
      obtain ⟨g, -, number⟩ := highest.given
      by_cases higher : ∃ m, f.Gives id m ∧ n.lt m = true
      · obtain ⟨m, gives, above⟩ := higher
        use m
        apply gives.isHighest
        intro h mem k gives'
        exact Number.le_trans (highest.bounds h mem k gives') (Number.le_of_lt above)
      · use n
        apply highest.cons
        intro m gives
        obtain ordered | above := Number.le_or_lt gives.number number.number
        · exact ordered
        · exact absurd ⟨m, gives, above⟩ higher
    · obtain ⟨g, mem, n, gives⟩ := spoken
      obtain rfl | mem := List.mem_cons.mp mem
      · use n
        apply gives.isHighest
        intro h mem k gives'
        exact absurd ⟨h, mem, k, gives'⟩ others
      · exact absurd ⟨g, mem, n, gives⟩ others

/-- A collected score is the highest one of its reflex, moved into the unit interval. -/
theorem Collects.highest (collects : Collects fs scores) (inRange : ∀ f ∈ fs, f.IsInRange)
    {x : Binary64} (found : Entries.get? scores id = some x) :
  ∃ n, IsHighest fs id n ∧ n.Clamps x
  := by
  obtain ⟨f, mem, said⟩ := collects.attained found
  obtain ⟨m, y, gives, given, rfl⟩ := Finding.exists_of_entry? said
  obtain ⟨n, highest⟩ := exists_highest ⟨f, mem, m, gives⟩
  obtain ⟨g, mem', gives'⟩ := highest.given
  obtain ⟨z, given'⟩ := Option.ne_none_iff_exists'.mp (inRange g mem' n gives'.score)
  obtain ⟨top, found', above⟩ := collects.bounded g mem' id _ (gives'.entry? given')
  rw [found] at found'
  cases found'
  have clamps := Number.clamps_of_toBinary64? given
  have clamps' := Number.clamps_of_toBinary64? given'
  have below := clamps.le_of_le clamps' (highest.bounds f mem m gives)
  use n, highest
  rwa [clamps.unsigned.antisymm clamps'.unsigned below above]

/-! ### The order of the reflexes -/

theorem eraseDups_of_nodup {ids : List Text} (nodup : ids.Nodup) :
  ids.eraseDups = ids
  := by
  induction ids with
  | nil => rfl
  | cons id ids ih =>
    obtain ⟨new, nodup⟩ := List.nodup_cons.mp nodup
    have others : ids.filter (fun other => !other == id) = ids := by
      rw [List.filter_eq_self]
      intro other mem
      have ne : other ≠ id := by
        rintro rfl
        exact new mem
      simpa using ne
    rw [List.eraseDups_cons, others, ih nodup]

/-- One more reflex is the last one, unless it has come already. -/
theorem eraseDups_cons_after (before after : List Text) (id : Text) :
  (before ++ id :: after).eraseDups
    = ((if id ∈ before then before else before ++ [id]) ++ after).eraseDups
  := by
  split
  · rename_i mem
    rw [List.eraseDups_append, List.eraseDups_append]
    simp [List.removeAll, mem]
  · rw [List.append_cons]

theorem keys_raiseScore (scores : Entries Text Binary64) (id : Text) (x : Binary64) :
  Entries.keys (raiseScore scores id x)
    = if id ∈ Entries.keys scores then Entries.keys scores else Entries.keys scores ++ [id]
  := by
  rw [raiseScore]
  split
  · rename_i before found
    have mem : id ∈ Entries.keys scores := Entries.mem_keys_iff.mpr ⟨before, found⟩
    rw [if_pos mem]
    split
    · rw [Entries.keys_put, if_pos mem]
    · rfl
  · rw [Entries.keys_put]

/-- The reflexes of collected scores are those of the well-formed findings, in the order in which
they first come. -/
theorem keys_collectFrom (nodup : (Entries.keys scores).Nodup)
    (collected : collectFrom scores fs = .ok scores') :
  Entries.keys scores' = (Entries.keys scores ++ fs.filterMap Finding.reflex?).eraseDups
    ∧ (Entries.keys scores').Nodup
  := by
  induction fs generalizing scores with
  | nil =>
    cases collected
    rw [List.filterMap_nil, List.append_nil]
    exact ⟨(eraseDups_of_nodup nodup).symm, nodup⟩
  | cons f fs ih =>
    rw [collectFrom] at collected
    split at collected
    · cases collected
    · rename_i silent
      rw [List.filterMap_cons, Finding.reflex?_of_silent silent]
      exact ih nodup collected
    · rename_i id x said
      obtain ⟨n, -, gives, -⟩ := Finding.exists_of_entry? said
      rw [List.filterMap_cons, Finding.reflex?_eq_some_iff.mpr ⟨n, gives⟩, eraseDups_cons_after,
        ← keys_raiseScore scores id x]
      apply ih _ collected
      rw [keys_raiseScore]
      split
      · exact nodup
      · rename_i new
        rw [← List.concat_eq_append]
        exact List.Nodup.concat new nodup

/-! ### Scores as a mapping -/

/-- Scores of the same values under every reflex are the same ones but for their order. -/
theorem perm_of_get?_eq (nodup : (Entries.keys scores).Nodup)
    (nodup' : (Entries.keys scores').Nodup)
    (same : ∀ id, Entries.get? scores id = Entries.get? scores' id) :
  scores.Perm scores'
  := by
  rw [List.perm_ext_iff_of_nodup (List.Nodup.of_map _ nodup) (List.Nodup.of_map _ nodup')]
  rintro ⟨id, x⟩
  rw [← Entries.get?_eq_some_iff nodup, ← Entries.get?_eq_some_iff nodup', same]

/-- A score is one that the findings give, and the highest of them. -/
theorem Collects.get?_eq_some_iff (collects : Collects fs scores) {x : Binary64} :
  Entries.get? scores id = some x ↔
    (∃ f ∈ fs, f.entry? = .ok (some (id, x)))
      ∧ ∀ f ∈ fs, ∀ y, f.entry? = .ok (some (id, y)) → y.le x = true
  := by
  constructor
  · intro found
    refine ⟨collects.attained found, ?_⟩
    intro f mem y said
    obtain ⟨top, found', above⟩ := collects.bounded f mem id y said
    rw [found] at found'
    cases found'
    exact above
  · rintro ⟨⟨f, mem, said⟩, bounds⟩
    obtain ⟨top, found, above⟩ := collects.bounded f mem id x said
    obtain ⟨g, mem', said'⟩ := collects.attained found
    rw [found, (Finding.unit_of_entry? said').2.antisymm (Finding.unit_of_entry? said).2
      (bounds g mem' top said') above]

theorem Collects.not_said_of_none (collects : Collects fs scores)
    (missing : Entries.get? scores id = none) {f : Finding} (mem : f ∈ fs) {x : Binary64} :
  f.entry? ≠ .ok (some (id, x))
  := by
  intro said
  obtain ⟨top, found, -⟩ := collects.bounded f mem id x said
  rw [missing] at found
  cases found

/-- The scores of findings in a row are the higher ones of both parts. -/
theorem Collects.get?_append {both : Entries Text Binary64} (collects : Collects fs scores)
    (collects' : Collects fs' scores') (collectsBoth : Collects (fs ++ fs') both) (id : Text) :
  Entries.get? both id
    = Option.merge Binary64.max (Entries.get? scores id) (Entries.get? scores' id)
  := by
  cases first : Entries.get? scores id with
  | none =>
    cases second : Entries.get? scores' id with
    | none =>
      rw [Option.merge_none_right, Option.eq_none_iff_forall_ne_some]
      intro x found
      obtain ⟨⟨f, mem, said⟩, -⟩ := collectsBoth.get?_eq_some_iff.mp found
      obtain mem | mem := List.mem_append.mp mem
      · exact collects.not_said_of_none first mem said
      · exact collects'.not_said_of_none second mem said
    | some y =>
      obtain ⟨⟨f, mem, said⟩, bounds⟩ := collects'.get?_eq_some_iff.mp second
      refine collectsBoth.get?_eq_some_iff.mpr ⟨⟨f, List.mem_append_right fs mem, said⟩, ?_⟩
      intro g mem' z said'
      obtain mem' | mem' := List.mem_append.mp mem'
      · exact absurd said' (collects.not_said_of_none first mem')
      · exact bounds g mem' z said'
  | some x =>
    obtain ⟨⟨f, mem, said⟩, bounds⟩ := collects.get?_eq_some_iff.mp first
    have number := Binary64.isNan_of_isUnit (Finding.unit_of_entry? said).1
    cases second : Entries.get? scores' id with
    | none =>
      refine collectsBoth.get?_eq_some_iff.mpr ⟨⟨f, List.mem_append_left fs' mem, said⟩, ?_⟩
      intro g mem' z said'
      obtain mem' | mem' := List.mem_append.mp mem'
      · exact bounds g mem' z said'
      · exact absurd said' (collects'.not_said_of_none second mem')
    | some y =>
      obtain ⟨⟨f', mem', said'⟩, bounds'⟩ := collects'.get?_eq_some_iff.mp second
      have number' := Binary64.isNan_of_isUnit (Finding.unit_of_entry? said').1
      refine collectsBoth.get?_eq_some_iff.mpr ⟨?attained, ?bounds⟩
      case attained =>
        rw [Binary64.max]
        split
        · exact ⟨f', List.mem_append_right fs mem', said'⟩
        · exact ⟨f, List.mem_append_left fs' mem, said⟩
      case bounds =>
        intro g mem z said
        rw [Binary64.le_max_iff number number']
        exact (List.mem_append.mp mem).imp (bounds g · z said) (bounds' g · z said)

/-! ### What is collected -/

/-- What the scores of some findings are. -/
structure Collapses (fs : List Finding) (scores : Entries Text Binary64) : Prop where
  /-- The reflexes come in the order of their first well-formed findings. -/
  ordered : Entries.keys scores = (fs.filterMap Finding.reflex?).eraseDups
  named : ∀ id, id ∈ Entries.keys scores ↔ ∃ f ∈ fs, ∃ n, f.Gives id n
  highest : ∀ id x, Entries.get? scores id = some x → ∃ n, IsHighest fs id n ∧ n.Clamps x
  /-- The scores pass the check of a request as they are. -/
  checked : ∀ e ∈ scores, checkScore (.text e.1) (.float e.2) = .ok e.2

theorem exists_collects (inRange : ∀ f ∈ fs, f.IsInRange) :
  ∃ scores, collectScores fs = .ok scores ∧ Collects fs scores
  := by
  obtain ⟨scores, collected, collects, -⟩ | ⟨-, f, mem, beyond⟩ := collectScores_cases fs
  · exact ⟨scores, collected, collects⟩
  · exact absurd (inRange f mem) (Finding.entry?_error beyond).2

theorem keys_collectScores (collected : collectScores fs = .ok scores) :
  Entries.keys scores = (fs.filterMap Finding.reflex?).eraseDups ∧ (Entries.keys scores).Nodup
  := by
  have empty : (Entries.keys ([] : Entries Text Binary64)).Nodup := List.nodup_nil
  exact keys_collectFrom empty collected

theorem mem_reflexes_iff :
  id ∈ (fs.filterMap Finding.reflex?).eraseDups ↔ ∃ f ∈ fs, ∃ n, f.Gives id n
  := by
  rw [List.mem_eraseDups, List.mem_filterMap]
  simp only [Finding.reflex?_eq_some_iff]

theorem collapses_of_collects (inRange : ∀ f ∈ fs, f.IsInRange)
    (collected : collectScores fs = .ok scores) (collects : Collects fs scores) :
  Collapses fs scores
  where
  ordered := (keys_collectScores collected).1
  named id := by rw [(keys_collectScores collected).1, mem_reflexes_iff]
  highest id x found := collects.highest inRange found
  checked e mem := checkScore_eq_ok_iff.mpr ⟨_, rfl, rfl, collects.unit e mem⟩

/-- Findings with scores of the format have a mapping of scores: those of the reflexes that they
speak of, each the highest one.  As a mapping it is that of any findings with the same members, and
findings in a row have the higher scores of both parts. -/
theorem collectScores_collapses (inRange : ∀ f ∈ fs, f.IsInRange) :
  ∃ scores, collectScores fs = .ok scores ∧ Collapses fs scores
    ∧ (∀ fs', (∀ f, f ∈ fs' ↔ f ∈ fs) →
      ∃ scores', collectScores fs' = .ok scores' ∧ scores'.Perm scores)
    ∧ ∀ fs', (∀ f ∈ fs', f.IsInRange) →
      ∃ scores' both, collectScores fs' = .ok scores' ∧ collectScores (fs ++ fs') = .ok both
        ∧ ∀ id, Entries.get? both id
          = Option.merge Binary64.max (Entries.get? scores id) (Entries.get? scores' id)
  := by
  obtain ⟨scores, collected, collects⟩ := exists_collects inRange
  refine ⟨scores, collected, collapses_of_collects inRange collected collects, ?rearranged, ?joined⟩
  case rearranged =>
    intro fs' same
    obtain ⟨scores', collected', collects'⟩ := exists_collects fun f mem =>
      inRange f ((same f).mp mem)
    refine ⟨scores', collected', ?_⟩
    apply perm_of_get?_eq (keys_collectScores collected').2 (keys_collectScores collected).2
    exact collects'.get?_eq collects (sameEvidence_of_mem fun f _ => same f)
  case joined =>
    intro fs' inRange'
    obtain ⟨scores', collected', collects'⟩ := exists_collects inRange'
    obtain ⟨both, collectedBoth, collectsBoth⟩ :=
      exists_collects (List.forall_mem_append.mpr ⟨inRange, inRange'⟩)
    exact ⟨scores', both, collected', collectedBoth, collects.get?_append collects' collectsBoth⟩

/-- Findings of two reflexes, with scores beyond the unit interval on both sides and some that are
malformed. -/
def mixedFindings : List Finding :=
  [{ Finding.empty with reflexId := .text "claim", score := .float 0.5 },
    { Finding.empty with reflexId := .text "tone", score := .float (.infinite true) },
    { Finding.empty with reflexId := .text "claim", score := .int 7 },
    { Finding.empty with reflexId := .text "claim", score := .float .nan },
    { Finding.empty with reflexId := .null, score := .float 0.9 },
    { Finding.empty with reflexId := .text "hint", score := .bool true },
    { Finding.empty with reflexId := .text "tone", score := .float (Binary64.neg 0) }]

theorem inRange_mixedFindings :
  ∀ f ∈ mixedFindings, f.IsInRange
  := by
  have seven : Binary64.ofInt? 7 ≠ none := by decide +kernel
  simp [mixedFindings, Finding.empty, Finding.IsInRange, Number.toBinary64?, seven]

theorem collectScores_collapses_mixed :
  (∀ f ∈ mixedFindings, f.IsInRange)
    ∧ ∃ scores, collectScores mixedFindings = .ok scores ∧ Collapses mixedFindings scores
      ∧ Entries.keys scores = ["claim", "tone"]
      ∧ (∃ scores', collectScores (mixedFindings ++ mixedFindings.reverse) = .ok scores'
        ∧ scores'.Perm scores)
      ∧ ∃ both, collectScores (mixedFindings ++ mixedFindings) = .ok both
        ∧ ∀ id, Entries.get? both id
          = Option.merge Binary64.max (Entries.get? scores id) (Entries.get? scores id)
  := by
  obtain ⟨scores, collected, collapses, rearranged, joined⟩ :=
    collectScores_collapses inRange_mixedFindings
  obtain ⟨scores', both, collected', collectedBoth, higher⟩ := joined _ inRange_mixedFindings
  rw [collected] at collected'
  cases collected'
  have keys : Entries.keys scores = ["claim", "tone"] := by
    rw [collapses.ordered]
    decide +kernel
  exact ⟨inRange_mixedFindings, scores, collected, collapses, keys, rearranged _ (by simp), both,
    collectedBoth, higher⟩

end ReflexPolicy

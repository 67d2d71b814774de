import ReflexPolicy.Proofs.Detector.Collected
import ReflexPolicy.Proofs.Detector.Findings
import ReflexPolicy.Proofs.Detector.Isolation

/-!
# What a scorer finds

A reply is text that nobody vouches for.  What a scorer finds in it are the scores that count, in
the order of the reply: those of reflexes of the catalogue that are numbers.  Each reflex is found
once, under its label and with a binary64 number of the unit interval.  The findings are collected
as they are, and no evaluation is rejected on account of them.
-/

namespace ReflexPolicy

theorem exists_of_mem_right {α β : Type} {R : α → β → Prop} {as : List α} {bs : List β}
    (related : List.Forall₂ R as bs) {b : β} (mem : b ∈ bs) :
  ∃ a ∈ as, R a b
  := by
  induction related with
  | nil => cases mem
  | cons first _ ih =>
    obtain rfl | mem := List.mem_cons.mp mem
    · exact ⟨_, List.mem_cons_self, first⟩
    · obtain ⟨a, mem, related⟩ := ih mem
      exact ⟨a, List.mem_cons_of_mem _ mem, related⟩

namespace Reply

/-! ### Scores of a reply -/

/-- The entries under a name in what a reply says, if it says a mapping with a mapping there. -/
def partIn (name : String) : Option Value → Entries Scalar Value
  | some (.map es) => entriesOf (Value.field es name)
  | _ => []

/-- What a reply says. -/
def said (reply : String) : Except Fault (Option Value) :=
  valueOf (unfenced (Text.strip reply.toList))

/-- The entries of the scores of a reply, in their order. -/
def scoresOf (reply : String) : Entries Scalar Value :=
  match said reply with
  | .ok v => partIn "scores" v
  | .error _ => []

/-- The entry is one of a reflex of the catalogue, and holds a number. -/
def counts (catalogue : Entries Scalar Value) (e : Scalar × Value) : Bool :=
  Entries.has catalogue e.1 && e.2.number?.isSome

/-- The finding is that of an entry of the scores: of its reflex, under the label of the catalogue,
and with its number moved into the unit interval. -/
structure Tells (catalogue : Entries Scalar Value) (e : Scalar × Value) (f : Finding) : Prop where
  id : f.reflexId = .scalar e.1
  label : Entries.get? catalogue e.1 = some f.label
  score : ∃ n x, e.2 = .number n ∧ f.score = .float x ∧ n.Clamps x

variable {catalogue rationales : Entries Scalar Value} {e : Scalar × Value}

theorem findings_of_said {reply : String} {v : Option Value} (read : said reply = .ok v) :
  findings catalogue reply
    = findingsOf catalogue (partIn "rationale" v) (partIn "scores" v)
  := by
  rw [said] at read
  rw [findings, read]
  cases v with
  | none => rfl
  | some v => cases v <;> rfl

theorem findings_of_unread {reply : String} {f : Fault} (unread : said reply = .error f) :
  findings catalogue reply = .error f
  := by
  rw [said] at unread
  rw [findings, unread]
  rfl

/-- An entry that does not count is passed over; one that counts is found, or else its number lies
beyond the format. -/
theorem finding?_cases (catalogue rationales : Entries Scalar Value) (e : Scalar × Value) :
  counts catalogue e = false ∧ finding? catalogue rationales e.1 e.2 = .ok none
    ∨ counts catalogue e = true ∧ (∃ n, e.2 = .number n ∧ n.toBinary64? = none)
      ∧ finding? catalogue rationales e.1 e.2 = .error .tooLarge
    ∨ counts catalogue e = true ∧ (∃ n x, e.2 = .number n ∧ n.toBinary64? = some x)
      ∧ ∃ f, finding? catalogue rationales e.1 e.2 = .ok (some f) ∧ Tells catalogue e f
  := by
  obtain ⟨id, score⟩ := e
  rw [finding?, counts, Entries.has]
  cases listed : Entries.get? catalogue id with
  | none => exact .inl ⟨rfl, rfl⟩
  | some label =>
    cases number : score.number? with
    | none => exact .inl ⟨rfl, rfl⟩
    | some n =>
      have numbered := Value.number?_eq_some_iff.mp number
      cases given : n.toBinary64? with
      | none => exact .inr (.inl ⟨rfl, ⟨n, numbered, given⟩, by simp [given]⟩)
      | some x =>
        refine .inr (.inr ⟨rfl, ⟨n, x, numbered, given⟩, _, by simp only [given]; rfl, ?_⟩)
        exact {
          id := rfl
          label := listed
          score := ⟨n, x.clampUnit, numbered, rfl, Number.clamps_of_toBinary64? given⟩ }

/-- What is found are the entries that count, in their order. -/
theorem tells_of_findingsOf {es : Entries Scalar Value} {fs : List Finding}
    (found : findingsOf catalogue rationales es = .ok fs) :
  List.Forall₂ (Tells catalogue) (es.filter (counts catalogue)) fs
  := by
  induction es generalizing fs with
  | nil =>
    cases found
    exact .nil
  | cons e rest ih =>
    simp only [findingsOf, bind_eq_ok, pure_eq_ok] at found
    obtain ⟨first, foundFirst, others, foundOthers, rfl⟩ := found
    obtain ⟨passed, given⟩ | ⟨-, -, given⟩ | ⟨counted, -, f, given, tells⟩ :=
      finding?_cases catalogue rationales e
    · rw [given] at foundFirst
      cases foundFirst
      rw [List.filter_cons_of_neg (by simp [passed])]
      exact ih foundOthers
    · rw [given] at foundFirst
      cases foundFirst
    · rw [given] at foundFirst
      cases foundFirst
      rw [List.filter_cons_of_pos counted]
      exact .cons tells (ih foundOthers)

/-- The scores of a reply are the entries of a value of JSON, with no key twice. -/
theorem exists_scoresOf (reply : String) :
  ∃ v : Value, v.IsJson ∧ v.IsKeyed ∧ scoresOf reply = entriesOf v
  := by
  rw [scoresOf]
  split
  · rename_i v read
    rw [partIn.eq_def]
    split
    · have plain := of_valueOf Json.isReadable_isJson read
      cases of_valueOf Json.isReadable_isKeyed read with
      | map _ keyed =>
        exact ⟨_, isJson_field plain "scores", field_of_forall (.scalar _) keyed "scores", rfl⟩
    · exact ⟨.null, .scalar trivial, .scalar _, rfl⟩
  · exact ⟨.null, .scalar trivial, .scalar _, rfl⟩

theorem keys_scoresOf (reply : String) :
  ∀ e ∈ scoresOf reply, ∃ t, e.1 = .text t
  := by
  obtain ⟨v, plain, -, same⟩ := exists_scoresOf reply
  rw [same]
  exact keys_entriesOf plain

theorem isDistinct_entriesOf {v : Value} (keyed : v.IsKeyed) :
  (entriesOf v).IsDistinct
  := by
  cases keyed with
  | scalar _ => exact .nil
  | list _ => exact .nil
  | map distinct _ => exact distinct

theorem nodup_keys_scoresOf (reply : String) :
  (Entries.keys (scoresOf reply)).Nodup
  := by
  have texts := keys_scoresOf reply
  obtain ⟨v, -, keyed, same⟩ := exists_scoresOf reply
  rw [same] at texts ⊢
  refine (isDistinct_entriesOf keyed).imp_of_mem ?_
  rintro k _ key - apart rfl
  obtain ⟨e, mem, rfl⟩ := List.mem_map.mp key
  obtain ⟨t, text⟩ := texts e mem
  rw [text, show (Scalar.text t == .text t) = (Scalar.text t).same (.text t) from rfl,
    Scalar.same_text_iff.mpr rfl] at apart
  cases apart

end Reply

/-! ### Collecting -/

/-- The entry has the reflex of the finding and its score, which needs no correction. -/
structure Finding.Bears (f : Finding) (e : Text × Binary64) : Prop where
  id : f.reflexId = .text e.1
  score : f.score = .float e.2
  unit : e.2.isUnit = true
  unsigned : e.2.IsUnsigned

theorem Finding.Bears.entry? {f : Finding} {e : Text × Binary64} (bears : f.Bears e) :
  f.entry? = .ok (some e)
  := by
  have gives : f.Gives e.1 (.float e.2) := by
    refine ⟨bears.id, bears.score, ?_⟩
    intro unnumbered
    have number := Binary64.isNan_of_isUnit bears.unit
    rw [Number.float.inj unnumbered] at number
    cases number
  rw [gives.entry? rfl, Binary64.clampUnit_of_isUnsigned bears.unsigned bears.unit]

variable {fs : List Finding} {scores before : Entries Text Binary64}

/-- Scores of reflexes that are new are collected behind the others, as they are. -/
theorem collectFrom_of_bears (bears : List.Forall₂ Finding.Bears fs scores)
    (nodup : (Entries.keys (before ++ scores)).Nodup) :
  collectFrom before fs = .ok (before ++ scores)
  := by
  induction bears generalizing before with
  | nil => rw [collectFrom, List.append_nil]
  | @cons f e fs scores first bears ih =>
    have absent : Entries.get? before e.1 = none := by
      by_contra found
      obtain ⟨x, found⟩ := Option.ne_none_iff_exists'.mp found
      have mem := Entries.mem_keys_iff.mpr ⟨x, found⟩
      rw [Entries.keys, List.map_append, List.map_cons] at nodup
      exact List.disjoint_of_nodup_append nodup mem List.mem_cons_self
    have raised : raiseScore before e.1 e.2 = before ++ [e] := by
      rw [raiseScore, absent]
      exact Entries.put_of_absent (by rw [Entries.has, absent]; rfl) e.2
    rw [List.append_cons] at nodup ⊢
    rw [collectFrom, first.entry?]
    dsimp only
    rw [raised, ih nodup]

namespace Reply

variable {catalogue : Entries Scalar Value} {es : Entries Scalar Value}

/-! ### Findings of a reply -/

/-- The findings are what a reply says of the reflexes of a catalogue. -/
structure Supports (catalogue : Entries Scalar Value) (reply : String) (fs : List Finding) :
    Prop where
  entries : List.Forall₂ (Tells catalogue) ((scoresOf reply).filter (counts catalogue)) fs
  named : ∀ f ∈ fs, ∃ id, f.reflexId = .text id ∧ Entries.get? catalogue (.text id) = some f.label
  units : ∀ f ∈ fs, ∃ x : Binary64, f.score = .float x ∧ x.isUnit = true ∧ x.isNan = false
  distinct : (fs.map Finding.reflexId).Nodup

theorem exists_bears (texts : ∀ e ∈ es, ∃ t, e.1 = .text t)
    (tells : List.Forall₂ (Tells catalogue) es fs) :
  ∃ scores, List.Forall₂ Finding.Bears fs scores
    ∧ Entries.keys es = (Entries.keys scores).map .text
  := by
  induction tells with
  | nil => exact ⟨[], .nil, rfl⟩
  | @cons e f es fs first tells ih =>
    obtain ⟨⟨t, text⟩, texts⟩ := List.forall_mem_cons.mp texts
    obtain ⟨scores, bears, keys⟩ := ih texts
    obtain ⟨n, x, -, score, clamps⟩ := first.score
    refine ⟨(t, x) :: scores, .cons ?_ bears, ?_⟩
    · exact {
        id := by rw [first.id, text]
        score := score
        unit := clamps.isUnit
        unsigned := clamps.unsigned }
    · rw [Entries.keys] at keys ⊢
      rw [List.map_cons, keys, text]
      rfl

theorem reflexIds_of_bears (bears : List.Forall₂ Finding.Bears fs scores) :
  fs.map Finding.reflexId = (Entries.keys scores).map Value.text
  := by
  induction bears with
  | nil => rfl
  | cons first _ ih =>
    rw [Entries.keys] at ih ⊢
    rw [List.map_cons, List.map_cons, List.map_cons, first.id, ih]

theorem supports_of_findings {reply : String} (found : findings catalogue reply = .ok fs) :
  Supports catalogue reply fs ∧ ∃ scores, collectScores fs = .ok scores
    ∧ List.Forall₂ Finding.Bears fs scores
  := by
  have tells : List.Forall₂ (Tells catalogue) ((scoresOf reply).filter (counts catalogue)) fs := by
    cases read : said reply with
    | error f =>
      rw [findings_of_unread read] at found
      cases found
    | ok v =>
      rw [findings_of_said read] at found
      rw [scoresOf, read]
      exact tells_of_findingsOf found
  have texts : ∀ e ∈ (scoresOf reply).filter (counts catalogue), ∃ t, e.1 = .text t := by
    intro e mem
    exact keys_scoresOf reply e (List.mem_of_mem_filter mem)
  obtain ⟨scores, bears, keys⟩ := exists_bears texts tells
  have nodup : (Entries.keys scores).Nodup := by
    apply List.Nodup.of_map Scalar.text
    rw [← keys]
    exact (nodup_keys_scoresOf reply).sublist (List.filter_sublist.map Prod.fst)
  refine ⟨?supports, scores, collectFrom_of_bears bears nodup, bears⟩
  case supports =>
    exact {
      entries := tells
      named := by
        intro f mem
        obtain ⟨e, mem, told⟩ := exists_of_mem_right tells mem
        obtain ⟨t, text⟩ := texts e mem
        exact ⟨t, by rw [told.id, text], by rw [← text, told.label]⟩
      units := by
        intro f mem
        obtain ⟨e, -, told⟩ := exists_of_mem_right tells mem
        obtain ⟨n, x, -, score, clamps⟩ := told.score
        exact ⟨x, score, clamps.isUnit, Binary64.isNan_of_isUnit clamps.isUnit⟩
      distinct := by
        rw [reflexIds_of_bears bears]
        apply nodup.map
        intro a b same
        cases same
        rfl }

end Reply

namespace Scorer

variable {s : Scorer} {client : Client} {passage : String}

/-- A scorer with a client and a catalogue asks about a passage that is not blank. -/
theorem question?_of_prompt (connected : s.client = some client) (listed : s.catalogue ≠ [])
    (words : isBlankText passage = false) :
  s.question? passage = (s.prompt passage).map fun p => some (client, p)
  := by
  have listed : s.catalogue.isEmpty = false := by simpa using listed
  rw [question?, connected]
  simp only [listed, words, Bool.or_false, Bool.false_eq_true, if_false]

/-- Whatever a model replies about a passage that is not blank, the findings are what the reply says
of the catalogue.  They are collected as they are, and an evaluation of what is collected fails only
where the checks of the other fields do. -/
theorem findings_supported (connected : s.client = some client) (listed : s.catalogue ≠ [])
    (words : isBlankText passage = false) {reply : String}
    (replies : ∀ p, s.prompt passage = .ok p → client p = .text reply) {fs : List Finding}
    (found : s.findings passage = .ok fs) :
  Reply.Supports s.catalogue reply fs
    ∧ ∃ scores, collectScores fs = .ok scores ∧ List.Forall₂ Finding.Bears fs scores
      ∧ ∀ v c, Codex.ofValue v = .ok c → ∀ (d : Draft) (e : Fault),
        c.evaluate { d with scores := scoresValue scores } = .error e
          ↔ Draft.validate { d with scores := scoresValue [] } = .error e
  := by
  have found : Reply.findings s.catalogue reply = .ok fs := by
    rw [findings, question?_of_prompt connected listed words] at found
    obtain ⟨question, asked, found⟩ := bind_eq_ok.mp found
    obtain ⟨p, prompted, rfl⟩ := map_eq_ok.mp asked
    dsimp only at found
    rwa [replies p prompted] at found
  obtain ⟨supports, scores, collected, bears⟩ := Reply.supports_of_findings found
  have units : ∀ e ∈ scores, e.2.isUnit = true := by
    intro e mem
    obtain ⟨f, -, bears⟩ := exists_of_mem_right bears mem
    exact bears.unit
  refine ⟨supports, scores, collected, bears, ?_⟩
  intro v c loaded d e
  exact Codex.evaluate_scores_error_iff loaded d units

/-- A scorer of three reflexes whose model gives one answer to everything. -/
def answering (answer : Answer) : Scorer :=
  { catalogue := [(.text "claim", .text "Claims without data"), (.text "tone", .text "Urgency"),
      (.text "hint", .text "Entrapment")]
    session := []
    model := .text defaultModel
    client := some fun _ => answer }

/-- A fenced reply with scores that are no numbers, lie beyond the unit interval, are of no reflex
of the catalogue, or come twice. -/
def mixedReply : String :=
  "```json\n\x7b\"scores\": \x7b\"tone\": 0.5, \"ghost\": 0.5, \"claim\": 7, \"hint\": true, "
    ++ "\"tone\": NaN\x7d\x7d\n```"

theorem findings_supported_mixedReply :
  ∃ fs scores, (answering (.text mixedReply)).findings "some text" = .ok fs
    ∧ Reply.Supports (answering (.text mixedReply)).catalogue mixedReply fs
    ∧ fs.map (fun f => f.reflexId.text?) = [some ("tone" : Text), some ("claim" : Text)]
    ∧ collectScores fs = .ok scores ∧ List.Forall₂ Finding.Bears fs scores
  := by
  have computed : passes (fun fs => fs.map (fun f => f.reflexId.text?)
      == [some ("tone" : Text), some ("claim" : Text)])
      ((answering (.text mixedReply)).findings "some text") = true := by decide +kernel
  obtain ⟨fs, found, ids⟩ := exists_of_passes computed
  obtain ⟨supports, scores, collected, bears, -⟩ :=
    findings_supported (s := answering (.text mixedReply)) rfl (by simp [answering]) (by decide)
      (fun _ _ => rfl) found
  exact ⟨fs, scores, found, supports, beq_iff_eq.mp ids, collected, bears⟩

end Scorer

end ReflexPolicy

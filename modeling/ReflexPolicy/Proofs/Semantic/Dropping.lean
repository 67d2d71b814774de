import Mathlib.Data.List.Permutation
import ReflexPolicy.Proofs.Codex.Faults
import ReflexPolicy.Proofs.Semantic.Scored

/-!
# Entries that are passed over

A scorer gives a list of findings, empty where its model fails or says nothing, unless the session
cannot be written, a number of the reply has too many digits, or a score that counts lies beyond the
format.  Entries of the scores that are of no reflex of the catalogue or hold no number are passed
over as if the reply did not have them; a single score beyond the format costs all the others.
-/

namespace ReflexPolicy

namespace Reply

/-- The entry counts, and holds a number beyond the format. -/
def IsBeyond (catalogue : Entries Scalar Value) (e : Scalar × Value) : Prop :=
  counts catalogue e = true ∧ ∃ n, e.2 = .number n ∧ n.toBinary64? = none

/-- The entry counts, and its number is one of the format. -/
def isUsable (catalogue : Entries Scalar Value) (e : Scalar × Value) : Bool :=
  counts catalogue e && (e.2.number?.bind Number.toBinary64?).isSome

/-- The scores without the entries that cannot be used. -/
def usableScores (catalogue : Entries Scalar Value) : Value → Value
  | .map scores => .map (scores.filter (isUsable catalogue))
  | v => v

/-- An object of a reply without the entries of its scores that cannot be used. -/
def cleaned (catalogue es : Entries Scalar Value) : Entries Scalar Value :=
  es.map fun e => (e.1, if e.1 = .text "scores" then usableScores catalogue e.2 else e.2)

/-- A whole number of the text has so many digits that it is not read. -/
inductive Overlong (cs : List Char) (n : Nat) : Prop where
  | whole (read : Json.read cs = .error (.tooManyDigits n)) : Overlong cs n
  /-- The text is not JSON, but the number stands between its braces. -/
  | braced {inside : List Char} (unread : Json.read cs = .error .malformed)
      (between : braced? cs = some inside) (read : Json.read inside = .error (.tooManyDigits n)) :
    Overlong cs n

/-- How findings of a reply fail. -/
inductive Fails (catalogue : Entries Scalar Value) (reply : String) : Fault → Prop where
  | overlong {n : Nat} (overlong : Overlong (unfenced (Text.strip reply.toList)) n) :
    Fails catalogue reply (.misuse (.tooManyDigits n))
  | beyond {e : Scalar × Value} (mem : e ∈ scoresOf reply) (beyond : IsBeyond catalogue e) :
    Fails catalogue reply .tooLarge

variable {catalogue rationales es : Entries Scalar Value} {reply : String}

/-! ### Scores -/

theorem isUsable_of_number {e : Scalar × Value} {n : Number} (counted : counts catalogue e = true)
    (numbered : e.2 = .number n) :
  isUsable catalogue e = n.toBinary64?.isSome
  := by rw [isUsable, counted, numbered, Bool.true_and, Value.number?, Option.bind_some]

theorem not_isBeyond {e : Scalar × Value}
    (usable : counts catalogue e = true → isUsable catalogue e = true) :
  ¬IsBeyond catalogue e
  := by
  rintro ⟨counted, n, numbered, beyond⟩
  have usable := usable counted
  rw [isUsable_of_number counted numbered, beyond] at usable
  cases usable

theorem findingsOf_cons {e : Scalar × Value} {first : Option Finding}
    (given : finding? catalogue rationales e.1 e.2 = .ok first) (rest : Entries Scalar Value) :
  findingsOf catalogue rationales (e :: rest)
    = (findingsOf catalogue rationales rest).map (first.toList ++ ·)
  := by
  rw [findingsOf, given]
  cases findingsOf catalogue rationales rest <;> rfl

/-- Scores fail to be found if one that counts lies beyond the format.  Else they are found as if
those that cannot be used were not there. -/
theorem findingsOf_usable (catalogue rationales es : Entries Scalar Value) :
  ∃ fs, findingsOf catalogue rationales (es.filter (isUsable catalogue)) = .ok fs
    ∧ ((∀ e ∈ es, ¬IsBeyond catalogue e) → findingsOf catalogue rationales es = .ok fs)
    ∧ ((∃ e ∈ es, IsBeyond catalogue e) → findingsOf catalogue rationales es = .error .tooLarge)
  := by
  induction es with
  | nil => exact ⟨[], rfl, fun _ => rfl, by simp⟩
  | cons e rest ih =>
    obtain ⟨fs, kept, fits, exceeds⟩ := ih
    rw [List.forall_mem_cons]
    simp only [List.mem_cons, exists_eq_or_imp]
    obtain ⟨passed, given⟩ | ⟨counted, ⟨n, numbered, beyond⟩, given⟩
      | ⟨counted, ⟨n, x, numbered, inside⟩, f, given, -⟩ := finding?_cases catalogue rationales e
    · have unused : ¬isUsable catalogue e = true := by simp [isUsable, passed]
      have within : ¬IsBeyond catalogue e := not_isBeyond (by simp [passed])
      rw [List.filter_cons_of_neg unused, findingsOf_cons given]
      refine ⟨fs, kept, ?_, ?_⟩
      · rintro ⟨-, within⟩
        rw [fits within]
        rfl
      · intro exceeding
        rw [exceeds (exceeding.resolve_left within)]
        rfl
    · have unused : ¬isUsable catalogue e = true := by
        simp [isUsable_of_number counted numbered, beyond]
      rw [List.filter_cons_of_neg unused]
      refine ⟨fs, kept, ?_, ?_⟩
      · rintro ⟨within, -⟩
        exact absurd ⟨counted, n, numbered, beyond⟩ within
      · intro _
        rw [findingsOf, given]
        rfl
    · have usable : isUsable catalogue e = true := by
        rw [isUsable_of_number counted numbered, inside, Option.isSome_some]
      rw [List.filter_cons_of_pos usable, findingsOf_cons given, findingsOf_cons given, kept]
      refine ⟨f :: fs, rfl, ?_, ?_⟩
      · rintro ⟨-, within⟩
        rw [fits within]
        rfl
      · intro exceeding
        rw [exceeds (exceeding.resolve_left (not_isBeyond fun _ => usable))]
        rfl

theorem said_eq_error_iff {f : Fault} :
  said reply = .error f
    ↔ ∃ n, f = .misuse (.tooManyDigits n) ∧ Overlong (unfenced (Text.strip reply.toList)) n
  := by
  rw [said, valueOf]
  generalize unfenced (Text.strip reply.toList) = cs
  constructor
  · intro unread
    split at unread
    · cases unread
    · rename_i n read
      cases unread
      exact ⟨n, rfl, .whole read⟩
    · rename_i unread'
      split at unread
      · cases unread
      · rename_i n read
        cases unread
        obtain ⟨inside, between, read⟩ := Option.map_eq_some_iff.mp read
        exact ⟨n, rfl, .braced unread' between read⟩
      · cases unread
  · rintro ⟨n, rfl, overlong⟩
    cases overlong with
    | whole read => rw [read]
    | braced unread between read =>
      rw [unread, between]
      simp only [Option.map_some, read]

/-- The findings of a reply fail in these ways only. -/
theorem findings_eq_error_iff {f : Fault} :
  findings catalogue reply = .error f ↔ Fails catalogue reply f
  := by
  cases read : said reply with
  | error f' =>
    obtain ⟨n, rfl, overlong⟩ := said_eq_error_iff.mp read
    rw [findings_of_unread read, Except.error.injEq]
    constructor
    · rintro rfl
      exact .overlong overlong
    · intro fails
      cases fails with
      | overlong overlong' =>
        have read' := said_eq_error_iff.mpr ⟨_, rfl, overlong'⟩
        rw [read] at read'
        exact Except.error.inj read'
      | beyond mem _ =>
        rw [scoresOf, read] at mem
        cases mem
  | ok v =>
    obtain ⟨fs, -, fits, exceeds⟩ :=
      findingsOf_usable catalogue (partIn "rationale" v) (partIn "scores" v)
    have scores : scoresOf reply = partIn "scores" v := by rw [scoresOf, read]
    rw [findings_of_said read]
    constructor
    · intro failed
      have exceeding : ∃ e ∈ partIn "scores" v, IsBeyond catalogue e := by
        by_contra within
        rw [fits fun e mem beyond => within ⟨e, mem, beyond⟩] at failed
        cases failed
      rw [exceeds exceeding] at failed
      cases failed
      obtain ⟨e, mem, beyond⟩ := exceeding
      exact .beyond (scores ▸ mem) beyond
    · intro fails
      cases fails with
      | overlong overlong =>
        have unread := said_eq_error_iff.mpr ⟨_, rfl, overlong⟩
        rw [read] at unread
        cases unread
      | beyond mem beyond => exact exceeds ⟨_, scores ▸ mem, beyond⟩

/-! ### Objects -/

theorem partIn_scores_cleaned (catalogue es : Entries Scalar Value) :
  partIn "scores" (some (.map (cleaned catalogue es)))
    = (partIn "scores" (some (.map es))).filter (isUsable catalogue)
  := by
  rw [partIn, partIn, Value.field, Value.field, Value.field?, Value.field?, cleaned,
    Scalar.get?_map fun key v => if key = .text "scores" then usableScores catalogue v else v]
  cases Entries.get? es (.text "scores") with
  | none => rfl
  | some v => cases v <;> rfl

theorem partIn_cleaned_of_ne {name : String} (apart : name ≠ "scores")
    (catalogue es : Entries Scalar Value) :
  partIn name (some (.map (cleaned catalogue es))) = partIn name (some (.map es))
  := by
  have apart : Scalar.text name ≠ .text "scores" := by simpa [Text.ofString_inj] using apart
  rw [partIn, partIn, Value.field, Value.field, Value.field?, Value.field?, cleaned,
    Scalar.get?_map fun key v => if key = .text "scores" then usableScores catalogue v else v]
  simp only [if_neg apart, Option.map_id']

/-- A reply without the entries that cannot be used has findings, and the reply itself has the same,
unless a score of it that counts lies beyond the format. -/
theorem findings_cleaned {reply' : String} (read : said reply = .ok (some (.map es)))
    (read' : said reply' = .ok (some (.map (cleaned catalogue es)))) :
  ∃ fs, findings catalogue reply' = .ok fs
    ∧ ((∀ e ∈ scoresOf reply, ¬IsBeyond catalogue e) → findings catalogue reply = .ok fs)
    ∧ ((∃ e ∈ scoresOf reply, IsBeyond catalogue e) → findings catalogue reply = .error .tooLarge)
  := by
  rw [findings_of_said read, findings_of_said read', partIn_scores_cleaned,
    partIn_cleaned_of_ne (by decide), scoresOf, read]
  apply findingsOf_usable

end Reply

namespace Scorer

/-- How the findings of a scorer fail: it asks, and cannot write the session, or fails at the
reply. -/
inductive Fails (s : Scorer) (passage : String) : Fault → Prop where
  | session {client : Client} {m : Mismatch} (connected : s.client = some client)
      (listed : s.catalogue ≠ []) (words : isBlankText passage = false)
      (unwritten : Json.write Json.Layout.sortedLine (.map s.session) = .error m) :
    Fails s passage (.mismatch m)
  | reply {client : Client} {p : Prompt} {reply : String} {f : Fault}
      (connected : s.client = some client) (listed : s.catalogue ≠ [])
      (words : isBlankText passage = false) (prompted : s.prompt passage = .ok p)
      (replied : client p = .text reply) (fails : Reply.Fails s.catalogue reply f) :
    Fails s passage f

variable {s : Scorer} {passage : String}

/-- A scorer asks, or finds nothing. -/
theorem findings_cases (s : Scorer) (passage : String) :
  (∃ client, s.client = some client ∧ s.catalogue ≠ [] ∧ isBlankText passage = false)
    ∨ s.findings passage = .ok []
  := by
  cases connected : s.client with
  | none =>
    rw [findings, question?, connected]
    exact .inr rfl
  | some client =>
    by_cases asks : s.catalogue ≠ [] ∧ isBlankText passage = false
    · exact .inl ⟨client, rfl, asks⟩
    · have silent : (s.catalogue.isEmpty || isBlankText passage) = true := by
        by_contra loud
        apply asks
        simpa using loud
      rw [findings, question?, connected]
      simp only [silent, if_true]
      exact .inr rfl

variable {client : Client}

theorem findings_of_asking (connected : s.client = some client) (listed : s.catalogue ≠ [])
    (words : isBlankText passage = false) :
  s.findings passage = s.prompt passage >>= fun p => s.findingsOfAnswer (client p)
  := by
  rw [findings, question?_of_prompt connected listed words]
  cases s.prompt passage <;> rfl

theorem prompt_eq_error_iff {f : Fault} :
  s.prompt passage = .error f
    ↔ ∃ m, Json.write Json.Layout.sortedLine (.map s.session) = .error m ∧ f = .mismatch m
  := by
  rw [prompt]
  cases Json.write Json.Layout.sortedLine (.map s.session) <;> simp [eq_comm]

theorem findings_eq_error_iff {f : Fault} :
  s.findings passage = .error f ↔ s.Fails passage f
  := by
  constructor
  · intro failed
    obtain ⟨client, connected, listed, words⟩ | silent := findings_cases s passage
    · rw [findings_of_asking connected listed words, bind_eq_error] at failed
      obtain unprompted | ⟨p, prompted, failed⟩ := failed
      · obtain ⟨m, unwritten, rfl⟩ := prompt_eq_error_iff.mp unprompted
        exact .session connected listed words unwritten
      · cases replied : client p with
        | text reply =>
          rw [replied] at failed
          exact .reply connected listed words prompted replied
            (Reply.findings_eq_error_iff.mp failed)
        | empty =>
          rw [replied] at failed
          cases failed
        | failed message =>
          rw [replied] at failed
          cases failed
    · rw [silent] at failed
      cases failed
  · intro fails
    cases fails with
    | session connected listed words unwritten =>
      rw [findings_of_asking connected listed words, bind_eq_error]
      exact .inl (prompt_eq_error_iff.mpr ⟨_, unwritten, rfl⟩)
    | reply connected listed words prompted replied fails =>
      rw [findings_of_asking connected listed words, prompted]
      show s.findingsOfAnswer _ = _
      rw [replied]
      exact Reply.findings_eq_error_iff.mpr fails

/-- A scorer fails only where it cannot write the session, where a number of the reply has too many
digits, and where a score of the reply that counts lies beyond the format.  It finds nothing if its
model fails or says nothing.  Of a reply that says an object it finds what it finds of the object
without the entries that cannot be used, unless it fails. -/
theorem findings_drop (s : Scorer) (passage : String) :
  (∀ f, s.findings passage = .error f ↔ s.Fails passage f)
    ∧ (∀ client p, s.client = some client → s.prompt passage = .ok p →
      (∀ reply, client p ≠ .text reply) → s.findings passage = .ok [])
    ∧ ∀ reply reply' es, Reply.said reply = .ok (some (.map es)) →
      Reply.said reply' = .ok (some (.map (Reply.cleaned s.catalogue es))) →
      ∃ fs, s.findingsOfAnswer (.text reply') = .ok fs
        ∧ ((∀ e ∈ Reply.scoresOf reply, ¬Reply.IsBeyond s.catalogue e) →
          s.findingsOfAnswer (.text reply) = .ok fs)
        ∧ ((∃ e ∈ Reply.scoresOf reply, Reply.IsBeyond s.catalogue e) →
          s.findingsOfAnswer (.text reply) = .error .tooLarge)
  := by
  refine ⟨fun f => findings_eq_error_iff, ?silent, ?cleaned⟩
  case silent =>
    intro client p connected prompted wordless
    obtain ⟨-, -, listed, words⟩ | silent := findings_cases s passage
    · rw [findings_of_asking connected listed words, prompted]
      show s.findingsOfAnswer (client p) = _
      cases replied : client p with
      | text reply => exact absurd replied (wordless reply)
      | empty => rfl
      | failed message => rfl
    · exact silent
  case cleaned =>
    intro reply reply' es read read'
    exact Reply.findings_cleaned read read'

/-- Scores that cannot be used, among others that can. -/
def strayScores : Entries Scalar Value :=
  [(.text "ghost", .int 1), (.text "tone", .float .nan), (.text "hint", .bool true),
    (.text "claim", .int 7)]

def strayReply : String :=
  "\x7b\"scores\": \x7b\"ghost\": 1, \"tone\": NaN, \"hint\": true, \"claim\": 7\x7d\x7d"

/-- The reply without the scores that cannot be used. -/
def usableReply : String := "\x7b\"scores\": \x7b\"tone\": NaN, \"claim\": 7\x7d\x7d"

theorem said_strayReply :
  Reply.said strayReply = .ok (some (.map [(.text "scores", .map strayScores)]))
  := by cbv

theorem said_usableReply :
  Reply.said usableReply = .ok (some (.map
    (Reply.cleaned (answering .empty).catalogue [(.text "scores", .map strayScores)])))
  := by
  have ghost : Reply.isUsable (answering .empty).catalogue (.text "ghost", .int 1) = false := by
    decide +kernel
  have tone : Reply.isUsable (answering .empty).catalogue (.text "tone", .float .nan) = true := by
    decide +kernel
  have hint : Reply.isUsable (answering .empty).catalogue (.text "hint", .bool true) = false := by
    decide +kernel
  have claim : Reply.isUsable (answering .empty).catalogue (.text "claim", .int 7) = true := by
    decide +kernel
  simp only [Reply.cleaned, List.map_cons, List.map_nil, if_true, Reply.usableScores, strayScores,
    List.filter, ghost, tone, hint, claim]
  cbv

theorem findings_drop_strayReply :
  ∃ fs, (answering .empty).findingsOfAnswer (.text usableReply) = .ok fs
    ∧ (answering .empty).findingsOfAnswer (.text strayReply) = .ok fs
    ∧ (answering .empty).findings "some text" = .ok []
  := by
  obtain ⟨-, silent, cleaned⟩ := findings_drop (answering .empty) "some text"
  obtain ⟨fs, found, same, -⟩ := cleaned _ _ _ said_strayReply said_usableReply
  obtain ⟨p, prompted⟩ := exists_of_isOk
    (x := (answering .empty).prompt "some text") (by decide +kernel)
  refine ⟨fs, found, same ?_, silent _ p rfl prompted (by simp)⟩
  have usable : ∀ e ∈ strayScores, Reply.counts (answering .empty).catalogue e = true →
      Reply.isUsable (answering .empty).catalogue e = true := by
    decide +kernel
  rw [Reply.scoresOf, said_strayReply]
  exact fun e mem => Reply.not_isBeyond (usable e mem)

/-- A reply with a number beyond the format behind another score. -/
def hugeLetters : List Char :=
  "\x7b\"scores\": \x7b\"tone\": 1, \"claim\": 1".toList ++ List.replicate 400 '0'
    ++ "\x7d\x7d".toList

theorem findings_hugeLetters :
  Reply.findings (answering .empty).catalogue (String.ofList hugeLetters) = .error .tooLarge
  := by
  have said : Reply.said (String.ofList hugeLetters)
      = Reply.valueOf (Reply.unfenced (Text.strip hugeLetters)) := by
    rw [Reply.said, String.toList_ofList]
  have computed : passes (fun v => fails Fault.isTooLarge
      (Reply.findingsOf (answering .empty).catalogue (Reply.partIn "rationale" v)
        (Reply.partIn "scores" v)))
      (Reply.valueOf (Reply.unfenced (Text.strip hugeLetters))) = true := by decide +kernel
  obtain ⟨v, read, computed⟩ := exists_of_passes computed
  obtain ⟨f, failed, found⟩ := exists_of_fails computed
  rw [Reply.findings_of_said (said.trans read), failed, Fault.isTooLarge_iff.mp found]

/-- A number beyond the format under one reflex costs the score of another one. -/
theorem lost_hugeLetters :
  (answering (.text (String.ofList hugeLetters))).findings "some text" = .error .tooLarge
    ∧ contribution "some text" (answering (.text (String.ofList hugeLetters))).detector = []
    ∧ ∃ fs, (answering (.text "\x7b\"scores\": \x7b\"tone\": 1\x7d\x7d")).findings "some text"
      = .ok fs ∧ fs.map (fun f => f.reflexId.text?) = [some ("tone" : Text)]
  := by
  have lost : (answering (.text (String.ofList hugeLetters))).findings "some text"
      = .error .tooLarge := by
    obtain ⟨p, prompted⟩ := exists_of_isOk
      (x := (answering (.text (String.ofList hugeLetters))).prompt "some text") (by decide +kernel)
    have fails := Reply.findings_eq_error_iff.mp findings_hugeLetters
    exact findings_eq_error_iff.mpr
      (.reply rfl (by simp [answering]) (by decide) prompted rfl fails)
  have computed : passes (fun fs => fs.map (fun f => f.reflexId.text?) == [some ("tone" : Text)])
      ((answering (.text "\x7b\"scores\": \x7b\"tone\": 1\x7d\x7d")).findings "some text")
      = true := by decide +kernel
  obtain ⟨fs, found, ids⟩ := exists_of_passes computed
  refine ⟨lost, ?_, fs, found, beq_iff_eq.mp ids⟩
  rw [contribution, detector, lost]

end Scorer

end ReflexPolicy

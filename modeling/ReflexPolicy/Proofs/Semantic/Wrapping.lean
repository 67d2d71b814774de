import Mathlib.Data.List.TakeWhile
import ReflexPolicy.Proofs.Semantic.Scored

/-!
# Replies in a wrapping

A model may wrap the object that it was asked for: into a fence, or between other words.  The
findings do not depend on it.  A fence is taken off with its lines, and what lies between them comes
back as it was; where the words around an object keep a reply from being JSON, the object is the
stretch from the first opening brace to the last closing one.
-/

namespace ReflexPolicy

namespace Text

variable {drop : Char → Bool} {c d : Char} {cs : List Char}

/-! ### Trimming -/

theorem dropWhile_append_cons (kept : drop c = false) (before after : List Char) :
  (before ++ c :: after).dropWhile drop = before.dropWhile drop ++ c :: after
  := by
  rw [List.dropWhile_append]
  split
  · rename_i dropped
    rw [List.isEmpty_iff.mp dropped, List.dropWhile_cons_of_neg (by simp [kept]), List.nil_append]
  · rfl

theorem trimEnd_append_cons (kept : drop c = false) (before after : List Char) :
  trimEnd drop (before ++ c :: after) = before ++ c :: trimEnd drop after
  := by simp [trimEnd, dropWhile_append_cons kept]

theorem trimEnd_eq_nil_iff :
  trimEnd drop cs = [] ↔ ∀ d ∈ cs, drop d = true
  := by simp [trimEnd, List.dropWhile_eq_nil_iff]

theorem trimEnd_prefix (drop : Char → Bool) (cs : List Char) :
  trimEnd drop cs <+: cs
  := by simpa [trimEnd] using List.reverse_prefix.mpr (List.dropWhile_suffix drop (l := cs.reverse))

/-- Around a stretch that neither begins nor ends with a blank, only what stands outside is
stripped. -/
theorem strip_around (opens : cs.head? = some c) (closes : cs.getLast? = some d)
    (first : isBlank c = false) (last : isBlank d = false) (before after : List Char) :
  strip (before ++ cs ++ after) = before.dropWhile isBlank ++ cs ++ trimEnd isBlank after
  := by
  obtain ⟨rest, rfl⟩ := List.head?_eq_some_iff.mp opens
  obtain ⟨front, split⟩ := List.getLast?_eq_some_iff.mp closes
  have untrimmed : before.dropWhile isBlank ++ c :: (rest ++ after)
      = (before.dropWhile isBlank ++ front) ++ d :: after := by
    rw [← List.cons_append, split]
    simp
  rw [strip, List.append_assoc, List.cons_append, dropWhile_append_cons first, untrimmed,
    trimEnd_append_cons last, split]
  simp

end Text

namespace Reply

/-- The text begins with an opening brace and ends with a closing one. -/
def IsBraced (cs : List Char) : Prop := cs.head? = some '\x7b' ∧ cs.getLast? = some '\x7d'

variable {cs object before after : List Char}

theorem IsBraced.exists_inside (braced : IsBraced object) :
  ∃ inside, object = '\x7b' :: (inside ++ ['\x7d'])
  := by
  obtain ⟨opens, closes⟩ := braced
  obtain ⟨rest, rfl⟩ := List.head?_eq_some_iff.mp opens
  obtain ⟨front, split⟩ := List.getLast?_eq_some_iff.mp closes
  cases front with
  | nil => simp at split
  | cons c inside =>
    rw [List.cons_append, List.cons.injEq] at split
    exact ⟨inside, by rw [split.2]⟩

theorem strip_around_object (braced : IsBraced object) (before after : List Char) :
  Text.strip (before ++ object ++ after)
    = before.dropWhile Text.isBlank ++ object ++ Text.trimEnd Text.isBlank after
  := Text.strip_around braced.1 braced.2 rfl rfl before after

theorem strip_object (braced : IsBraced object) :
  Text.strip object = object
  := by simpa [Text.trimEnd] using strip_around_object braced [] []

/-! ### Fences -/

theorem fence_eq : fence = ['\x60', '\x60', '\x60'] := rfl

theorem unfenced_of_not_prefix (plain : ¬fence <+: cs) :
  unfenced cs = cs
  := by rw [unfenced, if_neg (by rwa [List.isPrefixOf_iff_prefix])]

/-- What an object follows begins with a fence if the whole does. -/
theorem fence_prefix_of_object (braced : IsBraced object)
    (fenced : fence <+: before ++ object ++ after) :
  fence <+: before
  := by
  obtain ⟨inside, rfl⟩ := braced.exists_inside
  obtain ⟨rest, split⟩ := fenced
  rw [List.append_assoc] at split
  obtain ⟨more, same, -⟩ | ⟨more, same, split⟩ := List.append_eq_append_iff.mp split
  · exact ⟨more, same.symm⟩
  · cases more with
    | nil => exact ⟨[], by rw [same]; simp⟩
    | cons c more =>
      obtain ⟨rfl, -⟩ := List.cons.inj split
      have mem : '\x7b' ∈ fence := by rw [same]; simp
      exact absurd mem (by decide)

/-- A fence stays where blanks are stripped. -/
theorem fence_prefix_strip (fenced : fence <+: cs.dropWhile Text.isBlank) :
  fence <+: Text.strip cs
  := by
  obtain ⟨info, split⟩ := fenced
  rw [fence_eq] at split ⊢
  have stretch (rest : List Char) : ['\x60', '\x60', '\x60'] ++ rest
      = ['\x60', '\x60'] ++ '\x60' :: rest := rfl
  rw [Text.strip, ← split, stretch, Text.trimEnd_append_cons rfl, ← stretch]
  exact List.prefix_append _ _

theorem linesOf_eq_splitOn (cs : List Char) :
  linesOf cs = cs.splitOn '\n'
  := by
  induction cs with
  | nil => rfl
  | cons c cs ih =>
    rw [linesOf, ih, List.splitOn_eq_splitOnP, List.splitOn_eq_splitOnP,
      List.splitOnP_cons_eq_if_modifyHead]
    split
    · rfl
    · cases split : List.splitOnP (· == '\n') cs with
      | nil => exact absurd split (List.splitOnP_ne_nil _ cs)
      | cons line lines => rfl

theorem linesOf_append_cons (before after : List Char) :
  linesOf (before ++ '\n' :: after) = linesOf before ++ linesOf after
  := by
  simp only [linesOf_eq_splitOn, List.splitOn_eq_splitOnP]
  exact List.splitOnP_append_cons before after rfl

theorem linesOf_of_notMem (single : '\n' ∉ cs) :
  linesOf cs = [cs]
  := by
  rw [linesOf_eq_splitOn, List.splitOn_eq_splitOnP]
  apply List.splitOnP_eq_singleton
  intro c mem
  rw [beq_eq_false_iff_ne]
  rintro rfl
  exact single mem

theorem intercalate_linesOf (cs : List Char) :
  List.intercalate ['\n'] (linesOf cs) = cs
  := by rw [linesOf_eq_splitOn, List.intercalate_splitOn]

theorem isFence_append (info : List Char) :
  isFence (fence ++ info) = true
  := by
  rw [isFence, List.isPrefixOf_iff_prefix]
  apply fence_prefix_strip
  rw [fence_eq, List.cons_append, List.dropWhile_cons_of_neg (by decide)]
  exact ⟨info, rfl⟩

/-- The lines between two fences come back as they were. -/
theorem unfenced_fenced {info : List Char} (single : '\n' ∉ info)
    (plain : ∀ line ∈ linesOf cs, isFence line = false) :
  unfenced (fence ++ info ++ '\n' :: (cs ++ '\n' :: fence)) = cs
  := by
  have opening : linesOf (fence ++ info) = [fence ++ info] := by
    apply linesOf_of_notMem
    rw [List.mem_append, not_or]
    exact ⟨by decide, single⟩
  have closing : linesOf fence = [fence] := linesOf_of_notMem (by decide)
  have closed : isFence fence = true := by simpa using isFence_append []
  have kept : (linesOf cs).filter (fun line => !isFence line) = linesOf cs := by
    rw [List.filter_eq_self]
    intro line mem
    rw [plain line mem, Bool.not_false]
  have fenced : fence.isPrefixOf (fence ++ info ++ '\n' :: (cs ++ '\n' :: fence)) = true := by
    rw [List.isPrefixOf_iff_prefix, List.append_assoc]
    exact List.prefix_append _ _
  rw [unfenced, if_pos fenced, linesOf_append_cons, linesOf_append_cons, opening, closing,
    List.filter_append, List.filter_append, kept]
  simp [isFence_append, closed, intercalate_linesOf]

/-! ### Braces -/

/-- The stretch between the first opening brace and the last closing one. -/
theorem braced?_around_object (braced : IsBraced object) (closed : '\x7b' ∉ before)
    (opened : '\x7d' ∉ after) :
  braced? (before ++ object ++ after) = some object
  := by
  obtain ⟨inside, rfl⟩ := braced.exists_inside
  have dropped : before.dropWhile (· != '\x7b') = [] := by
    rw [List.dropWhile_eq_nil_iff]
    rintro c mem
    rw [bne_iff_ne]
    rintro rfl
    exact closed mem
  have trimmed : Text.trimEnd (· != '\x7d') after = [] := by
    rw [Text.trimEnd_eq_nil_iff]
    rintro c mem
    rw [bne_iff_ne]
    rintro rfl
    exact opened mem
  have stretch : before ++ '\x7b' :: (inside ++ ['\x7d']) ++ after
      = before ++ '\x7b' :: (inside ++ '\x7d' :: after) := by simp
  have trimmed' : Text.trimEnd (· != '\x7d') ('\x7b' :: (inside ++ '\x7d' :: after))
      = '\x7b' :: (inside ++ ['\x7d']) := by
    rw [← List.cons_append, Text.trimEnd_append_cons rfl, trimmed, List.cons_append]
  rw [braced?, stretch, Text.dropWhile_append_cons rfl, dropped, List.nil_append]
  simp only [trimmed']

/-! ### What a wrapped reply says -/

variable {catalogue : Entries Scalar Value}

theorem findings_congr {reply reply' : String} (same : said reply = said reply') :
  findings catalogue reply = findings catalogue reply'
  := by
  cases read : said reply with
  | error f => rw [findings_of_unread read, findings_of_unread (same.symm.trans read)]
  | ok v => rw [findings_of_said read, findings_of_said (same.symm.trans read)]

theorem said_object {reply : String} (braced : IsBraced reply.toList) :
  said reply = valueOf reply.toList
  := by
  have plain : ¬fence <+: [] ++ reply.toList ++ [] := by
    intro fenced
    have short := (fence_prefix_of_object braced fenced).length_le
    simp [fence_eq] at short
  rw [said, strip_object braced, unfenced_of_not_prefix (by simpa using plain)]

theorem said_fenced {reply info blanks : String} (braced : IsBraced reply.toList)
    (plain : ∀ line ∈ linesOf reply.toList, isFence line = false) (single : '\n' ∉ info.toList)
    (blank : ∀ c ∈ blanks.toList, Text.isBlank c = true) :
  said ("```" ++ info ++ "\n" ++ reply ++ "\n```" ++ blanks) = said reply
  := by
  have letters : ("```" ++ info ++ "\n" ++ reply ++ "\n```" ++ blanks).toList
      = [] ++ (fence ++ info.toList ++ '\n' :: (reply.toList ++ '\n' :: fence)) ++ blanks.toList := by
    simp [fence_eq]
  have closes : (fence ++ info.toList ++ '\n' :: (reply.toList ++ '\n' :: fence)).getLast?
      = some '\x60' := List.getLast?_eq_some_iff.mpr
    ⟨fence ++ info.toList ++ '\n' :: (reply.toList ++ ['\n', '\x60', '\x60']), by simp [fence_eq]⟩
  have stripped := Text.strip_around rfl closes rfl rfl [] blanks.toList
  rw [said, letters, stripped, Text.trimEnd_eq_nil_iff.mpr blank, List.dropWhile_nil,
    List.nil_append, List.append_nil, unfenced_fenced single plain, said_object braced]

/-- Words around an object that keep a reply from being JSON are left out. -/
theorem said_surrounded {reply before after : String} {v : Value} (braced : IsBraced reply.toList)
    (read : Json.read reply.toList = .ok v) (closed : '\x7b' ∉ before.toList)
    (opened : '\x7d' ∉ after.toList) (unfenced : ¬fence <+: Text.strip before.toList)
    (unread : Json.read (Text.strip (before ++ reply ++ after).toList) = .error .malformed) :
  said (before ++ reply ++ after) = said reply
  := by
  have stripped := strip_around_object braced before.toList after.toList
  rw [String.toList_append, String.toList_append] at unread
  rw [said_object braced, said, String.toList_append, String.toList_append, unfenced_of_not_prefix,
    valueOf, valueOf, unread, read, stripped, braced?_around_object braced]
  · simp only [Option.map_some, read]
  · exact fun mem => closed ((List.dropWhile_suffix _).mem mem)
  · exact fun mem => opened ((Text.trimEnd_prefix _ _).mem mem)
  · rw [stripped]
    intro fenced
    exact unfenced (fence_prefix_strip (fence_prefix_of_object braced fenced))

end Reply

namespace Scorer

/-- The scorer with a model that gives one reply to everything. -/
def replying (s : Scorer) (reply : String) : Scorer :=
  { s with client := some fun _ => .text reply }

theorem findings_replying (s : Scorer) (reply passage : String) :
  (s.replying reply).findings passage
    = if s.catalogue.isEmpty || isBlankText passage then .ok []
      else s.prompt passage >>= fun _ => Reply.findings s.catalogue reply
  := by
  cases silent : s.catalogue.isEmpty || isBlankText passage with
  | true =>
    simp only [findings, question?, replying, silent, if_true]
    rfl
  | false =>
    simp only [findings, question?, replying, silent, Bool.false_eq_true, if_false]
    show (s.prompt passage).map _ >>= _ = _
    cases s.prompt passage <;> rfl

/-- A scorer finds the same in an object, in the object between the lines of a fence, and, if the
object is JSON, in the object between words that keep the whole from being JSON. -/
theorem findings_wrapped (s : Scorer) (passage : String) {object : String}
    (braced : Reply.IsBraced object.toList) :
  ((∀ line ∈ Reply.linesOf object.toList, Reply.isFence line = false) →
      ∀ info blanks : String, '\n' ∉ info.toList →
        (∀ c ∈ blanks.toList, Text.isBlank c = true) →
        (s.replying ("```" ++ info ++ "\n" ++ object ++ "\n```" ++ blanks)).findings passage
          = (s.replying object).findings passage)
    ∧ ∀ v, Json.read object.toList = .ok v → ∀ before after : String,
      '\x7b' ∉ before.toList → '\x7d' ∉ after.toList →
      ¬Reply.fence <+: Text.strip before.toList →
      Json.read (Text.strip (before ++ object ++ after).toList) = .error .malformed →
      (s.replying (before ++ object ++ after)).findings passage
        = (s.replying object).findings passage
  := by
  constructor
  · intro plain info blanks single blank
    have same := Reply.said_fenced braced plain single blank
    rw [findings_replying, findings_replying, Reply.findings_congr same]
  · intro v read before after closed opened unfenced unread
    have same := Reply.said_surrounded braced read closed opened unfenced unread
    rw [findings_replying, findings_replying, Reply.findings_congr same]

/-- An object of several lines, with braces and the mark of a fence inside a text. -/
def bracedReply : String :=
  "\x7b\"scores\": \x7b\"claim\": 0.5\x7d,\n \"rationale\": \x7b\"claim\": \"\x7d ```\"\x7d\x7d"

theorem findings_wrapped_bracedReply :
  Reply.IsBraced bracedReply.toList
    ∧ Json.read (Text.strip ("Scores: " ++ bracedReply ++ " (as asked)").toList) = .error .malformed
    ∧ ∃ fs, ((answering .empty).replying bracedReply).findings "some text" = .ok fs
      ∧ fs.map (fun f => f.reflexId.text?) = [some ("claim" : Text)]
      ∧ ((answering .empty).replying
        ("```" ++ "json" ++ "\n" ++ bracedReply ++ "\n```" ++ "\n")).findings "some text" = .ok fs
      ∧ ((answering .empty).replying
        ("Scores: " ++ bracedReply ++ " (as asked)")).findings "some text" = .ok fs
  := by
  have braced : Reply.IsBraced bracedReply.toList := by simp [Reply.IsBraced, bracedReply]
  have plain : ∀ line ∈ Reply.linesOf bracedReply.toList, Reply.isFence line = false := by
    decide +kernel
  obtain ⟨v, read⟩ := exists_of_isOk (x := Json.read bracedReply.toList) (by decide +kernel)
  have unread : fails (· == .malformed)
      (Json.read (Text.strip ("Scores: " ++ bracedReply ++ " (as asked)").toList)) = true := by
    decide +kernel
  obtain ⟨f, unread, malformed⟩ := exists_of_fails unread
  rw [beq_iff_eq.mp malformed] at unread
  have computed : passes (fun fs => fs.map (fun f => f.reflexId.text?) == [some ("claim" : Text)])
      (((answering .empty).replying bracedReply).findings "some text") = true := by decide +kernel
  obtain ⟨fs, found, ids⟩ := exists_of_passes computed
  obtain ⟨fenced, surrounded⟩ := findings_wrapped (answering .empty) "some text" braced
  refine ⟨braced, unread, fs, found, beq_iff_eq.mp ids, ?_, ?_⟩
  · have blank : ∀ c ∈ "\n".toList, Text.isBlank c = true := by
      simpa using (by decide : Text.isBlank '\n' = true)
    rw [fenced plain "json" "\n" (by decide) blank, found]
  · rw [surrounded v read "Scores: " " (as asked)" (by decide) (by decide) (by decide) unread, found]

end Scorer

end ReflexPolicy

import Mathlib.Tactic.Common
import ReflexPolicy.Yaml.Token

/-!
# What stops the reading of YAML

A text is not read as YAML when it is malformed, when its supply breaks off, or when a scalar of it is
spelled like a value that there is not.  `Reads` is the rule of a reading for a given stop of the
supply: whatever moves a cursor keeps the stop, and whatever fails has come upon the stop or a flaw of
the text.  It is shown of cursors, of the scalars that are read with them, and of tokens.
-/

namespace ReflexPolicy.Yaml

/-- The fault of a scalar that is spelled like a value that there is not. -/
inductive Misspells : Fault → Prop where
  | noCodePoint : Misspells (.misuse .noCodePoint)
  | escapeTooLarge : Misspells .escapeTooLarge
  | noDigits (base : Nat) : Misspells (.misuse (.noDigits base))
  | tooManyDigits {count : Nat} (many : Number.digitLimit < count) :
    Misspells (.misuse (.tooManyDigits count))
  | tooLarge : Misspells .tooLarge
  | calendar (fault : CalendarFault) : Misspells (.misuse (.calendar fault))

/-- What may stop a reading whose supply breaks off with a given fault, or does not. -/
inductive Stops (stop : Option ReadFault) : ReadFault → Prop where
  | malformed : Stops stop .malformed
  | supply {fault : ReadFault} (given : stop = some fault) : Stops stop fault
  | misspelt {cause : Fault} (misspells : Misspells cause) : Stops stop (.unusable cause)

/-! ### The rule of a reading -/

variable {stop : Option ReadFault} {α β : Type} {Q : α → Prop} {R : β → Prop}

/-- What is read has a property, unless the reading is stopped. -/
def Reads (stop : Option ReadFault) (x : Except ReadFault α) (Q : α → Prop) : Prop :=
  match x with
  | .ok a => Q a
  | .error fault => Stops stop fault

theorem reads_ok {a : α} (h : Q a) :
  Reads stop (.ok a) Q
  := h

theorem reads_malformed :
  Reads stop (.error .malformed) Q
  := Stops.malformed

theorem reads_bind {x : Except ReadFault α} {f : α → Except ReadFault β} (first : Reads stop x Q)
    (second : ∀ a, Q a → Reads stop (f a) R) :
  Reads stop (x >>= f) R
  := by
  cases x with
  | error fault => exact first
  | ok a => exact second a first

theorem reads_map {x : Except ReadFault α} {f : α → β} (first : Reads stop x Q)
    (second : ∀ a, Q a → R (f a)) :
  Reads stop (x.map f) R
  := by
  cases x with
  | error fault => exact first
  | ok a => exact second a first

theorem reads_ite {c : Prop} [Decidable c] {x y : Except ReadFault α} (first : Reads stop x Q)
    (second : Reads stop y Q) :
  Reads stop (if c then x else y) Q
  := by
  split
  · exact first
  · exact second

theorem reads_mapM {f : α → Except ReadFault β} (each : ∀ a, Reads stop (f a) fun _ => True)
    (as : List α) :
  Reads stop (as.mapM f) fun _ => True
  := by
  induction as with
  | nil => trivial
  | cons a as ih =>
    rw [List.mapM_cons]
    apply reads_bind (each a)
    intro b _
    apply reads_bind ih
    intro bs _
    trivial

/-! ### Cursors -/

namespace Cursor

variable {a : Cursor}

theorem stop_past (a : Cursor) (c : Char) (rest : List Char) :
  (a.past c rest).stop = a.stop
  := by
  rw [past]
  split <;> rfl

theorem stop_next (a : Cursor) :
  a.next.stop = a.stop
  := by
  rw [next]
  split
  · rfl
  · apply stop_past

theorem reads_reach (kept : a.stop = stop) (count : Nat) :
  Reads stop (a.reach count) fun _ => True
  := by
  rw [reach]
  split
  · trivial
  · rename_i fault given
    split
    · trivial
    · exact .supply (kept.symm.trans given)

theorem reads_look (kept : a.stop = stop) :
  Reads stop a.look fun _ => True
  := by
  apply reads_bind (reads_reach kept 1)
  intro _ _
  trivial

theorem reads_span (kept : a.stop = stop) (test : Char → Bool) :
  Reads stop (a.span test) fun found => found.2.stop = stop
  := by
  apply reads_bind (reads_reach kept _)
  intro _ _
  exact kept

theorem reads_skip (kept : a.stop = stop) (test : Char → Bool) :
  Reads stop (a.skip test) fun after => after.stop = stop
  := reads_map (reads_span kept test) fun _ kept => kept

theorem reads_break? (kept : a.stop = stop) :
  Reads stop a.break? fun found => ∀ r ∈ found, r.2.stop = stop
  := by
  apply reads_bind (reads_reach kept 1)
  intro _ _
  split
  · split
    · apply reads_bind (reads_reach kept 2)
      intro _ _
      apply reads_ok
      intro r mem
      rw [← Option.mem_some_iff.mp mem]
      exact (stop_next a).trans kept
    · exact reads_ok (by simp)
  · exact reads_ok (by simp)

theorem reads_afterComment (kept : a.stop = stop) :
  Reads stop a.afterComment fun after => after.stop = stop
  := by
  apply reads_bind (reads_skip kept _)
  intro gap kept
  split
  · exact reads_skip kept _
  · exact kept

theorem reads_isMark (kept : a.stop = stop) (mark : Char) :
  Reads stop (a.isMark mark) fun _ => True
  := by
  apply reads_bind (reads_reach kept 3)
  intro _ _
  split
  · apply reads_bind (reads_reach kept 4)
    intro _ _
    trivial
  · trivial

theorem reads_isDocumentMark (kept : a.stop = stop) :
  Reads stop a.isDocumentMark fun _ => True
  := by
  rw [isDocumentMark]
  split
  · exact reads_isMark kept _
  · exact reads_isMark kept _

end Cursor

open Cursor

variable {a : Cursor}

/-! ### Plain scalars -/

theorem reads_plainPartFrom (kept : a.stop = stop) (inFlow : Bool) :
  Reads stop (plainPartFrom inFlow a) fun _ => True
  := by
  apply reads_bind (reads_look kept)
  intro c _
  split
  · trivial
  · dsimp only
    apply reads_bind (reads_look (a := a.forward _) kept)
    intro d _
    split
    · apply reads_bind (reads_reach (a := a.forward _) kept 2)
      intro _ _
      trivial
    · trivial

theorem reads_plainBreaks (fuel : Nat) (kept : a.stop = stop) (acc : List Char) :
  Reads stop (plainBreaks fuel a acc) fun found => found.2.stop = stop
  := by
  induction fuel generalizing a acc with
  | zero => exact kept
  | succ fuel ih =>
    rw [plainBreaks]
    apply reads_bind (reads_look kept)
    intro c _
    split
    · exact ih ((stop_next a).trans kept) acc
    · apply reads_bind (reads_break? kept)
      intro found inside
      split
      · have below := inside _ rfl
        apply reads_bind (reads_isDocumentMark below)
        intro atMark _
        split
        · exact below
        · exact ih below _
      · exact kept

theorem reads_plainGap (kept : a.stop = stop) :
  Reads stop (plainGap a) fun found => found.2.1.stop = stop
  := by
  apply reads_bind (reads_span kept _)
  intro found kept
  apply reads_bind (reads_break? kept)
  intro below inside
  split
  · exact kept
  · have kept := inside _ rfl
    apply reads_bind (reads_isDocumentMark kept)
    intro atMark _
    split
    · exact kept
    · apply reads_bind (reads_plainBreaks _ kept [])
      intro found kept
      split
      · exact kept
      · exact kept

theorem reads_plainParts (inFlow : Bool) (indent : Int) (fuel : Nat) (kept : a.stop = stop)
    (acc gap : List Char) (ended : Bool) :
  Reads stop (plainParts inFlow indent fuel a acc gap ended) fun found => found.2.1.stop = stop
  := by
  induction fuel generalizing a acc gap ended with
  | zero => exact kept
  | succ fuel ih =>
    rw [plainParts]
    apply reads_bind (reads_plainPartFrom kept inFlow)
    intro part _
    split
    · exact kept
    · dsimp only
      apply reads_bind (reads_plainGap (a := a.forward _) kept)
      rintro ⟨between, after, lineEnded⟩ kept
      apply reads_bind (reads_look kept)
      intro c _
      split
      · exact kept
      · exact ih kept _ _ _

/-! ### Quoted scalars -/

theorem reads_letterOf (n : Nat) :
  Reads stop (letterOf n) fun _ => True
  := by
  rw [letterOf]
  split
  · trivial
  · split
    · exact Stops.misspelt .noCodePoint
    · exact Stops.misspelt .escapeTooLarge

theorem reads_hexLetter (kept : a.stop = stop) (width : Nat) :
  Reads stop (hexLetter width a) fun _ => True
  := by
  rw [hexLetter]
  split
  · exact reads_letterOf _
  · apply reads_bind (reads_reach kept _)
    intro _ _
    exact reads_malformed

theorem reads_quotedBreaks (fuel : Nat) (kept : a.stop = stop) (acc : List Char) :
  Reads stop (quotedBreaks fuel a acc) fun found => found.2.stop = stop
  := by
  induction fuel generalizing a acc with
  | zero => exact reads_malformed
  | succ fuel ih =>
    rw [quotedBreaks]
    apply reads_bind (reads_isDocumentMark kept)
    intro atMark _
    split
    · exact reads_malformed
    · apply reads_bind (reads_skip kept _)
      intro after kept
      apply reads_bind (reads_break? kept)
      intro found inside
      split
      · exact ih (inside _ rfl) _
      · exact kept

theorem reads_quotedGap (kept : a.stop = stop) :
  Reads stop (quotedGap a) fun found => found.2.stop = stop
  := by
  apply reads_bind (reads_span kept _)
  rintro ⟨gap, after⟩ kept
  apply reads_bind (reads_break? kept)
  intro found inside
  split
  · split
    · exact reads_malformed
    · exact kept
  · apply reads_bind (reads_quotedBreaks _ (inside _ rfl) _)
    rintro ⟨others, last⟩ kept
    exact kept

theorem reads_escaped (kept : a.stop = stop) :
  Reads stop (escaped a) fun found => found.2.stop = stop
  := by
  apply reads_bind (reads_look kept)
  intro c _
  split
  · exact reads_malformed
  · split
    · exact kept
    · split
      · apply reads_bind (reads_hexLetter (a := a.forward 1) kept _)
        intro l _
        exact kept
      · apply reads_bind (reads_break? kept)
        intro found inside
        split
        · apply reads_bind (reads_quotedBreaks _ (inside _ rfl) _)
          rintro ⟨breaks, last⟩ kept
          exact kept
        · exact reads_malformed

theorem reads_quotedParts (double : Bool) (fuel : Nat) (kept : a.stop = stop)
    (acc : List Letter) :
  Reads stop (quotedParts double fuel a acc) fun found => found.2.stop = stop
  := by
  induction fuel generalizing a acc with
  | zero => exact reads_malformed
  | succ fuel ih =>
    rw [quotedParts]
    apply reads_bind (reads_look kept)
    intro c _
    split
    · exact reads_malformed
    · split
      · apply reads_bind (reads_quotedGap kept)
        rintro ⟨gap, after⟩ kept
        exact ih kept _
      · split
        · apply reads_bind (reads_escaped (a := a.forward 1) kept)
          rintro ⟨found, after⟩ kept
          exact ih kept _
        · split
          · exact kept
          · split
            · apply reads_bind (reads_reach kept 2)
              intro _ _
              split
              · exact ih (a := a.forward 2) kept _
              · exact kept
            · exact ih (a := a.forward 1) kept _

/-! ### Block scalars -/

theorem reads_blockMarks (kept : a.stop = stop) :
  Reads stop (blockMarks a) fun found => found.2.stop = stop
  := by
  have next := (stop_next a).trans kept
  have nextTwice := (stop_next a.next).trans next
  apply reads_bind (reads_reach kept 1)
  intro _ _
  split
  · apply reads_bind (reads_look next)
    intro c _
    split
    · exact nextTwice
    · exact next
  · split
    · exact reads_malformed
    · apply reads_bind (reads_look next)
      intro c _
      split
      · exact nextTwice
      · exact next
  · exact kept

theorem reads_blockHeader (kept : a.stop = stop) :
  Reads stop (blockHeader a) fun found => found.2.stop = stop
  := by
  apply reads_bind (reads_blockMarks kept)
  rintro ⟨header, after⟩ kept
  dsimp only
  split
  · exact reads_malformed
  · apply reads_bind (reads_look kept)
    intro c _
    split
    · exact reads_malformed
    · apply reads_bind (reads_afterComment kept)
      intro comment kept
      apply reads_bind (reads_break? kept)
      intro found inside
      split
      · exact inside _ rfl
      · split
        · exact kept
        · exact reads_malformed

theorem reads_leadingBreaks (fuel : Nat) (kept : a.stop = stop) (acc : List Char)
    (deepest : Nat) :
  Reads stop (leadingBreaks fuel a acc deepest) fun found => found.2.2.stop = stop
  := by
  induction fuel generalizing a acc deepest with
  | zero => exact kept
  | succ fuel ih =>
    rw [leadingBreaks]
    apply reads_bind (reads_look kept)
    intro c _
    split
    · exact ih ((stop_next a).trans kept) _ _
    · apply reads_bind (reads_break? kept)
      intro found inside
      split
      · exact ih (inside _ rfl) _ _
      · exact kept

theorem reads_blankLines (depth fuel : Nat) (kept : a.stop = stop) (acc : List Char) :
  Reads stop (blankLines depth fuel a acc) fun found => found.2.stop = stop
  := by
  induction fuel generalizing a acc with
  | zero => exact kept
  | succ fuel ih =>
    rw [blankLines]
    apply reads_bind (reads_break? (a := indented depth a) kept)
    intro found inside
    split
    · exact ih (inside _ rfl) _
    · exact kept

theorem reads_blockLines (folded : Bool) (depth fuel : Nat) (kept : a.stop = stop)
    (acc breaks : List Char) :
  Reads stop (blockLines folded depth fuel a acc breaks) fun found => found.2.2.2.stop = stop
  := by
  induction fuel generalizing a acc breaks with
  | zero => exact kept
  | succ fuel ih =>
    rw [blockLines]
    apply reads_bind (reads_span kept _)
    rintro ⟨line, after⟩ kept
    apply reads_bind (reads_break? kept)
    intro found inside
    split
    · exact kept
    · apply reads_bind (reads_blankLines depth _ (inside _ rfl) _)
      rintro ⟨blank, start⟩ kept
      dsimp only
      split
      · exact ih kept _ _
      · exact kept

theorem reads_blockStart (header : BlockHeader) (least : Nat) (kept : a.stop = stop) :
  Reads stop (blockStart header least a) fun found => found.2.2.stop = stop
  := by
  rw [blockStart]
  dsimp only
  split
  · apply reads_bind (reads_leadingBreaks _ kept _ _)
    rintro ⟨breaks, deepest, start⟩ kept
    exact kept
  · apply reads_bind (reads_blankLines _ _ kept _)
    rintro ⟨breaks, start⟩ kept
    exact kept

theorem reads_blockScalar (folded : Bool) (indent : Int) (kept : a.stop = stop) :
  Reads stop (blockScalar folded indent a) fun found => found.2.stop = stop
  := by
  apply reads_bind (reads_blockHeader kept)
  rintro ⟨header, below⟩ kept
  apply reads_bind (reads_blockStart header _ kept)
  rintro ⟨breaks, depth, start⟩ kept
  dsimp only
  split
  · apply reads_bind (reads_blockLines folded depth _ kept _ _)
    rintro ⟨text, last, tail, after⟩ kept
    exact kept
  · exact kept

/-! ### Tokens -/

namespace Cutting

variable {s : Cutting}

theorem place_unwindTo (column : Int) (fuel : Nat) (s : Cutting) :
  (unwindTo column fuel s).place = s.place
  := by
  induction fuel generalizing s with
  | zero => rfl
  | succ fuel ih =>
    rw [unwindTo]
    split
    · split
      · rw [ih]
        rfl
      · rfl
    · rfl

theorem place_unwind (s : Cutting) (column : Int) :
  (s.unwind column).place = s.place
  := by
  rw [unwind]
  split
  · rfl
  · apply place_unwindTo

theorem place_deepen {column : Nat} {deeper : Cutting} (h : s.deepen column = some deeper) :
  deeper.place = s.place
  := by
  rw [deepen] at h
  split at h
  · cases h
    rfl
  · cases h

theorem place_begin (s : Cutting) (column : Nat) (t : Token) :
  (s.begin column t).place = s.place
  := by
  rw [begin]
  split
  · rename_i deeper given
    apply place_deepen given
  · rfl

theorem place_opened (s : Cutting) (column : Nat) (t : Token) :
  (if s.inFlow then s else s.begin column t).place = s.place
  := by
  split
  · rfl
  · apply place_begin

theorem reads_giveUp (c : Option Candidate) :
  Reads stop (giveUp c) fun _ => True
  := by
  rw [giveUp.eq_def]
  split
  · split
    · exact reads_malformed
    · trivial
  · trivial

theorem reads_dropCandidate (kept : s.place.stop = stop) :
  Reads stop s.dropCandidate fun u => u.place.stop = stop
  := by
  apply reads_bind (reads_giveUp _)
  intro k _
  exact kept

theorem reads_fresh (a : Cursor) (c : Option Candidate) :
  Reads stop (fresh a c) fun _ => True
  := by
  rw [fresh.eq_def]
  split
  · split
    · exact reads_giveUp _
    · trivial
  · trivial

theorem reads_refresh (kept : s.place.stop = stop) :
  Reads stop s.refresh fun t => t.place.stop = stop
  := by
  apply reads_bind (reads_fresh _ _)
  intro k _
  apply reads_bind (reads_mapM (reads_fresh _) _)
  intro ks _
  exact kept

theorem reads_mark (kept : s.place.stop = stop) :
  Reads stop s.mark fun u => u.place.stop = stop
  := by
  rw [mark]
  split
  · exact reads_map (reads_dropCandidate kept) fun _ kept => kept
  · exact kept

theorem reads_skipBlank (fuel : Nat) (kept : s.place.stop = stop) :
  Reads stop (skipBlank fuel s) fun u => u.place.stop = stop
  := by
  induction fuel generalizing s with
  | zero => exact kept
  | succ fuel ih =>
    rw [skipBlank]
    apply reads_bind (reads_afterComment kept)
    intro comment kept
    apply reads_bind (reads_break? kept)
    intro found inside
    split
    · exact ih (inside _ rfl)
    · exact kept

theorem reads_documentMark (kept : s.place.stop = stop) (t : Token) :
  Reads stop (s.documentMark t) fun u => u.place.stop = stop
  := by
  have unwound : (s.unwind (-1)).place.stop = stop := by
    rw [place_unwind]
    apply kept
  exact reads_map (reads_dropCandidate unwound) fun _ kept => kept

theorem reads_openFlow (kept : s.place.stop = stop) (t : Token) :
  Reads stop (s.openFlow t) fun u => u.place.stop = stop
  := reads_map (reads_mark kept) fun _ kept => kept

theorem reads_closeFlow (kept : s.place.stop = stop) (t : Token) :
  Reads stop (s.closeFlow t) fun u => u.place.stop = stop
  := by
  apply reads_bind (reads_dropCandidate kept)
  intro u kept
  split
  · exact reads_malformed
  · exact kept

theorem reads_comma (kept : s.place.stop = stop) :
  Reads stop s.comma fun u => u.place.stop = stop
  := reads_map (reads_dropCandidate kept) fun _ kept => kept

theorem reads_allowsMark (s : Cutting) :
  Reads stop s.allowsMark fun _ => True
  := by
  rw [allowsMark]
  split
  · exact reads_malformed
  · trivial

theorem reads_dash (kept : s.place.stop = stop) :
  Reads stop s.dash fun u => u.place.stop = stop
  := by
  apply reads_bind (reads_allowsMark s)
  intro _ _
  apply reads_bind (reads_dropCandidate (by rwa [place_opened]))
  intro u kept
  exact kept

theorem reads_question (kept : s.place.stop = stop) :
  Reads stop s.question fun u => u.place.stop = stop
  := by
  apply reads_bind (reads_allowsMark s)
  intro _ _
  apply reads_bind (reads_dropCandidate (by rwa [place_opened]))
  intro u kept
  exact kept

theorem stop_colonAfter (s : Cutting) (k : Candidate) :
  (s.colonAfter k).place.stop = s.place.stop
  := by
  simp only [colonAfter, pass, push, forward]
  split
  · rfl
  · split
    · rename_i deeper given
      have place := place_deepen given
      exact congrArg Cursor.stop place
    · rfl

theorem reads_colon (kept : s.place.stop = stop) :
  Reads stop s.colon fun u => u.place.stop = stop
  := by
  rw [colon]
  split
  · exact (stop_colonAfter s _).trans kept
  · apply reads_bind (reads_allowsMark s)
    intro _ _
    exact (congrArg Cursor.stop (place_opened s _ _)).trans kept

theorem reads_block (kept : s.place.stop = stop) (folded : Bool) :
  Reads stop (s.block folded) fun u => u.place.stop = stop
  := by
  apply reads_bind (reads_dropCandidate kept)
  intro u kept
  apply reads_bind (reads_blockScalar (a := u.place.forward 1) folded _ kept)
  rintro ⟨text, after⟩ kept
  exact kept

theorem reads_quoted (kept : s.place.stop = stop) (double : Bool) :
  Reads stop (s.quoted double) fun u => u.place.stop = stop
  := by
  apply reads_bind (reads_mark kept)
  intro u kept
  apply reads_bind (reads_quotedParts double _ (a := u.place.forward 1) kept _)
  rintro ⟨text, after⟩ kept
  exact kept

theorem reads_plain (kept : s.place.stop = stop) :
  Reads stop s.plain fun u => u.place.stop = stop
  := by
  apply reads_bind (reads_mark kept)
  intro u kept
  apply reads_bind (reads_plainParts _ _ _ kept _ _ _)
  rintro ⟨text, after, lineEnded⟩ kept
  exact kept

theorem reads_beginsPlain (kept : s.place.stop = stop) (c : Char) :
  Reads stop (s.beginsPlain c) fun _ => True
  := by
  rw [beginsPlain]
  split
  · trivial
  · apply reads_bind (reads_reach kept 2)
    intro _ _
    trivial

theorem reads_standsAlone (kept : s.place.stop = stop) :
  Reads stop s.standsAlone fun _ => True
  := by
  apply reads_bind (reads_reach kept 2)
  intro _ _
  trivial

theorem reads_isKeyMark (kept : s.place.stop = stop) :
  Reads stop s.isKeyMark fun _ => True
  := by
  rw [isKeyMark]
  split
  · trivial
  · exact reads_standsAlone kept

theorem reads_atDocument (kept : s.place.stop = stop) (mark : Char) :
  Reads stop (s.atDocument mark) fun _ => True
  := by
  rw [atDocument]
  split
  · exact reads_isMark kept mark
  · trivial

theorem reads_scalar (kept : s.place.stop = stop) (c : Char) :
  Reads stop (s.scalar c) fun u => u.place.stop = stop
  := by
  apply reads_ite (reads_block kept _)
  apply reads_ite (reads_block kept _)
  apply reads_ite (reads_quoted kept _)
  apply reads_ite (reads_quoted kept _)
  apply reads_bind (reads_beginsPlain kept c)
  intro begins _
  exact reads_ite (reads_plain kept) reads_malformed

theorem reads_token (kept : s.place.stop = stop) (c : Char) :
  Reads stop (s.token c) fun u => u.place.stop = stop
  := by
  have scalar := reads_scalar kept c
  apply reads_ite (reads_openFlow kept _)
  apply reads_ite (reads_openFlow kept _)
  apply reads_ite (reads_closeFlow kept _)
  apply reads_ite (reads_closeFlow kept _)
  apply reads_ite (reads_comma kept)
  apply reads_ite
  · apply reads_bind (reads_atDocument kept c)
    intro atDocument _
    apply reads_ite (reads_documentMark kept _)
    apply reads_bind (reads_standsAlone kept)
    intro alone _
    exact reads_ite (reads_dash kept) scalar
  apply reads_ite
  · apply reads_bind (reads_atDocument kept c)
    intro atDocument _
    exact reads_ite (reads_documentMark kept _) scalar
  apply reads_ite
  · apply reads_bind (reads_isKeyMark kept)
    intro isMark _
    exact reads_ite (reads_question kept) scalar
  apply reads_ite
  · apply reads_bind (reads_isKeyMark kept)
    intro isMark _
    exact reads_ite (reads_colon kept) scalar
  · exact scalar

theorem reads_finish (kept : s.place.stop = stop) :
  Reads stop s.finish fun _ => True
  := by
  have unwound : (s.unwind (-1)).place.stop = stop := by
    rw [place_unwind]
    apply kept
  exact reads_map (reads_dropCandidate unwound) fun _ _ => trivial

theorem reads_step (kept : s.place.stop = stop) :
  Reads stop s.step fun next => ∀ after, next = .inl after → after.place.stop = stop
  := by
  apply reads_bind (reads_skipBlank _ kept)
  intro here kept
  apply reads_bind (reads_refresh kept)
  intro t kept
  have kept : (t.unwind t.place.column).place.stop = stop := by
    rw [place_unwind]
    apply kept
  dsimp only
  apply reads_bind (reads_look kept)
  intro c _
  split
  · apply reads_bind (reads_finish kept)
    intro tokens _
    apply reads_ok
    intro after given
    cases given
  · apply reads_bind (reads_token kept _)
    intro after kept
    apply reads_bind (reads_reach kept 1)
    intro _ _
    apply reads_ok
    rintro _ ⟨⟩
    exact kept

/-- Tokens are stopped by what may stop their reading. -/
theorem stops_of_run (fuel : Nat) (kept : s.place.stop = stop) {fault : ReadFault}
    (stopped : (run fuel s).stopped = some fault) :
  Stops stop fault
  := by
  -- Every step is taken from another place, but the stop of the place stays.
  induction fuel generalizing s with
  | zero =>
    cases stopped
    exact .malformed
  | succ fuel ih =>
    have step := reads_step kept
    rw [run] at stopped
    cases given : s.step with
    | error fault' =>
      rw [given] at stopped step
      cases stopped
      exact step
    | ok next =>
      rw [given] at stopped step
      cases next with
      | inl after => exact ih (step after rfl) stopped
      | inr found => cases stopped

end Cutting

theorem stops_of_ofSupply {s : Supply} {fault : ReadFault}
    (stopped : (Tokens.ofSupply s).stopped = some fault) :
  Stops s.stop fault
  := Cutting.stops_of_run _ rfl stopped

end ReflexPolicy.Yaml

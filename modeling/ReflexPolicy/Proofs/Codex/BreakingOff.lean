import Mathlib.Tactic.Common
import ReflexPolicy.Codex.Document

/-!
# Readings that are broken off

The reading of a document is broken off at a whole number of the document and nowhere else: at one
that is beyond the binary64 format where a number is read, or at one with too many digits where a
text or a problem is written.  `Ensures` is the rule of a reading for a given set of whole numbers;
every section of a document is read by that rule for the whole numbers that the document holds.
-/

namespace ReflexPolicy

/-! ### Whole numbers in a value -/

namespace Value

/-- The whole number stands somewhere in the value, be it in a key. -/
inductive Holds (n : Int) : Value → Prop where
  | self : Holds n (.int n)
  | item {items : List Value} {v : Value} (mem : v ∈ items) (holds : Holds n v) :
    Holds n (.list items)
  | key {es : List (Scalar × Value)} {v : Value} (mem : (.number (.whole n), v) ∈ es) :
    Holds n (.map es)
  | entry {es : List (Scalar × Value)} {k : Scalar} {v : Value} (mem : (k, v) ∈ es)
    (holds : Holds n v) : Holds n (.map es)

theorem holds_of_number? {v : Value} {n : Int} (h : v.number? = some (.whole n)) :
  v.Holds n
  := by
  obtain rfl := Value.number?_eq_some_iff.mp h
  exact .self

/-- All whole numbers that stand in the value are among some. -/
def Within (S : Int → Prop) (v : Value) : Prop := ∀ n, v.Holds n → S n

variable {S : Int → Prop}

theorem within_null :
  Value.null.Within S
  := nofun

theorem within_float (x : Binary64) :
  (Value.float x).Within S
  := nofun

theorem within_text (t : Text) :
  (Value.text t).Within S
  := nofun

theorem within_nil :
  (Value.map []).Within S
  := by
  intro n holds
  cases holds with
  | key mem => cases mem
  | entry mem _ => cases mem

theorem Within.item {items : List Value} (within : (Value.list items).Within S) {v : Value}
    (mem : v ∈ items) :
  v.Within S
  := fun n holds => within n (.item mem holds)

theorem Within.key {es : Entries Scalar Value} (within : (Value.map es).Within S)
    {e : Scalar × Value} (mem : e ∈ es) :
  (Value.scalar e.1).Within S
  := by
  obtain ⟨k, v⟩ := e
  rintro n ⟨⟩
  apply within n (.key mem)

theorem Within.entry {es : Entries Scalar Value} (within : (Value.map es).Within S)
    {e : Scalar × Value} (mem : e ∈ es) :
  e.2.Within S
  := fun n holds => within n (.entry mem holds)

theorem Within.fieldD {es : Entries Scalar Value} (within : (Value.map es).Within S)
    (name : String) {default : Value} (other : default.Within S) :
  (Value.fieldD es name default).Within S
  := by
  rw [Value.fieldD, field?]
  cases given : Entries.get? es (.text name) with
  | none => apply other
  | some v =>
    obtain ⟨k, -, mem⟩ := Entries.mem_of_get? given
    apply within.entry mem

theorem Within.field {es : Entries Scalar Value} (within : (Value.map es).Within S)
    (name : String) :
  (Value.field es name).Within S
  := within.fieldD name within_null

end Value

/-! ### What breaks a reading off -/

namespace BreakOff

/-- The whole number is one at which a reading is broken off. -/
def Exceeds (n : Int) : BreakOff → Prop
  | tooLarge => Binary64.ofInt? n = none
  | tooLong => tenTo Number.digitLimit ≤ n.natAbs

/-- One of some whole numbers is the cause. -/
def DueTo (S : Int → Prop) (e : BreakOff) : Prop := ∃ n, S n ∧ e.Exceeds n

end BreakOff

namespace Value

variable {S : Int → Prop}

theorem Within.tooLong_scalar {s : Scalar} (within : (Value.scalar s).Within S)
    (long : s.isWritable = false) :
  BreakOff.tooLong.DueTo S
  := by
  cases s with
  | number x =>
    cases x with
    | whole n =>
      use n, within n .self
      simpa [Scalar.isWritable, Number.isWritable, BreakOff.Exceeds] using long
    | float x => cases long
  | _ => cases long

mutual

/-- What cannot be written holds a whole number with too many digits. -/
theorem Within.tooLong {v : Value} (within : v.Within S) (long : v.isWritable = false) :
  BreakOff.tooLong.DueTo S
  := by
  cases v with
  | scalar s => exact within.tooLong_scalar long
  | list items =>
    exact tooLong_items (fun v mem => within.item mem) (by simpa [isWritable] using long)
  | map es =>
    exact tooLong_entries (fun e mem => ⟨within.key mem, within.entry mem⟩)
      (by simpa [isWritable] using long)

theorem tooLong_items {items : List Value} (within : ∀ v ∈ items, v.Within S)
    (long : areWritable items = false) :
  BreakOff.tooLong.DueTo S
  := by
  cases items with
  | nil => simp [areWritable] at long
  | cons v rest =>
    obtain ⟨first, others⟩ := List.forall_mem_cons.mp within
    rw [areWritable, Bool.and_eq_false_iff] at long
    obtain long | long := long
    · exact first.tooLong long
    · exact tooLong_items others long

theorem tooLong_entries {es : List (Scalar × Value)}
    (within : ∀ e ∈ es, (Value.scalar e.1).Within S ∧ e.2.Within S)
    (long : entriesAreWritable es = false) :
  BreakOff.tooLong.DueTo S
  := by
  cases es with
  | nil => simp [entriesAreWritable] at long
  | cons e rest =>
    obtain ⟨k, v⟩ := e
    obtain ⟨⟨key, value⟩, others⟩ := List.forall_mem_cons.mp within
    rw [entriesAreWritable, Bool.and_eq_false_iff, Bool.and_eq_false_iff] at long
    obtain (long | long) | long := long
    · exact key.tooLong_scalar long
    · exact value.tooLong long
    · exact tooLong_entries others long

end

end Value

/-! ### The rule of a reading -/

namespace Reading

variable {S : Int → Prop} {α β : Type} {Q : α → Prop} {R : β → Prop}

/-- What is read has a property, unless the reading is broken off at one of some whole numbers. -/
def Ensures (S : Int → Prop) (x : Reading α) (Q : α → Prop) : Prop :=
  match x with
  | .ok (a, _) => Q a
  | .error e => e.DueTo S

theorem ensures_pure {a : α} (h : Q a) :
  Ensures S (.pure a) Q
  := h

theorem ensures_bind {x : Reading α} {f : α → Reading β} (first : x.Ensures S Q)
    (second : ∀ a, Q a → (f a).Ensures S R) :
  Ensures S (x >>= f) R
  := by
  change Ensures S (Reading.bind x f) R
  cases x with
  | error e => exact first
  | ok found =>
    obtain ⟨a, problems⟩ := found
    have next := second a first
    simp only [Ensures, Reading.bind] at next ⊢
    cases given : f a with
    | error e => simpa [given] using next
    | ok after => simpa [given] using next

/-- A problem is noted, unless it is about what cannot be written. -/
theorem ensures_note {p : Problem} (long : p.isWritable = false → BreakOff.tooLong.DueTo S) :
  Ensures S (note p) fun _ => True
  := by
  rw [note]
  cases writable : p.isWritable with
  | true => trivial
  | false => exact long writable

theorem ensures_require {condition : Bool} {p : Problem}
    (long : p.isWritable = false → BreakOff.tooLong.DueTo S) :
  Ensures S (require condition p) fun _ => True
  := by
  rw [require]
  split
  · trivial
  · exact ensures_note long

theorem ensures_instead {default : α} {p : Problem} (h : Q default)
    (long : p.isWritable = false → BreakOff.tooLong.DueTo S) :
  Ensures S (instead default p) Q
  := ensures_bind (ensures_note long) fun _ _ => ensures_pure h

theorem ensures_each {γ : Type} {f : γ → Reading β} {as : List γ}
    (h : ∀ a ∈ as, (f a).Ensures S fun _ => True) :
  Ensures S (each f as) fun _ => True
  := by
  induction as with
  | nil => trivial
  | cons a as ih =>
    obtain ⟨first, others⟩ := List.forall_mem_cons.mp h
    apply ensures_bind first
    intro b _
    apply ensures_bind (ih others)
    intro bs _
    trivial

end Reading

open Reading

/-! ### Parts of a document -/

variable {S : Int → Prop}

theorem ensures_readText {v : Value} (within : v.Within S) :
  (readText v).Ensures S fun _ => True
  := by
  rw [readText]
  cases writable : v.isWritable with
  | true => trivial
  | false => exact within.tooLong writable

/-- A number that is not in the format is whole. -/
theorem Value.Within.tooLarge {v : Value} (within : v.Within S) {n : Number}
    (number : v.number? = some n) (none : n.toBinary64? = none) :
  BreakOff.tooLarge.DueTo S
  := by
  cases n with
  | float x => cases none
  | whole n =>
    use n, within n (holds_of_number? number), none

theorem ensures_readUnit {place : Text} {default : Binary64} {v : Value} (within : v.Within S) :
  (readUnit place default v).Ensures S fun _ => True
  := by
  rw [readUnit]
  split
  · exact ensures_instead trivial within.tooLong
  · rename_i n number
    split
    · rename_i none
      exact within.tooLarge number none
    · split
      · trivial
      · exact ensures_instead trivial within.tooLong

theorem ensures_readSection {doc : Entries Scalar Value} (within : (Value.map doc).Within S)
    (name : String) :
  (readSection doc name).Ensures S fun es => (Value.map es).Within S
  := by
  rw [readSection]
  split
  · exact ensures_instead Value.within_nil nofun
  · rename_i es given
    apply ensures_pure
    rw [← given]
    apply within.field
  · exact ensures_instead Value.within_nil nofun

theorem ensures_readSettings {doc : Entries Scalar Value} (within : (Value.map doc).Within S)
    (name : String) :
  (readSettings doc name).Ensures S fun found => ∀ es ∈ found, (Value.map es).Within S
  := by
  have inside := within.field name
  simp only [readSettings]
  split
  · apply ensures_pure
    rintro es ⟨⟩
    apply Value.within_nil
  · split
    · rename_i es given
      apply ensures_pure
      rintro es ⟨⟩
      rw [← given]
      apply inside
    · exact ensures_instead nofun nofun

theorem ensures_readWord {α : Type} {parse : Value → Except Rejection α} {place : Text} {v : Value}
    (within : v.Within S) :
  (readWord parse place v).Ensures S fun _ => True
  := by
  rw [readWord]
  split
  · trivial
  · exact ensures_instead trivial within.tooLong

namespace Codex

variable {doc es : Entries Scalar Value}

/-! ### Risk tiers and modes -/

theorem ensures_readTier (within : (Value.map es).Within S) (tier : Tier) :
  (readTier es tier).Ensures S fun _ => True
  := by
  rw [readTier]
  split
  · rename_i raw given
    have inside : (Value.map raw).Within S := by
      rw [← given]
      apply within.field
    apply ensures_bind (ensures_readUnit (inside.field _))
    intro floor _
    apply ensures_bind (ensures_readUnit (inside.fieldD _ (Value.within_float 1)))
    intro citation _
    trivial
  · exact ensures_instead trivial nofun

theorem ensures_readTiers (within : (Value.map doc).Within S) :
  (readTiers doc).Ensures S fun _ => True
  := by
  apply ensures_bind (ensures_readSection within "tiers")
  intro es within
  apply ensures_bind (ensures_each fun tier _ => ensures_readTier within tier)
  intro parts _
  apply ensures_bind
  · apply ensures_each
    intro k mem
    obtain ⟨e, mem', rfl⟩ := List.mem_map.mp mem
    exact ensures_require (within.key mem').tooLong_scalar
  · intro _ _
    exact ensures_bind (ensures_require nofun) fun _ _ => trivial

theorem ensures_readBoost {mode : Mode} {v : Value} (within : v.Within S) :
  (readBoost mode v).Ensures S fun _ => True
  := by
  rw [readBoost]
  split
  · exact ensures_instead trivial nofun
  · rename_i n number
    split
    · exact ensures_instead trivial nofun
    · split
      · rename_i none
        exact within.tooLarge number none
      · trivial

theorem ensures_readMode (within : (Value.map es).Within S) (mode : Mode) :
  (readMode es mode).Ensures S fun _ => True
  := by
  rw [readMode]
  split
  · exact ensures_instead trivial nofun
  · rename_i raw given
    have inside : (Value.map raw).Within S := by
      rw [← given]
      apply within.field
    apply ensures_bind (ensures_readBoost (inside.fieldD _ (Value.within_float 0)))
    intro boost _
    apply ensures_bind (ensures_readText (inside.fieldD _ (Value.within_text "")))
    intro description _
    trivial
  · exact ensures_instead trivial nofun

theorem ensures_readModes (within : (Value.map doc).Within S) :
  (readModes doc).Ensures S fun _ => True
  := by
  apply ensures_bind (ensures_readSection within "modes")
  intro es within
  apply ensures_bind (ensures_each fun mode _ => ensures_readMode within mode)
  intro parts _
  exact ensures_bind (ensures_require nofun) fun _ _ => trivial

/-! ### Reflexes and profiles -/

theorem ensures_readBlock {id : Scalar} (name : (Value.scalar id).Within S) {trigger : Binary64}
    {entry : Scalar × Value} (key : (Value.scalar entry.1).Within S) (value : entry.2.Within S) :
  (readBlock id trigger entry).Ensures S fun _ => True
  := by
  apply ensures_bind (ensures_readWord key)
  intro found _
  cases found with
  | none => trivial
  | some tier =>
    apply ensures_bind (ensures_readUnit value)
    intro block _
    exact ensures_bind (ensures_require name.tooLong_scalar) fun _ _ => trivial

theorem ensures_readBlocks {id : Scalar} (name : (Value.scalar id).Within S) {trigger : Binary64}
    {v : Value} (within : v.Within S) :
  (readBlocks id trigger v).Ensures S fun _ => True
  := by
  have each {es : Entries Scalar Value} (inside : (Value.map es).Within S) :
      Reading.Ensures S
        (Reading.each (readBlock id trigger) es >>= fun blocks =>
          Pure.pure (Entries.ofList blocks.flatten))
        fun _ => True := by
    apply ensures_bind
    · apply ensures_each
      intro e mem
      exact ensures_readBlock name (inside.key mem) (inside.entry mem)
    · intro blocks _
      trivial
  rw [readBlocks.eq_def]
  split
  · exact ensures_bind (ensures_pure Value.within_nil) fun es => each
  · split
    · exact ensures_bind (ensures_pure within) fun es => each
    · exact ensures_bind (ensures_instead Value.within_nil name.tooLong_scalar) fun es => each

theorem ensures_readSuppression {id : Scalar} {v : Value} (within : v.Within S) :
  (readSuppression id v).Ensures S fun _ => True
  := by
  rw [readSuppression.eq_def]
  split
  · trivial
  · exact ensures_readWord within

theorem ensures_readSeverity {id : Scalar} (name : (Value.scalar id).Within S) (v : Value) :
  (readSeverity id v).Ensures S fun _ => True
  := by
  rw [readSeverity.eq_def]
  split
  · split
    · trivial
    · exact ensures_instead trivial name.tooLong_scalar
  · exact ensures_instead trivial name.tooLong_scalar

theorem ensures_readReflex {entry : Scalar × Value} (key : (Value.scalar entry.1).Within S)
    (value : entry.2.Within S) :
  (readReflex entry).Ensures S fun _ => True
  := by
  apply ensures_bind (ensures_readText key)
  intro _ _
  rw [readReflexOf.eq_def]
  split
  · rename_i raw given
    have inside : (Value.map raw).Within S := by
      rw [← given]
      apply value
    apply ensures_bind (ensures_readUnit (inside.field _))
    intro trigger _
    apply ensures_bind (ensures_readBlocks key (inside.field _))
    intro blocks _
    apply ensures_bind (ensures_readSuppression (inside.field _))
    intro suppressBelow _
    apply ensures_bind (ensures_readSeverity key _)
    intro severity _
    apply ensures_bind (ensures_readText (inside.fieldD _ key))
    intro label _
    trivial
  · exact ensures_instead trivial key.tooLong_scalar

theorem ensures_readReflexes (within : (Value.map doc).Within S) :
  (readReflexes doc).Ensures S fun _ => True
  := by
  apply ensures_bind (ensures_readSection within "reflexes")
  intro es within
  apply ensures_bind
  · apply ensures_each
    intro e mem
    exact ensures_readReflex (within.key mem) (within.entry mem)
  · intro parts _
    trivial

theorem ensures_readOrder {reflexes : List Scalar} {name : Scalar}
    (key : (Value.scalar name).Within S) {seen : List Text} {items : List Value}
    (within : ∀ v ∈ items, v.Within S) :
  (readOrder reflexes name seen items).Ensures S fun _ => True
  := by
  induction seen, items using readOrder.induct with
  | case1 seen => trivial
  | case2 seen id rest ih =>
    rw [readOrder]
    refine ensures_bind (ensures_require key.tooLong_scalar) fun _ _ => ?_
    refine ensures_bind (ensures_require key.tooLong_scalar) fun _ _ => ?_
    apply ensures_bind (ih fun v mem => within v (.tail _ mem))
    intro ids _
    trivial
  | case3 seen v rest other ih =>
    rw [readOrder.eq_3 _ _ _ _ _ other]
    obtain ⟨first, others⟩ := List.forall_mem_cons.mp within
    have long (unwritable : (Problem.profileEntryNotText name v).isWritable = false) :
        BreakOff.tooLong.DueTo S := by
      rw [Problem.isWritable, Bool.and_eq_false_iff] at unwritable
      obtain long | long := unwritable
      · exact key.tooLong_scalar long
      · exact first.tooLong long
    apply ensures_bind (ensures_note long)
    intro _ _
    apply ih others

theorem ensures_readProfile {reflexes : List Scalar} {entry : Scalar × Value}
    (key : (Value.scalar entry.1).Within S) (value : entry.2.Within S) :
  (readProfile reflexes entry).Ensures S fun _ => True
  := by
  have order : (orderOf entry.2).Within S := by
    rw [orderOf.eq_def]
    split
    · rename_i es given
      rw [given] at value
      apply value.field
    · apply value
  rw [readProfile]
  split
  · rename_i items given
    rw [given] at order
    apply ensures_bind (ensures_readOrder key fun v mem => order.item mem)
    intro order _
    trivial
  · exact ensures_instead trivial key.tooLong_scalar

theorem ensures_readProfiles (within : (Value.map doc).Within S) (reflexes : List Scalar) :
  (readProfiles doc reflexes).Ensures S fun _ => True
  := by
  apply ensures_bind (ensures_readSection within "profiles")
  intro es within
  apply ensures_bind
  · apply ensures_each
    intro e mem
    exact ensures_readProfile (within.key mem) (within.entry mem)
  · intro parts _
    exact ensures_bind (ensures_require nofun) fun _ _ => trivial

/-! ### Context decay and settings -/

theorem ensures_readLimit (es : Entries Scalar Value) (name : String) :
  (readLimit es name).Ensures S fun _ => True
  := by
  have missing : Reading.Ensures S
      (Reading.bind (Reading.require es.isEmpty (.limitNotNonNegative name)) fun _ => .pure 0)
      fun _ => True :=
    ensures_bind (ensures_require nofun) fun _ _ => trivial
  rw [readLimit]
  split
  · split
    · trivial
    · exact missing
  · exact missing

theorem ensures_readContextDecay (within : (Value.map doc).Within S) :
  (readContextDecay doc).Ensures S fun _ => True
  := by
  apply ensures_bind (ensures_readSection within "context_decay")
  intro es within
  apply ensures_bind (ensures_readLimit es _)
  intro turns _
  apply ensures_bind (ensures_readLimit es _)
  intro tokens _
  apply ensures_bind (ensures_readWord (within.fieldD _ (Value.within_text _)))
  intro mode _
  trivial

theorem ensures_readHandshakeDefaults (within : (Value.map doc).Within S)
    (profiles : List Scalar) :
  (readHandshakeDefaults doc profiles).Ensures S fun _ => True
  := by
  apply ensures_bind (ensures_readSettings within "handshake_defaults")
  intro found inside
  cases found with
  | none => trivial
  | some es =>
    have within := inside es rfl
    apply ensures_bind (ensures_readWord (within.fieldD _ (Value.within_text _)))
    intro mode _
    apply ensures_bind
      (ensures_readWord (within.fieldD _ (within.fieldD _ (Value.within_text _))))
    intro tier _
    apply ensures_bind (ensures_readWord (within.fieldD _ (Value.within_text _)))
    intro citation _
    apply ensures_bind (ensures_readWord (within.fieldD _ (Value.within_text _)))
    intro omission _
    apply ensures_bind (ensures_readText (within.fieldD _ (Value.within_text _)))
    intro profile _
    exact ensures_bind (ensures_require nofun) fun _ _ => trivial

theorem ensures_readFailure (within : (Value.map es).Within S) (name : String) :
  (readFailure es name).Ensures S fun _ => True
  := by
  rw [readFailure]
  split
  · rename_i raw given
    have inside : (Value.map raw).Within S := by
      rw [← given]
      apply within.field
    apply ensures_bind
      (ensures_readText (inside.fieldD _ (inside.fieldD _ (Value.within_text _))))
    intro text _
    apply ensures_bind (ensures_readText (inside.fieldD _ (Value.within_text _)))
    intro action _
    trivial
  · trivial

theorem ensures_readFailureSemantics (within : (Value.map doc).Within S) :
  (readFailureSemantics doc).Ensures S fun _ => True
  := by
  apply ensures_bind (ensures_readSettings within "failure_semantics")
  intro found inside
  cases found with
  | none => trivial
  | some es =>
    have within := inside es rfl
    apply ensures_bind (ensures_readUnit (within.fieldD _ (Value.within_float _)))
    intro hedge _
    apply ensures_bind (ensures_readUnit (within.fieldD _ (Value.within_float _)))
    intro refuse _
    refine ensures_bind (ensures_require nofun) fun _ _ => ?_
    apply ensures_bind (ensures_each fun name _ => ensures_readFailure within name)
    intro messages _
    trivial

theorem ensures_readNames {v : Value} (within : v.Within S) :
  (readNames v).Ensures S fun _ => True
  := by
  rw [readNames]
  split
  · trivial
  · split
    · trivial
    · exact ensures_instead trivial within.tooLong

theorem ensures_readTelemetry (within : (Value.map doc).Within S) :
  (readTelemetry doc).Ensures S fun _ => True
  := by
  apply ensures_bind (ensures_readSettings within "telemetry")
  intro found inside
  cases found with
  | none => trivial
  | some es =>
    apply ensures_bind (ensures_readNames ((inside es rfl).field _))
    intro names _
    trivial

/-! ### The whole document -/

theorem ensures_readVersion (within : (Value.map doc).Within S) :
  (readVersion doc).Ensures S fun _ => True
  := by
  apply ensures_bind (ensures_readText (within.fieldD _ (Value.within_text _)))
  intro version _
  exact ensures_bind (ensures_require nofun) fun _ _ => trivial

/-- The reading of a document is broken off at a whole number of it, if at all. -/
theorem ensures_read (within : (Value.map doc).Within S) :
  (Codex.read doc).Ensures S fun _ => True
  := by
  apply ensures_bind (ensures_readVersion within)
  intro version _
  apply ensures_bind (ensures_readTiers within)
  intro tiers _
  apply ensures_bind (ensures_readModes within)
  intro modes _
  apply ensures_bind (ensures_readReflexes within)
  intro reflexes _
  apply ensures_bind (ensures_readProfiles within _)
  intro profiles _
  apply ensures_bind (ensures_readContextDecay within)
  intro decay _
  apply ensures_bind (ensures_readHandshakeDefaults within _)
  intro defaults _
  apply ensures_bind (ensures_readFailureSemantics within)
  intro failures _
  apply ensures_bind (ensures_readTelemetry within)
  intro telemetry _
  trivial

end Codex

end ReflexPolicy

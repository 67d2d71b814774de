import ReflexPolicy.Number
import ReflexPolicy.Calendar
import ReflexPolicy.Entries
import ReflexPolicy.Text.Basic

/-!
# Values

A `Value` is what a document, a request or a reply holds before it has been checked: a scalar, a
list, or a mapping from scalars to values in the order of its keys.  Keys are compared by
`Scalar.same`, for which a truth value is the number one or zero and numbers are equal when their
values are.
-/

namespace ReflexPolicy

/-- A value without parts. -/
inductive Scalar where
  | null
  | bool (b : Bool)
  | number (n : Number)
  | text (t : Text)
  | date (d : Date)
  | moment (m : Moment)
  deriving DecidableEq

namespace Scalar

/-- The number that a scalar counts as: truth values count as one and zero. -/
def asNumber? : Scalar → Option Number
  | bool b => some (.whole (if b then 1 else 0))
  | number n => some n
  | _ => none

/-- The scalars are the same key. -/
def same : Scalar → Scalar → Bool
  | null, null => true
  | text s, text t => s == t
  | date d, date e => decide (d = e)
  | moment m, moment n => m.same n
  | a, b => match a.asNumber?, b.asNumber? with
    | some x, some y => x.equals y
    | _, _ => false

instance (priority := high) : BEq Scalar := ⟨same⟩

/-- A key is the same as a text only if it is that text. -/
theorem same_text_iff {k : Scalar} {t : Text} :
  k.same (.text t) = true ↔ k = .text t
  := by
  cases k <;> simp [same, asNumber?]

theorem text_same_iff {k : Scalar} {t : Text} :
  (text t).same k = true ↔ k = .text t
  := by
  cases k with
  | text s => simp [same, eq_comm (a := t)]
  | _ => simp [same, asNumber?]

/-- Values that are changed with their keys left as they are are found under their keys. -/
theorem get?_map {ν μ : Type} (change : Scalar → ν → μ) (es : Entries Scalar ν) (name : Text) :
  Entries.get? (es.map fun e => (e.1, change e.1 e.2)) (.text name)
    = (Entries.get? es (.text name)).map (change (.text name))
  := by
  induction es with
  | nil => rfl
  | cons e rest ih =>
    obtain ⟨k, v⟩ := e
    rw [List.map_cons, Entries.get?, Entries.get?]
    split
    · rename_i same
      rw [Option.map_some, same_text_iff.mp same]
    · exact ih

/-- Values that are changed with their keys taken for texts are found under those texts. -/
theorem get?_texts {ν μ : Type} (change : ν → μ) (es : Entries Text ν) (name : Text) :
  Entries.get? (es.map fun e => (text e.1, change e.2)) (.text name)
    = (Entries.get? es name).map change
  := by
  induction es with
  | nil => rfl
  | cons e rest ih =>
    have same : (text e.1 == text name) = (e.1 == name) := rfl
    rw [List.map_cons, Entries.get?, Entries.get?, same]
    split
    · rfl
    · exact ih

/-- What is put under a text is found under that text, and all else is where it was. -/
theorem get?_put_text {ν : Type} (es : Entries Scalar ν) (name name' : Text) (v : ν) :
  Entries.get? (Entries.put es (.text name) v) (.text name')
    = if name = name' then some v else Entries.get? es (.text name')
  := by
  have same_iff (k : Scalar) (t : Text) : (k == text t) = true ↔ k = text t := same_text_iff
  induction es with
  | nil => simp only [Entries.put, Entries.get?, same_iff, text.injEq]
  | cons e rest ih =>
    obtain ⟨k, v'⟩ := e
    by_cases same : k = text name
    · simp only [Entries.put, Entries.get?, same_iff, same, if_true, text.injEq]
      split <;> rfl
    · simp only [Entries.put, Entries.get?, same_iff, same, if_false, ih]
      by_cases same' : k = text name'
      · have apart : name ≠ name' := by
          rintro rfl
          exact same same'
        simp only [same', if_true, apart, if_false]
      · simp only [same', if_false]

/-- Names are the same keys only if they are the same names. -/
theorem beq_names (a b : String) :
  (Scalar.text a == Scalar.text b) = decide (a = b)
  := by
  have same : (Scalar.text a == Scalar.text b) = true ↔ a = b := by
    rw [show (Scalar.text a == Scalar.text b) = (Scalar.text a).same (.text b) from rfl,
      same_text_iff, text.injEq, Text.ofString_inj]
  by_cases h : a = b
  · simpa [h] using same.mpr h
  · simpa [h] using mt same.mp h

/-- A scalar that counts as true: neither null, false, zero nor the empty text. -/
def truthy : Scalar → Bool
  | null => false
  | bool b => b
  | number (.whole n) => n != 0
  | number (.float (.finite _ u _)) => u != 0
  | number (.float _) => true
  | text t => !t.isEmpty
  | date _ => true
  | moment _ => true

/-- The name of the kind of a scalar in messages. -/
def kind : Scalar → String
  | null => "NoneType"
  | bool _ => "bool"
  | number (.whole _) => "int"
  | number (.float _) => "float"
  | text _ => "str"
  | date _ => "datetime.date"
  | moment _ => "datetime.datetime"

end Scalar

/-- A scalar, a list or a mapping. -/
inductive Value where
  | scalar (s : Scalar)
  | list (items : List Value)
  | map (entries : List (Scalar × Value))

namespace Value

/-- The absent value. -/
@[match_pattern] abbrev null : Value := .scalar .null

/-- A truth value. -/
@[match_pattern] abbrev bool (b : Bool) : Value := .scalar (.bool b)

/-- A number. -/
@[match_pattern] abbrev number (n : Number) : Value := .scalar (.number n)

/-- A whole number. -/
@[match_pattern] abbrev int (n : Int) : Value := .scalar (.number (.whole n))

/-- A binary64 number. -/
@[match_pattern] abbrev float (x : Binary64) : Value := .scalar (.number (.float x))

/-- A text. -/
@[match_pattern] abbrev text (t : Text) : Value := .scalar (.text t)

instance : Inhabited Value := ⟨null⟩

/-- The value is absent. -/
def isNull : Value → Bool
  | null => true
  | _ => false

theorem isNull_iff {v : Value} :
  v.isNull = true ↔ v = .null
  := by
  cases v with
  | scalar s => cases s <;> simp [isNull]
  | list items => simp [isNull]
  | map es => simp [isNull]

/-- A value that counts as true: neither absent, false, zero nor empty. -/
def truthy : Value → Bool
  | .scalar s => s.truthy
  | .list items => !items.isEmpty
  | .map entries => !entries.isEmpty

/-- The name of the kind of a value in messages. -/
def kind : Value → String
  | .scalar s => s.kind
  | .list _ => "list"
  | .map _ => "dict"

/-- The number in a value; truth values are none. -/
def number? : Value → Option Number
  | number n => some n
  | _ => none

theorem number?_eq_some_iff {v : Value} {n : Number} :
  v.number? = some n ↔ v = .number n
  := by
  cases v with
  | scalar s => cases s <;> simp [number?]
  | list items => simp [number?]
  | map es => simp [number?]

/-- The number that a value counts as in arithmetic: truth values count as one and zero. -/
def asNumber? : Value → Option Number
  | .scalar s => s.asNumber?
  | _ => none

/-- The text in a value. -/
def text? : Value → Option Text
  | text t => some t
  | _ => none

/-- The entries of a mapping. -/
def entries? : Value → Option (Entries Scalar Value)
  | .map es => some es
  | _ => none

theorem entries?_eq_some_iff {v : Value} {es : Entries Scalar Value} :
  v.entries? = some es ↔ v = .map es
  := by
  cases v <;> simp [entries?]

/-- The items of a list. -/
def items? : Value → Option (List Value)
  | .list items => some items
  | _ => none

/-- The value as a key of a mapping. -/
def key? : Value → Option Scalar
  | .scalar s => some s
  | _ => none

/-- The value under a text key. -/
def field? (es : Entries Scalar Value) (name : String) : Option Value :=
  Entries.get? es (.text name)

/-- The value under a text key, absent when there is no such key. -/
def field (es : Entries Scalar Value) (name : String) : Value := (field? es name).getD null

/-- The value under a text key, or a default. -/
def fieldD (es : Entries Scalar Value) (name : String) (default : Value) : Value :=
  (field? es name).getD default

theorem field?_nil (name : String) :
  field? [] name = none
  := rfl

theorem field?_cons (name name' : String) (v : Value) (es : Entries Scalar Value) :
  field? ((.text name, v) :: es) name' = if name = name' then some v else field? es name'
  := by simp only [field?, Entries.get?, Scalar.beq_names, decide_eq_true_eq]

/-- The mapping with text keys. -/
def ofFields (fields : List (String × Value)) : Value :=
  .map (fields.map fun f => (.text f.1, f.2))

mutual

/-- The values are equal: scalars as keys are, lists item by item, and mappings when they have
the same keys with equal values. -/
def equals : Value → Value → Bool
  | .scalar a, .scalar b => a.same b
  | .list as, .list bs => equalItems as bs
  | .map as, .map bs => as.length == bs.length && equalEntries as bs
  | _, _ => false

/-- The lists are equal item by item. -/
def equalItems : List Value → List Value → Bool
  | [], [] => true
  | a :: as, b :: bs => equals a b && equalItems as bs
  | _, _ => false

/-- Every entry of the first mapping has an equal one in the second. -/
def equalEntries : List (Scalar × Value) → List (Scalar × Value) → Bool
  | [], _ => true
  | (k, a) :: as, bs =>
    (match Entries.get? bs k with
      | some b => equals a b
      | none => false) && equalEntries as bs

end

end Value

end ReflexPolicy

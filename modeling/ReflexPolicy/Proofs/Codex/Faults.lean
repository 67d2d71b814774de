import ReflexPolicy.Codex.File
import ReflexPolicy.Proofs.Binary64.Whole
import ReflexPolicy.Proofs.Codex.BreakingOff
import ReflexPolicy.Proofs.Codex.Loading
import ReflexPolicy.Proofs.Success
import ReflexPolicy.Proofs.Yaml.Faults

/-!
# Faults of loading

How loading a codex can fail.  The documented way is a list of problems, for whatever the document
says and wherever it is to be found.  What escapes it is a path that there cannot be, bytes that are no
text, a scalar that is spelled like a value that there is not, and a whole number of the document that
is beyond the binary64 format.
-/

namespace ReflexPolicy

/-! ### Whole numbers beyond the format -/

/-- A whole number with too many digits is beyond the format. -/
theorem Binary64.ofInt?_of_tooLong {n : Int} (h : tenTo Number.digitLimit ≤ n.natAbs) :
  ofInt? n = none
  := by
  apply ofInt?_of_le
  have below : unitsLimit ≤ tenTo Number.digitLimit := by decide +kernel
  have one : 1 ≤ unitsPerOne := by decide +kernel
  calc
    unitsLimit ≤ n.natAbs := Nat.le_trans below h
    _ = n.natAbs * 1 := (Nat.mul_one _).symm
    _ ≤ n.natAbs * unitsPerOne := Nat.mul_le_mul_left _ one

/-- A reading is broken off only at whole numbers that are beyond the format. -/
theorem BreakOff.Exceeds.ofInt? {e : BreakOff} {n : Int} (exceeds : e.Exceeds n) :
  Binary64.ofInt? n = none
  := by
  cases e with
  | tooLarge => exact exceeds
  | tooLong => exact Binary64.ofInt?_of_tooLong exceeds

/-! ### Kinds of faults -/

/-- The fault is the documented one of loading: a list of problems, and not an empty one. -/
def Fault.IsDocumented (f : Fault) : Prop := ∃ problems, problems ≠ [] ∧ f = .invalidCodex problems

/-- The fault is a number beyond the format. -/
def Fault.isTooLarge : Fault → Bool
  | .tooLarge => true
  | _ => false

/-- Why bytes are no text, if that is the fault. -/
def Fault.undecodable? : Fault → Option Undecodable
  | .undecodable cause => some cause
  | _ => none

/-- What is wrong with a date, if that is the fault. -/
def Fault.calendar? : Fault → Option CalendarFault
  | .misuse (.calendar fault) => some fault
  | _ => none

theorem Fault.isTooLarge_iff {f : Fault} :
  f.isTooLarge = true ↔ f = .tooLarge
  := by
  cases f <;> simp [isTooLarge]

theorem Fault.undecodable?_eq_some {f : Fault} {cause : Undecodable} :
  f.undecodable? = some cause ↔ f = .undecodable cause
  := by
  cases f <;> simp [undecodable?]

theorem Fault.calendar?_eq_some {f : Fault} {fault : CalendarFault} :
  f.calendar? = some fault ↔ f = .misuse (.calendar fault)
  := by
  cases f with
  | misuse cause => cases cause <;> simp [calendar?]
  | _ => simp [calendar?]

/-- The fault that a broken reading ends in. -/
def BreakOff.fault : BreakOff → Fault
  | tooLarge => .tooLarge
  | tooLong => .misuse .tooLong

/-- The fault is due to a whole number of the document. -/
def Value.Overtaxes (v : Value) (f : Fault) : Prop :=
  ∃ e : BreakOff, e.DueTo (fun n => v.Holds n) ∧ f = e.fault

/-- Whatever overtaxes the loading holds a whole number that is beyond the format. -/
theorem Value.Overtaxes.exists_beyond {v : Value} {f : Fault} (overtaxes : v.Overtaxes f) :
  ∃ n, v.Holds n ∧ Binary64.ofInt? n = none
  := by
  obtain ⟨e, ⟨n, holds, exceeds⟩, -⟩ := overtaxes
  exact ⟨n, holds, exceeds.ofInt?⟩

namespace Codex

/-- Loading gives a codex, or fails in the documented way or with one of some other faults. -/
def Loads (x : Except Fault Codex) (Escapes : Fault → Prop) : Prop :=
  (∃ c, x = .ok c) ∨ ∃ f, x = .error f ∧ (f.IsDocumented ∨ Escapes f)

/-- What a source supplies to the reader of YAML. -/
inductive Supplies (files : Directory) : Source → Yaml.Supply → Prop where
  | shipped : Supplies files .shipped (.ofText shippedText)
  | path {p : String} {bytes : List UInt8} (found : File.bytesAt files p = .ok bytes) :
    Supplies files (.path p) (.ofBytes bytes)

/-- The faults of loading that are not documented. -/
inductive Escapes (files : Directory) : Source → Fault → Prop where
  /-- There is no such path. -/
  | nulInPath {p : String} (nul : p.toList.contains '\x00' = true) :
    Escapes files (.path p) (.misuse .nulInPath)
  /-- The file holds bytes that are no text. -/
  | undecodable {p : String} {bytes : List UInt8} {reason : Undecodable}
    (found : File.bytesAt files p = .ok bytes)
    (given : (TextStream.portionsOf bytes).2 = some reason) :
    Escapes files (.path p) (.undecodable reason)
  /-- A scalar is spelled like a value that there is not. -/
  | misspelt {source : Source} {s : Yaml.Supply} {f : Fault} (supplies : Supplies files source s)
    (stopped : Yaml.read s = .error (.unusable f)) (misspells : Yaml.Misspells f) :
    Escapes files source f
  /-- The document holds a whole number that is too large or too long. -/
  | overtaxed {source : Source} {s : Yaml.Supply} {v : Value} {f : Fault}
    (supplies : Supplies files source s) (given : Yaml.read s = .ok v)
    (overtaxes : v.Overtaxes f) : Escapes files source f

/-! ### Documents -/

theorem loads_ofEntries (doc : Entries Scalar Value) :
  Loads (ofEntries doc) (Value.map doc).Overtaxes
  := by
  have within : (Value.map doc).Within fun n => (Value.map doc).Holds n := fun _ holds => holds
  have read := ensures_read within
  have overtaxed {e : BreakOff} (due : e.DueTo fun n => (Value.map doc).Holds n) :
      Loads (.error e.fault) (Value.map doc).Overtaxes := .inr ⟨_, rfl, .inr ⟨e, due, rfl⟩⟩
  rw [ofEntries]
  split
  · rename_i given
    rw [given] at read
    exact overtaxed read
  · rename_i given
    rw [given] at read
    exact overtaxed read
  · split
    · exact .inl ⟨_, rfl⟩
    · rename_i unwritable
      rw [Bool.and_eq_true, not_and_or, Bool.not_eq_true, Bool.not_eq_true] at unwritable
      obtain date | description := unwritable
      · exact overtaxed ((within.fieldD _ (Value.within_text _)).tooLong date)
      · exact overtaxed ((within.fieldD _ (Value.within_text _)).tooLong description)
  · rename_i problems listed _
    exact .inr ⟨_, rfl, .inl ⟨problems, listed, rfl⟩⟩

/-- A value is the document of a codex, or has problems, or holds a whole number that is too large or
too long. -/
theorem loads_ofValue (v : Value) :
  Loads (ofValue v) v.Overtaxes
  := by
  cases v with
  | map doc => exact loads_ofEntries doc
  | _ => exact .inr ⟨_, rfl, .inl ⟨[.notMapping], by simp, rfl⟩⟩

/-- A document without whole numbers beyond the format has a codex or problems. -/
theorem loads_of_fits {v : Value} (fits : ∀ n, v.Holds n → Binary64.ofInt? n ≠ none) :
  Loads (ofValue v) fun _ => False
  := by
  obtain loaded | ⟨f, failed, documented | overtaxes⟩ := loads_ofValue v
  · exact .inl loaded
  · exact .inr ⟨f, failed, .inl documented⟩
  · obtain ⟨n, holds, beyond⟩ := overtaxes.exists_beyond
    exact absurd beyond (fits n holds)

/-! ### Files -/

theorem loads_ofSupply (path : String) (s : Yaml.Supply) :
  Loads (ofSupply path s) fun f => Yaml.read s = .error (.unusable f)
    ∨ ∃ v, Yaml.read s = .ok v ∧ v.Overtaxes f
  := by
  rw [ofSupply]
  split
  · rename_i v given
    split
    · obtain loaded | ⟨f, failed, documented | overtaxes⟩ := loads_ofValue v
      · exact .inl loaded
      · exact .inr ⟨f, failed, .inl documented⟩
      · exact .inr ⟨f, failed, .inr (.inr ⟨v, given, overtaxes⟩)⟩
    · -- The empty document holds no whole number.
      obtain loaded | ⟨f, failed, documented⟩ :=
        loads_of_fits fun n holds => False.elim (Value.within_nil (S := fun _ => False) n holds)
      · exact .inl loaded
      · exact .inr ⟨f, failed, .inl (documented.resolve_right id)⟩
  · exact .inr ⟨_, rfl, .inl ⟨[.notYaml path], by simp, rfl⟩⟩
  · rename_i f stopped
    exact .inr ⟨f, rfl, .inr (.inl stopped)⟩

/-- What stops the reading of YAML without being a flaw of it. -/
theorem escapes_of_unusable {files : Directory} {source : Source} {s : Yaml.Supply} {f : Fault}
    (supplies : Supplies files source s) (stopped : Yaml.read s = .error (.unusable f)) :
  Escapes files source f
  := by
  have stops := Yaml.reads_read s
  rw [stopped] at stops
  cases stops with
  | misspelt misspells => exact .misspelt supplies stopped misspells
  | supply breaks =>
    cases supplies with
    | shipped => exact absurd breaks (Yaml.stop_ofText_ne_unusable _ f)
    | path found =>
      obtain ⟨reason, given, rfl⟩ := Yaml.undecodable_of_stop_ofBytes breaks
      exact .undecodable found given

theorem loads_of_supplies {files : Directory} {source : Source} {s : Yaml.Supply}
    (supplies : Supplies files source s) (path : String) :
  Loads (ofSupply path s) (Escapes files source)
  := by
  obtain loaded | ⟨f, failed, documented | stopped | ⟨v, given, overtaxes⟩⟩ :=
    loads_ofSupply path s
  · exact .inl loaded
  · exact .inr ⟨f, failed, .inl documented⟩
  · exact .inr ⟨f, failed, .inr (escapes_of_unusable supplies stopped)⟩
  · exact .inr ⟨f, failed, .inr (.overtaxed supplies given overtaxes)⟩

theorem loads_load (files : Directory) (source : Source) :
  Loads (load files source) (Escapes files source)
  := by
  cases source with
  | shipped => exact loads_of_supplies .shipped "codex.yaml"
  | path p =>
    rw [load]
    cases found : File.bytesAt files p with
    | ok bytes => exact loads_of_supplies (.path found) p
    | error f =>
      rw [File.bytesAt] at found
      split at found
      · rename_i nul
        cases found
        exact .inr ⟨_, rfl, .inr (.nulInPath nul)⟩
      · split at found
        · cases found
          exact .inr ⟨_, rfl, .inl ⟨_, by simp, rfl⟩⟩
        · cases found

/-- A codex that was loaded is the one of some document. -/
theorem exists_of_load {files : Directory} {source : Source} {c : Codex}
    (loaded : load files source = .ok c) :
  ∃ v, ofValue v = .ok c
  := by
  have supplied {path : String} {s : Yaml.Supply} (loaded : ofSupply path s = .ok c) :
      ∃ v, ofValue v = .ok c := by
    rw [ofSupply] at loaded
    split at loaded
    · exact ⟨_, loaded⟩
    · cases loaded
    · cases loaded
  cases source with
  | shipped =>
    rw [load, ofText] at loaded
    exact supplied loaded
  | path p =>
    rw [load] at loaded
    split at loaded
    · exact supplied loaded
    · cases loaded
    · cases loaded

/-- A byte that begins no character is not documented. -/
theorem ofBytes_badStart :
  ofBytes "codex.yaml" [0xff] = .error (.undecodable (.badStart 255 0))
  := by
  have computed : fails (fun f => f.undecodable? == some (.badStart 255 0))
      (ofBytes "codex.yaml" [0xff]) = true := by decide +kernel
  obtain ⟨f, failed, found⟩ := exists_of_fails computed
  rw [failed, Fault.undecodable?_eq_some.mp (beq_iff_eq.mp found)]

/-- A document with a whole number for a trigger. -/
def triggerDocument (n : Int) : Value :=
  smallDocumentWith [("reflexes", .ofFields [("claim", .ofFields [("trigger_at", .int n)])])]

end Codex

end ReflexPolicy

import ReflexPolicy.CommandLine.Settings
import ReflexPolicy.Proofs.Success

/-!
# Command lines that are spelled out

A command line that is spelled out says one wish after another: a switch with a word behind it, or
a switch that stands alone.  Reading it grants the wishes one after another, whatever their order
and number, so that the last of several wishes for one setting wins.
-/

namespace ReflexPolicy.CommandLine

/-- One wish of a command line, with the spelling of its switch. -/
inductive Wish where
  | give (s : Switch) (spelling word : String)
  | turnOn (s : Switch) (spelling : String)

namespace Wish

/-- The arguments that say a wish. -/
def arguments : Wish → List String
  | give _ spelling word => [spelling, word]
  | turnOn _ spelling => [spelling]

/-- The settings after a wish. -/
def grant (settings : Settings) : Wish → Except Halt Settings
  | give s _ word => Settings.ofMisread (settings.assign s word)
  | turnOn s _ => settings.turnOn s

/-- The wish is spelled out: a switch that takes a value is followed by a word, and another one
stands alone. -/
def IsSpelled : Wish → Prop
  | give s spelling word => s.takesValue = true ∧ spelling ∈ s.spellings
    ∧ classify word = .ok .word ∧ word ≠ "--"
  | turnOn s spelling => s.takesValue = false ∧ spelling ∈ s.spellings

instance : DecidablePred IsSpelled
  | give s spelling word => inferInstanceAs (Decidable (s.takesValue = true
    ∧ spelling ∈ s.spellings ∧ classify word = .ok .word ∧ word ≠ "--"))
  | turnOn s spelling => inferInstanceAs (Decidable (s.takesValue = false
    ∧ spelling ∈ s.spellings))

/-- The pieces of a wish. -/
def pieces : Wish → List (String × Piece)
  | give s spelling word =>
    [(spelling, .switch s (isShort spelling.toList) none), (word, .word)]
  | turnOn s spelling => [(spelling, .switch s (isShort spelling.toList) none)]

end Wish

/-! ### Pieces -/

/-- The spellings of a switch are those of no other one, and none is the double hyphen. -/
theorem classify_spelling {s : Switch} {spelling : String} (mem : spelling ∈ s.spellings) :
  classify spelling = .ok (.switch s (isShort spelling.toList) none) ∧ spelling ≠ "--"
  := by
  have all : ∀ s ∈ Switch.all, ∀ spelling ∈ s.spellings,
      classify spelling = .ok (.switch s (isShort spelling.toList) none) ∧ spelling ≠ "--" := by
    decide +kernel
  exact all s (by cases s <;> decide) spelling mem

theorem classifyAll_cons {given : String} {piece : Piece} (rest : List String)
    (classified : classify given = .ok piece) (ne : given ≠ "--") :
  classifyAll (given :: rest) = (classifyAll rest).map ((given, piece) :: ·)
  := by
  rw [classifyAll, if_neg (by simpa using ne), classified]
  cases classifyAll rest <;> rfl

theorem classifyAll_wish {w : Wish} (spelled : w.IsSpelled) (rest : List String) :
  classifyAll (w.arguments ++ rest) = (classifyAll rest).map (w.pieces ++ ·)
  := by
  cases w with
  | give s spelling word =>
    obtain ⟨-, mem, classified, ne⟩ := spelled
    obtain ⟨switch, ne'⟩ := classify_spelling mem
    simp only [Wish.arguments, List.cons_append, List.nil_append]
    rw [classifyAll_cons _ switch ne', classifyAll_cons _ classified ne]
    cases classifyAll rest <;> rfl
  | turnOn s spelling =>
    obtain ⟨switch, ne⟩ := classify_spelling spelled.2
    simp only [Wish.arguments, List.cons_append, List.nil_append]
    rw [classifyAll_cons _ switch ne]
    rfl

theorem classifyAll_wishes {wishes : List Wish} (spelled : ∀ w ∈ wishes, w.IsSpelled) :
  classifyAll (wishes.flatMap Wish.arguments) = .ok (wishes.flatMap Wish.pieces)
  := by
  induction wishes with
  | nil => rfl
  | cons w rest ih =>
    obtain ⟨first, spelled⟩ := List.forall_mem_cons.mp spelled
    rw [List.flatMap_cons, classifyAll_wish first, ih spelled]
    rfl

/-! ### Granting wishes -/

/-- The pieces of a wish grant it. -/
theorem take_wish {w : Wish} (spelled : w.IsSpelled) {p : Progress} (free : p.waiting = none) :
  w.pieces.foldlM Progress.take p
    = (w.grant p.settings).map fun settings => p.settle settings none
  := by
  cases w with
  | give s spelling word =>
    simp only [Wish.pieces, List.foldlM_cons, List.foldlM_nil, Progress.take, free,
      Progress.takeSwitch, spelled.1, if_true, bind, Except.bind, Progress.settle, Wish.grant]
    cases Settings.ofMisread (p.settings.assign s word) <;> rfl
  | turnOn s spelling =>
    simp only [Wish.pieces, List.foldlM_cons, List.foldlM_nil, Progress.take, free,
      Progress.takeSwitch, spelled.1, Bool.false_eq_true, if_false, Settings.switchesOf,
      Settings.ofMisread, Settings.turnAllOn, bind, Except.bind, Wish.grant]
    cases p.settings.turnOn s <;> rfl

theorem finish_wishes {wishes : List Wish} (spelled : ∀ w ∈ wishes, w.IsSpelled) {p : Progress}
    (free : p.waiting = none) (none_left : p.left = []) :
  ((wishes.flatMap Wish.pieces).foldlM Progress.take p >>= Progress.finish)
    = wishes.foldlM Wish.grant p.settings
  := by
  induction wishes generalizing p with
  | nil => simp [Progress.finish, free, none_left, bind, Except.bind, pure, Except.pure]
  | cons w rest ih =>
    obtain ⟨first, spelled⟩ := List.forall_mem_cons.mp spelled
    rw [List.flatMap_cons, List.foldlM_append, take_wish first free, List.foldlM_cons]
    cases granted : w.grant p.settings with
    | error e => rfl
    | ok settings => exact ih spelled rfl none_left

/-- Reading a command line that is spelled out grants its wishes in their order. -/
theorem read_wishes {wishes : List Wish} (spelled : ∀ w ∈ wishes, w.IsSpelled) :
  Settings.read (wishes.flatMap Wish.arguments) = wishes.foldlM Wish.grant Settings.default
  := by
  rw [Settings.read, classifyAll_wishes spelled]
  exact finish_wishes spelled rfl rfl

end ReflexPolicy.CommandLine

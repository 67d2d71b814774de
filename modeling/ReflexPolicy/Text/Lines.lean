/-!
# Line ends

The three common ends of a line are made alike: a carriage return, alone or before a line feed,
becomes a line feed.
-/

namespace ReflexPolicy.Text

/-- The text with every end of a line a line feed. -/
def unifyLineEnds : List Char → List Char
  | '\r' :: '\n' :: rest => '\n' :: unifyLineEnds rest
  | c :: rest => (if c == '\r' then '\n' else c) :: unifyLineEnds rest
  | [] => []

/-- No carriage return is left. -/
theorem not_mem_unifyLineEnds (cs : List Char) :
  '\r' ∉ unifyLineEnds cs
  := by
  fun_induction unifyLineEnds cs with
  | case1 rest ih => simp [ih]
  | case2 c rest _ ih =>
    by_cases h : c = '\r'
    · simp [h, ih]
    · simp [h, ih, Ne.symm h]
  | case3 => simp

end ReflexPolicy.Text

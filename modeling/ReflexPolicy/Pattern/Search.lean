import ReflexPolicy.Pattern.Basic

/-!
# Searching

`Pattern.search?` is the first stretch of a pattern in a text: the one that begins leftmost, and
of those that begin there the preferred one.
-/

namespace ReflexPolicy.Pattern

/-- The text between a place and a later one. -/
def between (a b : Place) : List Char := a.rest.take (a.rest.length - b.rest.length)

/-- The preferred stretch that begins at a place. -/
def matchAt? (p : Pattern) (a : Place) : Option (List Char) :=
  (p.ends a).head?.map (between a)

/-- The first stretch that begins at a place or after it. -/
def searchFrom? (p : Pattern) (before : Option Char) : List Char → Option (List Char)
  | [] => p.matchAt? ⟨before, []⟩
  | c :: rest => match p.matchAt? ⟨before, c :: rest⟩ with
    | some found => some found
    | none => searchFrom? p (some c) rest

/-- The first stretch of a pattern in a text. -/
def search? (p : Pattern) (cs : List Char) : Option (List Char) := p.searchFrom? none cs

/-- The pattern has a stretch in a text. -/
def occursIn (p : Pattern) (cs : List Char) : Bool := (p.search? cs).isSome

end ReflexPolicy.Pattern

import ReflexPolicy.Text.Lines
import ReflexPolicy.Text.Utf8

/-!
# Files

A `Directory` says what stands at every path.  Files are read as UTF-8 with their line ends made
alike.  `plainPath` is the shortest spelling of a path that keeps its meaning without looking at
the files: empty parts and single dots are left out.
-/

namespace ReflexPolicy

/-- What stands at every path. -/
abbrev Directory := String → Except FileFault (List UInt8)

namespace File

/-- The text of a file that is read at once. -/
def text (bytes : List UInt8) : Except Undecodable (List Char) :=
  (Utf8.decode bytes).map Text.unifyLineEnds

/-- The bytes of the file at a path.  No path holds the null character. -/
def bytesAt (files : Directory) (path : String) : Except Fault (List UInt8) :=
  if path.toList.contains '\x00' then .error (.misuse .nulInPath)
  else match files path with
    | .error cause => .error (.unreadable path cause)
    | .ok bytes => .ok bytes

/-- The text of the file at a path. -/
def textAt (files : Directory) (path : String) : Except Fault (List Char) := do
  match text (← bytesAt files path) with
  | .ok cs => return cs
  | .error cause => throw (.undecodable cause)

/-- The parts of a path between its slashes. -/
def partsOf : List Char → List (List Char)
  | [] => [[]]
  | c :: cs =>
    if c == '/' then [] :: partsOf cs
    else match partsOf cs with
      | [] => [[c]]
      | p :: ps => (c :: p) :: ps

/-- The root that a path begins with: exactly two slashes are a root of their own. -/
def rootOf : List Char → List Char
  | '/' :: '/' :: '/' :: _ => ['/']
  | '/' :: '/' :: _ => ['/', '/']
  | '/' :: _ => ['/']
  | _ => []

/-- A path without empty parts and single dots; the empty path is a dot. -/
def plainPath (path : String) : String :=
  let cs := path.toList
  let parts := (partsOf cs).filter fun p => !(p.isEmpty || p == ['.'])
  let plain := rootOf cs ++ List.intercalate ['/'] parts
  if plain.isEmpty then "." else String.ofList plain

end File

end ReflexPolicy

import ReflexPolicy.Fault
import ReflexPolicy.Entries

/-!
# Options by name

An operation may take options, each under its name.  Options come as a mapping whose keys may be
anything; only texts are names, and an option may not name what the operation is given in another
way.
-/

namespace ReflexPolicy.Options

/-- Options by their names: every key has to be a text. -/
def named : Entries Scalar Value → Except Mismatch (Entries Text Value)
  | [] => .ok []
  | (.text name, v) :: rest => (named rest).map fun es => (name, v) :: es
  | _ :: _ => .error .optionsNotNamed

/-- Why options cannot be used by an operation that is given some of them in another way, if they
cannot. -/
def clash? (operation : String) (given : List Text) (options : Entries Text Value) :
    Option Mismatch :=
  ((Entries.keys options).find? given.contains).map fun name => .optionTwice operation name

end ReflexPolicy.Options

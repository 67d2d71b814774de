import ReflexPolicy.Fault

/-!
# Faults of reading YAML

A text that is not YAML is malformed, and nothing more is said about it.  A text that is spelled
like YAML may still name something that there is not: a character beyond the last one, a day of a
month that has no such day, or a number beyond every format.  And the bytes of a file may be no
text at all.
-/

namespace ReflexPolicy.Yaml

/-- Why a text is not read as YAML. -/
inductive ReadFault where
  /-- The text is not YAML, or has more than one document. -/
  | malformed
  /-- A scalar is spelled like a value that there is not, or bytes cannot be decoded. -/
  | unusable (cause : Fault)

end ReflexPolicy.Yaml

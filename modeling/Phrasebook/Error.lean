import Phrasebook.Severity
import Phrasebook.Text.Quoted

/-!
# Why an operation fails

`Error` lists the causes, `Error.message` words them.
-/

namespace Phrasebook

/-- Why an operation fails. -/
inductive Error where
  /-- A position below zero used as a key. -/
  | negativeIndex (index : Int)
  /-- An empty key for a message. -/
  | emptyKey
  /-- No room for `count` more values after the highest index. -/
  | indexOverflow (highest count : Nat)
  /-- A message or registry of the language `actual` where one of `expected` is needed. -/
  | languageMismatch (expected actual : String)
  /-- No message under the key. -/
  | messageNotFound (key language : String)
  /-- A report that a placeholder is not known or not bound, raised as an error. -/
  | unresolvedPlaceholder (name : String) (severity : Severity) (report : String)
  /-- A report that a value has another type than a placeholder accepts, raised as an error. -/
  | typeMismatch (name : String) (severity : Severity) (report : String)
  /-- An empty delimiter. -/
  | emptyDelimiter (opening closing : String)
  /-- A name that no object has. -/
  | unknownName (name : String)
  deriving DecidableEq, Repr

/-- The wording of an error. -/
def Error.message : Error → String
  | .negativeIndex index => s!"Invalid key {index}: index must not be negative"
  | .emptyKey => "Invalid key : key cannot be empty"
  | .indexOverflow highest count =>
    s!"Index overflow: cannot bind {count} values after index {highest}"
  | .languageMismatch expected actual =>
    "Language identifier \"" ++ actual
      ++ "\" must be equal to registry's language identifier \"" ++ expected ++ "\""
  | .messageNotFound key language => s!"Message not found: {key} in language {language}"
  | .unresolvedPlaceholder name severity report =>
    s!"Unresolved placeholder {name} ({severity.name}): {report}"
  | .typeMismatch name severity report =>
    s!"Type mismatch for placeholder {name} ({severity.name}): {report}"
  | .emptyDelimiter opening closing =>
    "Invalid delimiter: delimiters must not be empty (opening " ++ Text.quote opening
      ++ ", closing " ++ Text.quote closing ++ ")"
  | .unknownName name => s!"no such id {name}"

end Phrasebook

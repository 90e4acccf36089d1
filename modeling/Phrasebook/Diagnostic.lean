import Phrasebook.Error

/-!
# Diagnostics

What is wrong with a placeholder of a message. A diagnostic stops nothing by itself; raised, it is
the error `Diagnostic.toError`.
-/

namespace Phrasebook

/-- What is wrong with a placeholder. -/
inductive Diagnostic.Kind where
  /-- The lexicon has no placeholder of the name. -/
  | unknownPlaceholder
  /-- No binding gives the placeholder a text. -/
  | unboundPlaceholder
  /-- The value bound for the placeholder's family has another type than it accepts. -/
  | typeMismatch
  deriving DecidableEq, Repr

/-- A report on one placeholder of a message. -/
structure Diagnostic where
  kind : Diagnostic.Kind
  severity : Severity
  placeholder : String
  message : String
  deriving DecidableEq, Repr

namespace Diagnostic

/-- The name of the kind. -/
def Kind.name : Kind → String
  | .unknownPlaceholder => "UnknownPlaceholder"
  | .unboundPlaceholder => "UnboundPlaceholder"
  | .typeMismatch => "TypeMismatch"

/-- The kind of that name. -/
def Kind.ofName? : String → Option Kind
  | "UnknownPlaceholder" => some .unknownPlaceholder
  | "UnboundPlaceholder" => some .unboundPlaceholder
  | "TypeMismatch" => some .typeMismatch
  | _ => none

/-- The error that raises the diagnostic. -/
def toError (d : Diagnostic) : Error :=
  match d.kind with
  | .typeMismatch => .typeMismatch d.placeholder d.severity d.message
  | _ => .unresolvedPlaceholder d.placeholder d.severity d.message

/-- The severity in brackets, and the message. -/
def text (d : Diagnostic) : String := s!"[{d.severity.name}] {d.message}"

/-- The lexicon has no placeholder `name`; `suggestion` is the nearest name it has. -/
def unknown (name : String) (suggestion : Option String) : Diagnostic where
  kind := .unknownPlaceholder
  severity := .notify
  placeholder := name
  message := s!"placeholder {name} is dynamic" ++
    match suggestion with
    | some near => " (did you mean \x60" ++ near ++ "\x60?)"
    | none => ""

/-- Nothing gives the placeholder `name` a text. -/
def unbound (name : String) : Diagnostic where
  kind := .unboundPlaceholder
  severity := .warning
  placeholder := name
  message := s!"placeholder {name} not bound"

/-- The placeholder `name` accepts another type than that of the value bound for it. -/
def mismatch (name accepted bound : String) : Diagnostic where
  kind := .typeMismatch
  severity := .warning
  placeholder := name
  message := s!"placeholder {name} accepts {accepted} but {bound} is bound"

end Diagnostic

end Phrasebook

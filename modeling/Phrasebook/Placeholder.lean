import Phrasebook.Closure

/-!
# Placeholders

A named rule that gives a text. Static placeholders need no value: a constant, or a generator, which
asks a closure for a new text each time. The others have a closure that transforms a value of the
type that they accept; that of a nullable one also has a text for no value.

`Placeholder.transform` gives the text, none if the placeholder cannot take what it is given, and
the uses of closures afterwards. The placeholder itself stays as it is.
-/

namespace Phrasebook

/-- How a placeholder gets its text. -/
inductive Rule where
  /-- Always this text. -/
  | constant (text : String)
  /-- The text of a closure that takes nothing. -/
  | generator (closure : Generator)
  /-- The text of a closure for a value of the accepted type. -/
  | typed (accepts : TypeKey) (closure : Transform)
  /-- The text of a closure for a value of the accepted type, or for no value. -/
  | nullable (accepts : TypeKey) (closure : Transform)

/-- A named rule that gives a text. -/
structure Placeholder where
  name : String
  rule : Rule

namespace Placeholder

/-- A placeholder with one text. -/
def constant (name text : String) : Placeholder := ⟨name, .constant text⟩

/-- A placeholder that counts its uses, the first one as `start`. It counts in 64 bits: after the
greatest number comes the least. -/
def counter (id : ClosureId) (name : String) (start : Int) : Placeholder :=
  ⟨name, .generator (.counting id fun n => toString ((start + n).bmod 0x10000000000000000))⟩

/-- A placeholder for the values of a type. -/
def typed (name : String) (accepts : TypeKey) (closure : Transform) : Placeholder :=
  ⟨name, .typed accepts closure⟩

/-- A placeholder for the values of a type that has a text for no value, too. -/
def nullable (name : String) (accepts : TypeKey) (closure : Transform) : Placeholder :=
  ⟨name, .nullable accepts closure⟩

/-- A placeholder that displays the values of a type. -/
def display (id : ClosureId) (name : String) (type : TypeName) : Placeholder :=
  typed name (.of type) (.steady id fun given => (given.bind Datum.text?).getD "")

/-- The type that the placeholder transforms, with its family. -/
def accepts? (p : Placeholder) : Option TypeKey :=
  match p.rule with
  | .typed accepts _ => some accepts
  | .nullable accepts _ => some accepts
  | _ => none

/-- Whether the placeholder needs no value. -/
def isStatic (p : Placeholder) : Bool := p.accepts?.isNone

/-- Whether the placeholder has a text for no value. -/
def isNullable (p : Placeholder) : Bool :=
  match p.rule with
  | .typed _ _ => false
  | _ => true

/-- The text for no value, and the uses of closures after it. -/
def transformNothing (p : Placeholder) (uses : Uses) : Option String × Uses :=
  match p.rule with
  | .constant text => (some text, uses)
  | .generator closure => (closure.use uses).map some id
  | .typed _ _ => (none, uses)
  | .nullable _ closure => (closure.use uses none).map some id

/-- The text for a value, and the uses of closures after it. A static placeholder ignores the
value, and the closure of any other is used for values of its own type only. -/
def transformValue (p : Placeholder) (uses : Uses) (value : Value) : Option String × Uses :=
  match p.rule with
  | .typed accepts closure =>
    if value.typeName = accepts.name then (closure.use uses (some value.datum)).map some id
    else (none, uses)
  | .nullable accepts closure =>
    if value.typeName = accepts.name then (closure.use uses (some value.datum)).map some id
    else (none, uses)
  | _ => p.transformNothing uses

/-- The text for a value or for none, and the uses of closures after it. -/
def transform (p : Placeholder) (uses : Uses) : Option Value → Option String × Uses
  | some value => p.transformValue uses value
  | none => p.transformNothing uses

/-- The placeholder spelt out, without its rule. -/
def describe (p : Placeholder) : String :=
  let kind :=
    match p.accepts? with
    | none => "Static"
    | some accepts =>
      "Dynamic \x7b accepting: Some(" ++ accepts.describe ++ "), nullable: "
        ++ (if p.isNullable then "true" else "false") ++ " \x7d"
  "Placeholder \x7b name: " ++ Text.quote p.name ++ ", kind: " ++ kind ++ ", .. \x7d"

end Placeholder

end Phrasebook

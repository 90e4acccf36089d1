import Phrasebook.Json.Writer
import Phrasebook.Profile
import Phrasebook.Text.Quoted
import Phrasebook.TypeKey

/-!
# Data and bound values

A `Datum` is a piece of data of one of the types that can be bound; `Datum.record` stands for the
types of the calling program. A `Value` is a datum in a binder: if it is displayed, rendering it
gives its text, otherwise it gives the name of its type (`Value.render_sealed`).
-/

namespace Phrasebook

/-- A piece of data. -/
inductive Datum where
  | string (text : String)
  | borrowedText (text : String)
  | integer (value : Int)
  | double (value : Binary64)
  | boolean (value : Bool)
  | character (value : Char)
  | json (value : Json)
  | profile (profile : Profile)
  | message (message : Message)
  /-- Data of a type of the calling program, which names itself by the caption. -/
  | record (type : TypeName) (caption : String)

namespace Datum

/-- The type of the datum. -/
def typeName : Datum → TypeName
  | .string _ => .string
  | .borrowedText _ => .borrowedText
  | .integer _ => .integer
  | .double _ => .double
  | .boolean _ => .boolean
  | .character _ => .character
  | .json _ => .json
  | .profile _ => .profile
  | .message _ => .message
  | .record type _ => type

/-- The text of a datum that can be displayed. -/
def text? : Datum → Option String
  | .string text => some text
  | .borrowedText text => some text
  | .integer value => some (toString value)
  | .double value => some value.text
  | .boolean value => some (if value then "true" else "false")
  | .character value => some value.toString
  | .json value => some value.text
  | _ => none

/-- The datum in a form that tells its type as well. -/
def caption : Datum → String
  | .string text => "<" ++ text ++ ">"
  | .borrowedText text => "<<" ++ text ++ ">>"
  | .integer value => "#" ++ toString value
  | .double value => "~" ++ value.text
  | .boolean value => if value then "yes" else "no"
  | .character value => "\x27" ++ value.toString ++ "\x27"
  | .json value => "json:" ++ value.text
  | .profile p => p.name ++ "|" ++ p.abbreviation
  | .message m => m.content
  | .record _ caption => caption

/-- The datum of a JSON value: text without quotes, nothing for null, all else as it is. -/
def ofJson : Json → Datum
  | .str text => .string text
  | .null => .string ""
  | value => .json value

end Datum

/-- A datum in a binder. -/
structure Value where
  datum : Datum
  /-- The text of a displayed value. -/
  display : Option String

namespace Value

/-- A value displayed by its own text. -/
def displayed (datum : Datum) : Value := ⟨datum, datum.text?⟩

/-- A value that only placeholders of its type can read. -/
def sealed (datum : Datum) : Value := ⟨datum, none⟩

/-- The type of the datum. -/
def typeName (value : Value) : TypeName := value.datum.typeName

/-- The text that stands for the value in a message. -/
def render (value : Value) : String := value.display.getD value.typeName.text

/-- The value spelt out. -/
def describe (value : Value) : String :=
  "Value \x7b type: " ++ Text.quote value.typeName.text ++ ", rendered: "
    ++ Text.quote value.render ++ " \x7d"

@[simp] theorem render_sealed (datum : Datum) : (sealed datum).render = datum.typeName.text := rfl

@[simp] theorem typeName_sealed (datum : Datum) : (sealed datum).typeName = datum.typeName := rfl

end Value

end Phrasebook

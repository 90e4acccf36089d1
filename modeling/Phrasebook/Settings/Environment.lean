import Phrasebook.Number.Reader
import Phrasebook.Settings.Tree

/-!
# Settings from environment variables

A variable whose name begins as those of settings do names a setting by the rest of its name. Its
text is taken for a truth value or a number where it reads as one.
-/

namespace Phrasebook

/-- What a source says: names of settings, which may be paths, with their values. -/
abbrev Layer := List (String × Tree)

namespace Environment

/-- How the names of the variables that are settings begin, in small letters. -/
def start : String := "plang__"

/-- Characters with a point for each pair of underscores. -/
def pointed : List Char → List Char
  | '_' :: '_' :: rest => '.' :: pointed rest
  | c :: rest => c :: pointed rest
  | [] => []

/-- The setting that a variable names. -/
def setting? (name : String) : Option String :=
  let name := (Text.lowercase name).toList
  if start.toList.isPrefixOf name then
    some (String.ofList (pointed (name.drop start.length)))
  else none

/-- The value of a variable: a truth value, an integer, another number or a text. -/
def value (text : String) : Tree :=
  match Text.lowercase text with
  | "true" => .flag true
  | "false" => .flag false
  | _ =>
    let whole := (Integer.read? text).filter fun n => -0x8000000000000000 ≤ n && n < 0x8000000000000000
    match whole, Binary64.read? text with
    | some n, _ => .whole n
    | none, some x => .real x
    | none, none => .text text

/-- What the variables say, which are set in turn. One that is set again keeps its place, and of two
that name one setting the one in the later place counts. -/
def layer (vars : List (String × String)) : Layer :=
  Named.ofList ((Named.ofList vars).filterMap fun (name, text) =>
    (setting? name).map (·, value text))

end Environment

end Phrasebook

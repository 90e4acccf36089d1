import Std.Data.ExtTreeMap
import Phrasebook.Number.Binary64

/-!
# JSON values

Objects keep their members sorted by name, one for each name: `Json.ofMembers` builds an object from
members in any order, the last of a name winning.
-/

namespace Phrasebook

/-- A JSON value. Integers of 64 bits are kept exactly, all other numbers as doubles. -/
inductive Json where
  | null
  | bool (value : Bool)
  | int (value : Int)
  | real (value : Binary64)
  | str (value : String)
  | arr (elements : List Json)
  | obj (members : List (String × Json))
  deriving Inhabited

namespace Json

/-- The object with these members; of several with one name the last counts. -/
def ofMembers (members : List (String × Json)) : Json :=
  .obj (Std.ExtTreeMap.ofList members).toList

/-- The member of that name, if the value is an object that has one. -/
def member? (name : String) : Json → Option Json
  | .obj members => (members.find? (·.1 == name)).map (·.2)
  | _ => none

end Json

end Phrasebook

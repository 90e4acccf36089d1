import Phrasebook.Json.Basic
import Phrasebook.Settings.Named
import Phrasebook.Text.Case

/-!
# Trees of settings

What a source of settings says, before it is known which settings there are. `Tree.set` puts one
tree into another: tables are merged member by member, anything else replaces what was there, and
the names of members are matched in small letters.
-/

namespace Phrasebook

/-- A tree of settings. -/
inductive Tree where
  | nothing
  | flag (value : Bool)
  | whole (value : Int)
  | real (value : Binary64)
  | text (value : String)
  /-- A date or a time in its usual spelling. -/
  | moment (spelling : String)
  | list (elements : List Tree)
  | table (members : List (String × Tree))
  deriving Inhabited

namespace Tree

/-- The members of a table; anything else has none. -/
def members : Tree → List (String × Tree)
  | .table members => members
  | _ => []

/-- The member of that name. -/
def member? (tree : Tree) (name : String) : Option Tree := tree.members.lookup name

/-- A table with one member put in; anything else becomes a table. -/
def put (tree : Tree) (name : String) (value : Tree) : Tree :=
  .table (Named.put name value tree.members)

mutual

/-- The tree with a value merged in under a name. -/
def set (tree : Tree) (name : String) : Tree → Tree
  | .table incoming =>
    let key := Text.lowercase name
    tree.put key (setAll ((tree.member? key).getD (.table [])) incoming)
  | value => tree.put (Text.lowercase name) value

/-- The tree with several members merged in. -/
def setAll (tree : Tree) : List (String × Tree) → Tree
  | [] => tree
  | (name, value) :: rest => setAll (tree.set name value) rest

end

mutual

/-- A JSON value as a tree; an integer of more than 63 bits becomes a real number. -/
def ofJson : Json → Tree
  | .null => .nothing
  | .bool b => .flag b
  | .int n => if n < 0x8000000000000000 then .whole n else .real (.ofInt n)
  | .real x => .real x
  | .str s => .text s
  | .arr elements => .list (ofElements elements)
  | .obj members => .table (ofMembers members)

/-- The trees of the elements of an array. -/
def ofElements : List Json → List Tree
  | [] => []
  | element :: rest => ofJson element :: ofElements rest

/-- The trees of the members of an object. -/
def ofMembers : List (String × Json) → List (String × Tree)
  | [] => []
  | (name, value) :: rest => (name, ofJson value) :: ofMembers rest

end

/-! ## Lookup -/

@[simp] theorem members_put (tree : Tree) (name : String) (value : Tree) :
    (tree.put name value).members = Named.put name value tree.members := rfl

theorem member?_put (tree : Tree) (name key : String) (value : Tree) :
    (tree.put name value).member? key = if key = name then some value else tree.member? key := by
  simp [member?, Named.lookup_put]

end Tree

end Phrasebook

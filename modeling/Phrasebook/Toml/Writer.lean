import Phrasebook.Settings.Tree
import Phrasebook.Toml.Quoted

/-!
# Writing TOML documents

A document of tables, each with texts and truth values as its members: the tables in order, with an
empty line between two of them.
-/

namespace Phrasebook.Toml

/-- A text or a truth value. -/
inductive Leaf where
  | text (text : String)
  | flag (value : Bool)

namespace Leaf

/-- The value as it stands in a document. -/
def written : Leaf → String
  | .text s => quoted s
  | .flag value => if value then "true" else "false"

/-- The value as it is read. -/
def toTree : Leaf → Tree
  | .text s => .text s
  | .flag value => .flag value

end Leaf

/-- Tables with their members. -/
abbrev Tables := List (String × List (String × Leaf))

/-- What the tables are read as. -/
def Tables.toTrees (tables : Tables) : List (String × Tree) :=
  tables.map fun t => (t.1, .table (t.2.map fun m => (m.1, m.2.toTree)))

/-- A line that gives a member its value. -/
def memberLine (m : String × Leaf) : String := m.1 ++ " = " ++ m.2.written ++ "\n"

/-- The header of a table, and a line for each member. -/
def tableLines (t : String × List (String × Leaf)) : String :=
  "[" ++ t.1 ++ "]\n" ++ String.join (t.2.map memberLine)

/-- The tables with an empty line between two of them. -/
def document (tables : Tables) : String := "\n".intercalate (tables.map tableLines)

end Phrasebook.Toml

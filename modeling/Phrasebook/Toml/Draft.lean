import Phrasebook.Settings.Tree

/-!
# Tables while they are read

A TOML document defines a table only once: by a header, by the headers of its subtables, by dotted
keys or inline. A `Draft` remembers which, so that a second definition is refused. `openTable`,
`openEntry` and `insertDotted` are the three ways to go on with a document. Members keep the order in
which they were defined: a table comes where its own header stands, or, without one, where it is
first mentioned.
-/

namespace Phrasebook.Toml

/-- A part of a document that is still open, or a value. -/
inductive Draft where
  | value (tree : Tree)
  /-- A table; implicit if no header names it yet, dotted if dotted keys made it. -/
  | table (implicit dotted : Bool) (members : List (String × Draft))
  /-- Tables under one name, of which the last one is open. -/
  | tables (earlier : List (List (String × Draft))) (last : List (String × Draft))
  deriving Inhabited

/-- The members of an open table. -/
abbrev Members := List (String × Draft)

namespace Members

/-- The members with another draft for a name that is there. -/
def replace (name : String) (draft : Draft) : Members → Members
  | [] => []
  | (n, d) :: rest => if n = name then (name, draft) :: rest else (n, d) :: replace name draft rest

/-- Changes the table that a header names; the tables above it are made if they are not there. -/
def change (f : Members → Option Members) : List String → Members → Option Members
  | [], members => f members
  | name :: path, members =>
    match members.lookup name with
    | none => do return members ++ [(name, .table true false (← change f path []))]
    | some (.table implicit dotted inner) => do
      return members.replace name (.table implicit dotted (← change f path inner))
    | some (.tables earlier last) => do
      return members.replace name (.tables earlier (← change f path last))
    | some (.value _) => none

/-- The members without the one of that name. -/
def erase (name : String) (members : Members) : Members := members.filter fun m => m.1 != name

/-- Opens the table of a header under its last name. A table that was only mentioned moves to the
end. -/
def openLast (name : String) (members : Members) : Option Members :=
  match members.lookup name with
  | none => some (members ++ [(name, .table false false [])])
  | some (.table true false inner) =>
    some (members.erase name ++ [(name, .table false false inner)])
  | _ => none

/-- Opens one more of several tables under the last name of a header. -/
def openLastEntry (name : String) (members : Members) : Option Members :=
  match members.lookup name with
  | none => some (members ++ [(name, .tables [] [])])
  | some (.tables earlier last) => some (members.replace name (.tables (earlier ++ [last]) []))
  | _ => none

/-- Opens the table that a header names. -/
def openTable (path : List String) (members : Members) : Option Members :=
  change (openLast (path.getLastD "")) path.dropLast members

/-- Opens one more of the tables that a header in double brackets names. -/
def openEntry (path : List String) (members : Members) : Option Members :=
  change (openLastEntry (path.getLastD "")) path.dropLast members

/-- Inserts a value under a dotted key. `direct` says that no part of the key was passed yet,
`dotted` that dotted keys made the table. -/
def insertDotted (direct dotted : Bool) (path : List String) (name : String) (value : Tree)
    (members : Members) : Option Members :=
  match path with
  | [] =>
    if (!direct && !dotted) || (members.lookup name).isSome then none
    else some (members ++ [(name, .value value)])
  | head :: path =>
    match members.lookup head with
    | none => do
      return members ++ [(head, .table true true (← insertDotted false true path name value []))]
    | some (.table true dotted inner) => do
      return members.replace head
        (.table true dotted (← insertDotted false dotted path name value inner))
    | some (.tables earlier last) => do
      return members.replace head
        (.tables earlier (← insertDotted false false path name value last))
    | _ => none

/-- Inserts a value into the table of a header under a dotted key. -/
def insert (header path : List String) (name : String) (value : Tree) (members : Members) :
    Option Members :=
  change (insertDotted true false path name value) header members

end Members

mutual

/-- The tree of a draft. -/
def Draft.toTree : Draft → Tree
  | .value tree => tree
  | .table _ _ members => .table (memberTrees members)
  | .tables earlier last => .list (tableTrees earlier ++ [.table (memberTrees last)])

/-- The trees of the members of a table. -/
def memberTrees : List (String × Draft) → List (String × Tree)
  | [] => []
  | (name, draft) :: rest => (name, draft.toTree) :: memberTrees rest

/-- The trees of several tables. -/
def tableTrees : List (List (String × Draft)) → List Tree
  | [] => []
  | members :: rest => .table (memberTrees members) :: tableTrees rest

end

end Phrasebook.Toml

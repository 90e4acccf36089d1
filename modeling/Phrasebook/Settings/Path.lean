import Phrasebook.Number.Reader
import Phrasebook.Settings.Tree

/-!
# Paths into a tree of settings

A source names a setting by a path: names joined by points, and places in brackets. Names are matched
in small letters. A text that is no path stands for itself.
-/

namespace Phrasebook

/-- A path into a tree. -/
inductive Path where
  | root (name : String)
  | child (parent : Path) (name : String)
  | place (parent : Path) (index : Int)
  deriving DecidableEq, Repr

namespace Path

/-- Whether the character may stand in a name of a path. -/
def isNameChar (c : Char) : Bool := c.isAlphanum || c == '_' || c == '-' || c == ' '

/-- A name at the start, in small letters, and what follows it. -/
def readName? (cs : List Char) : Option (String × List Char) :=
  let name := cs.takeWhile isNameChar
  if name.isEmpty then none
  else some (Text.lowercase (String.ofList name), cs.dropWhile isNameChar)

/-- The rest after spaces and tabs. -/
def skipSpace (cs : List Char) : List Char := cs.dropWhile fun c => c == ' ' || c == '\t'

/-- A place after its opening bracket, and what follows the closing one. A place has 63 bits and a
sign. -/
def readPlace? (cs : List Char) : Option (Int × List Char) :=
  let (negative, cs) : Bool × List Char := match skipSpace cs with
    | '-' :: rest => (true, rest)
    | cs => (false, cs)
  let (digits, rest) := Digits.split cs
  match skipSpace rest with
  | ']' :: rest =>
    let n : Int := Digits.value 0 digits
    let n := if negative then -n else n
    if digits.isEmpty || n < -0x8000000000000000 || 0x8000000000000000 ≤ n then none else some (n, rest)
  | _ => none

/-- The steps that follow a path. -/
def readSteps? (fuel : Nat) (path : Path) (cs : List Char) : Option Path :=
  match fuel, cs with
  | _, [] => some path
  | fuel + 1, '.' :: rest => do
    let (name, rest) ← readName? rest
    readSteps? fuel (.child path name) rest
  | fuel + 1, '[' :: rest => do
    let (index, rest) ← readPlace? rest
    readSteps? fuel (.place path index) rest
  | _, _ => none

/-- The path that a name spells, or the name itself. -/
def read (text : String) : Path :=
  let path? : Option Path := do
    let (name, rest) ← readName? text.toList
    readSteps? rest.length (.root name) rest
  path?.getD (.root text)

/-- A list with the tree at a place changed, extended to that place if it is too short. A negative
place counts from the end. -/
def changePlace (index : Int) (f : Tree → Tree) (elements : List Tree) : List Tree :=
  let n := if 0 ≤ index then index.toNat else elements.length - index.natAbs
  let elements := elements ++ List.replicate (n + 1 - elements.length) .nothing
  elements.modify n f

/-- The elements of a list; anything else has none. -/
def elements : Tree → List Tree
  | .list elements => elements
  | _ => []

/-- The tree with what is at the path changed, made if it is not there. The names are those of the
members as they are kept. -/
def change (f : Tree → Tree) : Path → Tree → Tree
  | .root name, tree => tree.put name (f ((tree.member? name).getD .nothing))
  | .child parent name, tree =>
    change (fun t => t.put name (f ((t.member? name).getD .nothing))) parent tree
  | .place parent index, tree =>
    change (fun t => .list (changePlace index f (elements t))) parent tree

/-- The tree with a value merged in at the path. -/
def set (value : Tree) : Path → Tree → Tree
  | .root name, tree => tree.set name value
  | .child parent name, tree => change (fun t => t.set name value) parent tree
  | .place parent index, tree =>
    change (fun t => .list (changePlace index (fun _ => value) (elements t))) parent tree

end Path

end Phrasebook

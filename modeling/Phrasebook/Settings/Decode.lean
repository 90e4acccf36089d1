import Phrasebook.Number.Layout
import Phrasebook.Settings.Basic
import Phrasebook.Settings.Tree

/-!
# Settings from a tree

Which settings a tree says. A value is converted to the type of its setting where that makes sense:
a number or a truth value can be a text, a number or one of certain words can be a truth value.
What the tree does not say is as in the standard settings; what it says of anything else does not
matter; what cannot be converted refuses the tree.
-/

namespace Phrasebook

namespace Tree

/-- The text that a value can be taken for. -/
def toText? : Tree → Option String
  | .text s => some s
  | .moment s => some s
  | .flag b => some (if b then "true" else "false")
  | .whole n => some (toString n)
  | .real x => some x.text
  | _ => none

/-- The truth value that a word stands for. -/
def wordFlag? (word : String) : Option Bool :=
  if ["1", "true", "on", "yes"].contains word then some true
  else if ["0", "false", "off", "no"].contains word then some false
  else none

/-- The truth value that a value can be taken for. -/
def toFlag? : Tree → Option Bool
  | .flag b => some b
  | .whole n => some (n != 0)
  | .real x => some !x.isZero
  | .text s => wordFlag? (Text.lowercase s)
  | _ => none

/-- The severity that a value names, itself or as the only member of a table. -/
def toSeverity? : Tree → Option Severity
  | .text s => Severity.ofName? (Text.lowercase s)
  | .table [(name, _)] => Severity.ofName? (Text.lowercase name)
  | _ => none

/-- A part of the settings: its members by name, or by place if it is a list. -/
inductive Part where
  | byName (tree : Tree)
  | byPlace (elements : List Tree)

/-- The part that a value can be taken for; a part that is not there has no members. -/
def toPart? : Option Tree → Option Part
  | none => some (.byName (.table []))
  | some (.table members) => some (.byName (.table members))
  | some (.list elements) => some (.byPlace elements)
  | some _ => none

/-- The member of a part. -/
def Part.member? (part : Part) (name : String) (place : Nat) : Option Tree :=
  match part with
  | .byName tree => tree.member? name
  | .byPlace elements => elements[place]?

end Tree

namespace Settings

/-- A member of a part, converted; the standard value if it is not there. -/
def memberOr {α : Type} (part : Tree.Part) (name : String) (place : Nat)
    (convert : Tree → Option α) (standard : α) : Option α :=
  match part.member? name place with
  | some tree => convert tree
  | none => some standard

/-- The settings that a tree says. -/
def ofTree? (tree : Tree) : Option Settings := do
  let lexer ← Tree.toPart? (tree.member? "lexer")
  let lexicon ← Tree.toPart? (tree.member? "lexicon")
  let binder ← Tree.toPart? (tree.member? "binder")
  let errors ← Tree.toPart? (tree.member? "errors")
  return {
    opening := ← memberOr lexer "opening" 0 Tree.toText? standard.opening
    closing := ← memberOr lexer "closing" 1 Tree.toText? standard.closing
    trims := ← memberOr lexer "trim_whitespace" 2 Tree.toFlag? standard.trims
    lexiconCaseSensitive :=
      ← memberOr lexicon "case_sensitive" 0 Tree.toFlag? standard.lexiconCaseSensitive
    binderCaseSensitive :=
      ← memberOr binder "case_sensitive" 0 Tree.toFlag? standard.binderCaseSensitive
    raiseAt := ← memberOr errors "raise_at" 0 Tree.toSeverity? standard.raiseAt }

end Settings

end Phrasebook

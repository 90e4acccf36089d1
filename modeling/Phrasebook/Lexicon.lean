import Std.Data.ExtTreeMap
import Phrasebook.Journal
import Phrasebook.Placeholder
import Phrasebook.Similarity
import Phrasebook.Text.Case

/-!
# Lexicons

The placeholders that a language knows, by normalized name: small letters, unless the lexicon is
case-sensitive. Every operation is described through `Lexicon.get?`: `get?_put`, `get?_remove`,
`get?_clear`.
-/

namespace Phrasebook

/-- The placeholders that a language knows. -/
structure Lexicon where
  caseSensitive : Bool
  entries : Std.ExtTreeMap String Placeholder

namespace Lexicon

/-- A lexicon without placeholders. -/
def empty (caseSensitive : Bool) : Lexicon := ⟨caseSensitive, ∅⟩

instance : Inhabited Lexicon := ⟨empty false⟩

/-- The form of a name under which its placeholder is kept. -/
def normalize (lexicon : Lexicon) (name : String) : String :=
  if lexicon.caseSensitive then name else Text.lowercase name

/-- The placeholder of that name. -/
def get? (lexicon : Lexicon) (name : String) : Option Placeholder :=
  lexicon.entries[lexicon.normalize name]?

/-- Whether the lexicon knows the name. -/
def has (lexicon : Lexicon) (name : String) : Bool := (lexicon.get? name).isSome

/-- Keeps a placeholder under that name, in place of any other. -/
def put (lexicon : Lexicon) (name : String) (p : Placeholder) : Lexicon :=
  { lexicon with entries := lexicon.entries.insert (lexicon.normalize name) p }

/-- Registers a placeholder under its own name. -/
def set (lexicon : Lexicon) (p : Placeholder) : Lexicon := lexicon.put p.name p

/-- Registers placeholders in turn. -/
def extend (lexicon : Lexicon) (ps : List Placeholder) : Lexicon := ps.foldl set lexicon

/-- Forgets the placeholder of that name. -/
def remove (lexicon : Lexicon) (name : String) : Lexicon :=
  { lexicon with entries := lexicon.entries.erase (lexicon.normalize name) }

/-- Forgets all placeholders. -/
def clear (lexicon : Lexicon) : Lexicon := { lexicon with entries := ∅ }

/-- How many placeholders there are. -/
def size (lexicon : Lexicon) : Nat := lexicon.entries.size

/-- The names of the placeholders as they spell them, sorted. -/
def names (lexicon : Lexicon) : List String :=
  (lexicon.entries.toList.map fun entry => entry.2.name).mergeSort fun a b => decide (a ≤ b)

/-- The name nearest to that one. -/
def suggest? (lexicon : Lexicon) (name : String) : Option String :=
  Similarity.nearest? (Similarity.score? · name) lexicon.names

/-- The event of registering a placeholder. -/
def setEvent (p : Placeholder) : Event :=
  ⟨.debug, "registering placeholder", [("placeholder", p.name)]⟩

/-! ## What the operations do to the view `get?` -/

@[simp] theorem normalize_put (lexicon : Lexicon) (n : String) (p : Placeholder) (name : String) :
    (lexicon.put n p).normalize name = lexicon.normalize name := rfl

@[simp] theorem normalize_set (lexicon : Lexicon) (p : Placeholder) (name : String) :
    (lexicon.set p).normalize name = lexicon.normalize name := rfl

@[simp] theorem normalize_remove (lexicon : Lexicon) (n name : String) :
    (lexicon.remove n).normalize name = lexicon.normalize name := rfl

/-- Two names that are normalized to the same have the same placeholder. -/
theorem get?_congr {lexicon : Lexicon} {a b : String}
    (h : lexicon.normalize a = lexicon.normalize b) : lexicon.get? a = lexicon.get? b := by
  rw [get?, get?, h]

@[simp] theorem get?_empty (caseSensitive : Bool) (name : String) :
    (empty caseSensitive).get? name = none := by
  simp [get?, empty]

theorem get?_put (lexicon : Lexicon) (n : String) (p : Placeholder) (name : String) :
    (lexicon.put n p).get? name =
      if lexicon.normalize n = lexicon.normalize name then some p else lexicon.get? name := by
  change (lexicon.entries.insert (lexicon.normalize n) p)[lexicon.normalize name]? = _
  by_cases h : lexicon.normalize n = lexicon.normalize name <;>
    simp [Std.ExtTreeMap.getElem?_insert, get?, h]

theorem get?_set (lexicon : Lexicon) (p : Placeholder) (name : String) :
    (lexicon.set p).get? name =
      if lexicon.normalize p.name = lexicon.normalize name then some p else lexicon.get? name :=
  get?_put lexicon p.name p name

theorem get?_remove (lexicon : Lexicon) (n name : String) :
    (lexicon.remove n).get? name =
      if lexicon.normalize n = lexicon.normalize name then none else lexicon.get? name := by
  change (lexicon.entries.erase (lexicon.normalize n))[lexicon.normalize name]? = _
  by_cases h : lexicon.normalize n = lexicon.normalize name <;>
    simp [Std.ExtTreeMap.getElem?_erase, get?, h]

@[simp] theorem get?_clear (lexicon : Lexicon) (name : String) :
    lexicon.clear.get? name = none := by
  simp [get?, clear]

end Lexicon

end Phrasebook

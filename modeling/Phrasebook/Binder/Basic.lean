import Phrasebook.Binder.Key
import Phrasebook.Journal
import Phrasebook.Value

/-!
# Binders

The values for one rendering, by position, by name and by family of types. A binder also remembers
the highest position that is bound, after which `Binder.push` goes on. The view of a binder is
`Binder.at?`: `at?_insert` and `at?_erase` say what binding and unbinding do to it.
-/

namespace Phrasebook

/-- The values for one rendering. -/
structure Binder where
  caseSensitive : Bool
  entries : Std.ExtTreeMap Key Value Key.cmp
  /-- The highest position that is bound. -/
  highest : Option Nat

namespace Binder

/-- A binder without values. -/
def empty (caseSensitive : Bool) : Binder := ⟨caseSensitive, ∅, none⟩

instance : Inhabited Binder := ⟨empty false⟩

/-- The value under a normalized key. -/
def at? (binder : Binder) (key : Key) : Option Value := binder.entries[key]?

/-- The key that is meant in this binder. -/
def keyOf (binder : Binder) (key : KeyName) : Except Error Key :=
  key.normalize binder.caseSensitive

/-- The key of a name in this binder. -/
def nameKey (binder : Binder) (name : String) : Key :=
  .name (if binder.caseSensitive then name else Text.lowercase name)

/-- Binds a value under a normalized key, in place of any other. -/
def insert (binder : Binder) (key : Key) (value : Value) : Binder where
  caseSensitive := binder.caseSensitive
  entries := binder.entries.insert key value
  highest :=
    match key.index? with
    | some n => some (max n (binder.highest.getD n))
    | none => binder.highest

/-- The highest position among keys. -/
def highestOf (keys : List Key) : Option Nat := (keys.filterMap Key.index?).max?

/-- Removes what is bound under a normalized key. The keys are searched for the highest position
only if that one goes. -/
def erase (binder : Binder) (key : Key) : Binder :=
  let entries := binder.entries.erase key
  { binder with
    entries
    highest :=
      if (binder.at? key).isSome && key.index?.isSome && key.index? == binder.highest then
        highestOf entries.keys
      else binder.highest }

/-- Binds a value: the value that it replaces, and the binder with it. -/
def bind (binder : Binder) (key : KeyName) (value : Value) :
    Except Error (Option Value × Binder) := do
  let key ← binder.keyOf key
  return (binder.at? key, binder.insert key value)

/-- Binds a value for the placeholder at a position. -/
def bindIndex (binder : Binder) (n : Nat) (value : Value) : Option Value × Binder :=
  (binder.at? (.index n), binder.insert (.index n) value)

/-- Binds a value for the placeholders of a name. -/
def bindName (binder : Binder) (name : String) (value : Value) : Option Value × Binder :=
  (binder.at? (binder.nameKey name), binder.insert (binder.nameKey name) value)

/-- Binds a datum for the placeholders that accept its type. -/
def bindType (binder : Binder) (datum : Datum) : Option Value × Binder :=
  let key : Key := .type datum.typeName
  (binder.at? key, binder.insert key (.sealed datum))

/-- Binds a datum for the placeholders that accept the family of `root`. -/
def bindUnder (binder : Binder) (datum : Datum) (root : TypeName) : Option Value × Binder :=
  let key : Key := .type ((TypeKey.of datum.typeName).under root).topmost
  (binder.at? key, binder.insert key (.sealed datum))

/-- Binds values at the positions from `start` on. -/
def insertFrom (binder : Binder) (start : Nat) : List Value → Binder
  | [] => binder
  | value :: rest => (binder.insert (.index start) value).insertFrom (start + 1) rest

/-- The greatest position that `push` binds. -/
def maxPushed : Nat := 0x7fffffffffffffff

/-- The position after the highest that is bound. -/
def next (binder : Binder) : Nat :=
  match binder.highest with
  | some n => n + 1
  | none => 0

/-- Binds values at the positions after the highest that is bound, all of them or none. -/
def push (binder : Binder) (values : List Value) : Except Error Binder :=
  if values.isEmpty then .ok binder
  else if binder.next + (values.length - 1) ≤ maxPushed then
    .ok (binder.insertFrom binder.next values)
  else .error (.indexOverflow (binder.highest.getD 0) values.length)

/-- The value under a key. -/
def get? (binder : Binder) (key : KeyName) : Except Error (Option Value) := do
  return binder.at? (← binder.keyOf key)

/-- Whether there is a value under a key. -/
def isBound (binder : Binder) (key : KeyName) : Except Error Bool := do
  return (binder.at? (← binder.keyOf key)).isSome

/-- Whether there is a value for the placeholders that accept the type. -/
def isTypeBound (binder : Binder) (type : TypeName) : Bool :=
  (binder.at? (.type (TypeKey.of type).topmost)).isSome

/-- Removes a value: the value, and the binder without it. -/
def unbind (binder : Binder) (key : KeyName) : Except Error (Option Value × Binder) := do
  let key ← binder.keyOf key
  return (binder.at? key, binder.erase key)

/-- Removes all values. -/
def clear (binder : Binder) : Binder := empty binder.caseSensitive

/-- How many keys are bound. -/
def size (binder : Binder) : Nat := binder.entries.size

/-- The keys and values, in the order of the keys. -/
def toList (binder : Binder) : List (Key × Value) := binder.entries.toList

/-- A binder with the values at the positions from zero on. -/
def indexed (values : List Value) : Binder :=
  values.zipIdx.foldl (fun binder v => (binder.bindIndex v.2 v.1).2) (empty false)

/-- A binder with the members of a JSON object by name, the elements of an array by position, or any
other value at position zero. -/
def ofJson : Json → Binder
  | .obj members =>
    members.foldl (fun binder m => (binder.bindName m.1 (.displayed (.ofJson m.2))).2) (empty false)
  | .arr elements =>
    elements.zipIdx.foldl (fun binder e => (binder.bindIndex e.2 (.displayed (.ofJson e.1))).2)
      (empty false)
  | value => ((empty false).bindIndex 0 (.displayed (.ofJson value))).2

/-- The event of a search for the highest position, which removing a value from `before` may take. -/
def searchEvents (before after : Binder) : List Event :=
  if before.highest = after.highest then []
  else
    let shown := match after.highest with
      | some n => s!"Some({n})"
      | none => "None"
    [⟨.trace, "recomputed highest index", [("highest", shown)]⟩]

/-! ## What the operations do to the view `at?` -/

@[simp] theorem at?_empty (caseSensitive : Bool) (key : Key) :
    (empty caseSensitive).at? key = none := by
  simp [at?, empty]

/-- Two binders that hold the same are the same. -/
theorem ext_at? {a b : Binder} (caseSensitive : a.caseSensitive = b.caseSensitive)
    (highest : a.highest = b.highest) (h : ∀ key, a.at? key = b.at? key) : a = b := by
  obtain ⟨caseSensitive, entries, highest⟩ := a
  have hentries : entries = b.entries := Std.ExtTreeMap.ext_getElem? h
  subst caseSensitive highest hentries
  rfl

theorem at?_insert (binder : Binder) (k key : Key) (value : Value) :
    (binder.insert k value).at? key = if k = key then some value else binder.at? key := by
  simp [at?, insert, Std.ExtTreeMap.getElem?_insert]

theorem at?_erase (binder : Binder) (k key : Key) :
    (binder.erase k).at? key = if k = key then none else binder.at? key := by
  simp [at?, erase, Std.ExtTreeMap.getElem?_erase]

end Binder

end Phrasebook

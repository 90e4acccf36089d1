import Std.Data.ExtTreeMap
import Phrasebook.Error
import Phrasebook.Profile

/-!
# Registries of messages

The messages of one language by key. A key is not empty and a message belongs to the language of the
registry: `Registry.insert` refuses anything else. The view is `Registry.get?`, with `get?_put` and
`get?_remove` for the changes.
-/

namespace Phrasebook

/-- The messages of one language by key. -/
structure Registry where
  profile : Profile
  messages : Std.ExtTreeMap String Message

namespace Registry

/-- A registry without messages. -/
def empty (profile : Profile) : Registry := ⟨profile, ∅⟩

instance : Inhabited Registry := ⟨empty default⟩

/-- The identity of the registry's language. -/
def identifier (registry : Registry) : String := registry.profile.identifier

/-- The message under a key. -/
def get? (registry : Registry) (key : String) : Option Message := registry.messages[key]?

/-- The message under a key, which has to be there. -/
def get (registry : Registry) (key : String) : Except Error Message :=
  match registry.get? key with
  | some message => .ok message
  | none => .error (.messageNotFound key registry.identifier)

/-- Whether there is a message under a key. -/
def contains (registry : Registry) (key : String) : Bool := (registry.get? key).isSome

/-- Refuses the empty key. -/
def checkKey (key : String) : Except Error Unit :=
  if key = "" then .error .emptyKey else .ok ()

/-- Puts a message under a key, without any check. -/
def put (registry : Registry) (key : String) (message : Message) : Registry :=
  { registry with messages := registry.messages.insert key message }

/-- Stores a message of the same language: the message that it replaces, and the registry. -/
def insert (registry : Registry) (key : String) (message : Message) :
    Except Error (Option Message × Registry) := do
  checkKey key
  if message.identifier = registry.identifier then
    return (registry.get? key, registry.put key message)
  else throw (.languageMismatch registry.identifier message.identifier)

/-- Forgets the message under a key. -/
def remove (registry : Registry) (key : String) : Registry :=
  { registry with messages := registry.messages.erase key }

/-- Forgets all messages. -/
def clear (registry : Registry) : Registry := { registry with messages := ∅ }

/-- The keys, sorted. -/
def keys (registry : Registry) : List String := registry.messages.keys

/-- How many messages there are. -/
def size (registry : Registry) : Nat := registry.messages.size

/-! ## What the operations do to the view `get?` -/

@[simp] theorem get?_empty (profile : Profile) (key : String) :
    (empty profile).get? key = none := by
  simp [get?, empty]

theorem get?_put (registry : Registry) (k key : String) (message : Message) :
    (registry.put k message).get? key =
      if k = key then some message else registry.get? key := by
  by_cases h : k = key <;> simp [get?, put, Std.ExtTreeMap.getElem?_insert, h]

theorem get?_remove (registry : Registry) (k key : String) :
    (registry.remove k).get? key = if k = key then none else registry.get? key := by
  by_cases h : k = key <;> simp [get?, remove, Std.ExtTreeMap.getElem?_erase, h]

@[simp] theorem get?_clear (registry : Registry) (key : String) :
    registry.clear.get? key = none := by
  simp [get?, clear]

end Registry

end Phrasebook

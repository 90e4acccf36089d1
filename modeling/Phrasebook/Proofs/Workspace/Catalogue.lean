import Phrasebook.Proofs.Workspace.Sessions

/-!
# The catalogue of a workspace

A `Catalogue` is what a workspace knows of languages and registries, apart from
lexicons, handlers and binders. Six things can happen to it (`Catalogue.Step`),
and what a registry keeps changes in one of them only, by a `Registry.Change`.
What a step makes of one registry is `Step.registry_cases`. A `Ledger` lists the
changes, and `Ledger.latest` finds in it what a registry should keep.
-/

namespace Phrasebook

namespace Registry

theorem checkKey_eq_ok_iff (key : String) : checkKey key = .ok () ↔ key ≠ "" := by
  rw [checkKey]
  split <;> simp_all

/-- Inserting checks the key and the language. -/
theorem insert_eq_ok {registry after : Registry} {key : String} {message : Message}
    {replaced : Option Message} (h : registry.insert key message = .ok (replaced, after)) :
    key ≠ "" ∧ message.identifier = registry.identifier ∧ after = registry.put key message := by
  rw [insert] at h
  cases hkey : checkKey key with
  | error error =>
    rw [hkey] at h
    cases h
  | ok =>
    rw [hkey] at h
    change (if _ then _ else _) = _ at h
    split at h
    · rename_i hsame
      cases h
      exact ⟨(checkKey_eq_ok_iff key).mp hkey, hsame, rfl⟩
    · cases h

/-- A change of what a registry keeps. -/
inductive Change where
  | stored (key : String) (message : Message)
  | removed (key : String)
  | cleared

namespace Change

/-- The registry after the change. -/
def apply (registry : Registry) : Change → Registry
  | .stored key message => registry.put key message
  | .removed key => registry.remove key
  | .cleared => registry.clear

/-- Whether the change says what is kept under the key. -/
def touches (key : String) : Change → Bool
  | .stored k _ => k = key
  | .removed k => k = key
  | .cleared => true

/-- The message that the change stores. -/
def message? : Change → Option Message
  | .stored _ message => some message
  | _ => none

/-- What is stored has a key and belongs to the language of the registry. -/
def Fits (registry : Registry) : Change → Prop
  | .stored key message => key ≠ "" ∧ message.identifier = registry.identifier
  | _ => True

variable (registry : Registry) (change : Change)

theorem get?_apply (key : String) :
    (change.apply registry).get? key =
      if change.touches key then change.message? else registry.get? key := by
  cases change with
  | stored k message =>
    simp only [apply, touches, message?, get?_put, decide_eq_true_eq]
  | removed k => simp only [apply, touches, message?, get?_remove, decide_eq_true_eq]
  | cleared => exact get?_clear registry key

@[simp] theorem profile_apply : (change.apply registry).profile = registry.profile := by
  cases change <;> rfl

@[simp] theorem identifier_apply : (change.apply registry).identifier = registry.identifier := by
  rw [identifier, profile_apply, identifier]

end Change

end Registry

/-- The changes of registries, the latest first. -/
abbrev Ledger := List (RegistryId × Registry.Change)

namespace Ledger

/-- The message last stored under a key of a registry and not since removed or
cleared. -/
def latest (ledger : Ledger) (id : RegistryId) (key : String) : Option Message :=
  (ledger.find? fun entry => entry.1 = id && entry.2.touches key).bind fun entry => entry.2.message?

theorem latest_cons (changed id : RegistryId) (change : Registry.Change) (ledger : Ledger)
    (key : String) :
    latest ((changed, change) :: ledger) id key =
      if changed = id ∧ change.touches key then change.message? else ledger.latest id key := by
  simp only [latest, List.find?_cons]
  by_cases hid : changed = id
  · cases htouch : change.touches key <;> simp [hid]
  · simp [hid]

end Ledger

/-- What is known of languages and registries. -/
structure Catalogue where
  languages : Std.ExtTreeMap String Language
  registryNames : Std.ExtTreeMap String RegistryId
  registries : Shelf Registry

/-- What a workspace knows of languages and registries. -/
def Workspace.catalogue (w : Workspace) : Catalogue := ⟨w.languages, w.registryNames, w.registries⟩

namespace Catalogue

/-- The registry of a number. -/
def registry (c : Catalogue) (id : RegistryId) : Registry := c.registries.get id.index

/-- The registry has a name or is the current one of a language. -/
def Knows (c : Catalogue) (id : RegistryId) : Prop :=
  (∃ name : String, c.registryNames[name]? = some id) ∨
    ∃ (name : String) (language : Language),
      c.languages[name]? = some language ∧ language.registry = id

/-- The catalogue after a change of one registry. -/
def changed (c : Catalogue) (id : RegistryId) (change : Registry.Change) : Catalogue :=
  { c with registries := c.registries.put id.index (change.apply (c.registry id)) }

theorem registry_changed {c : Catalogue} {id : RegistryId} (change : Registry.Change)
    (hid : id.index < c.registries.next) :
    (c.changed id change).registry id = change.apply (c.registry id) :=
  (Shelf.get_put _ _ _ _ hid).trans (if_pos rfl)

/-- What can happen to a catalogue, with the change of a registry if there is one. -/
inductive Step (c : Catalogue) : Option (RegistryId × Registry.Change) → Catalogue → Prop
  /-- Nothing. -/
  | stay : Step c none c
  /-- A new language, with a new registry. -/
  | language (name : String) (profile : Profile) :
      Step c none { c with
        languages := c.languages.insert name ⟨profile, ⟨c.registries.next⟩⟩
        registries := c.registries.add (.empty profile) }
  /-- A new registry with a name. -/
  | registry (name : String) (profile : Profile) :
      Step c none { c with
        registryNames := c.registryNames.insert name ⟨c.registries.next⟩
        registries := c.registries.add (.empty profile) }
  /-- A name for a registry. -/
  | name (name : String) {id : RegistryId} (known : c.Knows id) :
      Step c none { c with registryNames := c.registryNames.insert name id }
  /-- Another current registry for a language. -/
  | current {name : String} {language : Language} {id : RegistryId}
      (found : c.languages[name]? = some language) (known : c.Knows id)
      (same : (c.registry id).identifier = language.profile.identifier) :
      Step c none { c with
        languages := c.languages.insert name { language with registry := id } }
  /-- A change of a registry. -/
  | change {id : RegistryId} {change : Registry.Change} (known : c.Knows id)
      (fits : change.Fits (c.registry id)) :
      Step c (some (id, change)) (c.changed id change)

variable {c c' : Catalogue} {entry : Option (RegistryId × Registry.Change)} {id : RegistryId}

theorem Step.next_le (h : Step c entry c') : c.registries.next ≤ c'.registries.next := by
  cases h with
  | stay => exact Nat.le_refl _
  | language name profile => exact (Shelf.next_add _ _).symm ▸ Nat.le_succ _
  | registry name profile => exact (Shelf.next_add _ _).symm ▸ Nat.le_succ _
  | name name known => exact Nat.le_refl _
  | current found known same => exact Nat.le_refl _
  | change known fits => exact (Shelf.next_put _ _ _).symm ▸ Nat.le_refl _

/-- A registry stays as it is, is new and empty, or is what the step changes. -/
theorem Step.registry_cases (h : Step c entry c')
    (hid : c.Knows id → id.index < c.registries.next) :
    (c'.registry id = c.registry id ∧ ∀ change, entry ≠ some (id, change)) ∨
      (id.index = c.registries.next ∧ entry = none ∧
        ∃ profile, c'.registry id = .empty profile) ∨
      ∃ change, entry = some (id, change) ∧ change.Fits (c.registry id) ∧
        c'.registry id = change.apply (c.registry id) := by
  -- Two of the steps add a registry, which may be the one in question.
  have hadd (profile : Profile) :
      ((c.registries.add (.empty profile)).get id.index = c.registries.get id.index) ∨
        (id.index = c.registries.next ∧
          (c.registries.add (.empty profile)).get id.index = .empty profile) := by
    rw [Shelf.get_add]
    by_cases hnew : id.index = c.registries.next
    · exact .inr ⟨hnew, if_pos hnew⟩
    · exact .inl (if_neg hnew)
  cases h with
  | stay => exact .inl ⟨rfl, nofun⟩
  | language name profile =>
    rcases hadd profile with hsame | ⟨hnew, hempty⟩
    · exact .inl ⟨hsame, nofun⟩
    · exact .inr (.inl ⟨hnew, rfl, profile, hempty⟩)
  | registry name profile =>
    rcases hadd profile with hsame | ⟨hnew, hempty⟩
    · exact .inl ⟨hsame, nofun⟩
    · exact .inr (.inl ⟨hnew, rfl, profile, hempty⟩)
  | name name known => exact .inl ⟨rfl, nofun⟩
  | current found known same => exact .inl ⟨rfl, nofun⟩
  | @change changed change known fits =>
    by_cases hsame : changed = id
    · subst hsame
      refine .inr (.inr ⟨change, rfl, fits, ?_⟩)
      exact registry_changed change (hid known)
    · refine .inl ⟨Shelf.get_put_of_ne _ _ _ _ fun h => hsame (congrArg RegistryId.mk h), ?_⟩
      rintro _ ⟨⟩
      exact hsame rfl

/-- A registry that there is keeps its profile. -/
theorem Step.profile_registry (h : Step c entry c') (hid : id.index < c.registries.next) :
    (c'.registry id).profile = (c.registry id).profile := by
  rcases h.registry_cases fun _ => hid with ⟨hsame, -⟩ | ⟨hnew, -⟩ | ⟨change, -, -, happly⟩
  · rw [hsame]
  · exact absurd hnew (Nat.ne_of_lt hid)
  · rw [happly, Registry.Change.profile_apply]

/-- What a registry keeps follows the ledger. -/
theorem Step.recalls {ledger : Ledger} {key : String} (h : Step c entry c')
    (hid : c.Knows id → id.index < c.registries.next)
    (hrecalls : (c.registry id).get? key = ledger.latest id key) :
    (c'.registry id).get? key = Ledger.latest (entry.toList ++ ledger) id key := by
  rcases h.registry_cases hid with ⟨hsame, hother⟩ | ⟨hnew, rfl, profile, hempty⟩ |
    ⟨change, rfl, -, happly⟩
  · rw [hsame, hrecalls]
    cases entry with
    | none => rfl
    | some made =>
      obtain ⟨changed, change⟩ := made
      have hne : changed ≠ id := fun heq => hother change (by rw [heq])
      rw [Option.toList_some, List.singleton_append, Ledger.latest_cons,
        if_neg fun htouch => hne htouch.1]
  -- Until now a number that was not given out stood for an empty registry.
  · have hdefault : c.registry id = default := Shelf.get_of_le _ _ (Nat.le_of_eq hnew.symm)
    rw [hempty, Registry.get?_empty, Option.toList_none, List.nil_append, ← hrecalls, hdefault]
    exact (Registry.get?_empty _ key).symm
  · rw [happly, Registry.Change.get?_apply, Option.toList_some, List.singleton_append,
      Ledger.latest_cons, hrecalls]
    simp only [true_and]

end Catalogue

end Phrasebook

import Phrasebook.Proofs.Workspace.Operations

/-!
# Languages and registries stay consistent

Whatever a program does, the current registry of a language has the identifier
of the language, a registry has messages of its own identifier only and none
under the empty key, and each key has the message that the ledger of the run
says (`run_consistent`). What the proof carries from step to step is
`Catalogue.Sound`, in which the registries that a program can name are among
those that there are.
-/

namespace Phrasebook

namespace Catalogue

/-- What can be named is there, the current registry of each language has its
identifier, what is stored has a key and the identifier of its registry, and it
is what the ledger says. -/
structure Sound (c : Catalogue) (ledger : Ledger) : Prop where
  known : ∀ id, c.Knows id → id.index < c.registries.next
  current : ∀ (name : String) (language : Language), c.languages[name]? = some language →
    (c.registry language.registry).identifier = language.profile.identifier
  stored : ∀ id key message, (c.registry id).get? key = some message →
    key ≠ "" ∧ message.identifier = (c.registry id).identifier
  recalls : ∀ id key, (c.registry id).get? key = ledger.latest id key

variable {c c' : Catalogue} {entry : Option (RegistryId × Registry.Change)} {ledger : Ledger}

/-- A language is as it was, or it is new with a new registry, or a registry of
its identifier has become current. -/
theorem Step.language_cases (h : Step c entry c') {name : String} {language : Language}
    (hlanguage : c'.languages[name]? = some language) :
    c.languages[name]? = some language ∨
      (language.registry = ⟨c.registries.next⟩ ∧
        c'.registries = c.registries.add (.empty language.profile)) ∨
      (c.Knows language.registry ∧ c'.registries = c.registries ∧
        (c.registry language.registry).identifier = language.profile.identifier) := by
  cases h with
  | stay => exact .inl hlanguage
  | language n profile =>
    rw [Std.ExtTreeMap.getElem?_insert] at hlanguage
    split at hlanguage
    · cases hlanguage
      exact .inr (.inl ⟨rfl, rfl⟩)
    · exact .inl hlanguage
  | registry n profile => exact .inl hlanguage
  | name n known => exact .inl hlanguage
  | current found known same =>
    rw [Std.ExtTreeMap.getElem?_insert] at hlanguage
    split at hlanguage
    · cases hlanguage
      exact .inr (.inr ⟨known, rfl, same⟩)
    · exact .inl hlanguage
  | change known fits => exact .inl hlanguage

/-- A name of a registry is as it was, or it is for a new registry or for one
that is known. -/
theorem Step.name_cases (h : Step c entry c') {name : String} {id : RegistryId}
    (hname : c'.registryNames[name]? = some id) :
    c.Knows id ∨ (id = ⟨c.registries.next⟩ ∧ c'.registries.next = c.registries.next + 1) := by
  cases h with
  | stay => exact .inl (.inl ⟨name, hname⟩)
  | language n profile => exact .inl (.inl ⟨name, hname⟩)
  | registry n profile =>
    rw [Std.ExtTreeMap.getElem?_insert] at hname
    split at hname
    · cases hname
      exact .inr ⟨rfl, Shelf.next_add _ _⟩
    · exact .inl (.inl ⟨name, hname⟩)
  | name n known =>
    rw [Std.ExtTreeMap.getElem?_insert] at hname
    split at hname
    · cases hname
      exact .inl known
    · exact .inl (.inl ⟨name, hname⟩)
  | current found known same => exact .inl (.inl ⟨name, hname⟩)
  | change known fits => exact .inl (.inl ⟨name, hname⟩)

theorem Sound.knows_lt (hc : c.Sound ledger) (h : Step c entry c') {id : RegistryId}
    (hid : c'.Knows id) : id.index < c'.registries.next := by
  have hold {id : RegistryId} (hknown : c.Knows id) : id.index < c'.registries.next :=
    Nat.lt_of_lt_of_le (hc.known id hknown) h.next_le
  rcases hid with ⟨name, hname⟩ | ⟨name, language, hlanguage, rfl⟩
  · rcases h.name_cases hname with hknown | ⟨rfl, hnext⟩
    · exact hold hknown
    · rw [hnext]
      exact Nat.lt_succ_self _
  · rcases h.language_cases hlanguage with hsame | ⟨hnew, hregistries⟩ | ⟨hknown, -, -⟩
    · exact hold (.inr ⟨name, language, hsame, rfl⟩)
    · rw [hnew, hregistries, Shelf.next_add]
      exact Nat.lt_succ_self _
    · exact hold hknown

theorem Sound.current_step (hc : c.Sound ledger) (h : Step c entry c') {name : String}
    {language : Language} (hlanguage : c'.languages[name]? = some language) :
    (c'.registry language.registry).identifier = language.profile.identifier := by
  rcases h.language_cases hlanguage with hsame | ⟨hnew, hregistries⟩ | ⟨-, hregistries, hsame⟩
  · have hlt := hc.known _ (.inr ⟨name, language, hsame, rfl⟩)
    rw [Registry.identifier, h.profile_registry hlt]
    exact hc.current name language hsame
  · rw [registry, hnew, hregistries, Shelf.get_add, if_pos rfl]
    rfl
  · rw [registry, hregistries]
    exact hsame

theorem Sound.stored_step (hc : c.Sound ledger) (h : Step c entry c') {id : RegistryId}
    {key : String} {message : Message} (hget : (c'.registry id).get? key = some message) :
    key ≠ "" ∧ message.identifier = (c'.registry id).identifier := by
  rcases h.registry_cases (hc.known id) with ⟨hsame, -⟩ | ⟨-, -, profile, hempty⟩ |
    ⟨change, -, hfits, happly⟩
  · rw [hsame] at hget ⊢
    exact hc.stored id key message hget
  · rw [hempty, Registry.get?_empty] at hget
    cases hget
  · rw [happly, Registry.Change.identifier_apply]
    rw [happly, Registry.Change.get?_apply] at hget
    split at hget
    · rename_i htouches
      cases change with
      | stored k m =>
        cases hget
        rw [← of_decide_eq_true htouches]
        exact hfits
      | removed k => cases hget
      | cleared => cases hget
    · exact hc.stored id key message hget

/-- Every step keeps a catalogue sound. -/
theorem Sound.step (hc : c.Sound ledger) (h : Step c entry c') :
    c'.Sound (entry.toList ++ ledger) where
  known _ := hc.knows_lt h
  current _ _ := hc.current_step h
  stored _ _ _ := hc.stored_step h
  recalls id key := h.recalls (hc.known id) (hc.recalls id key)

theorem sound_empty : Workspace.empty.catalogue.Sound [] := by
  have hnone (id : RegistryId) (key : String) :
      (Workspace.empty.catalogue.registry id).get? key = none := by
    rw [registry, Shelf.get_of_le _ _ (Nat.zero_le _)]
    exact Registry.get?_empty default key
  refine ⟨?_, fun name language h => ?_, fun id key message h => ?_, hnone⟩
  · rintro id (⟨name, h⟩ | ⟨name, language, h, -⟩)
    all_goals simp [Workspace.catalogue, Workspace.empty] at h
  · simp [Workspace.catalogue, Workspace.empty] at h
  · rw [hnone] at h
    cases h

end Catalogue

namespace Registry

/-- The registry has no empty key, messages of its own language, the message
that each key should have, and its keys in order. -/
structure Consistent (registry : Registry) (latest : String → Option Message) : Prop where
  emptyKey : registry.contains "" = false
  identifier : ∀ key message, registry.get key = .ok message →
    message.identifier = registry.identifier
  get : ∀ key, registry.get key =
    match latest key with
    | some message => .ok message
    | none => .error (.messageNotFound key registry.identifier)
  ascending : registry.keys.Pairwise (· < ·)
  mem_keys : ∀ key, key ∈ registry.keys ↔ registry.contains key = true

theorem pairwise_keys (registry : Registry) : registry.keys.Pairwise (· < ·) := by
  have hordered : registry.keys.Pairwise fun a b => compare a b = .lt :=
    Std.ExtTreeMap.ordered_keys
  exact hordered.imp fun h => compareOfLessAndEq_eq_lt.mp h

theorem mem_keys_iff (registry : Registry) (key : String) :
    key ∈ registry.keys ↔ registry.contains key = true := by
  rw [keys, Std.ExtTreeMap.mem_keys, Std.ExtTreeMap.mem_iff_isSome_getElem?]
  rfl

theorem get_eq_ok_iff (registry : Registry) (key : String) (message : Message) :
    registry.get key = .ok message ↔ registry.get? key = some message := by
  rw [get]
  cases registry.get? key <;> simp

end Registry

/-- After every run the current registry of each language is one of its
identifier, and each registry is consistent with the ledger of the run. -/
theorem Workspace.run_consistent (ops : List Operation) :
    (∀ (name : String) (language : Language),
      (empty.run ops).languages[name]? = some language →
        language.registry.index < (empty.run ops).registries.next ∧
          ((empty.run ops).registries.get language.registry.index).identifier =
            language.profile.identifier) ∧
      ∀ id : RegistryId, ((empty.run ops).registries.get id.index).Consistent
        ((empty.history ops).latest id) := by
  have hsound : (empty.run ops).catalogue.Sound (empty.history ops ++ []) :=
    run_keeps (fun h hc => hc.step h) Catalogue.sound_empty ops
  rw [List.append_nil] at hsound
  refine ⟨fun name language h => ⟨?_, hsound.current name language h⟩, fun id => ?_⟩
  · exact hsound.known _ (.inr ⟨name, language, h, rfl⟩)
  · refine ⟨?_, fun key message h => ?_, fun key => ?_, Registry.pairwise_keys _,
      Registry.mem_keys_iff _⟩
    · rw [Registry.contains, Option.isSome_eq_false_iff, Option.isNone_iff_eq_none]
      refine Option.eq_none_iff_forall_ne_some.mpr fun message h => ?_
      exact (hsound.stored id "" message h).1 rfl
    · exact (hsound.stored id key message ((Registry.get_eq_ok_iff _ _ _).mp h)).2
    · rw [Registry.get, ← hsound.recalls id key]
      rfl

/-- Neither an empty key nor a registry of another language is accepted. What
was stored before is still there, but for the message that was removed. -/
theorem Workspace.run_consistent_of_refusals :
    let ops : List Operation :=
      [.makeLanguage "en" (.standard "English" "en"), .makeLanguage "de" (.standard "German" "de"),
        .store (.current "en") "b" "Bye", .store (.current "en") "a" "Hi",
        .store (.current "en") "" "Nothing", .setRegistry "de" (.current "en"),
        .store (.current "de") "b" "Tag", .remove (.current "en") "b"]
    let w := empty.run ops
    (empty.history ops).length = 4 ∧ (w.registries.get 0).keys = ["a"] ∧
      (w.registries.get 1).keys = ["b"] ∧
      (∃ message, (w.registries.get 0).get "a" = .ok message ∧ message.content = "Hi") ∧
      (w.registries.get 0).get "b" = .error (.messageNotFound "b" "English/en") ∧
      ∃ german, w.languages["de"]? = some german ∧ german.registry = ⟨1⟩ ∧
        (w.registries.get german.registry.index).identifier = german.profile.identifier := by
  intro ops w
  obtain ⟨hcurrent, hregistries⟩ := run_consistent ops
  have hledger : (empty.history ops).length = 4 ∧
      ((empty.history ops).latest ⟨0⟩ "a").map Message.content = some "Hi" ∧
      ((empty.history ops).latest ⟨0⟩ "b").isNone := by
    decide +kernel
  have hkeys : (w.registries.get 0).keys = ["a"] ∧ (w.registries.get 1).keys = ["b"] ∧
      (w.registries.get 0).identifier = "English/en" ∧
      (w.languages["de"]?.map Language.registry) = some ⟨1⟩ := by
    decide +kernel
  obtain ⟨message, hlatest, hcontent⟩ := Option.map_eq_some_iff.mp hledger.2.1
  obtain ⟨german, hgerman, hregistry⟩ := Option.map_eq_some_iff.mp hkeys.2.2.2
  refine ⟨hledger.1, hkeys.1, hkeys.2.1, ⟨message, ?_, hcontent⟩, ?_, german, hgerman, hregistry,
    (hcurrent "de" german hgerman).2⟩
  · rw [(hregistries ⟨0⟩).get "a", hlatest]
  · rw [(hregistries ⟨0⟩).get "b", Option.isNone_iff_eq_none.mp hledger.2.2, hkeys.2.2.1]

end Phrasebook

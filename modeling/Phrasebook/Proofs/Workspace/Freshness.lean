import Phrasebook.Proofs.Workspace.Refusals

/-!
# Stored messages do not go stale

A message is parsed when it is stored and rendered whenever it is asked for,
and in the meantime lexicons and handlers change. Where the language does not
check tokens itself, what is stored are all tokens of the text, which depend on
the lexer alone, so rendering it is rendering the text as it would be parsed
then (`renderStored_of_stored`), as long as nothing else is stored under the key
and the key is not forgotten.
-/

namespace Phrasebook

theorem Ledger.latest_append {before after : Ledger} {id : RegistryId} {key : String}
    (h : ∀ entry ∈ before, ¬ (entry.1 = id ∧ entry.2.touches key)) :
    latest (before ++ after) id key = after.latest id key := by
  have hnone : (before.find? fun entry => entry.1 = id && entry.2.touches key) = none := by
    rw [List.find?_eq_none]
    intro entry hentry hfound
    exact h entry hentry (by simpa using hfound)
  rw [latest, List.find?_append, hnone, Option.none_or, latest]

theorem Ledger.latest_stored (id : RegistryId) (key : String) (message : Message)
    (ledger : Ledger) : latest ((id, .stored key message) :: ledger) id key = some message := by
  rw [latest_cons, if_pos ⟨rfl, decide_eq_true rfl⟩]
  rfl

namespace Session

/-- Rendering what is stored is rendering that message. -/
theorem perform_renderStored {w : Workspace} {id : RegistryId} {key : String} {message : Message}
    (h : (w.registries.get id.index).get? key = some message) (binder : Binder) :
    w.perform (renderStored id key binder) = w.perform (renderMessage message binder) := by
  rw [Workspace.perform, renderStored, run_bind, run_getMessage, Registry.get, h]
  rfl

end Session

namespace Workspace

open Session

/-- The registry is there, has the profile and keeps what the ledger says. -/
structure Keeps (id : RegistryId) (key : String) (profile : Profile) (c : Catalogue)
    (ledger : Ledger) : Prop where
  lt : id.index < c.registries.next
  profile : (c.registry id).profile = profile
  recalls : (c.registry id).get? key = ledger.latest id key

theorem Keeps.step {c c' : Catalogue} {entry : Option (RegistryId × Registry.Change)}
    {ledger : Ledger} {id : RegistryId} {key : String} {profile : Profile}
    (h : Catalogue.Step c entry c') (hkeeps : Keeps id key profile c ledger) :
    Keeps id key profile c' (entry.toList ++ ledger) where
  lt := Nat.lt_of_lt_of_le hkeeps.lt h.next_le
  profile := (h.profile_registry hkeeps.lt).trans hkeeps.profile
  recalls := h.recalls (fun _ => hkeeps.lt) hkeeps.recalls

/-- What is stored is what the text was parsed to. -/
theorem parsed_of_stored {w : Workspace} {id : RegistryId} {key content : String} {stored : Message}
    (hstored : (w.perform (storeMessage id key content)).1 = .ok stored) :
    (w.parsed id content).result = .ok stored := by
  by_cases hkey : key = ""
  · subst hkey
    cases hstored
  · obtain ⟨collectors, handlers, -, hperform⟩ := perform_storeMessage w id hkey content
    rw [hperform] at hstored
    exact hstored

/-- Storing a message keeps it under its key. -/
theorem keeps_store {w : Workspace} {id : RegistryId} {key content : String} {stored : Message}
    (hid : id.index < w.registries.next)
    (hstored : (w.perform (storeMessage id key content)).1 = .ok stored) :
    Keeps id key (w.registries.get id.index).profile
      (w.perform (storeMessage id key content)).2.2.catalogue [(id, .stored key stored)] := by
  have hend := (ends_storeMessage (c := w.catalogue) id key content).perform
  rw [hstored] at hend
  obtain ⟨-, -, hafter⟩ := hend
  have hregistry := Catalogue.registry_changed (.stored key stored) (c := w.catalogue) hid
  refine ⟨?_, ?_, ?_⟩
  · rw [hafter]
    exact (Shelf.next_put _ _ _).symm ▸ hid
  · rw [hafter, hregistry, Registry.Change.profile_apply]
    rfl
  · rw [hafter, hregistry, Ledger.latest_stored]
    exact (Registry.get?_put _ key key stored).trans (if_pos rfl)

/-- A stored message is rendered, after any operations that do not store
anything else under its key or forget it, as the message is that its text would
be parsed to then, whatever the context; and a handler that accepts what
parsing reports lets it be parsed. -/
theorem renderStored_of_stored {w : Workspace} {id : RegistryId} {key content : String}
    {stored : Message} (ops : List Operation) (hid : id.index < w.registries.next)
    (hcheck : (w.methodsOf (w.registry id).profile).nameCheck = .reporting)
    (hstored : (w.perform (storeMessage id key content)).1 = .ok stored)
    (huntouched : ∀ entry ∈ (w.perform (storeMessage id key content)).2.2.history ops,
      ¬ (entry.1 = id ∧ entry.2.touches key)) :
    let now := (w.perform (storeMessage id key content)).2.2.run ops
    let profile := (now.registry id).profile
    ∀ (methods : Methods) (context : Context) (handler : Handler), methods.nameCheck = .reporting →
      (∀ fresh, (Message.parse profile methods context handler content).result = .ok fresh →
        ∀ binder, now.perform (renderStored id key binder) =
          now.perform (renderMessage fresh binder)) ∧
        (handler.Accepts (Remark.diagnostics (profile.parseRemarks context.lexicon content)) →
          ∃ fresh, (Message.parse profile methods context handler content).result = .ok fresh) := by
  have hmessage := (Message.judged_parse hcheck _ _ _ _).eq_of_ok (parsed_of_stored hstored)
  have hnow := run_keeps (fun h hkeeps => Keeps.step h hkeeps) (keeps_store hid hstored) ops
  intro now profile methods context handler hdefault
  have hparse := Message.judged_parse hdefault profile context handler content
  refine ⟨fun fresh hfresh binder => ?_, fun haccepts => ?_⟩
  · have hprofile : profile = (w.registry id).profile := hnow.profile
    have hsame : stored = fresh := by rw [hparse.eq_of_ok hfresh, hprofile, hmessage]
    have hget : (now.registries.get id.index).get? key = some fresh := by
      refine hnow.recalls.trans ?_
      rw [Ledger.latest_append huntouched, Ledger.latest_stored, hsame]
    exact perform_renderStored hget binder
  · exact ⟨_, (hparse.of_accepts haccepts).1⟩

/-- The name is not known when the message is stored; by the time it is
rendered the lexicon knows it and the handler would raise any other. -/
theorem renderStored_of_stored_of_registered :
    let w := empty.run [.makeLanguage "en" (.standard "English" "en")]
    let ops : List Operation :=
      [.register "en" (.constant "name" "Ada"), .setHandler "en" (.abortingOn .unknownPlaceholder),
        .store (.current "en") "farewell" "\x7bwho\x7d", .remove (.current "en") "farewell"]
    let now := (w.perform (storeMessage ⟨0⟩ "greeting" "Hi \x7bname\x7d")).2.2.run ops
    let profile := (now.registry ⟨0⟩).profile
    ∃ fresh, (Message.parse profile .standard (now.contextOf profile) (now.handlerOf profile)
        "Hi \x7bname\x7d").result = .ok fresh ∧
      now.perform (renderStored ⟨0⟩ "greeting" (.empty false)) =
        now.perform (renderMessage fresh (.empty false)) ∧
      (now.perform (renderMessage fresh (.empty false))).1.toOption = some "Hi Ada" := by
  intro w ops now profile
  have hstores : (w.perform (storeMessage ⟨0⟩ "greeting" "Hi \x7bname\x7d")).1.isOk := by
    decide +kernel
  have hrenders : (now.perform (renderStored ⟨0⟩ "greeting" (.empty false))).1.toOption =
      some "Hi Ada" := by
    decide +kernel
  cases hstored : (w.perform (storeMessage ⟨0⟩ "greeting" "Hi \x7bname\x7d")).1 with
  | error error =>
    rw [hstored] at hstores
    cases hstores
  | ok stored =>
    obtain ⟨hsame, hparses⟩ := renderStored_of_stored ops (by decide +kernel) rfl hstored
      (by decide +kernel) .standard (now.contextOf profile) (now.handlerOf profile) rfl
    have hquiet : Remark.diagnostics
        (profile.parseRemarks (now.contextOf profile).lexicon "Hi \x7bname\x7d") = [] := by
      decide +kernel
    rw [hquiet] at hparses
    obtain ⟨fresh, hfresh⟩ := hparses Handler.accepts_nil
    refine ⟨fresh, hfresh, hsame fresh hfresh _, ?_⟩
    rw [← hsame fresh hfresh]
    exact hrenders

end Workspace

end Phrasebook

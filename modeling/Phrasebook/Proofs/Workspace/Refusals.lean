import Phrasebook.Proofs.Workspace.Operations

/-!
# Registries change as asked or not at all

Storing a text, inserting a message and making a registry the current one of a
language are checked before anything is written: the key, then what parsing
reports, or the language. An operation that fails leaves the workspace as it is,
but for the journal and what handlers are given (`Workspace.Intact`), and one
that succeeds changes what one key of one registry holds
(`Workspace.StoresOnly`) or the current registry of one language
(`Workspace.MakesCurrent`). `AllOrNothing` puts the two together, and
`registries_allOrNothing` says when each fails.
-/

namespace Phrasebook

/-- Inserting checks the key first and then the language. -/
theorem Registry.insert_eq (registry : Registry) (key : String) (message : Message) :
    registry.insert key message =
      if key = "" then .error .emptyKey
      else if message.identifier = registry.identifier then
        .ok (registry.get? key, registry.put key message)
      else .error (.languageMismatch registry.identifier message.identifier) := by
  rw [insert, checkKey]
  by_cases hkey : key = ""
  · rw [if_pos hkey, if_pos hkey]
    rfl
  · rw [if_neg hkey, if_neg hkey]
    rfl

namespace Workspace

/-- Each handler of `later` is that of `handlers` after it was given some diagnostics. -/
def Informed (handlers later : Shelf Handler) : Prop :=
  ∀ n, ∃ given, later.get n = (handlers.get n).after given

theorem informed_refl (handlers : Shelf Handler) : Informed handlers handlers := fun _ => ⟨[], rfl⟩

theorem informed_put (handlers : Shelf Handler) (n : Nat) (given : List Diagnostic) :
    Informed handlers (handlers.put n ((handlers.get n).after given)) := by
  intro m
  by_cases hm : n = m
  · subst hm
    by_cases hn : n < handlers.next
    · exact ⟨given, by rw [Shelf.get_put _ _ _ _ hn, if_pos rfl]⟩
    · refine ⟨[], ?_⟩
      have hle := Nat.le_of_not_lt hn
      rw [Handler.after_nil, Shelf.get_of_le _ _ hle, Shelf.get_of_le]
      rwa [Shelf.next_put]
  · exact ⟨[], Shelf.get_put_of_ne _ _ _ _ hm⟩

theorem Informed.eq_of_forgetful {handlers later : Shelf Handler} (h : Informed handlers later)
    {n : Nat} (hforgets : (handlers.get n).Forgetful) : later.get n = handlers.get n := by
  obtain ⟨given, hgiven⟩ := h n
  rw [hgiven, hforgets]

variable (w : Workspace)

/-- The registry of a number. -/
def registry (id : RegistryId) : Registry := w.registries.get id.index

/-- What a text comes to that is parsed for a registry now. -/
def parsed (id : RegistryId) (content : String) : Outcome Message :=
  let profile := (w.registry id).profile
  Message.parse profile (w.methodsOf profile) (w.contextOf profile) (w.handlerOf profile) content

theorem journal_settle {α : Type} (w : Workspace) (profile : Profile) (outcome : Outcome α) :
    (w.settle profile outcome).journal = w.journal ++ outcome.journal := by
  obtain ⟨_, h⟩ := w.settle_eq profile outcome
  rw [h]

/-- Parsing changes the journal and what handlers are given. -/
theorem settle_parsed (id : RegistryId) (content : String) :
    ∃ collectors handlers,
      w.settle (w.registry id).profile (w.parsed id content) =
        { w with handlers, collectors, journal := w.journal ++ (w.parsed id content).journal } ∧
      Informed w.handlers handlers := by
  obtain ⟨collectors, h⟩ := w.settle_eq (w.registry id).profile (w.parsed id content)
  have hcontext : (w.parsed id content).context = w.contextOf (w.registry id).profile :=
    Message.context_parse _ _ _ _ content
  have hinformed := informed_put w.handlers (w.registry id).profile.id.index
    (w.parsed id content).journal.diagnostics
  refine ⟨collectors, _, ?_, hinformed⟩
  rw [h, hcontext, contextOf, lexiconOf, Shelf.put_get]
  rfl

end Workspace

open Workspace

namespace Session

variable {α : Type} (w : Workspace)

theorem run_changeRegistry (id : RegistryId) (f : Registry → Except Error (α × Registry)) :
    (changeRegistry id f).run w =
      match f (w.registry id) with
      | .ok (a, after) => (.ok a, { w with registries := w.registries.put id.index after })
      | .error error => (.error error, w) := by
  rw [changeRegistry, run_bind]
  show (ofExcept (f (w.registry id)) >>= _).run w = _
  rw [run_bind, run_ofExcept]
  cases f (w.registry id) with
  | ok result => rfl
  | error error => rfl

theorem run_createMessage (id : RegistryId) (content : String) :
    (createMessage id content).run w =
      ((w.parsed id content).result, w.settle (w.registry id).profile (w.parsed id content)) := by
  rw [createMessage, run_bind]
  exact run_process w _ _

theorem run_storeMessage (id : RegistryId) {key : String} (hkey : key ≠ "") (content : String) :
    (storeMessage id key content).run w =
      match (w.parsed id content).result with
      | .ok message =>
        (.ok message, { w.settle (w.registry id).profile (w.parsed id content) with
          registries := w.registries.put id.index ((w.registry id).put key message) })
      | .error error =>
        (.error error, w.settle (w.registry id).profile (w.parsed id content)) := by
  rw [storeMessage, run_bind, run_ofExcept, (Registry.checkKey_eq_ok_iff key).mpr hkey]
  show (createMessage id content >>= _).run w = _
  rw [run_bind, run_createMessage]
  cases (w.parsed id content).result with
  | error error => rfl
  | ok message => simp only [run_changeRegistry, Workspace.registry, registries_settle]

theorem run_setRegistry {name : String} {language : Language}
    (h : w.languages[name]? = some language) (id : RegistryId) :
    (setRegistry name id).run w =
      if (w.registry id).identifier = language.profile.identifier then
        (.ok language.registry,
          { w with languages := w.languages.insert name { language with registry := id } })
      else
        (.error (.languageMismatch language.profile.identifier (w.registry id).identifier), w) := by
  rw [setRegistry, run_bind, findLanguage, run_find, h]
  show (if (w.registry id).identifier = _ then _ else _ : Session RegistryId).run w = _
  split
  · rfl
  · rfl

end Session

/-! ## What an operation leaves -/

open Session

namespace Workspace

variable {w : Workspace}

/-- Only the journal and what handlers are given set the workspaces apart.
Messages are looked up as before, and rendered as before where the handler does
not remember what it was given. -/
structure Intact (w after : Workspace) : Prop where
  eq : after = { w with
    handlers := after.handlers, collectors := after.collectors, journal := after.journal }
  informed : Informed w.handlers after.handlers
  get : ∀ id key, (after.perform (getMessage id key)).1 = (w.perform (getMessage id key)).1
  render : ∀ id key binder,
    (∀ message, (w.registry id).get? key = some message →
      (w.handlerOf message.profile).Forgetful) →
    (after.perform (renderStored id key binder)).1 = (w.perform (renderStored id key binder)).1 ∧
      (after.perform (renderStored id key binder)).2.1 =
        (w.perform (renderStored id key binder)).2.1

/-- Besides the journal and what handlers are given, only the message under one
key of one registry is new. -/
structure StoresOnly (w : Workspace) (id : RegistryId) (key : String) (message : Message)
    (after : Workspace) : Prop where
  eq : after = { w with
    registries := after.registries, handlers := after.handlers, collectors := after.collectors,
    journal := after.journal }
  informed : Informed w.handlers after.handlers
  next : after.registries.next = w.registries.next
  profile : ∀ other, (after.registry other).profile = (w.registry other).profile
  get? : ∀ other k, (after.registry other).get? k =
    if other = id ∧ k = key then some message else (w.registry other).get? k

/-- Besides the journal, only the current registry of one language is another. -/
structure MakesCurrent (w : Workspace) (name : String) (language : Language) (id : RegistryId)
    (after : Workspace) : Prop where
  eq : after = { w with languages := after.languages, journal := after.journal }
  languages : ∀ other : String, after.languages[other]? =
    if other = name then some { language with registry := id } else w.languages[other]?

theorem reply_renderStored (w : Workspace) (id : RegistryId) (key : String) (binder : Binder) :
    ((w.perform (renderStored id key binder)).1, (w.perform (renderStored id key binder)).2.1) =
      match (w.registry id).get key with
      | .ok message =>
        let profile := message.profile
        let rendered :=
          message.transform (w.methodsOf profile) (w.contextOf profile) (w.handlerOf profile) binder
        (rendered.result, rendered.journal)
      | .error error => (.error error, []) := by
  rw [perform, renderStored, run_bind, run_getMessage, registry]
  cases (w.registries.get id.index).get key with
  | error error => rfl
  | ok message =>
    simp only [renderMessage, run_process, journal_settle]
    rfl

theorem reply_getMessage (w : Workspace) (id : RegistryId) (key : String) :
    (w.perform (getMessage id key)).1 = (w.registry id).get key := by
  rw [perform, run_getMessage]
  rfl

theorem intact {handlers : Shelf Handler} (hinformed : Informed w.handlers handlers)
    (collectors : Std.ExtTreeMap String (List Diagnostic)) (journal : Journal) :
    w.Intact { w with handlers, collectors, journal } where
  eq := rfl
  informed := hinformed
  get id key := (reply_getMessage _ id key).trans (reply_getMessage w id key).symm
  render id key binder hforgets := by
    have hreply := reply_renderStored { w with handlers, collectors, journal } id key binder
    have hbefore := reply_renderStored w id key binder
    have hregistry : registry { w with handlers, collectors, journal } id = w.registry id := rfl
    rw [hregistry] at hreply
    rw [Registry.get] at hreply hbefore
    cases hget : (w.registry id).get? key with
    | none =>
      rw [hget] at hreply hbefore
      exact Prod.mk.inj (hreply.trans hbefore.symm)
    | some message =>
      have hhandler : handlerOf { w with handlers, collectors, journal } message.profile =
          w.handlerOf message.profile := hinformed.eq_of_forgetful (hforgets message hget)
      rw [hget] at hreply hbefore
      simp only [hhandler] at hreply
      exact Prod.mk.inj (hreply.trans hbefore.symm)

/-- Putting a message into a registry that is there changes what one key holds. -/
theorem storesOnly {id : RegistryId} (hid : id.index < w.registries.next) (key : String)
    (message : Message) {handlers : Shelf Handler} (hinformed : Informed w.handlers handlers)
    (collectors : Std.ExtTreeMap String (List Diagnostic)) (journal : Journal) :
    w.StoresOnly id key message { w with
      registries := w.registries.put id.index ((w.registry id).put key message)
      handlers
      collectors
      journal } where
  eq := rfl
  informed := hinformed
  next := Shelf.next_put _ _ _
  profile other := by
    simp only [registry, Shelf.get_put _ _ _ _ hid]
    split
    · rename_i hsame
      rw [hsame]
      rfl
    · rfl
  get? other k := by
    simp only [registry, Shelf.get_put _ _ _ _ hid]
    by_cases hsame : id = other
    · subst hsame
      rw [if_pos rfl, Registry.get?_put]
      by_cases hk : key = k
      · rw [if_pos hk, if_pos ⟨rfl, hk.symm⟩]
      · rw [if_neg hk, if_neg fun h => hk h.2.symm]
    · rw [if_neg fun h => hsame (congrArg RegistryId.mk h), if_neg fun h => hsame h.1.symm]

end Workspace

namespace Session

variable {α : Type} {x : Session α} {w : Workspace} {done : α → Workspace → Prop}

/-- The session fails and leaves the workspace intact, or succeeds with `done`. -/
structure AllOrNothing (x : Session α) (w : Workspace) (done : α → Workspace → Prop) : Prop where
  failed : ∀ error, (w.perform x).1 = .error error → w.Intact (w.perform x).2.2
  succeeded : ∀ a, (w.perform x).1 = .ok a → done a (w.perform x).2.2

theorem AllOrNothing.of_error {error : Error} {shown journal : Journal} {handlers : Shelf Handler}
    {collectors : Std.ExtTreeMap String (List Diagnostic)}
    (hinformed : Informed w.handlers handlers)
    (h : w.perform x = (.error error, shown, { w with handlers, collectors, journal })) :
    x.AllOrNothing w done := by
  refine ⟨fun _ _ => ?_, fun a ha => ?_⟩
  · rw [h]
    exact intact hinformed collectors journal
  · rw [h] at ha
    cases ha

theorem AllOrNothing.of_ok {a : α} {shown : Journal} {after : Workspace}
    (h : w.perform x = (.ok a, shown, after)) (hdone : done a after) : x.AllOrNothing w done := by
  refine ⟨fun error herror => ?_, fun b hb => ?_⟩
  · rw [h] at herror
    cases herror
  · rw [h] at hb ⊢
    cases hb
    exact hdone

theorem perform_changeRegistry (w : Workspace) (id : RegistryId)
    (f : Registry → Except Error (α × Registry)) :
    w.perform (changeRegistry id f) =
      match f (w.registry id) with
      | .ok (a, after) =>
        (.ok a, [], { w with registries := w.registries.put id.index after, journal := [] })
      | .error error => (.error error, [], { w with journal := [] }) := by
  have hregistry : registry { w with journal := [] } id = w.registry id := rfl
  rw [perform, run_changeRegistry, hregistry]
  cases f (w.registry id) with
  | error error => rfl
  | ok result => rfl

/-! ## Storing a text -/

theorem perform_storeMessage (w : Workspace) (id : RegistryId) {key : String} (hkey : key ≠ "")
    (content : String) :
    ∃ collectors handlers, Informed w.handlers handlers ∧ w.perform (storeMessage id key content) =
      ((w.parsed id content).result, (w.parsed id content).journal,
        match (w.parsed id content).result with
        | .ok message => { w with
            registries := w.registries.put id.index ((w.registry id).put key message)
            handlers
            collectors
            journal := (w.parsed id content).journal }
        | .error _ => { w with handlers, collectors, journal := (w.parsed id content).journal }) := by
  obtain ⟨collectors, handlers, hsettle, hinformed⟩ :=
    settle_parsed { w with journal := [] } id content
  have hparsed : parsed { w with journal := [] } id content = w.parsed id content := rfl
  refine ⟨collectors, handlers, hinformed, ?_⟩
  rw [perform, run_storeMessage _ id hkey, hsettle, hparsed]
  cases (w.parsed id content).result with
  | error error => rfl
  | ok message => rfl

theorem storeMessage_allOrNothing {id : RegistryId} (hid : id.index < w.registries.next)
    (key content : String) :
    (storeMessage id key content).AllOrNothing w fun message after =>
      (w.parsed id content).result = .ok message ∧ w.StoresOnly id key message after := by
  by_cases hkey : key = ""
  · subst hkey
    exact .of_error (informed_refl _) rfl
  · obtain ⟨collectors, handlers, hinformed, hperform⟩ := perform_storeMessage w id hkey content
    cases hparsed : (w.parsed id content).result with
    | error error =>
      rw [hparsed] at hperform
      exact .of_error hinformed hperform
    | ok message =>
      rw [hparsed] at hperform
      exact .of_ok hperform ⟨rfl, storesOnly hid key message hinformed collectors _⟩

/-! ## Inserting a message -/

theorem insertMessage_allOrNothing {id : RegistryId} (hid : id.index < w.registries.next)
    (key : String) (message : Message) :
    (insertMessage id key message).AllOrNothing w fun replaced after =>
      replaced = (w.registry id).get? key ∧ w.StoresOnly id key message after := by
  have hperform := perform_changeRegistry w id fun registry => registry.insert key message
  rw [Registry.insert_eq] at hperform
  by_cases hkey : key = ""
  · rw [if_pos hkey] at hperform
    exact .of_error (informed_refl _) hperform
  rw [if_neg hkey] at hperform
  by_cases hsame : message.identifier = (w.registry id).identifier
  · rw [if_pos hsame] at hperform
    exact .of_ok hperform ⟨rfl, storesOnly hid key message (informed_refl _) w.collectors []⟩
  · rw [if_neg hsame] at hperform
    exact .of_error (informed_refl _) hperform

theorem insertMessage_eq_error_iff (w : Workspace) (id : RegistryId) {key : String}
    (hkey : key ≠ "") (message : Message) (error : Error) :
    (w.perform (insertMessage id key message)).1 = .error error ↔
      message.identifier ≠ (w.registry id).identifier ∧
        error = .languageMismatch (w.registry id).identifier message.identifier := by
  rw [insertMessage, perform_changeRegistry, Registry.insert_eq, if_neg hkey]
  by_cases hsame : message.identifier = (w.registry id).identifier
  · simp [hsame]
  · simp [hsame, eq_comm]

/-! ## Making a registry current -/

theorem perform_setRegistry {name : String} {language : Language}
    (h : w.languages[name]? = some language) (id : RegistryId) :
    w.perform (setRegistry name id) =
      if (w.registry id).identifier = language.profile.identifier then
        (.ok language.registry, [], { w with
          languages := w.languages.insert name { language with registry := id }
          journal := [] })
      else
        (.error (.languageMismatch language.profile.identifier (w.registry id).identifier), [],
          { w with journal := [] }) := by
  have hregistry : registry { w with journal := [] } id = w.registry id := rfl
  have hrun := run_setRegistry { w with journal := [] } h id
  rw [perform, hrun, hregistry]
  by_cases hsame : (w.registry id).identifier = language.profile.identifier
  · rw [if_pos hsame, if_pos hsame]
  · rw [if_neg hsame, if_neg hsame]

theorem setRegistry_eq_error_iff {name : String} {language : Language}
    (h : w.languages[name]? = some language) (id : RegistryId) (error : Error) :
    (w.perform (setRegistry name id)).1 = .error error ↔
      (w.registry id).identifier ≠ language.profile.identifier ∧
        error = .languageMismatch language.profile.identifier (w.registry id).identifier := by
  rw [perform_setRegistry h]
  by_cases hsame : (w.registry id).identifier = language.profile.identifier
  · simp [hsame]
  · simp [hsame, eq_comm]

theorem setRegistry_allOrNothing {name : String} {language : Language}
    (h : w.languages[name]? = some language) (id : RegistryId) :
    (setRegistry name id).AllOrNothing w fun previous after =>
      previous = language.registry ∧ w.MakesCurrent name language id after := by
  have hperform := perform_setRegistry h id
  by_cases hsame : (w.registry id).identifier = language.profile.identifier
  · rw [if_pos hsame] at hperform
    refine .of_ok hperform ⟨rfl, rfl, fun other => ?_⟩
    by_cases hother : name = other
    · simp [hother]
    · simp [Std.ExtTreeMap.getElem?_insert, hother, Ne.symm hother]
  · rw [if_neg hsame] at hperform
    exact .of_error (informed_refl _) hperform

end Session

/-- Storing a text fails for an empty key, without a report, and otherwise
exactly if parsing the text fails; inserting a message fails for an empty key
and otherwise exactly if the languages differ, and so does making a registry
the current one. Whichever fails leaves everything as it is, and whichever
succeeds changes one key of one registry or the current registry of one
language. -/
theorem Workspace.registries_allOrNothing (w : Workspace) {id : RegistryId}
    (hid : id.index < w.registries.next) :
    (∀ key content,
      let stored := w.perform (storeMessage id key content)
      let parsed := w.parsed id content
      (key = "" → stored.1 = .error .emptyKey ∧ stored.2.1 = []) ∧
        (key ≠ "" → stored.2.1 = parsed.journal ∧
          ∀ error, stored.1 = .error error ↔ parsed.result = .error error) ∧
        (storeMessage id key content).AllOrNothing w fun message after =>
          parsed.result = .ok message ∧ w.StoresOnly id key message after) ∧
    (∀ key message,
      let inserted := w.perform (insertMessage id key message)
      let expected := (w.registry id).identifier
      (key = "" → inserted.1 = .error .emptyKey) ∧
        (key ≠ "" → ∀ error, inserted.1 = .error error ↔
          message.identifier ≠ expected ∧ error = .languageMismatch expected message.identifier) ∧
        (insertMessage id key message).AllOrNothing w fun replaced after =>
          replaced = (w.registry id).get? key ∧ w.StoresOnly id key message after) ∧
    ∀ name language, w.languages[name]? = some language →
      let made := w.perform (setRegistry name id)
      let expected := language.profile.identifier
      let actual := (w.registry id).identifier
      (∀ error, made.1 = .error error ↔
          actual ≠ expected ∧ error = .languageMismatch expected actual) ∧
        (setRegistry name id).AllOrNothing w fun previous after =>
          previous = language.registry ∧ w.MakesCurrent name language id after := by
  refine ⟨fun key content => ⟨?_, fun hkey => ?_, storeMessage_allOrNothing hid key content⟩,
    fun key message => ⟨?_, fun hkey => insertMessage_eq_error_iff w id hkey message,
      insertMessage_allOrNothing hid key message⟩,
    fun name language h => ⟨setRegistry_eq_error_iff h id, setRegistry_allOrNothing h id⟩⟩
  · rintro rfl
    exact ⟨rfl, rfl⟩
  · obtain ⟨collectors, handlers, -, hperform⟩ := perform_storeMessage w id hkey content
    rw [hperform]
    exact ⟨rfl, fun _ => Iff.rfl⟩
  · rintro rfl
    rfl

/-- A text that the handler does not let pass leaves the message of its key as
it was, and a registry takes neither a message under the empty key nor the place
of another language's. -/
theorem Workspace.registries_allOrNothing_of_raised :
    let strict : Blueprint :=
      { Blueprint.standard "English" "en" with handler := .abortingOn .unknownPlaceholder }
    let base := empty.run [.makeLanguage "en" strict, .makeLanguage "de" (.standard "German" "de")]
    let w := (base.perform (storeMessage ⟨0⟩ "greeting" "Hi")).2.2
    let stored := w.perform (storeMessage ⟨0⟩ "greeting" "Hi \x7bname\x7d")
    stored.1 = .error (Diagnostic.unknown "name" none).toError ∧
      (stored.2.2.perform (renderStored ⟨0⟩ "greeting" (.empty false))).1.toOption = some "Hi" ∧
      (∀ foreign, (w.perform (insertMessage ⟨0⟩ "" foreign)).1 = .error .emptyKey) ∧
      (w.perform (setRegistry "de" ⟨0⟩)).1 =
        .error (.languageMismatch "German/de" "English/en") := by
  intro strict base w stored
  have hid : (RegistryId.mk 0).index < w.registries.next := by decide +kernel
  obtain ⟨hstore, hinsert, hset⟩ := w.registries_allOrNothing hid
  obtain ⟨-, hreply, hstored⟩ := hstore "greeting" "Hi \x7bname\x7d"
  have hrender : (w.perform (renderStored ⟨0⟩ "greeting" (.empty false))).1.toOption =
      some "Hi" := by
    decide +kernel
  have hforgets : ∀ n, (w.handlers.get n).Forgetful := by
    have hhandlers : base.handlers = ⟨#[.abortingOn .unknownPlaceholder, .standard]⟩ := rfl
    have hbase : ∀ n, (base.handlers.get n).Forgetful := by
      rw [hhandlers]
      intro n
      match n with
      | 0 | 1 | n + 2 => exact fun _ => rfl
    have hnext : (RegistryId.mk 0).index < base.registries.next := by decide +kernel
    obtain ⟨-, -, hfirst⟩ := (base.registries_allOrNothing hnext).1 "greeting" "Hi"
    have hinformed : Informed base.handlers w.handlers := by
      cases hreply : (base.perform (storeMessage ⟨0⟩ "greeting" "Hi")).1 with
      | error error => exact (hfirst.failed _ hreply).informed
      | ok message => exact (hfirst.succeeded _ hreply).2.informed
    intro n
    rw [hinformed.eq_of_forgetful (hbase n)]
    exact hbase n
  have hraised : (match (w.parsed ⟨0⟩ "Hi \x7bname\x7d").result with
      | .error error => some error
      | .ok _ => none) = some (Diagnostic.unknown "name" none).toError := by
    decide +kernel
  have hparsed : (w.parsed ⟨0⟩ "Hi \x7bname\x7d").result =
      .error (Diagnostic.unknown "name" none).toError := by
    cases hresult : (w.parsed ⟨0⟩ "Hi \x7bname\x7d").result with
    | error error =>
      rw [hresult] at hraised
      rw [Option.some.inj hraised]
    | ok message =>
      rw [hresult] at hraised
      cases hraised
  have hfailed := ((hreply (by decide)).2 _).mpr hparsed
  have hgerman : (w.languages["de"]?.map fun language => language.profile.identifier) =
      some "German/de" := by
    decide +kernel
  obtain ⟨german, hfound, hidentifier⟩ := Option.map_eq_some_iff.mp hgerman
  have henglish : (w.registry ⟨0⟩).identifier = "English/en" := by
    decide +kernel
  refine ⟨hfailed, ?_, fun foreign => (hinsert "" foreign).1 rfl, ?_⟩
  · rw [((hstored.failed _ hfailed).render _ _ _ fun message _ => hforgets _).1]
    exact hrender
  · refine ((hset "de" german hfound).1 _).mpr ?_
    rw [hidentifier, henglish]
    exact ⟨by decide, rfl⟩

end Phrasebook

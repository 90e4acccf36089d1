import Phrasebook.Proofs.Rendering.Stopping
import Phrasebook.Proofs.Workspace.Catalogue

/-!
# What sessions do to the catalogue

A session that fails leaves the catalogue alone, whatever it has done until
then. `Session.Ends` says so, and what holds of the reply and the catalogue if
the session does not fail; most sessions are `Quiet`, and leave the catalogue
alone in any case. Any other is a quiet part, which may fail, and then one
change, so that `Ends.bind` and `Ends.map` are enough to follow its steps.
-/

namespace Phrasebook

theorem Message.eq_of_parse {profile : Profile} {methods : Methods} {context : Context}
    {handler : Handler} {content : String} {message : Message}
    (h : (Message.parse profile methods context handler content).result = .ok message) :
    ∃ tokens, message = ⟨content, tokens, profile⟩ := by
  cases hparsed : (profile.parse methods context handler content).result with
  | error error =>
    simp only [parse, hparsed] at h
    cases h
  | ok tokens =>
    simp only [parse, hparsed] at h
    cases h
    exact ⟨tokens, rfl⟩

namespace Workspace

/-- The workspaces have the same catalogue. -/
def SameCatalogue (w after : Workspace) : Prop := after.catalogue = w.catalogue

instance : IsPreorder Workspace SameCatalogue where
  refl _ := rfl
  trans _ _ _ hfirst hlater := hlater.trans hfirst

theorem catalogue_collect (w : Workspace) (handler : Handler) (ds : List Diagnostic) :
    (w.collect handler ds).catalogue = w.catalogue := by
  rw [collect]
  split <;> rfl

theorem catalogue_settle {α : Type} (w : Workspace) (profile : Profile) (outcome : Outcome α) :
    (w.settle profile outcome).catalogue = w.catalogue := by
  simp only [catalogue, languages_settle, registryNames_settle, registries_settle]

end Workspace

open Workspace (catalogue_collect catalogue_settle)

namespace Session

variable {α β : Type}

/-- What holds after a session that began with the catalogue `c`: `post`, of
the reply and of the catalogue then, or else the catalogue is still `c`. -/
def Ended (c : Catalogue) (post : α → Catalogue → Prop) : Except Error α × Workspace → Prop
  | (.ok a, after) => post a after.catalogue
  | (.error _, after) => after.catalogue = c

/-- Where the catalogue is `c`, the session fails and leaves it as it is or
ends with `post`. -/
def Ends (x : Session α) (c : Catalogue) (post : α → Catalogue → Prop) : Prop :=
  ∀ w, w.catalogue = c → Ended c post (x.run w)

/-- The session leaves the catalogue as it is. -/
abbrev Quiet (x : Session α) : Prop := x.Within Workspace.SameCatalogue

section Steps

variable {c : Catalogue} {x : Session α} {f : α → Session β} {mid : α → Catalogue → Prop}
  {post : β → Catalogue → Prop}

theorem Ends.perform {w : Workspace} (hx : x.Ends w.catalogue mid) :
    Ended w.catalogue mid ((w.perform x).1, (w.perform x).2.2) :=
  hx { w with journal := [] } rfl

theorem ended_bind {w : Workspace} (hx : Ended c mid (x.run w))
    (hf : ∀ a after, mid a after.catalogue → Ended c post ((f a).run after)) :
    Ended c post ((x >>= f).run w) := by
  rw [run_bind]
  rcases h : x.run w with ⟨error | a, after⟩
  · rw [h] at hx
    exact hx
  · rw [h] at hx
    exact hf a after hx

theorem Ends.mono {mid' : α → Catalogue → Prop} (hx : x.Ends c mid)
    (h : ∀ a c', mid a c' → mid' a c') : x.Ends c mid' := by
  rw [← bind_pure x]
  exact fun w hw => ended_bind (hx w hw) fun a after => h a after.catalogue

/-- A session goes on after one that has found out something. -/
theorem Ends.bind {reply : α → Prop} (hx : x.Ends c fun a c' => c' = c ∧ reply a)
    (hf : ∀ a, reply a → (f a).Ends c post) : (x >>= f).Ends c post :=
  fun w hw => ended_bind (hx w hw) fun a after h => hf a h.2 after h.1

/-- A session makes its reply of that of another. -/
theorem Ends.map {g : α → β} (hx : x.Ends c fun a c' => post (g a) c') :
    (x >>= fun a => pure (g a)).Ends c post :=
  fun w hw => ended_bind (hx w hw) fun _ _ h => h

theorem Quiet.ends_bind (hx : x.Quiet) (hf : ∀ a, (f a).Ends c post) : (x >>= f).Ends c post := by
  intro w hw
  have hsame : (x.run w).2.catalogue = c := (hx w).trans hw
  rw [run_bind]
  rcases h : x.run w with ⟨error | a, after⟩
  all_goals rw [h] at hsame
  · exact hsame
  · exact hf a after hsame

end Steps

/-! ## Sessions that leave the catalogue alone -/

theorem quiet_log (events : List Event) : (log events).Quiet := within_modify fun _ => rfl

theorem quiet_changeLexicon (name : String) (f : Lexicon → α × Lexicon) :
    (changeLexicon name f).Quiet := by
  refine (within_findLexicon name).bind fun _ => within_modify_pure ?_ _
  exact fun _ => rfl

theorem quiet_register (name : String) (p : Placeholder) : (register name p).Quiet :=
  (quiet_changeLexicon name _).bind fun _ => (quiet_log _).bind fun _ => within_pure _

theorem quiet_makeLexicon (name : String) (caseSensitive : Bool) :
    (makeLexicon name caseSensitive).Quiet := within_modify fun _ => rfl

theorem quiet_setHandler (language : String) (handler : Handler) :
    (setHandler language handler).Quiet :=
  (within_modify fun w => catalogue_collect w handler []).bind fun _ =>
    (within_find _ language).bind fun _ => within_modify fun _ => rfl

theorem quiet_process (profile : Profile) (run : Methods → Context → Handler → Outcome α) :
    (process profile run).Quiet := by
  intro w
  rw [run_process]
  exact catalogue_settle w profile _

theorem quiet_makeMessage (name : String) (language : Language) (content : String) :
    (makeMessage name language content).Quiet := by
  refine (quiet_process _ _).bind fun _ => within_modify_pure ?_ _
  exact fun _ => rfl

theorem quiet_createMessage (id : RegistryId) (content : String) :
    (createMessage id content).Quiet :=
  (within_registryAt id).bind fun _ => quiet_process _ _

theorem quiet_renderStored (id : RegistryId) (key : String) (binder : Binder) :
    (renderStored id key binder).Quiet :=
  (within_getMessage id key).bind fun _ => quiet_process _ _

/-! ## What sessions find out of the catalogue -/

variable {c : Catalogue}

theorem ends_ofExcept (result : Except Error α) :
    (ofExcept result).Ends c fun a c' => c' = c ∧ result = .ok a := by
  intro w hw
  rw [run_ofExcept]
  cases result with
  | error error => exact hw
  | ok a => exact ⟨hw, rfl⟩

theorem ends_process (profile : Profile) (run : Methods → Context → Handler → Outcome α) :
    (process profile run).Ends c fun a c' =>
      c' = c ∧ ∃ methods context handler, (run methods context handler).result = .ok a := by
  rintro w rfl
  rw [run_process]
  cases h : (run (w.methodsOf profile) (w.contextOf profile) (w.handlerOf profile)).result with
  | error error =>
    simp only [h]
    exact catalogue_settle w profile _
  | ok a =>
    simp only [h]
    exact ⟨catalogue_settle w profile _, _, _, _, h⟩

theorem ends_findLanguage (name : String) :
    (findLanguage name).Ends c fun language c' =>
      c' = c ∧ c.languages[name]? = some language := by
  rintro w rfl
  rw [findLanguage, run_find]
  cases h : w.languages[name]? with
  | none => exact rfl
  | some language => exact ⟨rfl, h⟩

theorem ends_registryAt (id : RegistryId) :
    (registryAt id).Ends c fun registry c' => c' = c ∧ registry = c.registry id := by
  rintro w rfl
  exact ⟨rfl, rfl⟩

/-- A parsed message is the text, with tokens, and has the profile, whatever
the methods, the context and the handler were. -/
theorem ends_parseMessage (profile : Profile) (content : String) :
    (parseMessage profile content).Ends c fun message c' =>
      c' = c ∧ ∃ tokens, message = ⟨content, tokens, profile⟩ := by
  refine (ends_process profile _).mono ?_
  rintro message _ ⟨hc, methods, context, handler, hparse⟩
  exact ⟨hc, Message.eq_of_parse hparse⟩

theorem ends_createMessage (id : RegistryId) (content : String) :
    (createMessage id content).Ends c fun message c' =>
      c' = c ∧ ∃ tokens, message = ⟨content, tokens, (c.registry id).profile⟩ := by
  refine (ends_registryAt id).bind fun registry h => ?_
  rw [← h]
  exact ends_parseMessage registry.profile content

/-! ## Sessions that change the catalogue -/

theorem ends_changeRegistry (id : RegistryId) (f : Registry → Except Error (α × Registry)) :
    (changeRegistry id f).Ends c fun a c' => ∃ after, f (c.registry id) = .ok (a, after) ∧
      c' = { c with registries := c.registries.put id.index after } := by
  refine (ends_registryAt id).bind fun registry hregistry => ?_
  refine (ends_ofExcept _).bind fun result hresult => ?_
  rw [hregistry] at hresult
  rintro w rfl
  exact ⟨result.2, hresult, rfl⟩

/-- A message is stored as it is parsed, under a key that is not empty. -/
theorem ends_storeMessage (id : RegistryId) (key content : String) :
    (storeMessage id key content).Ends c fun message c' =>
      key ≠ "" ∧ (∃ tokens, message = ⟨content, tokens, (c.registry id).profile⟩) ∧
        c' = c.changed id (.stored key message) := by
  refine (ends_ofExcept _).bind fun _ hkey => ?_
  refine (ends_createMessage id content).bind fun message hmessage => ?_
  refine (ends_changeRegistry id _).mono ?_
  rintro _ _ ⟨after, ⟨⟩, rfl⟩
  exact ⟨(Registry.checkKey_eq_ok_iff key).mp hkey, hmessage, rfl⟩

/-- A message of the same language is stored, under a key that is not empty. -/
theorem ends_insertMessage (id : RegistryId) (key : String) (message : Message) :
    (insertMessage id key message).Ends c fun _ c' =>
      Registry.Change.Fits (c.registry id) (.stored key message) ∧
        c' = c.changed id (.stored key message) := by
  refine (ends_changeRegistry id _).mono ?_
  rintro replaced _ ⟨after, hinsert, rfl⟩
  obtain ⟨hkey, hlanguage, rfl⟩ := Registry.insert_eq_ok hinsert
  exact ⟨⟨hkey, hlanguage⟩, rfl⟩

theorem ends_removeMessage (id : RegistryId) (key : String) :
    (removeMessage id key).Ends c fun _ c' => c' = c.changed id (.removed key) := by
  refine (ends_changeRegistry id _).mono ?_
  rintro _ _ ⟨after, ⟨⟩, rfl⟩
  rfl

theorem ends_clearRegistry (id : RegistryId) :
    (clearRegistry id).Ends c fun _ c' => c' = c.changed id .cleared := by
  refine (ends_changeRegistry id _).mono ?_
  rintro _ _ ⟨after, ⟨⟩, rfl⟩
  rfl

theorem ends_makeLanguage (name : String) (plan : Blueprint) :
    (makeLanguage name plan).Ends c fun _ c' => Catalogue.Step c none c' := by
  rintro w rfl
  have hopen : (w.openCollector plan.handler).catalogue = w.catalogue := catalogue_collect w _ []
  show Catalogue.Step w.catalogue none (Workspace.catalogue _)
  -- The step is taken from the workspace in which the collector is open.
  rw [← hopen]
  cases plan.lexicon with
  | none => exact .language name _
  | some lexicon => exact .language name _

theorem ends_makeRegistry (name : String) (profile : Profile) :
    (makeRegistry name profile).Ends c fun _ c' => Catalogue.Step c none c' := by
  rintro w rfl
  exact .registry name profile

theorem ends_nameRegistry (name : String) {id : RegistryId} (known : c.Knows id) :
    (nameRegistry name id).Ends c fun _ c' => Catalogue.Step c none c' := by
  rintro w rfl
  exact .name name known

/-- A registry that becomes the current one of a language has its identifier. -/
theorem ends_setRegistry (name : String) {id : RegistryId} (known : c.Knows id) :
    (setRegistry name id).Ends c fun _ c' => Catalogue.Step c none c' := by
  refine (ends_findLanguage name).bind fun language hlanguage => ?_
  refine (ends_registryAt id).bind fun registry hregistry => ?_
  split
  · rename_i hsame
    rintro w rfl
    exact .current hlanguage known (hregistry ▸ hsame)
  · rintro w rfl
    exact rfl

end Session

end Phrasebook

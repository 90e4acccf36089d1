import Phrasebook.Proofs.Workspace.Effects

/-!
# Operations on a workspace

What a program can do with languages, lexicons, messages and registries, as
data (`Operation`), and the workspace after a list of operations (`run`). A
program holds on to registries by name; the current one of a language can be
given a name before another takes its place.

The ledger of a run (`history`) has an entry for each operation that asks for a
change of a registry and does not fail. The entry is told from outside
(`Operation.change?`): which registry the name means, what the operation asks
for, and the message that it replies with.

Each operation is one step of the catalogue with this entry (`step_after`), and
what every step keeps holds after every run (`run_keeps`).
-/

namespace Phrasebook

/-- How a program refers to a registry. -/
inductive RegistryName where
  | named (name : String)
  | current (language : String)

namespace RegistryName

/-- Looks up the number of the registry. -/
def find : RegistryName → Session RegistryId
  | .named name => Session.findRegistryId (some name) ""
  | .current language => Session.findRegistryId none language

/-- The registry that is meant, if there is one. -/
def id? (c : Catalogue) : RegistryName → Option RegistryId
  | .named name => c.registryNames[name]?
  | .current language => c.languages[language]?.map Language.registry

theorem run_find (registry : RegistryName) (w : Workspace) :
    (∃ id, registry.id? w.catalogue = some id ∧ registry.find.run w = (.ok id, w)) ∨
      (registry.id? w.catalogue = none ∧ ∃ error, registry.find.run w = (.error error, w)) := by
  cases registry with
  | named name =>
    rw [id?, find, Session.findRegistryId, Session.run_find, Workspace.catalogue]
    cases w.registryNames[name]? with
    | some id => exact .inl ⟨id, rfl, rfl⟩
    | none => exact .inr ⟨rfl, _, rfl⟩
  | current language =>
    rw [id?, find, Session.findRegistryId, Session.run_bind, Session.findLanguage,
      Session.run_find, Workspace.catalogue]
    cases w.languages[language]? with
    | some found => exact .inl ⟨found.registry, rfl, rfl⟩
    | none => exact .inr ⟨rfl, _, rfl⟩

theorem within_find {R : Workspace → Workspace → Prop} [IsPreorder Workspace R]
    (registry : RegistryName) : registry.find.Within R := by
  cases registry with
  | named name => exact Session.within_find _ name
  | current language => exact (Session.within_find _ language).bind fun _ => Session.within_pure _

end RegistryName

namespace Workspace

/-- Something that a program does with a workspace. -/
inductive Operation where
  | makeLanguage (name : String) (plan : Blueprint)
  | setHandler (language : String) (handler : Handler)
  | makeLexicon (name : String) (caseSensitive : Bool)
  | register (lexicon : String) (p : Placeholder)
  | extend (lexicon : String) (ps : List Placeholder)
  | unregister (lexicon name : String)
  | clearLexicon (lexicon : String)
  | render (language : String) (binder : Binder) (content : String)
  | makeMessage (name language content : String)
  | renderMessage (message : Message) (binder : Binder)
  | makeRegistry (name : String) (profile : Profile)
  | nameRegistry (name : String) (registry : RegistryName)
  | setRegistry (language : String) (registry : RegistryName)
  | create (registry : RegistryName) (content : String)
  | store (registry : RegistryName) (key content : String)
  | insert (registry : RegistryName) (key : String) (message : Message)
  | remove (registry : RegistryName) (key : String)
  | clear (registry : RegistryName)
  | renderStored (registry : RegistryName) (key : String) (binder : Binder)

/-- A session of which only the effect counts. -/
def Operation.effect {α : Type} (session : Session α) : Session (Option Message) := do
  let _ ← session
  return none

open Operation (effect)

/-- Carries out the operation: the message that it replies with, if it does with one. -/
def Operation.session : Operation → Session (Option Message)
  | .makeLanguage name plan => effect (Session.makeLanguage name plan)
  | .setHandler language handler => effect (Session.setHandler language handler)
  | .makeLexicon name caseSensitive => effect (Session.makeLexicon name caseSensitive)
  | .register lexicon p => effect (Session.register lexicon p)
  | .extend lexicon ps => effect (Session.changeLexicon lexicon fun l => ((), l.extend ps))
  | .unregister lexicon name => effect (Session.changeLexicon lexicon fun l => ((), l.remove name))
  | .clearLexicon lexicon => effect (Session.changeLexicon lexicon fun l => ((), l.clear))
  | .render language binder content => do
    let language ← Session.findLanguage language
    effect (Session.render language binder content)
  | .makeMessage name language content => do
    let language ← Session.findLanguage language
    effect (Session.makeMessage name language content)
  | .renderMessage message binder => effect (Session.renderMessage message binder)
  | .makeRegistry name profile => effect (Session.makeRegistry name profile)
  | .nameRegistry name registry => do
    let id ← registry.find
    effect (Session.nameRegistry name id)
  | .setRegistry language registry => do
    let id ← registry.find
    effect (Session.setRegistry language id)
  | .create registry content => do
    let id ← registry.find
    effect (Session.createMessage id content)
  | .store registry key content => do
    let id ← registry.find
    let message ← Session.storeMessage id key content
    return some message
  | .insert registry key message => do
    let id ← registry.find
    Session.insertMessage id key message
  | .remove registry key => do
    let id ← registry.find
    Session.removeMessage id key
  | .clear registry => do
    let id ← registry.find
    effect (Session.clearRegistry id)
  | .renderStored registry key binder => do
    let id ← registry.find
    effect (Session.renderStored id key binder)

/-- The change of a registry that the operation asks for, with the message that
it replies with if it does not fail. -/
def Operation.change? (c : Catalogue) (reply : Option Message) :
    Operation → Option (RegistryId × Registry.Change)
  | .store registry key _ => do return (← registry.id? c, .stored key (← reply))
  | .insert registry key message => do return (← registry.id? c, .stored key message)
  | .remove registry key => do return (← registry.id? c, .removed key)
  | .clear registry => do return (← registry.id? c, .cleared)
  | _ => none

/-- The workspace after an operation. -/
def after (w : Workspace) (op : Operation) : Workspace := (w.perform op.session).2.2

/-- The change of a registry by an operation, if it asks for one and does not fail. -/
def change? (w : Workspace) (op : Operation) : Option (RegistryId × Registry.Change) :=
  match (w.perform op.session).1 with
  | .ok reply => op.change? w.catalogue reply
  | .error _ => none

/-- The workspace after a list of operations. -/
def run (w : Workspace) (ops : List Operation) : Workspace := ops.foldl after w

/-- The changes of registries by a list of operations. -/
def history (w : Workspace) : List Operation → Ledger
  | [] => []
  | op :: ops => (w.after op).history ops ++ (w.change? op).toList

end Workspace

open Session Workspace

variable {c : Catalogue}

/-- A registry that is found is the one that is meant. -/
theorem ends_find (registry : RegistryName) (c : Catalogue) :
    registry.find.Ends c fun id c' => c' = c ∧ registry.id? c = some id ∧ c.Knows id := by
  rintro w rfl
  rcases registry.run_find w with ⟨id, hid, hfind⟩ | ⟨-, error, hfind⟩
  · rw [hfind]
    refine ⟨rfl, hid, ?_⟩
    cases registry with
    | named name => exact .inl ⟨name, hid⟩
    | current language =>
      obtain ⟨found, hfound, hregistry⟩ := Option.map_eq_some_iff.mp hid
      exact .inr ⟨language, found, hfound, hregistry⟩
  · rw [hfind]
    exact rfl

theorem ends_effect {α : Type} {x : Session α} (h : x.Ends c fun _ c' => Catalogue.Step c none c') :
    (Operation.effect x).Ends c fun _ c' => Catalogue.Step c none c' := by
  refine Ends.map ?_
  exact h

theorem quiet_effect {α : Type} {x : Session α} (h : x.Quiet) :
    (Operation.effect x).Ends c fun _ c' => Catalogue.Step c none c' :=
  h.ends_bind fun _ _ hw => hw ▸ .stay

/-- Every operation is a step of the catalogue, by the change that it asks for. -/
theorem ends_session (op : Operation) (c : Catalogue) :
    op.session.Ends c fun reply c' => Catalogue.Step c (op.change? c reply) c' := by
  cases op with
  | makeLanguage name plan => exact ends_effect (ends_makeLanguage name plan)
  | setHandler language handler => exact quiet_effect (quiet_setHandler language handler)
  | makeLexicon name caseSensitive => exact quiet_effect (quiet_makeLexicon name caseSensitive)
  | register lexicon p => exact quiet_effect (quiet_register lexicon p)
  | extend lexicon ps => exact quiet_effect (quiet_changeLexicon lexicon _)
  | unregister lexicon name => exact quiet_effect (quiet_changeLexicon lexicon _)
  | clearLexicon lexicon => exact quiet_effect (quiet_changeLexicon lexicon _)
  | render language binder content =>
    exact (ends_findLanguage language).bind fun found _ => quiet_effect (quiet_process _ _)
  | makeMessage name language content =>
    exact (ends_findLanguage language).bind fun found _ =>
      quiet_effect (quiet_makeMessage name found content)
  | renderMessage message binder => exact quiet_effect (quiet_process _ _)
  | makeRegistry name profile => exact ends_effect (ends_makeRegistry name profile)
  | nameRegistry name registry =>
    exact (ends_find registry c).bind fun id found => ends_effect (ends_nameRegistry name found.2)
  | setRegistry language registry =>
    exact (ends_find registry c).bind fun id found => ends_effect (ends_setRegistry language found.2)
  | create registry content =>
    exact (ends_find registry c).bind fun id _ => quiet_effect (quiet_createMessage id content)
  | store registry key content =>
    refine (ends_find registry c).bind fun id found => ?_
    refine ((ends_storeMessage id key content).mono ?_).map
    rintro _ _ ⟨hkey, ⟨tokens, rfl⟩, rfl⟩
    simp only [Operation.change?, found.1]
    exact .change found.2 ⟨hkey, rfl⟩
  | insert registry key message =>
    refine (ends_find registry c).bind fun id found => ?_
    refine (ends_insertMessage id key message).mono ?_
    rintro _ _ ⟨hfits, rfl⟩
    simp only [Operation.change?, found.1]
    exact .change found.2 hfits
  | remove registry key =>
    refine (ends_find registry c).bind fun id found => ?_
    refine (ends_removeMessage id key).mono ?_
    rintro _ _ rfl
    simp only [Operation.change?, found.1]
    exact .change found.2 trivial
  | clear registry =>
    refine (ends_find registry c).bind fun id found => ?_
    refine ((ends_clearRegistry id).mono ?_).map
    rintro _ _ rfl
    simp only [Operation.change?, found.1]
    exact .change found.2 trivial
  | renderStored registry key binder =>
    exact (ends_find registry c).bind fun id _ => quiet_effect (quiet_renderStored id key binder)

namespace Workspace

theorem step_after (w : Workspace) (op : Operation) :
    Catalogue.Step w.catalogue (w.change? op) (w.after op).catalogue := by
  have hend := (ends_session op w.catalogue).perform
  rw [change?, after]
  rcases hperform : w.perform op.session with ⟨error | reply, journal, after⟩
  all_goals rw [hperform] at hend
  · exact hend ▸ .stay
  · exact hend

/-- What every step of the catalogue keeps holds after every run. -/
theorem run_keeps {Good : Catalogue → Ledger → Prop}
    (hstep : ∀ {c c' : Catalogue} {entry : Option (RegistryId × Registry.Change)} {ledger : Ledger},
      Catalogue.Step c entry c' → Good c ledger → Good c' (entry.toList ++ ledger))
    {w : Workspace} {ledger : Ledger} (h : Good w.catalogue ledger) (ops : List Operation) :
    Good (w.run ops).catalogue (w.history ops ++ ledger) := by
  induction ops generalizing w ledger with
  | nil => exact h
  | cons op ops ih =>
    -- The changes of the first operation are the oldest, next to the ledger before.
    rw [history, List.append_assoc]
    exact ih (hstep (w.step_after op) h)

end Workspace

end Phrasebook

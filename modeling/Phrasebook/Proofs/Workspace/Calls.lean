import Phrasebook.Proofs.Messages.Equipment
import Phrasebook.Proofs.Workspace.Gains

/-!
# Calls that render

A program can ask for a text in six ways (`Call`): for that of tokens, of a text
that is parsed first, or of a message, which may be stored. Each comes to one
`Rendering` of tokens with a profile, or to none (`Call.rendering?`). The reply
and the context afterwards are those of the rendering, and a call that does not
get as far uses no closure (`Call.answers_session`). Of the operations some are
calls (`Operation.call?`); the others use no closure, and lexicons gain by them
what they register (`Operation.gains_session`).
-/

namespace Phrasebook

section Parsed

variable {profile : Profile} {methods : Methods} {context : Context} {handler : Handler}
  {binder : Binder} {content : String}

theorem Profile.render_of_ok {tokens : Tokens}
    (h : (profile.parse methods context handler content).result = .ok tokens) :
    profile.render methods context handler binder content =
      let parsed := profile.parse methods context handler content
      let rendered := profile.transform methods context (handler.after parsed.journal.diagnostics)
        binder content tokens
      { rendered with journal := parsed.journal ++ rendered.journal } := by
  simp only [render, h, context_parse]

theorem Profile.render_of_error {error : Error}
    (h : (profile.parse methods context handler content).result = .error error) :
    profile.render methods context handler binder content =
      ⟨.error error, context, (profile.parse methods context handler content).journal⟩ := by
  simp only [render, h, context_parse]

end Parsed

namespace Workspace

/-- A rendering of the tokens of `content`. -/
structure Rendering where
  profile : Profile
  /-- The handler that the profile has by then. -/
  handler : Handler
  binder : Binder
  content : String
  tokens : Tokens

namespace Rendering

/-- The tokens of a message with the binder that it makes of the caller's. -/
def ofMessage (w : Workspace) (message : Message) (binder : Binder) : Rendering :=
  ⟨message.profile, w.handlerOf message.profile, message.equip binder, message.content,
    message.tokens⟩

variable (r : Rendering) (w : Workspace)

/-- What it comes to in a workspace. -/
def outcome : Outcome String :=
  r.profile.transform (w.methodsOf r.profile) (w.contextOf r.profile) r.handler r.binder r.content
    r.tokens

/-- Its text, unless the handler raises a remark or the language renders itself. -/
def text : String := (w.contextOf r.profile).renderText r.binder r.content r.tokens

theorem eq_text_of_ok {r : Rendering} {w : Workspace} {text : String}
    (hrendition : (w.methodsOf r.profile).rendition = .resolved)
    (h : (r.outcome w).result = .ok text) : text = r.text w := by
  rw [outcome, Profile.transform_of_resolved _ _ _ _ hrendition] at h
  exact ((w.contextOf r.profile).judged_render r.binder r.content r.tokens r.handler).eq_of_ok h

end Rendering

/-- A way to ask for a text. -/
inductive Call where
  | transform (language : String) (binder : Binder) (content : String) (tokens : Tokens)
  | render (language : String) (binder : Binder) (content : String)
  | renderMessage (message : Message) (binder : Binder)
  | renderOwned (message : Message) (binder : Binder)
  | renderAlone (message : Message)
  | renderStored (registry : RegistryName) (key : String) (binder : Binder)

namespace Call

/-- Carries out the call. -/
def session : Call → Session String
  | .transform language binder content tokens => do
    Session.transform (← Session.findLanguage language) binder content tokens
  | .render language binder content => do
    Session.render (← Session.findLanguage language) binder content
  | .renderMessage message binder => Session.renderMessage message binder
  | .renderOwned message binder => Session.renderMessageOwned message binder
  | .renderAlone message => Session.renderMessageAlone message
  | .renderStored registry key binder => do
    Session.renderStored (← registry.find) key binder

/-- The rendering that the call comes to, if what it names is there and its
text can be parsed. -/
def rendering? (w : Workspace) : Call → Option Rendering
  | .transform language binder content tokens => do
    let profile := (← w.languages[language]?).profile
    return ⟨profile, w.handlerOf profile, binder, content, tokens⟩
  | .render language binder content => do
    let profile := (← w.languages[language]?).profile
    let parsed :=
      profile.parse (w.methodsOf profile) (w.contextOf profile) (w.handlerOf profile) content
    let tokens ← parsed.result.toOption
    return ⟨profile, (w.handlerOf profile).after parsed.journal.diagnostics, binder, content, tokens⟩
  | .renderMessage message binder => some (.ofMessage w message binder)
  | .renderOwned message binder => some (.ofMessage w message binder)
  | .renderAlone message => some (.ofMessage w message (.empty false))
  | .renderStored registry key binder => do
    let id ← registry.id? w.catalogue
    let message ← (w.registries.get id.index).get? key
    return .ofMessage w message binder

/-- The reply and the context are those of the rendering, or else there is no
text and nothing is gained. -/
def Answers (w : Workspace) (reply : Except Error String × Workspace) : Option Rendering → Prop
  | some r => reply.1 = (r.outcome w).result ∧
      reply.2.lexicons = w.lexicons.put r.profile.lexicon.index (r.outcome w).context.lexicon ∧
      reply.2.uses = (r.outcome w).context.uses
  | none => (∀ text, reply.1 ≠ .ok text) ∧ w.Gains [] reply.2

variable {w : Workspace}

theorem answers_none {after : Workspace} {error : Error} (h : w.Gains [] after) :
    Answers w (.error error, after) none := by
  refine ⟨fun text hok => ?_, h⟩
  cases hok

theorem answers_error {error : Error} : Answers w (.error error, w) none :=
  answers_none (gains_of_eq rfl rfl)

theorem answers_process (r : Rendering) {run : Methods → Context → Handler → Outcome String}
    {outcome : Outcome String}
    (h : run (w.methodsOf r.profile) (w.contextOf r.profile) (w.handlerOf r.profile) = outcome)
    (hresult : outcome.result = (r.outcome w).result)
    (hcontext : outcome.context = (r.outcome w).context) :
    Answers w ((Session.process r.profile run).run w) (some r) := by
  rw [Session.run_process, h]
  refine ⟨hresult, ?_, ?_⟩
  · rw [← hcontext]
    exact w.lexicons_settle r.profile _
  · rw [← hcontext]
    exact w.uses_settle r.profile _

theorem answers_owned (message : Message) (binder : Binder) :
    Answers w ((Session.renderMessageOwned message binder).run w)
      (some (.ofMessage w message binder)) := by
  rw [Session.renderMessageOwned]
  exact answers_process (.ofMessage w message binder) rfl rfl rfl

theorem answers_message (message : Message) (binder : Binder) :
    Answers w ((Session.renderMessage message binder).run w)
      (some (.ofMessage w message binder)) := by
  have hsame := message.transformOwned_eq_transform (w.methodsOf message.profile)
    (w.contextOf message.profile) (w.handlerOf message.profile) binder
  rw [Session.renderMessage]
  exact answers_process (.ofMessage w message binder) hsame.symm rfl rfl

/-- A text that is rendered is parsed in the same context, and the handler
goes on from what parsing gave it. -/
theorem answers_render (language : Language) (binder : Binder) (content : String) :
    let profile := language.profile
    let parsed :=
      profile.parse (w.methodsOf profile) (w.contextOf profile) (w.handlerOf profile) content
    Answers w ((Session.render language binder content).run w)
      (parsed.result.toOption.bind fun tokens =>
        some ⟨profile, (w.handlerOf profile).after parsed.journal.diagnostics, binder, content,
          tokens⟩) := by
  intro profile parsed
  rw [Session.render]
  cases hparse : parsed.result with
  | ok tokens =>
    exact answers_process ⟨profile, _, binder, content, tokens⟩ (Profile.render_of_ok hparse) rfl rfl
  | error error =>
    rw [Session.run_process, Profile.render_of_error hparse]
    exact answers_none (gains_settle rfl)

/-- A call is answered by the rendering that it comes to. -/
theorem answers_session (w : Workspace) (call : Call) :
    Answers w (call.session.run w) (call.rendering? w) := by
  cases call with
  | transform language binder content tokens =>
    rw [session, rendering?, Session.run_bind, Session.findLanguage, Session.run_find]
    cases w.languages[language]? with
    | none => exact answers_error
    | some found =>
      exact answers_process ⟨found.profile, w.handlerOf found.profile, binder, content, tokens⟩ rfl
        rfl rfl
  | render language binder content =>
    rw [session, rendering?, Session.run_bind, Session.findLanguage, Session.run_find]
    cases w.languages[language]? with
    | none => exact answers_error
    | some found => exact answers_render found binder content
  | renderMessage message binder => exact answers_message message binder
  | renderOwned message binder => exact answers_owned message binder
  | renderAlone message => exact answers_owned message (.empty false)
  | renderStored registry key binder =>
    rw [session, rendering?, Session.run_bind]
    rcases registry.run_find w with ⟨id, hid, hfind⟩ | ⟨hid, error, hfind⟩
    all_goals simp only [hid, hfind, Option.bind_eq_bind, Option.bind_some]
    · rw [Session.renderStored, Session.run_bind, Session.run_getMessage, Registry.get]
      cases (w.registries.get id.index).get? key with
      | none => exact answers_error
      | some message => exact answers_message message binder
    · exact answers_error

/-- The journal does not matter to a call. -/
theorem answers_perform (w : Workspace) (call : Call) :
    Answers w ((w.perform call.session).1, (w.perform call.session).2.2) (call.rendering? w) := by
  have hrendering : call.rendering? { w with journal := [] } = call.rendering? w := by
    cases call <;> rfl
  have hstart : w.Gains [] { w with journal := [] } := gains_of_eq rfl rfl
  have hanswers := answers_session { w with journal := [] } call
  rw [hrendering] at hanswers
  cases hr : call.rendering? w with
  | none =>
    rw [hr] at hanswers
    exact ⟨hanswers.1, hstart.trans hanswers.2⟩
  | some r =>
    rw [hr] at hanswers
    exact hanswers

end Call

/-! ## Operations that render, and those that do not -/

/-- The call that an operation makes, if it renders. -/
def Operation.call? : Operation → Option Call
  | .render language binder content => some (.render language binder content)
  | .renderMessage message binder => some (.renderMessage message binder)
  | .renderStored registry key binder => some (.renderStored registry key binder)
  | _ => none

/-- The placeholders that an operation registers. -/
def Operation.registers : Operation → List Placeholder
  | .register _ p => [p]
  | .extend _ ps => ps
  | _ => []

theorem run_effect {α : Type} (x : Session α) (w : Workspace) :
    ((Operation.effect x).run w).2 = (x.run w).2 := by
  rw [Operation.effect, Session.run_bind]
  rcases x.run w with ⟨error | a, after⟩ <;> rfl

theorem run_bind_effect {α β : Type} (x : Session α) (f : α → Session β) (w : Workspace) :
    ((do let a ← x; Operation.effect (f a)).run w).2 = ((x >>= f).run w).2 := by
  rw [Session.run_bind, Session.run_bind]
  rcases x.run w with ⟨error | a, after⟩
  · rfl
  · exact run_effect (f a) after

theorem Operation.after_of_call {op : Operation} {call : Call} (h : op.call? = some call)
    (w : Workspace) : w.after op = (w.perform call.session).2.2 := by
  cases op with
  | render | renderStored =>
    cases h
    exact run_bind_effect _ _ _
  | renderMessage =>
    cases h
    exact run_effect _ _
  | _ => cases h

open Session

theorem gains_effect {α : Type} {ps : List Placeholder} {x : Session α} (h : x.Within (Gains ps)) :
    (Operation.effect x).Within (Gains ps) := h.bind fun _ => within_pure _

/-- An operation that renders nothing uses no closure, and lexicons gain by it
what it registers. -/
theorem Operation.gains_session {op : Operation} (hcall : op.call? = none) :
    op.session.Within (Gains op.registers) := by
  cases op with
  | makeLanguage name plan => exact gains_effect (gains_makeLanguage name plan)
  | setHandler language handler => exact gains_effect (gains_setHandler language handler)
  | makeLexicon name caseSensitive =>
    exact gains_effect (gains_makeLexicon name caseSensitive)
  | register lexicon p => exact gains_effect (gains_register lexicon p)
  | extend lexicon ps =>
    exact gains_effect (gains_changeLexicon lexicon fun _ _ _ => Lexicon.get?_extend_cases)
  | unregister lexicon name =>
    refine gains_effect (gains_changeLexicon lexicon fun l other p h => .inl ?_)
    exact Lexicon.get?_of_get?_remove h
  | clearLexicon lexicon =>
    refine gains_effect (gains_changeLexicon lexicon fun l other p h => ?_)
    exact nomatch (l.get?_clear other).symm.trans h
  | makeMessage name language content =>
    exact (within_find _ language).bind fun found =>
      gains_effect (gains_makeMessage name found content)
  | makeRegistry name profile => exact gains_effect (gains_makeRegistry name profile)
  | nameRegistry name registry =>
    exact registry.within_find.bind fun id => gains_effect (gains_nameRegistry name id)
  | setRegistry language registry =>
    exact registry.within_find.bind fun id =>
      gains_effect (gains_setRegistry language id)
  | create registry content =>
    exact registry.within_find.bind fun id =>
      gains_effect (gains_createMessage id content)
  | store registry key content =>
    exact registry.within_find.bind fun id =>
      (gains_storeMessage id key content).bind fun _ => within_pure _
  | insert | remove =>
    exact (RegistryName.within_find _).bind fun id => gains_changeRegistry id _
  | clear registry =>
    exact registry.within_find.bind fun id => gains_effect (gains_changeRegistry id _)
  | render | renderMessage | renderStored => cases hcall

end Workspace

end Phrasebook

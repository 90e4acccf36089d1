import Phrasebook.Lexer.Delimiters
import Phrasebook.Processing
import Phrasebook.Proofs.Rendering.Following

/-!
# Handlers decide where processing stops

What processing comes to is settled before any handler sees a diagnostic: a
text, a context and remarks. The handler goes through the diagnostics among the
remarks, and the first that it raises ends the processing. `Outcome.Judged` says
so of an outcome; it holds of each phase (`judged_check`, `judged_conclude`) and
so of a rendering as a whole (`judged_render`), in which the handler goes on
from what it was given in parsing. `StopsAt` is what follows for all handlers at
once.
-/

namespace Phrasebook

/-! ## Outcomes -/

namespace Outcome

variable {α : Type}

/-- The outcome is `value` with the context `after`, unless the handler raises
one of the remarks. -/
structure Judged (outcome : Outcome α) (handler : Handler) (remarks : List Remark) (value : α)
    (after : Context) : Prop where
  journal : outcome.journal = (handler.judge remarks).2
  accepted : (handler.judge remarks).1 = none →
    outcome.result = .ok value ∧ outcome.context = after
  raised : ∀ error, (handler.judge remarks).1 = some error → outcome.result = .error error

/-- A handler that accepts all diagnostics changes nothing and is given all. -/
theorem Judged.of_accepts {outcome : Outcome α} {handler : Handler} {remarks : List Remark}
    {value : α} {after : Context} (h : outcome.Judged handler remarks value after)
    (haccepts : handler.Accepts (Remark.diagnostics remarks)) :
    outcome.result = .ok value ∧ outcome.context = after ∧
      outcome.journal.diagnostics = Remark.diagnostics remarks := by
  obtain ⟨herror, hgiven⟩ := Handler.judge_of_accepts haccepts
  obtain ⟨hresult, hcontext⟩ := h.accepted herror
  exact ⟨hresult, hcontext, by rw [h.journal, hgiven]⟩

/-- What processing gives, if it gives something, is settled. -/
theorem Judged.eq_of_ok {outcome : Outcome α} {handler : Handler} {remarks : List Remark}
    {value a : α} {after : Context} (h : outcome.Judged handler remarks value after)
    (hok : outcome.result = .ok a) : a = value := by
  cases hjudge : (handler.judge remarks).1 with
  | none => exact Except.ok.inj (hok.symm.trans (h.accepted hjudge).1)
  | some error =>
    rw [h.raised error hjudge] at hok
    cases hok

end Outcome

namespace Handler

theorem judge_events (handler : Handler) (events : List Event) (remarks : List Remark) :
    handler.judge (events.map .event ++ remarks) =
      ((handler.judge remarks).1, events.map .event ++ (handler.judge remarks).2) := by
  induction events with
  | nil => rfl
  | cons e rest ih => rw [List.map_cons, List.cons_append, judge, ih]; rfl

end Handler

open Outcome (Judged)

variable {methods : Methods}

theorem judged_check (hcheck : methods.nameCheck = .reporting) (profile : Profile)
    (context : Context) (handler : Handler) (tokens : Tokens) :
    Judged (profile.check methods context handler tokens) handler
      (profile.checkRemarks context.lexicon tokens) tokens context := by
  simp only [Profile.check, hcheck]
  refine ⟨rfl, fun h => ?_, fun error h => ?_⟩
  · simp only [h, and_self]
  · simp only [h]

/-- The remarks of parsing a text. -/
def Profile.parseRemarks (profile : Profile) (lexicon : Lexicon) (content : String) :
    List Remark :=
  (profile.lexer.events content).map .event ++
    profile.checkRemarks lexicon (profile.lexer.tokenize content)

theorem judged_parse (hcheck : methods.nameCheck = .reporting) (profile : Profile)
    (context : Context) (handler : Handler) (content : String) :
    Judged (profile.parse methods context handler content) handler
      (profile.parseRemarks context.lexicon content) (profile.lexer.tokenize content) context := by
  have hchecked := judged_check hcheck profile context handler (profile.lexer.tokenize content)
  refine ⟨?_, ?_, ?_⟩
  all_goals rw [Profile.parseRemarks, Handler.judge_events]
  · rw [Profile.parse, hchecked.journal]
  · exact hchecked.accepted
  · exact hchecked.raised

/-- A parsed message is its text and the tokens of that, with the profile. -/
theorem Message.judged_parse (hcheck : methods.nameCheck = .reporting) (profile : Profile)
    (context : Context) (handler : Handler) (content : String) :
    Judged (Message.parse profile methods context handler content) handler
      (profile.parseRemarks context.lexicon content)
      ⟨content, profile.lexer.tokenize content, profile⟩ context := by
  have hparse := Phrasebook.judged_parse hcheck profile context handler content
  refine ⟨hparse.journal, fun h => ?_, fun error h => ?_⟩
  · obtain ⟨hresult, hcontext⟩ := hparse.accepted h
    exact ⟨congrArg (Except.map _) hresult, hcontext⟩
  · exact congrArg (Except.map _) (hparse.raised error h)

theorem judged_conclude (handler : Handler) (context : Context) (steps : List Step) :
    Judged (conclude handler context steps) handler (steps.flatMap Step.remarks)
      (String.join (steps.map Step.text)) (steps.foldl (fun _ step => step.context) context) := by
  induction steps generalizing handler context with
  | nil => exact ⟨rfl, fun _ => ⟨rfl, rfl⟩, fun _ h => nomatch h⟩
  | cons step rest ih =>
    refine ⟨journal_conclude handler context _, ?_, ?_⟩
    all_goals
      rw [List.flatMap_cons, Handler.judge_append, conclude]
      rcases handler.judge step.remarks with ⟨_ | raised, journal⟩
    · intro h
      obtain ⟨hresult, hcontext⟩ := (ih (handler.after journal.diagnostics) step.context).accepted h
      simp only [hresult, Except.map, List.map_cons, String.join_cons]
      exact ⟨trivial, hcontext⟩
    · intro h
      cases h
    · intro error h
      have hresult := (ih (handler.after journal.diagnostics) step.context).raised error h
      simp only [hresult, Except.map]
    · intro error h
      cases h
      rfl

namespace Context

variable (context : Context) (binder : Binder) (content : String) (tokens : Tokens)

/-- The remarks of rendering tokens. -/
def renderRemarks : List Remark := (context.steps binder 0 tokens).flatMap Step.remarks

/-- The text of rendering tokens. -/
def renderText : String :=
  if tokens = [] then content else String.join ((context.steps binder 0 tokens).map Step.text)

theorem judged_render (handler : Handler) :
    Judged (context.render handler binder content tokens) handler
      (context.renderRemarks binder tokens) (context.renderText binder content tokens)
      (context.advance binder tokens) := by
  have hafter := context.foldl_context_steps binder [] tokens
  rw [advance_nil] at hafter
  cases tokens with
  | nil => exact ⟨rfl, fun _ => ⟨rfl, hafter⟩, fun _ h => nomatch h⟩
  | cons token rest =>
    rw [renderText, if_neg (List.cons_ne_nil token rest), ← List.nil_append (token :: rest), ← hafter]
    exact judged_conclude handler context _

end Context

namespace Profile

variable (profile : Profile) (context : Context) (binder : Binder) (content : String)

theorem transform_of_resolved (hrendition : methods.rendition = .resolved) (handler : Handler)
    (tokens : Tokens) :
    profile.transform methods context handler binder content tokens =
      context.render handler binder content tokens := by
  rw [transform, hrendition]

/-- Parsing and rendering are judged as one piece. -/
theorem judged_render (hcheck : methods.nameCheck = .reporting)
    (hrendition : methods.rendition = .resolved) (handler : Handler) :
    let tokens := profile.lexer.tokenize content
    Judged (profile.render methods context handler binder content) handler
      (profile.parseRemarks context.lexicon content ++ context.renderRemarks binder tokens)
      (context.renderText binder content tokens) (context.advance binder tokens) := by
  intro tokens
  have hparse := judged_parse hcheck profile context handler content
  rcases hjudge : handler.judge (profile.parseRemarks context.lexicon content) with ⟨_ | raised, journal⟩
  · have hrender := context.judged_render binder content tokens (handler.after journal.diagnostics)
    rw [← profile.transform_of_resolved context binder content hrendition] at hrender
    obtain ⟨hresult, hcontext⟩ := hparse.accepted (by rw [hjudge])
    have hjournal : (profile.parse methods context handler content).journal = journal := by
      rw [hparse.journal, hjudge]
    refine ⟨?_, ?_, ?_⟩
    all_goals
      rw [Handler.judge_append, hjudge]
      simp only [render, hresult, hcontext, hjournal]
    · rw [hrender.journal]
    · exact hrender.accepted
    · exact hrender.raised
  · have hresult := hparse.raised raised (by rw [hjudge])
    refine ⟨?_, ?_, ?_⟩
    all_goals
      rw [Handler.judge_append, hjudge]
      simp only [render, hresult]
    · rw [hparse.journal, hjudge]
    · intro h
      cases h
    · intro error h
      cases h
      rfl

end Profile

/-! ## No diagnostic is breaking -/

theorem Lexicon.severity_of_mismatch? {lexicon : Lexicon} {binder : Binder} {name : String}
    {d : Diagnostic} (h : lexicon.mismatch? binder name = some d) : d.severity = .warning := by
  rw [mismatch?, Option.bind_eq_some_iff] at h
  obtain ⟨⟨accepts, _, value⟩, -, hd⟩ := h
  by_cases hname : value.typeName = accepts.name
  · simp only [if_pos hname, reduceCtorEq] at hd
  · simp only [if_neg hname, Option.some.injEq] at hd
    rw [← hd]
    rfl

theorem Context.severity_of_mem_reportsOn {context : Context} {binder : Binder} {before : Tokens}
    {token : Token} {d : Diagnostic} (h : d ∈ context.reportsOn binder before token) :
    d.severity = .warning := by
  cases token with
  | literal raw => cases h
  | placeholder raw name =>
    rw [reportsOn, reportsAt, List.mem_append] at h
    rcases h with h | h
    · split at h
      · cases h
      · exact Lexicon.severity_of_mismatch? (Option.mem_toList.mp h)
    · split at h
      · rw [List.mem_singleton.mp h]
        rfl
      · cases h

theorem Lexicon.severity_of_mem_unknownNames {lexicon : Lexicon} {tokens : Tokens} {d : Diagnostic}
    (h : d ∈ lexicon.unknownNames tokens) : d.severity = .notify := by
  rw [Lexicon.unknownNames, List.mem_filterMap] at h
  obtain ⟨token, -, hd⟩ := h
  cases token with
  | literal raw => cases hd
  | placeholder raw name =>
    simp only [Token.name?_placeholder] at hd
    split at hd
    · cases hd
    · rw [← Option.some.inj hd]
      rfl

theorem Profile.diagnostics_parseRemarks (profile : Profile) (lexicon : Lexicon) (content : String) :
    Remark.diagnostics (profile.parseRemarks lexicon content) =
      lexicon.unknownNames (profile.lexer.tokenize content) := by
  simp [parseRemarks, checkRemarks]

theorem Context.severity_of_mem_renderRemarks {context : Context} {binder : Binder}
    {tokens : Tokens} {d : Diagnostic}
    (h : d ∈ Remark.diagnostics (context.renderRemarks binder tokens)) : d.severity = .warning := by
  rw [renderRemarks, Remark.diagnostics_flatMap, List.flatMap_def,
    (steps_eq_rules context binder tokens).2.1, List.mem_flatten] at h
  obtain ⟨reports, hmem, hd⟩ := h
  obtain ⟨i, hi, rfl⟩ := List.mem_mapIdx.mp hmem
  exact severity_of_mem_reportsOn hd

/-! ## All handlers at once -/

/-- What `processing` comes to under each handler, if `given` are the diagnostics
that there are in all, `text` the text and `after` the context at the end. -/
structure StopsAt (processing : Handler → Outcome String) (given : List Diagnostic)
    (text : String) (after : Context) : Prop where
  /-- A handler that accepts all diagnostics is given all and changes nothing. -/
  accepted : ∀ handler : Handler, handler.Accepts given →
    (processing handler).result = .ok text ∧ (processing handler).context = after ∧
      (processing handler).journal.diagnostics = given
  /-- Any other is given those up to the first that it raises, with its error. -/
  raised : ∀ (handler : Handler) before d rest error, given = before ++ d :: rest →
    handler.Accepts before → (handler.after before).answer d = some error →
    (processing handler).result = .error error ∧
      (processing handler).journal.diagnostics = before ++ [d]
  /-- A threshold raises the first diagnostic that reaches it. -/
  threshold : ∀ severity, (processing (.raisingAt severity)).result =
    match given.find? fun d => severity ≤ d.severity with
    | some d => .error d.toError
    | none => .ok text
  /-- A higher threshold does not change a text. -/
  threshold_mono : ∀ low high shown, low ≤ high →
    (processing (.raisingAt low)).result = .ok shown →
    (processing (.raisingAt high)).result = .ok shown
  standard : (processing .standard).result = .ok text

theorem Severity.le_trans {a b c : Severity} (hab : a ≤ b) (hbc : b ≤ c) : a ≤ c :=
  Severity.le_iff.mpr (Nat.le_trans (Severity.le_iff.mp hab) (Severity.le_iff.mp hbc))

namespace Handler

variable {threshold : Severity} {before : List Diagnostic}

theorem answer_raisingAt_of_le {d : Diagnostic} (h : threshold ≤ d.severity) :
    ((raisingAt threshold).after before).answer d = some d.toError :=
  if_pos h

theorem accepts_raisingAt (h : ∀ d ∈ before, ¬ threshold ≤ d.severity) :
    (raisingAt threshold).Accepts before :=
  accepts_forgetful fun d hd => if_neg (h d hd)

end Handler

section Judged

variable {processing : Handler → Outcome String} {remarks : List Remark} {text : String}
  {after : Context} (h : ∀ handler, Judged (processing handler) handler remarks text after)

include h

/-- The first diagnostic that reaches a threshold is raised by it. -/
theorem result_raisingAt (threshold : Severity) :
    (processing (.raisingAt threshold)).result =
      match (Remark.diagnostics remarks).find? fun d => threshold ≤ d.severity with
      | some d => .error d.toError
      | none => .ok text := by
  cases hfind : (Remark.diagnostics remarks).find? fun d => threshold ≤ d.severity with
  | none =>
    refine ((h _).of_accepts (Handler.accepts_raisingAt fun d hd => ?_)).1
    simpa using List.find?_eq_none.mp hfind d hd
  | some d =>
    obtain ⟨hreaches, before, rest, hsplit, hbefore⟩ := List.find?_eq_some_iff_append.mp hfind
    have haccepts : (Handler.raisingAt threshold).Accepts before :=
      Handler.accepts_raisingAt fun b hb => by simpa using hbefore b hb
    have hraises : ((Handler.raisingAt threshold).after before).answer d = some d.toError :=
      Handler.answer_raisingAt_of_le (of_decide_eq_true hreaches)
    exact (h _).raised _ (Handler.judge_of_raises hsplit haccepts hraises).1

theorem stopsAt_of_judged (hmild : ∀ d ∈ Remark.diagnostics remarks, d.severity ≤ .warning) :
    StopsAt processing (Remark.diagnostics remarks) text after where
  accepted handler haccepts := (h handler).of_accepts haccepts
  raised handler before d rest error hsplit haccepts hraises := by
    obtain ⟨herror, hgiven⟩ := Handler.judge_of_raises hsplit haccepts hraises
    exact ⟨(h handler).raised error herror, by rw [(h handler).journal, hgiven]⟩
  threshold := result_raisingAt h
  threshold_mono low high shown hle hshown := by
    rw [result_raisingAt h] at hshown ⊢
    cases hlow : (Remark.diagnostics remarks).find? fun d => low ≤ d.severity with
    | some d => rw [hlow] at hshown; cases hshown
    | none =>
      rw [hlow] at hshown
      have hhigh : (Remark.diagnostics remarks).find? (fun d => high ≤ d.severity) = none := by
        rw [List.find?_eq_none] at hlow ⊢
        intro d hd hreaches
        exact hlow d hd (decide_eq_true (Severity.le_trans hle (of_decide_eq_true hreaches)))
      rw [hhigh]
      exact hshown
  standard := by
    refine ((h _).of_accepts (Handler.accepts_raisingAt fun d hd hissue => ?_)).1
    exact absurd (Severity.le_trans hissue (hmild d hd)) (by decide)

end Judged

/-- A handler that raises nothing is given the diagnostics of parsing and then
those of rendering. Any other handler decides where among them to stop, and
nothing else. -/
theorem Profile.render_stopsAt (profile : Profile) (context : Context) (binder : Binder)
    (content collector : String) :
    let seen := profile.render .standard context (.collecting collector) binder content
    let parsed := profile.parse .standard context (.collecting collector) content
    let tokens := profile.lexer.tokenize content
    let rendered := profile.transform .standard context (.collecting collector) binder content tokens
    ∃ text, seen.result = .ok text ∧
      seen.journal.diagnostics = parsed.journal.diagnostics ++ rendered.journal.diagnostics ∧
      StopsAt (fun handler => profile.render .standard context handler binder content)
        seen.journal.diagnostics text seen.context := by
  intro seen parsed tokens rendered
  have accepts := (Handler.accepting_collecting collector).accepts
  have hrender := profile.judged_render context binder content Methods.nameCheck_standard
    Methods.rendition_standard
  obtain ⟨hresult, hcontext, hseen⟩ := (hrender (.collecting collector)).of_accepts (accepts _)
  obtain ⟨-, -, hparsed⟩ :=
    (judged_parse Methods.nameCheck_standard profile context _ content).of_accepts (accepts _)
  obtain ⟨-, -, hrendered⟩ :=
    (context.judged_render binder content tokens (.collecting collector)).of_accepts (accepts _)
  have hmild : ∀ d ∈ Remark.diagnostics (profile.parseRemarks context.lexicon content ++
      context.renderRemarks binder tokens), d.severity ≤ .warning := by
    intro d hd
    rw [Remark.diagnostics_append, List.mem_append] at hd
    rcases hd with hd | hd
    · rw [profile.diagnostics_parseRemarks] at hd
      rw [Lexicon.severity_of_mem_unknownNames hd]
      decide
    · rw [Context.severity_of_mem_renderRemarks hd]
      decide
  refine ⟨context.renderText binder content tokens, hresult, ?_, ?_⟩
  · rw [hseen, hparsed, Remark.diagnostics_append]
    exact congrArg _ hrendered.symm
  · rw [hseen, hcontext]
    exact stopsAt_of_judged hrender hmild

/-- Two names that nothing is known of: four diagnostics, the third of which is raised. -/
theorem Profile.render_stopsAt_of_unbound :
    let profile : Profile := ⟨⟨0⟩, "English", "en", ⟨0⟩, Delimiters.braces.lexer⟩
    let render := fun handler =>
      profile.render .standard ⟨.empty false, []⟩ handler (.empty false) "\x7ba\x7d-\x7bb\x7d"
    let given : List Diagnostic :=
      [.unknown "a" none, .unknown "b" none, .unbound "a", .unbound "b"]
    (render (.collecting "all")).journal.diagnostics = given ∧
      (render (.abortingOn .unboundPlaceholder)).result = .error (Diagnostic.unbound "a").toError ∧
      (render (.abortingOn .unboundPlaceholder)).journal.diagnostics = given.take 3 := by
  intro profile render given
  have hgiven : (render (.collecting "all")).journal.diagnostics = given := by
    decide +kernel
  obtain ⟨text, -, -, hstops⟩ := profile.render_stopsAt ⟨.empty false, []⟩ (.empty false)
    "\x7ba\x7d-\x7bb\x7d" "all"
  refine ⟨hgiven, hstops.raised (.abortingOn .unboundPlaceholder)
    [.unknown "a" none, .unknown "b" none] (.unbound "a") [.unbound "b"] _ hgiven ?_ rfl⟩
  exact Handler.accepts_forgetful (by decide)

end Phrasebook

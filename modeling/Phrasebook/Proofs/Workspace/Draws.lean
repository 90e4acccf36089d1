import Phrasebook.Proofs.Rendering.Generators
import Phrasebook.Proofs.Workspace.Calls

/-!
# A closure over a whole program

What a program does with a workspace, as data (`Activity`): calls that render,
the operations on languages, lexicons, messages and registries, and what only
parses or looks something up. Its calls draw texts from a closure (`drawn`), in
the order of the activities and of the references in each. The closure is used
once for each and for nothing else (`drawn_of_untouched`), whichever lexicons
have it and under whichever names, unless a language that renders itself uses
it. So the texts that a program draws from a counter are the next ones.
-/

namespace Phrasebook

/-- If the placeholder draws its texts from the closure with that number, this
closure counts its uses. -/
def Placeholder.Counts (p : Placeholder) (id : ClosureId) (textAt : Nat → String) : Prop :=
  ∀ generator, p.rule = .generator generator → generator.id = id → generator = .counting id textAt

namespace Workspace

variable {w : Workspace} {id : ClosureId}

/-! ## One rendering -/

/-- Whether the language renders itself. -/
def Rendering.isOwn (r : Rendering) (w : Workspace) : Bool :=
  match (w.methodsOf r.profile).rendition with
  | .resolved => false
  | .own _ => true

/-- The texts that a rendering draws from the closure with that number. -/
def Rendering.draws (r : Rendering) (w : Workspace) (id : ClosureId) : List Draw :=
  if r.isOwn w then [] else (w.contextOf r.profile).draws r.handler r.binder 0 r.tokens id

theorem Rendering.outcome_of_resolved {r : Rendering} (h : r.isOwn w = false) :
    r.outcome w = (w.contextOf r.profile).render r.handler r.binder r.content r.tokens := by
  rw [isOwn] at h
  cases hrendition : (w.methodsOf r.profile).rendition with
  | resolved => rw [outcome, Profile.transform_of_resolved _ _ _ _ hrendition]
  | own render => simp [hrendition] at h

theorem Rendering.between_draws {r : Rendering} (h : r.isOwn w = false) (id : ClosureId) :
    Draw.Between id w.uses (r.draws w id) (r.outcome w).context.uses := by
  have hbetween := (w.contextOf r.profile).between_draws r.handler r.binder 0 r.tokens id
  rw [r.outcome_of_resolved h, draws, h, Context.render]
  cases htokens : r.tokens with
  | nil => exact Draw.between_nil rfl
  | cons token rest =>
    rw [htokens] at hbetween
    exact hbetween

/-- The closure with that number is that of a placeholder in one of the lexicons. -/
theorem Rendering.provides_of_mem_draws {r : Rendering} {draw : Draw} (h : draw ∈ r.draws w id) :
    draw.generator.id = id ∧ ∃ spelt, w.Provides ⟨spelt, .generator draw.generator⟩ := by
  rw [draws] at h
  split at h
  · cases h
  · obtain ⟨hid, name, spelt, hget⟩ := Context.generator_of_mem_draws h
    exact ⟨hid, spelt, r.profile.lexicon.index, name, hget⟩

/-- Rendering gives no lexicon a placeholder. -/
theorem Rendering.provides_of_answered {r : Rendering} {after : Workspace} (h : r.isOwn w = false)
    (hlexicons : after.lexicons =
      w.lexicons.put r.profile.lexicon.index (r.outcome w).context.lexicon) :
    ∀ p, after.Provides p → w.Provides p := by
  rw [r.outcome_of_resolved h, Context.lexicon_render] at hlexicons
  have hsame : after.lexicons = w.lexicons := hlexicons.trans (w.lexicons.put_get _)
  intro p hp
  rw [Provides, hsame] at hp
  exact hp

/-! ## What a program does -/

/-- Something that a program does. -/
inductive Activity where
  | ask (call : Call)
  | operation (op : Operation)
  | tokenize (lexer : Lexer) (content : String)
  | parse (name language content : String)
  | check (name language : String) (tokens : Tokens)
  | get (lexicon name : String)
  | has (lexicon name : String)
  | suggest (lexicon name : String)
  | getMessage (registry : RegistryName) (key : String)

namespace Activity

/-- The call that is made, if there is one. -/
def call? : Activity → Option Call
  | .ask call => some call
  | .operation op => op.call?
  | _ => none

/-- The placeholders that it registers. -/
def registers : Activity → List Placeholder
  | .operation op => op.registers
  | _ => []

/-- Whether a language that renders itself is asked. -/
def isOwn (activity : Activity) (w : Workspace) : Bool :=
  (activity.call?.bind (·.rendering? w)).any (·.isOwn w)

/-- The texts that it draws from the closure with that number. -/
def draws (activity : Activity) (w : Workspace) (id : ClosureId) : List Draw :=
  (activity.call?.bind (·.rendering? w)).elim [] (·.draws w id)

/-- The workspace after it. -/
def after (w : Workspace) : Activity → Workspace
  | .ask call => (w.perform call.session).2.2
  | .operation op => w.after op
  | .tokenize lexer content => (w.perform (Session.tokenize lexer content)).2.2
  | .parse name language content =>
    (w.perform do Session.parse name (← Session.findLanguage language) content).2.2
  | .check name language tokens =>
    (w.perform do Session.check name (← Session.findLanguage language) tokens).2.2
  | .get lexicon name => (w.perform (Session.useLexicon lexicon (·.get? name))).2.2
  | .has lexicon name => (w.perform (Session.useLexicon lexicon (·.has name))).2.2
  | .suggest lexicon name => (w.perform (Session.useLexicon lexicon (·.suggest? name))).2.2
  | .getMessage registry key =>
    (w.perform do Session.getMessage (← registry.find) key).2.2

variable {activity : Activity}

open Session in
/-- What renders nothing uses no closure, and lexicons gain by it what it registers. -/
theorem gains_after (hcall : activity.call? = none) (w : Workspace) :
    w.Gains activity.registers (activity.after w) := by
  cases activity with
  | ask call => cases hcall
  | operation op => exact gains_perform (op.gains_session hcall) w
  | tokenize lexer content => exact gains_perform (gains_tokenize lexer content) w
  | parse key language content =>
    exact gains_perform ((within_find _ language).bind fun found => gains_parse key found content) w
  | check key language tokens =>
    exact gains_perform ((within_find _ language).bind fun found => gains_check key found tokens) w
  | get | has | suggest => exact gains_perform (within_useLexicon _ _) w
  | getMessage registry key =>
    exact gains_perform (registry.within_find.bind fun id => within_getMessage id key) w

theorem after_of_call {call : Call} (h : activity.call? = some call) (w : Workspace) :
    activity.after w = (w.perform call.session).2.2 := by
  cases activity with
  | ask => cases h; rfl
  | operation op => exact op.after_of_call h w
  | _ => cases h

/-- The languages that render themselves and are asked do not use the closure,
and lexicons gain no placeholder by them. -/
def Spares (activity : Activity) (w : Workspace) (id : ClosureId) : Prop :=
  activity.isOwn w = true → (activity.after w).uses.times id = w.uses.times id ∧
    ∀ p, (activity.after w).Provides p → w.Provides p

/-- One activity draws the next texts of a closure, and nothing else uses it. -/
theorem between_draws (hspares : activity.Spares w id) :
    Draw.Between id w.uses (activity.draws w id) (activity.after w).uses := by
  rw [Spares, isOwn] at hspares
  rw [draws]
  cases hcall : activity.call? with
  | none => exact Draw.between_nil (congrArg (·.times id) (gains_after hcall w).uses)
  | some call =>
    have hanswers := call.answers_perform w
    rw [hcall, Option.bind_some, after_of_call hcall] at hspares
    rw [Option.bind_some, after_of_call hcall]
    cases hr : call.rendering? w with
    | none =>
      rw [hr] at hanswers
      exact Draw.between_nil (congrArg (·.times id) hanswers.2.uses)
    | some r =>
      rw [hr] at hanswers hspares
      cases hown : r.isOwn w with
      | false =>
        rw [hanswers.2.2]
        exact r.between_draws hown id
      | true =>
        have hnone : r.draws w id = [] := by rw [Rendering.draws, hown, if_pos rfl]
        rw [Option.elim_some, hnone]
        exact Draw.between_nil (hspares hown).1

/-- Lexicons gain by one activity what it registers. -/
theorem provides_after (hspares : activity.Spares w id) {p : Placeholder}
    (hp : (activity.after w).Provides p) : w.Provides p ∨ p ∈ activity.registers := by
  cases hcall : activity.call? with
  | none => exact (gains_after hcall w).provides p hp
  | some call =>
    refine .inl ?_
    have hanswers := call.answers_perform w
    rw [Spares, isOwn, hcall, Option.bind_some] at hspares
    cases hr : call.rendering? w with
    | none =>
      rw [hr] at hanswers
      rw [after_of_call hcall] at hp
      exact (hanswers.2.provides p hp).resolve_right List.not_mem_nil
    | some r =>
      rw [hr] at hanswers hspares
      cases hown : r.isOwn w with
      | false =>
        rw [after_of_call hcall] at hp
        exact r.provides_of_answered hown hanswers.2.1 p hp
      | true => exact (hspares hown).2 p hp

theorem provides_of_mem_draws {draw : Draw} (h : draw ∈ activity.draws w id) :
    draw.generator.id = id ∧ ∃ spelt, w.Provides ⟨spelt, .generator draw.generator⟩ := by
  rw [draws] at h
  cases hr : activity.call?.bind (·.rendering? w) with
  | none =>
    rw [hr] at h
    cases h
  | some r =>
    rw [hr] at h
    exact r.provides_of_mem_draws h

end Activity

/-- The workspace after a program. -/
def afterAll (w : Workspace) (program : List Activity) : Workspace :=
  program.foldl (fun now activity => activity.after now) w

/-- The texts that a program draws from the closure with that number. -/
def drawn (w : Workspace) (id : ClosureId) : List Activity → List Draw
  | [] => []
  | activity :: rest => activity.draws w id ++ (activity.after w).drawn id rest

/-- The languages that render themselves and that the program asks do not use
the closure, and lexicons gain no placeholder by them. -/
def Untouched (w : Workspace) (id : ClosureId) : List Activity → Prop
  | [] => True
  | activity :: rest => activity.Spares w id ∧ (activity.after w).Untouched id rest

theorem between_drawn {program : List Activity} (huntouched : w.Untouched id program) :
    Draw.Between id w.uses (w.drawn id program) (w.afterAll program).uses := by
  induction program generalizing w with
  | nil => exact Draw.between_nil rfl
  | cons activity rest ih =>
    exact (Activity.between_draws huntouched.1).append (ih huntouched.2)

/-- Placeholders get into lexicons by being registered only, so what all of them
have in common the closures drawn on have, too. -/
theorem counting_of_mem_drawn {textAt : Nat → String} {program : List Activity}
    (huntouched : w.Untouched id program)
    (hcounts : ∀ p, w.Provides p ∨ p ∈ program.flatMap Activity.registers → p.Counts id textAt) :
    ∀ draw ∈ w.drawn id program, draw.generator = .counting id textAt := by
  induction program generalizing w with
  | nil => exact fun draw hdraw => absurd hdraw List.not_mem_nil
  | cons activity rest ih =>
    rw [List.flatMap_cons] at hcounts
    intro draw hdraw
    rcases List.mem_append.mp hdraw with hfirst | hlater
    · obtain ⟨hid, spelt, hprovides⟩ := Activity.provides_of_mem_draws hfirst
      exact hcounts _ (.inl hprovides) draw.generator rfl hid
    · refine ih huntouched.2 (fun p hp => hcounts p ?_) draw hlater
      rcases hp with hp | hp
      · exact (Activity.provides_after huntouched.1 hp).imp_right (List.mem_append_left _)
      · exact .inr (List.mem_append_right _ hp)

/-- Over a whole program, the references left to a closure that its calls get to
draw on it once each and in order, whether or not handlers break calls off, and
nothing else uses it; if it counts its uses, the texts are the next ones. A call
that gives a text gives that of its rendering, which is told by the rules unless
the language renders itself. -/
theorem drawn_of_untouched {w : Workspace} {id : ClosureId} {program : List Activity}
    (huntouched : w.Untouched id program) :
    let draws := w.drawn id program
    Draw.Between id w.uses draws (w.afterAll program).uses ∧
      (∀ textAt,
        (∀ p, w.Provides p ∨ p ∈ program.flatMap Activity.registers → p.Counts id textAt) →
        draws.map Draw.text = (List.range' (w.uses.times id) draws.length).map textAt) ∧
      ∀ before call later text, program = before ++ .ask call :: later →
        let now := w.afterAll before
        (now.perform call.session).1 = .ok text →
        ∃ r, call.rendering? now = some r ∧ (r.outcome now).result = .ok text ∧
          ((now.methodsOf r.profile).rendition = .resolved → text = r.text now) := by
  intro draws
  have hbetween := between_drawn huntouched
  refine ⟨hbetween, fun textAt hcounts => ?_, fun before call _ text _ => ?_⟩
  · refine hbetween.map_text fun draw hdraw uses => ?_
    rw [counting_of_mem_drawn huntouched hcounts draw hdraw]
    rfl
  · intro now hok
    have hanswers := call.answers_perform now
    cases hr : call.rendering? now with
    | none =>
      rw [hr] at hanswers
      exact absurd hok (hanswers.1 text)
    | some r =>
      rw [hr] at hanswers
      have houtcome := hanswers.1.symm.trans hok
      exact ⟨r, rfl, houtcome, fun hrendition => Rendering.eq_text_of_ok hrendition houtcome⟩

/-- Two languages share a lexicon, and two of its placeholders a counter. Of the
references to the first one has a value at its position, one comes after the
reference on which the handler breaks the rendering off, and two draw on the
counter; parsing and looking up do not. The other goes on where they stop. -/
theorem drawn_of_untouched_of_broken_off :
    let english : Blueprint := { Blueprint.standard "English" "en" with
      caseSensitive := true, handler := .abortingOn .unboundPlaceholder }
    let german : Blueprint := { english with name := "German", lexicon := some ⟨0⟩ }
    let binder := (Binder.empty true).insert (.index 0) (.displayed (.string "none"))
    let program : List Activity := [.operation (.makeLanguage "en" english),
      .operation (.makeLanguage "de" german), .operation (.register "en" (.counter ⟨0⟩ "no" 5)),
      .parse "tokens" "de" "{no}", .ask (.render "en" binder "{no}, {no}"),
      .ask (.render "de" (.empty true) "{no}, {who}, {no}"), .suggest "de" "nr",
      .operation (.extend "de" [.counter ⟨0⟩ "nr" 5]),
      .operation (.store (.current "en") "key" "no. {nr}"),
      .ask (.renderStored (.current "en") "key" (.empty true))]
    let now := empty.afterAll program
    empty.Untouched ⟨0⟩ program ∧
      (empty.drawn ⟨0⟩ program).map Draw.text = ["5", "6", "7"] ∧
      now.uses.times ⟨0⟩ = 3 ∧
      (now.perform (Call.render "en" (.empty true) "{no}").session).1.toOption = some "8" := by
  intro english german binder program now
  have huntouched : empty.Untouched ⟨0⟩ program := by
    refine ⟨?_, ?_, ?_, ?_, ?_, ?_, ?_, ?_, ?_, ?_, trivial⟩
    all_goals exact fun h => absurd h (by decide +kernel)
  have hcounts : ∀ p, empty.Provides p ∨ p ∈ program.flatMap Activity.registers →
      p.Counts ⟨0⟩ fun n => toString ((5 + (n : Int)).bmod 0x10000000000000000) := by
    rintro p (⟨n, name, hp⟩ | hp)
    · exact nomatch (Lexicon.get?_empty false name).symm.trans hp
    · have hregisters : program.flatMap Activity.registers =
          [.counter ⟨0⟩ "no" 5, .counter ⟨0⟩ "nr" 5] := rfl
      rw [hregisters, List.mem_cons, List.mem_singleton] at hp
      rcases hp with rfl | rfl
      all_goals
        intro generator hrule _
        exact (Rule.generator.inj hrule).symm
  obtain ⟨hbetween, htexts, -⟩ := drawn_of_untouched huntouched
  have hlength : (empty.drawn ⟨0⟩ program).length = 3 := by decide +kernel
  refine ⟨huntouched, ?_, ?_, by decide +kernel⟩
  · rw [htexts _ hcounts, hlength]
    decide +kernel
  · rw [hbetween.times, hlength]
    rfl

end Workspace

end Phrasebook

import Phrasebook.Proofs.Rendering.Outcome
import Phrasebook.Proofs.Rendering.Rules

/-!
# Rendering follows the rules

A reference comes to what the rules say in the context that it finds, and
leaves that context with the uses that it takes (`follows_resolve`). So each
token of a message finds the context that the rules tell (`steps_after`, by
induction on the tokens), and with a handler that raises nothing a rendering is
what the rules say of its tokens (`render_eq_rules`).
-/

namespace Phrasebook

namespace Context

open Lexicon (isBound)

variable {context : Context} {binder : Binder} {position : Nat} {name : String} {p : Placeholder}

/-! ## One reference -/

/-- What a reference came to, with the context after it, is what the rules say. -/
structure Follows (context : Context) (binder : Binder) (position : Nat) (name : String)
    (r : Resolution × Context) : Prop where
  text : r.1.text = (context.ruleText? binder position name).getD ""
  reports : Remark.diagnostics (r.1.remarks position name) = context.reportsAt binder position name
  after : r.2 = context.after (context.lexicon.usesBy binder position name)

/-- A placeholder is resolved by the value that is offered to it, if there is one. -/
theorem resolvePlaceholder_eq (hp : context.lexicon.get? name = some p) :
    context.resolvePlaceholder binder name p =
      match context.lexicon.offered? binder name with
      | none => context.resolveNothing p none
      | some (accepts, closure, value) =>
        if value.typeName = accepts.name then
          (.byType accepts.name (closure.text context.uses (some value.datum)),
            context.after [.transformed closure.id (some value.datum)])
        else context.resolveNothing p
          (some (.mismatch name accepts.name.text value.typeName.text)) := by
  rw [resolvePlaceholder, Placeholder.accepts?_eq]
  simp only [Lexicon.offered?, hp, Option.bind_eq_bind, Option.bind_some]
  cases hshows : p.shows? with
  | none => rfl
  | some rule =>
    obtain ⟨accepts, closure⟩ := rule
    simp only [Option.map_some, Option.bind_some, Binder.value?_type]
    cases binder.at? (.type accepts.topmost) with
    | none => rfl
    | some value =>
      simp only [Placeholder.transformValue_of_shows? hshows, Option.bind_some, Option.pure_def]
      by_cases hname : value.typeName = accepts.name
      · simp only [if_pos hname]
        rfl
      · simp only [if_neg hname]

/-- A reference with a value of its own follows the rules: nothing is reported
and no closure used. -/
theorem follows_of_bound {text : String} {resolution : Resolution}
    (hbound : isBound binder position name)
    (hrule : context.ruleText? binder position name = some text) (htext : resolution.text = text)
    (hremarks : Remark.diagnostics (resolution.remarks position name) = []) :
    Follows context binder position name (resolution, context) := by
  refine ⟨?_, ?_, ?_⟩
  · rw [htext, hrule]
    rfl
  · rw [hremarks, reportsAt, hbound, hrule]
    rfl
  · rw [Lexicon.usesBy_of_bound hbound, after_nil]

/-- A placeholder that no value of its type is offered to is resolved without one. -/
theorem follows_resolveNothing (hp : context.lexicon.get? name = some p)
    (hbound : isBound binder position name = false)
    (hoffer : context.lexicon.transforms? binder name = none) :
    Follows context binder position name
      (context.resolveNothing p (context.lexicon.mismatch? binder name)) := by
  have hrule : context.ruleText? binder position name = p.textAfter? context.uses := by
    rw [ruleText?_of_unbound hbound, ofType?, hoffer, hp]
    rfl
  have huses : context.lexicon.usesBy binder position name = p.usesForNothing := by
    rw [Lexicon.usesBy_of_unbound hbound, hoffer, hp]
    rfl
  rw [resolveNothing, p.transformNothing_eq]
  cases htext : p.textAfter? context.uses with
  | some text =>
    rw [htext] at hrule
    refine ⟨?_, ?_, ?_⟩
    · rw [hrule]
      rfl
    · rw [reportsAt, hbound, hrule]
      simp [Resolution.remarks, Resolution.trace]
    · rw [huses]
      rfl
  | none =>
    rw [htext] at hrule
    refine ⟨?_, ?_, ?_⟩
    · rw [hrule]
      rfl
    · rw [reportsAt, hbound, hrule]
      simp [Resolution.remarks]
    · rw [huses]
      rfl

/-- A reference for which nothing is bound follows the rules with its placeholder. -/
theorem follows_resolvePlaceholder (hp : context.lexicon.get? name = some p)
    (hbound : isBound binder position name = false) :
    Follows context binder position name (context.resolvePlaceholder binder name p) := by
  rw [resolvePlaceholder_eq hp]
  cases hoffered : context.lexicon.offered? binder name with
  | none =>
    have hnothing := follows_resolveNothing hp hbound (Lexicon.transforms?_of_none hoffered)
    rw [Lexicon.mismatch?_of_none hoffered] at hnothing
    exact hnothing
  | some offer =>
    obtain ⟨accepts, closure, value⟩ := offer
    have htransforms := Lexicon.transforms?_of_offered hoffered
    have hmismatch := Lexicon.mismatch?_of_offered hoffered
    by_cases hname : value.typeName = accepts.name
    · rw [if_pos hname] at htransforms hmismatch
      have hrule : context.ruleText? binder position name =
          some (closure.text context.uses (some value.datum)) := by
        rw [ruleText?_of_unbound hbound, ofType?, htransforms]
        rfl
      simp only [if_pos hname]
      refine ⟨?_, ?_, ?_⟩
      · rw [hrule]
        rfl
      · rw [reportsAt, hmismatch, hrule, hbound]
        rfl
      · rw [Lexicon.usesBy_of_unbound hbound, htransforms]
    · rw [if_neg hname] at htransforms hmismatch
      have hnothing := follows_resolveNothing hp hbound htransforms
      rw [hmismatch] at hnothing
      simp only [if_neg hname]
      exact hnothing

/-- A reference follows the rules. -/
theorem follows_resolve (context : Context) (binder : Binder) (position : Nat) (name : String) :
    Follows context binder position name (context.resolve binder position name) := by
  rw [resolve, ← Binder.value?_position, ← Binder.value?_name]
  cases hindex : binder.value? (.position position) with
  | some value =>
    have hbound : isBound binder position name := by rw [isBound, hindex]; rfl
    exact follows_of_bound hbound (ruleText?_of_index hindex) rfl rfl
  | none =>
    cases hname : binder.value? (.name name) with
    | some value =>
      have hbound : isBound binder position name := by rw [isBound, hindex, hname]; rfl
      exact follows_of_bound hbound (ruleText?_of_name hindex hname) rfl rfl
    | none =>
      have hbound := Lexicon.isBound_eq_false_iff.mpr ⟨hindex, hname⟩
      cases hp : context.lexicon.get? name with
      | some p => exact follows_resolvePlaceholder hp hbound
      | none =>
        have hoffered : context.lexicon.offered? binder name = none := by
          rw [Lexicon.offered?, hp]
          rfl
        have hoffer := Lexicon.transforms?_of_none hoffered
        have hrule : context.ruleText? binder position name = none := by
          rw [ruleText?_of_unbound hbound, ofType?, hoffer, hp]
          rfl
        refine ⟨?_, ?_, ?_⟩
        · rw [hrule]
          rfl
        · rw [reportsAt, hbound, Lexicon.mismatch?_of_none hoffered, hrule]
          rfl
        · rw [Lexicon.usesBy_of_unbound hbound, hoffer, hp]
          exact context.after_nil.symm

/-- A reference leaves the context with the uses that it takes. -/
theorem context_resolve (context : Context) (binder : Binder) (position : Nat) (name : String) :
    (context.resolve binder position name).2 =
      context.after (context.lexicon.usesBy binder position name) :=
  (follows_resolve context binder position name).after

/-! ## All tokens -/

/-- What a reference comes to. -/
def stepOn (context : Context) (binder : Binder) (position : Nat) (name : String) : Step :=
  let (resolution, after) := context.resolve binder position name
  ⟨resolution.text, resolution.remarks position name, after⟩

theorem steps_placeholder (raw name : String) (rest : Tokens) :
    context.steps binder position (.placeholder raw name :: rest) =
      context.stepOn binder position name ::
        (context.stepOn binder position name).context.steps binder (position + 1) rest := rfl

theorem context_stepOn (context : Context) (binder : Binder) (position : Nat) (name : String) :
    (context.stepOn binder position name).context =
      context.after (context.lexicon.usesBy binder position name) :=
  context.context_resolve binder position name

/-- The tokens that follow `before` come to what the rules say, each after the tokens before it. -/
theorem steps_after (context : Context) (binder : Binder) (before tokens : Tokens) :
    let steps := (context.advance binder before).steps binder before.names.length tokens
    (steps.map Step.text =
        tokens.mapIdx fun i token => context.textOf binder (before ++ tokens.take i) token) ∧
      ((steps.map fun step => Remark.diagnostics step.remarks) =
        tokens.mapIdx fun i token => context.reportsOn binder (before ++ tokens.take i) token) ∧
      (steps.map Step.context =
        tokens.mapIdx fun i token => context.advance binder (before ++ tokens.take i ++ [token])) := by
  induction tokens generalizing before with
  | nil => exact ⟨rfl, rfl, rfl⟩
  | cons token rest ih =>
    simp only [List.mapIdx_cons, List.take_zero, List.append_nil, List.take_succ_cons]
    cases token with
    | literal raw =>
      obtain ⟨htexts, hreports, hcontexts⟩ := ih (before ++ [.literal raw])
      rw [Tokens.names_literal, advance_literal] at htexts hreports hcontexts
      simp only [List.append_assoc, List.singleton_append] at htexts hreports hcontexts
      rw [steps, List.map_cons, List.map_cons, List.map_cons, htexts, hreports, hcontexts]
      refine ⟨rfl, rfl, ?_⟩
      rw [advance_literal]
      simp only [List.append_assoc, List.cons_append]
    | placeholder raw name =>
      have hstep := follows_resolve (context.advance binder before) binder before.names.length name
      obtain ⟨htexts, hreports, hcontexts⟩ := ih (before ++ [.placeholder raw name])
      rw [Tokens.names_placeholder, List.length_append, advance_placeholder]
        at htexts hreports hcontexts
      simp only [List.append_assoc, List.singleton_append] at htexts hreports hcontexts
      rw [steps_placeholder, context_stepOn, List.map_cons, List.map_cons, List.map_cons]
      refine ⟨(congrArg (· :: _) hstep.text).trans (congrArg (_ :: ·) htexts),
        (congrArg (· :: _) hstep.reports).trans (congrArg (_ :: ·) hreports), ?_⟩
      rw [context_stepOn, advance_placeholder]
      simp only [List.append_assoc, List.cons_append]
      exact congrArg (_ :: ·) hcontexts

/-- What the tokens of a whole message come to. -/
theorem steps_eq_rules (context : Context) (binder : Binder) (tokens : Tokens) :
    let steps := context.steps binder 0 tokens
    (steps.map Step.text =
        tokens.mapIdx fun i token => context.textOf binder (tokens.take i) token) ∧
      ((steps.map fun step => Remark.diagnostics step.remarks) =
        tokens.mapIdx fun i token => context.reportsOn binder (tokens.take i) token) ∧
      (steps.map Step.context =
        tokens.mapIdx fun i token => context.advance binder (tokens.take i ++ [token])) := by
  have hsteps := context.steps_after binder [] tokens
  rw [advance_nil] at hsteps
  simp only [List.nil_append] at hsteps
  exact hsteps

/-- The context after the tokens that follow `before`. -/
theorem foldl_context_steps (context : Context) (binder : Binder) (before tokens : Tokens) :
    ((context.advance binder before).steps binder before.names.length tokens).foldl
        (fun _ step => step.context) (context.advance binder before) =
      context.advance binder (before ++ tokens) := by
  induction tokens generalizing before with
  | nil => rw [List.append_nil]; rfl
  | cons token rest ih =>
    cases token with
    | literal raw =>
      have hrest := ih (before ++ [.literal raw])
      rw [Tokens.names_literal, advance_literal, List.append_assoc] at hrest
      exact hrest
    | placeholder raw name =>
      have hrest := ih (before ++ [.placeholder raw name])
      rw [Tokens.names_placeholder, List.length_append, advance_placeholder, List.append_assoc]
        at hrest
      rw [steps_placeholder, List.foldl_cons, context_stepOn]
      exact hrest

/-- Rendering with a handler that raises nothing gives the text of each token
by the rules, hands the handler the reports on each, and uses closures as the
rules say. -/
theorem render_eq_rules (context : Context) (handler : Handler) (binder : Binder) (content : String)
    (tokens : Tokens) (accepting : handler.Accepting) :
    (context.render handler binder content tokens).result =
        .ok (if tokens = [] then content
          else String.join
            (tokens.mapIdx fun i token => context.textOf binder (tokens.take i) token)) ∧
      (context.render handler binder content tokens).journal.diagnostics =
        (tokens.mapIdx fun i token => context.reportsOn binder (tokens.take i) token).flatten ∧
      (context.render handler binder content tokens).context = context.advance binder tokens := by
  obtain ⟨htexts, hreports, -⟩ := context.steps_eq_rules binder tokens
  have hcontext := context.foldl_context_steps binder [] tokens
  rw [advance_nil] at hcontext
  cases tokens with
  | nil => exact ⟨rfl, rfl, hcontext⟩
  | cons token rest =>
    rw [Context.render, List.isEmpty_cons, if_neg Bool.false_ne_true, if_neg (List.cons_ne_nil _ _),
      ← htexts, ← hreports]
    exact ⟨result_conclude_of_accepting accepting context _,
      diagnostics_conclude_of_accepting accepting context _,
      (context_conclude_of_accepting accepting context _).trans hcontext⟩

/-- Two placeholders with one counter give its next text to each reference; a
value of another type is reported. -/
theorem render_eq_rules_of_counter_and_mismatch :
    let lexicon := (Lexicon.empty false).extend
      [.counter ⟨0⟩ "no" 1, .counter ⟨0⟩ "nr" 1, .display ⟨1⟩ "who" .string]
    let binder := ((Binder.empty false).bindUnder (.integer 7) .string).2
    let tokens : Tokens := [.placeholder "{no}" "no", .literal "/", .placeholder "{NR}" "NR",
      .literal " ", .placeholder "{who}" "who"]
    let outcome := render ⟨lexicon, []⟩ (.collecting "all") binder "" tokens
    outcome.result = .ok "1/2 " ∧
      outcome.journal.diagnostics =
        [.mismatch "who" "alloc::string::String" "i64", .unbound "who"] := by
  intro lexicon binder tokens outcome
  obtain ⟨hresult, hreports, -⟩ := render_eq_rules ⟨lexicon, []⟩ (.collecting "all") binder "" tokens
    (Handler.accepting_collecting "all")
  refine ⟨hresult.trans ?_, hreports.trans ?_⟩
  · rw [if_neg (List.cons_ne_nil _ _)]
    refine congrArg Except.ok ?_
    decide +kernel
  · decide +kernel

end Context

end Phrasebook

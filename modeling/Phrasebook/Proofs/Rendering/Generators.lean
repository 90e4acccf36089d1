import Phrasebook.Processing
import Phrasebook.Proofs.Rendering.Following
import Phrasebook.Proofs.Rendering.Raising

/-!
# A rendering draws on a closure

A rendering gets to the tokens of a message one after the other, up to the
first on which the handler raises a remark (`Context.reached`). Each reference
among them to which nothing is bound, and whose placeholder gets its text from a
closure that takes nothing, draws one text from it and no other does
(`times_usesBy`): the closure sees one use more each time, in the order of the
references, and has been used as often when the rendering is over or broken off
(`between_draws`).
-/

namespace Phrasebook

namespace Handler

variable {α : Type} (handler : Handler) (remarks : α → List Remark)

/-- The items that are gone through: those for which the handler lets the
remarks on all items before pass. -/
def reached (items : List α) : List α :=
  (items.zipIdx.filter fun item => handler.passes ((items.take item.2).flatMap remarks)).map Prod.fst

theorem reached_cons (x : α) (xs : List α) :
    handler.reached remarks (x :: xs) =
      x :: if handler.passes (remarks x) then
          (handler.after (Remark.diagnostics (remarks x))).reached remarks xs
        else [] := by
  have hlater : (x :: xs).zipIdx = (x, 0) :: xs.zipIdx.map (Prod.map id (· + 1)) :=
    List.zipIdx_cons'
  rw [reached, hlater, List.filter_cons]
  simp only [List.take_zero, List.flatMap_nil, passes_nil, if_true, List.map_cons, List.filter_map,
    List.map_map]
  refine congrArg (x :: ·) ?_
  cases hpasses : handler.passes (remarks x) with
  | true =>
    have hsame : ((fun item : α × Nat => handler.passes (((x :: xs).take item.2).flatMap remarks)) ∘
        Prod.map id (· + 1)) = fun item =>
          (handler.after (Remark.diagnostics (remarks x))).passes
            ((xs.take item.2).flatMap remarks) := by
      funext item
      show handler.passes (((x :: xs).take (item.2 + 1)).flatMap remarks) = _
      rw [List.take_succ_cons, List.flatMap_cons, passes_append, hpasses, Bool.true_and]
    rw [hsame, if_pos rfl, reached]
    rfl
  | false =>
    rw [if_neg Bool.false_ne_true, List.map_eq_nil_iff, List.filter_eq_nil_iff]
    intro item _ hitem
    have hstops : handler.passes (((x :: xs).take (item.2 + 1)).flatMap remarks) = false := by
      rw [List.take_succ_cons, List.flatMap_cons, passes_append, hpasses, Bool.false_and]
    exact Bool.false_ne_true (hstops.symm.trans hitem)

end Handler

theorem context_conclude_cons (handler : Handler) (context : Context) (step : Step)
    (rest : List Step) :
    (conclude handler context (step :: rest)).context =
      if handler.passes step.remarks then
        (conclude (handler.after (Remark.diagnostics step.remarks)) step.context rest).context
      else context := by
  rw [conclude]
  cases hpasses : handler.passes step.remarks with
  | true =>
    have hgiven := Handler.diagnostics_judge_of_passes hpasses
    rw [Handler.passes, Option.isNone_iff_eq_none] at hpasses
    rcases hjudge : handler.judge step.remarks with ⟨error, journal⟩
    rw [hjudge] at hpasses hgiven
    cases hpasses
    rw [if_pos rfl, ← hgiven]
  | false =>
    rw [Handler.passes] at hpasses
    rcases hjudge : handler.judge step.remarks with ⟨_ | error, journal⟩
    all_goals rw [hjudge] at hpasses
    · cases hpasses
    · rfl

theorem lexicon_conclude {handler : Handler} {context : Context} {steps : List Step}
    (h : ∀ step ∈ steps, step.context.lexicon = context.lexicon) :
    (conclude handler context steps).context.lexicon = context.lexicon := by
  induction steps generalizing handler context with
  | nil => rfl
  | cons step rest ih =>
    have hfirst : step.context.lexicon = context.lexicon := h step List.mem_cons_self
    rw [context_conclude_cons]
    split
    · exact (ih fun later hlater =>
        (h later (List.mem_cons_of_mem step hlater)).trans hfirst.symm).trans hfirst
    · rfl

/-- Rendering leaves the lexicon as it is. -/
theorem Context.lexicon_render (context : Context) (handler : Handler) (binder : Binder)
    (content : String) (tokens : Tokens) :
    (context.render handler binder content tokens).context.lexicon = context.lexicon := by
  rw [render]
  split
  · rfl
  refine lexicon_conclude fun step hstep => ?_
  have hcontext := List.mem_map_of_mem (f := Step.context) hstep
  rw [(context.steps_eq_rules binder tokens).2.2] at hcontext
  obtain ⟨i, hi, hadvance⟩ := List.mem_mapIdx.mp hcontext
  rw [← hadvance]
  rfl

/-- A reference that a rendering gets to. -/
structure Occurrence where
  name : String
  /-- How many references there are before it. -/
  position : Nat
  /-- What closures were used for until then. -/
  uses : Uses
  /-- What the reference comes to. -/
  text : String

/-- A text that is drawn from a closure. -/
structure Draw where
  generator : Generator
  /-- What closures were used for until then. -/
  uses : Uses
  text : String

namespace Uses

variable {uses more : Uses} {id : ClosureId}

@[simp] theorem times_append : times (uses ++ more) id = times uses id + times more id :=
  List.countP_append

theorem times_generated (id other : ClosureId) :
    times [.generated other] id = if other = id then 1 else 0 := by
  simp [times, Use.isOf, List.countP_singleton]

end Uses

namespace Draw

/-- The texts are drawn from the closure one after the other, and it was used
for nothing else from `uses` to `after`. -/
structure Between (id : ClosureId) (uses : Uses) (draws : List Draw) (after : Uses) : Prop where
  made : ∀ draw ∈ draws, draw.generator.id = id ∧ draw.text = draw.generator.text draw.uses
  counted : (draws.map fun draw => draw.uses.times id) = List.range' (uses.times id) draws.length
  times : after.times id = uses.times id + draws.length

variable {id : ClosureId} {uses after later : Uses} {draws more : List Draw}

theorem between_nil (h : after.times id = uses.times id) : Between id uses [] after :=
  ⟨fun _ hdraw => absurd hdraw List.not_mem_nil, rfl, h⟩

theorem Between.append (h : Between id uses draws after) (hmore : Between id after more later) :
    Between id uses (draws ++ more) later where
  made draw hdraw := (List.mem_append.mp hdraw).elim (h.made draw) (hmore.made draw)
  counted := by
    rw [List.map_append, h.counted, hmore.counted, h.times, List.length_append,
      List.range'_append_1]
  times := by rw [hmore.times, h.times, List.length_append, Nat.add_assoc]

theorem between_singleton {generator : Generator} (hid : generator.id = id)
    (h : after.times id = uses.times id + 1) :
    Between id uses [⟨generator, uses, generator.text uses⟩] after where
  made draw hdraw := by
    rw [List.mem_singleton.mp hdraw]
    exact ⟨hid, rfl⟩
  counted := rfl
  times := h

/-- What a closure gives if it counts how often it was used. -/
theorem Between.map_text (h : Between id uses draws after) {textAt : Nat → String}
    (hcounts : ∀ draw ∈ draws, ∀ u : Uses, draw.generator.text u = textAt (u.times id)) :
    draws.map Draw.text = (List.range' (uses.times id) draws.length).map textAt := by
  rw [← h.counted, List.map_map]
  refine List.map_congr_left fun draw hdraw => ?_
  rw [(h.made draw hdraw).2, hcounts draw hdraw]
  rfl

end Draw

namespace Lexicon

/-- The closure with that number, if the placeholder of the name draws its texts from it. -/
def generator? (lexicon : Lexicon) (id : ClosureId) (name : String) : Option Generator :=
  match (lexicon.get? name).map Placeholder.rule with
  | some (.generator closure) => if closure.id = id then some closure else none
  | _ => none

/-- The closure with that number, if a reference is left to it: nothing is bound
for the reference, and the lexicon has a placeholder of its name that draws its
texts from the closure. -/
def leavesTo? (lexicon : Lexicon) (binder : Binder) (id : ClosureId) (position : Nat)
    (name : String) : Option Generator :=
  if isBound binder position name then none else lexicon.generator? id name

variable {lexicon : Lexicon} {binder : Binder} {id : ClosureId} {position : Nat} {name : String}

theorem generator?_eq_some_iff {generator : Generator} :
    lexicon.generator? id name = some generator ↔
      generator.id = id ∧ ∃ spelt, lexicon.get? name = some ⟨spelt, .generator generator⟩ := by
  rw [generator?]
  cases lexicon.get? name with
  | none => simp
  | some p =>
    obtain ⟨spelt, rule⟩ := p
    cases rule with
    | generator closure =>
      simp only [Option.map_some, Option.ite_none_right_eq_some, Option.some.injEq,
        Placeholder.mk.injEq, Rule.generator.injEq]
      constructor
      · rintro ⟨hid, rfl⟩
        exact ⟨hid, spelt, rfl, rfl⟩
      · rintro ⟨hid, -, -, rfl⟩
        exact ⟨hid, rfl⟩
    | constant | typed | nullable => simp

/-- A reference uses a closure that takes nothing once, or not at all, and once
only if it is left to it. -/
theorem times_usesBy : (lexicon.usesBy binder position name).times id =
    if (lexicon.leavesTo? binder id position name).isSome then 1 else 0 := by
  cases hbound : isBound binder position name with
  | true => rw [usesBy_of_bound hbound, leavesTo?, if_pos hbound]; rfl
  | false =>
    rw [usesBy_of_unbound hbound, leavesTo?, hbound, if_neg Bool.false_ne_true, generator?]
    cases hp : lexicon.get? name with
    | none =>
      have hoffered : lexicon.offered? binder name = none := by rw [offered?, hp]; rfl
      rw [transforms?_of_none hoffered]
      rfl
    | some p =>
      obtain ⟨spelt, rule⟩ := p
      cases hshows : (Placeholder.mk spelt rule).shows? with
      | none =>
        have hoffered : lexicon.offered? binder name = none := by
          simp only [offered?, hp, hshows, Option.bind_eq_bind, Option.bind_some, Option.bind_none]
        rw [transforms?_of_none hoffered]
        cases rule with
        | constant text => rfl
        | generator closure =>
          refine (Uses.times_generated id closure.id).trans ?_
          simp only [Option.map_some]
          split <;> rfl
        | typed | nullable => cases hshows
      | some shows =>
        have hnone (closure : Generator) : rule ≠ .generator closure := by
          rintro rfl
          cases hshows
        cases htransforms : lexicon.transforms? binder name with
        | some found =>
          cases rule with
          | generator closure => exact absurd rfl (hnone closure)
          | constant | typed | nullable => rfl
        | none =>
          cases rule with
          | generator closure => exact absurd rfl (hnone closure)
          | constant | typed | nullable => rfl

end Lexicon

namespace Context

section Occurrences

variable (context : Context) (handler : Handler) (binder : Binder) (position : Nat)
  (tokens : Tokens)

/-- The tokens that a rendering gets to, each with the context that it finds and
with what it comes to: those up to the first on which the handler raises a remark. -/
def reached : List (Token × Context × Step) :=
  let steps := context.steps binder position tokens
  handler.reached (fun visit => visit.2.2.remarks)
    (tokens.zip ((context :: steps.map Step.context).zip steps))

/-- The references that a rendering gets to, in order. -/
def occurrences : List Occurrence :=
  let named := (context.reached handler binder position tokens).filterMap
    fun (token, found, step) => token.name?.map fun name => (name, found.uses, step.text)
  (named.zipIdx position).map fun ((name, uses, text), n) => ⟨name, n, uses, text⟩

/-- The texts that a rendering draws from the closure with that number: one for
each reference that it gets to and that is left to the closure. -/
def draws (id : ClosureId) : List Draw :=
  (context.occurrences handler binder position tokens).filterMap fun o =>
    (context.lexicon.leavesTo? binder id o.position o.name).map fun generator =>
      ⟨generator, o.uses, o.text⟩

end Occurrences

variable {context : Context} {handler : Handler} {binder : Binder} {position : Nat}
  {id : ClosureId}

/-! ## Reference by reference -/

theorem occurrences_literal (raw : String) (rest : Tokens) :
    context.occurrences handler binder position (.literal raw :: rest) =
      context.occurrences handler binder position rest := by
  simp only [occurrences, reached, steps, List.map_cons, List.zip_cons_cons, Handler.reached_cons,
    Handler.passes_nil, if_true, Remark.diagnostics_nil, Handler.after_nil, List.filterMap_cons,
    Token.name?_literal, Option.map_none]

theorem occurrences_placeholder (raw name : String) (rest : Tokens) :
    context.occurrences handler binder position (.placeholder raw name :: rest) =
      let step := context.stepOn binder position name
      ⟨name, position, context.uses, step.text⟩ ::
        if handler.passes step.remarks then
          step.context.occurrences (handler.after (Remark.diagnostics step.remarks)) binder
            (position + 1) rest
        else [] := by
  simp only [occurrences, reached, steps_placeholder, List.map_cons, List.zip_cons_cons,
    Handler.reached_cons, List.filterMap_cons, Token.name?_placeholder, Option.map_some,
    List.zipIdx_cons]
  split <;> rfl

theorem draws_literal (raw : String) (rest : Tokens) :
    context.draws handler binder position (.literal raw :: rest) id =
      context.draws handler binder position rest id := by
  rw [draws, occurrences_literal, draws]

theorem draws_placeholder (raw name : String) (rest : Tokens) :
    context.draws handler binder position (.placeholder raw name :: rest) id =
      let step := context.stepOn binder position name
      ((context.lexicon.leavesTo? binder id position name).map fun generator =>
          (⟨generator, context.uses, step.text⟩ : Draw)).toList ++
        if handler.passes step.remarks then
          step.context.draws (handler.after (Remark.diagnostics step.remarks)) binder
            (position + 1) rest id
        else [] := by
  have hlexicon : (context.stepOn binder position name).context.lexicon = context.lexicon := by
    rw [context_stepOn]
    rfl
  rw [draws, occurrences_placeholder, List.filterMap_cons]
  simp only [draws, hlexicon]
  cases context.lexicon.leavesTo? binder id position name
  all_goals cases handler.passes (context.stepOn binder position name).remarks
  all_goals rfl

/-- A reference that is left to a closure draws a text from it, and no handler stops it. -/
theorem stepOn_of_leavesTo? {name : String} {generator : Generator}
    (h : context.lexicon.leavesTo? binder id position name = some generator) :
    let step := context.stepOn binder position name
    generator.id = id ∧ step.text = generator.text context.uses ∧
      Remark.diagnostics step.remarks = [] := by
  cases hbound : Lexicon.isBound binder position name with
  | true =>
    rw [Lexicon.leavesTo?, if_pos hbound] at h
    cases h
  | false =>
    rw [Lexicon.leavesTo?, hbound, if_neg Bool.false_ne_true, Lexicon.generator?_eq_some_iff] at h
    obtain ⟨hid, spelt, hp⟩ := h
    have hfollows := context.follows_resolve binder position name
    have hoffered : context.lexicon.offered? binder name = none := by
      rw [Lexicon.offered?, hp]
      rfl
    have hrule : context.ruleText? binder position name = some (generator.text context.uses) := by
      rw [ruleText?_of_unbound hbound, ofType?, Lexicon.transforms?_of_none hoffered, hp]
      rfl
    refine ⟨hid, hfollows.text.trans ?_, hfollows.reports.trans ?_⟩
    · rw [hrule]
      rfl
    · rw [reportsAt, hbound, Lexicon.mismatch?_of_none hoffered, hrule]
      rfl

/-- The closure of a draw is that of a placeholder in the lexicon. -/
theorem generator_of_mem_draws {tokens : Tokens} {draw : Draw}
    (h : draw ∈ context.draws handler binder position tokens id) :
    draw.generator.id = id ∧
      ∃ name spelt, context.lexicon.get? name = some ⟨spelt, .generator draw.generator⟩ := by
  obtain ⟨o, -, ho⟩ := List.mem_filterMap.mp h
  obtain ⟨generator, hleft, rfl⟩ := Option.map_eq_some_iff.mp ho
  rw [Lexicon.leavesTo?] at hleft
  split at hleft
  · cases hleft
  · obtain ⟨hid, hget⟩ := Lexicon.generator?_eq_some_iff.mp hleft
    exact ⟨hid, o.name, hget⟩

theorem passes_of_diagnostics {remarks : List Remark} (h : Remark.diagnostics remarks = []) :
    handler.passes remarks = true := by
  have haccepts : handler.Accepts (Remark.diagnostics remarks) := by
    rw [h]
    exact Handler.accepts_nil
  rw [Handler.passes, (Handler.judge_of_accepts haccepts).1]
  rfl

/-- The references left to a closure that a rendering gets to draw on it one
after the other, and the rendering does not use it otherwise, whether or not it
is broken off. -/
theorem between_draws (context : Context) (handler : Handler) (binder : Binder) (position : Nat)
    (tokens : Tokens) (id : ClosureId) :
    Draw.Between id context.uses (context.draws handler binder position tokens id)
      (conclude handler context (context.steps binder position tokens)).context.uses := by
  induction tokens generalizing context handler position with
  | nil => exact Draw.between_nil rfl
  | cons token rest ih =>
    cases token with
    | literal raw =>
      rw [draws_literal, steps, context_conclude_cons]
      exact ih context handler position
    | placeholder raw name =>
      rw [draws_placeholder, steps_placeholder, context_conclude_cons]
      have htimes : (context.stepOn binder position name).context.uses.times id = _ :=
        (congrArg (·.uses.times id) (context.context_stepOn binder position name)).trans
          Uses.times_append
      rw [Lexicon.times_usesBy] at htimes
      cases hleft : context.lexicon.leavesTo? binder id position name with
      | some generator =>
        obtain ⟨hid, htext, hquiet⟩ := stepOn_of_leavesTo? hleft
        have hpasses : handler.passes (context.stepOn binder position name).remarks :=
          passes_of_diagnostics hquiet
        rw [hleft] at htimes
        simp only [htext, hpasses, if_true, Option.map_some, Option.toList_some]
        exact (Draw.between_singleton hid htimes).append (ih _ _ (position + 1))
      | none =>
        rw [hleft] at htimes
        simp only [Option.map_none, Option.toList_none, List.nil_append]
        split
        · exact (Draw.between_nil htimes).append (ih _ _ (position + 1))
        · exact Draw.between_nil rfl

end Context

end Phrasebook

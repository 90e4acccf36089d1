import Phrasebook.Proofs.Binder.Families
import Phrasebook.Proofs.Rendering.Following

/-!
# Values reach placeholders by their family

A placeholder that transforms a type is handed what is in the slot of its
family, and what a reference then comes to depends on that value and its type
alone (`Placeholder.receives`). A value bound for a type, in whichever way,
reaches the placeholder exactly if it was written for the placeholder's family
and is still in the slot (`render_of_written`).
-/

namespace Phrasebook

/-- What a reference comes to, the reports on it, and the uses of closures that it takes. -/
structure Reception where
  text : String
  reports : List Diagnostic
  uses : Uses

namespace Placeholder

/-- What a reference to `name` comes to after those uses of closures, if its
placeholder transforms `type` with the closure and is handed the value. -/
def receives (p : Placeholder) (uses : Uses) (name : String) (type : TypeName)
    (closure : Transform) (handed : Option Value) : Reception :=
  let missing : Reception :=
    match p.textAfter? uses with
    | some text => ⟨text, [], p.usesForNothing⟩
    | none => ⟨"", [.unbound name], p.usesForNothing⟩
  match handed with
  | none => missing
  | some value =>
    if value.typeName = type then
      ⟨closure.text uses (some value.datum), [], [.transformed closure.id (some value.datum)]⟩
    else { missing with
      reports := .mismatch name type.text value.typeName.text :: missing.reports }

end Placeholder

namespace Lexicon

theorem offered?_of_shows? {lexicon : Lexicon} {binder : Binder} {name : String} {p : Placeholder}
    {accepts : TypeKey} {closure : Transform} (hp : lexicon.get? name = some p)
    (hshows : p.shows? = some (accepts, closure)) :
    lexicon.offered? binder name =
      (binder.at? (.type accepts.topmost)).map fun value => (accepts, closure, value) := by
  simp only [offered?, hp, hshows, Option.bind_eq_bind, Option.bind_some, Binder.value?_type]
  cases binder.at? (.type accepts.topmost) <;> rfl

end Lexicon

namespace Context

open Lexicon (isBound offered?_of_shows?)

variable {context : Context} {binder : Binder} {position : Nat} {name : String} {p : Placeholder}
  {accepts : TypeKey} {closure : Transform}

/-- A reference for which nothing is bound comes to what its placeholder makes
of the value in the slot of its family. -/
theorem receives_of_unbound (hp : context.lexicon.get? name = some p)
    (hshows : p.shows? = some (accepts, closure))
    (hbound : isBound binder position name = false) :
    (⟨(context.ruleText? binder position name).getD "", context.reportsAt binder position name,
        context.lexicon.usesBy binder position name⟩ : Reception) =
      p.receives context.uses name accepts.name closure (binder.at? (.type accepts.topmost)) := by
  have hoffered : context.lexicon.offered? binder name = _ := offered?_of_shows? hp hshows
  have hrule : context.ruleText? binder position name = _ := ruleText?_of_unbound hbound
  have huses : context.lexicon.usesBy binder position name = _ := Lexicon.usesBy_of_unbound hbound
  rw [hp, Option.bind_some, ofType?] at hrule
  rw [hp, Option.elim_some] at huses
  simp only [reportsAt, hbound, Placeholder.receives]
  cases hvalue : binder.at? (.type accepts.topmost) with
  | none =>
    rw [hvalue, Option.map_none] at hoffered
    rw [Lexicon.transforms?_of_none hoffered] at hrule huses
    rw [hrule, huses, Lexicon.mismatch?_of_none hoffered]
    cases p.textAfter? context.uses <;> simp
  | some value =>
    rw [hvalue, Option.map_some] at hoffered
    rw [Lexicon.transforms?_of_offered hoffered] at hrule huses
    rw [Lexicon.mismatch?_of_offered hoffered]
    by_cases htype : value.typeName = accepts.name
    · rw [if_pos htype] at hrule huses
      rw [hrule, huses]
      simp only [if_pos htype]
      rfl
    · rw [if_neg htype] at hrule huses
      rw [hrule, huses]
      simp only [if_neg htype]
      cases p.textAfter? context.uses <;> simp

/-- The step of a token in the middle of a message. -/
theorem step_of_append (context : Context) (binder : Binder) (before rest : Tokens)
    (token : Token) :
    ((context.steps binder 0 (before ++ token :: rest))[before.length]?.map fun step =>
        (step.text, Remark.diagnostics step.remarks, step.context)) =
      some (context.textOf binder before token, context.reportsOn binder before token,
        context.advance binder (before ++ [token])) := by
  obtain ⟨htexts, hreports, hcontexts⟩ := context.steps_eq_rules binder (before ++ token :: rest)
  have hat : (before ++ token :: rest)[before.length]? = some token := by
    rw [List.getElem?_append_right (Nat.le_refl _), Nat.sub_self, List.getElem?_cons_zero]
  have htext := congrArg (·[before.length]?) htexts
  have hreport := congrArg (·[before.length]?) hreports
  have hcontext := congrArg (·[before.length]?) hcontexts
  simp only [List.getElem?_map, List.getElem?_mapIdx, hat, List.take_left, Option.map_some]
    at htext hreport hcontext
  cases hstep : (context.steps binder 0 (before ++ token :: rest))[before.length]? with
  | none =>
    rw [hstep] at htext
    cases htext
  | some step =>
    rw [hstep, Option.map_some, Option.some.injEq] at htext hreport hcontext
    rw [Option.map_some, htext, hreport, hcontext]

/-- A value written for a type is handed to the placeholders of the family for
which it was written, as long as no later operation is on that family, and to
no others; a reference for which nothing is bound comes to what its placeholder
makes of the value handed to it: the text of a value of the type that it
transforms, and for one of another type a report and what there is for no value. -/
theorem render_of_written {context : Context} {name : String} {p : Placeholder}
    {type root : TypeName} {closure : Transform} (hp : context.lexicon.get? name = some p)
    (hshows : p.shows? = some ((TypeKey.of type).under root, closure)) (binder : Binder)
    (write : Binder.TypeWrite) (after : List Binder.Operation) {handler : Handler}
    (accepting : handler.Accepting) (content : String) (before rest : Tokens)
    (raw : String)
    (hbound : isBound ((binder.perform write.operation).2.run after) before.names.length name =
      false) :
    let written := (binder.perform write.operation).2.run after
    let handed :=
      if write.root = root ∧ ∀ op ∈ after, op.leaves? root = none then some write.value
      else (binder.run after).at? (.type root)
    let tokens := before ++ .placeholder raw name :: rest
    let steps := context.steps written 0 tokens
    let now := context.advance written before
    let received := p.receives now.uses name type closure handed
    let outcome := context.render handler written content tokens
    context.lexicon.offered? written name =
        handed.map (fun value => ((TypeKey.of type).under root, closure, value)) ∧
      (steps[before.length]?.map fun step =>
          (step.text, Remark.diagnostics step.remarks, step.context)) =
        some (received.text, received.reports, now.after received.uses) ∧
      outcome.result = .ok (String.join (steps.map Step.text)) ∧
      outcome.journal.diagnostics =
        (steps.map fun step => Remark.diagnostics step.remarks).flatten := by
  intro written handed tokens steps now received outcome
  have hhanded : written.at? (.type ((TypeKey.of type).under root).topmost) = handed := by
    rw [TypeKey.topmost_under]
    exact binder.at?_written write after root
  have houtcome : outcome = conclude handler context steps := by
    have hsome : tokens ≠ [] := List.append_ne_nil_of_right_ne_nil _ (List.cons_ne_nil _ _)
    exact if_neg (mt List.isEmpty_iff.mp hsome)
  have hreceived : (⟨(now.ruleText? written before.names.length name).getD "",
      now.reportsAt written before.names.length name,
      now.lexicon.usesBy written before.names.length name⟩ : Reception) = received := by
    have hnow : now.lexicon.get? name = some p := hp
    rw [receives_of_unbound hnow hshows hbound, hhanded]
    rfl
  refine ⟨?_, ?_, ?_, ?_⟩
  · rw [offered?_of_shows? hp hshows, hhanded]
  · rw [step_of_append, advance_placeholder, ← hreceived]
    rfl
  · rw [houtcome]
    exact result_conclude_of_accepting accepting context steps
  · rw [houtcome]
    exact diagnostics_conclude_of_accepting accepting context steps

/-- An integer is written for the family of the placeholder, by a chain of
declarations of which the last counts, and what is done for the types of the
integer and of the placeholder on their own does not change that. -/
theorem render_of_written_of_chain :
    let person : TypeName := ⟨"Person"⟩
    let p : Placeholder := .nullable "who" ((TypeKey.of .string).under person)
      (.steady ⟨0⟩ fun given => (given.bind Datum.text?).getD "nobody")
    let context : Context := ⟨(Lexicon.empty true).set p, []⟩
    let write : Binder.TypeWrite := .key .integer [.boolean, person] (.displayed (.integer 7))
    let after : List Binder.Operation :=
      [.bindType (.string "Ada"), .unbind (.type (.of .integer))]
    let written := ((Binder.empty true).perform write.operation).2.run after
    let tokens : Tokens := [.literal "Hi ", .placeholder "{who}" "who", .literal "!"]
    let outcome := context.render (.collecting "all") written "" tokens
    (context.lexicon.offered? written "who").map (fun offer => offer.2.2.typeName) =
        some .integer ∧
      outcome.result = .ok "Hi nobody!" ∧
      outcome.journal.diagnostics = [.mismatch "who" "alloc::string::String" "i64"] := by
  intro person p context write after written tokens outcome
  have hp : context.lexicon.get? "who" = some p := by
    rw [Lexicon.get?_set]
    exact if_pos rfl
  obtain ⟨hoffered, -, hresult, hreports⟩ := render_of_written hp rfl (Binder.empty true) write after
    (Handler.accepting_collecting "all") "" [.literal "Hi "] [.literal "!"] "{who}" (by decide +kernel)
  refine ⟨?_, hresult.trans ?_, hreports.trans ?_⟩
  · rw [hoffered]
    rfl
  · refine congrArg Except.ok ?_
    decide +kernel
  · decide +kernel

end Context

end Phrasebook

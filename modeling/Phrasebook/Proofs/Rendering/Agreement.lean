import Phrasebook.Lexer.Delimiters
import Phrasebook.Proofs.Rendering.Families
import Phrasebook.Proofs.Rendering.Spelling

/-!
# Checking and rendering agree

Checking asks the lexicon whether it has a name; rendering asks the binder for
the position and the name of a reference, then the lexicon for a placeholder,
then the binder for the type that this one transforms. `ReportsAgree` says how
what they report on one reference goes together. It holds of the references of
a message one by one (`Profile.render_agrees`), also of those that share a name
and differ in their positions.
-/

namespace Phrasebook

/-- The value that is given for the family of a type has the type itself. -/
def Binder.Supplies (binder : Binder) (accepts : TypeKey) : Prop :=
  ∃ value, binder.value? (.type accepts) = some value ∧ value.typeName = accepts.name

namespace Placeholder

variable {p : Placeholder}

/-- A placeholder that needs no value has a text for none. -/
theorem isNullable_of_isStatic (h : p.isStatic = true) : p.isNullable = true := by
  obtain ⟨name, rule⟩ := p
  cases rule with
  | constant | generator => rfl
  | typed | nullable => cases h

theorem exists_shows?_of_not_isNullable (h : p.isNullable = false) :
    ∃ rule, p.shows? = some rule := by
  obtain ⟨name, rule⟩ := p
  cases rule with
  | typed accepts text => exact ⟨(accepts, text), rfl⟩
  | constant | generator | nullable => cases h

/-- Which placeholders have a text for no value does not depend on the uses of closures. -/
theorem textAfter?_eq_none_iff (uses : Uses) : p.textAfter? uses = none ↔ p.isNullable = false := by
  obtain ⟨name, rule⟩ := p
  cases rule <;> simp [textAfter?, isNullable]

end Placeholder

namespace Lexicon

/-- How the kinds of the reports on a reference, those of checking and those of
rendering together, go with what the lexicon has under its name. -/
structure ReportsAgree (lexicon : Lexicon) (binder : Binder) (position : Nat) (name : String)
    (kinds : List Diagnostic.Kind) : Prop where
  known : .unknownPlaceholder ∈ kinds ↔ lexicon.get? name = none
  /-- A placeholder that has a text for no value leaves no reference without one. -/
  nullable : ∀ p, lexicon.get? name = some p → p.isStatic = true ∨ p.isNullable = true →
    .unknownPlaceholder ∉ kinds ∧ .unboundPlaceholder ∉ kinds
  /-- A name that is not known has nothing but the values for the reference itself. -/
  unknown : .unknownPlaceholder ∈ kinds →
    (.unboundPlaceholder ∈ kinds ↔
      binder.value? (.position position) = none ∧ binder.value? (.name name) = none) ∧
    .typeMismatch ∉ kinds
  /-- Any other placeholder needs a value of the type that it transforms. -/
  typed : ∀ p, lexicon.get? name = some p → p.isStatic = false → p.isNullable = false →
    .unknownPlaceholder ∉ kinds ∧ ∃ accepts, p.accepts? = some accepts ∧
      (.unboundPlaceholder ∈ kinds ↔
        (binder.value? (.position position) = none ∧ binder.value? (.name name) = none) ∧
          ¬ binder.Supplies accepts)

variable {lexicon : Lexicon} {binder : Binder} {name : String}

theorem map_kind_unknownNames (raw name : String) :
    (lexicon.unknownNames [.placeholder raw name]).map Diagnostic.kind =
      if lexicon.get? name = none then [.unknownPlaceholder] else [] := by
  rw [unknownNames_placeholder, has]
  cases lexicon.get? name <;> rfl

theorem kind_mismatch? : (lexicon.mismatch? binder name).toList.map Diagnostic.kind =
    if lexicon.mismatch? binder name = none then [] else [.typeMismatch] := by
  cases hoffered : lexicon.offered? binder name with
  | none => rw [mismatch?_of_none hoffered]; rfl
  | some offer =>
    obtain ⟨accepts, closure, value⟩ := offer
    rw [mismatch?_of_offered hoffered]
    by_cases htype : value.typeName = accepts.name
    · simp only [if_pos htype]; rfl
    · simp only [if_neg htype]; rfl

theorem offered?_of_get?_eq_none (h : lexicon.get? name = none) :
    lexicon.offered? binder name = none := by
  rw [offered?, h]
  rfl

theorem transforms?_eq_none_iff {p : Placeholder} {accepts : TypeKey} {closure : Transform}
    (hp : lexicon.get? name = some p) (hshows : p.shows? = some (accepts, closure)) :
    lexicon.transforms? binder name = none ↔ ¬ binder.Supplies accepts := by
  have hoffered : lexicon.offered? binder name = _ := offered?_of_shows? hp hshows
  rw [Binder.Supplies, Binder.value?_type]
  cases hvalue : binder.at? (.type accepts.topmost) with
  | none =>
    rw [hvalue, Option.map_none] at hoffered
    simp [transforms?_of_none hoffered]
  | some value =>
    rw [hvalue, Option.map_some] at hoffered
    simp [transforms?_of_offered hoffered]

end Lexicon

namespace Context

open Lexicon (isBound mismatch?_of_none transforms?_of_none)

variable {context : Context} {binder : Binder} {position : Nat} {name : String}

theorem map_kind_reportsAt :
    (context.reportsAt binder position name).map Diagnostic.kind =
      (if isBound binder position name ∨ context.lexicon.mismatch? binder name = none then []
        else [.typeMismatch]) ++
      if context.ruleText? binder position name = none then [.unboundPlaceholder] else [] := by
  rw [reportsAt, List.map_append]
  congr 1
  · by_cases hbound : isBound binder position name
    · simp only [hbound, if_true, true_or, List.map_nil]
    · simp only [hbound, false_or, Bool.false_eq_true, if_false, Lexicon.kind_mismatch?]
  · by_cases htext : context.ruleText? binder position name = none
    · simp only [htext, if_true]; rfl
    · simp only [htext, if_false]; rfl

/-! ## When a reference has no text -/

/-- A value bound for a reference itself always gives a text. -/
theorem ruleText?_of_isBound (h : isBound binder position name = true) :
    context.ruleText? binder position name ≠ none := by
  cases hindex : binder.value? (.position position) with
  | some value => simp [ruleText?_of_index hindex]
  | none =>
    cases hname : binder.value? (.name name) with
    | some value => simp [ruleText?_of_name hindex hname]
    | none => simp [isBound, hindex, hname] at h

theorem ruleText?_eq_none_iff :
    context.ruleText? binder position name = none ↔
      isBound binder position name = false ∧ context.lexicon.transforms? binder name = none ∧
        ∀ p, context.lexicon.get? name = some p → p.isNullable = false := by
  cases hbound : isBound binder position name with
  | true => simp [ruleText?_of_isBound hbound]
  | false =>
    rw [ruleText?_of_unbound hbound, ofType?]
    cases context.lexicon.transforms? binder name with
    | some found => simp
    | none =>
      cases context.lexicon.get? name with
      | none => simp
      | some p => simp [Placeholder.textAfter?_eq_none_iff]

/-- Checking and rendering agree on a reference. -/
theorem reportsAgree (context : Context) (binder : Binder) (position : Nat) (name raw : String) :
    context.lexicon.ReportsAgree binder position name
      ((context.lexicon.unknownNames [.placeholder raw name] ++
        context.reportsAt binder position name).map Diagnostic.kind) := by
  rw [List.map_append, Lexicon.map_kind_unknownNames, map_kind_reportsAt]
  -- Each kind of report is made in one place, so its condition can be read off.
  generalize hkinds : (_ ++ (_ ++ _) : List Diagnostic.Kind) = kinds
  have hunknown : .unknownPlaceholder ∈ kinds ↔ context.lexicon.get? name = none := by
    simp [← hkinds]
  have hunbound : .unboundPlaceholder ∈ kinds ↔ context.ruleText? binder position name = none := by
    simp [← hkinds]
  have hmismatch : .typeMismatch ∈ kinds → context.lexicon.mismatch? binder name ≠ none := by
    simp [← hkinds]
  rw [ruleText?_eq_none_iff, Lexicon.isBound_eq_false_iff] at hunbound
  refine ⟨hunknown, fun p hp hnullable => ?_, fun hmem => ?_, fun p hp _ hnullable => ?_⟩
  · have htext : p.isNullable = true := hnullable.elim Placeholder.isNullable_of_isStatic id
    refine ⟨by simp [hunknown, hp], fun hmem => ?_⟩
    have hnone := (hunbound.mp hmem).2.2 p hp
    rw [htext] at hnone
    cases hnone
  · have hget := hunknown.mp hmem
    have hoffered : context.lexicon.offered? binder name = none :=
      Lexicon.offered?_of_get?_eq_none hget
    refine ⟨?_, fun hmem => hmismatch hmem (mismatch?_of_none hoffered)⟩
    rw [hunbound]
    simp [transforms?_of_none hoffered, hget]
  · obtain ⟨⟨accepts, closure⟩, hshows⟩ := Placeholder.exists_shows?_of_not_isNullable hnullable
    refine ⟨by simp [hunknown, hp], accepts, by rw [p.accepts?_eq, hshows]; rfl, ?_⟩
    rw [hunbound, Lexicon.transforms?_eq_none_iff hp hshows]
    simp [hp, hnullable]

end Context

namespace Profile

variable {profile : Profile} {context : Context} {handler : Handler} {binder : Binder}

/-- A handler that raises nothing is given the reports of checking on all
tokens and then those of rendering. -/
theorem diagnostics_render_of_accepting (accepting : handler.Accepting) (content : String) :
    let tokens := profile.lexer.tokenize content
    (profile.render .standard context handler binder content).journal.diagnostics =
      (context.lexicon.checks tokens).flatten ++ (context.reports binder tokens).flatten := by
  intro tokens
  obtain ⟨-, -, hgiven⟩ := (profile.judged_render context binder content
    Methods.nameCheck_standard Methods.rendition_standard handler).of_accepts (accepting.accepts _)
  rw [hgiven, Remark.diagnostics_append, diagnostics_parseRemarks, Context.renderRemarks,
    Lexicon.flatten_checks, Context.flatten_reports]

end Profile

section Tokens

variable (context : Context) (binder : Binder) (before after : Tokens) (token : Token)

/-- The reports of checking on a token in the middle of a message. -/
theorem Lexicon.getElem?_checks (lexicon : Lexicon) :
    (lexicon.checks (before ++ token :: after))[before.length]? =
      some (lexicon.unknownNames [token]) := by
  rw [checks, List.getElem?_map, List.getElem?_append_right (Nat.le_refl _), Nat.sub_self,
    List.getElem?_cons_zero]
  rfl

/-- The reports of rendering on a token in the middle of a message. -/
theorem Context.getElem?_reports :
    (context.reports binder (before ++ token :: after))[before.length]? =
      some (context.reportsOn binder before token) := by
  have hstep := congrArg (Option.map fun step => step.2.1)
    (context.step_of_append binder before after token)
  rw [Option.map_map] at hstep
  rw [reports, List.getElem?_map]
  exact hstep

end Tokens

/-- A handler that raises nothing is given the reports of checking and then
those of rendering, token by token, and these agree on each reference to a
placeholder. -/
theorem Profile.render_agrees (profile : Profile) (context : Context) (handler : Handler)
    (accepting : handler.Accepting) (binder : Binder) (content : String) :
    let tokens := profile.lexer.tokenize content
    (profile.render .standard context handler binder content).journal.diagnostics =
        (context.lexicon.checks tokens).flatten ++ (context.reports binder tokens).flatten ∧
      ∀ (before : Tokens) raw name after, tokens = before ++ .placeholder raw name :: after →
        ∃ checked rendered, (context.lexicon.checks tokens)[before.length]? = some checked ∧
          (context.reports binder tokens)[before.length]? = some rendered ∧
          context.lexicon.ReportsAgree binder before.names.length name
            ((checked ++ rendered).map Diagnostic.kind) := by
  intro tokens
  refine ⟨diagnostics_render_of_accepting accepting content, ?_⟩
  intro before raw name after htokens
  rw [htokens]
  -- Rendering the tokens before leaves the lexicon as it is.
  have hagree := (context.advance binder before).reportsAgree binder before.names.length name raw
  exact ⟨_, _, context.lexicon.getElem?_checks before after _,
    context.getElem?_reports binder before after _, hagree⟩

/-- A number where text is needed, and an unknown name of which only the first
reference has a value. -/
theorem Profile.render_agrees_of_repeated :
    let profile : Profile := ⟨⟨0⟩, "English", "en", ⟨0⟩, Delimiters.braces.lexer⟩
    let lexicon := (Lexicon.empty false).set (.display ⟨0⟩ "k" .string)
    let binder := ((Binder.empty false).insert (.type .string) (.sealed (.integer 7))).insert
      (.index 1) (.displayed (.integer 5))
    (profile.render .standard ⟨lexicon, []⟩ (.collecting "all") binder
        "\x7bk\x7d\x7bz\x7d-\x7bz\x7d").journal.diagnostics =
      [.unknown "z" none, .unknown "z" none, .mismatch "k" "alloc::string::String" "i64",
        .unbound "k", .unbound "z"] ∧
      lexicon.ReportsAgree binder 0 "k" [.typeMismatch, .unboundPlaceholder] ∧
      lexicon.ReportsAgree binder 1 "z" [.unknownPlaceholder] ∧
      lexicon.ReportsAgree binder 2 "z" [.unknownPlaceholder, .unboundPlaceholder] := by
  intro profile lexicon binder
  let context : Context := ⟨lexicon, []⟩
  let k : Token := .placeholder "\x7bk\x7d" "k"
  let z : Token := .placeholder "\x7bz\x7d" "z"
  have htokens : profile.lexer.tokenize "\x7bk\x7d\x7bz\x7d-\x7bz\x7d" =
      [k, z, .literal "-", z] := by
    decide +kernel
  have hchecks : lexicon.checks [k, z, .literal "-", z] =
      [[], [.unknown "z" none], [], [.unknown "z" none]] := by
    decide +kernel
  have hreports : context.reports binder [k, z, .literal "-", z] =
      [[.mismatch "k" "alloc::string::String" "i64", .unbound "k"], [], [], [.unbound "z"]] := by
    decide +kernel
  have hagrees := profile.render_agrees context (.collecting "all")
    (Handler.accepting_collecting "all") binder "\x7bk\x7d\x7bz\x7d-\x7bz\x7d"
  simp only [context, htokens, hchecks, hreports] at hagrees
  obtain ⟨hgiven, hagree⟩ := hagrees
  refine ⟨hgiven, ?_, ?_, ?_⟩
  · obtain ⟨_, _, ⟨⟩, ⟨⟩, h⟩ := hagree [] _ _ _ rfl
    exact h
  · obtain ⟨_, _, ⟨⟩, ⟨⟩, h⟩ := hagree [k] _ _ _ rfl
    exact h
  · obtain ⟨_, _, ⟨⟩, ⟨⟩, h⟩ := hagree [k, z, .literal "-"] _ _ _ rfl
    exact h

end Phrasebook

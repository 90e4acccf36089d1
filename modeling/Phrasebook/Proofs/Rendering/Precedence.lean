import Phrasebook.Processing
import Phrasebook.Proofs.Rendering.Following

/-!
# Only the binding that takes precedence matters

Of all that two binders hold, a reference reads the value at its position, or
else that of its name, or else that of the family that its placeholder accepts.
If they agree on it (`Lexicon.Agree`) the reference comes to the same with both
and uses the same closures for the same (`resolve_congr`), and so do all the
tokens of a message (`steps_congr`).
-/

namespace Phrasebook

namespace Lexicon

/-- The type that the placeholder of a name transforms, with its family. -/
def accepts? (lexicon : Lexicon) (name : String) : Option TypeKey :=
  (lexicon.get? name).bind Placeholder.accepts?

/-- Two binders give the same for a reference: values at its position that
render the same, or else values of its name that do, or else the same value, if
any, of the family that its placeholder accepts. -/
inductive Agree (lexicon : Lexicon) (a b : Binder) (position : Nat) (name : String) : Prop
  | byIndex {v w : Value} (left : a.value? (.position position) = some v)
      (right : b.value? (.position position) = some w) (same : v.render = w.render)
  | byName {v w : Value} (left : a.value? (.position position) = none)
      (right : b.value? (.position position) = none) (leftName : a.value? (.name name) = some v)
      (rightName : b.value? (.name name) = some w) (same : v.render = w.render)
  | byType (left : a.value? (.position position) = none)
      (right : b.value? (.position position) = none) (leftName : a.value? (.name name) = none)
      (rightName : b.value? (.name name) = none)
      (same : ∀ accepts, lexicon.accepts? name = some accepts →
        a.value? (.type accepts) = b.value? (.type accepts))

/-- A reference looks for a value under the key. -/
inductive Consults (lexicon : Lexicon) (binder : Binder) (position : Nat) (name : String) :
    Key → Prop
  | index : Consults lexicon binder position name (.index position)
  | name (unplaced : binder.value? (.position position) = none) :
      Consults lexicon binder position name (binder.nameKey name)
  | type {accepts : TypeKey} (unplaced : binder.value? (.position position) = none)
      (unnamed : binder.value? (.name name) = none) (found : lexicon.accepts? name = some accepts) :
      Consults lexicon binder position name (.type accepts.topmost)

variable {lexicon : Lexicon} {a b : Binder} {position : Nat} {name : String}

/-- Binders that hold the same under the keys that a reference looks under agree on it. -/
theorem agree_of_consults (hcase : a.caseSensitive = b.caseSensitive)
    (h : ∀ key, lexicon.Consults a position name key → a.at? key = b.at? key) :
    lexicon.Agree a b position name := by
  have hindex : a.value? (.position position) = b.value? (.position position) :=
    h _ .index
  cases hplaced : a.value? (.position position) with
  | some value => exact .byIndex hplaced (hindex ▸ hplaced) rfl
  | none =>
    have hname : a.value? (.name name) = b.value? (.name name) := by
      rw [Binder.value?_name, Binder.value?_name, h _ (.name hplaced), Binder.nameKey, hcase]
      rfl
    cases hnamed : a.value? (.name name) with
    | some value => exact .byName hplaced (hindex ▸ hplaced) hnamed (hname ▸ hnamed) rfl
    | none =>
      refine .byType hplaced (hindex ▸ hplaced) hnamed (hname ▸ hnamed) fun accepts found => ?_
      exact h _ (.type hplaced hnamed found)

end Lexicon

namespace Context

open Lexicon (Agree accepts?)

/-! ## Two binders, one outcome -/

variable {context : Context} {a b : Binder} {position : Nat} {name : String}

theorem resolve_congr (h : context.lexicon.Agree a b position name) :
    context.resolve a position name = context.resolve b position name := by
  simp only [resolve, ← Binder.value?_position, ← Binder.value?_name]
  cases h with
  | byIndex left right same => simp only [left, right, same]
  | byName left right leftName rightName same =>
    simp only [left, right, leftName, rightName, same]
  | byType left right leftName rightName same =>
    rw [left, right, leftName, rightName]
    cases hp : context.lexicon.get? name with
    | none => rfl
    | some p =>
      simp only [resolvePlaceholder]
      cases haccepts : p.accepts? with
      | none => rfl
      | some accepts =>
        have hsame := same accepts (by rw [accepts?, hp]; exact haccepts)
        rw [Binder.value?_type, Binder.value?_type] at hsame
        simp only [hsame]

theorem steps_congr {tokens : Tokens}
    (h : ∀ reference ∈ tokens.names.zipIdx position,
      context.lexicon.Agree a b reference.2 reference.1) :
    context.steps a position tokens = context.steps b position tokens := by
  induction tokens generalizing context position with
  | nil => rfl
  | cons token rest ih =>
    cases token with
    | literal raw => rw [steps, steps, ih h]
    | placeholder raw name =>
      have hfirst : context.lexicon.Agree a b position name := h (name, position) List.mem_cons_self
      have hstep : context.stepOn a position name = context.stepOn b position name := by
        rw [stepOn, resolve_congr hfirst, stepOn]
      rw [steps_placeholder, steps_placeholder, hstep]
      refine congrArg _ (ih fun reference hmem => ?_)
      rw [context_stepOn]
      exact h reference (List.mem_cons_of_mem _ hmem)

end Context

open Lexicon Context

theorem Profile.transform_congr_of_steps {profile : Profile} {methods : Methods}
    (hrendition : methods.rendition = .resolved) {context : Context} {a b : Binder} {tokens : Tokens}
    (h : context.steps a 0 tokens = context.steps b 0 tokens) (handler : Handler)
    (content : String) :
    profile.transform methods context handler a content tokens =
      profile.transform methods context handler b content tokens := by
  simp only [transform, hrendition, Context.render, h]

/-- Two binders that agree on each reference of a message give the same
outcome: result, context and journal, whatever the handler. So entries under
keys that no reference looks under do not matter, nor does the highest position. -/
theorem Profile.transform_congr (profile : Profile) {methods : Methods}
    (hrendition : methods.rendition = .resolved) (context : Context) (handler : Handler)
    (content : String) (tokens : Tokens) (a b : Binder) :
    ((∀ reference ∈ tokens.names.zipIdx, context.lexicon.Agree a b reference.2 reference.1) →
      profile.transform methods context handler a content tokens =
        profile.transform methods context handler b content tokens) ∧
    (a.caseSensitive = b.caseSensitive →
      (∀ reference ∈ tokens.names.zipIdx, ∀ key,
        context.lexicon.Consults a reference.2 reference.1 key → a.at? key = b.at? key) →
      profile.transform methods context handler a content tokens =
        profile.transform methods context handler b content tokens) :=
  ⟨fun hagree => transform_congr_of_steps hrendition (steps_congr hagree) handler content,
    fun hcase hsame => transform_congr_of_steps hrendition (steps_congr fun reference hmem =>
      agree_of_consults hcase (hsame reference hmem)) handler content⟩

/-- Values of different types that render the same, and entries that only one
binder has: for a name whose reference has a value at its position, for a
position after the last, and for a type that no placeholder accepts. -/
theorem Profile.transform_congr_of_shadowed :
    let profile : Profile := ⟨⟨0⟩, "English", "en", ⟨0⟩, .plain⟩
    let lexicon := (Lexicon.empty true).extend [.counter ⟨0⟩ "no" 1, .display ⟨1⟩ "who" .string]
    let tokens : Tokens := [.placeholder "{a}" "a", .placeholder "{b}" "b",
      .placeholder "{who}" "who", .placeholder "{no}" "no"]
    let shared := (Binder.empty true).insert (.type .string) (.sealed (.string "Ada"))
    let a := ((shared.insert (.index 0) (.displayed (.string "7"))).insert (.name "a")
      (.sealed (.boolean false))).insert (.name "b") (.displayed (.string "true"))
    let b := (((shared.insert (.index 0) (.displayed (.integer 7))).insert (.name "b")
      (.displayed (.boolean true))).insert (.index 9) (.sealed (.integer 9))).insert (.type .json)
      (.sealed (.json .null))
    (∀ reference ∈ tokens.names.zipIdx, lexicon.Agree a b reference.2 reference.1) ∧
      profile.transform .standard ⟨lexicon, []⟩ (.abortingOn .unboundPlaceholder) a "" tokens =
        profile.transform .standard ⟨lexicon, []⟩ (.abortingOn .unboundPlaceholder) b "" tokens ∧
      (profile.transform .standard ⟨lexicon, []⟩ (.abortingOn .unboundPlaceholder) a "" tokens).result.toOption =
        some "7trueAda1" := by
  intro profile lexicon tokens shared a b
  have ha : ∀ name, a.value? (.name name) = a.at? (.name name) := fun _ => rfl
  have hb : ∀ name, b.value? (.name name) = b.at? (.name name) := fun _ => rfl
  have hagree : ∀ reference ∈ tokens.names.zipIdx, lexicon.Agree a b reference.2 reference.1 := by
    intro reference hmem
    have hnames : tokens.names.zipIdx = [("a", 0), ("b", 1), ("who", 2), ("no", 3)] := rfl
    simp only [hnames, List.mem_cons, List.not_mem_nil, or_false] at hmem
    rcases hmem with rfl | rfl | rfl | rfl
    · exact .byIndex rfl rfl (by decide)
    · refine .byName rfl rfl (v := .displayed (.string "true")) (w := .displayed (.boolean true))
        ?_ ?_ (by decide)
      · simp [ha, a, Binder.at?_insert]
      · simp [hb, b, Binder.at?_insert]
    · refine .byType rfl rfl ?_ ?_ fun accepts found => ?_
      · simp [ha, a, shared, Binder.at?_insert]
      · simp [hb, b, shared, Binder.at?_insert]
      · have hwho : lexicon.accepts? "who" = some (.of .string) := by decide +kernel
        rw [← Option.some.inj (hwho.symm.trans found)]
        simp [Binder.value?_type, a, b, shared, Binder.at?_insert, TypeName.string, TypeName.json]
    · refine .byType rfl rfl ?_ ?_ fun accepts found => ?_
      · simp [ha, a, shared, Binder.at?_insert]
      · simp [hb, b, shared, Binder.at?_insert]
      · have hno : lexicon.accepts? "no" = none := by decide +kernel
        exact nomatch hno.symm.trans found
  have hsame := transform_congr profile Methods.rendition_standard ⟨lexicon, []⟩
    (.abortingOn .unboundPlaceholder) "" tokens a b
  refine ⟨hagree, hsame.1 hagree, ?_⟩
  decide +kernel

end Phrasebook

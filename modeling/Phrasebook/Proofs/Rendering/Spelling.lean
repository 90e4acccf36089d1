import Mathlib.Data.List.Forall2
import Phrasebook.Proofs.Lexicon.Operations
import Phrasebook.Proofs.Messages.Checking
import Phrasebook.Proofs.Rendering.Generators
import Phrasebook.Proofs.Rendering.Precedence
import Phrasebook.Proofs.Rendering.Stopping

/-!
# Spellings of names

Where case does not count, two references whose names have the same small
letters come to the same but for the names in the reports (`outline_resolve`),
and leave the same context, so messages that differ in such names only are
checked and rendered alike (`grades_checks`, `outline_steps`). Where it counts,
a name stands for itself alone: a reference comes from the value bound for
exactly its name or from the placeholder spelt exactly so (`comesFrom_resolve`),
and what is bound or registered under other names does not matter
(`SameBut.resolution`).
-/

namespace Phrasebook

/-- The tokens are the same literal, or refer to names that differ in case only. -/
inductive Token.SameButCase : Token → Token → Prop where
  | literal (raw : String) : SameButCase (.literal raw) (.literal raw)
  | placeholder {name name' : String} (same : Text.lowercase name = Text.lowercase name')
      (raw raw' : String) : SameButCase (.placeholder raw name) (.placeholder raw' name')

/-- What is wrong, and how bad it is. -/
def Diagnostic.grade (d : Diagnostic) : Diagnostic.Kind × Severity := (d.kind, d.severity)

/-- What is wrong with each token, and how bad it is. -/
def grades (reports : List (List Diagnostic)) : List (List (Diagnostic.Kind × Severity)) :=
  reports.map fun ds => ds.map Diagnostic.grade

/-- What a token comes to apart from the names in the reports on it. -/
structure Outline where
  text : String
  grades : List (Diagnostic.Kind × Severity)
  /-- The context after the token. -/
  after : Context

/-- The step without the names in its reports. -/
def Step.outline (step : Step) : Outline where
  text := step.text
  grades := (Remark.diagnostics step.remarks).map Diagnostic.grade
  after := step.context

namespace Lexicon

/-- The reports of checking, token by token. -/
def checks (lexicon : Lexicon) (tokens : Tokens) : List (List Diagnostic) :=
  tokens.map fun token => lexicon.unknownNames [token]

theorem flatten_checks (lexicon : Lexicon) (tokens : Tokens) :
    (lexicon.checks tokens).flatten = lexicon.unknownNames tokens := by
  rw [unknownNames_eq_flatMap, List.flatMap_def, checks]

variable {lexicon : Lexicon} {name name' : String} {a b : Tokens}

theorem normalize_of_lowercase (hcase : lexicon.caseSensitive = false)
    (same : Text.lowercase name = Text.lowercase name') :
    lexicon.normalize name = lexicon.normalize name' := by
  simp only [normalize, hcase, Bool.false_eq_true, if_false, same]

theorem grades_checks (hlexicon : lexicon.caseSensitive = false)
    (h : List.Forall₂ Token.SameButCase a b) :
    grades (lexicon.checks a) = grades (lexicon.checks b) := by
  induction h with
  | nil => rfl
  | cons htoken _ ih =>
    refine congrArg₂ List.cons ?_ ih
    cases htoken with
    | literal raw => rfl
    | @placeholder name name' same raw raw' =>
      have hhas : lexicon.has name = lexicon.has name' := by
        rw [has, get?_congr (normalize_of_lowercase hlexicon same), has]
      simp only [unknownNames, List.filterMap_cons, Token.name?_placeholder, hhas]
      cases lexicon.has name' <;> rfl

end Lexicon

namespace Context

/-- The reports of rendering, token by token. -/
def reports (context : Context) (binder : Binder) (tokens : Tokens) : List (List Diagnostic) :=
  (context.steps binder 0 tokens).map fun step => Remark.diagnostics step.remarks

theorem flatten_reports (context : Context) (binder : Binder) (tokens : Tokens) :
    (context.reports binder tokens).flatten =
      Remark.diagnostics ((context.steps binder 0 tokens).flatMap Step.remarks) := by
  rw [Remark.diagnostics_flatMap, List.flatMap_def, reports]

variable {context : Context} {binder : Binder} {position : Nat} {name name' : String} {a b : Tokens}

/-! ## Where case does not count -/

/-- A resolution without the names in its reports. -/
def outline (position : Nat) (name : String) (found : Resolution × Context) : Outline where
  text := found.1.text
  grades := (Remark.diagnostics (found.1.remarks position name)).map Diagnostic.grade
  after := found.2

theorem outline_resolveNothing (p : Placeholder) {mismatch mismatch' : Option Diagnostic}
    (hgrade : mismatch.toList.map Diagnostic.grade = mismatch'.toList.map Diagnostic.grade) :
    outline position name (context.resolveNothing p mismatch) =
      outline position name' (context.resolveNothing p mismatch') := by
  rcases htext : p.transformNothing context.uses with ⟨_ | text, uses⟩
  all_goals
    simp only [resolveNothing, htext, outline, Resolution.remarks, Remark.diagnostics_append,
      Remark.diagnostics_map, List.map_append, hgrade]
    rfl

theorem outline_resolvePlaceholder (p : Placeholder) :
    outline position name (context.resolvePlaceholder binder name p) =
      outline position name' (context.resolvePlaceholder binder name' p) := by
  rw [resolvePlaceholder, resolvePlaceholder]
  cases p.accepts? with
  | none => exact outline_resolveNothing p rfl
  | some accepts =>
    cases hvalue : binder.at? (.type accepts.topmost) with
    | none =>
      simp only [hvalue]
      exact outline_resolveNothing p rfl
    | some value =>
      rcases htext : p.transformValue context.uses value with ⟨_ | text, uses⟩
      · -- The reports of the mismatch differ, as each names the placeholder as it is spelt.
        simp only [hvalue, htext]
        exact outline_resolveNothing p rfl
      · simp only [hvalue, htext]
        rfl

/-- Two spellings of a name come to the same. -/
theorem outline_resolve (hlexicon : context.lexicon.caseSensitive = false)
    (hbinder : binder.caseSensitive = false) (same : Text.lowercase name = Text.lowercase name')
    (position : Nat) :
    outline position name (context.resolve binder position name) =
      outline position name' (context.resolve binder position name') := by
  have hkey := Lexicon.normalize_of_lowercase hlexicon same
  have hname : binder.nameKey name = binder.nameKey name' := by
    simp only [Binder.nameKey, hbinder, Bool.false_eq_true, if_false, same]
  rw [resolve, resolve, hname, Lexicon.get?_congr hkey]
  cases binder.at? (.index position) with
  | some value => rfl
  | none =>
    cases binder.at? (binder.nameKey name') with
    | some value => rfl
    | none =>
      cases context.lexicon.get? name' with
      | some p => exact outline_resolvePlaceholder p
      | none => rfl

/-- A step leaves the same context, so the next one starts from the same state. -/
theorem outline_steps (hlexicon : context.lexicon.caseSensitive = false)
    (hbinder : binder.caseSensitive = false) (h : List.Forall₂ Token.SameButCase a b) :
    (context.steps binder position a).map Step.outline =
      (context.steps binder position b).map Step.outline := by
  induction h generalizing context position with
  | nil => rfl
  | cons htoken _ ih =>
    cases htoken with
    | literal raw => rw [steps, steps, List.map_cons, List.map_cons, ih hlexicon]
    | @placeholder name name' same raw raw' =>
      have hstep : (context.stepOn binder position name).outline =
          (context.stepOn binder position name').outline :=
        outline_resolve hlexicon hbinder same position
      have hafter : (context.stepOn binder position name).context =
          (context.stepOn binder position name').context :=
        congrArg Outline.after hstep
      rw [steps_placeholder, steps_placeholder, List.map_cons, List.map_cons, hstep, hafter, ih]
      rw [context_stepOn]
      exact hlexicon

theorem grades_reports (context : Context) (binder : Binder) (tokens : Tokens) :
    grades (context.reports binder tokens) =
      ((context.steps binder 0 tokens).map Step.outline).map Outline.grades := by
  rw [grades, reports, List.map_map, List.map_map]
  rfl

theorem map_text_steps (context : Context) (binder : Binder) (tokens : Tokens) :
    (context.steps binder 0 tokens).map Step.text =
      ((context.steps binder 0 tokens).map Step.outline).map Outline.text := by
  rw [List.map_map]
  rfl

theorem advance_eq_foldl_outlines (context : Context) (binder : Binder) (tokens : Tokens) :
    context.advance binder tokens =
      ((context.steps binder 0 tokens).map Step.outline).foldl (fun _ o => o.after) context := by
  have hafter := context.foldl_context_steps binder [] tokens
  rw [advance_nil] at hafter
  rw [List.foldl_map]
  exact hafter.symm

/-! ## Where case counts -/

/-- What a reference to `name` may come to if it may use what stands under
exactly that name only: the value bound for it, the placeholder spelt so with a
value of the family that it accepts or without one, and else nothing. -/
inductive ComesFrom (context : Context) (binder : Binder) (name : String) : Resolution → Prop where
  | value {value : Value} (bound : binder.at? (.name name) = some value) :
      ComesFrom context binder name (.byName value.render)
  | typed {p : Placeholder} {accepts : TypeKey} {value : Value} {text : String}
      (unbound : binder.at? (.name name) = none) (found : context.lexicon.get? name = some p)
      (spelt : p.name = name) (takes : p.accepts? = some accepts)
      (bound : binder.at? (.type accepts.topmost) = some value)
      (gives : (p.transformValue context.uses value).1 = some text) :
      ComesFrom context binder name (.byType accepts.name text)
  | untyped {p : Placeholder} {mismatch : Option Diagnostic} {text : String}
      (unbound : binder.at? (.name name) = none) (found : context.lexicon.get? name = some p)
      (spelt : p.name = name) (gives : (p.transformNothing context.uses).1 = some text) :
      ComesFrom context binder name (.withoutValue mismatch text)
  | nothing {mismatch : Option Diagnostic} (unbound : binder.at? (.name name) = none) :
      ComesFrom context binder name (.unresolved mismatch)

theorem comesFrom_resolveNothing {p : Placeholder} (unbound : binder.at? (.name name) = none)
    (found : context.lexicon.get? name = some p) (spelt : p.name = name)
    (mismatch : Option Diagnostic) :
    context.ComesFrom binder name (context.resolveNothing p mismatch).1 := by
  rw [resolveNothing]
  rcases htext : p.transformNothing context.uses with ⟨_ | text, uses⟩
  · exact .nothing unbound
  · exact .untyped unbound found spelt (by rw [htext])

theorem comesFrom_resolvePlaceholder {p : Placeholder} (unbound : binder.at? (.name name) = none)
    (found : context.lexicon.get? name = some p) (spelt : p.name = name) :
    context.ComesFrom binder name (context.resolvePlaceholder binder name p).1 := by
  rw [resolvePlaceholder]
  split
  · exact comesFrom_resolveNothing unbound found spelt none
  rename_i takes
  split
  · exact comesFrom_resolveNothing unbound found spelt none
  rename_i value bound
  rcases htext : p.transformValue context.uses value with ⟨_ | text, uses⟩
  · -- A closure that is not used leaves the uses as they were.
    have huses : uses = context.uses := Placeholder.uses_of_transformValue_eq_none htext
    rw [huses]
    exact comesFrom_resolveNothing unbound found spelt _
  · exact .typed unbound found spelt takes bound (by rw [htext])

theorem comesFrom_resolve (h : context.lexicon.Keyed)
    (hlexicon : context.lexicon.caseSensitive = true) (hbinder : binder.caseSensitive = true)
    (unplaced : ∀ n, binder.at? (.index n) = none) (position : Nat) (name : String) :
    context.ComesFrom binder name (context.resolve binder position name).1 := by
  have hkey : binder.nameKey name = .name name := by
    rw [Binder.nameKey, hbinder, if_pos rfl]
  simp only [resolve, unplaced, hkey]
  cases hbound : binder.at? (.name name) with
  | some value => exact .value hbound
  | none =>
    cases hfound : context.lexicon.get? name with
    | none => exact .nothing hbound
    | some p =>
      have hspelt : p.name = name := by
        have hnormal := h.normalize_name hfound
        simpa only [Lexicon.normalize, hlexicon, if_true] using hnormal
      exact comesFrom_resolvePlaceholder hbound hfound hspelt

/-- Two lexicons and two binders hold the same but for other names than this. -/
structure SameBut (name : String) (lexicon lexicon' : Lexicon) (binder binder' : Binder) :
    Prop where
  placeholder : lexicon.get? name = lexicon'.get? name
  value : ∀ key, (∀ other, key = .name other → other = name) → binder.at? key = binder'.at? key

theorem resolution_resolveNothing {lexicon lexicon' : Lexicon} (uses : Uses) (p : Placeholder)
    (mismatch : Option Diagnostic) :
    (resolveNothing ⟨lexicon, uses⟩ p mismatch).1 = (resolveNothing ⟨lexicon', uses⟩ p mismatch).1 := by
  rw [resolveNothing, resolveNothing]
  rcases p.transformNothing uses with ⟨_ | text, after⟩ <;> rfl

theorem resolution_resolvePlaceholder {lexicon lexicon' : Lexicon} (uses : Uses) (p : Placeholder) :
    (resolvePlaceholder ⟨lexicon, uses⟩ binder name p).1 =
      (resolvePlaceholder ⟨lexicon', uses⟩ binder name p).1 := by
  rw [resolvePlaceholder, resolvePlaceholder]
  cases p.accepts? with
  | none => exact resolution_resolveNothing uses p none
  | some accepts =>
    simp only
    cases binder.at? (.type accepts.topmost) with
    | none => exact resolution_resolveNothing uses p none
    | some value =>
      simp only
      rcases p.transformValue uses value with ⟨_ | text, after⟩
      · exact resolution_resolveNothing after p _
      · rfl

/-- Of a lexicon a reference reads the placeholder of its name alone. -/
theorem resolution_of_get? {lexicon lexicon' : Lexicon} (h : lexicon.get? name = lexicon'.get? name)
    (uses : Uses) :
    (resolve ⟨lexicon, uses⟩ binder position name).1 =
      (resolve ⟨lexicon', uses⟩ binder position name).1 := by
  simp only [resolve, h]
  cases binder.at? (.index position) with
  | some value => rfl
  | none =>
    cases binder.at? (binder.nameKey name) with
    | some value => rfl
    | none =>
      cases lexicon'.get? name with
      | some p => exact resolution_resolvePlaceholder uses p
      | none => rfl

theorem SameBut.resolution {lexicon lexicon' : Lexicon} {binder' : Binder}
    (h : SameBut name lexicon lexicon' binder binder') (hbinder : binder.caseSensitive = true)
    (hbinder' : binder'.caseSensitive = true) (uses : Uses) (position : Nat) :
    (resolve ⟨lexicon, uses⟩ binder position name).1 =
      (resolve ⟨lexicon', uses⟩ binder' position name).1 := by
  have hagree : lexicon.Agree binder binder' position name := by
    refine Lexicon.agree_of_consults (hbinder.trans hbinder'.symm) fun key hkey => h.value key ?_
    intro other hother
    cases hkey with
    | index => cases hother
    | name =>
      rw [Binder.nameKey, hbinder, if_pos rfl] at hother
      exact (Key.name.inj hother).symm
    | type => cases hother
  have hsame : resolve ⟨lexicon, uses⟩ binder position name =
      resolve ⟨lexicon, uses⟩ binder' position name := resolve_congr hagree
  rw [hsame]
  exact resolution_of_get? h.placeholder uses

end Context

namespace Profile

variable {profile : Profile} {handler : Handler} {context : Context} {binder : Binder}

/-- A handler that raises nothing is given the reports of checking in the order of the tokens. -/
theorem check_of_accepting (accepting : handler.Accepting) (tokens : Tokens) :
    let checked := profile.check .standard context handler tokens
    checked.result = .ok tokens ∧ checked.context = context ∧
      checked.journal.diagnostics = (context.lexicon.checks tokens).flatten := by
  intro checked
  obtain ⟨hresult, hlexicon, hgiven⟩ :=
    (judged_check Methods.nameCheck_standard profile context handler tokens).of_accepts
      (accepting.accepts _)
  refine ⟨hresult, hlexicon, hgiven.trans ?_⟩
  rw [checkRemarks]
  simp only [Remark.diagnostics_append, Remark.diagnostics_map, Remark.diagnostics_event,
    Remark.diagnostics_nil, List.append_nil]
  exact (context.lexicon.flatten_checks tokens).symm

/-- A handler that raises nothing is given the reports of rendering in the order of the tokens. -/
theorem transform_of_accepting (accepting : handler.Accepting) (content : String)
    (tokens : Tokens) :
    let rendered := profile.transform .standard context handler binder content tokens
    rendered.result = .ok (context.renderText binder content tokens) ∧
      rendered.context = context.advance binder tokens ∧
      rendered.journal.diagnostics = (context.reports binder tokens).flatten := by
  intro rendered
  obtain ⟨hresult, hlexicon, hgiven⟩ :=
    (context.judged_render binder content tokens handler).of_accepts (accepting.accepts _)
  refine ⟨hresult, hlexicon, hgiven.trans ?_⟩
  rw [Context.renderRemarks, Context.flatten_reports]

/-- Two messages are checked and rendered alike, but for the names in the reports. -/
structure Alike (profile : Profile) (context : Context) (handler : Handler) (binder : Binder)
    (a b : Tokens) : Prop where
  checked : grades (context.lexicon.checks a) = grades (context.lexicon.checks b)
  reported : grades (context.reports binder a) = grades (context.reports binder b)
  rendered : ∀ content, ∃ text,
    (profile.transform .standard context handler binder content a).result = .ok text ∧
      (profile.transform .standard context handler binder content b).result = .ok text
  after : ∀ content, (profile.transform .standard context handler binder content a).context =
    (profile.transform .standard context handler binder content b).context

theorem alike_of_sameButCase (accepting : handler.Accepting)
    (hlexicon : context.lexicon.caseSensitive = false)
    (hbinder : binder.caseSensitive = false) {a b : Tokens}
    (h : List.Forall₂ Token.SameButCase a b) : profile.Alike context handler binder a b := by
  have houtline : (context.steps binder 0 a).map Step.outline =
      (context.steps binder 0 b).map Step.outline :=
    Context.outline_steps hlexicon hbinder h
  refine ⟨Lexicon.grades_checks hlexicon h, ?_, fun content => ?_, fun content => ?_⟩
  · rw [Context.grades_reports, houtline, Context.grades_reports]
  · have htext : context.renderText binder content a = context.renderText binder content b := by
      -- A message without tokens is its content, but both have tokens or neither has.
      cases h with
      | nil => rfl
      | cons htoken hrest =>
        rw [Context.renderText, Context.renderText, if_neg (List.cons_ne_nil _ _),
          if_neg (List.cons_ne_nil _ _)]
        rw [Context.map_text_steps, houtline, Context.map_text_steps]
    refine ⟨_, (transform_of_accepting accepting content a).1, ?_⟩
    rw [htext]
    exact (transform_of_accepting accepting content b).1
  · rw [(transform_of_accepting accepting content a).2.1,
      (transform_of_accepting accepting content b).2.1]
    rw [Context.advance_eq_foldl_outlines, houtline, Context.advance_eq_foldl_outlines]

end Profile

/-- A handler that raises nothing is given the reports of checking and of
rendering token by token. Where case does not count, messages that differ in the
case of names only are checked and rendered alike. Where it counts and nothing
is bound by position, a reference comes from what stands under exactly its name,
and no other name matters. -/
theorem Profile.spellings_agree (profile : Profile) (handler : Handler)
    (accepting : handler.Accepting) (lexicon : Lexicon) (uses : Uses) (binder : Binder) :
    let context : Context := ⟨lexicon, uses⟩
    (∀ tokens content,
      (profile.check .standard context handler tokens).result = .ok tokens ∧
      (profile.check .standard context handler tokens).journal.diagnostics =
        (lexicon.checks tokens).flatten ∧
      (profile.transform .standard context handler binder content tokens).journal.diagnostics =
        (context.reports binder tokens).flatten) ∧
    (lexicon.caseSensitive = false → binder.caseSensitive = false → ∀ a b,
      List.Forall₂ Token.SameButCase a b → profile.Alike context handler binder a b) ∧
    (lexicon.Reachable → lexicon.caseSensitive = true → binder.caseSensitive = true →
      (∀ n, binder.at? (.index n) = none) → ∀ position name,
        context.ComesFrom binder name (context.resolve binder position name).1 ∧
        ∀ lexicon' binder', binder'.caseSensitive = true →
          Context.SameBut name lexicon lexicon' binder binder' →
          (context.resolve binder position name).1 =
            (Context.resolve ⟨lexicon', uses⟩ binder' position name).1) := by
  intro context
  refine ⟨fun tokens content => ?_, fun hlexicon hbinder a b h => ?_, ?_⟩
  · obtain ⟨hresult, -, hchecked⟩ := check_of_accepting accepting tokens
    obtain ⟨-, -, hrendered⟩ := transform_of_accepting accepting content tokens
    exact ⟨hresult, hchecked, hrendered⟩
  · exact alike_of_sameButCase accepting hlexicon hbinder h
  · intro hreachable hlexicon hbinder unplaced position name
    refine ⟨Context.comesFrom_resolve hreachable.keyed hlexicon hbinder unplaced position name, ?_⟩
    intro lexicon' binder' hbinder' hsame
    exact hsame.resolution hbinder hbinder' uses position

/-- A counter drawn on under two spellings, a value of another type for a name
spelt with the Kelvin sign, and a name that is not known; then two placeholders
and a value whose names differ in case only. -/
theorem Profile.spellings_agree_of_kelvin :
    let profile : Profile := ⟨⟨0⟩, "English", "en", ⟨0⟩, .plain⟩
    let lexicon := (Lexicon.empty false).run
      [.set (.counter ⟨0⟩ "No" 1), .set (.display ⟨1⟩ "k" .string)]
    let context : Context := ⟨lexicon, []⟩
    let binder := (Binder.empty false).insert (.type .string) (.sealed (.integer 7))
    let a : Tokens := [.placeholder "<no>" "no", .literal "-", .placeholder "<NO>" "NO",
      .placeholder "<k>" "k", .placeholder "<who>" "who"]
    let b : Tokens := [.placeholder "<nO>" "nO", .literal "-", .placeholder "<No>" "No",
      .placeholder "<K>" "\u212a", .placeholder "<Who>" "Who"]
    let exact := (Lexicon.empty true).run
      [.set (.constant "no" "small"), .set (.constant "No" "big")]
    let named := (Binder.empty true).insert (.name "NO") (.displayed (.string "bound"))
    lexicon.caseSensitive = false ∧ binder.caseSensitive = false ∧
      List.Forall₂ Token.SameButCase a b ∧
      profile.Alike context (.collecting "all") binder a b ∧
      grades (lexicon.checks b) = [[], [], [], [], [(.unknownPlaceholder, .notify)]] ∧
      grades (context.reports binder b) = [[], [], [],
        [(.typeMismatch, .warning), (.unboundPlaceholder, .warning)],
        [(.unboundPlaceholder, .warning)]] ∧
      (profile.transform .standard context (.collecting "all") binder "" b).result.toOption = some "1-2" ∧
      exact.Reachable ∧ exact.caseSensitive = true ∧ named.caseSensitive = true ∧
      (∀ n, named.at? (.index n) = none) ∧
      Context.ComesFrom ⟨exact, []⟩ named "No" (Context.resolve ⟨exact, []⟩ named 0 "No").1 ∧
      (Context.resolve ⟨exact, []⟩ named 0 "No").1 = .withoutValue none "big" := by
  intro profile lexicon context binder a b exact named
  have hsame : List.Forall₂ Token.SameButCase a b := by
    refine .cons (.placeholder ?_ _ _) (.cons (.literal _) (.cons (.placeholder ?_ _ _)
      (.cons (.placeholder ?_ _ _) (.cons (.placeholder ?_ _ _) .nil))))
    all_goals decide +kernel
  have hreachable : exact.Reachable := .run (.empty true) _
  have unplaced : ∀ n, named.at? (.index n) = none := fun n => by
    simp only [named, Binder.at?_insert, reduceCtorEq, if_false, Binder.at?_empty]
  have accepting := Handler.accepting_collecting "all"
  have halike := (profile.spellings_agree _ accepting lexicon [] binder).2.1 rfl rfl a b hsame
  have hexact := (profile.spellings_agree _ accepting exact [] named).2.2 hreachable rfl rfl unplaced
    0 "No"
  refine ⟨rfl, rfl, hsame, halike, ?_, ?_, ?_, hreachable, rfl, rfl, unplaced, hexact.1, ?_⟩
  all_goals decide +kernel

end Phrasebook

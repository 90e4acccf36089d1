import Phrasebook.Proofs.Lexer.Tokenization
import Phrasebook.Proofs.Rendering.Stopping

/-!
# Placeholders bound to their own text

The tokens of a text are the text again (`Tokenization.rawText`), so a
rendering in which each token comes to its own source text gives the text back
(`render_of_raw`). Literals do so in any case, and a reference does if its name
is bound to the name between the delimiters (`textOf_of_bound`). What is
inserted is not searched for references again, and nothing else that the binder
or the lexicon holds matters, nor what closures were used for (`render_of_own_text`).
-/

namespace Phrasebook

namespace Context

variable {context : Context} {binder : Binder} {tokens : Tokens}

theorem map_text_steps_of_raw
    (h : ∀ before, ∀ token ∈ tokens, context.textOf binder before token = token.raw) :
    (context.steps binder 0 tokens).map Step.text = tokens.map Token.raw := by
  rw [(steps_eq_rules context binder tokens).1]
  refine List.ext_getElem (by simp) fun i hi hi' => ?_
  rw [List.getElem_mapIdx, List.getElem_map]
  exact h _ _ (List.getElem_mem _)

/-- A reference whose name is bound to a text comes to that text, unless a
value is bound at its position. -/
theorem textOf_of_bound {raw name text : String} (hindex : ∀ n, binder.value? (.position n) = none)
    (hname : (binder.value? (.name name)).map Value.render = some text) (before : Tokens) :
    context.textOf binder before (.placeholder raw name) = text := by
  obtain ⟨value, hvalue, hrender⟩ := Option.map_eq_some_iff.mp hname
  rw [textOf, ruleText?_of_name (hindex _) hvalue, Option.getD_some, hrender]

end Context

theorem Tokens.mem_names {tokens : Tokens} {raw name : String}
    (h : .placeholder raw name ∈ tokens) : name ∈ tokens.names :=
  List.mem_filterMap.mpr ⟨_, h, rfl⟩

namespace Profile

variable {profile : Profile} {d : Delimiters} {context : Context} {handler : Handler}
  {binder : Binder} {content : String}

/-- A rendering in which each token comes to its source text gives the text back. -/
theorem render_of_raw (lexes : profile.lexer = d.lexer) (untrimmed : d.trims = false)
    (accepting : handler.Accepting)
    (h : ∀ before, ∀ token ∈ d.lexer.tokenize content,
      context.textOf binder before token = token.raw) :
    (profile.render .standard context handler binder content).result = .ok content := by
  have htokens := Delimiters.tokenization_ofMatches untrimmed content.toList
  rw [String.ofList_toList] at htokens
  have hraw : (d.lexer.tokenize content).rawText = content := htokens.rawText
  have hjudged := profile.judged_render context binder content Methods.nameCheck_standard
    Methods.rendition_standard handler
  rw [lexes] at hjudged
  rw [(hjudged.of_accepts (accepting.accepts _)).1, Context.renderText]
  split
  · rfl
  · rw [Context.map_text_steps_of_raw h]
    exact congrArg Except.ok hraw

/-- A text is rendered as it is if each name in it is bound to the name between
the delimiters, and nothing is bound by position; a text in which there are no
names is rendered as it is in any case. -/
theorem render_of_own_text (profile : Profile) (d : Delimiters) (context : Context)
    (handler : Handler) (content : String) (lexes : profile.lexer = d.lexer)
    (untrimmed : d.trims = false) (accepting : handler.Accepting) :
    (∀ binder : Binder, (∀ n, binder.value? (.position n) = none) →
      (∀ name ∈ (d.lexer.tokenize content).names,
        (binder.value? (.name name)).map Value.render = some (d.opening ++ name ++ d.closing)) →
      (profile.render .standard context handler binder content).result = .ok content) ∧
    ((d.lexer.tokenize content).names = [] → ∀ binder,
      (profile.render .standard context handler binder content).result = .ok content) := by
  have htokens := Delimiters.tokenization_ofMatches untrimmed content.toList
  rw [String.ofList_toList] at htokens
  refine ⟨fun binder hindex hnames => ?_, fun hnone binder => ?_⟩
  all_goals
    refine render_of_raw lexes untrimmed accepting fun before token htoken => ?_
    cases token with
    | literal raw => rfl
    | placeholder raw name => ?_
  · obtain ⟨rfl, -⟩ := htokens.placeholder raw name htoken
    exact Context.textOf_of_bound hindex (hnames name (Tokens.mem_names htoken)) before
  · have hname := Tokens.mem_names htoken
    rw [hnone] at hname
    cases hname

/-- Two names that differ in case only, one of which the lexicon knows, and a
name that the text does not use. -/
theorem render_of_own_text_of_cases :
    let d : Delimiters := ⟨"<%", "%>", false, by decide, by decide⟩
    let profile : Profile := ⟨⟨0⟩, "English", "en", ⟨0⟩, d.lexer⟩
    let context : Context := ⟨(Lexicon.empty false).set (.constant "a" "other"), []⟩
    let own (name : String) : Value := .displayed (.string (d.opening ++ name ++ d.closing))
    let binder := ((((Binder.empty true).insert (.name "a") (own "a")).insert (.name "A")
      (own "A")).insert (.name "b") (own "c")).insert (.type .string) (own "d")
    (d.lexer.tokenize "<%a%><%%> <%A%>").names = ["a", "A"] ∧
      (profile.render .standard context (.collecting "all") binder "<%a%><%%> <%A%>").result =
        .ok "<%a%><%%> <%A%>" ∧
      (d.lexer.tokenize "<%%>").names = [] ∧
      (profile.render .standard context (.collecting "all") (.empty true) "<%%>").result = .ok "<%%>" := by
  intro d profile context own binder
  have hnames : (d.lexer.tokenize "<%a%><%%> <%A%>").names = ["a", "A"] := by cbv
  have hnone : (d.lexer.tokenize "<%%>").names = [] := by cbv
  have hindex : ∀ n, binder.value? (.position n) = none := fun n => by
    simp only [Binder.value?_position, binder, Binder.at?_insert, reduceCtorEq, if_false,
      Binder.at?_empty]
  have hown := render_of_own_text profile d context (.collecting "all") "<%a%><%%> <%A%>" rfl rfl
    (Handler.accepting_collecting "all")
  have hempty := render_of_own_text profile d context (.collecting "all") "<%%>" rfl rfl
    (Handler.accepting_collecting "all")
  refine ⟨hnames, hown.1 binder hindex fun name hname => ?_, hnone, hempty.2 hnone _⟩
  rw [hnames, List.mem_cons, List.mem_singleton] at hname
  rcases hname with rfl | rfl <;> decide +kernel

end Profile

end Phrasebook

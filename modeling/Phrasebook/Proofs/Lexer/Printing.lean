import Phrasebook.Proofs.Lexer.Tokenization
import Phrasebook.Proofs.Lexer.Trimming

/-!
# Tokens read back from their text

The text of tokens has these tokens again if no reference can start in a
literal: no character of a literal is one of the opening delimiter
(`Written`). Such tokens are the one tokenization of their text
(`Written.tokenization`), so the lexer gives them back, trimmed if the
delimiters trim (`tokenize_rawText_of_written`).
-/

namespace Phrasebook

theorem Tokens.rawText_append (a b : Tokens) : rawText (a ++ b) = a.rawText ++ b.rawText := by
  rw [rawText, List.map_append, String.join_append, rawText, rawText]

theorem Token.trimmed?_of_not_blank {raw name : String}
    (h : ∃ c ∈ name.toList, Text.isBlank c = false) :
    (Token.placeholder raw name).trimmed? = some (.placeholder raw (Text.trim name)) := by
  have hne : Text.trim name ≠ "" := by
    obtain ⟨c, hc, hblank⟩ := h
    intro hnil
    rw [Text.trim_eq_empty_iff.mp hnil c hc] at hblank
    cases hblank
  refine if_neg ?_
  rw [Token.trimmed, Token.name?_placeholder, Option.some.injEq]
  exact hne

namespace Delimiters

variable {d : Delimiters} {tokens : Tokens}

/-- Tokens that their text has again. -/
structure Written (d : Delimiters) (tokens : Tokens) : Prop where
  /-- A literal holds something, and nothing of the opening delimiter. -/
  literal : ∀ raw, .literal raw ∈ tokens → raw ≠ "" ∧ ∀ c ∈ raw.toList, c ∉ d.opening.toList
  /-- A placeholder is a name between the delimiters. -/
  placeholder : ∀ raw name, .placeholder raw name ∈ tokens →
    raw = d.opening ++ name ++ d.closing ∧ d.IsName name.toList
  /-- No two literals are adjacent. -/
  separate : tokens.IsChain fun a b => a.isPlaceholder ∨ b.isPlaceholder

theorem Written.untrimmed (h : d.Written tokens) : d.untrimmed.Written tokens where
  literal := h.literal
  placeholder raw name hmem := by
    obtain ⟨hraw, hname⟩ := h.placeholder raw name hmem
    exact ⟨hraw, hname.ne_nil, hname.not_mem⟩
  separate := h.separate

/-- No reference starts with a character that the opening delimiter does not hold. -/
theorem not_occursAt_of_not_mem {content : String} {i : Nat} {c : Char}
    (hat : content.toList[i]? = some c) (hc : c ∉ d.opening.toList) : ¬ d.OccursAt content i := by
  rintro ⟨name, rest, heq, -⟩
  obtain ⟨first, more, hopening⟩ := List.exists_cons_of_ne_nil d.opening_ne_nil
  have hfirst : (content.toList.drop i).head? = some first := by
    rw [heq, enclose, hopening]
    rfl
  rw [List.head?_drop, hat, Option.some.injEq] at hfirst
  rw [hopening, hfirst] at hc
  exact hc List.mem_cons_self

/-- Tokens that can be read back are the tokenization of their text. -/
theorem Written.tokenization (h : d.Written tokens) : d.Tokenization tokens.rawText tokens where
  rawText := rfl
  placeholder := h.placeholder
  literal_ne raw hmem := (h.literal raw hmem).1
  separate := h.separate
  quiet before raw after heq i hlo hhi := by
    obtain ⟨k, rfl⟩ := Nat.exists_eq_add_of_le hlo
    have hk : k < raw.toList.length := by
      rw [String.length_toList]
      omega
    have hmem : .literal raw ∈ tokens := heq ▸ List.mem_append_right _ List.mem_cons_self
    rw [heq, Tokens.rawText_append, Tokens.rawText_cons, Token.raw_literal, occursAt_append]
    refine not_occursAt_of_not_mem (c := raw.toList[k]) ?_ ?_
    · rw [String.toList_append, List.getElem?_append_left hk, List.getElem?_eq_getElem hk]
    · exact (h.literal raw hmem).2 _ (List.getElem_mem hk)

/-- Reading tokens from their text gives the tokens back. If the delimiters
trim, it takes the blanks off their names, none of which must be all blank. -/
theorem tokenize_rawText_of_written (d : Delimiters) (tokens : Tokens) (h : d.Written tokens) :
    (d.trims = false → d.lexer.tokenize tokens.rawText = tokens) ∧
      (d.trims = true →
        (∀ raw name, .placeholder raw name ∈ tokens →
          ∃ c ∈ name.toList, Text.isBlank c = false) →
        d.lexer.tokenize tokens.rawText = tokens.map Token.trimmed) := by
  refine ⟨fun htrims => ?_, fun htrims hnames => ?_⟩
  · exact (tokenization_tokenize htrims _).unique h.tokenization
  · have huntrimmed : d.untrimmed.lexer.tokenize tokens.rawText = tokens :=
      (tokenization_tokenize rfl _).unique h.untrimmed.tokenization
    rw [tokenize_of_trims htrims, huntrimmed]
    refine List.filterMap_eq_map_iff_forall_eq_some.mpr fun token htoken => ?_
    cases token with
    | literal raw => rfl
    | placeholder raw name => exact Token.trimmed?_of_not_blank (hnames raw name htoken)

/-- A literal of closing delimiters between references that touch it, and a
name with blanks around it. -/
theorem tokenize_rawText_of_closing_in_literal :
    let braces (trims : Bool) : Delimiters := ⟨"\x7b", "\x7d\x7d", trims, by decide, by decide⟩
    let tokens : Tokens := [.placeholder "\x7ba\x7d\x7d" "a", .literal "\x7d\x7d \x7d",
      .placeholder "\x7b b \x7d\x7d" " b "]
    (∀ trims, (braces trims).Written tokens) ∧
      (∀ raw name, .placeholder raw name ∈ tokens → ∃ c ∈ name.toList, Text.isBlank c = false) ∧
      (braces false).lexer.tokenize "\x7ba\x7d\x7d\x7d\x7d \x7d\x7b b \x7d\x7d" = tokens ∧
      (braces true).lexer.tokenize "\x7ba\x7d\x7d\x7d\x7d \x7d\x7b b \x7d\x7d" =
        [.placeholder "\x7ba\x7d\x7d" "a", .literal "\x7d\x7d \x7d",
          .placeholder "\x7b b \x7d\x7d" "b"] := by
  intro braces tokens
  have hwritten : ∀ trims, (braces trims).Written tokens := by
    intro trims
    refine ⟨fun raw hmem => ?_, fun raw name hmem => ?_, by decide⟩
    · simp only [tokens, List.mem_cons, reduceCtorEq, Token.literal.injEq, List.not_mem_nil,
        or_false, false_or] at hmem
      subst hmem
      exact ⟨by decide, by simp [braces]⟩
    · simp only [tokens, List.mem_cons, reduceCtorEq, Token.placeholder.injEq, List.not_mem_nil,
        or_false, false_or] at hmem
      rcases hmem with ⟨rfl, rfl⟩ | ⟨rfl, rfl⟩
      · exact ⟨rfl, by decide, by simp [braces]⟩
      · exact ⟨rfl, by decide, by simp [braces]⟩
  have hnames : ∀ raw name, .placeholder raw name ∈ tokens →
      ∃ c ∈ name.toList, Text.isBlank c = false := by
    intro raw name hmem
    simp only [tokens, List.mem_cons, reduceCtorEq, Token.placeholder.injEq, List.not_mem_nil,
      or_false, false_or] at hmem
    rcases hmem with ⟨-, rfl⟩ | ⟨-, rfl⟩
    · exact ⟨'a', by decide, by decide⟩
    · exact ⟨'b', by decide, by decide⟩
  have htext : tokens.rawText = "\x7ba\x7d\x7d\x7d\x7d \x7d\x7b b \x7d\x7d" := by decide
  rw [← htext]
  refine ⟨hwritten, hnames, ?_, ?_⟩
  · exact (tokenize_rawText_of_written (braces false) tokens (hwritten false)).1 rfl
  · exact (tokenize_rawText_of_written (braces true) tokens (hwritten true)).2 rfl hnames

end Delimiters

end Phrasebook

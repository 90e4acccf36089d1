import Mathlib.Data.List.Chain
import Phrasebook.Proofs.Lexer.Reference

/-!
# The tokens of a text

`Delimiters.Tokenization` says what it is for tokens to be those of a text,
without saying how to find them: no text is lost, placeholders are references,
literals are as long as they can be and no reference starts in one. A text has
one tokenization at most (`Tokenization.unique`), since a first token that
starts with a reference cannot be a literal, and a literal goes on to the first
reference; the lexer finds it (`tokenization_ofMatches`).
-/

namespace Phrasebook

namespace Tokens

@[simp] theorem rawText_nil : rawText [] = "" := by
  simp [rawText]

@[simp] theorem rawText_cons (t : Token) (tokens : Tokens) :
    rawText (t :: tokens) = t.raw ++ tokens.rawText := by
  simp [rawText]

end Tokens

namespace Delimiters

variable {d : Delimiters}

/-- A reference starts at character `i` of the text. -/
def OccursAt (d : Delimiters) (content : String) (i : Nat) : Prop :=
  ∃ name rest, content.toList.drop i = d.enclose name ++ rest ∧ d.IsName name

theorem occursAt_iff {content : String} {i : Nat} :
    d.OccursAt content i ↔ d.lengthAt (content.toList.drop i) ≠ 0 := by
  constructor
  · rintro ⟨name, rest, heq, hname⟩
    rw [heq, lengthAt_enclose hname]
    exact fun h => d.enclose_ne_nil name (List.length_eq_zero_iff.mp h)
  · exact eq_enclose_of_lengthAt

theorem occursAt_append {s t : String} {i : Nat} :
    d.OccursAt (s ++ t) (s.length + i) ↔ d.OccursAt t i := by
  have hdrop : (s ++ t).toList.drop (s.length + i) = t.toList.drop i := by
    rw [String.toList_append, ← String.length_toList, List.drop_length_add_append]
  rw [OccursAt, OccursAt, hdrop]

theorem not_occursAt_of_quietFor {cs : List Char} {n : Nat}
    (h : Scan.QuietFor d.lengthAt n cs) : ∀ i < n, ¬ d.OccursAt (String.ofList cs) i := by
  intro i hi
  rw [occursAt_iff, String.toList_ofList]
  exact fun hne => hne (h i hi)

/-- The tokens of a text: what they have to be. -/
structure Tokenization (d : Delimiters) (content : String) (tokens : Tokens) : Prop where
  /-- No text is lost. -/
  rawText : tokens.rawText = content
  /-- A placeholder is a name between the delimiters. -/
  placeholder : ∀ raw name, .placeholder raw name ∈ tokens →
    raw = d.opening ++ name ++ d.closing ∧ d.IsName name.toList
  literal_ne : ∀ raw, .literal raw ∈ tokens → raw ≠ ""
  /-- No two literals are adjacent. -/
  separate : tokens.IsChain fun a b => a.isPlaceholder ∨ b.isPlaceholder
  /-- No reference starts inside a literal. -/
  quiet : ∀ (before : Tokens) (raw : String) (after : Tokens),
    tokens = before ++ .literal raw :: after →
    ∀ i, before.rawText.length ≤ i → i < before.rawText.length + raw.length →
      ¬ d.OccursAt content i

/-! ## Token by token -/

/-- What a tokenization asks of its first token; `rest` are the tokens after it. -/
def Leads (d : Delimiters) (content : String) (rest : Tokens) : Token → Prop
  | .placeholder raw name => raw = d.opening ++ name ++ d.closing ∧ d.IsName name.toList
  | .literal raw =>
    raw ≠ "" ∧ (∀ t ∈ rest.head?, t.isPlaceholder) ∧ ∀ i < raw.length, ¬ d.OccursAt content i

theorem tokenization_nil (d : Delimiters) : d.Tokenization "" [] where
  rawText := Tokens.rawText_nil
  placeholder _ _ h := by cases h
  literal_ne _ h := by cases h
  separate := .nil
  quiet before _ _ h := by cases before <;> cases h

theorem Tokenization.leads {content : String} {t : Token} {rest : Tokens}
    (h : d.Tokenization content (t :: rest)) : d.Leads content rest t := by
  cases t with
  | placeholder raw name => exact h.placeholder raw name List.mem_cons_self
  | literal raw =>
    refine ⟨h.literal_ne raw List.mem_cons_self, fun u hu => ?_, fun i hi => ?_⟩
    · obtain ⟨tail, rfl⟩ := List.head?_eq_some_iff.mp hu
      have := (List.isChain_cons_cons.mp h.separate).1
      simpa [Token.isPlaceholder] using this
    · exact h.quiet [] raw rest rfl i (by simp) (by simpa using hi)

theorem Tokenization.tail {content : String} {t : Token} {rest : Tokens}
    (h : d.Tokenization content (t :: rest)) : d.Tokenization rest.rawText rest where
  rawText := rfl
  placeholder raw name hmem := h.placeholder raw name (List.mem_cons_of_mem t hmem)
  literal_ne raw hmem := h.literal_ne raw (List.mem_cons_of_mem t hmem)
  separate := h.separate.of_cons
  quiet before raw after heq i hlo hhi := by
    have := h.quiet (t :: before) raw after (by rw [heq]; rfl) (t.raw.length + i)
    rw [← h.rawText, Tokens.rawText_cons, Tokens.rawText_cons, String.length_append,
      occursAt_append] at this
    exact this (by omega) (by omega)

theorem Tokenization.cons {t : Token} {rest : Tokens} (h : d.Tokenization rest.rawText rest)
    (ht : d.Leads (t.raw ++ rest.rawText) rest t) :
    d.Tokenization (t.raw ++ rest.rawText) (t :: rest) where
  rawText := Tokens.rawText_cons t rest
  placeholder raw name hmem := by
    rcases List.mem_cons.mp hmem with rfl | hmem
    · exact ht
    · exact h.placeholder raw name hmem
  literal_ne raw hmem := by
    rcases List.mem_cons.mp hmem with rfl | hmem
    · exact ht.1
    · exact h.literal_ne raw hmem
  separate := by
    cases rest with
    | nil => exact .singleton t
    | cons u rest =>
      refine List.isChain_cons_cons.mpr ⟨?_, h.separate⟩
      cases t with
      | placeholder => exact .inl rfl
      | literal => exact .inr (ht.2.1 u rfl)
  quiet before raw after heq i hlo hhi := by
    cases before with
    | nil =>
      obtain ⟨rfl, -⟩ := List.cons.inj heq
      rw [Tokens.rawText_nil, String.length_empty, Nat.zero_add] at hhi
      exact ht.2.2 i hhi
    | cons u before =>
      obtain ⟨rfl, hrest⟩ := List.cons.inj heq
      rw [Tokens.rawText_cons, String.length_append] at hlo hhi
      obtain ⟨k, rfl⟩ := Nat.exists_eq_add_of_le (Nat.le_trans (Nat.le_add_right _ _) hlo)
      rw [occursAt_append]
      exact h.quiet before raw after hrest k (by omega) (by omega)

/-! ## One tokenization at most -/

theorem Leads.raw_ne {content : String} {t : Token} {rest : Tokens}
    (h : d.Leads content rest t) : t.raw ≠ "" := by
  cases t with
  | literal raw => exact h.1
  | placeholder raw name =>
    rw [Token.raw_placeholder, h.1, ← String.toList_inj.ne, String.toList_append,
      String.toList_append]
    exact d.enclose_ne_nil name.toList

/-- A reference starts where a placeholder does. -/
theorem Leads.occursAt {raw name : String} {rest : Tokens} {content : String} (tail : String)
    (h : d.Leads content rest (.placeholder raw name)) : d.OccursAt (raw ++ tail) 0 := by
  refine ⟨name.toList, tail.toList, ?_, h.2⟩
  rw [h.1, String.toList_append, String.toList_append, String.toList_append]
  rfl

theorem Tokenization.occursAt {raw name : String} {rest : Tokens} {content : String}
    (h : d.Tokenization content (.placeholder raw name :: rest)) : d.OccursAt content 0 := by
  rw [← h.rawText, Tokens.rawText_cons]
  exact h.leads.occursAt (Tokens.rawText rest)

theorem Tokenization.not_occursAt {raw : String} {rest : Tokens} {content : String}
    (h : d.Tokenization content (.literal raw :: rest)) : ¬ d.OccursAt content 0 := by
  obtain ⟨hne, -, hquiet⟩ := h.leads
  exact hquiet 0 (Nat.pos_of_ne_zero fun h0 => hne (String.length_eq_zero_iff.mp h0))

/-- A literal ends where the text does or a reference starts. -/
theorem Tokenization.literal_end {raw : String} {rest : Tokens} {content : String}
    (h : d.Tokenization content (.literal raw :: rest)) :
    content.length = raw.length ∨ d.OccursAt content raw.length := by
  rw [← h.rawText, Tokens.rawText_cons, Token.raw_literal]
  cases rest with
  | nil => left; simp
  | cons u rest =>
    right
    have hu := h.leads.2.1 u rfl
    cases u with
    | literal => cases hu
    | placeholder raw' name =>
      show d.OccursAt _ (raw.length + 0)
      rw [Tokens.rawText_cons, occursAt_append]
      exact h.tail.leads.occursAt (Tokens.rawText rest)

/-- Of two literals that start a text neither is the shorter one. -/
theorem Tokenization.literal_le {raw raw' : String} {rest rest' : Tokens} {content : String}
    (h : d.Tokenization content (.literal raw :: rest))
    (h' : d.Tokenization content (.literal raw' :: rest')) : raw'.length ≤ raw.length := by
  by_contra hlt
  rcases h.literal_end with hend | hocc
  · have := congrArg String.length h'.rawText
    rw [Tokens.rawText_cons, String.length_append, Token.raw_literal, hend] at this
    omega
  · exact h'.leads.2.2 raw.length (by omega) hocc

theorem Tokenization.head_eq {t u : Token} {rest rest' : Tokens} {content : String}
    (h : d.Tokenization content (t :: rest)) (h' : d.Tokenization content (u :: rest')) :
    t = u ∧ rest.rawText = rest'.rawText := by
  have heq : t.raw.toList ++ rest.rawText.toList = u.raw.toList ++ rest'.rawText.toList := by
    rw [← String.toList_append, ← String.toList_append, ← Tokens.rawText_cons,
      ← Tokens.rawText_cons, h.rawText, h'.rawText]
  cases t with
  | literal raw =>
    cases u with
    | literal raw' =>
      have hlen := Nat.le_antisymm (h'.literal_le h) (h.literal_le h')
      rw [← String.length_toList, ← String.length_toList] at hlen
      obtain ⟨hraw, hrest⟩ := List.append_inj heq hlen
      exact ⟨congrArg Token.literal (String.toList_inj.mp hraw), String.toList_inj.mp hrest⟩
    | placeholder => exact absurd h'.occursAt h.not_occursAt
  | placeholder raw name =>
    cases u with
    | literal => exact absurd h.occursAt h'.not_occursAt
    | placeholder raw' name' =>
      obtain ⟨hraw, hname⟩ := h.leads
      obtain ⟨hraw', hname'⟩ := h'.leads
      rw [Token.raw_placeholder, Token.raw_placeholder, hraw, hraw', String.toList_append,
        String.toList_append, String.toList_append, String.toList_append] at heq
      obtain ⟨hn, hrest⟩ := enclose_append_inj hname hname' heq
      have hn := String.toList_inj.mp hn
      exact ⟨by rw [hraw, hraw', hn], String.toList_inj.mp hrest⟩

/-- The empty text has no tokens. -/
theorem not_tokenization_cons (t : Token) (rest : Tokens) : ¬ d.Tokenization "" (t :: rest) := by
  intro h
  have hraw := h.rawText
  rw [Tokens.rawText_cons, String.append_eq_empty_iff] at hraw
  exact h.leads.raw_ne hraw.1

theorem Tokenization.unique {content : String} {a b : Tokens} (ha : d.Tokenization content a)
    (hb : d.Tokenization content b) : a = b := by
  induction a generalizing content b with
  | nil =>
    cases b with
    | nil => rfl
    | cons u rest' =>
      rw [← ha.rawText, Tokens.rawText_nil] at hb
      exact absurd hb (not_tokenization_cons u rest')
  | cons t rest ih =>
    cases b with
    | nil =>
      rw [← hb.rawText, Tokens.rawText_nil] at ha
      exact absurd ha (not_tokenization_cons t rest)
    | cons u rest' =>
      obtain ⟨rfl, hrest⟩ := ha.head_eq hb
      rw [ih ha.tail (hrest ▸ hb.tail)]

/-! ## The lexer finds it -/

/-- A match is a name between the delimiters. -/
theorem eq_enclose_of_match {raw rest : List Char} (hne : raw ≠ [])
    (h : d.lengthAt (raw ++ rest) = raw.length) : ∃ name, raw = d.enclose name ∧ d.IsName name := by
  have hpos : d.lengthAt (raw ++ rest) ≠ 0 := by
    rw [h]
    exact fun h0 => hne (List.length_eq_zero_iff.mp h0)
  obtain ⟨name, rest', heq, hname⟩ := eq_enclose_of_lengthAt hpos
  rw [heq, lengthAt_enclose hname] at h
  exact ⟨name, (List.append_inj heq h.symm).1, hname⟩

/-- The tokens of a reference and the gap before it. -/
theorem hitTokens_enclose (untrimmed : d.trims = false) {name : List Char} (h : d.IsName name)
    (gap : List Char) :
    d.lexer.hitTokens ⟨gap, d.enclose name⟩ =
      Lexer.literals gap ++ [.placeholder (String.ofList (d.enclose name)) (String.ofList name)] := by
  have hextract : d.lexer.extract (d.enclose name) = name := by
    show d.extract (d.enclose name) = name
    rw [extract, untrimmed, inner_enclose]
    rfl
  have hne : name.isEmpty = false := by simpa using h.ne_nil
  simp only [Lexer.hitTokens, hextract, hne, Bool.false_eq_true, if_false]

/-- A literal before tokens that start with a placeholder, or none. -/
theorem Tokenization.literals_append {gap : List Char} {rest : Tokens}
    (h : d.Tokenization rest.rawText rest) (hhead : ∀ t ∈ rest.head?, t.isPlaceholder)
    (hquiet : Scan.QuietFor d.lengthAt gap.length (gap ++ rest.rawText.toList)) :
    d.Tokenization (String.ofList gap ++ rest.rawText) (Lexer.literals gap ++ rest) := by
  cases gap with
  | nil => simpa [Lexer.literals] using h
  | cons c gap =>
    have hcontent : String.ofList ((c :: gap) ++ rest.rawText.toList) =
        String.ofList (c :: gap) ++ rest.rawText := by
      rw [String.ofList_append, String.ofList_toList]
    refine h.cons (t := .literal (String.ofList (c :: gap))) ⟨?_, hhead, ?_⟩
    · rw [← String.toList_inj.ne, String.toList_ofList]
      exact List.cons_ne_nil c gap
    · rw [String.length_ofList, Token.raw_literal, ← hcontent]
      exact not_occursAt_of_quietFor hquiet

theorem tokenization_ofMatches (untrimmed : d.trims = false) (cs : List Char) :
    d.Tokenization (String.ofList cs) (d.lexer.tokensOf (Scan.ofMatches d.lengthAt cs)) := by
  refine Scan.ofMatches_induction
    (P := fun cs scan => d.Tokenization (String.ofList cs) (d.lexer.tokensOf scan))
    d.lengthAt_le (fun rest hquiet => ?_) (fun gap raw rest hne hmatch hgap ih => ?_) cs
  · have hnil : d.Tokenization (Tokens.rawText []) [] := by
      rw [Tokens.rawText_nil]
      exact tokenization_nil d
    have hall : d.Tokenization (String.ofList rest ++ Tokens.rawText []) (Lexer.literals rest ++ []) :=
      hnil.literals_append (by simp) (by simpa using hquiet)
    simpa [Lexer.tokensOf] using hall
  · obtain ⟨name, rfl, hname⟩ := eq_enclose_of_match hne hmatch
    generalize htokens : d.lexer.tokensOf (Scan.ofMatches d.lengthAt rest) = tokens at ih
    have hrest := ih.rawText
    rw [← hrest] at ih
    have href := ih.cons (t := .placeholder (String.ofList (d.enclose name)) (String.ofList name))
      ⟨by simp [enclose, String.ofList_append, String.append_assoc], by rwa [String.toList_ofList]⟩
    rw [← Tokens.rawText_cons] at href
    have hall : d.Tokenization (String.ofList gap ++ _) (Lexer.literals gap ++ _) :=
      href.literals_append (by simp [Token.isPlaceholder]) (by simpa [hrest] using hgap)
    rw [Lexer.tokensOf_cons, hitTokens_enclose untrimmed hname, List.append_assoc]
    show d.Tokenization _ (_ ++ _ :: d.lexer.tokensOf (Scan.ofMatches d.lengthAt rest))
    rw [htokens]
    simpa [hrest, String.ofList_append] using hall

theorem tokenization_tokenize (untrimmed : d.trims = false) (content : String) :
    d.Tokenization content (d.lexer.tokenize content) := by
  have h := tokenization_ofMatches untrimmed content.toList
  rw [String.ofList_toList] at h
  exact h

/-- The lexer gives the one and only tokenization of a text. -/
theorem tokenize_eq_iff_tokenization (d : Delimiters) (untrimmed : d.trims = false)
    (content : String) (tokens : Tokens) :
    d.lexer.tokenize content = tokens ↔ d.Tokenization content tokens := by
  have hlexed : d.Tokenization content (d.lexer.tokenize content) := by
    have := tokenization_ofMatches untrimmed content.toList
    rwa [String.ofList_toList] at this
  exact ⟨fun h => h ▸ hlexed, fun h => hlexed.unique h⟩

/-- Delimiters that share a character, after two openings that come to nothing. -/
theorem tokenization_of_shared_delimiters :
    let d : Delimiters := ⟨"[*", "*]", false, by decide, by decide⟩
    let tokens : Tokens := [.literal "[[*", .placeholder "[*a*]" "a", .literal "*]"]
    d.trims = false ∧ d.lexer.tokenize "[[*[*a*]*]" = tokens ∧ d.Tokenization "[[*[*a*]*]" tokens := by
  intro d tokens
  have h : d.lexer.tokenize "[[*[*a*]*]" = tokens := by cbv
  exact ⟨rfl, h, (tokenize_eq_iff_tokenization d rfl _ _).mp h⟩

end Delimiters

end Phrasebook

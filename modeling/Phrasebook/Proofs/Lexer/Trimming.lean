import Mathlib.Data.List.Basic
import Mathlib.Data.List.TakeWhile
import Phrasebook.Lexer.Delimiters
import Phrasebook.Proofs.Lexer.Tokenization

/-!
# Trimming comes after lexing

Delimiters that trim find the same references as those that do not. What
trimming changes it changes token by token (`Token.trimmed?`): the blanks
around a name are taken off, and a placeholder of which nothing is left is
dropped (`tokenize_of_trims`). So a text loses by trimming the placeholders
that are all blank and nothing else (`tokenize_trimming`).
-/

namespace Phrasebook

namespace Text

theorem trimChars_eq_nil_iff {cs : List Char} : trimChars cs = [] ↔ ∀ c ∈ cs, isBlank c := by
  rw [trimChars, dropBlankEnd, List.reverse_eq_nil_iff, List.dropWhile_eq_nil_iff]
  simp only [List.mem_reverse]
  constructor
  · intro h
    -- What is left after the blanks at the start does not start with a blank.
    have hhead := List.head?_dropWhile_not isBlank cs
    cases hrest : cs.dropWhile isBlank with
    | nil => exact List.dropWhile_eq_nil_iff.mp hrest
    | cons c rest =>
      rw [hrest] at h hhead
      simp only [List.head?_cons] at hhead
      rw [h c List.mem_cons_self] at hhead
      cases hhead
  · intro h c hc
    exact h c ((List.dropWhile_sublist isBlank).mem hc)

theorem trim_eq_empty_iff {text : String} : trim text = "" ↔ ∀ c ∈ text.toList, isBlank c := by
  rw [← String.toList_inj, toList_trim, String.toList_empty, trimChars_eq_nil_iff]

end Text

/-- The references that name nothing, hit by hit. -/
theorem Lexer.dropped_eq_flatMap (lexer : Lexer) (content : String) :
    lexer.dropped content = (lexer.scan content.toList).hits.flatMap fun hit =>
      if (lexer.extract hit.raw).isEmpty then [String.ofList hit.raw] else [] := by
  rw [Lexer.dropped]
  induction (lexer.scan content.toList).hits with
  | nil => rfl
  | cons hit hits ih =>
    rw [List.filter_cons, List.flatMap_cons, ← ih]
    split <;> rfl

namespace Token

/-- The token with the blanks around its name taken off. -/
def trimmed : Token → Token
  | .literal raw => .literal raw
  | .placeholder raw name => .placeholder raw (Text.trim name)

/-- The token trimmed, unless nothing is left of its name. -/
def trimmed? (token : Token) : Option Token :=
  if token.trimmed.name? = some "" then none else some token.trimmed

/-- Whether the token is a placeholder whose name is all blank. -/
def isBlank : Token → Bool
  | .literal _ => false
  | .placeholder _ name => name.toList.all Text.isBlank

@[simp] theorem raw_trimmed (token : Token) : token.trimmed.raw = token.raw := by
  cases token <;> rfl

theorem name?_trimmed_eq_empty_iff {token : Token} :
    token.trimmed.name? = some "" ↔ token.isBlank := by
  cases token with
  | literal => exact ⟨fun h => (by cases h), fun h => (by cases h)⟩
  | placeholder raw name =>
    rw [trimmed, name?_placeholder, Option.some.injEq, Text.trim_eq_empty_iff, isBlank,
      List.all_eq_true]

end Token

/-- To trim tokens is to take the blanks off all names and then to drop the
placeholders without a name. -/
theorem Tokens.filterMap_trimmed? (tokens : Tokens) :
    tokens.filterMap Token.trimmed? =
      (tokens.map Token.trimmed).filter fun token => token.name? ≠ some "" := by
  rw [← List.filterMap_eq_filter, List.filterMap_map]
  refine List.filterMap_congr fun token _ => ?_
  simp [Token.trimmed?, Option.guard]

namespace Delimiters

variable (d : Delimiters)

/-- The same delimiters without trimming. -/
def untrimmed : Delimiters := { d with trims := false }

/-- The same delimiters with trimming. -/
def trimming : Delimiters := { d with trims := true }

theorem filterMap_literals (gap : List Char) :
    (Lexer.literals gap).filterMap Token.trimmed? = Lexer.literals gap := by
  rw [Lexer.literals]
  split <;> rfl

variable {d}

theorem hitTokens_of_trims (h : d.trims = true) (hit : Hit) :
    d.lexer.hitTokens hit = (d.untrimmed.lexer.hitTokens hit).filterMap Token.trimmed? := by
  have hextract : d.lexer.extract hit.raw = Text.trimChars (d.inner hit.raw) := if_pos h
  have hinner : d.untrimmed.lexer.extract hit.raw = d.inner hit.raw := rfl
  simp only [Lexer.hitTokens, hextract, hinner, List.filterMap_append, filterMap_literals]
  refine congrArg (Lexer.literals hit.gap ++ ·) ?_
  by_cases hnil : d.inner hit.raw = []
  · rw [hnil]
    rfl
  · simp only [List.isEmpty_iff, hnil, if_false]
    by_cases htrim : Text.trimChars (d.inner hit.raw) = []
    · simp [Token.trimmed?, Token.trimmed, Text.trim, htrim]
    · simp [Token.trimmed?, Token.trimmed, Text.trim, htrim]

/-- Trimming is done after lexing, token by token. -/
theorem tokenize_of_trims (h : d.trims = true) (content : String) :
    d.lexer.tokenize content = (d.untrimmed.lexer.tokenize content).filterMap Token.trimmed? := by
  have hscan : d.untrimmed.lexer.scan content.toList = d.lexer.scan content.toList := rfl
  rw [Lexer.tokenize, Lexer.tokenize, hscan, List.filterMap_append, List.filterMap_flatMap,
    filterMap_literals]
  refine congrArg (· ++ _) (List.flatMap_congr fun hit _ => ?_)
  exact hitTokens_of_trims h hit

/-! ## What a text loses by trimming -/

theorem filter_isBlank_literals (gap : List Char) :
    (Lexer.literals gap).filter Token.isBlank = [] := by
  rw [Lexer.literals]
  split <;> rfl

/-- What the scan of a text finds are names between the delimiters. -/
theorem eq_enclose_of_mem_hits (cs : List Char) :
    ∀ hit ∈ (Scan.ofMatches d.lengthAt cs).hits,
      ∃ name, hit.raw = d.enclose name ∧ d.IsName name := by
  refine Scan.ofMatches_induction
    (P := fun _ scan => ∀ hit ∈ scan.hits, ∃ name, hit.raw = d.enclose name ∧ d.IsName name)
    d.lengthAt_le (fun _ _ _ hmem => by cases hmem) (fun gap raw rest hne hmatch _ ih => ?_) cs
  intro hit hmem
  rcases List.mem_cons.mp hmem with rfl | hmem
  · exact eq_enclose_of_match hne hmatch
  · exact ih hit hmem

/-- The blank token of a reference is the reference itself if trimming leaves
nothing of its name. -/
theorem filter_isBlank_hitTokens (gap : List Char) {name : List Char} (h : d.IsName name) :
    ((d.untrimmed.lexer.hitTokens ⟨gap, d.enclose name⟩).filter Token.isBlank).map Token.raw =
      if (d.trimming.lexer.extract (d.enclose name)).isEmpty then [String.ofList (d.enclose name)]
      else [] := by
  have hextract : d.trimming.lexer.extract (d.enclose name) = Text.trimChars name :=
    congrArg Text.trimChars (d.inner_enclose name)
  have htokens : d.untrimmed.lexer.hitTokens ⟨gap, d.enclose name⟩ = Lexer.literals gap ++
      [.placeholder (String.ofList (d.enclose name)) (String.ofList name)] :=
    hitTokens_enclose (d := d.untrimmed) rfl ⟨h.ne_nil, h.not_mem⟩ gap
  have hblank : Token.isBlank (.placeholder (String.ofList (d.enclose name)) (String.ofList name)) =
      (Text.trimChars name).isEmpty := by
    rw [Bool.eq_iff_iff, List.isEmpty_iff, Text.trimChars_eq_nil_iff, Token.isBlank,
      String.toList_ofList, List.all_eq_true]
  rw [htokens, List.filter_append, filter_isBlank_literals, List.nil_append,
    List.filter_singleton, hblank, hextract]
  cases (Text.trimChars name).isEmpty <;> rfl

/-- Trimming drops the references whose names are all blank. -/
theorem dropped_trimming (d : Delimiters) (content : String) :
    d.trimming.lexer.dropped content =
      ((d.untrimmed.lexer.tokenize content).filter Token.isBlank).map Token.raw := by
  have hdropped := d.trimming.lexer.dropped_eq_flatMap content
  have htokens : (d.untrimmed.lexer.tokenize content).filter Token.isBlank =
      (Scan.ofMatches d.lengthAt content.toList).hits.flatMap fun hit =>
        (d.untrimmed.lexer.hitTokens hit).filter Token.isBlank := by
    rw [Lexer.tokenize, List.filter_append, filter_isBlank_literals, List.append_nil,
      List.filter_flatMap]
    rfl
  rw [hdropped, htokens, List.map_flatMap]
  refine List.flatMap_congr fun hit hmem => ?_
  obtain ⟨name, hraw, hname⟩ := eq_enclose_of_mem_hits content.toList hit hmem
  obtain ⟨gap, raw⟩ := hit
  subst hraw
  exact (filter_isBlank_hitTokens gap hname).symm

/-- Trimming takes the blanks off the names that are found without it and
drops the placeholders of which nothing is left; literals stay as they are. So
the text that is left is the text without the placeholders that are all blank,
and these are the references that are dropped. -/
theorem tokenize_trimming (d : Delimiters) (content : String) :
    let plain := d.untrimmed.lexer.tokenize content
    let tokens := d.trimming.lexer.tokenize content
    tokens = (plain.map Token.trimmed).filter (fun token => token.name? ≠ some "") ∧
      plain.rawText = content ∧
      tokens.rawText = Tokens.rawText (plain.filter fun token => !token.isBlank) ∧
      d.trimming.lexer.dropped content = (plain.filter Token.isBlank).map Token.raw := by
  intro plain tokens
  have htokens : tokens = (plain.map Token.trimmed).filter fun token => token.name? ≠ some "" :=
    (tokenize_of_trims (d := d.trimming) rfl content).trans (Tokens.filterMap_trimmed? plain)
  refine ⟨htokens, (tokenization_tokenize rfl content).rawText, ?_, dropped_trimming d content⟩
  have hkept : tokens = (plain.filter fun token => !token.isBlank).map Token.trimmed := by
    rw [htokens, List.filter_map]
    refine congrArg (List.map _) (List.filter_congr fun token _ => ?_)
    simp only [Function.comp_apply, ne_eq, Token.name?_trimmed_eq_empty_iff, Bool.decide_eq_true,
      decide_not]
  have hraw : Token.raw ∘ Token.trimmed = Token.raw := funext Token.raw_trimmed
  rw [hkept, Tokens.rawText, Tokens.rawText, List.map_map, hraw]

/-- The literals on both sides of a dropped reference stay apart. -/
example : braces.trimming.lexer.tokenize "a\x7b \x7db" = [.literal "a", .literal "b"] := by cbv

end Delimiters

end Phrasebook

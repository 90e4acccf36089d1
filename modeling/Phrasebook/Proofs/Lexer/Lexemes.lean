import Phrasebook.Lexer.Percent
import Phrasebook.Proofs.Lexer.Tokenization
import Phrasebook.Proofs.Lexer.Trimming

/-!
# Lexers by the places of references

A `Lexeme` finds the references of a text by their places: where each starts
and where it stops, one after the other. It makes a lexer with any way to take
the name out of a reference (`Lexeme.lexer`), and every lexer is made of one
(`Lexer.lexer_lexeme`).

The references divide a text into pieces (`Divides`): each is a piece of its
own, and so is the text between two of them, if there is any. A text is divided
in one way (`Divides.unique`), and the tokens are the pieces without the
references that name nothing (`Lexeme.tokenize_divided`).
-/

namespace Phrasebook

/-! ## Places in a text -/

/-- The characters of a text from one place up to another. -/
structure Span where
  start : Nat
  stop : Nat
  deriving DecidableEq

/-- The spans come one after the other from a place on, and end within a text of
that size. They may be empty. -/
def Span.Follow (size : Nat) : Nat → List Span → Prop
  | i, [] => i ≤ size
  | i, s :: spans => i ≤ s.start ∧ s.start ≤ s.stop ∧ Follow size s.stop spans

theorem Span.Follow.le {size i : Nat} {spans : List Span} (h : Follow size i spans) : i ≤ size := by
  induction spans generalizing i with
  | nil => exact h
  | cons s spans ih => exact Nat.le_trans h.1 (Nat.le_trans h.2.1 (ih h.2.2))

/-- The references of a text by their places. -/
structure Lexeme where
  find : List Char → List Span
  follow : ∀ cs, Span.Follow cs.length 0 (find cs)

/-- The scan of a text from a place on whose references are at these places. -/
def Scan.ofSpans (cs : List Char) : Nat → List Span → Scan
  | i, [] => ⟨[], cs.drop i⟩
  | i, s :: spans =>
    let scan := ofSpans cs s.stop spans
    ⟨⟨cs.extract i s.start, cs.extract s.start s.stop⟩ :: scan.hits, scan.rest⟩

theorem extract_append_drop {α : Type} (xs : List α) {i j : Nat} (h : i ≤ j) :
    xs.extract i j ++ xs.drop j = xs.drop i := by
  obtain ⟨k, rfl⟩ := Nat.exists_eq_add_of_le h
  rw [List.extract_eq_take_drop, Nat.add_sub_cancel_left, ← List.drop_drop, List.take_append_drop]

theorem add_length_extract {α : Type} {xs : List α} {i j : Nat} (hij : i ≤ j)
    (hj : j ≤ xs.length) : i + (xs.extract i j).length = j := by
  rw [List.extract_eq_take_drop, List.length_take, List.length_drop]
  omega

theorem Scan.chars_cons (hit : Hit) (scan : Scan) :
    Scan.chars ⟨hit :: scan.hits, scan.rest⟩ = hit.gap ++ (hit.raw ++ scan.chars) := by
  simp [chars]

theorem Scan.chars_ofSpans {cs : List Char} {i : Nat} {spans : List Span}
    (h : Span.Follow cs.length i spans) : (ofSpans cs i spans).chars = cs.drop i := by
  induction spans generalizing i with
  | nil => rfl
  | cons s spans ih =>
    obtain ⟨hstart, hstop, hrest⟩ := h
    rw [ofSpans, chars_cons, ih hrest, extract_append_drop cs hstop, extract_append_drop cs hstart]

/-- The lexer that finds references at these places. -/
def Lexeme.lexer (lexeme : Lexeme) (extract : List Char → List Char) : Lexer where
  scan cs := Scan.ofSpans cs 0 (lexeme.find cs)
  chars_scan cs := by rw [Scan.chars_ofSpans (lexeme.follow cs), List.drop_zero]
  extract := extract

/-! ## Every lexer finds references by their places -/

/-- The places of references, the first gap starting at `i`. -/
def Hit.spans : Nat → List Hit → List Span
  | _, [] => []
  | i, hit :: hits =>
    let start := i + hit.gap.length
    ⟨start, start + hit.raw.length⟩ :: spans (start + hit.raw.length) hits

theorem Hit.follow_spans (scan : Scan) (i : Nat) :
    Span.Follow (i + scan.chars.length) i (spans i scan.hits) := by
  obtain ⟨hits, rest⟩ := scan
  induction hits generalizing i with
  | nil => exact Nat.le_add_right ..
  | cons hit hits ih =>
    have hnext := ih (i + hit.gap.length + hit.raw.length)
    rw [Scan.chars_cons hit ⟨hits, rest⟩, List.length_append, List.length_append, ← Nat.add_assoc,
      ← Nat.add_assoc]
    exact ⟨Nat.le_add_right .., Nat.le_add_right .., hnext⟩

theorem extract_append_mid {α : Type} (pre mid suf : List α) :
    (pre ++ (mid ++ suf)).extract pre.length (pre.length + mid.length) = mid := by
  rw [List.extract_eq_take_drop, List.drop_left, Nat.add_sub_cancel_left, List.take_left]

/-- A scan is told by the places of its references. -/
theorem Scan.ofSpans_spans (pre : List Char) (scan : Scan) :
    ofSpans (pre ++ scan.chars) pre.length (Hit.spans pre.length scan.hits) = scan := by
  obtain ⟨hits, rest⟩ := scan
  -- Each step moves a gap and its reference to the text before.
  induction hits generalizing pre with
  | nil => simp [Hit.spans, ofSpans, chars]
  | cons hit hits ih =>
    have hraw := extract_append_mid (pre ++ hit.gap) hit.raw (chars ⟨hits, rest⟩)
    have hnext := ih (pre ++ hit.gap ++ hit.raw)
    rw [List.length_append, List.append_assoc] at hraw
    simp only [List.append_assoc, List.length_append, ← Nat.add_assoc] at hnext
    rw [Hit.spans, ofSpans, chars_cons hit ⟨hits, rest⟩, hnext, hraw, extract_append_mid]

/-- The lexeme of a lexer. -/
def Lexer.lexeme (lexer : Lexer) : Lexeme where
  find cs := Hit.spans 0 (lexer.scan cs).hits
  follow cs := by
    have h := Hit.follow_spans (lexer.scan cs) 0
    rwa [Nat.zero_add, lexer.chars_scan] at h

/-- Every lexer is the one of its lexeme. -/
theorem Lexer.lexer_lexeme (lexer : Lexer) : lexer.lexeme.lexer lexer.extract = lexer := by
  have hscan : (lexer.lexeme.lexer lexer.extract).scan = lexer.scan := by
    funext cs
    have h := Scan.ofSpans_spans [] (lexer.scan cs)
    rwa [List.nil_append, lexer.chars_scan] at h
  cases lexer
  simp only [Lexeme.lexer, Lexer.mk.injEq, and_true]
  exact hscan

/-! ## Dividing a text -/

namespace Tokens

/-- The places of the placeholders, the first token starting at `i`. -/
def spans : Nat → Tokens → List Span
  | _, [] => []
  | i, .literal raw :: tokens => spans (i + raw.length) tokens
  | i, .placeholder raw _ :: tokens =>
    ⟨i, i + raw.length⟩ :: spans (i + raw.length) tokens

/-- The pieces divide a text that starts at place `i` and has references at the
given places: these references, with the name that is taken out of each, which
may be empty, and the text between them. -/
structure Divides (extract : List Char → List Char) (i : Nat) (places : List Span) (text : String)
    (pieces : Tokens) : Prop where
  /-- No text is lost. -/
  rawText : pieces.rawText = text
  /-- The references are where they are found. -/
  spans : pieces.spans i = places
  named : ∀ raw name, .placeholder raw name ∈ pieces → name = String.ofList (extract raw.toList)
  literal_ne : ∀ raw, .literal raw ∈ pieces → raw ≠ ""
  /-- No two literals are adjacent. -/
  separate : pieces.IsChain fun a b => a.isPlaceholder ∨ b.isPlaceholder

variable {extract : List Char → List Char} {i : Nat} {places : List Span} {text : String}
  {pieces : Tokens}

theorem divides_nil (extract : List Char → List Char) (i : Nat) : Divides extract i [] "" [] where
  rawText := rawText_nil
  spans := rfl
  named _ _ h := by cases h
  literal_ne _ h := by cases h
  separate := .nil

/-- One more reference in front. -/
theorem Divides.placeholder {raw : String} {stop : Nat}
    (h : Divides extract stop places text pieces) (hstop : i + raw.length = stop) :
    Divides extract i (⟨i, stop⟩ :: places) (raw ++ text)
      (.placeholder raw (String.ofList (extract raw.toList)) :: pieces) where
  rawText := by rw [rawText_cons, h.rawText, Token.raw_placeholder]
  spans := by rw [Tokens.spans, hstop, h.spans]
  named raw' name hmem := by
    rcases List.mem_cons.mp hmem with heq | hmem
    · cases heq
      rfl
    · exact h.named raw' name hmem
  literal_ne raw' hmem := h.literal_ne raw' ((List.mem_cons.mp hmem).resolve_left (by simp))
  separate := by
    cases pieces with
    | nil => exact .singleton _
    | cons piece pieces => exact List.isChain_cons_cons.mpr ⟨.inl rfl, h.separate⟩

/-- Text in front of a reference, or all the text. -/
theorem Divides.literals {gap : List Char} {start : Nat}
    (h : Divides extract start places text pieces) (hstart : i + gap.length = start)
    (hhead : ∀ t ∈ pieces.head?, t.isPlaceholder) :
    Divides extract i places (String.ofList gap ++ text) (Lexer.literals gap ++ pieces) := by
  cases gap with
  | nil =>
    obtain rfl : i = start := hstart
    simpa [Lexer.literals] using h
  | cons c gap =>
    have hraw : i + (String.ofList (c :: gap)).length = start := by
      rw [String.length_ofList, hstart]
    have hliterals : Lexer.literals (c :: gap) ++ pieces =
        .literal (String.ofList (c :: gap)) :: pieces := rfl
    rw [hliterals]
    exact
      { rawText := by rw [rawText_cons, h.rawText, Token.raw_literal]
        spans := by rw [Tokens.spans, hraw, h.spans]
        named := fun raw name hmem =>
          h.named raw name ((List.mem_cons.mp hmem).resolve_left (by simp))
        literal_ne := fun raw hmem => by
          rcases List.mem_cons.mp hmem with heq | hmem
          · cases heq
            rw [← String.toList_inj.ne, String.toList_ofList]
            exact List.cons_ne_nil c gap
          · exact h.literal_ne raw hmem
        separate := by
          cases pieces with
          | nil => exact .singleton _
          | cons piece pieces =>
            exact List.isChain_cons_cons.mpr ⟨.inr (hhead piece rfl), h.separate⟩ }

/-! ## One division at most -/

theorem Divides.tail {piece : Token} (h : Divides extract i places text (piece :: pieces)) :
    Divides extract (i + piece.raw.length) (pieces.spans (i + piece.raw.length)) pieces.rawText
      pieces where
  rawText := rfl
  spans := rfl
  named raw name hmem := h.named raw name (List.mem_cons_of_mem _ hmem)
  literal_ne raw hmem := h.literal_ne raw (List.mem_cons_of_mem _ hmem)
  separate := h.separate.of_cons

/-- A text without references is empty if it has no pieces. -/
theorem not_divides_cons (piece : Token) : ¬ Divides extract i [] "" (piece :: pieces) := by
  intro h
  cases piece with
  | literal raw =>
    have hraw := h.rawText
    rw [rawText_cons, String.append_eq_empty_iff] at hraw
    exact h.literal_ne raw List.mem_cons_self hraw.1
  | placeholder raw name => cases h.spans

/-- Whether the first piece is a reference, and its length, as the places of the
references tell: one that starts at once, or the text before the first. -/
def firstPiece (i : Nat) (text : String) : List Span → Bool × Nat
  | [] => (false, text.length)
  | s :: _ => if s.start = i then (true, s.stop - i) else (false, s.start - i)

theorem Divides.firstPiece_eq {piece : Token}
    (h : Divides extract i places text (piece :: pieces)) :
    firstPiece i text places = (piece.isPlaceholder, piece.raw.length) := by
  rw [← h.spans, ← h.rawText]
  cases piece with
  | placeholder raw name =>
    rw [Tokens.spans, firstPiece, if_pos rfl, Nat.add_sub_cancel_left]
    rfl
  | literal raw =>
    -- What follows a literal is a reference, and a literal is not empty: the
    -- first reference starts later.
    cases pieces with
    | nil => simp [Tokens.spans, firstPiece, Token.isPlaceholder]
    | cons next pieces =>
      have hnext := (List.isChain_cons_cons.mp h.separate).1
      cases next with
      | literal => simp [Token.isPlaceholder] at hnext
      | placeholder raw' name =>
        have hne : i + raw.length ≠ i := by
          have hpos := String.length_eq_zero_iff.not.mpr (h.literal_ne raw List.mem_cons_self)
          omega
        rw [Tokens.spans, Tokens.spans, firstPiece, if_neg hne, Nat.add_sub_cancel_left]
        rfl

/-- Two divisions of a text start with one piece, and go on with divisions of
one text. -/
theorem Divides.head_eq {a b : Token} {other : Tokens}
    (h : Divides extract i places text (a :: pieces))
    (h' : Divides extract i places text (b :: other)) :
    a = b ∧ pieces.rawText = other.rawText ∧
      pieces.spans (i + a.raw.length) = other.spans (i + a.raw.length) := by
  obtain ⟨hkind, hlength⟩ := Prod.mk.inj (h.firstPiece_eq.symm.trans h'.firstPiece_eq)
  have htext : a.raw.toList ++ pieces.rawText.toList = b.raw.toList ++ other.rawText.toList := by
    rw [← String.toList_append, ← String.toList_append, ← rawText_cons, ← rawText_cons, h.rawText,
      h'.rawText]
  rw [← String.length_toList, ← String.length_toList] at hlength
  obtain ⟨hraw, hrest⟩ := List.append_inj htext hlength
  have hraw : a.raw = b.raw := String.toList_inj.mp hraw
  have hrest : pieces.rawText = other.rawText := String.toList_inj.mp hrest
  have hspans := h.spans.trans h'.spans.symm
  cases a with
  | literal raw =>
    cases b with
    | literal raw' =>
      obtain rfl : raw = raw' := hraw
      exact ⟨rfl, hrest, hspans⟩
    | placeholder => cases hkind
  | placeholder raw name =>
    cases b with
    | literal => cases hkind
    | placeholder raw' name' =>
      obtain rfl : raw = raw' := hraw
      obtain rfl : name = name' :=
        (h.named raw name List.mem_cons_self).trans (h'.named raw name' List.mem_cons_self).symm
      exact ⟨rfl, hrest, (List.cons.inj hspans).2⟩

/-- A text is divided in one way at most. -/
theorem Divides.unique {other : Tokens} (h : Divides extract i places text pieces)
    (h' : Divides extract i places text other) : pieces = other := by
  induction pieces generalizing i places text other with
  | nil =>
    cases other with
    | nil => rfl
    | cons b other =>
      rw [← h.rawText, ← h.spans, rawText_nil] at h'
      exact absurd h' (not_divides_cons b)
  | cons a pieces ih =>
    cases other with
    | nil =>
      rw [← h'.rawText, ← h'.spans, rawText_nil] at h
      exact absurd h (not_divides_cons a)
    | cons b other =>
      obtain ⟨rfl, htext, hspans⟩ := h.head_eq h'
      rw [ih h.tail (htext ▸ hspans ▸ h'.tail)]

end Tokens

/-! ## The pieces of a text -/

namespace Lexer

variable (lexer : Lexer)

/-- A reference and the text before it, as pieces. -/
def hitPieces (hit : Hit) : Tokens :=
  literals hit.gap ++
    [.placeholder (String.ofList hit.raw) (String.ofList (lexer.extract hit.raw))]

/-- The pieces of a scanned text. -/
def pieces (scan : Scan) : Tokens := scan.hits.flatMap lexer.hitPieces ++ literals scan.rest

end Lexer

namespace Token

/-- Whether the token is a reference that names nothing. -/
def isNameless (token : Token) : Bool := token.name? == some ""

end Token

namespace Lexer

variable (lexer : Lexer)

theorem filter_isNameless_literals (gap : List Char) :
    (literals gap).filter Token.isNameless = [] := by
  rw [literals]
  split <;> rfl

theorem filter_not_isNameless_literals (gap : List Char) :
    (literals gap).filter (fun token => !token.isNameless) = literals gap := by
  rw [literals]
  split <;> rfl

theorem isNameless_placeholder (raw : String) (name : List Char) :
    Token.isNameless (.placeholder raw (String.ofList name)) = name.isEmpty := by
  rw [Bool.eq_iff_iff, Token.isNameless, Token.name?_placeholder, beq_iff_eq, Option.some.injEq,
    List.isEmpty_iff, ← String.toList_inj, String.toList_ofList, String.toList_empty]

/-- The tokens are the pieces that name something. -/
theorem hitTokens_eq_filter (hit : Hit) :
    lexer.hitTokens hit = (lexer.hitPieces hit).filter fun token => !token.isNameless := by
  rw [hitPieces, List.filter_append, filter_not_isNameless_literals, List.filter_singleton,
    isNameless_placeholder]
  cases hname : (lexer.extract hit.raw).isEmpty <;> simp [hitTokens, hname]

theorem tokenize_eq_filter (content : String) :
    lexer.tokenize content =
      (lexer.pieces (lexer.scan content.toList)).filter fun token => !token.isNameless := by
  rw [pieces, List.filter_append, List.filter_flatMap, filter_not_isNameless_literals, tokenize]
  exact congrArg (· ++ _) (List.flatMap_congr fun hit _ => lexer.hitTokens_eq_filter hit)

theorem dropped_eq_filter (content : String) :
    lexer.dropped content =
      ((lexer.pieces (lexer.scan content.toList)).filter Token.isNameless).map Token.raw := by
  rw [pieces, List.filter_append, List.filter_flatMap, filter_isNameless_literals, List.append_nil,
    dropped_eq_flatMap, List.map_flatMap]
  refine List.flatMap_congr fun hit _ => ?_
  rw [hitPieces, List.filter_append, filter_isNameless_literals, List.nil_append,
    List.filter_singleton, isNameless_placeholder]
  cases (lexer.extract hit.raw).isEmpty <;> rfl

theorem pieces_cons (hit : Hit) (scan : Scan) :
    lexer.pieces ⟨hit :: scan.hits, scan.rest⟩ = literals hit.gap ++
      .placeholder (String.ofList hit.raw) (String.ofList (lexer.extract hit.raw)) ::
        lexer.pieces scan := by
  rw [pieces, List.flatMap_cons, hitPieces, List.append_assoc, List.append_assoc]
  rfl

/-- From each place on the pieces of a text divide it at the references. -/
theorem divides_ofSpans {cs : List Char} {i : Nat} {spans : List Span}
    (h : Span.Follow cs.length i spans) :
    Tokens.Divides lexer.extract i spans (String.ofList (cs.drop i))
      (lexer.pieces (Scan.ofSpans cs i spans)) := by
  induction spans generalizing i with
  | nil =>
    have hrest : Tokens.Divides lexer.extract i [] (String.ofList (cs.drop i) ++ "")
        (literals (cs.drop i) ++ []) :=
      (Tokens.divides_nil lexer.extract _).literals rfl (by simp)
    rwa [String.append_empty, List.append_nil] at hrest
  | cons s spans ih =>
    obtain ⟨hstart, hstop, hrest⟩ := h
    have hraw : s.start + (String.ofList (cs.extract s.start s.stop)).length = s.stop := by
      rw [String.length_ofList, add_length_extract hstop hrest.le]
    have hgap := add_length_extract hstart (Nat.le_trans hstop hrest.le)
    have hpieces := ((ih hrest).placeholder hraw).literals hgap (by simp [Token.isPlaceholder])
    rw [← String.ofList_append, ← String.ofList_append, extract_append_drop cs hstop,
      extract_append_drop cs hstart, String.toList_ofList] at hpieces
    rwa [Scan.ofSpans, pieces_cons]

end Lexer

/-- What is next to each other after a filter has only what was left out between. -/
theorem exists_between_of_filter {α : Type} {p : α → Bool} {xs before after : List α} {a b : α}
    (h : xs.filter p = before ++ a :: b :: after) :
    ∃ front between back, xs = front ++ a :: (between ++ b :: back) ∧
      ∀ x ∈ between, p x = false := by
  obtain ⟨front, rest, rfl, -, hrest⟩ := List.filter_eq_append_iff.mp h
  obtain ⟨more, rest, rfl, -, -, hrest⟩ := List.filter_eq_cons_iff.mp hrest
  obtain ⟨between, back, rfl, hbetween, -, -⟩ := List.filter_eq_cons_iff.mp hrest
  refine ⟨front ++ more, between, back, by simp, fun x hx => ?_⟩
  simpa using hbetween x hx

/-- Two literals that are next to each other once the references that name
nothing are left out had some of these between them, for the literals of a
division are never adjacent. -/
theorem Tokens.Divides.exists_nameless_between {extract : List Char → List Char} {i : Nat}
    {places : List Span} {text : String} {pieces before after : Tokens} {a b : String}
    (h : Divides extract i places text pieces)
    (hfilter : pieces.filter (fun token => !token.isNameless) =
      before ++ .literal a :: .literal b :: after) :
    ∃ front lost back, pieces = front ++ .literal a :: (lost ++ .literal b :: back) ∧
      lost ≠ [] ∧ ∀ token ∈ lost, token.isNameless := by
  obtain ⟨front, lost, back, rfl, hlost⟩ := exists_between_of_filter hfilter
  refine ⟨front, lost, back, rfl, ?_, fun token htoken => by simpa using hlost token htoken⟩
  rintro rfl
  have hnext := (List.isChain_append.mp h.separate).2.1
  have hadjacent := (List.isChain_cons_cons.mp hnext).1
  simp [Token.isPlaceholder] at hadjacent

namespace Lexeme

/-- A text is divided in one way: at its references, wherever they are and
whatever names are taken out of them. Its tokens are the pieces without the
references that name nothing, so that two literals are next to each other only
where such references lay between them. -/
theorem tokenize_divided (lexeme : Lexeme) (extract : List Char → List Char) (content : String) :
    let lexer := lexeme.lexer extract
    ∃ pieces : Tokens,
      (∀ other, Tokens.Divides extract 0 (lexeme.find content.toList) content other ↔
        other = pieces) ∧
      lexer.tokenize content = pieces.filter (fun token => !token.isNameless) ∧
      lexer.dropped content = (pieces.filter Token.isNameless).map Token.raw ∧
      ∀ before a b after, lexer.tokenize content = before ++ .literal a :: .literal b :: after →
        ∃ front lost back, pieces = front ++ .literal a :: (lost ++ .literal b :: back) ∧
          lost ≠ [] ∧ ∀ token ∈ lost, token.isNameless := by
  intro lexer
  have hdivides : Tokens.Divides extract 0 (lexeme.find content.toList) content
      (lexer.pieces (lexer.scan content.toList)) := by
    have h := lexer.divides_ofSpans (lexeme.follow content.toList)
    rwa [List.drop_zero, String.ofList_toList] at h
  have htokens := lexer.tokenize_eq_filter content
  refine ⟨_, fun other => ⟨fun h => h.unique hdivides, fun h => h ▸ hdivides⟩, htokens,
    lexer.dropped_eq_filter content, fun before a b after h => ?_⟩
  exact hdivides.exists_nameless_between (htokens.symm.trans h)

/-- References that name nothing, at the start of the text and between literals. -/
example : Lexer.percent.tokenize "%%a A%B%%C" =
    [.placeholder "%a" "a", .literal " A", .literal "B", .literal "C"] := by
  decide +kernel

end Lexeme

end Phrasebook

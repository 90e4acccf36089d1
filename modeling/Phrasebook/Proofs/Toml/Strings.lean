import Phrasebook.Toml.Quoted

/-!
# Reading back TOML strings

A text that is written as a string is read back, in whichever of the four forms
it is written (`readQuoted?_quoted`):

* `readBasic?_escapedText`, `readBlock?_escapedText`: what is written with
  escapes. A character is an escape that stands for it, or stands for itself
  (`escaped_cases`).
* `readLiteral?_append`, `readLiteralBlock?_append`: what is written as it is.

In a block, quotes that stand as they are count towards the three that close it,
so the two lemmas on blocks read from before such quotes on.
-/

namespace Phrasebook.Toml

/-! ## Escapes -/

@[simp] theorem prepend_some (c : Char) (cs rest : List Char) :
    prepend c (some (cs, rest)) = some (c :: cs, rest) := rfl

/-- The character is written as it is, and does not start an escape. -/
def StandsAsItIs (breaks : Bool) (c : Char) : Prop :=
  escaped breaks c = [c] ∧ c ≠ '\\' ∧ (isPlain c = true ∨ breaks = true ∧ c = '\n')

/-- The escape, after its backslash, stands for the character. -/
def StandsFor (c : Char) (tail : List Char) : Prop :=
  ∀ rest, escape? (tail ++ rest) = some (c, tail.length) ∧ joinsLine (tail ++ rest) = false

theorem codeDigits_eq (n : Nat) (h : (codeDigits n).length = 4) :
    ∃ a b c d, codeDigits n = [a, b, c, d] := by
  match hdigits : codeDigits n with
  | [a, b, c, d] => exact ⟨a, b, c, d, rfl⟩
  | [] | [_] | [_, _] | [_, _, _] | _ :: _ :: _ :: _ :: _ :: _ => simp [hdigits] at h

theorem hexValue?_codeDigits : ∀ n < 128,
    (codeDigits n).length = 4 ∧ hexValue? (codeDigits n) = some n ∧ charOf? n = some (Char.ofNat n) := by
  decide +kernel

/-- The code of a control character stands for it. -/
theorem standsFor_code {c : Char} (h : c.toNat < 128) : StandsFor c ('u' :: codeDigits c.toNat) := by
  intro rest
  obtain ⟨hlength, hvalue, hchar⟩ := hexValue?_codeDigits c.toNat h
  obtain ⟨a, b, c', d, hdigits⟩ := codeDigits_eq c.toNat hlength
  rw [hdigits] at hvalue
  rw [Char.ofNat_toNat] at hchar
  rw [hdigits]
  refine ⟨?_, rfl⟩
  simp only [List.cons_append, List.nil_append, escape?, hvalue, Option.bind_eq_bind,
    Option.bind_some, hchar]
  rfl

/-- A character is written as an escape that stands for it, or as it is. -/
theorem escaped_cases (breaks : Bool) (c : Char) :
    (∃ tail, escaped breaks c = '\\' :: tail ∧ StandsFor c tail) ∨ StandsAsItIs breaks c := by
  unfold StandsAsItIs escaped
  split
  · exact .inl ⟨['b'], rfl, fun rest => ⟨rfl, rfl⟩⟩
  · exact .inl ⟨['t'], rfl, fun rest => ⟨rfl, rfl⟩⟩
  · cases breaks with
    | false => exact .inl ⟨['n'], rfl, fun rest => ⟨rfl, rfl⟩⟩
    | true => exact .inr ⟨rfl, by decide, .inr ⟨rfl, rfl⟩⟩
  · exact .inl ⟨['f'], rfl, fun rest => ⟨rfl, rfl⟩⟩
  · exact .inl ⟨['r'], rfl, fun rest => ⟨rfl, rfl⟩⟩
  · exact .inl ⟨['\\'], rfl, fun rest => ⟨rfl, rfl⟩⟩
  · rename_i hslash
    split
    · rename_i hcode
      exact .inl ⟨_, rfl, standsFor_code (by simp at hcode; omega)⟩
    · rename_i hcode
      refine .inr ⟨rfl, hslash, .inl ?_⟩
      simp [isPlain] at hcode ⊢
      omega

theorem escapedText_quote_zero (breaks : Bool) (room : Nat) (cs : List Char) :
    escapedText breaks room 0 ('"' :: cs) = '\\' :: '"' :: escapedText breaks room room cs := rfl

theorem escapedText_quote_succ (breaks : Bool) (room left : Nat) (cs : List Char) :
    escapedText breaks room (left + 1) ('"' :: cs) = '"' :: escapedText breaks room left cs := rfl

theorem escapedText_cons {c : Char} (h : c ≠ '"') (breaks : Bool) (room left : Nat)
    (cs : List Char) :
    escapedText breaks room left (c :: cs) =
      escaped breaks c ++ escapedText breaks room room cs := by
  rw [escapedText]
  exact h

theorem standsFor_quote : StandsFor '"' ['"'] := fun _ => ⟨rfl, rfl⟩

/-! ## Strings on one line -/

theorem readBasic?_escape {c : Char} {tail : List Char} (h : StandsFor c tail)
    (rest : List Char) : readBasic? ('\\' :: tail ++ rest) = prepend c (readBasic? rest) := by
  rw [List.cons_append, readBasic?, (h rest).1]
  simp only [List.drop_left]

theorem readBasic?_cons {c : Char} (hquote : c ≠ '"') (hslash : c ≠ '\\')
    (hplain : isPlain c = true) (rest : List Char) :
    readBasic? (c :: rest) = prepend c (readBasic? rest) := by
  rw [readBasic?, if_pos hplain]
  · exact hquote
  · exact hslash

theorem readBasic?_escapedText (cs rest : List Char) :
    readBasic? (escapedText false 0 0 cs ++ '"' :: rest) = some (cs, rest) := by
  induction cs with
  | nil => rw [escapedText, List.nil_append, readBasic?]
  | cons c cs ih =>
    by_cases hquote : c = '"'
    · subst hquote
      rw [escapedText_quote_zero]
      exact (readBasic?_escape standsFor_quote (escapedText false 0 0 cs ++ '"' :: rest)).trans
        (by rw [ih, prepend_some])
    · rw [escapedText_cons hquote, List.append_assoc]
      obtain ⟨tail, hescaped, htail⟩ | ⟨hescaped, hslash, hplain⟩ := escaped_cases false c
      · rw [hescaped, readBasic?_escape htail, ih, prepend_some]
      · have hplain : isPlain c = true := hplain.resolve_right fun h => Bool.false_ne_true h.1
        rw [hescaped, List.singleton_append, readBasic?_cons hquote hslash hplain, ih, prepend_some]

theorem readLiteral?_append {cs : List Char} (h : ∀ c ∈ cs, isPlain c = true ∧ c ≠ '\'')
    (rest : List Char) : readLiteral? (cs ++ '\'' :: rest) = some (cs, rest) := by
  induction cs with
  | nil => rw [List.nil_append, readLiteral?]
  | cons c cs ih =>
    obtain ⟨⟨hplain, hquote⟩, hcs⟩ := List.forall_mem_cons.mp h
    rw [List.cons_append, readLiteral?, if_pos hplain, ih hcs, prepend_some]
    exact hquote

/-! ## Blocks -/

theorem closeBlock_replicate {quote : Char} {k : Nat} (hk : k ≤ 2) {rest : List Char}
    (hrest : rest.head? ≠ some quote) :
    closeBlock quote (List.replicate k quote ++ rest) = (List.replicate k quote, rest) := by
  have hmore : (((List.replicate k quote ++ rest).take 2).takeWhile (· == quote)).length = k := by
    rw [List.take_append, List.length_replicate, List.take_replicate, Nat.min_eq_right hk,
      List.takeWhile_append_of_pos fun c hc => by rw [List.eq_of_mem_replicate hc, beq_self_eq_true],
      List.length_append, List.length_replicate]
    cases rest with
    | nil => simp
    | cons c rest =>
      have hc : c ≠ quote := fun h => hrest (by rw [h]; rfl)
      cases hleft : 2 - k <;> simp [hc]
  rw [closeBlock, hmore, List.drop_left' (List.length_replicate ..)]

/-- Three quotes do not start where fewer are followed by something else. -/
theorem quotes_ne {quote c : Char} (hc : c ≠ quote) {k : Nat} (hk : k ≤ 1)
    (rest more : List Char) :
    quote :: (List.replicate k quote ++ c :: rest) ≠ quote :: quote :: quote :: more := by
  intro h
  match k, hk with
  | 0, _ => exact hc (List.cons.inj (List.cons.inj h).2).1
  | 1, _ => exact hc (List.cons.inj (List.cons.inj (List.cons.inj h).2).2).1

/-- The reader closes a block at three quotes, and takes fewer of them as they
are. -/
structure ReadsBlock (quote : Char) (read : List Char → Option (List Char × List Char)) :
    Prop where
  close : ∀ rest, read (quote :: quote :: quote :: rest) = some (closeBlock quote rest)
  quote : ∀ rest, (∀ more, quote :: rest ≠ quote :: quote :: quote :: more) →
    read (quote :: rest) = prepend quote (read rest)

namespace ReadsBlock

variable {quote : Char} {read : List Char → Option (List Char × List Char)}

/-- Quotes that stand in front of the three that close a block belong to its
text. -/
theorem close_quotes (hread : ReadsBlock quote read) {k : Nat} (hk : k ≤ 2) {rest : List Char}
    (hrest : rest.head? ≠ some quote) :
    read (List.replicate k quote ++ quote :: quote :: quote :: rest) =
      some (List.replicate k quote, rest) := by
  have hcommute : List.replicate k quote ++ quote :: quote :: quote :: rest =
      quote :: quote :: quote :: (List.replicate k quote ++ rest) := by
    match k, hk with
    | 0, _ | 1, _ | 2, _ => rfl
  rw [hcommute, hread.close, closeBlock_replicate hk hrest]

/-- Up to two quotes in front of anything but a quote belong to the text of a
block. -/
theorem quotes (hread : ReadsBlock quote read) {k : Nat} (hk : k ≤ 2) {c : Char} (hc : c ≠ quote)
    {rest text after : List Char} (h : read (c :: rest) = some (text, after)) :
    read (List.replicate k quote ++ c :: rest) =
      some (List.replicate k quote ++ text, after) := by
  induction k with
  | zero => exact h
  | succ k ih =>
    rw [List.replicate_succ, List.cons_append,
      hread.quote _ (quotes_ne hc (Nat.le_of_succ_le_succ hk) rest), ih (Nat.le_of_succ_le hk),
      prepend_some, List.cons_append]

end ReadsBlock

theorem readBlock?_cons {c : Char} {rest : List Char}
    (hquotes : ∀ more, c :: rest ≠ '"' :: '"' :: '"' :: more) (hslash : c ≠ '\\')
    (hplain : isPlain c = true ∨ c = '\n') :
    readBlock? (c :: rest) = prepend c (readBlock? rest) := by
  rw [readBlock?]
  · rw [if_pos]
    rcases hplain with h | h <;> simp [h]
  · rintro more rfl rfl
    exact hquotes more rfl
  · exact hslash
  · rintro more rfl -
    exact absurd hplain (by decide)

theorem readBlock?_escape {c : Char} {tail : List Char} (h : StandsFor c tail)
    (rest : List Char) : readBlock? ('\\' :: tail ++ rest) = prepend c (readBlock? rest) := by
  rw [List.cons_append, readBlock?, (h rest).1, (h rest).2]
  simp only [List.drop_left, Bool.false_eq_true, if_false]

theorem readsBlock_basic : ReadsBlock '"' readBlock? where
  close rest := by rw [readBlock?]
  quote rest h := readBlock?_cons h (by decide) (.inl rfl)

/-- A quote after others is one more of them. -/
theorem replicate_sub_append {quote : Char} {left : Nat} (hleft : left + 1 ≤ 2)
    (cs : List Char) :
    List.replicate (2 - (left + 1)) quote ++ quote :: cs =
      List.replicate (2 - left) quote ++ cs := by
  have hmore : 2 - left = 2 - (left + 1) + 1 := by omega
  rw [hmore, List.replicate_succ', List.append_assoc, List.singleton_append]

/-- The block is read from `2 - left` quotes that stand before the text: as many
as were written since the last character that is none. -/
theorem readBlock?_escapedText {left : Nat} (hleft : left ≤ 2) (cs : List Char)
    {rest : List Char} (hrest : rest.head? ≠ some '"') :
    readBlock? (List.replicate (2 - left) '"' ++
        (escapedText true 2 left cs ++ '"' :: '"' :: '"' :: rest)) =
      some (List.replicate (2 - left) '"' ++ cs, rest) := by
  induction cs generalizing left with
  | nil =>
    rw [escapedText, List.nil_append, List.append_nil]
    exact readsBlock_basic.close_quotes (Nat.sub_le 2 left) hrest
  | cons c cs ih =>
    have hnext := ih (Nat.le_refl 2)
    rw [Nat.sub_self, List.replicate_zero, List.nil_append, List.nil_append] at hnext
    by_cases hquote : c = '"'
    · subst hquote
      cases left with
      | zero =>
        rw [escapedText_quote_zero, List.cons_append]
        refine readsBlock_basic.quotes (Nat.sub_le 2 0) (by decide) ?_
        exact (readBlock?_escape standsFor_quote
          (escapedText true 2 2 cs ++ '"' :: '"' :: '"' :: rest)).trans
            (by rw [hnext, prepend_some])
      | succ left =>
        -- Not read yet: it joins the quotes before it.
        rw [escapedText_quote_succ, List.cons_append, replicate_sub_append hleft,
          replicate_sub_append hleft]
        exact ih (Nat.le_of_succ_le hleft)
    · rw [escapedText_cons hquote, List.append_assoc]
      obtain ⟨tail, hescaped, htail⟩ | ⟨hescaped, hslash, hplain⟩ := escaped_cases true c
      · rw [hescaped]
        refine readsBlock_basic.quotes (Nat.sub_le 2 left) (by decide) ?_
        exact (readBlock?_escape htail
          (escapedText true 2 2 cs ++ '"' :: '"' :: '"' :: rest)).trans
            (by rw [hnext, prepend_some])
      · have hquotes (more : List Char) :
            c :: (escapedText true 2 2 cs ++ '"' :: '"' :: '"' :: rest) ≠ '"' :: '"' :: '"' :: more :=
          fun h => hquote (List.cons.inj h).1
        rw [hescaped, List.singleton_append]
        refine readsBlock_basic.quotes (Nat.sub_le 2 left) hquote ?_
        rw [readBlock?_cons hquotes hslash (hplain.imp_right And.right), hnext, prepend_some]

/-- No run of the character is longer than `room`, and the one at the start not
longer than `left`. -/
def RunsFit (x : Char) (room : Nat) : Nat → List Char → Prop
  | _, [] => True
  | left, c :: cs => if c = x then 0 < left ∧ RunsFit x room (left - 1) cs else RunsFit x room room cs

/-- One more character after a run of the given length: the longest run so far,
and the run that ends here. -/
def extendRun (x : Char) (runs : Nat × Nat) (c : Char) : Nat × Nat :=
  if c = x then (max runs.1 (runs.2 + 1), runs.2 + 1) else (runs.1, 0)

theorem longestRun_eq (x : Char) (cs : List Char) :
    longestRun x cs = (cs.foldl (extendRun x) (0, 0)).1 := rfl

theorem le_foldl_extendRun (x : Char) (cs : List Char) (runs : Nat × Nat) :
    runs.1 ≤ (cs.foldl (extendRun x) runs).1 := by
  induction cs generalizing runs with
  | nil => exact Nat.le_refl _
  | cons c cs ih =>
    refine Nat.le_trans ?_ (ih (extendRun x runs c))
    rw [extendRun]
    split
    · exact Nat.le_max_left ..
    · exact Nat.le_refl _

theorem runsFit_of_foldl {x : Char} {room : Nat} {cs : List Char} {runs : Nat × Nat}
    (h : (cs.foldl (extendRun x) runs).1 ≤ room) : RunsFit x room (room - runs.2) cs := by
  induction cs generalizing runs with
  | nil => trivial
  | cons c cs ih =>
    have hbest := Nat.le_trans (le_foldl_extendRun x cs (extendRun x runs c)) h
    have hnext := ih h
    rw [extendRun] at hbest hnext
    rw [RunsFit]
    split
    · rename_i hc
      rw [if_pos hc] at hbest hnext
      have hrun : runs.2 + 1 ≤ room := Nat.le_trans (Nat.le_max_right ..) hbest
      exact ⟨by omega, hnext⟩
    · rename_i hc
      rwa [if_neg hc] at hnext

theorem runsFit_of_longestRun {x : Char} {room : Nat} {cs : List Char}
    (h : longestRun x cs ≤ room) : RunsFit x room room cs :=
  runsFit_of_foldl (longestRun_eq x cs ▸ h)

theorem not_mem_of_runsFit_zero {x : Char} {cs : List Char} (h : RunsFit x 0 0 cs) : x ∉ cs := by
  induction cs with
  | nil => exact List.not_mem_nil
  | cons c cs ih =>
    rw [RunsFit] at h
    split at h
    · exact absurd h.1 (Nat.lt_irrefl 0)
    · rename_i hc
      exact List.not_mem_cons_of_ne_of_not_mem (Ne.symm hc) (ih h)

theorem readLiteralBlock?_cons {c : Char} {rest : List Char}
    (hquotes : ∀ more, c :: rest ≠ '\'' :: '\'' :: '\'' :: more)
    (hplain : isPlain c = true ∨ c = '\n') :
    readLiteralBlock? (c :: rest) = prepend c (readLiteralBlock? rest) := by
  rw [readLiteralBlock?]
  · rw [if_pos]
    rcases hplain with h | h <;> simp [h]
  · rintro more rfl rfl
    exact hquotes more rfl
  · rintro more rfl -
    exact absurd hplain (by decide)

theorem readsBlock_literal : ReadsBlock '\'' readLiteralBlock? where
  close rest := by rw [readLiteralBlock?]
  quote rest h := readLiteralBlock?_cons h (.inl rfl)

theorem readLiteralBlock?_append {left : Nat} (hleft : left ≤ 2) {cs : List Char}
    (hplain : ∀ c ∈ cs, isPlain c = true ∨ c = '\n') (hfit : RunsFit '\'' 2 left cs)
    {rest : List Char} (hrest : rest.head? ≠ some '\'') :
    readLiteralBlock? (List.replicate (2 - left) '\'' ++ (cs ++ '\'' :: '\'' :: '\'' :: rest)) =
      some (List.replicate (2 - left) '\'' ++ cs, rest) := by
  induction cs generalizing left with
  | nil =>
    rw [List.nil_append, List.append_nil]
    exact readsBlock_literal.close_quotes (Nat.sub_le 2 left) hrest
  | cons c cs ih =>
    obtain ⟨hc, hcs⟩ := List.forall_mem_cons.mp hplain
    rw [RunsFit] at hfit
    split at hfit
    · rename_i hquote
      subst hquote
      obtain ⟨left, rfl⟩ := Nat.exists_eq_succ_of_ne_zero (Nat.ne_of_gt hfit.1)
      rw [List.cons_append, replicate_sub_append hleft, replicate_sub_append hleft]
      exact ih (Nat.le_of_succ_le hleft) hcs hfit.2
    · rename_i hquote
      have hnext := ih (Nat.le_refl 2) hcs hfit
      rw [Nat.sub_self, List.replicate_zero, List.nil_append, List.nil_append] at hnext
      rw [List.cons_append]
      refine readsBlock_literal.quotes (Nat.sub_le 2 left) hquote ?_
      rw [readLiteralBlock?_cons (fun more h => hquote (List.cons.inj h).1) hc, hnext, prepend_some]

/-! ## Any form -/

/-- What the form asks of the characters that are written as they are. -/
def Form.Suits (form : Form) (cs : List Char) : Prop :=
  match form with
  | .basic => True
  | .literal => ∀ c ∈ cs, isPlain c = true ∧ c ≠ '\''
  | .block => True
  | .literalBlock => (∀ c ∈ cs, isPlain c = true ∨ c = '\n') ∧ RunsFit '\'' 2 2 cs

theorem isPlain_or_eq_newline {c : Char} (h : isControl c = false) :
    isPlain c = true ∨ c = '\n' := by
  by_cases htab : c = '\t'
  · exact .inl (by rw [htab]; rfl)
  · by_cases hnewline : c = '\n'
    · exact .inr hnewline
    · refine .inl ?_
      simp [isControl, isPlain, htab, hnewline] at h ⊢
      omega

theorem suits_choose (cs : List Char) : (Form.choose cs).Suits cs := by
  have hplain (h : (!cs.any isControl) = true) : ∀ c ∈ cs, isPlain c = true ∨ c = '\n' := by
    intro c hc
    rw [Bool.not_eq_true', List.any_eq_false] at h
    exact isPlain_or_eq_newline (Bool.eq_false_iff.mpr (h c hc))
  unfold Form.choose
  dsimp only
  split
  · trivial
  split
  · rename_i h
    simp only [Bool.and_eq_true, decide_eq_true_eq] at h
    obtain ⟨⟨hcoded, hlines⟩, hrun⟩ := h
    intro c hc
    refine ⟨(hplain hcoded c hc).resolve_right ?_, ?_⟩
    · rintro rfl
      rw [List.contains_iff_mem.mpr hc] at hlines
      exact Bool.false_ne_true hlines
    · rintro rfl
      exact not_mem_of_runsFit_zero (runsFit_of_longestRun (Nat.le_of_eq hrun)) hc
  split
  · trivial
  split
  · rename_i h
    simp only [Bool.and_eq_true, decide_eq_true_eq] at h
    exact ⟨hplain h.1, runsFit_of_longestRun h.2⟩
  split
  · trivial
  · trivial

theorem skipFirstBreak_of_head {cs : List Char} (hnewline : cs.head? ≠ some '\n')
    (hreturn : cs.head? ≠ some '\r') : skipFirstBreak cs = cs := by
  unfold skipFirstBreak
  split
  · exact absurd rfl hnewline
  · exact absurd rfl hreturn
  · rfl

/-- The line break that a block starts with is no part of its text. -/
theorem skipFirstBreak_blockText {cs body : List Char} (rest : List Char)
    (hnewline : '\n' ∉ cs → (body ++ rest).head? ≠ some '\n')
    (hreturn : (body ++ rest).head? ≠ some '\r') :
    skipFirstBreak (blockText cs body ++ rest) = body ++ rest := by
  rw [blockText]
  split
  · rfl
  · rename_i hlines
    exact skipFirstBreak_of_head (hnewline fun h => hlines (List.contains_iff_mem.mpr h)) hreturn

theorem head?_ne {c d : Char} (h : c ≠ d) (cs : List Char) : (c :: cs).head? ≠ some d :=
  fun heq => h (Option.some.inj heq)

/-- What is written with escapes starts with a line break only if the text has
one. -/
theorem head?_escapedText (cs rest : List Char) :
    ('\n' ∉ cs → (escapedText true 2 2 cs ++ '"' :: rest).head? ≠ some '\n') ∧
      (escapedText true 2 2 cs ++ '"' :: rest).head? ≠ some '\r' := by
  cases cs with
  | nil => exact ⟨fun _ => head?_ne (by decide) _, head?_ne (by decide) _⟩
  | cons c cs =>
    by_cases hquote : c = '"'
    · subst hquote
      exact ⟨fun _ => head?_ne (by decide) _, head?_ne (by decide) _⟩
    · rw [escapedText_cons hquote]
      obtain ⟨tail, hescaped, -⟩ | ⟨hescaped, -, hplain⟩ := escaped_cases true c
      · rw [hescaped]
        exact ⟨fun _ => head?_ne (by decide) _, head?_ne (by decide) _⟩
      · rw [hescaped]
        refine ⟨fun hlines => head?_ne ?_ _, head?_ne ?_ _⟩
        · exact fun h => hlines (h ▸ List.mem_cons_self)
        · rintro rfl
          exact absurd hplain (by decide)

/-- What stands in a literal block starts with a line break only if the text has
one. -/
theorem head?_literalText {cs : List Char} (h : ∀ c ∈ cs, isPlain c = true ∨ c = '\n')
    (rest : List Char) :
    ('\n' ∉ cs → (cs ++ '\'' :: rest).head? ≠ some '\n') ∧
      (cs ++ '\'' :: rest).head? ≠ some '\r' := by
  cases cs with
  | nil => exact ⟨fun _ => head?_ne (by decide) _, head?_ne (by decide) _⟩
  | cons c cs =>
    refine ⟨fun hlines => head?_ne ?_ _, head?_ne ?_ _⟩
    · exact fun heq => hlines (heq ▸ List.mem_cons_self)
    · rintro rfl
      exact absurd (h _ List.mem_cons_self) (by decide)

theorem readQuoted?_basic {cs : List Char} (h : ∀ more, cs ≠ '"' :: '"' :: more) :
    readQuoted? ('"' :: cs) = readBasic? cs := by
  rw [readQuoted?]
  exact h

theorem readQuoted?_literal {cs : List Char} (h : ∀ more, cs ≠ '\'' :: '\'' :: more) :
    readQuoted? ('\'' :: cs) = readLiteral? cs := by
  rw [readQuoted?]
  exact h

/-- A string on one line does not start as a block does. -/
theorem escapedText_ne {cs rest : List Char} (hrest : rest.head? ≠ some '"') (more : List Char) :
    escapedText false 0 0 cs ++ '"' :: rest ≠ '"' :: '"' :: more := by
  intro h
  cases cs with
  | nil => exact hrest (by rw [(List.cons.inj h).2]; rfl)
  | cons c cs =>
    have hhead := congrArg List.head? h
    by_cases hquote : c = '"'
    · subst hquote
      exact absurd hhead (head?_ne (by decide) _)
    · rw [escapedText_cons hquote] at hhead
      obtain ⟨tail, hescaped, -⟩ | ⟨hescaped, -⟩ := escaped_cases false c
      · rw [hescaped] at hhead
        exact absurd hhead (head?_ne (by decide) _)
      · rw [hescaped] at hhead
        exact absurd hhead (head?_ne hquote _)

/-- A text that is written as a string is read back. -/
theorem readQuoted?_writeAs {form : Form} {cs : List Char} (h : form.Suits cs) {rest : List Char}
    (hquote : rest.head? ≠ some '"') (hliteral : rest.head? ≠ some '\'') :
    readQuoted? (writeAs form cs ++ rest) = some (cs, rest) := by
  cases form with
  | basic =>
    simp only [writeAs, List.append_assoc, List.cons_append, List.nil_append]
    rw [readQuoted?_basic (escapedText_ne hquote), readBasic?_escapedText]
  | literal =>
    have hopen (more : List Char) : cs ++ '\'' :: rest ≠ '\'' :: '\'' :: more := by
      intro hmore
      cases cs with
      | nil => exact hliteral (by rw [(List.cons.inj hmore).2]; rfl)
      | cons c cs => exact (h c List.mem_cons_self).2 (List.cons.inj hmore).1
    simp only [writeAs, List.append_assoc, List.cons_append, List.nil_append]
    rw [readQuoted?_literal hopen, readLiteral?_append h]
  | block =>
    obtain ⟨hnewline, hreturn⟩ := head?_escapedText cs ('"' :: '"' :: rest)
    simp only [writeAs, List.append_assoc, List.cons_append, List.nil_append]
    rw [readQuoted?, skipFirstBreak_blockText _ hnewline hreturn]
    exact readBlock?_escapedText (Nat.le_refl 2) cs hquote
  | literalBlock =>
    obtain ⟨hnewline, hreturn⟩ := head?_literalText h.1 ('\'' :: '\'' :: rest)
    simp only [writeAs, List.append_assoc, List.cons_append, List.nil_append]
    rw [readQuoted?, skipFirstBreak_blockText _ hnewline hreturn]
    exact readLiteralBlock?_append (Nat.le_refl 2) h.1 h.2 hliteral

/-- Reading undoes writing, whichever form is chosen. -/
theorem readQuoted?_quoted (text : String) {rest : List Char} (hquote : rest.head? ≠ some '"')
    (hliteral : rest.head? ≠ some '\'') :
    readQuoted? ((quoted text).toList ++ rest) = some (text.toList, rest) := by
  rw [quoted, String.toList_ofList]
  exact readQuoted?_writeAs (suits_choose text.toList) hquote hliteral

end Phrasebook.Toml

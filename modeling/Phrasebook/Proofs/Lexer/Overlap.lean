import Phrasebook.Proofs.Lexer.Tokenization

/-!
# No reference is lost to another

If the closing delimiter does not hold the first character of the opening one,
a reference that starts before another also ends before it
(`length_enclose_le`): the opening delimiter of the second would have to start
in the opening delimiter, the name or the closing delimiter of the first. So a
reference is a token wherever it stands in a text, and the tokens before and
after it are those of the text before and after (`tokenize_append_enclosed`).
-/

namespace Phrasebook.Delimiters

/-- The closing delimiter does not hold the first character of the opening one. -/
def OpensApart (d : Delimiters) : Prop := ∀ c ∈ d.opening.toList.head?, c ∉ d.closing.toList

variable {d : Delimiters}

/-! ## One reference after another -/

theorem getElem?_append_add {pre mid suf : List Char} {k : Nat} (hk : k < mid.length) :
    (pre ++ (mid ++ suf))[pre.length + k]? = mid[k]? := by
  rw [List.getElem?_append_right (Nat.le_add_right _ _), Nat.add_sub_cancel_left,
    List.getElem?_append_left hk]

theorem getElem?_enclose_name {name : List Char} {j : Nat} (hj : j < name.length)
    (rest : List Char) :
    (d.enclose name ++ rest)[d.opening.toList.length + j]? = name[j]? := by
  rw [enclose, List.append_assoc, List.append_assoc]
  exact getElem?_append_add hj

theorem getElem?_enclose_closing {name : List Char} {j : Nat} (hj : j < d.closing.toList.length)
    (rest : List Char) :
    (d.enclose name ++ rest)[d.opening.toList.length + name.length + j]? =
      d.closing.toList[j]? := by
  have hlen : (d.opening.toList ++ name).length = d.opening.toList.length + name.length :=
    List.length_append
  rw [enclose, List.append_assoc, ← hlen]
  exact getElem?_append_add hj

/-- A reference that starts after another starts after its end. -/
theorem length_enclose_le {name gap tail rest : List Char} (hapart : d.OpensApart)
    (hname : d.IsName name) (hgap : gap ≠ [])
    (heq : d.enclose name ++ rest = gap ++ (d.opening.toList ++ tail)) :
    (d.enclose name).length ≤ gap.length := by
  have hpos := List.length_pos_of_ne_nil hgap
  have hopen := List.length_pos_of_ne_nil d.opening_ne_nil
  have hbody := List.length_pos_of_ne_nil hname.ne_nil
  have hsecond : ∀ k < d.opening.toList.length,
      (d.enclose name ++ rest)[gap.length + k]? = d.opening.toList[k]? := by
    intro k hk
    rw [heq]
    exact getElem?_append_add hk
  have hlength : (d.enclose name).length =
      d.opening.toList.length + name.length + d.closing.toList.length := by
    simp only [enclose, List.length_append]
  by_contra hlt
  rcases Nat.lt_or_ge gap.length (d.opening.toList.length + name.length) with hin | hin
  · -- The second opening delimiter stands where the name has a character.
    obtain ⟨j, k, hj, hk, hjk⟩ : ∃ j k, j < name.length ∧ k < d.opening.toList.length ∧
        d.opening.toList.length + j = gap.length + k := by
      rcases Nat.le_total gap.length d.opening.toList.length with h | h
      · exact ⟨0, d.opening.toList.length - gap.length, hbody, by omega, by omega⟩
      · exact ⟨gap.length - d.opening.toList.length, 0, by omega, hopen, by omega⟩
    have hchar : name[j]? = d.opening.toList[k]? := by
      rw [← getElem?_enclose_name hj rest, hjk, hsecond k hk]
    rw [List.getElem?_eq_getElem hj] at hchar
    exact (hname.not_mem _ (List.getElem_mem hj)).1 (List.mem_of_getElem? hchar.symm)
  · -- It starts where the closing delimiter has a character.
    obtain ⟨j, hj⟩ := Nat.exists_eq_add_of_le hin
    have hclose : j < d.closing.toList.length := by omega
    have hchar : d.closing.toList[j]? = d.opening.toList[0]? := by
      rw [← getElem?_enclose_closing hclose rest, ← hj]
      exact hsecond 0 hopen
    rw [List.getElem?_eq_getElem hclose, ← List.head?_eq_getElem?] at hchar
    exact hapart _ hchar.symm (List.getElem_mem hclose)

/-- A reference that starts before an opening delimiter lies in the text before it. -/
theorem OccursAt.of_append {before tail : String} {i : Nat} (hapart : d.OpensApart)
    (hi : i < before.length) (h : d.OccursAt (before ++ (d.opening ++ tail)) i) :
    d.OccursAt before i := by
  obtain ⟨name, rest, heq, hname⟩ := h
  rw [← String.length_toList] at hi
  rw [String.toList_append, String.toList_append, List.drop_append_of_le_length hi.le] at heq
  have hgap : before.toList.drop i ≠ [] := by
    rw [ne_eq, List.drop_eq_nil_iff]
    omega
  have hle := length_enclose_le hapart hname hgap heq.symm
  obtain ⟨more, hmore⟩ : d.enclose name <+: before.toList.drop i :=
    List.prefix_of_prefix_length_le (List.prefix_append _ rest) (heq ▸ List.prefix_append _ _) hle
  exact ⟨name, more, hmore.symm, hname⟩

/-! ## Tokens before and after -/

/-- Tokenizations of two texts make one of both together if the second starts
with a placeholder and no reference starts in the first and ends in the second. -/
theorem Tokenization.append {content : String} {tokens rest : Tokens}
    (h : d.Tokenization content tokens) (hrest : d.Tokenization rest.rawText rest)
    (hhead : ∀ t ∈ rest.head?, t.isPlaceholder)
    (hwithin : ∀ i < content.length, d.OccursAt (content ++ rest.rawText) i → d.OccursAt content i) :
    d.Tokenization (content ++ rest.rawText) (tokens ++ rest) := by
  induction tokens generalizing content with
  | nil =>
    rw [← h.rawText, Tokens.rawText_nil, String.empty_append]
    exact hrest
  | cons t tokens ih =>
    have hraw := h.rawText
    rw [Tokens.rawText_cons] at hraw
    subst hraw
    have htail : d.Tokenization (Tokens.rawText tokens ++ rest.rawText) (tokens ++ rest) := by
      refine ih h.tail fun i hi hocc => ?_
      rw [← occursAt_append (s := t.raw)]
      refine hwithin _ ?_ ?_
      · rw [String.length_append]
        omega
      · rw [String.append_assoc, occursAt_append]
        exact hocc
    have hboth : Tokens.rawText (tokens ++ rest) = Tokens.rawText tokens ++ rest.rawText :=
      htail.rawText
    rw [← hboth] at htail
    rw [String.append_assoc, List.cons_append, ← hboth]
    refine htail.cons ?_
    have hlead := h.leads
    cases t with
    | placeholder raw name => exact hlead
    | literal raw =>
      obtain ⟨hne, hnext, hquiet⟩ := hlead
      refine ⟨hne, ?_, fun i hi hocc => hquiet i hi (hwithin i ?_ ?_)⟩
      · cases tokens with
        | nil => exact hhead
        | cons u tokens => exact hnext
      · rw [Token.raw_literal, String.length_append]
        omega
      · rw [String.append_assoc, ← hboth]
        exact hocc

/-- A name between the delimiters is a placeholder of the text wherever it
stands: it comes right after the tokens of the text before, which are that text
again, and the tokens of the text after follow. -/
theorem tokenize_append_enclosed (d : Delimiters) (untrimmed : d.trims = false)
    (hapart : d.OpensApart) (before name after : String) (hname : d.IsName name.toList) :
    let raw := d.opening ++ name ++ d.closing
    d.lexer.tokenize (before ++ raw ++ after) =
        d.lexer.tokenize before ++ .placeholder raw name :: d.lexer.tokenize after ∧
      (d.lexer.tokenize before).rawText = before := by
  intro raw
  have hbefore := tokenization_tokenize untrimmed before
  have hafter := tokenization_tokenize untrimmed after
  refine ⟨(tokenization_tokenize untrimmed _).unique ?_, hbefore.rawText⟩
  generalize d.lexer.tokenize after = tokens at hafter ⊢
  have htext := hafter.rawText
  subst htext
  have hfollowing := hafter.cons (t := .placeholder raw name) ⟨rfl, hname⟩
  rw [← Tokens.rawText_cons] at hfollowing
  have hall := hbefore.append hfollowing (by simp [Token.isPlaceholder]) fun i hi hocc => ?_
  · rwa [Tokens.rawText_cons, Token.raw_placeholder, ← String.append_assoc] at hall
  · have hopens : raw ++ tokens.rawText =
        d.opening ++ (name ++ (d.closing ++ tokens.rawText)) := by
      rw [String.append_assoc, String.append_assoc]
    rw [Tokens.rawText_cons, Token.raw_placeholder, hopens] at hocc
    exact hocc.of_append hapart hi

/-- After an opening delimiter that comes to nothing, right after another
reference, and before a closing delimiter too many. -/
theorem tokenize_append_enclosed_of_partial_opening :
    let d : Delimiters := ⟨"$\x7b", "\x7d", false, by decide, by decide⟩
    let raw := "$\x7bb\x7d"
    d.trims = false ∧ d.OpensApart ∧ d.IsName "b".toList ∧
      d.lexer.tokenize ("$\x7ba\x7d$\x7b$" ++ raw ++ "\x7d") =
        [.placeholder "$\x7ba\x7d" "a", .literal "$\x7b$", .placeholder raw "b", .literal "\x7d"] := by
  intro d raw
  have hapart : d.OpensApart := by simp [OpensApart, d]
  have hname : d.IsName "b".toList := ⟨by simp, by simp [d]⟩
  have htokens := (tokenize_append_enclosed d rfl hapart "$\x7ba\x7d$\x7b$" "b" "\x7d" hname).1
  refine ⟨rfl, hapart, hname, htokens.trans ?_⟩
  have hbefore : d.lexer.tokenize "$\x7ba\x7d$\x7b$" =
      [.placeholder "$\x7ba\x7d" "a", .literal "$\x7b$"] := by cbv
  have hafter : d.lexer.tokenize "\x7d" = [.literal "\x7d"] := by cbv
  rw [hbefore, hafter]
  rfl

end Phrasebook.Delimiters

import Phrasebook.Lexer.Basic

/-!
# Scanning in steps

`Scan.ofMatches` moves character by character. Here it moves from reference to
reference: text in which no reference starts becomes the gap before the next
one (`ofMatches_append`), a reference is taken as a whole
(`ofMatches_match`), and every text is one or the other (`gap_or_match`), so a
property of scans is proved by `ofMatches_induction`.
-/

namespace Phrasebook

namespace Scan

variable {lengthAt : List Char → Nat}

/-- No reference starts at one of the first `n` characters. -/
def QuietFor (lengthAt : List Char → Nat) (n : Nat) (cs : List Char) : Prop :=
  ∀ j < n, lengthAt (cs.drop j) = 0

theorem quietFor_zero (cs : List Char) : QuietFor lengthAt 0 cs :=
  fun _ h => absurd h (Nat.not_lt_zero _)

theorem quietFor_succ {n : Nat} {c : Char} {cs : List Char} :
    QuietFor lengthAt (n + 1) (c :: cs) ↔ lengthAt (c :: cs) = 0 ∧ QuietFor lengthAt n cs := by
  constructor
  · intro h
    exact ⟨h 0 (Nat.succ_pos n), fun j hj => h (j + 1) (Nat.succ_lt_succ hj)⟩
  · rintro ⟨h0, h⟩ j hj
    cases j with
    | zero => exact h0
    | succ j => exact h j (Nat.lt_of_succ_lt_succ hj)

/-- The scan with more text before it that belongs to no reference. -/
def prepend (gap : List Char) (scan : Scan) : Scan := gap.foldr consGap scan

@[simp] theorem prepend_nil (scan : Scan) : scan.prepend [] = scan := rfl

@[simp] theorem prepend_cons (c : Char) (gap : List Char) (scan : Scan) :
    scan.prepend (c :: gap) = (scan.prepend gap).consGap c := rfl

theorem prepend_rest (gap rest : List Char) : prepend gap ⟨[], rest⟩ = ⟨[], gap ++ rest⟩ := by
  induction gap with
  | nil => rfl
  | cons c gap ih => rw [prepend_cons, ih]; rfl

theorem prepend_consHit (gap raw : List Char) (scan : Scan) :
    (scan.consHit raw).prepend gap = ⟨⟨gap, raw⟩ :: scan.hits, scan.rest⟩ := by
  induction gap with
  | nil => rfl
  | cons c gap ih => rw [prepend_cons, ih]; rfl

theorem ofMatches_append {gap cs : List Char} (h : QuietFor lengthAt gap.length (gap ++ cs)) :
    ofMatches lengthAt (gap ++ cs) = (ofMatches lengthAt cs).prepend gap := by
  induction gap with
  | nil => rfl
  | cons c gap ih =>
    rw [List.cons_append] at h
    obtain ⟨h0, h⟩ := quietFor_succ.mp h
    rw [List.cons_append, ofMatches, ih h, prepend_cons]
    simp only [h0]

theorem ofMatches_match {raw rest : List Char} (hraw : raw ≠ [])
    (h : lengthAt (raw ++ rest) = raw.length) :
    ofMatches lengthAt (raw ++ rest) = (ofMatches lengthAt rest).consHit raw := by
  obtain ⟨c, tail, rfl⟩ := List.exists_cons_of_ne_nil hraw
  rw [List.cons_append] at h ⊢
  rw [ofMatches]
  simp only [h, List.length_cons, List.drop_left, List.take_left]

/-- In a text no reference starts, or one does after a gap in which none does. -/
theorem gap_or_match (lengthAt : List Char → Nat) (cs : List Char) :
    QuietFor lengthAt cs.length cs ∨
      ∃ gap rest, cs = gap ++ rest ∧ QuietFor lengthAt gap.length cs ∧ lengthAt rest ≠ 0 := by
  induction cs with
  | nil => exact .inl (quietFor_zero [])
  | cons c cs ih =>
    by_cases h0 : lengthAt (c :: cs) = 0
    · rcases ih with h | ⟨gap, rest, rfl, h, hrest⟩
      · exact .inl (quietFor_succ.mpr ⟨h0, h⟩)
      · exact .inr ⟨c :: gap, rest, rfl, quietFor_succ.mpr ⟨h0, h⟩, hrest⟩
    · exact .inr ⟨[], c :: cs, rfl, quietFor_zero _, h0⟩

/-- A scan reference by reference: the rest of the text, in which none starts,
or a gap, a reference and the scan of what follows. -/
theorem ofMatches_induction {P : List Char → Scan → Prop}
    (bounded : ∀ cs, lengthAt cs ≤ cs.length)
    (quiet : ∀ rest, QuietFor lengthAt rest.length rest → P rest ⟨[], rest⟩)
    (found : ∀ gap raw rest, raw ≠ [] → lengthAt (raw ++ rest) = raw.length →
      QuietFor lengthAt gap.length (gap ++ (raw ++ rest)) →
      P rest (ofMatches lengthAt rest) →
      P (gap ++ (raw ++ rest))
        ⟨⟨gap, raw⟩ :: (ofMatches lengthAt rest).hits, (ofMatches lengthAt rest).rest⟩)
    (cs : List Char) : P cs (ofMatches lengthAt cs) := by
  induction hn : cs.length using Nat.strongRecOn generalizing cs with
  | ind n ih =>
    rcases gap_or_match lengthAt cs with h | ⟨gap, tail, rfl, hgap, htail⟩
    · have hscan : ofMatches lengthAt (cs ++ []) = (ofMatches lengthAt []).prepend cs :=
        ofMatches_append (by rwa [List.append_nil])
      rw [List.append_nil, ofMatches, prepend_rest, List.append_nil] at hscan
      rw [hscan]
      exact quiet cs h
    · have hlen := List.length_take_of_le (bounded tail)
      have hshort : (tail.drop (lengthAt tail)).length < n := by
        rw [← hn, List.length_append, List.length_drop]
        have := bounded tail
        omega
      have hsplit := List.take_append_drop (lengthAt tail) tail
      generalize tail.take (lengthAt tail) = raw at hlen hsplit
      generalize tail.drop (lengthAt tail) = rest at hshort hsplit
      have hne : raw ≠ [] := by
        rintro rfl
        exact htail hlen.symm
      have hmatch : lengthAt (raw ++ rest) = raw.length := by rw [hsplit, hlen]
      rw [← hsplit] at hgap ⊢
      rw [ofMatches_append hgap, ofMatches_match hne hmatch, prepend_consHit]
      exact found gap raw rest hne hmatch hgap (ih _ hshort rest rfl)

end Scan

namespace Lexer

/-- The tokens of a scan. -/
def tokensOf (lexer : Lexer) (scan : Scan) : Tokens :=
  scan.hits.flatMap lexer.hitTokens ++ literals scan.rest

theorem tokensOf_cons (lexer : Lexer) (hit : Hit) (hits : List Hit) (rest : List Char) :
    lexer.tokensOf ⟨hit :: hits, rest⟩ = lexer.hitTokens hit ++ lexer.tokensOf ⟨hits, rest⟩ := by
  rw [tokensOf, tokensOf, List.flatMap_cons, List.append_assoc]

end Lexer

end Phrasebook

import Phrasebook.Lexer.Delimiters
import Phrasebook.Proofs.Lexer.Scan

/-!
# References between delimiters

What the lexer takes for a reference: the opening delimiter, a name, the
closing delimiter (`enclose`), where a name is one or more characters that
occur in neither (`IsName`). Since the closing delimiter starts with a
character that no name holds, the start of a text can be such a reference in
one way only (`enclose_append_inj`), and `lengthAt` finds it
(`lengthAt_enclose`, `eq_enclose_of_lengthAt`).
-/

namespace Phrasebook.Delimiters

variable (d : Delimiters)

/-- A name: characters of neither delimiter, at least one. -/
structure IsName (name : List Char) : Prop where
  ne_nil : name ≠ []
  not_mem : ∀ c ∈ name, c ∉ d.opening.toList ∧ c ∉ d.closing.toList

/-- A name between the delimiters. -/
def enclose (name : List Char) : List Char := d.opening.toList ++ name ++ d.closing.toList

theorem opening_ne_nil : d.opening.toList ≠ [] :=
  fun h => d.opening_ne (String.toList_eq_nil_iff.mp h)

theorem closing_ne_nil : d.closing.toList ≠ [] :=
  fun h => d.closing_ne (String.toList_eq_nil_iff.mp h)

theorem enclose_ne_nil (name : List Char) : d.enclose name ≠ [] := by
  rw [enclose, List.append_assoc]
  exact List.append_ne_nil_of_left_ne_nil (d.opening_ne_nil) _

variable {d}

theorem allows_iff {c : Char} :
    d.allows c ↔ c ∉ d.opening.toList ∧ c ∉ d.closing.toList := by
  simp [allows]

theorem IsName.allows {name : List Char} (h : d.IsName name) : ∀ c ∈ name, d.allows c :=
  fun c hc => allows_iff.mpr (h.not_mem c hc)

/-- Names end where the closing delimiter starts. -/
theorem takeWhile_allows {name : List Char} (h : d.IsName name) (rest : List Char) :
    (name ++ (d.closing.toList ++ rest)).takeWhile d.allows = name ∧
      (name ++ (d.closing.toList ++ rest)).dropWhile d.allows = d.closing.toList ++ rest := by
  obtain ⟨c, tail, hc⟩ := List.exists_cons_of_ne_nil d.closing_ne_nil
  have hstop : ¬ d.allows c := fun h => (allows_iff.mp h).2 (hc ▸ List.mem_cons_self)
  rw [List.takeWhile_append_of_pos h.allows, List.dropWhile_append_of_pos h.allows, hc,
    List.cons_append, List.takeWhile_cons_of_neg hstop, List.dropWhile_cons_of_neg hstop,
    List.append_nil]
  exact ⟨rfl, rfl⟩

/-- A text starts with a reference in at most one way. -/
theorem enclose_append_inj {name name' rest rest' : List Char} (h : d.IsName name)
    (h' : d.IsName name') (heq : d.enclose name ++ rest = d.enclose name' ++ rest') :
    name = name' ∧ rest = rest' := by
  simp only [enclose, List.append_assoc, List.append_cancel_left_eq] at heq
  have hname : name = name' := by
    rw [← (takeWhile_allows h rest).1, heq, (takeWhile_allows h' rest').1]
  rw [hname, List.append_cancel_left_eq, List.append_cancel_left_eq] at heq
  exact ⟨hname, heq⟩

theorem lengthAt_enclose {name : List Char} (h : d.IsName name) (rest : List Char) :
    d.lengthAt (d.enclose name ++ rest) = (d.enclose name).length := by
  have hopen : d.opening.toList.isPrefixOf (d.enclose name ++ rest) := by
    rw [List.isPrefixOf_iff_prefix, enclose, List.append_assoc, List.append_assoc]
    exact List.prefix_append _ _
  have hdrop : (d.enclose name ++ rest).drop d.opening.length =
      name ++ (d.closing.toList ++ rest) := by
    rw [enclose, List.append_assoc, List.append_assoc, ← String.length_toList, List.drop_left]
  have hclose : d.closing.toList.isPrefixOf (d.closing.toList ++ rest) :=
    List.isPrefixOf_iff_prefix.mpr (List.prefix_append _ _)
  have hne : !name.isEmpty := by simpa using h.ne_nil
  rw [lengthAt, if_pos hopen, hdrop, lengthAfter, (takeWhile_allows h rest).1,
    (takeWhile_allows h rest).2, hne, hclose]
  simp only [Bool.and_self, if_true, enclose, List.length_append, String.length_toList]

theorem eq_enclose_of_lengthAt {cs : List Char} (h : d.lengthAt cs ≠ 0) :
    ∃ name rest, cs = d.enclose name ++ rest ∧ d.IsName name := by
  rw [lengthAt] at h
  split at h
  · rename_i hopen
    rw [List.isPrefixOf_iff_prefix] at hopen
    obtain ⟨tail, rfl⟩ := hopen
    rw [← String.length_toList, List.drop_left, lengthAfter] at h
    split at h
    · rename_i hcond
      rw [Bool.and_eq_true, List.isPrefixOf_iff_prefix] at hcond
      obtain ⟨hname, rest, hrest⟩ := hcond
      refine ⟨tail.takeWhile d.allows, rest, ?_, ?_, fun c hc => ?_⟩
      · rw [enclose, List.append_assoc, List.append_assoc, hrest, List.takeWhile_append_dropWhile]
      · simpa using hname
      · exact allows_iff.mp (List.all_eq_true.mp List.all_takeWhile c hc)
    · exact absurd rfl h
  · exact absurd rfl h

theorem lengthAt_le (d : Delimiters) (cs : List Char) : d.lengthAt cs ≤ cs.length := by
  by_cases h : d.lengthAt cs = 0
  · rw [h]; exact Nat.zero_le _
  · obtain ⟨name, rest, rfl, hname⟩ := eq_enclose_of_lengthAt h
    rw [lengthAt_enclose hname, List.length_append]
    exact Nat.le_add_right _ _

/-- What stands between the delimiters of a reference is its name. -/
theorem inner_enclose (d : Delimiters) (name : List Char) : d.inner (d.enclose name) = name := by
  have hdrop : (d.enclose name).drop d.opening.toList.length = name ++ d.closing.toList := by
    rw [enclose, List.append_assoc, List.drop_left]
  have hopen : d.opening.toList.isPrefixOf (d.enclose name) := by
    rw [List.isPrefixOf_iff_prefix, enclose, List.append_assoc]
    exact List.prefix_append _ _
  have hclose : d.closing.toList.isSuffixOf (name ++ d.closing.toList) :=
    List.isSuffixOf_iff_suffix.mpr (List.suffix_append _ _)
  rw [inner]
  simp only [hdrop, hopen, hclose, Bool.and_self, if_true, List.length_append,
    Nat.add_sub_cancel, List.take_left]

end Phrasebook.Delimiters

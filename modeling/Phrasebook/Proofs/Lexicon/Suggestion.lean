import Mathlib.Data.List.Find
import Phrasebook.Proofs.Lexicon.Recall

/-!
# Suggested names

A suggestion is the nearest of the names that a lexicon has, by any score of how
near a name is. Of two names with their scores one is no farther than the other
(`NoFarther`): it has the higher score, or the same and is not the greater name.
The search keeps the nearest name so far (`closer`). `Kept` is what a step
leaves of it (`Kept.closer`), and so what a search comes to (`kept_foldl`).

A name is nearest among others by what they are, not by where they stand
(`IsNearest`), and only one is (`IsNearest.eq`). So a search finds the same name
in any order (`nearest?_congr`), and a suggestion depends on the names that a
lexicon has and on nothing else (`suggestBy?_isNearest`). Placeholders under
different keys may be registered in any order (`spellings_extend_perm`); of
those under one key a lexicon has the last.
-/

namespace Phrasebook

namespace Similarity

/-! ## Names with scores -/

/-- The first name is no farther than the second: it has a higher score, or the
same and is not greater. -/
def NoFarther (a b : Int × String) : Prop := b.1 ≤ a.1 ∧ (b.1 = a.1 → a.2 ≤ b.2)

namespace NoFarther

theorem refl (a : Int × String) : NoFarther a a := ⟨Int.le_refl a.1, fun _ => String.le_refl a.2⟩

theorem trans {a b c : Int × String} (hab : NoFarther a b) (hbc : NoFarther b c) :
    NoFarther a c := by
  refine ⟨Int.le_trans hbc.1 hab.1, fun hca => ?_⟩
  have hba : b.1 = a.1 := Int.le_antisymm hab.1 (hca ▸ hbc.1)
  exact String.le_trans (hab.2 hba) (hbc.2 (hca.trans hba.symm))

theorem antisymm {a b : Int × String} (hab : NoFarther a b) (hba : NoFarther b a) : a = b := by
  have hscore : b.1 = a.1 := Int.le_antisymm hab.1 hba.1
  exact Prod.ext hscore.symm (String.le_antisymm (hab.2 hscore) (hba.2 hscore.symm))

/-- Of two names that are not the same the farther one has a lower score, or the
same and is greater. -/
theorem not_iff {a b : Int × String} : ¬ NoFarther a b ↔ a.1 < b.1 ∨ b.1 = a.1 ∧ b.2 < a.2 := by
  rw [NoFarther, not_and_or, Int.not_le, Classical.not_imp, String.not_le]

theorem of_not {a b : Int × String} (h : ¬ NoFarther a b) : NoFarther b a := by
  rcases not_iff.mp h with hlt | ⟨heq, hlt⟩
  · exact ⟨Int.le_of_lt hlt, fun he => absurd he (Int.ne_of_lt hlt)⟩
  · exact ⟨Int.le_of_eq heq.symm, fun _ => String.not_lt.mp (String.lt_asymm hlt)⟩

end NoFarther

/-- The name is nearest among `names`: it has a score, and none of them that has
one is nearer. -/
def IsNearest (score : String → Option Int) (names : Set String) (name : String) : Prop :=
  name ∈ names ∧ ∃ s, score name = some s ∧
    ∀ other ∈ names, ∀ t, score other = some t → NoFarther (s, name) (t, other)

theorem IsNearest.eq {score : String → Option Int} {names : Set String} {a b : String}
    (ha : IsNearest score names a) (hb : IsNearest score names b) : a = b := by
  obtain ⟨hmemA, s, hs, hbestA⟩ := ha
  obtain ⟨hmemB, t, ht, hbestB⟩ := hb
  exact congrArg Prod.snd ((hbestA b hmemB t ht).antisymm (hbestB a hmemA s hs))

/-! ## The search -/

/-- The nearest name so far with its score, after one more name. -/
def closer (score : String → Option Int) (best : Option (Int × String)) (name : String) :
    Option (Int × String) :=
  match score name with
  | none => best
  | some s =>
    if best.all fun b => b.1 < s || (s == b.1 && decide (name < b.2)) then some (s, name) else best

/-- What a search keeps of the names that it has seen. -/
def Kept (score : String → Option Int) (seen : List String) : Option (Int × String) → Prop
  | none => ∀ name ∈ seen, score name = none
  | some best => best.2 ∈ seen ∧ score best.2 = some best.1 ∧
      ∀ other ∈ seen, ∀ t, score other = some t → NoFarther best (t, other)

section Search

variable {score : String → Option Int} {seen : List String} {name : String}

/-- What all names seen satisfy if the name does that comes after them. -/
theorem forall_mem_concat {P : String → Prop} (hseen : ∀ other ∈ seen, P other) (hname : P name) :
    ∀ other ∈ seen ++ [name], P other := by
  intro other hother
  rcases List.mem_append.mp hother with hmem | hmem
  · exact hseen other hmem
  · rwa [List.mem_singleton.mp hmem]

/-- A name that is not nearer than the best changes nothing. -/
theorem Kept.concat {best : Option (Int × String)} (h : Kept score seen best)
    (hname : ∀ t, score name = some t → ∃ b, best = some b ∧ NoFarther b (t, name)) :
    Kept score (seen ++ [name]) best := by
  cases best with
  | none =>
    refine forall_mem_concat h (Option.eq_none_iff_forall_ne_some.mpr fun t ht => ?_)
    obtain ⟨b, hb, -⟩ := hname t ht
    cases hb
  | some best =>
    obtain ⟨hmem, hscore, hbest⟩ := h
    refine ⟨List.mem_append_left _ hmem, hscore, forall_mem_concat hbest fun t ht => ?_⟩
    obtain ⟨b, hb, hle⟩ := hname t ht
    rwa [Option.some.inj hb]

/-- A name that is no farther than the best takes its place. -/
theorem Kept.concat_self {best : Option (Int × String)} {s : Int} (h : Kept score seen best)
    (hs : score name = some s) (hname : ∀ b, best = some b → NoFarther (s, name) b) :
    Kept score (seen ++ [name]) (some (s, name)) := by
  refine ⟨List.mem_append_right _ (List.mem_singleton_self name), hs, forall_mem_concat ?_ ?_⟩
  · intro other hother t ht
    cases best with
    | none => rw [h other hother] at ht; cases ht
    | some best => exact (hname best rfl).trans (h.2.2 other hother t ht)
  · intro t ht
    rw [Option.some.inj (ht.symm.trans hs)]
    exact .refl _

theorem Kept.closer {best : Option (Int × String)} (h : Kept score seen best) (name : String) :
    Kept score (seen ++ [name]) (closer score best name) := by
  rw [Similarity.closer]
  cases hscore : score name with
  | none => exact h.concat fun t ht => by rw [hscore] at ht; cases ht
  | some s =>
    have hnearer : (best.all fun b => b.1 < s || (s == b.1 && decide (name < b.2))) = true ↔
        ∀ b, best = some b → ¬ NoFarther b (s, name) := by
      simp [Option.all_eq_true, NoFarther.not_iff]
    by_cases hall : ∀ b, best = some b → ¬ NoFarther b (s, name)
    · simp only [if_pos (hnearer.mpr hall)]
      exact h.concat_self hscore fun b hb => .of_not (hall b hb)
    · simp only [if_neg (mt hnearer.mp hall)]
      rw [not_forall] at hall
      obtain ⟨b, hb⟩ := hall
      obtain ⟨hbest, hle⟩ := Classical.not_imp.mp hb
      refine h.concat fun t ht => ⟨b, hbest, ?_⟩
      rw [Option.some.inj (ht.symm.trans hscore)]
      exact not_not.mp hle

theorem kept_foldl {best : Option (Int × String)} (h : Kept score seen best)
    (names : List String) : Kept score (seen ++ names) (names.foldl (closer score) best) := by
  induction names generalizing seen best with
  | nil => rwa [List.append_nil]
  | cons name names ih =>
    rw [List.foldl_cons, List.append_cons]
    exact ih (h.closer name)

variable {names : List String}

theorem nearest?_eq_foldl :
    nearest? score names = (names.foldl (closer score) none).map (·.2) := by
  rw [nearest?]
  congr 2
  funext best name
  rw [closer]
  cases score name with
  | none => rfl
  | some s => cases best <;> rfl

/-- A search finds nothing if no name has a score, otherwise the nearest name. -/
theorem nearest?_cases (score : String → Option Int) (names : List String) :
    (nearest? score names = none ∧ ∀ name ∈ names, score name = none) ∨
      ∃ name, nearest? score names = some name ∧ IsNearest score {n | n ∈ names} name := by
  have hnothing : Kept score [] none := fun _ hmem => absurd hmem List.not_mem_nil
  have h : Kept score names (names.foldl (closer score) none) := kept_foldl hnothing names
  rw [nearest?_eq_foldl]
  cases hbest : names.foldl (closer score) none with
  | none => exact .inl ⟨rfl, by rwa [hbest] at h⟩
  | some best =>
    rw [hbest] at h
    exact .inr ⟨best.2, rfl, h.1, best.1, h.2⟩

theorem nearest?_eq_none_iff :
    nearest? score names = none ↔ ∀ name ∈ names, score name = none := by
  rcases nearest?_cases score names with ⟨hnone, hall⟩ | ⟨name, hsome, h⟩
  · simp only [hnone, true_iff]
    exact hall
  · obtain ⟨hmem, s, hs, -⟩ := h
    rw [hsome]
    refine ⟨fun he => (by cases he), fun hall => ?_⟩
    rw [hall name hmem] at hs
    cases hs

theorem nearest?_eq_some_iff :
    nearest? score names = some name ↔ IsNearest score {n | n ∈ names} name := by
  rcases nearest?_cases score names with ⟨hnone, hall⟩ | ⟨found, hsome, h⟩
  · rw [hnone]
    refine ⟨fun he => (by cases he), fun ⟨hmem, s, hs, _⟩ => ?_⟩
    rw [hall name hmem] at hs
    cases hs
  · rw [hsome, Option.some.injEq]
    exact ⟨fun he => he ▸ h, fun hname => h.eq hname⟩

/-- A search finds the same among the same names in any order. -/
theorem nearest?_congr {others : List String} (h : ∀ name, name ∈ others ↔ name ∈ names) :
    nearest? score others = nearest? score names := by
  have hset : {n | n ∈ others} = {n | n ∈ names} := Set.ext h
  exact Option.ext fun name => by rw [nearest?_eq_some_iff, nearest?_eq_some_iff, hset]

end Search

end Similarity

namespace Lexicon

open Similarity (IsNearest nearest?)

/-- The names of the placeholders that the lexicon has, as they spell them. -/
def spellings (lexicon : Lexicon) : Set String :=
  {name | ∃ (key : String) (p : Placeholder), lexicon.entries[key]? = some p ∧ p.name = name}

/-- The name that a score finds nearest to `name`. -/
def suggestBy? (lexicon : Lexicon) (score : String → String → Option Int) (name : String) :
    Option String :=
  nearest? (score · name) lexicon.names

theorem setOf_mem_names (lexicon : Lexicon) : {name | name ∈ lexicon.names} = lexicon.spellings :=
  Set.ext fun _ => mem_names

/-- The names need not be sorted to be searched. -/
theorem suggestBy?_eq_of_entries (lexicon : Lexicon) (score : String → String → Option Int)
    (name : String) : lexicon.suggestBy? score name =
      nearest? (score · name) (lexicon.entries.toList.map fun entry => entry.2.name) :=
  Similarity.nearest?_congr fun _ => List.mem_mergeSort

/-! ## The order of registrations -/

theorem suggestBy?_congr {lexicon other : Lexicon} (h : other.spellings = lexicon.spellings)
    (score : String → String → Option Int) (name : String) :
    other.suggestBy? score name = lexicon.suggestBy? score name :=
  Similarity.nearest?_congr fun n => by
    rw [← Set.mem_ofPred_eq (p := (· ∈ other.names)), setOf_mem_names, h, ← setOf_mem_names]
    rfl

/-- Placeholders that have different keys come to the same entries in any order. -/
theorem entries_extend_perm (lexicon : Lexicon) {ps qs : List Placeholder} (h : ps.Perm qs)
    (hkeys : (ps.map fun p => lexicon.normalize p.name).Nodup) (key : String) :
    (lexicon.extend qs).entries[key]? = (lexicon.extend ps).entries[key]? := by
  rw [entries_extend, entries_extend]
  have hperm : ps.reverse.Perm qs.reverse :=
    (List.reverse_perm ps).trans (h.trans (List.reverse_perm qs).symm)
  congr 1
  refine (List.find?_eq_find?_of_perm hperm ?_).symm
  rintro p ⟨hp, hpkey⟩ q ⟨hq, hqkey⟩
  rw [decide_eq_true_eq] at hpkey hqkey
  exact List.inj_on_of_nodup_map hkeys (List.mem_reverse.mp hp) (List.mem_reverse.mp hq)
    (hpkey.trans hqkey.symm)

theorem spellings_extend_perm (lexicon : Lexicon) {ps qs : List Placeholder} (h : ps.Perm qs)
    (hkeys : (ps.map fun p => lexicon.normalize p.name).Nodup) :
    (lexicon.extend qs).spellings = (lexicon.extend ps).spellings := by
  ext name
  simp only [spellings, Set.mem_ofPred_eq, lexicon.entries_extend_perm h hkeys]

/-! ## What is suggested -/

/-- A lexicon suggests nothing if none of its names has a score; otherwise it
suggests the one with the highest score, of several the smallest, as its
placeholder spells it. That does not depend on the order in which the names are
searched or the placeholders were registered, only on the names that there are. -/
theorem suggestBy?_isNearest (lexicon : Lexicon) (score : String → String → Option Int)
    (name : String) :
    (lexicon.suggestBy? score name = none ↔
        ∀ known ∈ lexicon.spellings, score known name = none) ∧
      (∀ found, lexicon.suggestBy? score name = some found ↔
        IsNearest (score · name) lexicon.spellings found) ∧
      lexicon.suggest? name = lexicon.suggestBy? Similarity.score? name ∧
      (∀ order : List String, (∀ known, known ∈ order ↔ known ∈ lexicon.spellings) →
        nearest? (score · name) order = lexicon.suggestBy? score name) ∧
      (∀ other : Lexicon, other.spellings = lexicon.spellings →
        other.suggestBy? score name = lexicon.suggestBy? score name) ∧
      ∀ ps qs : List Placeholder, ps.Perm qs →
        (ps.map fun p => lexicon.normalize p.name).Nodup →
          (lexicon.extend qs).suggestBy? score name = (lexicon.extend ps).suggestBy? score name := by
  refine ⟨?_, fun found => ?_, rfl, fun order horder => ?_, fun other hother => ?_,
    fun ps qs h hkeys => ?_⟩
  · rw [← setOf_mem_names]
    exact Similarity.nearest?_eq_none_iff
  · rw [← setOf_mem_names]
    exact Similarity.nearest?_eq_some_iff
  · refine Similarity.nearest?_congr fun known => (horder known).trans ?_
    rw [← setOf_mem_names]
    rfl
  · exact suggestBy?_congr hother score name
  · exact suggestBy?_congr (lexicon.spellings_extend_perm h hkeys) score name

/-- Two names that are as near as each other, registered in either order. -/
theorem suggestBy?_isNearest_of_tie :
    let tea := Placeholder.constant "user.Tea" "black"
    let sea := Placeholder.constant "user.Sea" "blue"
    let lexicon := (empty false).extend [tea, sea]
    let score (known : String) := Similarity.score? known "ea"
    score "user.Tea" = score "user.Sea" ∧ lexicon.suggest? "ea" = some "user.Sea" ∧
      IsNearest score lexicon.spellings "user.Sea" ∧
      ((empty false).extend [sea, tea]).suggestBy? Similarity.score? "ea" =
        lexicon.suggestBy? Similarity.score? "ea" := by
  intro tea sea lexicon score
  have hkeys : ([tea, sea].map fun p => (empty false).normalize p.name).Nodup := by
    decide +kernel
  have hfound : lexicon.suggestBy? Similarity.score? "ea" = some "user.Sea" := by
    rw [suggestBy?_eq_of_entries]
    decide +kernel
  obtain ⟨-, hsome, hsuggest, -⟩ := suggestBy?_isNearest lexicon Similarity.score? "ea"
  obtain ⟨-, -, -, -, -, hperm⟩ := suggestBy?_isNearest (empty false) Similarity.score? "ea"
  exact ⟨by decide +kernel, hsuggest.trans hfound, (hsome "user.Sea").mp hfound,
    hperm [tea, sea] [sea, tea] (List.Perm.swap sea tea []) hkeys⟩

end Lexicon

end Phrasebook

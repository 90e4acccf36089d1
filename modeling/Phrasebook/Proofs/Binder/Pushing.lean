import Phrasebook.Proofs.Binder.Highest

/-!
# Pushing values

A push binds its values at the positions after the highest that is bound
(`insertFrom` at `next`). Nothing is bound from there on
(`Tracked.at?_of_next_le`), so what is bound stays as it is and every value is
one more: `Extended` says what a push that succeeds makes of a binder, and
`perform_push_extends` when it does and when nothing happens.

The position after the last value is the next one (`next_insertFrom`), so two
lists find room in turn if they do together (`fits_add_iff`), and pushing them
in turn is pushing them at once. A push to an empty binder is `indexed`, and so
is reading an array (`push_append`).
-/

namespace Phrasebook.Binder

/-! ## Values at consecutive positions -/

section InsertFrom

variable {binder : Binder} {start : Nat}

theorem insertFrom_append (xs ys : List Value) :
    binder.insertFrom start (xs ++ ys) =
      (binder.insertFrom start xs).insertFrom (start + xs.length) ys := by
  induction xs generalizing binder start with
  | nil => rfl
  | cons x xs ih =>
    rw [List.cons_append, insertFrom, ih, List.length_cons, Nat.add_comm xs.length,
      ← Nat.add_assoc, insertFrom]

/-- Binding values one after another, each at its position. -/
theorem insertFrom_eq_foldl (values : List Value) :
    binder.insertFrom start values =
      (values.zipIdx start).foldl (fun binder v => (binder.bindIndex v.2 v.1).2) binder := by
  induction values generalizing binder start with
  | nil => rfl
  | cons value rest ih => rw [insertFrom, ih, List.zipIdx_cons, List.foldl_cons, bindIndex]

theorem caseSensitive_insertFrom (values : List Value) :
    (binder.insertFrom start values).caseSensitive = binder.caseSensitive := by
  induction values generalizing binder start with
  | nil => rfl
  | cons value rest ih => rw [insertFrom, ih, insert]

theorem at?_insertFrom_add {values : List Value} {i : Nat} (hi : i < values.length) :
    (binder.insertFrom start values).at? (.index (start + i)) = values[i]? := by
  induction values generalizing binder start i with
  | nil => cases hi
  | cons value rest ih =>
    rw [insertFrom]
    cases i with
    | zero =>
      -- The later values go to later positions.
      have hlater : ∀ j < rest.length, Key.index start ≠ .index (start + 1 + j) := by
        intro j _ hj
        rw [Key.index.injEq] at hj
        omega
      rw [Nat.add_zero start, at?_insertFrom_of_ne hlater, at?_insert, if_pos rfl,
        List.getElem?_cons_zero]
    | succ i =>
      rw [Nat.add_comm i, ← Nat.add_assoc, ih (Nat.lt_of_succ_lt_succ hi), Nat.add_comm 1,
        List.getElem?_cons_succ]

theorem size_insert_of_none {key : Key} (h : binder.at? key = none) (value : Value) :
    (binder.insert key value).size = binder.size + 1 := by
  have hfree : binder.entries.contains key = false := by
    rw [← Std.ExtTreeMap.isSome_getElem?_eq_contains]
    exact Option.isSome_eq_false_iff.mpr (Option.isNone_iff_eq_none.mpr h)
  rw [size, insert, Std.ExtTreeMap.size_insert, hfree]
  rfl

theorem size_insertFrom (h : ∀ n ≥ start, binder.at? (.index n) = none) (values : List Value) :
    (binder.insertFrom start values).size = binder.size + values.length := by
  induction values generalizing binder start with
  | nil => rfl
  | cons value rest ih =>
    rw [insertFrom, ih, size_insert_of_none (h start (Nat.le_refl _)), List.length_cons]
    · omega
    · intro n hn
      rw [at?_insert, if_neg fun he => ?_, h n (by omega)]
      rw [Key.index.injEq] at he
      omega

end InsertFrom

/-! ## The highest position moves along -/

section Next

variable {binder : Binder} {start : Nat}

theorem highest_insert_of_next_le (h : binder.next ≤ start) (value : Value) :
    (binder.insert (.index start) value).highest = some start := by
  have hh : (binder.insert (.index start) value).highest =
      some (max start (binder.highest.getD start)) := rfl
  rw [hh, Nat.max_eq_left]
  rw [next] at h
  cases hhighest : binder.highest with
  | none => exact Nat.le_refl start
  | some top =>
    rw [hhighest] at h
    exact Nat.le_of_succ_le h

theorem next_insert_of_next_le (h : binder.next ≤ start) (value : Value) :
    (binder.insert (.index start) value).next = start + 1 := by
  rw [next, highest_insert_of_next_le h]

theorem highest_insertFrom (h : binder.next ≤ start) {values : List Value} (hne : values ≠ []) :
    (binder.insertFrom start values).highest = some (start + values.length - 1) := by
  induction values generalizing binder start with
  | nil => exact absurd rfl hne
  | cons value rest ih =>
    rw [insertFrom]
    by_cases hrest : rest = []
    · rw [hrest]
      exact highest_insert_of_next_le h value
    · rw [ih (next_insert_of_next_le h value).le hrest, List.length_cons]
      congr 1
      omega

/-- The next position is the one after the last value. -/
theorem next_insertFrom (values : List Value) :
    (binder.insertFrom binder.next values).next = binder.next + values.length := by
  by_cases hne : values = []
  · rw [hne]
    rfl
  · have hpos := List.length_pos_iff.mpr hne
    rw [next, highest_insertFrom (Nat.le_refl _) hne]
    show _ - 1 + 1 = _
    omega

/-- Nothing is bound after the highest position. -/
theorem Tracked.at?_of_next_le (h : binder.Tracked) {n : Nat} (hn : binder.next ≤ n) :
    binder.at? (.index n) = none := by
  by_contra hbound
  obtain ⟨top, htop, hle⟩ := h.le n (Option.isSome_iff_ne_none.mpr hbound)
  rw [next, htop] at hn
  exact absurd hle (Nat.not_le.mpr hn)

end Next

/-! ## All values or none -/

/-- There is room for so many values after the highest position. -/
def Fits (binder : Binder) (count : Nat) : Prop :=
  count = 0 ∨ binder.next + count ≤ maxPushed + 1

section Push

variable {binder : Binder} {values : List Value}

theorem not_fits_iff :
    ¬ binder.Fits values.length ↔ values ≠ [] ∧ maxPushed < binder.next + values.length - 1 := by
  rw [Fits, List.length_eq_zero_iff, not_or, Nat.not_le]
  refine and_congr_right fun hne => ?_
  have hpos := List.length_pos_iff.mpr hne
  omega

theorem push_of_fits (h : binder.Fits values.length) :
    binder.push values = .ok (binder.insertFrom binder.next values) := by
  rw [push]
  split
  · rename_i hnil
    rw [List.isEmpty_iff.mp hnil, insertFrom]
  · rename_i hne
    rw [List.isEmpty_iff] at hne
    have hlast := mt (fun hlt => not_fits_iff.mpr ⟨hne, hlt⟩) (not_not.mpr h)
    have hpos := List.length_pos_iff.mpr hne
    rw [if_pos (by omega)]

theorem push_of_not_fits (h : ¬ binder.Fits values.length) :
    binder.push values = .error (.indexOverflow (binder.highest.getD 0) values.length) := by
  obtain ⟨hne, hlast⟩ := not_fits_iff.mp h
  have hpos := List.length_pos_iff.mpr hne
  rw [push, if_neg (mt List.isEmpty_iff.mp hne), if_neg (by omega)]

theorem push_eq_ok_iff {after : Binder} :
    binder.push values = .ok after ↔
      binder.Fits values.length ∧ after = binder.insertFrom binder.next values := by
  by_cases h : binder.Fits values.length
  · rw [push_of_fits h, Except.ok.injEq, and_iff_right h, eq_comm]
  · rw [push_of_not_fits h]
    exact ⟨fun herror => (by cases herror), fun hfits => absurd hfits.1 h⟩

end Push

/-- The highest position at which a value is bound, none if there is no such position. -/
def IsHighest (binder : Binder) : Option Nat → Prop
  | none => ∀ n, binder.at? (.index n) = none
  | some m => IsGreatest {n | (binder.at? (.index n)).isSome} m

theorem Tracked.isHighest_iff {binder : Binder} (h : binder.Tracked) (top : Option Nat) :
    binder.IsHighest top ↔ binder.highest = top := by
  cases top with
  | none =>
    rw [h.highest_eq_none_iff, Set.eq_empty_iff_forall_notMem]
    exact forall_congr' fun n => by rw [mem_positions, Option.not_isSome_iff_eq_none]
  | some m => exact (h.highest_eq_some_iff m).symm

/-- The binder `after` is `before` with values at the positions from `start` on,
where `before` has none. -/
structure Extended (before : Binder) (start : Nat) (values : List Value) (after : Binder) :
    Prop where
  caseSensitive : after.caseSensitive = before.caseSensitive
  /-- Each value is bound at its position. -/
  pushed : ∀ i < values.length, after.at? (.index (start + i)) = values[i]?
  /-- What was bound stays bound to the same value. -/
  kept : ∀ key value, before.at? key = some value → after.at? key = some value
  /-- Under any other key nothing changes. -/
  only : ∀ key, (∀ i < values.length, key ≠ .index (start + i)) → after.at? key = before.at? key
  size : after.size = before.size + values.length
  highest : after.highest = if values = [] then before.highest else some (start + values.length - 1)

theorem Tracked.extended {binder : Binder} (h : binder.Tracked) (values : List Value) :
    binder.Extended binder.next values (binder.insertFrom binder.next values) where
  caseSensitive := caseSensitive_insertFrom values
  pushed i hi := at?_insertFrom_add hi
  kept key value hvalue := by
    rw [at?_insertFrom_of_ne ?_, hvalue]
    rintro i - rfl
    rw [h.at?_of_next_le (Nat.le_add_right _ _)] at hvalue
    cases hvalue
  only key hkey := at?_insertFrom_of_ne hkey
  size := size_insertFrom (fun _ hn => h.at?_of_next_le hn) values
  highest := by
    split
    · rename_i hnil
      rw [hnil]
      rfl
    · rename_i hne
      exact highest_insertFrom (Nat.le_refl _) hne

/-- Pushing values binds them all, after the highest position that is bound and
without touching what is bound; or, if the last position would be too high, it
fails and changes nothing. -/
theorem perform_push_extends {binder : Binder} (h : binder.Reachable) (values : List Value) :
    ∃ top, binder.IsHighest top ∧
      let start := top.elim 0 (· + 1)
      if values ≠ [] ∧ maxPushed < start + values.length - 1 then
        binder.perform (.push values) =
          (.error (.indexOverflow (top.getD 0) values.length), binder)
      else ∃ after, binder.perform (.push values) = (.ok none, after) ∧
        binder.Extended start values after := by
  have ht := tracked_of_reachable h
  refine ⟨binder.highest, (ht.isHighest_iff _).mpr rfl, ?_⟩
  rw [← next_eq_elim]
  intro start
  split
  · rename_i hover
    rw [perform, push_of_not_fits (not_fits_iff.mpr hover)]
    rfl
  · rename_i hfits
    have hpush := push_of_fits (not_not.mp (mt not_fits_iff.mp hfits))
    refine ⟨_, ?_, ht.extended values⟩
    rw [perform, hpush]
    rfl

/-- One value fits after the position before the last, two do not. -/
theorem perform_push_extends_of_last_place :
    let v : Value := .displayed (.string "tea")
    let binder := (indexed [v]).run [.bindName "place" v, .bindIndex 0x7ffffffffffffffe v]
    binder.Reachable ∧
      binder.perform (.push [v, v]) = (.error (.indexOverflow 0x7ffffffffffffffe 2), binder) ∧
      ∃ after, binder.perform (.push [v]) = (.ok none, after) ∧
        binder.Extended 0x7fffffffffffffff [v] after := by
  intro v binder
  have h : binder.Reachable := (Reachable.indexed [v]).run _
  have hhighest : binder.highest = some 0x7ffffffffffffffe := rfl
  have htop : ∀ top, binder.IsHighest top → top = some 0x7ffffffffffffffe := fun top ht =>
    (((tracked_of_reachable h).isHighest_iff top).mp ht).symm.trans hhighest
  refine ⟨h, ?_, ?_⟩
  · obtain ⟨top, ht, hpush⟩ := perform_push_extends h [v, v]
    rw [htop top ht] at hpush
    exact hpush
  · obtain ⟨top, ht, hpush⟩ := perform_push_extends h [v]
    rw [htop top ht] at hpush
    exact hpush

/-! ## Pushes in turn -/

theorem indexed_eq_insertFrom (values : List Value) :
    indexed values = (empty false).insertFrom 0 values :=
  (insertFrom_eq_foldl values).symm

theorem ofJson_arr (elements : List Json) :
    ofJson (.arr elements) =
      indexed (elements.map fun element => .displayed (.ofJson element)) := by
  rw [ofJson, indexed, List.zipIdx_map, List.foldl_map]
  rfl

/-- There is room for two lists in turn exactly if there is for both together. -/
theorem fits_add_iff {binder : Binder} (xs ys : List Value) :
    binder.Fits (xs.length + ys.length) ↔
      binder.Fits xs.length ∧ (binder.insertFrom binder.next xs).Fits ys.length := by
  rw [Fits, Fits, Fits, next_insertFrom]
  omega

/-- Pushing two lists in turn is pushing both at once: it comes to the same
binder, and to one in the same cases. Pushing to an empty binder makes the
binder that has these values from the start, as does reading an array. -/
theorem push_append :
    (∀ (binder : Binder) (xs ys : List Value) (after : Binder),
        binder.push (xs ++ ys) = .ok after ↔
          ∃ between, binder.push xs = .ok between ∧ between.push ys = .ok after) ∧
      (∀ values : List Value,
        (empty false).push values = .ok (indexed values) ↔ values.length ≤ maxPushed + 1) ∧
      ∀ elements : List Json,
        ofJson (.arr elements) =
          indexed (elements.map fun element => .displayed (.ofJson element)) := by
  refine ⟨fun binder xs ys after => ?_, fun values => ?_, ofJson_arr⟩
  · rw [push_eq_ok_iff, List.length_append, fits_add_iff, insertFrom_append, ← next_insertFrom]
    constructor
    · rintro ⟨⟨hxs, hys⟩, rfl⟩
      exact ⟨_, push_of_fits hxs, push_of_fits hys⟩
    · rintro ⟨between, hxs, hys⟩
      obtain ⟨hfits, rfl⟩ := push_eq_ok_iff.mp hxs
      obtain ⟨hfits', rfl⟩ := push_eq_ok_iff.mp hys
      exact ⟨⟨hfits, hfits'⟩, rfl⟩
  · have hnext : (empty false).next = 0 := rfl
    rw [push_eq_ok_iff, hnext, ← indexed_eq_insertFrom, and_iff_left rfl, Fits, hnext]
    omega

end Phrasebook.Binder

import Mathlib.Order.Bounds.Basic
import Phrasebook.Proofs.Binder.Operations

/-!
# The highest position

A binder remembers the highest position that is bound and does not search for
it. `Tracked` says that what it remembers is right: `insert` only raises it
(`Tracked.insert`), `erase` searches the keys if the highest position goes and
leaves it alone otherwise (`Tracked.erase`). So it is the greatest bound
position of every binder that a program can hold
(`highest_isGreatest_of_reachable`).
-/

namespace Phrasebook.Binder

/-- The positions at which values are bound. -/
def positions (binder : Binder) : Set Nat := {n | (binder.at? (.index n)).isSome}

theorem mem_positions {binder : Binder} {n : Nat} :
    n ∈ binder.positions ↔ (binder.at? (.index n)).isSome := Iff.rfl

@[simp] theorem positions_empty (caseSensitive : Bool) : (empty caseSensitive).positions = ∅ := by
  ext n
  simp [mem_positions]

theorem mem_positions_insert {binder : Binder} {key : Key} {value : Value} {n : Nat} :
    n ∈ (binder.insert key value).positions ↔ key = .index n ∨ n ∈ binder.positions := by
  rw [mem_positions, at?_insert]
  split
  · simp [*]
  · simp [*, mem_positions]

theorem mem_positions_erase {binder : Binder} {key : Key} {n : Nat} :
    n ∈ (binder.erase key).positions ↔ key ≠ .index n ∧ n ∈ binder.positions := by
  rw [mem_positions, at?_erase]
  split
  · simp [*]
  · simp [*, mem_positions]

/-- The highest position is a bound one, and no bound one is higher. -/
structure Tracked (binder : Binder) : Prop where
  mem : ∀ m, binder.highest = some m → m ∈ binder.positions
  le : ∀ n ∈ binder.positions, ∃ m, binder.highest = some m ∧ n ≤ m

theorem tracked_empty (caseSensitive : Bool) : (empty caseSensitive).Tracked :=
  ⟨fun m h => by simp [empty] at h, fun n h => by simp at h⟩

/-! ## The search among keys -/

theorem mem_filterMap_index {keys : List Key} {n : Nat} :
    n ∈ keys.filterMap Key.index? ↔ .index n ∈ keys := by
  rw [List.mem_filterMap]
  constructor
  · rintro ⟨key, h, hn⟩
    cases key <;> simp_all [Key.index?]
  · intro h
    exact ⟨.index n, h, rfl⟩

theorem highestOf_mem {keys : List Key} {m : Nat} (h : highestOf keys = some m) :
    .index m ∈ keys :=
  mem_filterMap_index.mp (List.max?_mem h)

theorem le_highestOf {keys : List Key} {n : Nat} (h : .index n ∈ keys) :
    ∃ m, highestOf keys = some m ∧ n ≤ m := by
  have hn := mem_filterMap_index.mpr h
  cases hm : highestOf keys with
  | none =>
    rw [highestOf, List.max?_eq_none_iff] at hm
    rw [hm] at hn
    cases hn
  | some m => exact ⟨m, rfl, (List.max?_eq_some_iff.mp hm).2 n hn⟩

theorem mem_keys_erase {binder : Binder} {key : Key} {n : Nat} :
    .index n ∈ (binder.entries.erase key).keys ↔ n ∈ (binder.erase key).positions := by
  rw [Std.ExtTreeMap.mem_keys, mem_positions, at?, erase, ← Std.ExtTreeMap.mem_iff_isSome_getElem?]

/-! ## What changing a binder does to it -/

theorem Tracked.insert {binder : Binder} (key : Key) (value : Value) (h : binder.Tracked) :
    (binder.insert key value).Tracked := by
  cases key with
  | index n =>
    have hh : (binder.insert (.index n) value).highest = some (max n (binder.highest.getD n)) := rfl
    constructor
    · intro m hm
      rw [hh, Option.some.injEq] at hm
      rw [mem_positions_insert]
      cases ht : binder.highest with
      | none => left; rw [← hm, ht]; simp
      | some top =>
        rw [ht, Option.getD_some] at hm
        rcases Nat.le_total n top with hn | hn
        · right
          rw [← hm, Nat.max_eq_right hn]
          exact h.mem top ht
        · left; rw [← hm, Nat.max_eq_left hn]
    · intro k hk
      refine ⟨_, hh, ?_⟩
      rw [mem_positions_insert, Key.index.injEq] at hk
      rcases hk with rfl | hk
      · exact Nat.le_max_left ..
      · obtain ⟨top, ht, hle⟩ := h.le k hk
        rw [ht, Option.getD_some]
        exact Nat.le_trans hle (Nat.le_max_right ..)
  | name _ | type _ =>
    exact ⟨fun m hm => mem_positions_insert.mpr (.inr (h.mem m hm)),
      fun n hn => h.le n ((mem_positions_insert.mp hn).resolve_left (by simp))⟩

/-- The search is made exactly if the highest position goes. -/
theorem highest_erase (binder : Binder) (h : binder.Tracked) (key : Key) :
    (binder.erase key).highest =
      if key.index?.isSome ∧ key.index? = binder.highest then
        highestOf (binder.entries.erase key).keys
      else binder.highest := by
  simp only [erase, Bool.and_eq_true, beq_iff_eq]
  congr 1
  rw [eq_iff_iff]
  cases key with
  | index n => exact ⟨fun ht => ⟨rfl, ht.2⟩, fun ht => ⟨⟨h.mem n ht.2.symm, rfl⟩, ht.2⟩⟩
  | name _ | type _ => simp [Key.index?]

theorem Tracked.erase {binder : Binder} (key : Key) (h : binder.Tracked) :
    (binder.erase key).Tracked := by
  have hh := highest_erase binder h key
  split at hh
  · constructor
    · intro m hm
      rw [hh] at hm
      exact mem_keys_erase.mp (highestOf_mem hm)
    · intro n hn
      rw [hh]
      exact le_highestOf (mem_keys_erase.mpr hn)
  · rename_i hkey
    constructor
    · intro m hm
      rw [hh] at hm
      exact mem_positions_erase.mpr ⟨fun e => hkey (by rw [e, hm]; exact ⟨rfl, rfl⟩), h.mem m hm⟩
    · intro n hn
      rw [hh]
      exact h.le n (mem_positions_erase.mp hn).2

theorem Tracked.perform {binder : Binder} (h : binder.Tracked) (op : Operation) :
    (binder.perform op).2.Tracked :=
  perform_keeps Tracked.insert Tracked.erase tracked_empty op h

theorem tracked_of_reachable {binder : Binder} (h : binder.Reachable) : binder.Tracked :=
  h.keeps Tracked.insert Tracked.erase tracked_empty

/-! ## The highest position of a tracked binder -/

theorem Tracked.highest_eq_some_iff {binder : Binder} (h : binder.Tracked) (m : Nat) :
    binder.highest = some m ↔ IsGreatest binder.positions m := by
  constructor
  · intro hm
    refine ⟨h.mem m hm, fun n hn => ?_⟩
    obtain ⟨top, ht, hle⟩ := h.le n hn
    rw [hm, Option.some.injEq] at ht
    rwa [ht]
  · rintro ⟨hm, hub⟩
    obtain ⟨top, ht, hle⟩ := h.le m hm
    rw [ht, Nat.le_antisymm hle (hub (h.mem top ht))]

theorem Tracked.highest_eq_none_iff {binder : Binder} (h : binder.Tracked) :
    binder.highest = none ↔ binder.positions = ∅ := by
  rw [Set.eq_empty_iff_forall_notMem]
  constructor
  · intro hn n hmem
    obtain ⟨m, hm, -⟩ := h.le n hmem
    rw [hn] at hm
    cases hm
  · intro hempty
    cases hm : binder.highest with
    | none => rfl
    | some m => exact absurd (h.mem m hm) (hempty m)

/-- Tracked binders that hold the same values are the same. -/
theorem Tracked.ext {a b : Binder} (ha : a.Tracked) (hb : b.Tracked)
    (caseSensitive : a.caseSensitive = b.caseSensitive) (hat : ∀ key, a.at? key = b.at? key) :
    a = b := by
  have hpositions : a.positions = b.positions := by
    ext n
    rw [mem_positions, mem_positions, hat]
  refine ext_at? caseSensitive (Option.ext fun m => ?_) hat
  rw [ha.highest_eq_some_iff, hb.highest_eq_some_iff, hpositions]

/-- The highest position is the greatest at which a value is bound, and there
is none exactly if no value is bound at a position. -/
theorem highest_isGreatest_of_reachable {binder : Binder} (h : binder.Reachable) :
    (∀ m, binder.highest = some m ↔ IsGreatest {n | (binder.at? (.index n)).isSome} m) ∧
      (binder.highest = none ↔ ∀ n, binder.at? (.index n) = none) := by
  have ht := tracked_of_reachable h
  refine ⟨ht.highest_eq_some_iff, ht.highest_eq_none_iff.trans ?_⟩
  rw [Set.eq_empty_iff_forall_notMem]
  exact forall_congr' fun n => by rw [mem_positions, Option.not_isSome_iff_eq_none]

/-- Positions 0, 2 and 5, of which the last goes again. -/
theorem highest_isGreatest_of_gap :
    let v : Value := .displayed (.string "tea")
    let binder := (indexed [v]).run [.bindIndex 5 v, .bindIndex 2 v, .unbind (.index 5)]
    binder.Reachable ∧ binder.highest = some 2 ∧
      IsGreatest {n | (binder.at? (.index n)).isSome} 2 := by
  intro v binder
  have h : binder.Reachable := (Reachable.indexed [v]).run _
  have hm : binder.highest = some 2 := rfl
  exact ⟨h, hm, ((highest_isGreatest_of_reachable h).1 2).mp hm⟩

end Phrasebook.Binder

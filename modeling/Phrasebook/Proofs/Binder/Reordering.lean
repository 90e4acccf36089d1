import Mathlib.Data.List.FinRange
import Phrasebook.Proofs.Binder.Highest

/-!
# Operations on different keys

An operation on one key sees and changes what is bound under that key only
(`reply_congr`, `at?_perform_of_key`), and the highest position is a matter of
what is bound. So two operations on different keys can change places
(`perform_comm`), and one of them can be moved before any number of others
(`alike_move`). A list in another order is reached by moving the operation that
is to come first to the front, and then the next one (`alike_of_perm`): nothing
changes unless operations on one key pass each other (`run_reorder`).
-/

namespace Phrasebook.Binder

/-- Two operations are on the same normalized key. -/
def Operation.Shares (caseSensitive : Bool) (a b : Operation) : Prop :=
  (a.slot? caseSensitive).isSome ∧ a.slot? caseSensitive = b.slot? caseSensitive

theorem Operation.Shares.symm {caseSensitive : Bool} {a b : Operation}
    (h : a.Shares caseSensitive b) : b.Shares caseSensitive a :=
  ⟨h.2 ▸ h.1, h.2.symm⟩

instance (caseSensitive : Bool) (a b : Operation) : Decidable (a.Shares caseSensitive b) :=
  inferInstanceAs (Decidable (_ ∧ _))

/-! ## Two operations on different keys -/

section TwoKeys

variable {binder : Binder} {a b : Operation}

/-- An operation replies the same after an operation on another key. -/
theorem reply_perform (ha : a.key?.isSome) (hb : b.key?.isSome)
    (hne : ¬ a.Shares binder.caseSensitive b) :
    ((binder.perform a).2.perform b).1 = (binder.perform b).1 := by
  refine reply_congr hb (caseSensitive_perform_of_key ha) fun key hkey => ?_
  rw [at?_perform_of_key ha, if_neg]
  intro hslot
  exact hne ⟨by rw [hslot]; rfl, hslot.trans hkey.symm⟩

/-- Operations on different keys can change places. -/
theorem perform_comm (h : binder.Tracked) (ha : a.key?.isSome) (hb : b.key?.isSome)
    (hne : ¬ a.Shares binder.caseSensitive b) :
    ((binder.perform a).2.perform b).2 = ((binder.perform b).2.perform a).2 := by
  refine ((h.perform a).perform b).ext ((h.perform b).perform a) ?_ fun key => ?_
  · rw [caseSensitive_perform_of_key hb, caseSensitive_perform_of_key ha,
      caseSensitive_perform_of_key ha, caseSensitive_perform_of_key hb]
  · rw [at?_perform_of_key hb, at?_perform_of_key ha, at?_perform_of_key ha,
      at?_perform_of_key hb, caseSensitive_perform_of_key ha, caseSensitive_perform_of_key hb]
    by_cases hkeya : a.slot? binder.caseSensitive = some key
    · have hkeyb : b.slot? binder.caseSensitive ≠ some key := fun hkeyb =>
        hne ⟨by rw [hkeya]; rfl, hkeya.trans hkeyb.symm⟩
      rw [if_neg hkeyb, if_pos hkeya, if_pos hkeya]
    · rw [if_neg hkeya, if_neg hkeya]

end TwoKeys

/-! ## Lists of operations -/

/-- The replies to a list of operations. -/
def replies (binder : Binder) : List Operation → List (Except Error (Option Value))
  | [] => []
  | op :: ops => (binder.perform op).1 :: (binder.perform op).2.replies ops

theorem length_replies (binder : Binder) (ops : List Operation) :
    (binder.replies ops).length = ops.length := by
  induction ops generalizing binder with
  | nil => rfl
  | cons op ops ih => rw [replies, List.length_cons, ih, List.length_cons]

/-- The replies to operations that have numbers, each with the number. -/
def answers (binder : Binder) (ops : List (Operation × Nat)) :
    List (Except Error (Option Value) × Nat) :=
  (binder.replies (ops.map Prod.fst)).zip (ops.map Prod.snd)

theorem answers_cons (binder : Binder) (x : Operation × Nat) (ops : List (Operation × Nat)) :
    binder.answers (x :: ops) =
      ((binder.perform x.1).1, x.2) :: (binder.perform x.1).2.answers ops := rfl

/-- Two lists of operations come to the same: the same binder, and the same
reply to each operation. -/
structure Alike (binder : Binder) (a b : List (Operation × Nat)) : Prop where
  run : binder.run (a.map Prod.fst) = binder.run (b.map Prod.fst)
  answers : (binder.answers a).Perm (binder.answers b)

theorem Alike.cons {binder : Binder} {a b : List (Operation × Nat)} (x : Operation × Nat)
    (h : (binder.perform x.1).2.Alike a b) : binder.Alike (x :: a) (x :: b) where
  run := h.run
  answers := h.answers.cons _

theorem Alike.trans {binder : Binder} {a b c : List (Operation × Nat)} (h : binder.Alike a b)
    (h' : binder.Alike b c) : binder.Alike a c :=
  ⟨h.run.trans h'.run, h.answers.trans h'.answers⟩

variable {binder : Binder}

theorem alike_swap (h : binder.Tracked) {x y : Operation × Nat} (hx : x.1.key?.isSome)
    (hy : y.1.key?.isSome) (hne : ¬ x.1.Shares binder.caseSensitive y.1)
    (ops : List (Operation × Nat)) : binder.Alike (x :: y :: ops) (y :: x :: ops) := by
  have hne' : ¬ y.1.Shares binder.caseSensitive x.1 := fun hs => hne hs.symm
  have hbinder := perform_comm h hx hy hne
  constructor
  · simp only [List.map_cons, run_cons, hbinder]
  · simp only [answers_cons, reply_perform hx hy hne, reply_perform hy hx hne', hbinder]
    exact .swap _ _ _

/-- An operation can be moved before operations on other keys. -/
theorem alike_move (h : binder.Tracked) {x : Operation × Nat} (hx : x.1.key?.isSome)
    {before : List (Operation × Nat)}
    (hbefore : ∀ y ∈ before, y.1.key?.isSome ∧ ¬ y.1.Shares binder.caseSensitive x.1)
    (after : List (Operation × Nat)) :
    binder.Alike (before ++ x :: after) (x :: (before ++ after)) := by
  induction before generalizing binder with
  | nil => exact ⟨rfl, .refl _⟩
  | cons y before ih =>
    obtain ⟨hy, hne⟩ := hbefore y List.mem_cons_self
    refine .trans (.cons y (ih (h.perform y.1) fun z hz => ?_)) (alike_swap h hy hx hne _)
    rw [caseSensitive_perform_of_key hy]
    exact hbefore z (List.mem_cons_of_mem y hz)

/-- Operations in another order come to the same if those on one key stay in
the order of their numbers. -/
theorem alike_of_perm (h : binder.Tracked) {moved ops : List (Operation × Nat)}
    (hperm : moved.Perm ops) (hops : ∀ x ∈ ops, x.1.key?.isSome)
    (hsorted : ops.Pairwise fun x y => x.2 < y.2)
    (hmoved : moved.Pairwise fun x y => x.1.Shares binder.caseSensitive y.1 → x.2 < y.2) :
    binder.Alike moved ops := by
  induction moved generalizing binder ops with
  | nil => rw [hperm.nil_eq]; exact ⟨rfl, .refl _⟩
  | cons x moved ih =>
    -- The operation that comes first is somewhere among the others.
    obtain ⟨before, after, rfl⟩ := List.append_of_mem (hperm.subset List.mem_cons_self)
    have hrest : moved.Perm (before ++ after) := (hperm.trans List.perm_middle).cons_inv
    have hsub : (before ++ after).Sublist (before ++ x :: after) :=
      (List.sublist_cons_self x after).append_left before
    obtain ⟨hfirst, hmoved⟩ := List.pairwise_cons.mp hmoved
    have hx : x.1.key?.isSome := hops x (List.mem_append_right _ List.mem_cons_self)
    have hapart : ∀ y ∈ before, y.1.key?.isSome ∧ ¬ y.1.Shares binder.caseSensitive x.1 := by
      intro y hy
      refine ⟨hops y (List.mem_append_left _ hy), fun hs => ?_⟩
      have hlt : y.2 < x.2 := (List.pairwise_append.mp hsorted).2.2 y hy x List.mem_cons_self
      have hgt : x.2 < y.2 :=
        hfirst y (hrest.symm.subset (List.mem_append_left _ hy)) hs.symm
      exact absurd hlt hgt.asymm
    have htail : (binder.perform x.1).2.Alike moved (before ++ after) := by
      have hkeys : ∀ y ∈ before ++ after, y.1.key?.isSome := fun y hy => hops y (hsub.subset hy)
      refine ih (h.perform x.1) hrest hkeys (hsorted.sublist hsub) ?_
      rwa [caseSensitive_perform_of_key hx]
    have hfront := alike_move h hx hapart after
    exact .trans (.cons x htail) ⟨hfront.run.symm, hfront.answers.symm⟩

/-! ## Another order -/

/-- The operations of a list, taken in any order, each with its place in the list. -/
def placed (ops : List Operation) (order : Fin ops.length → Fin ops.length) :
    List (Operation × Nat) :=
  List.ofFn fun i => (ops[order i], (order i : Nat))

theorem map_fst_placed (ops : List Operation) (order : Fin ops.length → Fin ops.length) :
    (placed ops order).map Prod.fst = List.ofFn fun i => ops[order i] := by
  rw [placed, List.map_ofFn]
  rfl

theorem map_fst_placed_id (ops : List Operation) : (placed ops id).map Prod.fst = ops := by
  rw [map_fst_placed]
  exact List.ofFn_getElem

theorem getElem?_answers_placed (ops : List Operation) (order : Fin ops.length → Fin ops.length)
    {i : Nat} {reply : Except Error (Option Value)} {place : Nat} :
    (binder.answers (placed ops order))[i]? = some (reply, place) ↔
      (binder.replies (List.ofFn fun i => ops[order i]))[i]? = some reply ∧
        ∃ hi : i < ops.length, (order ⟨i, hi⟩ : Nat) = place := by
  rw [answers, List.getElem?_zip_eq_some, map_fst_placed, placed, List.map_ofFn,
    List.getElem?_ofFn]
  refine and_congr_right fun _ => ?_
  by_cases hi : i < ops.length <;> simp [hi]

/-- Each operation has the reply that it has at its place in the list. -/
theorem Alike.getElem?_replies {ops : List Operation} {order : Fin ops.length → Fin ops.length}
    (h : binder.Alike (placed ops order) (placed ops id)) (i : Fin ops.length) {reply}
    (hreply : (binder.replies (List.ofFn fun i => ops[order i]))[i.val]? = some reply) :
    (binder.replies ops)[(order i).val]? = some reply := by
  have hmem : (reply, (order i : Nat)) ∈ binder.answers (placed ops order) :=
    List.mem_iff_getElem?.mpr
      ⟨i.val, (getElem?_answers_placed ops order).mpr ⟨hreply, i.isLt, rfl⟩⟩
  obtain ⟨j, hj⟩ := List.mem_iff_getElem?.mp (h.answers.subset hmem)
  obtain ⟨hat, _, hplace⟩ := (getElem?_answers_placed ops id).mp hj
  have hops : (List.ofFn fun i => ops[id i]) = ops := List.ofFn_getElem
  rw [hops] at hat
  rw [← hplace]
  exact hat

/-- Operations on one key each, in any other order that keeps the order of
those on the same normalized key, come to the same binder, and each of them to
the same reply. -/
theorem run_reorder {binder : Binder} (h : binder.Reachable) (ops : List Operation)
    (hops : ∀ op ∈ ops, op.key?.isSome) (order : Equiv.Perm (Fin ops.length))
    (horder : ∀ i j, i < j →
      ops[order i].Shares binder.caseSensitive ops[order j] → order i < order j) :
    let moved := List.ofFn fun i => ops[order i]
    binder.run moved = binder.run ops ∧
      ∀ i : Fin ops.length, ∃ reply, (binder.replies moved)[i.val]? = some reply ∧
        (binder.replies ops)[(order i).val]? = some reply := by
  intro moved
  have hperm : (placed ops order).Perm (placed ops id) :=
    order.ofFn_comp_perm fun i => (ops[i], (i : Nat))
  have hkeys : ∀ x ∈ placed ops id, x.1.key?.isSome := fun x hx =>
    hops x.1 (map_fst_placed_id ops ▸ List.mem_map_of_mem hx)
  have hsorted : (placed ops id).Pairwise fun x y => x.2 < y.2 :=
    List.pairwise_ofFn.mpr fun i j hij => hij
  have hmoved : (placed ops order).Pairwise fun x y =>
      x.1.Shares binder.caseSensitive y.1 → x.2 < y.2 :=
    List.pairwise_ofFn.mpr fun i j hij => horder i j hij
  have halike := alike_of_perm (tracked_of_reachable h) hperm hkeys hsorted hmoved
  have hrun := halike.run
  rw [map_fst_placed, map_fst_placed_id] at hrun
  refine ⟨hrun, fun i => ?_⟩
  have hi : i.val < (binder.replies moved).length := by
    rw [length_replies, List.length_ofFn]
    exact i.isLt
  have hreply := List.getElem?_eq_getElem hi
  exact ⟨_, hreply, halike.getElem?_replies i hreply⟩

/-- Two keys, each spelt in two ways, and one that is rejected. -/
theorem run_reorder_of_spellings :
    let v : Value := .displayed (.string "tea")
    let binder := indexed [v]
    let ops : List Operation := [.bind (.index 5) v, .bind (.name "Tea") v,
      .bind (.index (-1)) v, .unbind (.position 5), .unbind (.name "TEA")]
    let moved : List Operation := [.bind (.index (-1)) v, .bind (.name "Tea") v,
      .bind (.index 5) v, .unbind (.name "TEA"), .unbind (.position 5)]
    let order : Equiv.Perm (Fin 5) := (Equiv.swap 0 2).trans (Equiv.swap 3 4)
    binder.Reachable ∧ (∀ op ∈ ops, op.key?.isSome) ∧
      (∀ i j : Fin 5, i < j →
        ops[order i].Shares binder.caseSensitive ops[order j] → order i < order j) ∧
      binder.run moved = binder.run ops ∧
      ∀ i : Fin 5, ∃ reply, (binder.replies moved)[i.val]? = some reply ∧
        (binder.replies ops)[(order i).val]? = some reply := by
  intro v binder ops moved order
  have h : binder.Reachable := .indexed [v]
  have hops : ∀ op ∈ ops, op.key?.isSome := by decide
  have horder : ∀ i j : Fin 5, i < j →
      ops[order i].Shares binder.caseSensitive ops[order j] → order i < order j := by
    decide +kernel
  exact ⟨h, hops, horder, run_reorder h ops hops order horder⟩

end Phrasebook.Binder

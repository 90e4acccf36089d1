import Phrasebook.Binder.Basic

/-!
# Operations on binders

What a program can do to a binder, as data (`Operation`), the reply and the
binder after one operation (`perform`) and after a list of them (`run`). An
operation that fails leaves the binder as it was. A copy of a binder is the
binder itself, so `Reachable` covers copies.

All operations but `push` and `clear` are on one key (`Operation.key?`). They
do the same: they reply with what is bound under the key, normalized, and leave
a value or none there (`perform_of_key`), so they neither see nor change
anything else (`reply_congr`, `at?_perform_of_key`).

Whatever an operation does comes down to `insert`, `erase` and `clear`, so a
property that these keep holds of every binder that a program can hold:
`perform_keeps` for one operation, `Reachable.keeps` for all histories.
-/

namespace Phrasebook.Binder

/-- An operation that may change a binder. -/
inductive Operation where
  | bind (key : KeyName) (value : Value)
  | bindIndex (n : Nat) (value : Value)
  | bindName (name : String) (value : Value)
  | bindType (datum : Datum)
  | bindUnder (datum : Datum) (root : TypeName)
  | push (values : List Value)
  | unbind (key : KeyName)
  | clear

/-- The reply and the binder after an operation on `binder`, which stays as it
is if the operation fails. -/
def settle (binder : Binder) :
    Except Error (Option Value × Binder) → Except Error (Option Value) × Binder
  | .ok (reply, after) => (.ok reply, after)
  | .error error => (.error error, binder)

@[simp] theorem settle_ok (binder after : Binder) (reply : Option Value) :
    binder.settle (.ok (reply, after)) = (.ok reply, after) := rfl

@[simp] theorem settle_error (binder : Binder) (error : Error) :
    binder.settle (.error error) = (.error error, binder) := rfl

/-- Carries out an operation: its reply, and the binder afterwards. -/
def perform (binder : Binder) : Operation → Except Error (Option Value) × Binder
  | .bind key value => binder.settle (binder.bind key value)
  | .bindIndex n value => binder.settle (.ok (binder.bindIndex n value))
  | .bindName name value => binder.settle (.ok (binder.bindName name value))
  | .bindType datum => binder.settle (.ok (binder.bindType datum))
  | .bindUnder datum root => binder.settle (.ok (binder.bindUnder datum root))
  | .push values => binder.settle ((binder.push values).map fun after => (none, after))
  | .unbind key => binder.settle (binder.unbind key)
  | .clear => binder.settle (.ok (none, binder.clear))

/-- The binder after a list of operations. -/
def run (binder : Binder) (ops : List Operation) : Binder :=
  ops.foldl (fun b op => (b.perform op).2) binder

@[simp] theorem run_nil (binder : Binder) : binder.run [] = binder := rfl

@[simp] theorem run_cons (binder : Binder) (op : Operation) (ops : List Operation) :
    binder.run (op :: ops) = (binder.perform op).2.run ops := rfl

/-- The binders that a program can hold: made empty, from values or from JSON,
and then changed by operations. -/
inductive Reachable : Binder → Prop where
  | empty (caseSensitive : Bool) : Reachable (empty caseSensitive)
  | indexed (values : List Value) : Reachable (indexed values)
  | ofJson (json : Json) : Reachable (ofJson json)
  | perform {binder : Binder} (op : Operation) :
      Reachable binder → Reachable (binder.perform op).2

theorem Reachable.run {binder : Binder} (h : Reachable binder) (ops : List Operation) :
    Reachable (binder.run ops) := by
  induction ops generalizing binder with
  | nil => exact h
  | cons op ops ih => exact ih (.perform op h)

/-! ## Operations by the key that they mean -/

/-- Binding under a key is an insertion under what the key means. -/
theorem perform_bind (binder : Binder) (key : KeyName) (value : Value) :
    binder.perform (.bind key value) =
      match binder.keyOf key with
      | .ok k => (.ok (binder.at? k), binder.insert k value)
      | .error error => (.error error, binder) := by
  simp only [perform, bind]
  cases binder.keyOf key <;> rfl

theorem perform_unbind (binder : Binder) (key : KeyName) :
    binder.perform (.unbind key) =
      match binder.keyOf key with
      | .ok k => (.ok (binder.at? k), binder.erase k)
      | .error error => (.error error, binder) := by
  simp only [perform, unbind]
  cases binder.keyOf key <;> rfl

/-- Pushing values binds them after the highest position, or fails. -/
theorem perform_push (binder : Binder) (values : List Value) :
    binder.perform (.push values) =
      if values = [] then (.ok none, binder)
      else if binder.next + (values.length - 1) ≤ maxPushed then
        (.ok none, binder.insertFrom binder.next values)
      else (.error (.indexOverflow (binder.highest.getD 0) values.length), binder) := by
  simp only [perform, push, List.isEmpty_iff]
  split
  · rfl
  · split <;> rfl

/-- The position after the highest, zero if there is none. -/
theorem next_eq_elim (binder : Binder) : binder.next = binder.highest.elim 0 (· + 1) := by
  rw [next]
  cases binder.highest <;> rfl

/-- Values bound at positions are bound nowhere else. -/
theorem at?_insertFrom_of_ne {binder : Binder} {start : Nat} {key : Key} {values : List Value}
    (h : ∀ i < values.length, key ≠ .index (start + i)) :
    (binder.insertFrom start values).at? key = binder.at? key := by
  induction values generalizing binder start with
  | nil => rfl
  | cons value rest ih =>
    have hfirst : key ≠ .index start := h 0 (Nat.succ_pos _)
    rw [insertFrom, ih, at?_insert, if_neg hfirst.symm]
    intro i hi
    rw [Nat.add_assoc, Nat.add_comm 1]
    exact h (i + 1) (Nat.succ_lt_succ hi)

/-! ## Operations on one key -/

namespace Operation

/-- The key that the operation is on, as it is given; none if it may be on
several. -/
def key? : Operation → Option KeyName
  | .bind key _ => some key
  | .bindIndex n _ => some (.position n)
  | .bindName name _ => some (.name name)
  | .bindType datum => some (.type (.of datum.typeName))
  | .bindUnder datum root => some (.type ((TypeKey.of datum.typeName).under root))
  | .unbind key => some key
  | .push _ => none
  | .clear => none

/-- What an operation on one key leaves there. -/
def value? : Operation → Option Value
  | .bind _ value => some value
  | .bindIndex _ value => some value
  | .bindName _ value => some value
  | .bindType datum => some (.sealed datum)
  | .bindUnder datum _ => some (.sealed datum)
  | _ => none

/-- The normalized key that the operation is on, unless that is rejected. -/
def slot? (caseSensitive : Bool) (op : Operation) : Option Key :=
  op.key?.bind fun key => (key.normalize caseSensitive).toOption

end Operation

/-- Leaves a value, or none, under a normalized key. -/
def change (binder : Binder) (key : Key) : Option Value → Binder
  | some value => binder.insert key value
  | none => binder.erase key

theorem at?_change (binder : Binder) (k key : Key) (value : Option Value) :
    (binder.change k value).at? key = if k = key then value else binder.at? key := by
  cases value with
  | some value => exact at?_insert binder k key value
  | none => exact at?_erase binder k key

theorem perform_of_key {op : Operation} {key : KeyName} (h : op.key? = some key)
    (binder : Binder) :
    binder.perform op =
      match binder.keyOf key with
      | .ok k => (.ok (binder.at? k), binder.change k op.value?)
      | .error error => (.error error, binder) := by
  cases op with
  | push | clear => cases h
  | bind key value => cases h; exact perform_bind binder _ value
  | bindIndex n value => cases h; exact perform_bind binder (.position n) value
  | bindName name value => cases h; exact perform_bind binder (.name name) value
  | bindType datum => cases h; exact perform_bind binder (.type (.of datum.typeName)) _
  | bindUnder datum root =>
    cases h
    exact perform_bind binder (.type ((TypeKey.of datum.typeName).under root)) _
  | unbind key => cases h; exact perform_unbind binder _

/-- An operation on a normalized key replies with what is bound there, and
changes that; an operation on a rejected key changes nothing. -/
theorem perform_of_isSome {op : Operation} (h : op.key?.isSome) (caseSensitive : Bool) :
    (∃ k, op.slot? caseSensitive = some k ∧ ∀ binder : Binder,
        binder.caseSensitive = caseSensitive →
          binder.perform op = (.ok (binder.at? k), binder.change k op.value?)) ∨
      (∃ error, op.slot? caseSensitive = none ∧ ∀ binder : Binder,
        binder.caseSensitive = caseSensitive → binder.perform op = (.error error, binder)) := by
  obtain ⟨key, hkey⟩ := Option.isSome_iff_exists.mp h
  rw [Operation.slot?, hkey, Option.bind_some]
  cases hnormal : key.normalize caseSensitive with
  | ok k =>
    refine .inl ⟨k, rfl, fun binder hcase => ?_⟩
    rw [perform_of_key hkey, keyOf, hcase, hnormal]
  | error error =>
    refine .inr ⟨error, rfl, fun binder hcase => ?_⟩
    rw [perform_of_key hkey, keyOf, hcase, hnormal]

section OneKey

variable {binder : Binder} {op : Operation}

theorem caseSensitive_perform_of_key (h : op.key?.isSome) :
    (binder.perform op).2.caseSensitive = binder.caseSensitive := by
  rcases perform_of_isSome h binder.caseSensitive with ⟨k, -, hop⟩ | ⟨error, -, hop⟩
  · rw [hop binder rfl]
    cases op.value? <;> rfl
  · rw [hop binder rfl]

theorem at?_perform_of_key (h : op.key?.isSome) (key : Key) :
    (binder.perform op).2.at? key =
      if op.slot? binder.caseSensitive = some key then op.value? else binder.at? key := by
  rcases perform_of_isSome h binder.caseSensitive with ⟨k, hslot, hop⟩ | ⟨error, hslot, hop⟩
  · rw [hop binder rfl, at?_change, hslot]
    simp only [Option.some.injEq]
  · rw [hop binder rfl, hslot]
    simp only [reduceCtorEq, if_false]

/-- The reply depends on what is bound under the key. -/
theorem reply_congr {other : Binder} (h : op.key?.isSome)
    (hcase : other.caseSensitive = binder.caseSensitive)
    (hat : ∀ key, op.slot? binder.caseSensitive = some key → other.at? key = binder.at? key) :
    (other.perform op).1 = (binder.perform op).1 := by
  rcases perform_of_isSome h binder.caseSensitive with ⟨k, hslot, hop⟩ | ⟨error, hslot, hop⟩
  · rw [hop binder rfl, hop other hcase, hat k hslot]
  · rw [hop binder rfl, hop other hcase]

end OneKey

/-! ## What every history keeps -/

section Keeps

variable {Good : Binder → Prop}
  (hinsert : ∀ {binder : Binder} (key : Key) (value : Value),
    Good binder → Good (binder.insert key value))

include hinsert

theorem insertFrom_keeps {binder : Binder} (start : Nat) (values : List Value) (h : Good binder) :
    Good (binder.insertFrom start values) := by
  induction values generalizing binder start with
  | nil => exact h
  | cons value rest ih => exact ih (start + 1) (hinsert _ value h)

variable (herase : ∀ {binder : Binder} (key : Key), Good binder → Good (binder.erase key))
  (hempty : ∀ caseSensitive, Good (Binder.empty caseSensitive))

include herase hempty

/-- One operation keeps what insertions and removals keep and what holds of
binders without values. -/
theorem perform_keeps {binder : Binder} (op : Operation) (h : Good binder) :
    Good (binder.perform op).2 := by
  cases op with
  | bind key value =>
    rw [perform_bind]
    cases binder.keyOf key with
    | ok k => exact hinsert k value h
    | error => exact h
  | bindIndex n value => exact hinsert _ value h
  | bindName name value => exact hinsert _ value h
  | bindType datum => exact hinsert _ _ h
  | bindUnder datum root => exact hinsert _ _ h
  | push values =>
    rw [perform_push]
    split
    · exact h
    · split
      · exact insertFrom_keeps hinsert _ values h
      · exact h
  | unbind key =>
    rw [perform_unbind]
    cases binder.keyOf key with
    | ok k => exact herase k h
    | error => exact h
  | clear => exact hempty _

theorem Reachable.keeps {binder : Binder} (h : Reachable binder) : Good binder := by
  induction h with
  | empty caseSensitive => exact hempty caseSensitive
  | indexed values => exact List.foldlRecOn _ _ (hempty false) fun _ h _ _ => hinsert _ _ h
  | ofJson json =>
    cases json with
    | obj _ | arr _ => exact List.foldlRecOn _ _ (hempty false) fun _ h _ _ => hinsert _ _ h
    | _ => exact hinsert _ _ (hempty false)
  | perform op _ ih => exact perform_keeps hinsert herase hempty op ih

end Keeps

end Phrasebook.Binder

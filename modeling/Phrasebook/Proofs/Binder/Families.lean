import Phrasebook.Proofs.Binder.Operations

/-!
# One slot for each family of types

Values are bound for a type in three ways (`TypeWrite`), each for the family of
the type that is declared last to be the topmost (`TypeWrite.root`). A binder
has one slot for each family: it holds what the last operation on the family
left there, whatever was done for other families, names and positions
(`at?_run`). So a value stays until the family's slot is written or emptied
(`at?_written`).
-/

namespace Phrasebook

theorem TypeKey.topmost_foldl_under (key : TypeKey) (chain : List TypeName) :
    (chain.foldl TypeKey.under key).topmost = chain.getLast?.getD key.topmost := by
  induction chain generalizing key with
  | nil => rfl
  | cons root rest ih =>
    rw [List.foldl_cons, ih, topmost_under, List.getLast?_cons, Option.getD_some]

namespace Binder

/-- The family for which a key as it is given is. -/
def family? : KeyName → Option TypeName
  | .type key => some key.topmost
  | _ => none

/-- What the operation leaves in the slot of the family, if it is on the family. -/
def Operation.leaves? (family : TypeName) : Operation → Option (Option Value)
  | .bind key value => if family? key = some family then some (some value) else none
  | .bindType datum => if datum.typeName = family then some (some (.sealed datum)) else none
  | .bindUnder datum root => if root = family then some (some (.sealed datum)) else none
  | .unbind key => if family? key = some family then some none else none
  | .clear => some none
  | _ => none

section Slot

variable (binder : Binder) (family : TypeName)

theorem slot?_eq_type_iff {op : Operation} {key : KeyName} (h : op.key? = some key)
    (caseSensitive : Bool) :
    op.slot? caseSensitive = some (.type family) ↔ family? key = some family := by
  rw [Operation.slot?, h, Option.bind_some]
  rcases key with name | (n | n) | n | key
  all_goals
    simp only [KeyName.normalize, Except.toOption, family?, Option.some.injEq, Key.type.injEq,
      reduceCtorEq]

theorem at?_perform_type (op : Operation) {key : KeyName} (h : op.key? = some key) :
    (binder.perform op).2.at? (.type family) =
      if family? key = some family then op.value? else binder.at? (.type family) := by
  have hkey : op.key?.isSome := by rw [h]; rfl
  rw [at?_perform_of_key hkey]
  simp only [slot?_eq_type_iff family h]

theorem at?_perform (op : Operation) :
    (binder.perform op).2.at? (.type family) =
      (op.leaves? family).getD (binder.at? (.type family)) := by
  cases op with
  | bind | unbind =>
    rw [at?_perform_type binder family _ rfl, Operation.leaves?]
    split <;> rfl
  | bindIndex n value => exact binder.at?_perform_type family (.bindIndex n value) rfl
  | bindName name value => exact binder.at?_perform_type family (.bindName name value) rfl
  | bindType datum =>
    rw [at?_perform_type binder family _ rfl, Operation.leaves?]
    simp only [family?, TypeKey.topmost_of, Option.some.injEq]
    split <;> rfl
  | bindUnder datum root =>
    rw [at?_perform_type binder family _ rfl, Operation.leaves?]
    simp only [family?, TypeKey.topmost_under, Option.some.injEq]
    split <;> rfl
  | push values =>
    rw [perform_push]
    split
    · rfl
    · split
      · exact at?_insertFrom_of_ne fun _ _ => Key.noConfusion
      · rfl
  | clear => exact at?_empty _ _

/-- What the last of the operations on the family leaves in its slot. -/
def left? (ops : List Operation) : Option (Option Value) :=
  (ops.filterMap (Operation.leaves? family)).getLast?

theorem left?_eq_none_iff {family : TypeName} {ops : List Operation} :
    left? family ops = none ↔ ∀ op ∈ ops, op.leaves? family = none := by
  rw [left?, List.getLast?_eq_none_iff, List.filterMap_eq_nil_iff]

/-- The slot of a family holds what the last operation on the family left. -/
theorem at?_run (ops : List Operation) :
    (binder.run ops).at? (.type family) =
      (left? family ops).getD (binder.at? (.type family)) := by
  induction ops generalizing binder with
  | nil => rfl
  | cons op ops ih =>
    rw [run_cons, ih, at?_perform, left?, left?, List.filterMap_cons]
    cases op.leaves? family with
    | none => rfl
    | some slot =>
      rw [List.getLast?_cons, Option.getD_some]
      cases (ops.filterMap (Operation.leaves? family)).getLast? <;> rfl

end Slot

/-- A way to bind a value for a type. -/
inductive TypeWrite where
  /-- A datum, for its own type. -/
  | own (datum : Datum)
  /-- A datum, for the family of `root`. -/
  | under (datum : Datum) (root : TypeName)
  /-- Any value, for the key that the chain of declarations makes of a type. -/
  | key (type : TypeName) (chain : List TypeName) (value : Value)

namespace TypeWrite

/-- The operation on a binder. -/
def operation : TypeWrite → Operation
  | .own datum => .bindType datum
  | .under datum root => .bindUnder datum root
  | .key type chain value => .bind (.type (chain.foldl TypeKey.under (.of type))) value

/-- The type that is declared last to be the topmost. -/
def root : TypeWrite → TypeName
  | .own datum => datum.typeName
  | .under _ root => root
  | .key type chain _ => chain.getLast?.getD type

/-- The value that is bound. -/
def value : TypeWrite → Value
  | .own datum => .sealed datum
  | .under datum _ => .sealed datum
  | .key _ _ value => value

theorem leaves?_operation (write : TypeWrite) (family : TypeName) :
    write.operation.leaves? family =
      if write.root = family then some (some write.value) else none := by
  cases write with
  | own datum => rfl
  | under datum root => rfl
  | key type chain value =>
    rw [operation, Operation.leaves?, family?, TypeKey.topmost_foldl_under, TypeKey.topmost_of]
    exact ite_congr (Option.some.injEq _ _) (fun _ => rfl) fun _ => rfl

end TypeWrite

/-- A value written is in the slot of a family exactly if it was written for
that family and no operation has been on it since; otherwise the slot is as if
the value had not been written. -/
theorem at?_written (binder : Binder) (write : TypeWrite) (after : List Operation)
    (family : TypeName) :
    ((binder.perform write.operation).2.run after).at? (.type family) =
      if write.root = family ∧ ∀ op ∈ after, op.leaves? family = none then some write.value
      else (binder.run after).at? (.type family) := by
  rw [at?_run, at?_run, at?_perform, write.leaves?_operation]
  simp only [← left?_eq_none_iff]
  cases left? family after with
  | some slot =>
    have hlater : ¬(write.root = family ∧ some slot = none) := fun h => nomatch h.2
    rw [if_neg hlater, Option.getD_some, Option.getD_some]
  | none =>
    simp only [and_true, Option.getD_none]
    split <;> rfl

end Binder

end Phrasebook

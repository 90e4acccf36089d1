import Phrasebook.Lexicon

/-!
# Operations on lexicons

What a program can do to the placeholders of a lexicon, as data (`Operation`),
and the lexicon after one operation (`perform`) and after a list of them
(`run`). Rendering changes no lexicon, so `Reachable` lexicons are those that
operations lead to.

A placeholder is always kept under the normalized form of its own name
(`Keyed`), since registering does so (`Keyed.put`). So it is in every lexicon
that a program can hold (`Reachable.keyed`).
-/

namespace Phrasebook.Lexicon

/-- An operation that may change which placeholders a lexicon has. -/
inductive Operation where
  | set (p : Placeholder)
  | extend (ps : List Placeholder)
  | remove (name : String)
  | clear

/-- Carries out an operation: the placeholder that it replaces or removes, and
the lexicon afterwards. -/
def perform (lexicon : Lexicon) : Operation → Option Placeholder × Lexicon
  | .set p => (lexicon.get? p.name, lexicon.set p)
  | .extend ps => (none, lexicon.extend ps)
  | .remove name => (lexicon.get? name, lexicon.remove name)
  | .clear => (none, lexicon.clear)

/-- The lexicon after a list of operations. -/
def run (lexicon : Lexicon) (ops : List Operation) : Lexicon :=
  ops.foldl (fun l op => (l.perform op).2) lexicon

@[simp] theorem run_nil (lexicon : Lexicon) : lexicon.run [] = lexicon := rfl

@[simp] theorem run_cons (lexicon : Lexicon) (op : Operation) (ops : List Operation) :
    lexicon.run (op :: ops) = (lexicon.perform op).2.run ops := rfl

/-- The lexicons that a program can hold: made empty and changed by operations. -/
inductive Reachable : Lexicon → Prop where
  | empty (caseSensitive : Bool) : Reachable (empty caseSensitive)
  | perform {lexicon : Lexicon} (op : Operation) :
      Reachable lexicon → Reachable (lexicon.perform op).2

theorem Reachable.run {lexicon : Lexicon} (h : lexicon.Reachable) (ops : List Operation) :
    (lexicon.run ops).Reachable := by
  induction ops generalizing lexicon with
  | nil => exact h
  | cons op ops ih => exact ih (.perform op h)

variable {lexicon : Lexicon}

/-! ## The case of names counts as before -/

@[simp] theorem caseSensitive_extend (lexicon : Lexicon) (ps : List Placeholder) :
    (lexicon.extend ps).caseSensitive = lexicon.caseSensitive := by
  induction ps generalizing lexicon with
  | nil => rfl
  | cons p ps ih => exact ih (lexicon.set p)

@[simp] theorem caseSensitive_perform (lexicon : Lexicon) (op : Operation) :
    (lexicon.perform op).2.caseSensitive = lexicon.caseSensitive := by
  cases op with
  | extend ps => exact caseSensitive_extend lexicon ps
  | set | remove | clear => rfl

@[simp] theorem caseSensitive_run (lexicon : Lexicon) (ops : List Operation) :
    (lexicon.run ops).caseSensitive = lexicon.caseSensitive := by
  induction ops generalizing lexicon with
  | nil => rfl
  | cons op ops ih => rw [run_cons, ih, caseSensitive_perform]

theorem normalize_of_caseSensitive {a b : Lexicon} (h : a.caseSensitive = b.caseSensitive)
    (name : String) : a.normalize name = b.normalize name := by
  rw [normalize, h, normalize]

@[simp] theorem normalize_perform (lexicon : Lexicon) (op : Operation) (name : String) :
    (lexicon.perform op).2.normalize name = lexicon.normalize name :=
  normalize_of_caseSensitive (caseSensitive_perform lexicon op) name

@[simp] theorem normalize_run (lexicon : Lexicon) (ops : List Operation) (name : String) :
    (lexicon.run ops).normalize name = lexicon.normalize name :=
  normalize_of_caseSensitive (caseSensitive_run lexicon ops) name

/-! ## Entry by entry -/

theorem entries_put (lexicon : Lexicon) (name : String) (p : Placeholder) (key : String) :
    (lexicon.put name p).entries[key]? =
      if lexicon.normalize name = key then some p else lexicon.entries[key]? := by
  by_cases h : lexicon.normalize name = key <;>
    simp [put, Std.ExtTreeMap.getElem?_insert, h]

theorem entries_remove (lexicon : Lexicon) (name : String) (key : String) :
    (lexicon.remove name).entries[key]? =
      if lexicon.normalize name = key then none else lexicon.entries[key]? := by
  by_cases h : lexicon.normalize name = key <;>
    simp [remove, Std.ExtTreeMap.getElem?_erase, h]

/-! ## Placeholders are kept under their own names -/

/-- The key of an entry is the normalized name of its placeholder. -/
def Keyed (lexicon : Lexicon) : Prop :=
  ∀ key p, lexicon.entries[key]? = some p → lexicon.normalize p.name = key

theorem keyed_empty (caseSensitive : Bool) : (empty caseSensitive).Keyed := by
  intro key p h
  simp [empty] at h

theorem Keyed.put (h : lexicon.Keyed) {name : String} {p : Placeholder}
    (hname : lexicon.normalize p.name = lexicon.normalize name) : (lexicon.put name p).Keyed := by
  intro key q hq
  rw [normalize_put]
  rw [entries_put] at hq
  split at hq
  · rename_i hkey
    rw [← Option.some.inj hq, hname, hkey]
  · exact h key q hq

theorem Keyed.extend (h : lexicon.Keyed) (ps : List Placeholder) : (lexicon.extend ps).Keyed := by
  induction ps generalizing lexicon with
  | nil => exact h
  | cons p ps ih => exact ih (h.put rfl)

theorem Keyed.perform (h : lexicon.Keyed) (op : Operation) : (lexicon.perform op).2.Keyed := by
  cases op with
  | set p => exact h.put rfl
  | extend ps => exact h.extend ps
  | remove name =>
    intro key p hp
    have hentry : (lexicon.remove name).entries[key]? = some p := hp
    rw [entries_remove] at hentry
    split at hentry
    · cases hentry
    · exact h key p hentry
  | clear => exact keyed_empty lexicon.caseSensitive

theorem Keyed.run (h : lexicon.Keyed) (ops : List Operation) : (lexicon.run ops).Keyed := by
  induction ops generalizing lexicon with
  | nil => exact h
  | cons op ops ih => exact ih (h.perform op)

/-- A name finds placeholders only whose own names are normalized to the same. -/
theorem Keyed.normalize_name (h : lexicon.Keyed) {name : String} {p : Placeholder}
    (hp : lexicon.get? name = some p) : lexicon.normalize p.name = lexicon.normalize name :=
  h _ p hp

theorem Reachable.keyed (h : lexicon.Reachable) : lexicon.Keyed := by
  induction h with
  | empty caseSensitive => exact keyed_empty caseSensitive
  | perform op _ ih => exact ih.perform op

end Phrasebook.Lexicon

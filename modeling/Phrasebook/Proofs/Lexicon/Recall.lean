import Mathlib.Data.List.Nodup
import Phrasebook.Proofs.Lexicon.Operations
import Phrasebook.Proofs.Workspace.Sessions

/-!
# A lexicon recalls what was registered last

What a lexicon has under a key is told by the last operation that was on that
key (`Operation.leaves?`), whichever spellings of names the operations used:
`entries_perform` is the step and `entries_run` the run. The names of a lexicon
are those of its placeholders as they spell them, and since the keys of
placeholders are their normalized names (`Keyed`), no two are the same
(`Keyed.pairwise_names`). `Recalls` is what follows for all that can be asked of
a lexicon (`run_recalls`).
-/

namespace Phrasebook

/-- A session that registers a placeholder replies with the one that it replaces. -/
theorem Session.reply_register {w : Workspace} {name : String} {id : LexiconId}
    (h : w.lexiconNames[name]? = some id) (p : Placeholder) :
    ((register name p).run w).1 =
      .ok ((w.lexicons.get id.index).get? p.name, ((w.lexicons.get id.index).set p).size) := by
  rw [register, run_bind, changeLexicon, run_bind, findLexicon, run_bind, run_find, h]
  rfl

namespace Lexicon

/-- What the operation leaves under the key, if it is on the key. Of several
placeholders registered at once the last counts. -/
def Operation.leaves? (normalize : String → String) (key : String) :
    Operation → Option (Option Placeholder)
  | .set p => if normalize p.name = key then some (some p) else none
  | .extend ps => (ps.reverse.find? fun p => normalize p.name = key).map some
  | .remove name => if normalize name = key then some none else none
  | .clear => some none

/-- The placeholder registered last under the key and not since removed. -/
def latest (normalize : String → String) (ops : List Operation) (key : String) :
    Option Placeholder :=
  (ops.filterMap (Operation.leaves? normalize key)).getLast?.getD none

variable {lexicon : Lexicon}

/-! ## Entries after operations -/

theorem entries_extend (lexicon : Lexicon) (ps : List Placeholder) (key : String) :
    (lexicon.extend ps).entries[key]? =
      (ps.reverse.find? fun p => lexicon.normalize p.name = key).or lexicon.entries[key]? := by
  induction ps generalizing lexicon with
  | nil => rfl
  | cons p ps ih =>
    show ((lexicon.set p).extend ps).entries[key]? = _
    rw [ih, List.reverse_cons, List.find?_append, Option.or_assoc, set, entries_put,
      List.find?_singleton]
    simp only [normalize_put, decide_eq_true_eq]
    split <;> rfl

/-- One operation changes the entries that it is on. -/
theorem entries_perform (lexicon : Lexicon) (op : Operation) (key : String) :
    (lexicon.perform op).2.entries[key]? =
      (op.leaves? lexicon.normalize key).getD lexicon.entries[key]? := by
  cases op with
  | set p =>
    refine (entries_put lexicon p.name p key).trans ?_
    rw [Operation.leaves?]
    split <;> rfl
  | extend ps =>
    refine (entries_extend lexicon ps key).trans ?_
    rw [Operation.leaves?]
    cases ps.reverse.find? fun p => lexicon.normalize p.name = key <;> rfl
  | remove name =>
    refine (entries_remove lexicon name key).trans ?_
    rw [Operation.leaves?]
    split <;> rfl
  | clear =>
    show (∅ : Std.ExtTreeMap String Placeholder)[key]? = none
    simp

/-- The last operation on a key says what is kept under it. -/
theorem entries_run (lexicon : Lexicon) (ops : List Operation) (key : String) :
    (lexicon.run ops).entries[key]? =
      (ops.filterMap (Operation.leaves? lexicon.normalize key)).getLast?.getD
        lexicon.entries[key]? := by
  induction ops generalizing lexicon with
  | nil => rfl
  | cons op ops ih =>
    have hnormalize : (lexicon.perform op).2.normalize = lexicon.normalize :=
      funext (lexicon.normalize_perform op)
    rw [run_cons, ih, hnormalize, entries_perform, List.filterMap_cons]
    cases op.leaves? lexicon.normalize key with
    | none => rfl
    | some left =>
      rw [List.getLast?_cons, Option.getD_some]
      cases (ops.filterMap (Operation.leaves? lexicon.normalize key)).getLast? <;> rfl

/-- Registering placeholders at once is registering them in turn. -/
theorem extend_eq_run (lexicon : Lexicon) (ps : List Placeholder) :
    lexicon.extend ps = lexicon.run (ps.map .set) := by
  rw [run, List.foldl_map]
  rfl

/-! ## The names -/

theorem mem_names {name : String} :
    name ∈ lexicon.names ↔
      ∃ (key : String) (p : Placeholder), lexicon.entries[key]? = some p ∧ p.name = name := by
  rw [names, List.mem_mergeSort, List.mem_map]
  constructor
  · rintro ⟨⟨key, p⟩, hmem, hname⟩
    exact ⟨key, p, Std.ExtTreeMap.mem_toList_iff_getElem?_eq_some.mp hmem, hname⟩
  · rintro ⟨key, p, hp, hname⟩
    exact ⟨(key, p), Std.ExtTreeMap.mem_toList_iff_getElem?_eq_some.mpr hp, hname⟩

theorem length_names (lexicon : Lexicon) : lexicon.names.length = lexicon.size := by
  rw [names, List.length_mergeSort, List.length_map, Std.ExtTreeMap.length_toList, size]

/-- Placeholders under different keys have different names. -/
theorem Keyed.nodup_names (h : lexicon.Keyed) : lexicon.names.Nodup := by
  have hkeys : (lexicon.entries.toList.map fun entry => entry.2.name).map lexicon.normalize =
      lexicon.entries.keys := by
    rw [← Std.ExtTreeMap.map_fst_toList_eq_keys, List.map_map]
    refine List.map_congr_left fun entry hentry => ?_
    exact h _ _ (Std.ExtTreeMap.mem_toList_iff_getElem?_eq_some.mp hentry)
  have hnodup : (lexicon.entries.toList.map fun entry => entry.2.name).Nodup := by
    refine List.Nodup.of_map lexicon.normalize ?_
    rw [hkeys]
    exact Std.ExtTreeMap.nodup_keys
  exact (List.mergeSort_perm _ _).nodup_iff.mpr hnodup

/-- The names are in order and no two are the same. -/
theorem Keyed.pairwise_names (h : lexicon.Keyed) : lexicon.names.Pairwise (· < ·) := by
  have hsorted : lexicon.names.Pairwise (· ≤ ·) := by
    refine (List.pairwise_mergeSort ?_ ?_ _).imp of_decide_eq_true
    · intro a b c hab hbc
      exact decide_eq_true (String.le_trans (of_decide_eq_true hab) (of_decide_eq_true hbc))
    · intro a b
      simpa using String.le_total a b
  refine hsorted.imp₂ (fun a b hle hne => ?_) h.nodup_names
  exact String.not_le.mp fun hge => hne (String.le_antisymm hle hge)

/-! ## All that can be asked of a lexicon -/

/-- Every answer of the lexicon is the one that the operations give. -/
structure Recalls (lexicon : Lexicon) (caseSensitive : Bool) (ops : List Operation) : Prop where
  normalize : ∀ name, lexicon.normalize name = if caseSensitive then name else Text.lowercase name
  /-- The key of a placeholder is its normalized name. -/
  keyed : ∀ (key : String) (p : Placeholder), lexicon.entries[key]? = some p →
    lexicon.normalize p.name = key
  /-- Under each key is the placeholder registered last and not since removed. -/
  entries : ∀ key : String, lexicon.entries[key]? = latest lexicon.normalize ops key
  get? : ∀ name, lexicon.get? name = latest lexicon.normalize ops (lexicon.normalize name)
  has : ∀ name, lexicon.has name ↔ ∃ p, lexicon.get? name = some p
  /-- Two spellings that are normalized to the same are the same to a lexicon. -/
  spelling : ∀ a b, lexicon.normalize a = lexicon.normalize b →
    lexicon.get? a = lexicon.get? b ∧ lexicon.has a = lexicon.has b ∧
      lexicon.perform (.remove a) = lexicon.perform (.remove b)
  /-- Registering replies with the placeholder replaced, also as a session. -/
  replaced : ∀ p, (lexicon.perform (.set p)).1 =
    latest lexicon.normalize ops (lexicon.normalize p.name)
  registered : ∀ (w : Workspace) (name : String) (id : LexiconId) (p : Placeholder),
    w.lexiconNames[name]? = some id → w.lexicons.get id.index = lexicon →
      ((Session.register name p).run w).1 =
        .ok (latest lexicon.normalize ops (lexicon.normalize p.name), (lexicon.set p).size)
  removed : ∀ name, (lexicon.perform (.remove name)).1 =
    latest lexicon.normalize ops (lexicon.normalize name)
  /-- Registering placeholders at once is registering them in turn. -/
  extend : ∀ ps, (lexicon.perform (.extend ps)).2 = lexicon.run (ps.map .set)
  pairwise_names : lexicon.names.Pairwise (· < ·)
  /-- The names are those of the placeholders that are there, as they spell them. -/
  mem_names : ∀ name, name ∈ lexicon.names ↔
    ∃ key p, latest lexicon.normalize ops key = some p ∧ p.name = name
  length_names : lexicon.names.length = lexicon.size

theorem perform_remove_congr {a b : String} (h : lexicon.normalize a = lexicon.normalize b) :
    lexicon.perform (.remove a) = lexicon.perform (.remove b) := by
  rw [perform, perform, get?_congr h, remove, remove, h]

/-- After any operations a lexicon answers as the last operations on each name
say: it is the map from normalized names to the placeholders registered last. -/
theorem run_recalls (caseSensitive : Bool) (ops : List Operation) :
    ((empty caseSensitive).run ops).Recalls caseSensitive ops := by
  have hkeyed : ((empty caseSensitive).run ops).Keyed := (keyed_empty caseSensitive).run ops
  have hcase : ((empty caseSensitive).run ops).caseSensitive = caseSensitive :=
    caseSensitive_run (empty caseSensitive) ops
  have hentries : ∀ key : String, ((empty caseSensitive).run ops).entries[key]? =
      latest ((empty caseSensitive).run ops).normalize ops key := by
    intro key
    have hnormalize : ((empty caseSensitive).run ops).normalize = (empty caseSensitive).normalize :=
      funext (normalize_run (empty caseSensitive) ops)
    rw [hnormalize, latest, entries_run]
    simp [empty]
  generalize (empty caseSensitive).run ops = lexicon at hkeyed hcase hentries
  have hget : ∀ name, lexicon.get? name = latest lexicon.normalize ops (lexicon.normalize name) :=
    fun name => hentries (lexicon.normalize name)
  exact
    { normalize := fun name => by rw [normalize, hcase]
      keyed := hkeyed
      entries := hentries
      get? := hget
      has := fun name => Option.isSome_iff_exists
      spelling := fun a b h =>
        ⟨get?_congr h, by rw [has, has, get?_congr h], perform_remove_congr h⟩
      replaced := fun p => hget p.name
      registered := fun w name id p hname hid => by
        rw [Session.reply_register hname, hid, hget]
      removed := hget
      extend := extend_eq_run lexicon
      pairwise_names := hkeyed.pairwise_names
      mem_names := fun name => by simp only [Lexicon.mem_names, hentries]
      length_names := length_names lexicon }

end Lexicon

end Phrasebook

import Mathlib.Data.List.Dedup
import Phrasebook.Proofs.Binder.Pushing
import Phrasebook.Proofs.Json.Sorted
import Phrasebook.Proofs.Rendering.Families

/-!
# Binders made of JSON

A binder made of a JSON value has what the value says and nothing else
(`Json.Binds`): the members of an object by name, the elements of an array by
position, any other value at the first position. Names are kept in small
letters, so several members may be for one key. They are bound one after
another, the last of a key counts (`at?_bindMembers`), and since members are
sorted that is the one with the greatest name (`find?_eq_some_iff_of_sorted`).

Text is bound without quotes and null as an empty text, all else as its compact
text (`Json.plain`), and that is what the references to a member become,
whatever the lexicon has under its name (`ofJson_holds`).
-/

namespace Phrasebook

namespace Json

/-- The text that stands for a value in a message. -/
def plain : Json → String
  | .str text => text
  | .null => ""
  | value => value.text

/-- The value is the one for that key: of the members whose names differ only in
case the one with the greatest name is. -/
def Binds : Json → Key → Json → Prop
  | .obj members, key, value => ∃ name, (name, value) ∈ members ∧
      key = .name (Text.lowercase name) ∧
      ∀ m ∈ members, Text.lowercase m.1 = Text.lowercase name → m.1 ≤ name
  | .arr elements, key, value => ∃ i, elements[i]? = some value ∧ key = .index i
  | json, key, value => key = .index 0 ∧ value = json

/-- How many keys there are values for. -/
def keyCount : Json → Nat
  | .obj members => (members.map fun m => Text.lowercase m.1).dedup.length
  | .arr elements => elements.length
  | _ => 1

/-- The highest position that there is a value for. -/
def lastPlace? : Json → Option Nat
  | .obj _ => none
  | .arr elements => if elements = [] then none else some (elements.length - 1)
  | _ => some 0

end Json

theorem Value.render_ofJson (json : Json) : (Value.displayed (.ofJson json)).render = json.plain := by
  cases json <;> rfl

namespace Binder

/-! ## Members by name -/

section Members

/-- In a list that is sorted downwards the first element with a property is the
greatest that has it. -/
theorem find?_eq_some_iff_of_sorted {p : String × Json → Bool} {m : String × Json}
    {sorted : List (String × Json)} (h : sorted.Pairwise fun a b => b.1 < a.1) :
    sorted.find? p = some m ↔ m ∈ sorted ∧ p m ∧ ∀ other ∈ sorted, p other → other.1 ≤ m.1 := by
  induction sorted with
  | nil => simp
  | cons first rest ih =>
    obtain ⟨hfirst, hrest⟩ := List.pairwise_cons.mp h
    rw [List.find?_cons]
    by_cases hp : p first
    · simp only [hp, Option.some.injEq]
      constructor
      · rintro rfl
        refine ⟨List.mem_cons_self, hp, fun other hother _ => ?_⟩
        rcases List.mem_cons.mp hother with rfl | hmem
        · exact le_refl _
        · exact (hfirst other hmem).le
      · rintro ⟨hm, -, hgreatest⟩
        rcases List.mem_cons.mp hm with rfl | hmem
        · rfl
        · exact absurd (hgreatest first List.mem_cons_self hp) (hfirst m hmem).not_ge
    · have hne : ∀ other, p other → other ≠ first := fun other hother he => hp (he ▸ hother)
      rw [Bool.not_eq_true] at hp
      simp only [hp, ih hrest]
      constructor
      · rintro ⟨hm, hpm, hgreatest⟩
        refine ⟨List.mem_cons_of_mem first hm, hpm, fun other hother hpother => ?_⟩
        exact hgreatest other (List.mem_of_ne_of_mem (hne other hpother) hother) hpother
      · rintro ⟨hm, hpm, hgreatest⟩
        exact ⟨List.mem_of_ne_of_mem (hne m hpm) hm, hpm, fun other hother =>
          hgreatest other (List.mem_cons_of_mem first hother)⟩

/-- Binds members by name, one after another. -/
def bindMembers (binder : Binder) (members : List (String × Json)) : Binder :=
  members.foldl (fun binder m => (binder.bindName m.1 (.displayed (.ofJson m.2))).2) binder

theorem ofJson_obj (members : List (String × Json)) :
    ofJson (.obj members) = (empty false).bindMembers members := rfl

variable {binder : Binder} {members : List (String × Json)}

theorem caseSensitive_bindMembers (members : List (String × Json)) :
    (binder.bindMembers members).caseSensitive = binder.caseSensitive := by
  induction members generalizing binder with
  | nil => rfl
  | cons m members ih => exact ih

/-- Of the members of a key the last is bound. -/
theorem at?_bindMembers (h : binder.caseSensitive = false) (members : List (String × Json))
    (key : Key) :
    (binder.bindMembers members).at? key =
      ((members.reverse.find? fun m => Key.name (Text.lowercase m.1) = key).map
        fun m => .displayed (.ofJson m.2)).or (binder.at? key) := by
  induction members generalizing binder with
  | nil => rfl
  | cons m members ih =>
    have hkey : binder.nameKey m.1 = .name (Text.lowercase m.1) := by
      rw [nameKey, h]
      rfl
    have hstep : binder.bindMembers (m :: members) =
      (binder.insert (.name (Text.lowercase m.1)) (.displayed (.ofJson m.2))).bindMembers members := by
      rw [← hkey]
      rfl
    have hcase : (binder.insert (.name (Text.lowercase m.1))
        (.displayed (.ofJson m.2))).caseSensitive = false := h
    rw [hstep, ih hcase, at?_insert, List.reverse_cons, List.find?_append, List.find?_singleton]
    -- A member of the key among the later ones hides the first.
    cases members.reverse.find? fun m => Key.name (Text.lowercase m.1) = key with
    | some last => rfl
    | none =>
      by_cases hm : Key.name (Text.lowercase m.1) = key
      · simp [hm]
      · simp [hm]

theorem at?_ofJson_obj (h : (Json.obj members).Sorted) (key : Key) (value : Value) :
    (ofJson (.obj members)).at? key = some value ↔
      ∃ json, (Json.obj members).Binds key json ∧ value = .displayed (.ofJson json) := by
  have hsorted : members.reverse.Pairwise fun a b => b.1 < a.1 := List.pairwise_reverse.mpr h
  rw [ofJson_obj, at?_bindMembers rfl, at?_empty, Option.or_none, Option.map_eq_some_iff]
  simp only [find?_eq_some_iff_of_sorted hsorted, List.mem_reverse, decide_eq_true_eq, Json.Binds]
  constructor
  · rintro ⟨⟨name, json⟩, ⟨hm, rfl, hgreatest⟩, rfl⟩
    refine ⟨json, ⟨name, hm, rfl, fun other hother he => hgreatest other hother ?_⟩, rfl⟩
    rw [he]
  · rintro ⟨json, ⟨name, hm, rfl, hgreatest⟩, rfl⟩
    refine ⟨(name, json), ⟨hm, rfl, fun other hother he => ?_⟩, rfl⟩
    exact hgreatest other hother (Key.name.inj he)

theorem isSome_at?_ofJson_obj (members : List (String × Json)) (key : Key) :
    ((ofJson (.obj members)).at? key).isSome ↔
      key ∈ (members.map fun m => Text.lowercase m.1).dedup.map Key.name := by
  rw [ofJson_obj, at?_bindMembers rfl, at?_empty, Option.or_none, Option.isSome_map,
    List.find?_isSome]
  simp

/-- There is one key for all names that differ only in case. -/
theorem size_ofJson_obj (members : List (String × Json)) :
    (ofJson (.obj members)).size = (members.map fun m => Text.lowercase m.1).dedup.length := by
  have hmem : ∀ key, key ∈ (ofJson (.obj members)).entries.keys ↔
      key ∈ (members.map fun m => Text.lowercase m.1).dedup.map Key.name := fun key => by
    rw [Std.ExtTreeMap.mem_keys, Std.ExtTreeMap.mem_iff_isSome_getElem?]
    exact isSome_at?_ofJson_obj members key
  have hnodup : ((members.map fun m => Text.lowercase m.1).dedup.map Key.name).Nodup :=
    (List.nodup_dedup _).map fun _ _ => Key.name.inj
  have hperm := (List.perm_ext_iff_of_nodup Std.ExtTreeMap.nodup_keys hnodup).mpr hmem
  rw [size, ← Std.ExtTreeMap.length_keys, hperm.length_eq, List.length_map]

end Members

/-! ## Elements by position -/

section Elements

variable {elements : List Json}

theorem ofJson_arr_eq_insertFrom (elements : List Json) :
    ofJson (.arr elements) =
      (empty false).insertFrom 0 (elements.map fun element => .displayed (.ofJson element)) := by
  rw [ofJson_arr, indexed_eq_insertFrom]

theorem at?_ofJson_arr (key : Key) (value : Value) :
    (ofJson (.arr elements)).at? key = some value ↔
      ∃ json, (Json.arr elements).Binds key json ∧ value = .displayed (.ofJson json) := by
  rw [ofJson_arr_eq_insertFrom]
  by_cases hkey : ∃ i < elements.length, key = .index i
  · obtain ⟨i, hi, rfl⟩ := hkey
    have hi' : i < (elements.map fun element => Value.displayed (.ofJson element)).length := by
      rwa [List.length_map]
    rw [← Nat.zero_add i, at?_insertFrom_add hi', Nat.zero_add]
    simp [Json.Binds, List.getElem?_eq_getElem hi, eq_comm]
  · rw [at?_insertFrom_of_ne]
    · simp only [at?_empty, reduceCtorEq, false_iff, Json.Binds]
      rintro ⟨json, ⟨i, hi, rfl⟩, -⟩
      exact hkey ⟨i, (List.getElem?_eq_some_iff.mp hi).1, rfl⟩
    · intro i hi he
      rw [List.length_map] at hi
      exact hkey ⟨i, hi, by rw [he, Nat.zero_add]⟩

theorem size_ofJson_arr (elements : List Json) :
    (ofJson (.arr elements)).size = elements.length := by
  rw [ofJson_arr_eq_insertFrom, size_insertFrom fun n _ => at?_empty false (.index n),
    List.length_map]
  exact Nat.zero_add _

theorem highest_ofJson_arr (elements : List Json) :
    (ofJson (.arr elements)).highest =
      if elements = [] then none else some (elements.length - 1) := by
  rw [ofJson_arr_eq_insertFrom]
  split
  · rename_i hnil
    rw [hnil]
    rfl
  · rename_i hne
    rw [highest_insertFrom (Nat.le_refl 0) (mt List.map_eq_nil_iff.mp hne), List.length_map,
      Nat.zero_add]

end Elements

/-! ## Any value -/

/-- The binder has what the JSON value says, and nothing else. -/
structure Holds (binder : Binder) (json : Json) : Prop where
  caseSensitive : binder.caseSensitive = false
  at? : ∀ key value, binder.at? key = some value ↔
    ∃ v, json.Binds key v ∧ value = .displayed (.ofJson v)
  size : binder.size = json.keyCount
  highest : binder.highest = json.lastPlace?

theorem holds_ofJson_obj {members : List (String × Json)} (h : (Json.obj members).Sorted) :
    (ofJson (.obj members)).Holds (.obj members) where
  caseSensitive := caseSensitive_bindMembers members
  at? := at?_ofJson_obj h
  size := size_ofJson_obj members
  highest := by
    have htracked := tracked_of_reachable (.ofJson (.obj members))
    refine htracked.highest_eq_none_iff.mpr (Set.eq_empty_iff_forall_notMem.mpr fun n hn => ?_)
    rw [mem_positions, isSome_at?_ofJson_obj] at hn
    simp at hn

theorem holds_ofJson_arr (elements : List Json) :
    (ofJson (.arr elements)).Holds (.arr elements) where
  caseSensitive := by rw [ofJson_arr_eq_insertFrom, caseSensitive_insertFrom]; rfl
  at? := at?_ofJson_arr
  size := size_ofJson_arr elements
  highest := highest_ofJson_arr elements

/-- One value at the first position. -/
theorem holds_of_single {json : Json}
    (hbinder : ofJson json = (empty false).insert (.index 0) (.displayed (.ofJson json)))
    (hbinds : ∀ key v, json.Binds key v ↔ key = .index 0 ∧ v = json)
    (hcount : json.keyCount = 1) (hplace : json.lastPlace? = some 0) : (ofJson json).Holds json where
  caseSensitive := by rw [hbinder]; rfl
  at? key value := by
    rw [hbinder, at?_insert, at?_empty]
    simp only [hbinds]
    by_cases hkey : key = .index 0
    · simp [hkey, eq_comm]
    · simp [hkey, Ne.symm hkey]
  size := by rw [hbinder, size_insert_of_none (at?_empty false _), hcount]; rfl
  highest := by rw [hbinder, hplace]; rfl

theorem holds_ofJson {json : Json} (h : json.Sorted) : (ofJson json).Holds json := by
  cases json with
  | obj members => exact holds_ofJson_obj h
  | arr elements => exact holds_ofJson_arr elements
  | null | bool | int | real | str =>
    exact holds_of_single rfl (fun _ _ => Iff.rfl) rfl rfl

/-- Only the members of an object are bound by name, and then nothing is by position. -/
theorem Holds.at?_index {binder : Binder} {json v : Json} {name : String} (h : binder.Holds json)
    (hbinds : json.Binds (.name name) v) (n : Nat) : binder.at? (.index n) = none := by
  refine Option.eq_none_iff_forall_ne_some.mpr fun value hvalue => ?_
  obtain ⟨other, hother, -⟩ := (h.at? _ value).mp hvalue
  cases json with
  | obj members =>
    obtain ⟨_, _, hkey, _⟩ := hother
    cases hkey
  | arr elements =>
    obtain ⟨_, _, hkey⟩ := hbinds
    cases hkey
  | null | bool | int | real | str => cases hbinds.1

/-- A reference to a member comes to the member's text, and nothing is reported
on it. -/
theorem Holds.textOf_reportsOn {binder : Binder} {json v : Json} {name : String}
    (h : binder.Holds json) (hbinds : json.Binds (.name (Text.lowercase name)) v)
    (context : Context) (before : Tokens) (raw : String) :
    context.textOf binder before (.placeholder raw name) = v.plain ∧
      context.reportsOn binder before (.placeholder raw name) = [] := by
  have hname : binder.value? (.name name) = some (.displayed (.ofJson v)) := by
    rw [value?_name, nameKey, h.caseSensitive]
    exact (h.at? _ _).mpr ⟨v, hbinds, rfl⟩
  have hrule : (context.advance binder before).ruleText? binder before.names.length name =
      some (Value.displayed (.ofJson v)).render :=
    Context.ruleText?_of_name (h.at?_index hbinds _) hname
  have hbound : Lexicon.isBound binder before.names.length name = true := by
    rw [Lexicon.isBound, hname, Option.isSome_some, Bool.or_true]
  rw [Context.textOf, Context.reportsOn, Context.reportsAt, hrule, hbound, Option.getD_some,
    Value.render_ofJson]
  exact ⟨rfl, rfl⟩

/-- A binder made of JSON has the members of an object by name, the elements of
an array by position, or any other value at the first position, and nothing
else. Null is bound as well as any other value: each reference to a member comes
to the member's text, which is empty for null, and nothing is reported on it. -/
theorem ofJson_holds {json : Json} (h : json.Sorted) :
    (ofJson json).Holds json ∧
      (∀ v : Json, (Value.displayed (.ofJson v)).render = v.plain) ∧
      ∀ name v, json.Binds (.name (Text.lowercase name)) v →
        ∀ (context : Context) (before rest : Tokens) (raw : String),
          let steps := context.steps (ofJson json) 0 (before ++ .placeholder raw name :: rest)
          (steps[before.length]?.map fun step => (step.text, Remark.diagnostics step.remarks)) =
            some (v.plain, []) := by
  have hholds := holds_ofJson h
  refine ⟨hholds, Value.render_ofJson, fun name v hbinds context before rest raw => ?_⟩
  obtain ⟨htext, hreports⟩ := hholds.textOf_reportsOn hbinds context before raw
  have hstep := congrArg (Option.map fun came => (came.1, came.2.1))
    (context.step_of_append (ofJson json) before rest (.placeholder raw name))
  rw [Option.map_map, Option.map_some, htext, hreports] at hstep
  exact hstep

/-- Two names that are the same in small letters, of which the greater one has no
value, and a reference to them in capitals. -/
theorem ofJson_holds_of_kelvin :
    let json := Json.obj [("k", .int 7), ("note", .str "\"tea\""), ("\u212a", .null)]
    let context : Context := ⟨.empty false, []⟩
    let step := (context.steps (ofJson json) 0 [.literal "1 ", .placeholder "{K}" "K"])[1]?
    json.Sorted ∧ (ofJson json).size = 2 ∧ (ofJson json).highest = none ∧
      (step.map fun step => (step.text, Remark.diagnostics step.remarks)) = some ("", []) := by
  intro json context step
  have hsorted : json.Sorted := by
    show List.Pairwise _ _
    decide +kernel
  have hbinds : json.Binds (.name (Text.lowercase "K")) .null := by
    refine ⟨"\u212a", List.mem_of_getElem? (i := 2) rfl, by decide +kernel, ?_⟩
    decide +kernel
  obtain ⟨hholds, -, hreferences⟩ := ofJson_holds hsorted
  refine ⟨hsorted, hholds.size.trans ?_, hholds.highest,
    hreferences "K" .null hbinds context [.literal "1 "] [] "{K}"⟩
  decide +kernel

end Binder

end Phrasebook

import Mathlib.Data.List.Induction
import Phrasebook.Proofs.Settings.Merging

/-!
# Settings from variables

The variable of a setting is named for the setting and its table
(`Setting.variable`), and what follows the start of its name is read as the path
to the setting (`Path.read_key`). Variables are `Proper` if each that begins as
those of settings do is that of a setting, or leads neither to a setting nor to
a table of settings.

What proper variables say as a layer has the shape that settings have
(`Proper.plain_layer`). It says of a setting what its own variable says, if that
is set, and nothing else (`Proper.sayings_layer`); so no setting is said twice
(`Proper.single_layer`).
-/

namespace Phrasebook

namespace Named

variable {α : Type}

theorem mem_of_mem_put {v : String × α} {name : String} {value : α} {values : Named α}
    (h : v ∈ put name value values) : v = (name, value) ∨ v ∈ values := by
  induction values with
  | nil => exact .inl (List.mem_singleton.mp h)
  | cons first rest ih =>
    obtain ⟨n, old⟩ := first
    rw [put] at h
    split at h
    · exact (List.mem_cons.mp h).imp_right (List.mem_cons_of_mem _)
    · rcases List.mem_cons.mp h with hfirst | hrest
      · exact .inr (hfirst ▸ List.mem_cons_self)
      · exact (ih hrest).imp_right (List.mem_cons_of_mem _)

theorem ofList_concat (values : List (String × α)) (v : String × α) :
    ofList (values ++ [v]) = put v.1 v.2 (ofList values) := by
  rw [ofList, List.foldl_append]
  rfl

theorem mem_of_mem_ofList {v : String × α} {values : List (String × α)} (h : v ∈ ofList values) :
    v ∈ values := by
  induction values using List.reverseRecOn with
  | nil => exact h
  | append_singleton values last ih =>
    rw [ofList_concat] at h
    rcases mem_of_mem_put h with rfl | hvalues
    · exact List.mem_append_right _ List.mem_cons_self
    · exact List.mem_append_left _ (ih hvalues)

/-- All values under the name, in turn. -/
def under (key : String) (values : List (String × α)) : List α :=
  values.filterMap fun v => if v.1 = key then some v.2 else none

theorem under_cons (key : String) (v : String × α) (values : List (String × α)) :
    under key (v :: values) = if v.1 = key then v.2 :: under key values else under key values := by
  rw [under, List.filterMap_cons]
  split <;> rename_i h <;> split at h <;> simp_all [under]

theorem under_put_of_ne {name key : String} (h : name ≠ key) (value : α) (values : Named α) :
    under key (put name value values) = under key values := by
  induction values with
  | nil => rw [put, under_cons, if_neg h]
  | cons first rest ih =>
    obtain ⟨n, old⟩ := first
    rw [put]
    split
    · rename_i hname
      rw [under_cons, under_cons, if_neg h, if_neg (hname ▸ h)]
    · rw [under_cons, under_cons, ih]

/-- A value that is put under a name takes the place of the one that was there. -/
theorem under_put_self {name : String} {values : Named α} (h : (under name values).length ≤ 1)
    (value : α) : under name (put name value values) = [value] := by
  induction values with
  | nil => rw [put, under_cons, if_pos rfl, under, List.filterMap_nil]
  | cons first rest ih =>
    obtain ⟨n, old⟩ := first
    rw [under_cons] at h
    rw [put]
    split
    · rename_i hname
      rw [if_pos hname, List.length_cons, Nat.succ_le_succ_iff, Nat.le_zero,
        List.length_eq_zero_iff] at h
      rw [under_cons, if_pos rfl, h]
    · rename_i hname
      rw [if_neg hname] at h
      rw [under_cons, if_neg hname, ih h]

/-- Of values that are put under one name the last is left. -/
theorem under_ofList (key : String) (values : List (String × α)) :
    under key (ofList values) = (under key values).getLast?.toList := by
  induction values using List.reverseRecOn with
  | nil => rfl
  | append_singleton values last ih =>
    have happend : under key (values ++ [last]) = under key values ++ under key [last] :=
      List.filterMap_append
    rw [ofList_concat, happend, under_cons, List.getLast?_append]
    by_cases hkey : last.1 = key
    · rw [if_pos hkey, List.getLast?_cons]
      have hone : (under last.1 (ofList values)).length ≤ 1 := by
        rw [hkey, ih]
        cases (under key values).getLast? <;> simp
      rw [← hkey, under_put_self hone]
      rfl
    · rw [if_neg hkey, under_put_of_ne hkey, ih]
      rfl

end Named

/-- The variable that sets the setting, in small letters. -/
def Setting.variable (x : Setting) : String := "plang__" ++ x.table ++ "__" ++ x.member

namespace Environment

/-- The name of the setting in a layer of variables: what follows the start of its variable. -/
def key (x : Setting) : String := String.ofList (pointed (x.variable.toList.drop start.length))

/-- A variable that begins as those of settings do is that of a setting, or
leads neither to a setting nor to a table of settings. -/
def Proper (vars : List (String × String)) : Prop :=
  ∀ v ∈ vars, ∀ key, setting? v.1 = some key →
    (∃ x : Setting, Text.lowercase v.1 = x.variable) ∨ (Path.read key).IsForeign

/-- What the variables say of the setting. -/
def says? (vars : List (String × String)) (x : Setting) : Option Tree :=
  lastSaid? (fun v => if Text.lowercase v.1 = x.variable then some (value v.2) else none)
    (Named.ofList vars)

theorem isTable_value (text : String) : (value text).isTable = false := by
  unfold value
  split
  · rfl
  · rfl
  · dsimp only
    split <;> rfl

theorem lowercase_member (x : Setting) : Text.lowercase x.member = x.member := by
  cases x <;> decide

/-- The names of a setting and of its table tell which it is. -/
theorem leads_iff (x y : Setting) :
    x.table = y.table ∧ Text.lowercase x.member = y.member ↔ x = y := by
  rw [lowercase_member]
  cases x <;> cases y <;> decide

theorem read_key (x : Setting) : Path.read (key x) = .child (.root x.table) x.member := by
  cases x <;> decide

theorem key_eq_iff (x y : Setting) : key x = key y ↔ x = y := by
  refine ⟨fun h => ?_, congrArg key⟩
  have hread := read_key x
  rw [h, read_key y] at hread
  injection hread with htable hmember
  injection htable with htable
  exact (leads_iff x y).mp ⟨htable.symm, (lowercase_member x).trans hmember.symm⟩

theorem variable_eq_iff (x y : Setting) : x.variable = y.variable ↔ x = y :=
  ⟨fun h => (key_eq_iff x y).mp (by rw [key, h, key]), congrArg Setting.variable⟩

theorem setting?_of_variable {name : String} {x : Setting} (h : Text.lowercase name = x.variable) :
    setting? name = some (key x) := by
  have hstart : start.toList.isPrefixOf x.variable.toList = true := by
    cases x <;> decide
  rw [setting?, h]
  exact if_pos hstart

/-- An entry under the name of a setting says its value of this setting, and
nothing of another. -/
theorem sayings_key (x y : Setting) (value : Tree) :
    (Path.read (key y)).sayings x value = if y = x then [value] else [] := by
  rw [read_key, Path.sayings]
  simp only [leads_iff]

variable {vars : List (String × String)}

/-- The variables say of a setting what its own variable says, and nothing in
the shape of a table. -/
theorem Proper.entry (h : Proper vars) {v : String × String} (hv : v ∈ vars) {name : String}
    (hname : setting? v.1 = some name) :
    (∀ value : Tree, value.isTable = false → (Path.read name).Plain value) ∧
      (∀ x : Setting, name = key x ↔ Text.lowercase v.1 = x.variable) ∧
      ∀ (x : Setting) (value : Tree),
        (Path.read name).sayings x value = if name = key x then [value] else [] := by
  rcases h v hv name hname with ⟨y, hy⟩ | hforeign
  · obtain rfl := Option.some.inj (hname.symm.trans (setting?_of_variable hy))
    refine ⟨fun value hvalue => ?_, fun x => ?_, fun x value => ?_⟩
    · rw [read_key]
      exact fun _ _ _ => hvalue
    · rw [hy, key_eq_iff, variable_eq_iff]
    · simp only [sayings_key, key_eq_iff]
  · have hne (x : Setting) : name ≠ key x := by
      intro hkey
      have hnone := (hforeign .nothing).2 x
      rw [hkey, Path.says?, sayings_key, if_pos rfl] at hnone
      cases hnone
    refine ⟨fun value _ => (hforeign value).1, fun x => ⟨fun hkey => absurd hkey (hne x), ?_⟩, ?_⟩
    · intro hx
      exact Option.some.inj (hname.symm.trans (setting?_of_variable hx))
    · intro x value
      rw [if_neg (hne x)]
      exact List.getLast?_eq_none_iff.mp ((hforeign value).2 x)

/-- An entry of the layer is that of a variable. -/
theorem exists_of_mem_layer {entry : String × Tree} (h : entry ∈ layer vars) :
    ∃ v ∈ vars, setting? v.1 = some entry.1 ∧ value v.2 = entry.2 := by
  obtain ⟨v, hv, heq⟩ := List.mem_filterMap.mp (Named.mem_of_mem_ofList h)
  obtain ⟨name, hname, rfl⟩ := Option.map_eq_some_iff.mp heq
  exact ⟨v, Named.mem_of_mem_ofList hv, hname, rfl⟩

theorem Proper.plain_layer (h : Proper vars) : (layer vars).Plain := by
  intro entry hentry
  obtain ⟨v, hv, hname, hvalue⟩ := exists_of_mem_layer hentry
  rw [← hvalue]
  exact (h.entry hv hname).1 _ (isTable_value v.2)

/-- Of a setting only the value of its variable is said. -/
theorem Proper.sayings_layer (h : Proper vars) (x : Setting) :
    (layer vars).sayings x = (says? vars x).toList := by
  have hunder : (layer vars).sayings x = Named.under (key x) (layer vars) := by
    rw [Layer.sayings, Named.under, List.filterMap_eq_flatMap_toList]
    refine List.flatMap_congr fun entry hentry => ?_
    obtain ⟨v, hv, hname, -⟩ := exists_of_mem_layer hentry
    rw [(h.entry hv hname).2.2 x entry.2]
    split <;> rfl
  rw [hunder, layer, Named.under_ofList, Named.under, List.filterMap_filterMap, says?, lastSaid?]
  refine congrArg (fun values : List Tree => values.getLast?.toList)
    (List.filterMap_congr fun v hv => ?_)
  obtain ⟨name, text⟩ := v
  cases hname : setting? name with
  | none =>
    have hne : Text.lowercase name ≠ x.variable := by
      intro hx
      rw [setting?_of_variable hx] at hname
      cases hname
    simp only [hname, Option.map_none, Option.bind_none, if_neg hne]
  | some key =>
    have hiff := (h.entry (Named.mem_of_mem_ofList hv) hname).2.1 x
    simp only [hname, Option.map_some, Option.bind_some, hiff]

theorem Proper.says?_layer (h : Proper vars) (x : Setting) : (layer vars).says? x = says? vars x := by
  rw [Layer.says?, h.sayings_layer]
  cases says? vars x <;> rfl

theorem Proper.single_layer (h : Proper vars) : (layer vars).Single := by
  intro x
  rw [h.sayings_layer]
  cases says? vars x <;> simp

end Environment

end Phrasebook

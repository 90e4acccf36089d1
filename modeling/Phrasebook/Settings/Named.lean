/-!
# Named values

Values under names, in the order in which the names were first used. Putting a value under a name
that is used replaces the value and keeps its place (`lookup_put`).
-/

namespace Phrasebook

/-- Values under names. -/
abbrev Named (α : Type) := List (String × α)

namespace Named

variable {α : Type}

/-- The values with one of them put in place of the one of its name, or at the end. -/
def put (name : String) (value : α) : Named α → Named α
  | [] => [(name, value)]
  | (n, v) :: rest => if n = name then (name, value) :: rest else (n, v) :: put name value rest

/-- Values put in turn. -/
def ofList (values : List (String × α)) : Named α :=
  values.foldl (fun named value => put value.1 value.2 named) []

theorem lookup_put (name key : String) (value : α) (values : Named α) :
    (put name value values).lookup key = if key = name then some value else values.lookup key := by
  induction values with
  | nil =>
    by_cases h : key = name
    · simp [put, h]
    · simp [put, List.lookup_cons, h, beq_eq_false_iff_ne.2 h]
  | cons entry rest ih =>
    obtain ⟨n, v⟩ := entry
    by_cases hn : n = name
    · subst hn
      by_cases h : key = n
      · simp [put, h]
      · simp [put, List.lookup_cons, h, beq_eq_false_iff_ne.2 h]
    · by_cases h : key = n
      · subst h
        simp [put, hn]
      · simp [put, hn, List.lookup_cons, beq_eq_false_iff_ne.2 h, ih]

end Named

end Phrasebook

import Mathlib.Data.String.Basic
import Phrasebook.Json.Reader

/-!
# Sorted members

An object has its members sorted by name and one for each name (`Json.Sorted`),
in whatever order they were written: `sorted_ofMembers` says so of an object
that is built, `sorted_of_read?` of a document that is read.
-/

namespace Phrasebook.Json

/-- The members of an object are sorted by name, one for each name. -/
def Sorted : Json → Prop
  | .obj members => members.Pairwise fun a b => a.1 < b.1
  | _ => True

theorem sorted_ofMembers (members : List (String × Json)) : (ofMembers members).Sorted :=
  (Std.ExtTreeMap.ordered_keys_toList (t := Std.ExtTreeMap.ofList members)).imp fun h =>
    compareOfLessAndEq_eq_lt.mp h

/-! ## What is read -/

variable {cs rest : List Char} {value : Json}

theorem sorted_of_real? {negative : Bool} {digits : Nat} {exponent : Int}
    (h : real? negative digits exponent = some value) : value.Sorted := by
  simp only [real?] at h
  split at h
  · cases h
  · cases h
    trivial

theorem sorted_of_whole? {negative : Bool} {n : Nat} (h : whole? negative n = some value) :
    value.Sorted := by
  rw [whole?] at h
  split at h
  · cases h
    trivial
  · split at h
    · cases h
      trivial
    · exact sorted_of_real? h

theorem sorted_of_readNumber? (h : readNumber? cs = some (value, rest)) : value.Sorted := by
  simp only [readNumber?] at h
  -- With a sign or without one.
  split at h
  all_goals
    split at h
    · cases h
    · simp only [Option.bind_eq_bind, Option.bind_eq_some_iff] at h
      obtain ⟨fraction, -, exponent, -, h⟩ := h
      split at h
      · obtain ⟨number, hnumber, hvalue⟩ := Option.bind_eq_some_iff.mp h
        cases hvalue
        exact sorted_of_whole? hnumber
      · obtain ⟨number, hnumber, hvalue⟩ := Option.bind_eq_some_iff.mp h
        cases hvalue
        exact sorted_of_real? hnumber

theorem sorted_of_readValue? {fuel depth : Nat}
    (h : readValue? fuel depth cs = some (value, rest)) : value.Sorted := by
  cases fuel with
  | zero => rw [readValue?] at h; cases h
  | succ fuel =>
    rw [readValue?] at h
    -- By the first character: texts, arrays, objects, the three words, numbers.
    split at h
    · obtain ⟨_, -, h⟩ := Option.map_eq_some_iff.mp h
      cases h
      trivial
    · cases depth with
      | zero => cases h
      | succ depth =>
        dsimp only at h
        split at h
        · cases h
          trivial
        · obtain ⟨_, -, h⟩ := Option.map_eq_some_iff.mp h
          cases h
          trivial
    · cases depth with
      | zero => cases h
      | succ depth =>
        dsimp only at h
        split at h
        · cases h
          exact List.Pairwise.nil
        · obtain ⟨_, -, h⟩ := Option.map_eq_some_iff.mp h
          cases h
          exact sorted_ofMembers _
    · obtain ⟨_, -, h⟩ := Option.map_eq_some_iff.mp h
      cases h
      trivial
    · obtain ⟨_, -, h⟩ := Option.map_eq_some_iff.mp h
      cases h
      trivial
    · obtain ⟨_, -, h⟩ := Option.map_eq_some_iff.mp h
      cases h
      trivial
    · exact sorted_of_readNumber? h

theorem sorted_of_read? {document : String} (h : read? document = some value) : value.Sorted := by
  simp only [read?] at h
  split at h
  · rename_i hvalue
    split at h
    · cases h
      exact sorted_of_readValue? hvalue
    · cases h
  · cases h

end Phrasebook.Json

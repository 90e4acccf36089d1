/-!
# Numbered objects

Objects that several others refer to by number. A number that was never given out has the default
object, so looking up is total.
-/

namespace Phrasebook

/-- Objects by number. -/
structure Shelf (α : Type) where
  items : Array α

namespace Shelf

variable {α : Type}

/-- No objects yet. -/
def empty : Shelf α := ⟨#[]⟩

instance : Inhabited (Shelf α) := ⟨empty⟩

/-- The number that the next object gets. -/
def next (shelf : Shelf α) : Nat := shelf.items.size

/-- The object of a number. -/
def get [Inhabited α] (shelf : Shelf α) (n : Nat) : α := shelf.items.getD n default

/-- One more object, under the number `next`. -/
def add (shelf : Shelf α) (item : α) : Shelf α := ⟨shelf.items.push item⟩

/-- Another object for a number that was given out. -/
def put (shelf : Shelf α) (n : Nat) (item : α) : Shelf α := ⟨shelf.items.setIfInBounds n item⟩

@[simp] theorem next_add (shelf : Shelf α) (item : α) : (shelf.add item).next = shelf.next + 1 := by
  simp [next, add]

@[simp] theorem next_put (shelf : Shelf α) (n : Nat) (item : α) :
    (shelf.put n item).next = shelf.next := by
  simp [next, put]

theorem get_put [Inhabited α] (shelf : Shelf α) (n m : Nat) (item : α) (h : n < shelf.next) :
    (shelf.put n item).get m = if n = m then item else shelf.get m := by
  simp only [next] at h
  by_cases hm : n = m
  · subst hm; simp [get, put, Array.getD_eq_getD_getElem?, h]
  · simp [get, put, Array.getD_eq_getD_getElem?, hm]

/-- Putting an object back where it is changes nothing. -/
theorem put_get [Inhabited α] (shelf : Shelf α) (n : Nat) : shelf.put n (shelf.get n) = shelf := by
  obtain ⟨items⟩ := shelf
  refine congrArg Shelf.mk ?_
  by_cases hn : n < items.size
  · rw [Array.setIfInBounds, dif_pos hn]
    simp [get, Array.getD_eq_getD_getElem?, hn]
  · exact Array.setIfInBounds_eq_of_size_le (Nat.le_of_not_lt hn)

theorem get_put_of_ne [Inhabited α] (shelf : Shelf α) (n m : Nat) (item : α) (h : n ≠ m) :
    (shelf.put n item).get m = shelf.get m := by
  simp [get, put, Array.getD_eq_getD_getElem?, h]

theorem get_of_le [Inhabited α] (shelf : Shelf α) (n : Nat) (h : shelf.next ≤ n) :
    shelf.get n = default := by
  rw [next] at h
  simp [get, Array.getD_eq_getD_getElem?, h]

theorem get_add [Inhabited α] (shelf : Shelf α) (m : Nat) (item : α) :
    (shelf.add item).get m = if m = shelf.next then item else shelf.get m := by
  by_cases hm : m = shelf.next
  · simp [get, add, next, hm]
  · simp only [next] at hm
    rcases Nat.lt_or_gt_of_ne hm with h | h
    · simp [get, add, next, Array.getD_eq_getD_getElem?, hm, Array.getElem?_push]
    · simp [get, add, next, Array.getD_eq_getD_getElem?, hm, Array.getElem?_push]

end Shelf

end Phrasebook

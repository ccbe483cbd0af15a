import Mathlib.Data.List.Basic

/-!
A bounded queue. A put stores as much as there is room for and tells how much that was; a get
takes from the front. Whatever was stored has come out or is still inside, in order.
-/

namespace EspHosted.ByteRing
variable {Item : Type} {capacity : Nat}

structure Ring (Item : Type) (capacity : Nat) where
  items : List Item
  fits : items.length ≤ capacity

namespace Ring

def empty : Ring Item capacity where
  items := []
  fits := Nat.zero_le _

def space (ring : Ring Item capacity) : Nat := capacity - ring.items.length

def put (ring : Ring Item capacity) (added : List Item) : Ring Item capacity × Nat :=
  ({ items := ring.items ++ added.take ring.space
     fits := by
      have room := List.length_take_le ring.space added
      have fits := ring.fits
      rw [space] at room
      rw [List.length_append]
      exact Nat.le_trans (Nat.add_le_add_left room _) (Nat.le_of_eq (Nat.add_sub_cancel' fits)) },
    min added.length ring.space)

def get (ring : Ring Item capacity) (count : Nat) : Ring Item capacity × List Item :=
  ({ items := ring.items.drop count
     fits := by
      rw [List.length_drop]
      exact Nat.le_trans (Nat.sub_le _ _) ring.fits },
    ring.items.take count)

variable (ring : Ring Item capacity) {added : List Item}

/-- Nothing is lost of what is stored, and its order stays. -/
theorem get_conserves (count : Nat) : (ring.get count).2 ++ (ring.get count).1.items = ring.items :=
  List.take_append_drop count ring.items

theorem get_all : (ring.get ring.items.length).2 = ring.items := List.take_length

theorem put_whole (room : added.length ≤ ring.space) :
    (ring.put added).1.items = ring.items ++ added ∧ (ring.put added).2 = added.length := by
  constructor
  · simp only [put]
    rw [List.take_of_length_le room]
  · exact Nat.min_eq_left room

theorem put_full (full : ring.space = 0) :
    (ring.put added).1.items = ring.items ∧ (ring.put added).2 = 0 := by
  constructor
  · simp only [put]
    rw [full, List.take_zero, List.append_nil]
  · simp only [put]
    rw [full, Nat.min_zero]

/-- What does not fit is cut. -/
theorem put_cut (long : ring.space < added.length) :
    (ring.put added).1.items.length = ring.items.length + ring.space ∧
      (ring.put added).2 = ring.space := by
  constructor
  · simp only [put]
    rw [List.length_append, List.length_take, Nat.min_eq_left (Nat.le_of_lt long)]
  · exact Nat.min_eq_right (Nat.le_of_lt long)

/-- The count tells whether all of it was stored. -/
theorem put_count_iff : (ring.put added).2 = added.length ↔ added.length ≤ ring.space := by
  simp only [put]
  omega

end Ring

end EspHosted.ByteRing

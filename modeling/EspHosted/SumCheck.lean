import Mathlib.Data.List.Basic
import Mathlib.Data.Nat.ModEq

/-!
A checksum that adds up the weights of the items of a list modulo some number, and what it
tells of a list in which one item was exchanged. Nothing here mentions the modelled program.
-/

namespace EspHosted.SumCheck

variable {Item : Type}

def total (weight : Item → Nat) : List Item → Nat
  | [] => 0
  | item :: rest => weight item + total weight rest

def check (modulus : Nat) (weight : Item → Nat) (items : List Item) : Nat :=
  total weight items % modulus

variable {weight : Item → Nat}

/-- An exchanged item changes the total by the difference of the two weights. -/
theorem total_set {items : List Item} {pos : Nat} {old : Item} (item : Item)
    (inside : items[pos]? = some old) :
    total weight (items.set pos item) + weight old = total weight items + weight item := by
  induction items generalizing pos with
  | nil => cases inside
  | cons first rest ih =>
      cases pos with
      | zero =>
          have same : first = old := Option.some.inj inside
          subst same
          simp only [List.set_cons_zero, total]
          omega
      | succ pos =>
          have moved := ih inside
          simp only [List.set_cons_succ, total]
          omega

/-- The checksum stays only where the two weights agree modulo the same number. -/
theorem check_set_eq_iff {modulus : Nat} {items : List Item} {pos : Nat} {old item : Item}
    (inside : items[pos]? = some old) :
    check modulus weight (items.set pos item) = check modulus weight items ↔
      weight item ≡ weight old [MOD modulus] := by
  have moved := @total_set Item weight items pos old item inside
  constructor
  · intro same
    have shifted : total weight (items.set pos item) + weight old ≡
        total weight items + weight old [MOD modulus] := Nat.ModEq.add_right _ same
    rw [moved] at shifted
    exact Nat.ModEq.add_left_cancel' _ shifted
  · intro same
    have shifted : total weight (items.set pos item) + weight old ≡
        total weight items + weight old [MOD modulus] := by
      rw [moved]
      exact Nat.ModEq.add_left _ same
    exact Nat.ModEq.add_right_cancel' _ shifted

/-- Weights below the modulus: every exchange of an item is seen. -/
theorem check_set_ne {modulus : Nat} {items : List Item} {pos : Nat} {old item : Item}
    (inside : items[pos]? = some old) (new_small : weight item < modulus)
    (old_small : weight old < modulus) (differs : weight item ≠ weight old) :
    check modulus weight (items.set pos item) ≠ check modulus weight items := by
  intro same
  have congruent := (check_set_eq_iff inside).mp same
  exact differs (Nat.ModEq.eq_of_lt_of_lt congruent new_small old_small)

end EspHosted.SumCheck

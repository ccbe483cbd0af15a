import Mathlib.Data.Nat.Basic
import Mathlib.Data.List.Basic

/-!
Numerals in a positional system, most significant digit first, over any characters. A numeral
is read by a fold, from a start value on; a reader that keeps fewer bits reads the remainder.
Nothing here mentions the modelled program.
-/

namespace EspHosted.Numerals

universe u
variable {Char : Type u} (digit : Char → Nat) (base : Nat)

def valueFrom (start : Nat) (text : List Char) : Nat :=
  text.foldl (fun value char => value * base + digit char) start

def value (text : List Char) : Nat := valueFrom digit base 0 text

variable {digit base}

theorem valueFrom_cons (start : Nat) (char : Char) (text : List Char) :
    valueFrom digit base start (char :: text) =
      valueFrom digit base (start * base + digit char) text := rfl

/-- One digit more at the end. -/
theorem value_concat (text : List Char) (char : Char) :
    value digit base (text ++ [char]) = value digit base text * base + digit char := by
  rw [value, value, valueFrom, valueFrom, List.foldl_append]
  rfl

theorem valueFrom_mod (modulus : Nat) (start : Nat) (text : List Char) :
    valueFrom digit base (start % modulus) text % modulus =
      valueFrom digit base start text % modulus := by
  induction text generalizing start with
  | nil => exact Nat.mod_mod start modulus
  | cons char text ih =>
      have next : (start % modulus * base + digit char) % modulus =
          (start * base + digit char) % modulus := by
        rw [Nat.add_mod, Nat.mod_mul_mod, ← Nat.add_mod]
      rw [valueFrom_cons, valueFrom_cons, ← ih, next, ih]

/-- The longest front of a text that fits a test, and what is behind it. -/
theorem munch {test : Char → Bool} {front rest : List Char} (fits : ∀ char ∈ front, test char = true)
    (stops : ∀ char ∈ rest.head?, test char = false) :
    (front ++ rest).takeWhile test = front ∧ (front ++ rest).dropWhile test = rest := by
  have taken : rest.takeWhile test = [] ∧ rest.dropWhile test = rest := by
    cases rest with
    | nil => exact ⟨rfl, rfl⟩
    | cons char rest =>
        have stop := stops char rfl
        rw [List.takeWhile_cons, List.dropWhile_cons, stop]
        exact ⟨rfl, rfl⟩
  rw [List.takeWhile_append_of_pos fits, List.dropWhile_append_of_pos fits, taken.1, taken.2,
    List.append_nil]
  exact ⟨rfl, rfl⟩

end EspHosted.Numerals

import Mathlib.Data.Nat.Basic

/-!
Totals that only grow, of which two sides keep words modulo some number. As long as the totals
are less than that number apart, their difference can be had from the words. Nothing here
mentions the modelled program.
-/

namespace EspHosted.WrapCount

section Naturals
variable {modulus first last : Nat}

/-- The difference of two totals out of their remainders. -/
theorem gap (grown : first ≤ last) (near : last - first < modulus) :
    (last % modulus + modulus - first % modulus) % modulus = last - first := by
  obtain ⟨more, rfl⟩ := Nat.exists_eq_add_of_le grown
  rw [Nat.add_sub_cancel_left] at near ⊢
  have positive : 0 < modulus := Nat.lt_of_le_of_lt (Nat.zero_le more) near
  have below : first % modulus < modulus := Nat.mod_lt first positive
  have sum : (first + more) % modulus = (first % modulus + more) % modulus := by
    rw [Nat.add_mod, Nat.mod_eq_of_lt near]
  by_cases fits : first % modulus + more < modulus
  · rw [sum, Nat.mod_eq_of_lt fits,
      show first % modulus + more + modulus - first % modulus = more + modulus by omega,
      Nat.add_mod_right, Nat.mod_eq_of_lt near]
  · have wraps : (first % modulus + more) % modulus = first % modulus + more - modulus := by
      rw [Nat.mod_eq_sub_mod (Nat.le_of_not_lt fits)]
      exact Nat.mod_eq_of_lt (by omega)
    rw [sum, wraps,
      show first % modulus + more - modulus + modulus - first % modulus = more by omega,
      Nat.mod_eq_of_lt near]

/-- The larger remainder is behind by nothing, the smaller one by a turn. -/
theorem gap_cases (grown : first ≤ last) (near : last - first < modulus) :
    last - first = if first % modulus ≤ last % modulus then last % modulus - first % modulus
      else modulus - first % modulus + last % modulus := by
  have positive : 0 < modulus := Nat.lt_of_le_of_lt (Nat.zero_le _) near
  have below := Nat.mod_lt first positive
  have also_below := Nat.mod_lt last positive
  rw [← gap grown near]
  split
  · rw [show last % modulus + modulus - first % modulus =
        last % modulus - first % modulus + modulus by omega, Nat.add_mod_right,
      Nat.mod_eq_of_lt (by omega)]
  · rw [Nat.mod_eq_of_lt (by omega)]
    omega

end Naturals

section Words
variable {word count : UInt32} {first last modulus : Nat}

/-- Words of 32 bits are subtracted as they are. -/
theorem sub_word (counted : count.toNat = first % 4294967296) (read : word.toNat = last % 4294967296)
    (grown : first ≤ last) (near : last - first < 4294967296) :
    (word - count).toNat = last - first := by
  rw [UInt32.toNat_sub, counted, read, ← gap grown near]
  have below : first % 4294967296 < 4294967296 := Nat.mod_lt _ (by decide)
  congr 1
  omega

theorem add_word (counted : count.toNat = first % 4294967296) (more : UInt32) :
    (count + more).toNat = (first + more.toNat) % 4294967296 := by
  rw [UInt32.toNat_add, counted, Nat.mod_add_mod]

/-- A number that divides 2^32 goes on dividing where the sum wraps. -/
theorem add_mod_word (divides : modulus ∣ 4294967296) (counted : count.toNat = first % modulus)
    (more : UInt32) : (count + more).toNat % modulus = (first + more.toNat) % modulus := by
  rw [UInt32.toNat_add, counted, Nat.mod_mod_of_dvd _ divides, Nat.mod_add_mod]

end Words

end EspHosted.WrapCount

import Mathlib.Algebra.Group.Nat.Defs
import Mathlib.Tactic.ByContra

/-!
Words built from flags and fields by `or` and read back by `and` and shift, over words
of any width. Reading a word is reading its bits: each operation has one lemma that
says which bits it sets or keeps. Nothing here mentions the modelled program.
-/

namespace EspHosted.BitWords

variable {width fieldWidth : Nat}

def setBit (pos : Nat) (word : BitVec width) : BitVec width := word ||| BitVec.ofNat width 1 <<< pos

/-- Sets the bit when the flag is set. -/
def setBitIf (flag : Bool) (pos : Nat) (word : BitVec width) : BitVec width :=
  if flag then setBit pos word else word

def getBit (pos : Nat) (word : BitVec width) : Bool := word &&& BitVec.ofNat width 1 <<< pos ≠ BitVec.ofNat width 0

def setField (field : BitVec fieldWidth) (pos : Nat) (word : BitVec width) : BitVec width :=
  word ||| field.setWidth width <<< pos

/-- Skips a field that is 0. -/
def setFieldIf (field : BitVec fieldWidth) (pos : Nat) (word : BitVec width) : BitVec width :=
  if field ≠ BitVec.ofNat fieldWidth 0 then setField field pos word else word

/-- The bits of the word under `mask`, moved down by `pos` and cut to the width of the field. -/
def getField (fieldWidth : Nat) (mask : BitVec width) (pos : Nat) (word : BitVec width) :
    BitVec fieldWidth :=
  ((word &&& mask) >>> pos).setWidth fieldWidth

/-- The bits from `pos` on under `mask`. -/
def pickField (fieldWidth : Nat) (pos : Nat) (mask word : BitVec width) : BitVec fieldWidth :=
  ((word >>> pos) &&& mask).setWidth fieldWidth

theorem one_shifted {pos index : Nat} (inside : index < width) :
    (BitVec.ofNat width 1 <<< pos).getLsbD index = decide (index = pos) := by
  rw [BitVec.getLsbD_shiftLeft, BitVec.getLsbD_one]
  by_cases before : index < pos
  · have differs : index ≠ pos := by omega
    simp [before, differs]
  · have same : index - pos = 0 ↔ index = pos := by omega
    have positive : 0 < width := by omega
    simp [before, inside, same, positive]

theorem setBitIf_bit {flag : Bool} {pos index : Nat} {word : BitVec width}
    (inside : index < width) :
    (setBitIf flag pos word).getLsbD index =
      (word.getLsbD index || (flag && decide (index = pos))) := by
  cases flag with
  | false => simp [setBitIf]
  | true =>
      simp only [setBitIf, setBit, if_true, BitVec.getLsbD_or, one_shifted inside, Bool.true_and]

theorem getBit_eq {pos : Nat} {word : BitVec width} (inside : pos < width) :
    getBit pos word = word.getLsbD pos := by
  have single : word &&& BitVec.ofNat width 1 <<< pos ≠ BitVec.ofNat width 0 ↔ word.getLsbD pos = true := by
    constructor
    · intro some_bit
      by_contra clear
      apply some_bit
      apply BitVec.eq_of_getLsbD_eq
      intro index below
      rw [BitVec.getLsbD_and, one_shifted below, BitVec.getLsbD_zero]
      by_cases here : index = pos
      · subst here
        simp at clear
        simp [clear]
      · simp [here]
    · rintro set none
      have bit := congrArg (fun masked => masked.getLsbD pos) none
      simp [BitVec.getLsbD_and, one_shifted inside, set] at bit
  rw [getBit, Bool.eq_iff_iff]
  simpa using single

theorem setField_bit {field : BitVec fieldWidth} {pos index : Nat} {word : BitVec width}
    (inside : index < width) :
    (setField field pos word).getLsbD index =
      (word.getLsbD index || (decide (pos ≤ index) && field.getLsbD (index - pos))) := by
  rw [setField, BitVec.getLsbD_or, BitVec.getLsbD_shiftLeft, BitVec.getLsbD_setWidth]
  have within : index - pos < width := by omega
  by_cases before : index < pos
  · have not_after : ¬ pos ≤ index := by omega
    simp [before, not_after]
  · have after : pos ≤ index := by omega
    simp [before, after, inside, within]

theorem setFieldIf_eq (field : BitVec fieldWidth) (pos : Nat) (word : BitVec width) :
    setFieldIf field pos word = setField field pos word := by
  by_cases none : field = BitVec.ofNat fieldWidth 0
  · simp [setFieldIf, setField, none]
  · simp [setFieldIf, none]

theorem getField_bit {mask : BitVec width} {pos index : Nat} {word : BitVec width} :
    (getField fieldWidth mask pos word).getLsbD index =
      (decide (index < fieldWidth) &&
        (word.getLsbD (pos + index) && mask.getLsbD (pos + index))) := by
  rw [getField, BitVec.getLsbD_setWidth, BitVec.getLsbD_ushiftRight, BitVec.getLsbD_and]

theorem pickField_bit {mask : BitVec width} {pos index : Nat} {word : BitVec width} :
    (pickField fieldWidth pos mask word).getLsbD index =
      (decide (index < fieldWidth) && (word.getLsbD (pos + index) && mask.getLsbD index)) := by
  rw [pickField, BitVec.getLsbD_setWidth, BitVec.getLsbD_and, BitVec.getLsbD_ushiftRight]

theorem small_bit {bound index : Nat} {field : BitVec width} (small : field.toNat < 2 ^ bound)
    (above : bound ≤ index) : field.getLsbD index = false := by
  rw [← BitVec.testBit_toNat]
  exact Nat.testBit_lt_two_pow (Nat.lt_of_lt_of_le small (Nat.pow_le_pow_right (by decide) above))

/-- A field stored from `pos` on under a mask of `bits` bits is read back exactly when it
fits the mask. -/
theorem getField_eq_iff {mask word : BitVec width} {field : BitVec fieldWidth} {pos bits : Nat}
    (stored : ∀ index < fieldWidth, word.getLsbD (pos + index) = field.getLsbD index)
    (masked : ∀ index < fieldWidth, mask.getLsbD (pos + index) = decide (index < bits)) :
    getField fieldWidth mask pos word = field ↔ field.toNat < 2 ^ bits := by
  constructor
  · intro kept
    apply Nat.lt_pow_two_of_testBit
    intro index above
    have high : ¬ index < bits := Nat.not_lt.mpr above
    rw [BitVec.testBit_toNat, ← kept, getField_bit]
    by_cases inside : index < fieldWidth
    · simp [masked index inside, high]
    · simp [inside]
  · intro small
    apply BitVec.eq_of_getLsbD_eq
    intro index inside
    rw [getField_bit, stored index inside, masked index inside]
    by_cases low : index < bits
    · simp [inside, low]
    · simp [low, small_bit small (Nat.le_of_not_lt low)]

end EspHosted.BitWords

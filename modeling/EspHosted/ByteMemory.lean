import Mathlib.Algebra.Group.Nat.Defs
import Mathlib.Logic.Function.Basic

/-!
Memory as a function from addresses to bytes, with stores of a byte, of a word of
four bytes, and of one byte over a range. Every store changes one range only, and
a word read outside that range is the word from before. Nothing here mentions the
modelled program.
-/

namespace EspHosted.ByteMemory

abbrev Memory := Nat → UInt8

def wordBytes : Nat := 4

/-- The least significant byte comes first. -/
def readWord (memory : Memory) (addr : Nat) : Nat :=
  (memory addr).toNat + 256 * (memory (addr + 1)).toNat + 65536 * (memory (addr + 2)).toNat +
    16777216 * (memory (addr + 3)).toNat

def writeWord (memory : Memory) (addr word : Nat) : Memory := fun other =>
  if addr ≤ other ∧ other < addr + wordBytes then UInt8.ofNat (word / 256 ^ (other - addr))
  else memory other

def writeByte (memory : Memory) (addr : Nat) (byte : UInt8) : Memory :=
  Function.update memory addr byte

def fill (memory : Memory) (start : Nat) (byte : UInt8) (count : Nat) : Memory := fun other =>
  if start ≤ other ∧ other < start + count then byte else memory other

/-- The memories agree but for the `count` bytes from `start` on. -/
def SameOutside (start count : Nat) (before after : Memory) : Prop :=
  ∀ other, other < start ∨ start + count ≤ other → after other = before other

variable {memory before after : Memory} {addr start count word : Nat}

theorem writeByte_outside (byte : UInt8) : SameOutside addr 1 memory (writeByte memory addr byte) := by
  intro other outside
  have differs : other ≠ addr := by omega
  exact Function.update_of_ne differs byte memory

theorem writeWord_outside :
    SameOutside addr wordBytes memory (writeWord memory addr word) := by
  intro other outside
  have not_in : ¬(addr ≤ other ∧ other < addr + wordBytes) := by omega
  exact if_neg not_in

theorem fill_outside (byte : UInt8) :
    SameOutside start count memory (fill memory start byte count) := by
  intro other outside
  have not_in : ¬(start ≤ other ∧ other < start + count) := by omega
  exact if_neg not_in

theorem fill_inside (byte : UInt8) {index : Nat} (inside : index < count) :
    fill memory start byte count (start + index) = byte :=
  if_pos ⟨Nat.le_add_right start index, Nat.add_lt_add_left inside start⟩

theorem readWord_congr (same : ∀ index < wordBytes, after (addr + index) = before (addr + index)) :
    readWord after addr = readWord before addr := by
  have first := same 0 (by decide)
  have second := same 1 (by decide)
  have third := same 2 (by decide)
  have fourth := same 3 (by decide)
  rw [Nat.add_zero] at first
  rw [readWord, readWord, first, second, third, fourth]

theorem readWord_frame (same : SameOutside start count before after)
    (apart : addr + wordBytes ≤ start ∨ start + count ≤ addr) :
    readWord after addr = readWord before addr := by
  apply readWord_congr
  intro index inside
  apply same
  omega

theorem writeWord_byte {index : Nat} (inside : index < wordBytes) :
    (writeWord memory addr word (addr + index)).toNat = word / 256 ^ index % 256 := by
  have within : addr ≤ addr + index ∧ addr + index < addr + wordBytes := by omega
  rw [writeWord, if_pos within, Nat.add_sub_cancel_left, UInt8.toNat_ofNat']

/-- A word of at most 32 bits is read back as it was stored. -/
theorem readWord_writeWord (fits : word < 2 ^ 32) :
    readWord (writeWord memory addr word) addr = word := by
  have first := @writeWord_byte memory addr word 0 (by decide)
  have second := @writeWord_byte memory addr word 1 (by decide)
  have third := @writeWord_byte memory addr word 2 (by decide)
  have fourth := @writeWord_byte memory addr word 3 (by decide)
  rw [Nat.add_zero] at first
  rw [readWord, first, second, third, fourth]
  omega

end EspHosted.ByteMemory

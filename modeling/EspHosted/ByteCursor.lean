import Mathlib.Data.List.Basic
import Mathlib.Order.Basic

/-!
A buffer that is written from the front, with a 16-bit count of what is written. A write
outside the buffer is none. `Writes` says of a composed writer which bytes it appends, so that
a writer is verified by the bytes of its parts. Nothing here mentions the modelled program.
-/

namespace EspHosted.ByteCursor

structure Cursor where
  buf : List UInt8
  count : UInt16

abbrev Writer := Cursor → Option Cursor

/-- `buf[count] = byte; count++`. -/
def write (byte : UInt8) : Writer := fun cursor =>
  if cursor.count.toNat < cursor.buf.length then
    some { buf := cursor.buf.set cursor.count.toNat byte, count := cursor.count + 1 }
  else none

/-- `memcpy(&buf[count], bytes, length)` and `count += length`. -/
def copy (bytes : List UInt8) : Writer := fun cursor =>
  if cursor.count.toNat + bytes.length ≤ cursor.buf.length then
    some
      { buf := cursor.buf.take cursor.count.toNat ++ bytes ++
          cursor.buf.drop (cursor.count.toNat + bytes.length)
        count := cursor.count + UInt16.ofNat bytes.length }
  else none

def writeEach : List UInt8 → Writer
  | [] => some
  | byte :: rest => write byte >=> writeEach rest

def blank (size : Nat) : Cursor := { buf := List.replicate size 0, count := 0 }

/-- `written` stands at the front, and `room` bytes are left behind it. -/
structure At (cursor : Cursor) (written : List UInt8) (room : Nat) : Prop where
  front : cursor.buf.take written.length = written
  count : cursor.count.toNat = written.length
  length : cursor.buf.length = written.length + room
  small : written.length + room < 65536

/-- Where there is room, the writer appends these bytes and does nothing else. -/
def Writes (writer : Writer) (bytes : List UInt8) : Prop :=
  ∀ cursor written room, At cursor written (bytes.length + room) →
    ∃ next, writer cursor = some next ∧ At next (written ++ bytes) room

theorem writes_copy (bytes : List UInt8) : Writes (copy bytes) bytes := by
  intro cursor written room here
  have inside : cursor.count.toNat + bytes.length ≤ cursor.buf.length := by
    rw [here.count, here.length]
    omega
  refine ⟨_, if_pos inside, ?_, ?_, ?_, ?_⟩
  · rw [here.count, here.front, List.length_append]
    exact List.take_left' (List.length_append ..)
  · have small := here.small
    rw [UInt16.toNat_add, here.count, UInt16.toNat_ofNat', List.length_append]
    omega
  · have length := here.length
    simp only [here.count, List.length_append, List.length_take, List.length_drop]
    omega
  · have small := here.small
    rw [List.length_append]
    omega

/-- A single byte is written as it is copied. -/
theorem write_eq_copy (byte : UInt8) : write byte = copy [byte] := by
  funext cursor
  by_cases inside : cursor.count.toNat < cursor.buf.length
  · have one : cursor.count.toNat + [byte].length ≤ cursor.buf.length := inside
    rw [write, copy, if_pos inside, if_pos one, List.set_eq_take_append_cons_drop, if_pos inside,
      List.append_assoc, List.singleton_append]
    rfl
  · have one : ¬ cursor.count.toNat + [byte].length ≤ cursor.buf.length := inside
    rw [write, copy, if_neg inside, if_neg one]

theorem writes_write (byte : UInt8) : Writes (write byte) [byte] := by
  rw [write_eq_copy]
  exact writes_copy [byte]

theorem writes_then {first second : Writer} {left right : List UInt8} (one : Writes first left)
    (two : Writes second right) : Writes (first >=> second) (left ++ right) := by
  intro cursor written room here
  rw [List.length_append, Nat.add_assoc] at here
  obtain ⟨middle, ran, there⟩ := one cursor written (right.length + room) here
  obtain ⟨next, ran_on, done⟩ := two middle (written ++ left) room there
  refine ⟨next, ?_, ?_⟩
  · exact (congrArg (· >>= second) ran).trans ran_on
  · rwa [← List.append_assoc]

theorem writes_nothing : Writes some [] := by
  intro cursor written room here
  rw [List.length_nil, Nat.zero_add] at here
  exact ⟨cursor, rfl, by rwa [List.append_nil]⟩

theorem writes_each (bytes : List UInt8) : Writes (writeEach bytes) bytes := by
  induction bytes with
  | nil => exact writes_nothing
  | cons byte rest ih => exact writes_then (writes_write byte) ih

theorem at_blank {size : Nat} (small : size < 65536) : At (blank size) [] size :=
  ⟨rfl, rfl, by simp [blank], by simpa using small⟩

theorem At.full {cursor : Cursor} {written : List UInt8} (done : At cursor written 0) :
    cursor.buf = written := by
  have front := done.front
  have length := done.length
  rw [Nat.add_zero] at length
  rwa [← length, List.take_length] at front

/-- A buffer of the right size is filled. -/
theorem writes_blank {writer : Writer} {bytes : List UInt8} (writes : Writes writer bytes)
    (small : bytes.length < 65536) :
    ∃ filled, writer (blank bytes.length) = some filled ∧ filled.buf = bytes ∧
      filled.count = UInt16.ofNat bytes.length := by
  obtain ⟨filled, ran, done⟩ := writes (blank bytes.length) [] 0 (at_blank small)
  refine ⟨filled, ran, done.full, ?_⟩
  apply UInt16.toNat_inj.mp
  rw [done.count, List.nil_append, UInt16.toNat_ofNat_of_lt' small]

end EspHosted.ByteCursor

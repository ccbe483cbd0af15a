import Mathlib.Data.List.Basic
import Mathlib.Order.Basic

/-!
Records of one byte of type, one of length and a value, walked over with an 8-bit count of the
bytes left. The count is taken on trust and wraps; the walk ends when it is zero. `Tiled` says
without the count where the walk comes to. Nothing here mentions the modelled program.
-/

namespace EspHosted.TlvWalk

universe u
variable {σ : Type u}

/-- What is done with a record: how much of the value is read for its tag, whether the walk is
broken off on it, and what it does to the state. -/
structure Decoder (σ : Type u) where
  valueReads : UInt8 → Nat
  refuses : UInt8 → List UInt8 → Bool
  visit : UInt8 → List UInt8 → σ → σ

structure Tlv where
  tag : UInt8
  value : List UInt8
  deriving DecidableEq

def Tlv.bytes (tlv : Tlv) : List UInt8 := tlv.tag :: UInt8.ofNat tlv.value.length :: tlv.value

def encode (tlvs : List Tlv) : List UInt8 := tlvs.flatMap Tlv.bytes

inductive Walk (σ : Type u) where
  | overread
  | refused
  /-- What is left of the data, the records visited and the state. -/
  | ended (rest : List UInt8) (visited : List Tlv) (state : σ)

variable (decoder : Decoder σ)

def walk (data : List UInt8) (left : UInt8) (visited : List Tlv) (state : σ) : Walk σ :=
  if left = 0 then .ended data visited state
  else
    match data with
    | tag :: tagLen :: rest =>
        let value := rest.take (decoder.valueReads tag)
        if rest.length < decoder.valueReads tag then .overread
        else if decoder.refuses tag value then .refused
        else
          walk (rest.drop tagLen.toNat) (left - (tagLen + 2))
            (visited ++ [⟨tag, rest.take tagLen.toNat⟩]) (decoder.visit tag value state)
    | _ => .overread
termination_by data.length
decreasing_by
  rw [List.length_drop, List.length_cons, List.length_cons]
  omega

/-- Where the record with the number begins, when the data are taken for records. -/
def boundary (data : List UInt8) : Nat → Nat
  | 0 => 0
  | number + 1 => boundary data number + ((data.getD (boundary data number + 1) 0).toNat + 2)

/-- The header of the record at the position is there, and what is read of its value. -/
def Readable (data : List UInt8) (pos : Nat) : Prop :=
  pos + 2 + decoder.valueReads (data.getD pos 0) ≤ data.length

def RefusedAt (data : List UInt8) (pos : Nat) : Prop :=
  Readable decoder data pos ∧
    decoder.refuses (data.getD pos 0)
      ((data.drop (pos + 2)).take (decoder.valueReads (data.getD pos 0))) = true

/-- The records run up to one that ends at `left`, up to a multiple of 256, or is refused, and
those before it can be read. -/
def Tiled (data : List UInt8) (left : UInt8) : Prop :=
  ∃ number,
    (UInt8.ofNat (boundary data number) = left ∨ RefusedAt decoder data (boundary data number)) ∧
      ∀ earlier < number, Readable decoder data (boundary data earlier)

variable {decoder}

section Shift
variable {tag tagLen : UInt8} {rest : List UInt8}

theorem getD_shift (pos : Nat) :
    (tag :: tagLen :: rest).getD (tagLen.toNat + 2 + pos) 0 =
      (rest.drop tagLen.toNat).getD pos 0 := by
  rw [Nat.add_right_comm, List.getD_cons_succ, List.getD_cons_succ]
  simp only [List.getD_eq_getElem?_getD, List.getElem?_drop]

/-- The records behind the first are those of the data behind it. -/
theorem boundary_shift (number : Nat) :
    boundary (tag :: tagLen :: rest) (number + 1) =
      tagLen.toNat + 2 + boundary (rest.drop tagLen.toNat) number := by
  induction number with
  | zero => simp [boundary]
  | succ number ih =>
      have next := @getD_shift tag tagLen rest (boundary (rest.drop tagLen.toNat) number + 1)
      rw [← Nat.add_assoc] at next
      rw [boundary, ih, next, boundary]
      omega

theorem readable_shift (pos : Nat) :
    Readable decoder (tag :: tagLen :: rest) (tagLen.toNat + 2 + pos) ↔
      Readable decoder (rest.drop tagLen.toNat) pos := by
  rw [Readable, Readable, getD_shift, List.length_drop, List.length_cons, List.length_cons]
  omega

theorem refusedAt_shift (pos : Nat) :
    RefusedAt decoder (tag :: tagLen :: rest) (tagLen.toNat + 2 + pos) ↔
      RefusedAt decoder (rest.drop tagLen.toNat) pos := by
  have behind : (tag :: tagLen :: rest).drop (tagLen.toNat + 2 + pos + 2) =
      (rest.drop tagLen.toNat).drop (pos + 2) := by
    rw [List.drop_drop, show tagLen.toNat + 2 + pos + 2 = tagLen.toNat + (pos + 2) + 1 + 1 by omega,
      List.drop_succ_cons, List.drop_succ_cons]
  rw [RefusedAt, RefusedAt, readable_shift, getD_shift, behind]

theorem left_shift (left : UInt8) (behind : Nat) :
    UInt8.ofNat (tagLen.toNat + 2 + behind) = left ↔
      UInt8.ofNat behind = left - (tagLen + 2) := by
  have size : UInt8.ofNat (tagLen.toNat + 2 + behind) = UInt8.ofNat behind + (tagLen + 2) := by
    rw [UInt8.ofNat_add, UInt8.ofNat_add, UInt8.ofNat_toNat, UInt8.add_comm]
    rfl
  rw [size]
  constructor
  · rintro rfl
    rw [UInt8.add_sub_cancel]
  · intro same
    rw [same, UInt8.sub_add_cancel]

/-- A first record that is read and taken leaves the rest to be tiled. -/
theorem tiled_next {left : UInt8} (some_left : left ≠ 0)
    (readable : Readable decoder (tag :: tagLen :: rest) 0)
    (kept : ¬ RefusedAt decoder (tag :: tagLen :: rest) 0) :
    Tiled decoder (tag :: tagLen :: rest) left ↔
      Tiled decoder (rest.drop tagLen.toNat) (left - (tagLen + 2)) := by
  constructor
  · rintro ⟨number, stops, earlier⟩
    cases number with
    | zero =>
        rcases stops with ends | refused
        · exact absurd ends.symm some_left
        · exact absurd refused kept
    | succ number =>
        rw [boundary_shift, left_shift, refusedAt_shift] at stops
        refine ⟨number, stops, ?_⟩
        intro before less
        have there := earlier (before + 1) (Nat.succ_lt_succ less)
        rwa [boundary_shift, readable_shift] at there
  · rintro ⟨number, stops, earlier⟩
    refine ⟨number + 1, ?_, ?_⟩
    · rwa [boundary_shift, left_shift, refusedAt_shift]
    · intro before less
      cases before with
      | zero => exact readable
      | succ before =>
          rw [boundary_shift, readable_shift]
          exact earlier before (Nat.lt_of_succ_lt_succ less)

end Shift

/-- Data that begin with a record that cannot be read are not tiled. -/
theorem not_tiled {data : List UInt8} {left : UInt8} (some_left : left ≠ 0)
    (short : ¬ Readable decoder data 0) : ¬ Tiled decoder data left := by
  rintro ⟨number, stops, earlier⟩
  cases number with
  | zero =>
      rcases stops with ends | refused
      · exact some_left ends.symm
      · exact short refused.1
  | succ number => exact short (earlier 0 (Nat.succ_pos number))

/-- The walk stays inside the data exactly if they are tiled. -/
theorem walk_inside_iff (data : List UInt8) (left : UInt8) (visited : List Tlv) (state : σ) :
    walk decoder data left visited state ≠ .overread ↔ Tiled decoder data left := by
  fun_induction walk decoder data left visited state with
  | case1 data visited state => exact ⟨fun _ => ⟨0, Or.inl rfl, nofun⟩, fun _ => nofun⟩
  | case2 left visited state some_left tag tagLen rest short =>
      refine ⟨fun inside => absurd rfl inside, fun tiled => absurd tiled (not_tiled some_left ?_)⟩
      intro readable
      rw [Readable, List.length_cons, List.length_cons, List.getD_cons_zero] at readable
      omega
  | case3 left visited state some_left tag tagLen rest value long refused =>
      refine ⟨fun _ => ⟨0, Or.inr ⟨?_, refused⟩, nofun⟩, fun _ => nofun⟩
      rw [boundary, Readable, List.length_cons, List.length_cons, List.getD_cons_zero]
      omega
  | case4 left visited state some_left tag tagLen rest value long kept ih =>
      rw [ih]
      refine (tiled_next some_left ?_ ?_).symm
      · rw [Readable, List.length_cons, List.length_cons, List.getD_cons_zero]
        omega
      · exact fun refused => kept refused.2
  | case5 data left visited state some_left headless =>
      refine ⟨fun inside => absurd rfl inside, fun tiled => absurd tiled (not_tiled some_left ?_)⟩
      intro readable
      have header : 0 + 2 ≤ data.length := Nat.le_trans (Nat.le_add_right _ _) readable
      rcases data with _ | ⟨tag, _ | ⟨tagLen, rest⟩⟩
      · exact absurd header (by decide)
      · exact absurd header (by simp)
      · exact headless tag tagLen rest rfl

end EspHosted.TlvWalk

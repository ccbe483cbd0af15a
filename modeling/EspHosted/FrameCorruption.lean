import EspHosted.SlaveFrames
import EspHosted.SumCheck

/-!
What `process_spi_rx_buf` does with a frame in which one byte was changed on the way. The two
bytes of `checksum` are not summed but compared, those of `offset` have one right value, and
any other byte outside `len` moves the sum.
-/

namespace EspHosted.FrameCorruption
open SpiFrames HostFrames SlaveFrames SumCheck

variable {rxbuff : List UInt8} {pos : Nat} {byte old : UInt8}

/-- What the checks of an accepted frame say of its bytes. -/
structure Checked (rxbuff : List UInt8) : Prop where
  positive : (decodeHeader rxbuff).len.toNat ≠ 0
  fits : (decodeHeader rxbuff).len.toNat ≤ maxPayloadSize
  offset : (decodeHeader rxbuff).offset.toNat = payloadHeaderSize
  checksum : computeChecksum (((rxbuff.set 6 0).set 7 0).take
    ((decodeHeader rxbuff).len.toNat + (decodeHeader rxbuff).offset.toNat)) =
      (decodeHeader rxbuff).checksum

theorem checked_of_accepted {got : IfaceBuf} (accepted : processSpiRxBuf rxbuff = .ok got) :
    Checked rxbuff := by
  simp only [processSpiRxBuf] at accepted
  by_cases none : (decodeHeader rxbuff).len.toNat = 0
  · rw [if_pos none] at accepted
    cases accepted
  rw [if_neg none] at accepted
  by_cases wrong : (decodeHeader rxbuff).len.toNat > maxPayloadSize ∨
      (decodeHeader rxbuff).offset.toNat ≠ payloadHeaderSize
  · rw [if_pos wrong] at accepted
    cases accepted
  rw [if_neg wrong] at accepted
  have fits : ¬ (decodeHeader rxbuff).len.toNat > maxPayloadSize := fun large =>
    wrong (Or.inl large)
  have offset : ¬ (decodeHeader rxbuff).offset.toNat ≠ payloadHeaderSize := fun other =>
    wrong (Or.inr other)
  split at accepted
  case isTrue checksum =>
    exact
      { positive := none, fits := Nat.le_of_not_lt fits, offset := Decidable.of_not_not offset,
        checksum := checksum }
  case isFalse => cases accepted

theorem offset_refused (positive : (decodeHeader rxbuff).len.toNat ≠ 0)
    (other : (decodeHeader rxbuff).offset.toNat ≠ payloadHeaderSize) :
    processSpiRxBuf rxbuff = .error (-2) := by
  have wrong : (decodeHeader rxbuff).len.toNat > maxPayloadSize ∨
      (decodeHeader rxbuff).offset.toNat ≠ payloadHeaderSize := Or.inr other
  simp only [processSpiRxBuf]
  rw [if_neg positive, if_pos wrong]

theorem checksum_refused (positive : (decodeHeader rxbuff).len.toNat ≠ 0)
    (fits : (decodeHeader rxbuff).len.toNat ≤ maxPayloadSize)
    (offset : (decodeHeader rxbuff).offset.toNat = payloadHeaderSize)
    (checksum : computeChecksum (((rxbuff.set 6 0).set 7 0).take
      ((decodeHeader rxbuff).len.toNat + (decodeHeader rxbuff).offset.toNat)) ≠
        (decodeHeader rxbuff).checksum) :
    processSpiRxBuf rxbuff = .error (-4) := by
  have right : ¬ ((decodeHeader rxbuff).len.toNat > maxPayloadSize ∨
      (decodeHeader rxbuff).offset.toNat ≠ payloadHeaderSize) := by
    rintro (large | other)
    · exact Nat.not_lt_of_le fits large
    · exact other offset
  simp only [processSpiRxBuf]
  rw [if_neg positive, if_neg right, if_neg checksum]

/-- A frame with a payload that fails a check is not queued and leaves the throttle state. -/
theorem processRxbuff_refused (put : Bool) (rx : HostRx) {code : Int}
    (positive : (decodeHeader rxbuff).len.toNat ≠ 0)
    (refused : processSpiRxBuf rxbuff = .error code) :
    (processRxbuff put rx rxbuff).1.fromSlaveQueue = rx.fromSlaveQueue ∧
      (processRxbuff put rx rxbuff).1.semFromSlaveQueue = rx.semFromSlaveQueue ∧
      (processRxbuff put rx rxbuff).1.wifiTxThrottling = rx.wifiTxThrottling ∧
      (processRxbuff put rx rxbuff).2 = code := by
  have some_bytes : (decodeHeader rxbuff).len ≠ 0 := fun zero =>
    positive (congrArg UInt16.toNat zero)
  simp only [processRxbuff, some_bytes, refused, if_false]
  by_cases idle : (decodeHeader rxbuff).ifType = espMaxIf
  · simp only [idle, if_true, and_self]
  · simp only [idle, if_false, and_self]

theorem computeChecksum_toNat (bytes : List UInt8) :
    (computeChecksum bytes).toNat = check 65536 UInt8.toNat bytes := by
  have summed : ∀ sum : UInt16,
      (bytes.foldl (fun checksum byte => checksum + byte.toUInt16) sum).toNat =
        (sum.toNat + total UInt8.toNat bytes) % 65536 := by
    induction bytes with
    | nil =>
        intro sum
        exact (Nat.mod_eq_of_lt sum.toNat_lt).symm
    | cons byte rest ih =>
        intro sum
        rw [List.foldl_cons, ih, UInt16.toNat_add, UInt8.toNat_toUInt16, total]
        omega
  rw [computeChecksum, summed, check]
  simp

theorem computeChecksum_set_ne {bytes : List UInt8} (inside : bytes[pos]? = some old)
    (differs : byte ≠ old) : computeChecksum (bytes.set pos byte) ≠ computeChecksum bytes := by
  intro same
  have equal := congrArg UInt16.toNat same
  rw [computeChecksum_toNat, computeChecksum_toNat] at equal
  have new_small : byte.toNat < 65536 := Nat.lt_trans byte.toNat_lt (by decide)
  have old_small : old.toNat < 65536 := Nat.lt_trans old.toNat_lt (by decide)
  exact check_set_ne inside new_small old_small
    (fun weight => differs (UInt8.toNat_inj.mp weight)) equal

theorem le16_inj {low high other_low other_high : UInt8}
    (same : le16 low high = le16 other_low other_high) : low = other_low ∧ high = other_high := by
  have equal := congrArg UInt16.toNat same
  have low_small := low.toNat_lt
  have high_small := high.toNat_lt
  have other_low_small := other_low.toNat_lt
  have other_high_small := other_high.toNat_lt
  simp only [le16, UInt16.toNat_ofNat'] at equal
  constructor
  · apply UInt8.toNat_inj.mp
    omega
  · apply UInt8.toNat_inj.mp
    omega

theorem getD_set_ne {index : Nat} (apart : pos ≠ index) :
    (rxbuff.set pos byte).getD index 0 = rxbuff.getD index 0 := by
  rw [List.getD_eq_getElem?_getD, List.getElem?_set_ne apart, ← List.getD_eq_getElem?_getD]

theorem getD_set_self (inside : rxbuff[pos]? = some old) :
    (rxbuff.set pos byte).getD pos 0 = byte := by
  have below : pos < rxbuff.length := (List.getElem?_eq_some_iff.mp inside).1
  rw [List.getD_eq_getElem?_getD, List.getElem?_set_self below]
  rfl

theorem getD_inside (inside : rxbuff[pos]? = some old) : rxbuff.getD pos 0 = old := by
  rw [List.getD_eq_getElem?_getD, inside]
  rfl

/-- A word of the header stays when neither of its bytes is the changed one. -/
theorem word_kept {low high : Nat} (not_low : pos ≠ low) (not_high : pos ≠ high) :
    le16 ((rxbuff.set pos byte).getD low 0) ((rxbuff.set pos byte).getD high 0) =
      le16 (rxbuff.getD low 0) (rxbuff.getD high 0) := by
  rw [getD_set_ne not_low, getD_set_ne not_high]

/-- A word of the header changes with either of its bytes. -/
theorem word_changed {low high : Nat} (apart : low ≠ high) (inside : rxbuff[pos]? = some old)
    (differs : byte ≠ old) (either : pos = low ∨ pos = high) :
    le16 ((rxbuff.set pos byte).getD low 0) ((rxbuff.set pos byte).getD high 0) ≠
      le16 (rxbuff.getD low 0) (rxbuff.getD high 0) := by
  intro same
  obtain ⟨same_low, same_high⟩ := le16_inj same
  rcases either with rfl | rfl
  · rw [getD_set_self inside, getD_inside inside] at same_low
    exact differs same_low
  · rw [getD_set_self inside, getD_inside inside] at same_high
    exact differs same_high

theorem len_kept (not_low : pos ≠ 2) (not_high : pos ≠ 3) :
    (decodeHeader (rxbuff.set pos byte)).len = (decodeHeader rxbuff).len :=
  word_kept not_low not_high

/-- A changed checksum is compared with the sum of the old frame. -/
theorem checksum_byte_refused (checked : Checked rxbuff) (inside : rxbuff[pos]? = some old)
    (differs : byte ≠ old) (either : pos = 6 ∨ pos = 7) :
    processSpiRxBuf (rxbuff.set pos byte) = .error (-4) := by
  have len : (decodeHeader (rxbuff.set pos byte)).len = (decodeHeader rxbuff).len :=
    len_kept (by omega) (by omega)
  have offset : (decodeHeader (rxbuff.set pos byte)).offset = (decodeHeader rxbuff).offset :=
    word_kept (by omega) (by omega)
  have checksum : (decodeHeader (rxbuff.set pos byte)).checksum ≠ (decodeHeader rxbuff).checksum :=
    word_changed (by decide) inside differs either
  have zeroed : ((rxbuff.set pos byte).set 6 0).set 7 0 = (rxbuff.set 6 0).set 7 0 := by
    rcases either with rfl | rfl
    · rw [List.set_set]
    · rw [List.set_comm _ _ (by decide : (7 : Nat) ≠ 6), List.set_set]
  apply checksum_refused
  · rw [len]
    exact checked.positive
  · rw [len]
    exact checked.fits
  · rw [offset]
    exact checked.offset
  · rw [len, offset, zeroed, checked.checksum]
    exact checksum.symm

/-- Any other byte outside `len` and `offset` is summed once. -/
theorem summed_byte_refused (checked : Checked rxbuff) (inside : rxbuff[pos]? = some old)
    (differs : byte ≠ old)
    (within : pos < (decodeHeader rxbuff).len.toNat + payloadHeaderSize)
    (elsewhere : pos ≠ 2 ∧ pos ≠ 3 ∧ pos ≠ 4 ∧ pos ≠ 5 ∧ pos ≠ 6 ∧ pos ≠ 7) :
    processSpiRxBuf (rxbuff.set pos byte) = .error (-4) := by
  obtain ⟨len_low, len_high, offset_low, offset_high, sum_low, sum_high⟩ := elsewhere
  have len : (decodeHeader (rxbuff.set pos byte)).len = (decodeHeader rxbuff).len :=
    word_kept len_low len_high
  have offset : (decodeHeader (rxbuff.set pos byte)).offset = (decodeHeader rxbuff).offset :=
    word_kept offset_low offset_high
  have checksum : (decodeHeader (rxbuff.set pos byte)).checksum = (decodeHeader rxbuff).checksum :=
    word_kept sum_low sum_high
  have zeroed : ((rxbuff.set pos byte).set 6 0).set 7 0 = ((rxbuff.set 6 0).set 7 0).set pos byte := by
    rw [List.set_comm _ _ sum_low, List.set_comm _ _ sum_high]
  have still_inside : (((rxbuff.set 6 0).set 7 0).take
      ((decodeHeader rxbuff).len.toNat + (decodeHeader rxbuff).offset.toNat))[pos]? = some old := by
    rw [checked.offset, List.getElem?_take_of_lt within, List.getElem?_set_ne sum_high.symm,
      List.getElem?_set_ne sum_low.symm]
    exact inside
  apply checksum_refused
  · rw [len]
    exact checked.positive
  · rw [len]
    exact checked.fits
  · rw [offset]
    exact checked.offset
  · rw [len, offset, zeroed, checksum, ← checked.checksum, List.take_set]
    exact computeChecksum_set_ne still_inside differs

theorem corrupted_refused (checked : Checked rxbuff) (inside : rxbuff[pos]? = some old)
    (differs : byte ≠ old)
    (within : pos < (decodeHeader rxbuff).len.toNat + payloadHeaderSize)
    (not_low : pos ≠ 2) (not_high : pos ≠ 3) :
    ∃ code : Int, processSpiRxBuf (rxbuff.set pos byte) = .error code ∧ code < 0 := by
  by_cases in_offset : pos = 4 ∨ pos = 5
  · have len : (decodeHeader (rxbuff.set pos byte)).len = (decodeHeader rxbuff).len :=
      len_kept not_low not_high
    have offset : (decodeHeader (rxbuff.set pos byte)).offset ≠ (decodeHeader rxbuff).offset :=
      word_changed (by decide) inside differs in_offset
    refine ⟨-2, offset_refused ?_ ?_, by decide⟩
    · rw [len]
      exact checked.positive
    · rw [← checked.offset]
      exact fun same => offset (UInt16.toNat_inj.mp same)
  · by_cases in_checksum : pos = 6 ∨ pos = 7
    · exact ⟨-4, checksum_byte_refused checked inside differs in_checksum, by decide⟩
    · exact ⟨-4, summed_byte_refused checked inside differs within (by omega), by decide⟩

/-- One changed byte outside `len` keeps an accepted frame out of every queue, and its throttle
state out of `wifi_tx_throttling`, whatever the host had before and whether or not the queue
would have taken the frame. -/
theorem single_byte_change_caught (rxbuff : List UInt8) (got : IfaceBuf) (pos : Nat)
    (old byte : UInt8) (accepted : processSpiRxBuf rxbuff = .ok got)
    (inside : rxbuff[pos]? = some old) (differs : byte ≠ old)
    (within : pos < payloadHeaderSize + got.payloadLen.toNat)
    (not_len : pos ≠ 2 ∧ pos ≠ 3) (put : Bool) (rx : HostRx) :
    (processRxbuff put rx (rxbuff.set pos byte)).1.fromSlaveQueue = rx.fromSlaveQueue ∧
      (processRxbuff put rx (rxbuff.set pos byte)).1.semFromSlaveQueue = rx.semFromSlaveQueue ∧
      (processRxbuff put rx (rxbuff.set pos byte)).1.wifiTxThrottling = rx.wifiTxThrottling ∧
      (processRxbuff put rx (rxbuff.set pos byte)).2 < 0 := by
  obtain ⟨len, _⟩ := accepted_len accepted
  have checked := checked_of_accepted accepted
  rw [len, Nat.add_comm] at within
  obtain ⟨code, refused, negative⟩ :=
    corrupted_refused checked inside differs within not_len.1 not_len.2
  have same_len : (decodeHeader (rxbuff.set pos byte)).len = (decodeHeader rxbuff).len :=
    len_kept not_len.1 not_len.2
  have positive : (decodeHeader (rxbuff.set pos byte)).len.toNat ≠ 0 := by
    rw [same_len]
    exact checked.positive
  obtain ⟨queues, posted, throttling, returned⟩ := processRxbuff_refused put rx positive refused
  refine ⟨queues, posted, throttling, ?_⟩
  rw [returned]
  exact negative

/-- A frame of the interface 0 with the payload 7. -/
def shortFrame : List UInt8 := [0, 0, 1, 0, 12, 0, 20, 0, 0, 0, 0, 0, 7]

theorem single_byte_change_caught_payload :
    (processRxbuff true idleHost (shortFrame.set 12 8)).1.fromSlaveQueue =
        idleHost.fromSlaveQueue ∧
      (processRxbuff true idleHost (shortFrame.set 12 8)).1.wifiTxThrottling = 0 := by
  have accepted : processSpiRxBuf shortFrame =
      .ok { ifType := 0, ifNum := 0, payload := [7], flag := 0, payloadLen := 1, seqNum := 0 } := by
    rfl
  obtain ⟨queues, _, throttling, _⟩ :=
    single_byte_change_caught shortFrame _ 12 7 8 accepted (by decide) (by decide) (by decide)
      (by decide) true idleHost
  exact ⟨queues, throttling⟩

end EspHosted.FrameCorruption

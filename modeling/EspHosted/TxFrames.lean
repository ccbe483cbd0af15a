import EspHosted.RxPackets
import EspHosted.SpiDriver

/-!
How the write tasks of the UART, SDIO and SPI-HD drivers form a frame. The length is a local
of the task; the interface comes from the handle, and the payload is whatever stands by then
where the handle points. On the HCI interface the first byte of a copied payload travels in the
last byte of the header.
-/

namespace EspHosted.TxFrames
open SpiFrames HostFrames RxPackets SpiDriver

/-- What `esp_hosted_tx` asks of a call. -/
def txAccepted (config : RxConfig) (transportUp : Bool) (frame : TxFrame) : Prop :=
  frame.wbuffer.isSome = true ∧ frame.buf.payloadLen ≠ 0 ∧
    frame.buf.payloadLen.toNat ≤ config.maxPayloadSize ∧ transportUp = true

instance (config : RxConfig) (transportUp : Bool) (frame : TxFrame) :
    Decidable (txAccepted config transportUp frame) :=
  inferInstanceAs (Decidable (_ ∧ _ ∧ _ ∧ _))

/-- A call of `esp_hosted_tx`, with a buffer that has the bytes it is said to have. -/
structure Request where
  frame : TxFrame
  filled : frame.buf.bytes.length = frame.buf.payloadLen.toNat

/-- A handle that a call of `esp_hosted_tx` puts. -/
structure Message (config : RxConfig) where
  request : Request
  accepted : txAccepted config true request.frame

abbrev Message.frame {config : RxConfig} (message : Message config) : TxFrame := message.request.frame

/-- `esp_hosted_tx` up to the put. -/
def espHostedTx (config : RxConfig) (transportUp : Bool) (request : Request) :
    Option (Message config) :=
  if accepted : txAccepted config transportUp request.frame then
    some ⟨request, accepted.1, accepted.2.1, accepted.2.2.1, rfl⟩
  else none

/-- `sendbuf`, and the local `len` behind it. -/
structure Formed where
  sendbuf : List UInt8
  len : UInt16

/-- The first byte of the payload is copied into the header. -/
def byteInHeader (buf : TxBuf) : Prop :=
  buf.ifType.toNat % 16 = espHciIf.toNat ∧ buf.payloadZcopy = false

instance (buf : TxBuf) : Decidable (byteInHeader buf) := inferInstanceAs (Decidable (_ ∧ _))

def formHeader (buf : TxBuf) (len : UInt16) (sendbuf : List UInt8) : List UInt8 :=
  let offset := UInt16.ofNat payloadHeaderSize
  let sendbuf := putLen sendbuf len
  let sendbuf := putAt sendbuf 4 [lowByte offset, highByte offset]
  let sendbuf :=
    putAt sendbuf 0 [UInt8.ofNat (buf.ifType.toNat % 16 + 16 * (buf.ifNum.toNat % 16))]
  -- esp_hosted_tx leaves seq_num and flag of the handle 0
  putAt (putAt sendbuf 8 [0, 0]) 1 [0]

def formPayload (buf : TxBuf) (len : UInt16) (memory sendbuf : List UInt8) : Formed :=
  if byteInHeader buf then
    let shorter := len - 1
    let sendbuf := putLen (putAt sendbuf 11 [memory.getD 0 0]) shorter
    ⟨putAt sendbuf payloadHeaderSize ((memory.drop 1).take shorter.toNat), shorter⟩
  else if buf.payloadZcopy then ⟨sendbuf, len⟩
  else ⟨putAt sendbuf payloadHeaderSize (memory.take len.toNat), len⟩

/-- `memory` is what stands where `buf_handle.payload` points. -/
def formFrame (config : RxConfig) (buf : TxBuf) (len : UInt16) (memory : List UInt8) : Formed :=
  let sendbuf := if buf.payloadZcopy then memory else List.replicate config.bufferSize 0
  let formed := formPayload buf len memory (formHeader buf len sendbuf)
  if config.checksum then
    let checksum := computeChecksum (formed.sendbuf.take (payloadHeaderSize + formed.len.toNat))
    { formed with sendbuf := putAt formed.sendbuf 6 [lowByte checksum, highByte checksum] }
  else formed

/-! What a frame carries. -/

/-- Where the bytes of the message begin in its frame. -/
def bytesStart (buf : TxBuf) : Nat :=
  if byteInHeader buf then payloadHeaderSize - 1 else payloadHeaderSize

/-- The other side reads the interface, the length and the bytes of the message. -/
structure Framed (buf : TxBuf) (bytes : List UInt8) : Prop where
  ifType : (decodeHeader bytes).ifType.toNat = buf.ifType.toNat % 16
  ifNum : (decodeHeader bytes).ifNum.toNat = buf.ifNum.toNat % 16
  len : (decodeHeader bytes).len = endingLen buf
  offset : (decodeHeader bytes).offset.toNat = payloadHeaderSize
  payload : (bytes.drop (bytesStart buf)).take buf.payloadLen.toNat = buf.bytes

/-- The header as it is written. The four last bytes may be left from the caller. -/
def txHeader (buf : TxBuf) (len : UInt16) (low high throttle pktType : UInt8) : List UInt8 :=
  [UInt8.ofNat (buf.ifType.toNat % 16 + 16 * (buf.ifNum.toNat % 16)), 0, lowByte len,
    highByte len, 12, 0, low, high, 0, 0, throttle, pktType]

section Header
variable {buf : TxBuf} {len : UInt16} {low high throttle pktType : UInt8} {body : List UInt8}

theorem txHeader_length : (txHeader buf len low high throttle pktType).length = payloadHeaderSize :=
  rfl

theorem header_formed {front : List UInt8} (whole : front.length = payloadHeaderSize) :
    ∃ low high throttle pktType, ∀ body,
      formHeader buf len (front ++ body) = txHeader buf len low high throttle pktType ++ body := by
  match front, whole with
  | [_, _, _, _, _, _, low, high, _, _, throttle, pktType], _ =>
      exact ⟨low, high, throttle, pktType, fun _ => rfl⟩

theorem put_checksum (checksum : UInt16) :
    putAt (txHeader buf len low high throttle pktType ++ body) 6
        [lowByte checksum, highByte checksum] =
      txHeader buf len (lowByte checksum) (highByte checksum) throttle pktType ++ body := rfl

theorem put_pktType (shorter : UInt16) (first : UInt8) :
    putLen (putAt (txHeader buf len low high throttle pktType ++ body) 11 [first]) shorter =
      txHeader buf shorter low high throttle first ++ body := rfl

theorem decode_len : (decodeHeader (txHeader buf len low high throttle pktType ++ body)).len = len :=
  le16_bytes len

theorem decode_offset :
    (decodeHeader (txHeader buf len low high throttle pktType ++ body)).offset.toNat =
      payloadHeaderSize := rfl

theorem decode_ifType :
    (decodeHeader (txHeader buf len low high throttle pktType ++ body)).ifType.toNat =
      buf.ifType.toNat % 16 := by
  simp only [decodeHeader, txHeader, List.cons_append, List.getD_cons_zero, UInt8.toNat_ofNat']
  omega

theorem decode_ifNum :
    (decodeHeader (txHeader buf len low high throttle pktType ++ body)).ifNum.toNat =
      buf.ifNum.toNat % 16 := by
  simp only [decodeHeader, txHeader, List.cons_append, List.getD_cons_zero, UInt8.toNat_ofNat']
  omega

end Header

/-- A header and the bytes of the message, which may begin with the last byte of the header. -/
structure Written (buf : TxBuf) (formed : Formed) : Prop where
  len : formed.len = endingLen buf
  shape : ∃ low high throttle pktType carried padding,
    formed.sendbuf = txHeader buf formed.len low high throttle pktType ++ (carried ++ padding) ∧
      carried.length = formed.len.toNat ∧
      (if byteInHeader buf then pktType :: carried else carried) = buf.bytes

variable {config : RxConfig}

theorem Message.positive (message : Message config) : message.frame.buf.payloadLen ≠ 0 :=
  message.accepted.2.1

theorem Message.fits (message : Message config) :
    message.frame.buf.payloadLen.toNat ≤ config.maxPayloadSize :=
  message.accepted.2.2.1

theorem endingLen_inHeader {buf : TxBuf} (positive : buf.payloadLen ≠ 0)
    (inHeader : byteInHeader buf) : endingLen buf = buf.payloadLen - 1 := by
  obtain ⟨hci, copied⟩ := inHeader
  simp [endingLen, positive, hci, copied]

theorem endingLen_whole {buf : TxBuf} (whole : ¬ byteInHeader buf) :
    endingLen buf = buf.payloadLen := by
  rw [endingLen, if_neg]
  rintro ⟨_, hci, copied⟩
  exact whole ⟨hci, by simpa using copied⟩

theorem pred_toNat {word : UInt16} (positive : word ≠ 0) : (word - 1).toNat + 1 = word.toNat := by
  have some_word : word.toNat ≠ 0 := fun none => positive (UInt16.toNat_inj.mp none)
  have small := word.toNat_lt
  rw [UInt16.toNat_sub, UInt16.toNat_one]
  omega

theorem blank_sendbuf (config : RxConfig) : List.replicate config.bufferSize (0 : UInt8) =
    blankHeader ++ List.replicate config.maxPayloadSize 0 := by
  rw [blankHeader, List.replicate_append_replicate, ← config.room, Nat.add_comm]

theorem Written.summed {buf : TxBuf} {formed : Formed} (written : Written buf formed)
    (checksum : UInt16) :
    Written buf
      { formed with sendbuf := putAt formed.sendbuf 6 [lowByte checksum, highByte checksum] } := by
  obtain ⟨len, low, high, throttle, pktType, carried, padding, sendbuf, length, bytes⟩ := written
  refine ⟨len, lowByte checksum, highByte checksum, throttle, pktType, carried, padding, ?_, length,
    bytes⟩
  rw [sendbuf, put_checksum]

section Payload
variable {buf : TxBuf}

/-- Without a copy the buffer of the caller goes out, its header space written over. -/
theorem caller_written (filled : buf.bytes.length = buf.payloadLen.toNat)
    (positive : buf.payloadLen ≠ 0) (zcopy : buf.payloadZcopy = true) (behind : List UInt8) :
    Written buf (formPayload buf buf.payloadLen (buf.payload ++ behind)
      (formHeader buf buf.payloadLen (buf.payload ++ behind))) := by
  have whole : ¬ byteInHeader buf := fun inHeader => by simp [byteInHeader, zcopy] at inHeader
  have bytes : buf.bytes = (buf.payload.drop payloadHeaderSize).take buf.payloadLen.toNat := by
    simp [TxBuf.bytes, zcopy]
  have room : payloadHeaderSize ≤ buf.payload.length := by
    have least := pred_toNat positive
    rw [bytes, List.length_take, List.length_drop] at filled
    omega
  obtain ⟨low, high, throttle, pktType, header⟩ :=
    @header_formed buf buf.payloadLen (buf.payload.take payloadHeaderSize)
      (List.length_take_of_le room)
  have split : buf.payload ++ behind = buf.payload.take payloadHeaderSize ++
      (buf.bytes ++ ((buf.payload.drop payloadHeaderSize).drop buf.payloadLen.toNat ++ behind)) := by
    rw [bytes, ← List.append_assoc (List.take _ (List.drop _ _)), List.take_append_drop,
      ← List.append_assoc, List.take_append_drop]
  rw [formPayload, if_neg whole, if_pos zcopy, split, header]
  exact ⟨(endingLen_whole whole).symm, low, high, throttle, pktType, buf.bytes, _, rfl, filled,
    if_neg whole⟩

/-- The payload is copied into a zeroed buffer. -/
theorem copy_written (filled : buf.bytes.length = buf.payloadLen.toNat)
    (positive : buf.payloadLen ≠ 0) (copied : buf.payloadZcopy = false) (behind body : List UInt8) :
    Written buf (formPayload buf buf.payloadLen (buf.payload ++ behind)
      (formHeader buf buf.payloadLen (blankHeader ++ body))) := by
  have bytes : buf.bytes = buf.payload.take buf.payloadLen.toNat := by simp [TxBuf.bytes, copied]
  have room : buf.payloadLen.toNat ≤ buf.payload.length := by
    rw [bytes, List.length_take] at filled
    omega
  have least := pred_toNat positive
  obtain ⟨low, high, throttle, pktType, header⟩ :=
    @header_formed buf buf.payloadLen blankHeader rfl
  rw [formPayload, header]
  by_cases inHeader : byteInHeader buf
  · obtain ⟨first, rest, payload⟩ : ∃ first rest, buf.payload = first :: rest :=
      List.exists_cons_of_length_pos (by omega)
    rw [payload, List.length_cons] at room
    simp only [if_pos inHeader, payload, List.cons_append, List.getD_cons_zero,
      List.drop_succ_cons, List.drop_zero, put_pktType, putAt_append txHeader_length]
    refine ⟨(endingLen_inHeader positive inHeader).symm, low, high, throttle, first, _, _, rfl, ?_, ?_⟩
    · rw [List.length_take_of_le]
      rw [List.length_append]
      omega
    · rw [if_pos inHeader, bytes, payload, ← least, List.take_succ_cons,
        List.take_append_of_le_length (by omega)]
  · rw [if_neg inHeader, if_neg (Bool.eq_false_iff.mp copied), putAt_append txHeader_length]
    refine ⟨(endingLen_whole inHeader).symm, low, high, throttle, pktType, _, _, rfl, ?_, ?_⟩
    · rw [List.length_take_of_le]
      rw [List.length_append]
      omega
    · rw [if_neg inHeader, bytes, List.take_append_of_le_length room]

end Payload

/-- A message whose buffer still holds what it held when it was put. -/
theorem frame_written (message : Message config) (behind : List UInt8) :
    Written message.frame.buf
      (formFrame config message.frame.buf message.frame.buf.payloadLen
        (message.frame.buf.payload ++ behind)) := by
  have positive := message.positive
  have filled := message.request.filled
  generalize message.frame.buf = buf at positive filled ⊢
  have payload : Written buf (formPayload buf buf.payloadLen (buf.payload ++ behind)
      (formHeader buf buf.payloadLen
        (if buf.payloadZcopy then buf.payload ++ behind else List.replicate config.bufferSize 0))) := by
    cases copied : buf.payloadZcopy with
    | true => exact caller_written filled positive copied behind
    | false =>
        rw [if_neg Bool.false_ne_true, blank_sendbuf]
        exact copy_written filled positive copied behind _
  dsimp only [formFrame]
  generalize formPayload _ _ _ _ = formed at payload ⊢
  split
  · exact payload.summed _
  · exact payload

/-- As much of the buffer as the frame is long, or more. -/
theorem Written.framed {buf : TxBuf} {formed : Formed} (written : Written buf formed)
    (filled : buf.bytes.length = buf.payloadLen.toNat) {count : Nat}
    (enough : payloadHeaderSize + formed.len.toNat ≤ count) :
    Framed buf (formed.sendbuf.take count) := by
  obtain ⟨len, low, high, throttle, pktType, carried, padding, sendbuf, length, bytes⟩ := written
  have cut : formed.sendbuf.take count = txHeader buf formed.len low high throttle pktType ++
      (carried ++ padding.take (count - payloadHeaderSize - formed.len.toNat)) := by
    rw [sendbuf, List.take_append, txHeader_length, List.take_of_length_le
      (Nat.le_trans (Nat.le_add_right _ _) enough), List.take_append, length, List.take_of_length_le]
    omega
  rw [cut]
  refine ⟨decode_ifType, decode_ifNum, decode_len.trans len, decode_offset, ?_⟩
  rw [← filled, ← bytes, bytesStart]
  by_cases inHeader : byteInHeader buf
  · rw [if_pos inHeader, if_pos inHeader]
    exact List.take_left' rfl
  · rw [if_neg inHeader, if_neg inHeader, List.drop_left' txHeader_length]
    exact List.take_left' rfl

end EspHosted.TxFrames

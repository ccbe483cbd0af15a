import EspHosted.SpiFrames

/-!
What the UART, SDIO and SPI-HD drivers do alike with a received packet: `is_valid_*_rx_packet`
checks the header and, where it is built in, the checksum, and clears the checksum for it;
`*_push_pkt_to_queue` forms the handle for the rx task. The drivers differ in the size of their
buffers only.
-/

namespace EspHosted.RxPackets
open SpiFrames

/-- `MAX_*_BUFFER_SIZE`, `MAX_PAYLOAD_SIZE`, and whether the checksum is built in. The UART port
leaves `MAX_TRANSPORT_BUFFER_SIZE` open; it is the size of the driver's buffers as in the others. -/
structure RxConfig where
  bufferSize : Nat
  maxPayloadSize : Nat
  checksum : Bool
  room : maxPayloadSize + payloadHeaderSize = bufferSize

def uartConfig (checksum : Bool) : RxConfig := ⟨1600, 1588, checksum, rfl⟩
def sdioConfig (checksum : Bool) : RxConfig := ⟨1536, 1524, checksum, rfl⟩
def spiHdConfig (checksum : Bool) : RxConfig := ⟨1600, 1588, checksum, rfl⟩

/-- `h->checksum = 0`. -/
def clearChecksum (rxbuff : List UInt8) : List UInt8 := (rxbuff.set 6 0).set 7 0

/-- The buffer behind the check; `len` and `offset` when it is valid. -/
structure Check where
  rxbuff : List UInt8
  found : Option (UInt16 × UInt16)

def headerFits (config : RxConfig) (rxbuff : List UInt8) : Bool :=
  let h := decodeHeader rxbuff
  !(h.len = 0 || h.len.toNat > config.maxPayloadSize || h.offset.toNat ≠ payloadHeaderSize)

def isValidRxPacket (config : RxConfig) (rxbuff : List UInt8) : Check :=
  let h := decodeHeader rxbuff
  if headerFits config rxbuff then
    if config.checksum then
      let cleared := clearChecksum rxbuff
      if computeChecksum (cleared.take (h.len.toNat + h.offset.toNat)) = h.checksum then
        ⟨cleared, some (h.len, h.offset)⟩
      else ⟨cleared, none⟩
    else ⟨rxbuff, some (h.len, h.offset)⟩
  else ⟨rxbuff, none⟩

/-- How far the check looks: to the end of `offset`, or of the packet for its checksum. -/
def validReach (config : RxConfig) (rxbuff : List UInt8) : Nat :=
  if headerFits config rxbuff ∧ config.checksum = true then
    (decodeHeader rxbuff).len.toNat + (decodeHeader rxbuff).offset.toNat
  else 6

/-- The handle that is queued: the buffer, and `payload` as its offset there. -/
structure Received where
  privBufferHandle : List UInt8
  payloadLen : UInt16
  ifType : UInt8
  ifNum : UInt8
  offset : UInt16
  seqNum : UInt16
  flag : UInt8

def pushPktToQueue (rxbuff : List UInt8) (len offset : UInt16) : Received :=
  let h := decodeHeader rxbuff
  { privBufferHandle := rxbuff, payloadLen := len, ifType := h.ifType, ifNum := h.ifNum,
    offset := offset, seqNum := h.seqNum, flag := h.flags }

def Received.payload (received : Received) : List UInt8 :=
  (received.privBufferHandle.drop received.offset.toNat).take received.payloadLen.toNat

/-! Packets. -/

/-- A complete packet whose header fits; its checksum may be right or wrong. -/
structure Packet (config : RxConfig) where
  header : List UInt8
  payload : List UInt8
  headerLength : header.length = payloadHeaderSize
  len : (decodeHeader header).len.toNat = payload.length
  offset : (decodeHeader header).offset.toNat = payloadHeaderSize
  positive : 0 < payload.length
  fits : payload.length ≤ config.maxPayloadSize

variable {config : RxConfig}

def Packet.bytes (packet : Packet config) : List UInt8 := packet.header ++ packet.payload

def Packet.checksumRight (packet : Packet config) : Bool :=
  computeChecksum (clearChecksum packet.header ++ packet.payload) =
    (decodeHeader packet.header).checksum

/-- The check takes it. -/
def Packet.valid (packet : Packet config) : Bool := !config.checksum || packet.checksumRight

/-- The header as the check leaves it. -/
def Packet.checkedHeader (packet : Packet config) : List UInt8 :=
  if config.checksum then clearChecksum packet.header else packet.header

/-- The handle has the header fields and the payload of the packet, and the rest of the header
stands in front of it. -/
structure Carries (received : Received) (packet : Packet config) : Prop where
  ifType : received.ifType = (decodeHeader packet.header).ifType
  ifNum : received.ifNum = (decodeHeader packet.header).ifNum
  flag : received.flag = (decodeHeader packet.header).flags
  seqNum : received.seqNum = (decodeHeader packet.header).seqNum
  payloadLen : received.payloadLen = (decodeHeader packet.header).len
  payload : received.payload = packet.payload
  header : received.privBufferHandle.take payloadHeaderSize = packet.checkedHeader

/-- The header is read from the first eleven bytes. -/
theorem decodeHeader_same {rxbuff other : List UInt8}
    (same : ∀ index < 11, rxbuff.getD index 0 = other.getD index 0) :
    decodeHeader rxbuff = decodeHeader other := by
  simp only [decodeHeader, same _ (by decide : 0 < 11), same _ (by decide : 1 < 11),
    same _ (by decide : 2 < 11), same _ (by decide : 3 < 11), same _ (by decide : 4 < 11),
    same _ (by decide : 5 < 11), same _ (by decide : 6 < 11), same _ (by decide : 7 < 11),
    same _ (by decide : 8 < 11), same _ (by decide : 9 < 11), same _ (by decide : 10 < 11)]

theorem decodeHeader_append {header : List UInt8} (whole : header.length = payloadHeaderSize)
    (rest : List UInt8) : decodeHeader (header ++ rest) = decodeHeader header := by
  apply decodeHeader_same
  intro index inside
  have size : payloadHeaderSize = 12 := rfl
  rw [List.getD_eq_getElem?_getD, List.getD_eq_getElem?_getD,
    List.getElem?_append_left (by omega)]

theorem clearChecksum_append {header : List UInt8} (whole : header.length = payloadHeaderSize)
    (rest : List UInt8) : clearChecksum (header ++ rest) = clearChecksum header ++ rest := by
  have size : payloadHeaderSize = 12 := rfl
  rw [clearChecksum, clearChecksum, List.set_append_left _ _ (by omega),
    List.set_append_left _ _ (by rw [List.length_set]; omega)]

theorem clearChecksum_length (rxbuff : List UInt8) :
    (clearChecksum rxbuff).length = rxbuff.length := by
  rw [clearChecksum, List.length_set, List.length_set]

theorem cleared_other (rxbuff : List UInt8) {index : Nat} (low : index ≠ 6) (high : index ≠ 7) :
    (clearChecksum rxbuff).getD index 0 = rxbuff.getD index 0 := by
  rw [clearChecksum, List.getD_eq_getElem?_getD, List.getElem?_set_ne high.symm,
    List.getElem?_set_ne low.symm, ← List.getD_eq_getElem?_getD]

/-- Only the checksum is lost. -/
theorem cleared_fields (rxbuff : List UInt8) :
    (decodeHeader (clearChecksum rxbuff)).ifType = (decodeHeader rxbuff).ifType ∧
      (decodeHeader (clearChecksum rxbuff)).ifNum = (decodeHeader rxbuff).ifNum ∧
      (decodeHeader (clearChecksum rxbuff)).flags = (decodeHeader rxbuff).flags ∧
      (decodeHeader (clearChecksum rxbuff)).seqNum = (decodeHeader rxbuff).seqNum := by
  have zero := cleared_other rxbuff (by decide : 0 ≠ 6) (by decide)
  have one := cleared_other rxbuff (by decide : 1 ≠ 6) (by decide)
  have eight := cleared_other rxbuff (by decide : 8 ≠ 6) (by decide)
  have nine := cleared_other rxbuff (by decide : 9 ≠ 6) (by decide)
  refine ⟨?_, ?_, ?_, ?_⟩
  · exact congrArg (fun byte : UInt8 => UInt8.ofNat (byte.toNat % 16)) zero
  · exact congrArg (fun byte : UInt8 => UInt8.ofNat (byte.toNat / 16)) zero
  · exact one
  · exact congrArg₂ le16 eight nine

/-! The check of a packet. -/

theorem bytes_decode (packet : Packet config) (rest : List UInt8) :
    decodeHeader (packet.bytes ++ rest) = decodeHeader packet.header := by
  rw [Packet.bytes, List.append_assoc, decodeHeader_append packet.headerLength]

theorem bytes_length (packet : Packet config) :
    packet.bytes.length =
      (decodeHeader packet.header).len.toNat + (decodeHeader packet.header).offset.toNat := by
  rw [Packet.bytes, List.length_append, packet.headerLength, packet.len, packet.offset,
    Nat.add_comm]

theorem headerFits_iff (rxbuff : List UInt8) :
    headerFits config rxbuff = true ↔ 0 < (decodeHeader rxbuff).len.toNat ∧
      (decodeHeader rxbuff).len.toNat ≤ config.maxPayloadSize ∧
      (decodeHeader rxbuff).offset.toNat = payloadHeaderSize := by
  have zero : (decodeHeader rxbuff).len = 0 ↔ (decodeHeader rxbuff).len.toNat = 0 :=
    UInt16.toNat_inj.symm
  simp only [headerFits, Bool.not_eq_true', Bool.or_eq_false_iff, decide_eq_false_iff_not, zero,
    Nat.not_lt, ne_eq, not_not, Nat.pos_iff_ne_zero, and_assoc]

/-- What the check finds stands in the header. -/
theorem found_some {rxbuff : List UInt8} {len offset : UInt16}
    (found : (isValidRxPacket config rxbuff).found = some (len, offset)) :
    headerFits config rxbuff = true ∧ len = (decodeHeader rxbuff).len ∧
      offset = (decodeHeader rxbuff).offset := by
  rw [isValidRxPacket] at found
  cases fits : headerFits config rxbuff with
  | false =>
      rw [fits, if_neg Bool.false_ne_true] at found
      exact absurd found (by simp)
  | true =>
      have same : some ((decodeHeader rxbuff).len, (decodeHeader rxbuff).offset) =
          some (len, offset) := by
        rw [fits, if_pos rfl] at found
        dsimp only at found
        split at found
        · split at found
          · exact found
          · exact absurd found (by simp)
        · exact found
      rw [Option.some.injEq, Prod.mk.injEq] at same
      exact ⟨rfl, same.1.symm, same.2.symm⟩

theorem bytes_fit (packet : Packet config) (rest : List UInt8) :
    headerFits config (packet.bytes ++ rest) = true := by
  rw [headerFits_iff, bytes_decode]
  exact ⟨packet.len ▸ packet.positive, packet.len ▸ packet.fits, packet.offset⟩

/-- The check of a packet that stands at the front. -/
theorem check_packet (packet : Packet config) (rest : List UInt8) :
    isValidRxPacket config (packet.bytes ++ rest) =
      ⟨packet.checkedHeader ++ (packet.payload ++ rest),
        if packet.valid then
          some ((decodeHeader packet.header).len, (decodeHeader packet.header).offset)
        else none⟩ := by
  have whole : packet.bytes ++ rest = packet.header ++ (packet.payload ++ rest) :=
    List.append_assoc _ _ _
  have cleared : clearChecksum (packet.bytes ++ rest) =
      clearChecksum packet.header ++ packet.payload ++ rest := by
    rw [whole, clearChecksum_append packet.headerLength, List.append_assoc]
  have summed : (clearChecksum (packet.bytes ++ rest)).take
      ((decodeHeader packet.header).len.toNat + (decodeHeader packet.header).offset.toNat) =
      clearChecksum packet.header ++ packet.payload := by
    rw [cleared]
    apply List.take_left'
    rw [← bytes_length, Packet.bytes, List.length_append, List.length_append, clearChecksum_length]
  rw [isValidRxPacket, bytes_fit, if_pos rfl, bytes_decode]
  dsimp only
  rw [summed]
  cases checksum : config.checksum with
  | false =>
      have valid : packet.valid = true := by rw [Packet.valid, checksum, Bool.not_false, Bool.true_or]
      rw [if_neg Bool.false_ne_true, valid, if_pos rfl, Packet.checkedHeader, checksum,
        if_neg Bool.false_ne_true, whole]
  | true =>
      have valid : packet.valid = packet.checksumRight := by
        rw [Packet.valid, checksum, Bool.not_true, Bool.false_or]
      rw [if_pos rfl, valid, Packet.checkedHeader, checksum, if_pos rfl, cleared, List.append_assoc,
        Packet.checksumRight]
      by_cases right : computeChecksum (clearChecksum packet.header ++ packet.payload) =
          (decodeHeader packet.header).checksum
      · rw [if_pos right, decide_eq_true right, if_pos rfl]
      · rw [if_neg right, decide_eq_false right, if_neg Bool.false_ne_true]

/-- A buffer whose header fits, with all that it announces, begins with a packet. -/
theorem packet_of_fits {rxbuff : List UInt8} (fits : headerFits config rxbuff = true)
    (whole : (decodeHeader rxbuff).len.toNat + payloadHeaderSize ≤ rxbuff.length) :
    ∃ packet : Packet config, ∃ rest, rxbuff = packet.bytes ++ rest := by
  obtain ⟨positive, small, offset⟩ := (headerFits_iff rxbuff).mp fits
  have headerLength : (rxbuff.take payloadHeaderSize).length = payloadHeaderSize := by
    rw [List.length_take]
    omega
  have same : decodeHeader (rxbuff.take payloadHeaderSize) = decodeHeader rxbuff := by
    rw [← decodeHeader_append headerLength (rxbuff.drop payloadHeaderSize),
      List.take_append_drop]
  have payload : ((rxbuff.drop payloadHeaderSize).take (decodeHeader rxbuff).len.toNat).length =
      (decodeHeader rxbuff).len.toNat := by
    rw [List.length_take, List.length_drop]
    omega
  refine ⟨⟨rxbuff.take payloadHeaderSize,
    (rxbuff.drop payloadHeaderSize).take (decodeHeader rxbuff).len.toNat, headerLength, ?_, ?_,
    ?_, ?_⟩, (rxbuff.drop payloadHeaderSize).drop (decodeHeader rxbuff).len.toNat, ?_⟩
  · rw [same, payload]
  · rw [same, offset]
  · rw [payload]
    exact positive
  · rw [payload]
    exact small
  · rw [Packet.bytes, List.append_assoc, List.take_append_drop, List.take_append_drop]

theorem checkedHeader_length (packet : Packet config) :
    packet.checkedHeader.length = payloadHeaderSize := by
  rw [Packet.checkedHeader]
  split
  · rw [clearChecksum_length, packet.headerLength]
  · exact packet.headerLength

theorem checked_fields (packet : Packet config) :
    (decodeHeader packet.checkedHeader).ifType = (decodeHeader packet.header).ifType ∧
      (decodeHeader packet.checkedHeader).ifNum = (decodeHeader packet.header).ifNum ∧
      (decodeHeader packet.checkedHeader).flags = (decodeHeader packet.header).flags ∧
      (decodeHeader packet.checkedHeader).seqNum = (decodeHeader packet.header).seqNum := by
  rw [Packet.checkedHeader]
  split
  · exact cleared_fields packet.header
  · exact ⟨rfl, rfl, rfl, rfl⟩

/-- The handle of a packet carries it. -/
theorem pushed_carries (packet : Packet config) (rest : List UInt8) :
    Carries (pushPktToQueue (packet.checkedHeader ++ (packet.payload ++ rest))
      (decodeHeader packet.header).len (decodeHeader packet.header).offset) packet := by
  have decoded := decodeHeader_append (checkedHeader_length packet) (packet.payload ++ rest)
  obtain ⟨ifType, ifNum, flag, seqNum⟩ := checked_fields packet
  refine ⟨?_, ?_, ?_, ?_, rfl, ?_, ?_⟩
  · rw [← ifType, ← decoded]
    rfl
  · rw [← ifNum, ← decoded]
    rfl
  · rw [← flag, ← decoded]
    rfl
  · rw [← seqNum, ← decoded]
    rfl
  · show ((packet.checkedHeader ++ (packet.payload ++ rest)).drop
      (decodeHeader packet.header).offset.toNat).take (decodeHeader packet.header).len.toNat = _
    rw [packet.offset, List.drop_left' (checkedHeader_length packet), packet.len, List.take_left]
  · exact List.take_left' (checkedHeader_length packet)

end EspHosted.RxPackets

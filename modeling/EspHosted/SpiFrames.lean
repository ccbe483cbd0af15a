import Mathlib.Data.List.Basic
import Mathlib.Data.Nat.Basic

/-!
A frame on the SPI link. `esp_spi_write` puts `struct esp_payload_header` and the
payload into a zeroed buffer of fixed size; `process_spi_rx_buf` checks the header
and the checksum of such a buffer and refuses what does not fit. The slave is built
with `CONFIG_ESP_SPI_CHECKSUM`.
-/

namespace EspHosted.SpiFrames

def ethDataLen : Nat := 1500
def maxSpiBufferSize : Nat := 1600
def payloadHeaderSize : Nat := 12
def maxPayloadSize : Nat := maxSpiBufferSize - payloadHeaderSize

def espSerialIf : UInt8 := 3
def moreFragment : UInt8 := 1

/-- `interface_buffer_handle_t`. `payload` is what the pointer points at, which may go
on after the `payloadLen` bytes of the frame. -/
structure IfaceBuf where
  ifType : UInt8
  ifNum : UInt8
  payload : List UInt8
  flag : UInt8
  payloadLen : UInt16
  seqNum : UInt16

/-- The bytes of the frame. -/
def IfaceBuf.bytes (buf : IfaceBuf) : List UInt8 := buf.payload.take buf.payloadLen.toNat

/-- The payload has the bytes that `payloadLen` says. -/
def IfaceBuf.Filled (buf : IfaceBuf) : Prop := buf.payloadLen.toNat ≤ buf.payload.length

structure PayloadHeader where
  ifType : UInt8
  ifNum : UInt8
  flags : UInt8
  len : UInt16
  offset : UInt16
  checksum : UInt16
  seqNum : UInt16
  throttleCmd : UInt8

def lowByte (word : UInt16) : UInt8 := UInt8.ofNat (word.toNat % 256)
def highByte (word : UInt16) : UInt8 := UInt8.ofNat (word.toNat / 256)
def le16 (low high : UInt8) : UInt16 := UInt16.ofNat (low.toNat + 256 * high.toNat)

/-- The packed header: two nibbles of interface, and words in little-endian order. -/
def PayloadHeader.encode (header : PayloadHeader) : List UInt8 :=
  [UInt8.ofNat (header.ifType.toNat % 16 + 16 * (header.ifNum.toNat % 16)), header.flags,
    lowByte header.len, highByte header.len, lowByte header.offset, highByte header.offset,
    lowByte header.checksum, highByte header.checksum, lowByte header.seqNum,
    highByte header.seqNum, UInt8.ofNat (header.throttleCmd.toNat % 4), 0]

def decodeHeader (rxbuff : List UInt8) : PayloadHeader where
  ifType := UInt8.ofNat ((rxbuff.getD 0 0).toNat % 16)
  ifNum := UInt8.ofNat ((rxbuff.getD 0 0).toNat / 16)
  flags := rxbuff.getD 1 0
  len := le16 (rxbuff.getD 2 0) (rxbuff.getD 3 0)
  offset := le16 (rxbuff.getD 4 0) (rxbuff.getD 5 0)
  checksum := le16 (rxbuff.getD 6 0) (rxbuff.getD 7 0)
  seqNum := le16 (rxbuff.getD 8 0) (rxbuff.getD 9 0)
  throttleCmd := UInt8.ofNat ((rxbuff.getD 10 0).toNat % 4)

def computeChecksum (bytes : List UInt8) : UInt16 :=
  bytes.foldl (fun checksum byte => checksum + byte.toUInt16) 0

/-- `IS_SPI_DMA_ALIGNED` and `MAKE_SPI_DMA_ALIGNED`. -/
def dmaAligned (len : Nat) : Nat := if len % 4 = 0 then len else len + (4 - len % 4)

/-- The header that `esp_spi_write` fills in; `checksum` is taken over the header with
that field still 0. -/
def writtenHeader (throttle : UInt8) (buf : IfaceBuf) : PayloadHeader :=
  let header : PayloadHeader :=
    { ifType := buf.ifType, ifNum := buf.ifNum, flags := buf.flag, len := buf.payloadLen,
      offset := UInt16.ofNat payloadHeaderSize, checksum := 0, seqNum := buf.seqNum,
      throttleCmd := UInt8.ofNat (throttle.toNat % 4) }
  { header with checksum := computeChecksum (header.encode ++ buf.bytes) }

/-- The buffer that goes out; `none` when the frame is refused. -/
def espSpiWrite (throttle : UInt8) (buf : IfaceBuf) : Option (List UInt8) :=
  if buf.payloadLen = 0 then none
  else if dmaAligned (buf.payloadLen.toNat + payloadHeaderSize) > maxSpiBufferSize then none
  else
    some ((writtenHeader throttle buf).encode ++ (buf.bytes ++
      List.replicate (maxSpiBufferSize - payloadHeaderSize - buf.bytes.length) 0))

/-- The buffer handle for the rx thread, or the error code. -/
def processSpiRxBuf (rxbuff : List UInt8) : Except Int IfaceBuf :=
  let header := decodeHeader rxbuff
  let len := header.len.toNat
  let offset := header.offset.toNat
  -- a buffer without payload brings a throttle_cmd only
  if len = 0 then .error (-5)
  else if len > maxPayloadSize ∨ offset ≠ payloadHeaderSize then .error (-2)
  else
    -- payload_header->checksum = 0
    let summed := (rxbuff.set 6 0).set 7 0
    if computeChecksum (summed.take (len + offset)) = header.checksum then
      .ok { ifType := header.ifType, ifNum := header.ifNum, payload := rxbuff.drop offset,
            flag := header.flags, payloadLen := header.len, seqNum := header.seqNum }
    else .error (-4)

theorem le16_bytes (word : UInt16) : le16 (lowByte word) (highByte word) = word := by
  have bound := word.toNat_lt
  apply UInt16.toNat_inj.mp
  simp [le16, lowByte, highByte, UInt16.toNat_ofNat']
  omega

theorem decodeHeader_encode (header : PayloadHeader) (rest : List UInt8)
    (ifType : header.ifType.toNat < 16) (ifNum : header.ifNum.toNat < 16)
    (throttle : header.throttleCmd.toNat < 4) :
    decodeHeader (header.encode ++ rest) = header := by
  obtain ⟨ifTypeByte, ifNumByte, flags, len, offset, checksum, seqNum, cmd⟩ := header
  simp only [decodeHeader, PayloadHeader.encode, List.cons_append, List.getD_cons_zero,
    List.getD_cons_succ, le16_bytes, PayloadHeader.mk.injEq, true_and]
  refine ⟨?_, ?_, ?_⟩
  all_goals
    apply UInt8.toNat_inj.mp
    simp only [UInt8.toNat_ofNat']
    dsimp only at ifType ifNum throttle
    omega

/-- The same frame in another buffer. -/
structure SameFrame (got sent : IfaceBuf) : Prop where
  ifType : got.ifType = sent.ifType
  ifNum : got.ifNum = sent.ifNum
  bytes : got.bytes = sent.bytes
  flag : got.flag = sent.flag
  payloadLen : got.payloadLen = sent.payloadLen
  seqNum : got.seqNum = sent.seqNum
  filled : got.Filled

theorem bytes_length {buf : IfaceBuf} (filled : buf.Filled) :
    buf.bytes.length = buf.payloadLen.toNat := by
  rw [IfaceBuf.bytes, List.length_take]
  exact Nat.min_eq_left filled

theorem zeroed_checksum (header : PayloadHeader) (rest : List UInt8) :
    ((header.encode ++ rest).set 6 0).set 7 0 = { header with checksum := 0 }.encode ++ rest := by
  simp [PayloadHeader.encode, lowByte, highByte]

theorem encode_length (header : PayloadHeader) : header.encode.length = payloadHeaderSize := rfl

/-- The host accepts a buffer whose header tells the truth about it. -/
theorem processSpiRxBuf_encode {header : PayloadHeader} {bytes padding : List UInt8}
    (ifType : header.ifType.toNat < 16) (ifNum : header.ifNum.toNat < 16)
    (cmd : header.throttleCmd.toNat < 4) (len : header.len.toNat = bytes.length)
    (positive : bytes.length ≠ 0) (fits : bytes.length ≤ maxPayloadSize)
    (offset : header.offset.toNat = payloadHeaderSize)
    (checksum : computeChecksum ({ header with checksum := 0 }.encode ++ bytes) = header.checksum) :
    processSpiRxBuf (header.encode ++ (bytes ++ padding)) =
      .ok { ifType := header.ifType, ifNum := header.ifNum, payload := bytes ++ padding,
            flag := header.flags, payloadLen := header.len, seqNum := header.seqNum } := by
  have summed : (({ header with checksum := 0 }.encode ++ (bytes ++ padding)).take
      (bytes.length + payloadHeaderSize)) = { header with checksum := 0 }.encode ++ bytes := by
    rw [← List.append_assoc]
    apply List.take_left'
    rw [List.length_append, encode_length, Nat.add_comm]
  have payload : (header.encode ++ (bytes ++ padding)).drop payloadHeaderSize = bytes ++ padding :=
    List.drop_left' (encode_length header)
  simp only [processSpiRxBuf, decodeHeader_encode header _ ifType ifNum cmd, len, positive, offset,
    zeroed_checksum, summed, checksum, payload, if_true, if_false]
  simp [fits]

/-- Alignment never reaches over the end of the buffer, since its size is aligned itself. -/
theorem dmaAligned_fits (len : Nat) :
    dmaAligned (len + payloadHeaderSize) ≤ maxSpiBufferSize ↔ len ≤ maxPayloadSize := by
  unfold dmaAligned
  have header : payloadHeaderSize = 12 := rfl
  have buffer : maxSpiBufferSize = 1600 := rfl
  have payload : maxPayloadSize = 1588 := rfl
  split <;> omega

theorem espSpiWrite_isSome (throttle : UInt8) (buf : IfaceBuf) :
    (espSpiWrite throttle buf).isSome ↔
      0 < buf.payloadLen.toNat ∧ buf.payloadLen.toNat ≤ maxPayloadSize := by
  have aligned := dmaAligned_fits buf.payloadLen.toNat
  unfold espSpiWrite
  by_cases none : buf.payloadLen = 0
  · simp [none]
  · have positive : 0 < buf.payloadLen.toNat := by
      apply Nat.pos_of_ne_zero
      exact fun zero => none (UInt16.toNat_inj.mp zero)
    by_cases large : dmaAligned (buf.payloadLen.toNat + payloadHeaderSize) > maxSpiBufferSize
    · have misfit : ¬ buf.payloadLen.toNat ≤ maxPayloadSize := by omega
      simp [none, large, misfit]
    · have fits : buf.payloadLen.toNat ≤ maxPayloadSize := by omega
      simp [none, large, positive, fits]

/-- What the slave writes, the host accepts, and it is the same frame. -/
theorem espSpiWrite_received {throttle : UInt8} {buf : IfaceBuf} (filled : buf.Filled)
    (positive : 0 < buf.payloadLen.toNat) (fits : buf.payloadLen.toNat ≤ maxPayloadSize)
    (ifType : buf.ifType.toNat < 16) (ifNum : buf.ifNum.toNat < 16) :
    ∃ rxbuff got, espSpiWrite throttle buf = some rxbuff ∧
      decodeHeader rxbuff = writtenHeader throttle buf ∧ processSpiRxBuf rxbuff = .ok got ∧
      SameFrame got buf := by
  have length := bytes_length filled
  have aligned := (dmaAligned_fits buf.payloadLen.toNat).mpr fits
  have small : ¬ dmaAligned (buf.payloadLen.toNat + payloadHeaderSize) > maxSpiBufferSize := by
    omega
  have some_bytes : buf.payloadLen ≠ 0 := by
    rintro zero
    rw [zero] at positive
    exact Nat.lt_irrefl 0 positive
  have written : espSpiWrite throttle buf = some ((writtenHeader throttle buf).encode ++ (buf.bytes ++
      List.replicate (maxSpiBufferSize - payloadHeaderSize - buf.bytes.length) 0)) := by
    simp only [espSpiWrite, some_bytes, small, if_false]
  have checksum : computeChecksum ({ writtenHeader throttle buf with checksum := 0 }.encode ++
      buf.bytes) = (writtenHeader throttle buf).checksum := by
    simp only [writtenHeader]
  have cmd : (writtenHeader throttle buf).throttleCmd.toNat < 4 := by
    simp only [writtenHeader, UInt8.toNat_ofNat']
    omega
  have offset : (writtenHeader throttle buf).offset.toNat = payloadHeaderSize := by
    simp [writtenHeader, payloadHeaderSize]
  refine ⟨_, _, written, decodeHeader_encode _ _ ifType ifNum cmd,
    processSpiRxBuf_encode ifType ifNum cmd length.symm (by omega) (by omega) offset checksum, ?_⟩
  refine ⟨rfl, rfl, ?_, rfl, rfl, rfl, ?_⟩
  · simp only [IfaceBuf.bytes, writtenHeader]
    exact List.take_left' length
  · simp [IfaceBuf.Filled, writtenHeader, length]

theorem espSpiWrite_accepted {throttle : UInt8} {buf : IfaceBuf} (filled : buf.Filled)
    (positive : buf.payloadLen.toNat ≠ 0) (fits : buf.payloadLen.toNat ≤ ethDataLen)
    (ifType : buf.ifType.toNat < 16) (ifNum : buf.ifNum.toNat < 16) :
    ∃ rxbuff got, espSpiWrite throttle buf = some rxbuff ∧ processSpiRxBuf rxbuff = .ok got ∧
      SameFrame got buf := by
  obtain ⟨rxbuff, got, written, _, received, same⟩ := @espSpiWrite_received throttle buf filled
    (Nat.pos_of_ne_zero positive) (Nat.le_trans fits (by decide)) ifType ifNum
  exact ⟨rxbuff, got, written, received, same⟩

end EspHosted.SpiFrames

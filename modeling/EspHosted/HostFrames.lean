import EspHosted.SpiFrames

/-!
A frame from the host to the slave. `get_next_tx_buffer` writes the header into the
buffer that goes out, which is a zeroed one with a copy of the payload or, without a
copy, the caller's own buffer. `process_spi_rx` checks it and `process_rx_pkt` hands the
payload to its consumer. On the HCI interface the first byte of a copied payload travels
in the last byte of the header.
-/

namespace EspHosted.HostFrames
open SpiFrames

def espStaIf : UInt8 := 1
def espApIf : UInt8 := 2
def espHciIf : UInt8 := 4
def espPrivIf : UInt8 := 5
def espTestIf : UInt8 := 6
def espMaxIf : UInt8 := 8

/-- What `esp_hosted_tx` queues of a frame. With `payloadZcopy` the payload is the whole
buffer of the caller, its header space included. -/
structure TxBuf where
  ifType : UInt8
  ifNum : UInt8
  payloadZcopy : Bool
  payloadLen : UInt16
  payload : List UInt8
  deriving DecidableEq

/-- The bytes of the frame. -/
def TxBuf.bytes (buf : TxBuf) : List UInt8 :=
  (if buf.payloadZcopy then buf.payload.drop payloadHeaderSize else buf.payload).take
    buf.payloadLen.toNat

/-- The test on the length with which `esp_hosted_tx` begins. -/
def lenAccepted (wlen : UInt16) : Bool := wlen ≠ 0 && wlen.toNat ≤ maxPayloadSize

/-- Overwrites the bytes of a buffer from `pos` on. -/
def putAt (sendbuf : List UInt8) (pos : Nat) (bytes : List UInt8) : List UInt8 :=
  sendbuf.take pos ++ bytes ++ sendbuf.drop (pos + bytes.length)

/-- Behind a front that stays. -/
theorem putAt_append {front : List UInt8} {pos : Nat} (whole : front.length = pos)
    (body bytes : List UInt8) :
    putAt (front ++ body) pos bytes = front ++ (bytes ++ body.drop bytes.length) := by
  have start : (front ++ body).take pos = front := List.take_left' whole
  have rest : (front ++ body).drop (pos + bytes.length) = body.drop bytes.length := by
    rw [← List.drop_drop, List.drop_left' whole]
  rw [putAt, start, rest, List.append_assoc]

theorem putAt_zero (sendbuf bytes : List UInt8) :
    putAt sendbuf 0 bytes = bytes ++ sendbuf.drop bytes.length :=
  @putAt_append [] 0 rfl sendbuf bytes

def putLen (sendbuf : List UInt8) (len : UInt16) : List UInt8 :=
  putAt sendbuf 2 [lowByte len, highByte len]

/-- The buffer `get_next_tx_buffer` returns for a frame. -/
def formTxBuffer (buf : TxBuf) : List UInt8 :=
  let len := buf.payloadLen
  let sendbuf := if buf.payloadZcopy then buf.payload else List.replicate maxSpiBufferSize 0
  let sendbuf := putLen sendbuf len
  let offset := UInt16.ofNat payloadHeaderSize
  let sendbuf := putAt sendbuf 4 [lowByte offset, highByte offset]
  -- two nibbles of one byte, so if_type is read back modulo 16
  let sendbuf :=
    putAt sendbuf 0 [UInt8.ofNat (buf.ifType.toNat % 16 + 16 * (buf.ifNum.toNat % 16))]
  let hci := buf.ifType.toNat % 16 = espHciIf.toNat
  let len := if hci ∧ !buf.payloadZcopy then len - 1 else len
  let sendbuf :=
    if buf.payloadZcopy then sendbuf
    else if hci then
      let sendbuf := putLen (putAt sendbuf 11 [buf.payload.getD 0 0]) len
      putAt sendbuf payloadHeaderSize ((buf.payload.drop 1).take len.toNat)
    else putAt sendbuf payloadHeaderSize (buf.payload.take (min len.toNat maxPayloadSize))
  let checksum := computeChecksum (sendbuf.take (payloadHeaderSize + len.toNat))
  putAt sendbuf 6 [lowByte checksum, highByte checksum]

/-- The bus moves `MAX_SPI_BUFFER_SIZE` bytes. -/
def onBus (txbuff : List UInt8) : List UInt8 := txbuff.take maxSpiBufferSize

/-- The handle `process_spi_rx` queues; its payload is the whole buffer. -/
structure SlaveBuf where
  ifType : UInt8
  ifNum : UInt8
  payload : List UInt8
  payloadLen : UInt16
  deriving DecidableEq

def processSpiRx (rxbuff : List UInt8) : Option SlaveBuf :=
  let header := decodeHeader rxbuff
  let len := header.len.toNat
  let offset := header.offset.toNat
  if len = 0 then none
  else if len + offset > maxSpiBufferSize then none
  else
    -- header->checksum = 0, in the buffer that is queued
    let payload := (rxbuff.set 6 0).set 7 0
    if computeChecksum (payload.take (len + offset)) = header.checksum then
      some { ifType := header.ifType, ifNum := header.ifNum, payload := payload,
             payloadLen := UInt16.ofNat (len + offset) }
    else none

/-- `payload--; payload_len++` in `process_hci_rx_pkt`. -/
def processHciRxPkt (buffer : List UInt8) (payload : Nat) (payloadLen : UInt16) : List UInt8 :=
  (buffer.drop (payload - 1)).take (payloadLen + 1).toNat

inductive RxConsumer where
  | staTx
  | apTx
  | serial
  | priv
  | hci
  | test
  deriving DecidableEq

/-- Who gets a packet; on the wireless interfaces only while they are up. -/
def rxConsumer (stationConnected softapStarted : Bool) (ifType : UInt8) : Option RxConsumer :=
  if ifType = espStaIf ∧ stationConnected then some .staTx
  else if ifType = espApIf ∧ softapStarted then some .apTx
  else if ifType = espSerialIf then some .serial
  else if ifType = espPrivIf then some .priv
  else if ifType = espHciIf then some .hci
  else if ifType = espTestIf then some .test
  else none

/-- What `process_rx_pkt` hands to the consumer. -/
def processRxPkt (stationConnected softapStarted : Bool) (buf : SlaveBuf) :
    Option (RxConsumer × List UInt8) :=
  let header := decodeHeader buf.payload
  let payload := header.offset.toNat
  (rxConsumer stationConnected softapStarted buf.ifType).map fun consumer =>
    match consumer with
    | .hci => (.hci, processHciRxPkt buf.payload payload header.len)
    | consumer => (consumer, (buf.payload.drop payload).take header.len.toNat)

/-- The header of a frame from the host, with the byte behind `throttle_cmd`. -/
def hostHeader (header : PayloadHeader) (pktType : UInt8) : List UInt8 := header.encode.set 11 pktType

def sentHeader (buf : TxBuf) (len checksum : UInt16) : PayloadHeader where
  ifType := UInt8.ofNat (buf.ifType.toNat % 16)
  ifNum := UInt8.ofNat (buf.ifNum.toNat % 16)
  flags := 0
  len := len
  offset := UInt16.ofNat payloadHeaderSize
  checksum := checksum
  seqNum := 0
  throttleCmd := 0

def blankHeader : List UInt8 := List.replicate payloadHeaderSize 0

section Writing
variable {buf : TxBuf} {header : PayloadHeader} {len checksum : UInt16} {pktType : UInt8}
variable {body : List UInt8}

theorem hostHeader_length : (hostHeader header pktType).length = payloadHeaderSize := rfl

theorem nibble_kept (byte : UInt8) : (UInt8.ofNat (byte.toNat % 16)).toNat % 16 = byte.toNat % 16 := by
  rw [UInt8.toNat_ofNat']
  omega

/-- The writes into a blank header make the header. -/
theorem header_written :
    putAt (putAt (putLen (blankHeader ++ body) len) 4
        [lowByte (UInt16.ofNat payloadHeaderSize), highByte (UInt16.ofNat payloadHeaderSize)]) 0
        [UInt8.ofNat (buf.ifType.toNat % 16 + 16 * (buf.ifNum.toNat % 16))] =
      hostHeader (sentHeader buf len 0) 0 ++ body := by
  simp only [hostHeader, PayloadHeader.encode, sentHeader, nibble_kept]
  rfl

theorem len_written (shorter : UInt16) :
    putLen (hostHeader (sentHeader buf len checksum) pktType ++ body) shorter =
      hostHeader (sentHeader buf shorter checksum) pktType ++ body := rfl

theorem pktType_written (byte : UInt8) :
    putAt (hostHeader header pktType ++ body) 11 [byte] = hostHeader header byte ++ body := rfl

theorem checksum_written :
    putAt (hostHeader header pktType ++ body) 6 [lowByte checksum, highByte checksum] =
      hostHeader { header with checksum := checksum } pktType ++ body := rfl

theorem payload_written (bytes : List UInt8) :
    putAt (hostHeader header pktType ++ body) payloadHeaderSize bytes =
      hostHeader header pktType ++ (bytes ++ body.drop bytes.length) :=
  putAt_append hostHeader_length body bytes

end Writing

/-- A frame the callers of `esp_hosted_tx` may hand in. The header space of a buffer that is
not copied is zeroed. -/
structure Sendable (buf : TxBuf) : Prop where
  ifType : buf.ifType.toNat < espMaxIf.toNat
  ifNum : buf.ifNum.toNat < 16
  accepted : lenAccepted buf.payloadLen = true
  filled : buf.bytes.length = buf.payloadLen.toNat
  zeroed : buf.payloadZcopy = true → buf.payload.take payloadHeaderSize = blankHeader
  hci : buf.ifType = espHciIf → buf.payloadZcopy = false ∧ 2 ≤ buf.payloadLen.toNat

/-- A buffer with a header that tells the truth about the bytes behind it. -/
structure Carries (txbuff : List UInt8) (header : PayloadHeader) (pktType : UInt8)
    (bytes : List UInt8) : Prop where
  shape : ∃ padding, txbuff = hostHeader header pktType ++ (bytes ++ padding)
  len : header.len.toNat = bytes.length
  offset : header.offset.toNat = payloadHeaderSize
  checksum : header.checksum =
    computeChecksum (hostHeader { header with checksum := 0 } pktType ++ bytes)

theorem sentHeader_offset (buf : TxBuf) (len checksum : UInt16) :
    (sentHeader buf len checksum).offset.toNat = payloadHeaderSize := rfl

theorem header_and_bytes (header : PayloadHeader) (pktType : UInt8) (bytes padding : List UInt8) :
    (hostHeader header pktType ++ (bytes ++ padding)).take (payloadHeaderSize + bytes.length) =
      hostHeader header pktType ++ bytes := by
  rw [← List.append_assoc]
  apply List.take_left'
  rw [List.length_append, hostHeader_length]

theorem sendable_len {buf : TxBuf} (sendable : Sendable buf) :
    0 < buf.payloadLen.toNat ∧ buf.payloadLen.toNat ≤ maxPayloadSize := by
  have accepted := sendable.accepted
  rw [lenAccepted, Bool.and_eq_true, decide_eq_true_eq, decide_eq_true_eq] at accepted
  obtain ⟨some_bytes, fits⟩ := accepted
  refine ⟨Nat.pos_of_ne_zero ?_, fits⟩
  intro none
  exact some_bytes (UInt16.toNat_inj.mp none)

theorem interface_kept {buf : TxBuf} (sendable : Sendable buf) :
    buf.ifType.toNat % 16 = buf.ifType.toNat := by
  have below := sendable.ifType
  exact Nat.mod_eq_of_lt (Nat.lt_trans below (by decide))

def frameChecksum (buf : TxBuf) (len : UInt16) (pktType : UInt8) (bytes : List UInt8) : UInt16 :=
  computeChecksum (hostHeader (sentHeader buf len 0) pktType ++ bytes)

theorem carries_sent {buf : TxBuf} {len : UInt16} {pktType : UInt8} {bytes padding : List UInt8}
    (truthful : len.toNat = bytes.length) :
    Carries
      (hostHeader (sentHeader buf len (frameChecksum buf len pktType bytes)) pktType ++
        (bytes ++ padding))
      (sentHeader buf len (frameChecksum buf len pktType bytes)) pktType bytes where
  shape := ⟨padding, rfl⟩
  len := truthful
  offset := sentHeader_offset _ _ _
  checksum := by simp only [sentHeader, frameChecksum]

/-- The header is complete, and the checksum is taken and put in. -/
theorem checksum_put {buf : TxBuf} {len : UInt16} {pktType : UInt8} {bytes padding : List UInt8}
    (truthful : len.toNat = bytes.length) :
    putAt (hostHeader (sentHeader buf len 0) pktType ++ (bytes ++ padding)) 6
        [lowByte (computeChecksum ((hostHeader (sentHeader buf len 0) pktType ++
          (bytes ++ padding)).take (payloadHeaderSize + len.toNat))),
        highByte (computeChecksum ((hostHeader (sentHeader buf len 0) pktType ++
          (bytes ++ padding)).take (payloadHeaderSize + len.toNat)))] =
      hostHeader (sentHeader buf len (frameChecksum buf len pktType bytes)) pktType ++
        (bytes ++ padding) := by
  rw [truthful, header_and_bytes, checksum_written]
  simp only [frameChecksum, sentHeader]

theorem form_zcopy {buf : TxBuf} (sendable : Sendable buf) (zcopy : buf.payloadZcopy = true) :
    Carries (formTxBuffer buf)
      (sentHeader buf buf.payloadLen (frameChecksum buf buf.payloadLen 0 buf.bytes)) 0 buf.bytes := by
  have bytes : buf.bytes = (buf.payload.drop payloadHeaderSize).take buf.payloadLen.toNat := by
    simp [TxBuf.bytes, zcopy]
  have body := List.take_append_drop buf.payloadLen.toNat (buf.payload.drop payloadHeaderSize)
  have split := List.take_append_drop payloadHeaderSize buf.payload
  rw [sendable.zeroed zcopy, ← body, ← bytes] at split
  have formed : formTxBuffer buf =
      hostHeader (sentHeader buf buf.payloadLen (frameChecksum buf buf.payloadLen 0 buf.bytes)) 0 ++
        (buf.bytes ++ (buf.payload.drop payloadHeaderSize).drop buf.payloadLen.toNat) := by
    simp only [formTxBuffer, zcopy, if_true, Bool.not_true, Bool.false_eq_true, and_false, if_false]
    rw [← split, header_written, checksum_put sendable.filled.symm, split]
  rw [formed]
  exact carries_sent sendable.filled.symm

theorem blank_buffer : List.replicate maxSpiBufferSize (0 : UInt8) =
    blankHeader ++ List.replicate maxPayloadSize 0 := by
  rw [blankHeader, List.replicate_append_replicate]
  rfl

theorem form_copied {buf : TxBuf} (sendable : Sendable buf) (copied : buf.payloadZcopy = false)
    (other : buf.ifType ≠ espHciIf) :
    Carries (formTxBuffer buf)
      (sentHeader buf buf.payloadLen (frameChecksum buf buf.payloadLen 0 buf.bytes)) 0 buf.bytes := by
  obtain ⟨_, fits⟩ := sendable_len sendable
  have not_hci : ¬ buf.ifType.toNat % 16 = espHciIf.toNat := by
    rw [interface_kept sendable]
    exact fun same => other (UInt8.toNat_inj.mp same)
  have bytes : buf.payload.take (min buf.payloadLen.toNat maxPayloadSize) = buf.bytes := by
    rw [Nat.min_eq_left fits]
    simp [TxBuf.bytes, copied]
  have formed : formTxBuffer buf =
      hostHeader (sentHeader buf buf.payloadLen (frameChecksum buf buf.payloadLen 0 buf.bytes)) 0 ++
        (buf.bytes ++ (List.replicate maxPayloadSize 0).drop buf.bytes.length) := by
    simp only [formTxBuffer, copied, not_hci, Bool.false_eq_true, false_and, if_false, bytes,
      blank_buffer]
    rw [header_written, payload_written, checksum_put sendable.filled.symm]
  rw [formed]
  exact carries_sent sendable.filled.symm

theorem form_hci {buf : TxBuf} (sendable : Sendable buf) (hci : buf.ifType = espHciIf) :
    ∃ first rest, buf.bytes = first :: rest ∧
      Carries (formTxBuffer buf)
        (sentHeader buf (buf.payloadLen - 1) (frameChecksum buf (buf.payloadLen - 1) first rest))
        first rest := by
  obtain ⟨copied, two⟩ := sendable.hci hci
  have is_hci : buf.ifType.toNat % 16 = espHciIf.toNat := by
    rw [interface_kept sendable, hci]
  have shorter : (buf.payloadLen - 1).toNat = buf.payloadLen.toNat - 1 := by
    rw [UInt16.toNat_sub_of_le _ _ (UInt16.le_iff_toNat_le.mpr (by rw [UInt16.toNat_one]; omega)),
      UInt16.toNat_one]
  have bytes : buf.bytes = buf.payload.take buf.payloadLen.toNat := by simp [TxBuf.bytes, copied]
  have filled := sendable.filled
  cases source : buf.payload with
  | nil =>
      rw [bytes, source, List.take_nil, List.length_nil] at filled
      omega
  | cons first behind =>
      have later : buf.payloadLen.toNat = (buf.payloadLen - 1).toNat + 1 := by omega
      have cut : buf.bytes = first :: behind.take (buf.payloadLen - 1).toNat := by
        rw [bytes, source, later, List.take_succ_cons]
      have truthful : (buf.payloadLen - 1).toNat = (behind.take (buf.payloadLen - 1).toNat).length := by
        rw [cut, List.length_cons] at filled
        omega
      refine ⟨first, behind.take (buf.payloadLen - 1).toNat, cut, ?_⟩
      have formed : formTxBuffer buf =
          hostHeader (sentHeader buf (buf.payloadLen - 1)
            (frameChecksum buf (buf.payloadLen - 1) first (behind.take (buf.payloadLen - 1).toNat)))
            first ++ (behind.take (buf.payloadLen - 1).toNat ++
              (List.replicate maxPayloadSize 0).drop
                (behind.take (buf.payloadLen - 1).toNat).length) := by
        simp only [formTxBuffer, copied, is_hci, Bool.false_eq_true, Bool.not_false, and_self,
          if_true, if_false, source, List.getD_cons_zero, List.drop_succ_cons, List.drop_zero,
          blank_buffer]
        rw [← is_hci, header_written, pktType_written, len_written, payload_written,
          checksum_put truthful]
      rw [formed]
      exact carries_sent truthful

theorem carries_onBus {txbuff : List UInt8} {header : PayloadHeader} {pktType : UInt8}
    {bytes : List UInt8} (carries : Carries txbuff header pktType bytes)
    (fits : bytes.length ≤ maxPayloadSize) : Carries (onBus txbuff) header pktType bytes := by
  obtain ⟨padding, shape⟩ := carries.shape
  have front : maxSpiBufferSize = (hostHeader header pktType).length + maxPayloadSize := rfl
  have moved : onBus txbuff =
      hostHeader header pktType ++ (bytes ++ padding.take (maxPayloadSize - bytes.length)) := by
    rw [onBus, shape, front, List.take_length_add_append, List.take_append,
      List.take_of_length_le fits]
  exact { carries with shape := ⟨_, moved⟩ }

theorem decode_hostHeader {header : PayloadHeader} {pktType : UInt8} (rest : List UInt8)
    (ifType : header.ifType.toNat < 16) (ifNum : header.ifNum.toNat < 16)
    (throttle : header.throttleCmd.toNat < 4) :
    decodeHeader (hostHeader header pktType ++ rest) = header := by
  have same : decodeHeader (hostHeader header pktType ++ rest) =
      decodeHeader (header.encode ++ rest) := rfl
  rw [same, decodeHeader_encode header rest ifType ifNum throttle]

theorem zeroed_hostHeader (header : PayloadHeader) (pktType : UInt8) (rest : List UInt8) :
    ((hostHeader header pktType ++ rest).set 6 0).set 7 0 =
      hostHeader { header with checksum := 0 } pktType ++ rest := by
  simp [hostHeader, PayloadHeader.encode, lowByte, highByte]

/-- The slave accepts a truthful buffer, and queues it with the checksum taken out. -/
theorem processSpiRx_carried {rxbuff : List UInt8} {header : PayloadHeader} {pktType : UInt8}
    {bytes : List UInt8} (carries : Carries rxbuff header pktType bytes) (positive : bytes ≠ [])
    (fits : bytes.length ≤ maxPayloadSize) (ifType : header.ifType.toNat < 16)
    (ifNum : header.ifNum.toNat < 16) (throttle : header.throttleCmd.toNat < 4) :
    ∃ got padding, processSpiRx rxbuff = some got ∧ got.ifType = header.ifType ∧
      got.ifNum = header.ifNum ∧
      got.payload = hostHeader { header with checksum := 0 } pktType ++ (bytes ++ padding) := by
  obtain ⟨padding, shape⟩ := carries.shape
  have decoded := @decode_hostHeader header pktType (bytes ++ padding) ifType ifNum throttle
  have some_bytes : ¬ bytes.length = 0 := fun none => positive (List.length_eq_zero_iff.mp none)
  have inside : ¬ bytes.length + payloadHeaderSize > maxSpiBufferSize := by
    simp only [maxPayloadSize, payloadHeaderSize, maxSpiBufferSize] at *
    omega
  have summed := header_and_bytes { header with checksum := 0 } pktType bytes padding
  rw [Nat.add_comm] at summed
  have checked := carries.checksum.symm
  refine ⟨{ ifType := header.ifType, ifNum := header.ifNum,
            payload := hostHeader { header with checksum := 0 } pktType ++ (bytes ++ padding),
            payloadLen := UInt16.ofNat (bytes.length + payloadHeaderSize) }, padding, ?_, rfl, rfl, rfl⟩
  simp only [processSpiRx, shape, decoded, carries.len, carries.offset, some_bytes, inside,
    zeroed_hostHeader, summed, checked, if_true, if_false]

section Consumers
variable {header : PayloadHeader} {pktType : UInt8} {bytes padding : List UInt8}

theorem packet_bytes (len : header.len.toNat = bytes.length) :
    ((hostHeader header pktType ++ (bytes ++ padding)).drop payloadHeaderSize).take
      header.len.toNat = bytes := by
  rw [List.drop_left' hostHeader_length, List.take_left' len.symm]

/-- `payload--` steps back onto the last byte of the header. -/
theorem hci_bytes (len : header.len.toNat = bytes.length) (fits : bytes.length ≤ maxPayloadSize) :
    processHciRxPkt (hostHeader header pktType ++ (bytes ++ padding)) payloadHeaderSize header.len =
      pktType :: bytes := by
  have longer : (header.len + 1).toNat = bytes.length + 1 := by
    have bound : bytes.length + 1 < 65536 := Nat.lt_of_le_of_lt (Nat.succ_le_succ fits) (by decide)
    rw [UInt16.toNat_add, len, UInt16.toNat_one, Nat.mod_eq_of_lt bound]
  have last : (hostHeader header pktType ++ (bytes ++ padding)).drop (payloadHeaderSize - 1) =
      pktType :: (bytes ++ padding) := rfl
  rw [processHciRxPkt, last, longer, List.take_succ_cons, List.take_left' rfl]

end Consumers

theorem consumer_hci {stationConnected softapStarted : Bool} {ifType : UInt8}
    (consumer : rxConsumer stationConnected softapStarted ifType = some .hci) :
    ifType = espHciIf := by
  unfold rxConsumer at consumer
  repeat' split at consumer
  all_goals first | assumption | cases consumer

theorem consumer_of_hci (stationConnected softapStarted : Bool) :
    rxConsumer stationConnected softapStarted espHciIf = some .hci := rfl

theorem small_nibble {byte : UInt8} (small : byte.toNat < 16) :
    UInt8.ofNat (byte.toNat % 16) = byte := by
  rw [Nat.mod_eq_of_lt small, UInt8.ofNat_toNat]

/-- What the consumers of the slave read off a buffer. -/
theorem consumed {got : SlaveBuf} {header : PayloadHeader} {pktType : UInt8}
    {bytes padding : List UInt8} (payload : got.payload = hostHeader header pktType ++ (bytes ++ padding))
    (len : header.len.toNat = bytes.length) (offset : header.offset.toNat = payloadHeaderSize)
    (fits : bytes.length ≤ maxPayloadSize) (ifType : header.ifType.toNat < 16)
    (ifNum : header.ifNum.toNat < 16) (throttle : header.throttleCmd.toNat < 4)
    (stationConnected softapStarted : Bool) :
    processRxPkt stationConnected softapStarted got =
      (rxConsumer stationConnected softapStarted got.ifType).map fun consumer =>
        (consumer, if consumer = .hci then pktType :: bytes else bytes) := by
  have decoded := @decode_hostHeader header pktType (bytes ++ padding) ifType ifNum throttle
  rw [processRxPkt]
  cases rxConsumer stationConnected softapStarted got.ifType with
  | none => rfl
  | some consumer =>
      simp only [payload, decoded, offset, Option.map_some]
      cases consumer
      case hci => rw [hci_bytes len fits, if_pos rfl]
      all_goals simp only [packet_bytes len, reduceCtorEq, if_false]

theorem carried_delivered {buf : TxBuf} {len checksum : UInt16} {pktType : UInt8}
    {bytes : List UInt8} (sendable : Sendable buf)
    (carries : Carries (formTxBuffer buf) (sentHeader buf len checksum) pktType bytes)
    (positive : bytes ≠ []) (fits : bytes.length ≤ maxPayloadSize) :
    ∃ got, processSpiRx (onBus (formTxBuffer buf)) = some got ∧ got.ifType = buf.ifType ∧
      got.ifNum = buf.ifNum ∧
      ∀ stationConnected softapStarted,
        processRxPkt stationConnected softapStarted got =
          (rxConsumer stationConnected softapStarted buf.ifType).map fun consumer =>
            (consumer, if consumer = .hci then pktType :: bytes else bytes) := by
  have small : buf.ifType.toNat < 16 := Nat.lt_trans sendable.ifType (by decide)
  have ifType : (sentHeader buf len checksum).ifType = buf.ifType := small_nibble small
  have ifNum : (sentHeader buf len checksum).ifNum = buf.ifNum := small_nibble sendable.ifNum
  have lowType : (sentHeader buf len checksum).ifType.toNat < 16 := by rwa [ifType]
  have lowNum : (sentHeader buf len checksum).ifNum.toNat < 16 := by
    rw [ifNum]
    exact sendable.ifNum
  obtain ⟨got, padding, accepted, gotType, gotNum, payload⟩ :=
    processSpiRx_carried (carries_onBus carries fits) positive fits lowType lowNum
      (Nat.zero_lt_succ 3)
  rw [ifType] at gotType
  refine ⟨got, accepted, gotType, gotNum.trans ifNum, ?_⟩
  intro stationConnected softapStarted
  rw [consumed payload carries.len carries.offset fits lowType lowNum (Nat.zero_lt_succ 3), gotType]

/-- Every frame the host may send reaches the consumer of its interface as it was. -/
theorem host_frame_round_trip (buf : TxBuf) (sendable : Sendable buf) :
    ∃ got, processSpiRx (onBus (formTxBuffer buf)) = some got ∧ got.ifType = buf.ifType ∧
      got.ifNum = buf.ifNum ∧
      ∀ stationConnected softapStarted,
        processRxPkt stationConnected softapStarted got =
          (rxConsumer stationConnected softapStarted buf.ifType).map fun consumer =>
            (consumer, buf.bytes) := by
  obtain ⟨positive, fits⟩ := sendable_len sendable
  have filled := sendable.filled
  by_cases hci : buf.ifType = espHciIf
  · obtain ⟨first, rest, bytes, carries⟩ := form_hci sendable hci
    have length : rest.length + 1 = buf.payloadLen.toNat := by
      rw [← filled, bytes, List.length_cons]
    have two := (sendable.hci hci).2
    have some_bytes : rest ≠ [] := by
      rintro rfl
      simp only [List.length_nil] at length
      omega
    obtain ⟨got, accepted, gotType, gotNum, delivered⟩ :=
      carried_delivered sendable carries some_bytes (by omega)
    refine ⟨got, accepted, gotType, gotNum, ?_⟩
    intro stationConnected softapStarted
    rw [delivered, hci, consumer_of_hci, bytes]
    rfl
  · have carries : Carries (formTxBuffer buf)
        (sentHeader buf buf.payloadLen (frameChecksum buf buf.payloadLen 0 buf.bytes)) 0 buf.bytes := by
      cases copied : buf.payloadZcopy with
      | true => exact form_zcopy sendable copied
      | false => exact form_copied sendable copied hci
    have some_bytes : buf.bytes ≠ [] := by
      intro none
      rw [none, List.length_nil] at filled
      omega
    obtain ⟨got, accepted, gotType, gotNum, delivered⟩ :=
      carried_delivered sendable carries some_bytes (by omega)
    refine ⟨got, accepted, gotType, gotNum, ?_⟩
    intro stationConnected softapStarted
    rw [delivered]
    cases reached : rxConsumer stationConnected softapStarted buf.ifType with
    | none => rfl
    | some consumer =>
        have other : consumer ≠ .hci := by
          rintro rfl
          exact hci (consumer_hci reached)
        rw [Option.map_some, Option.map_some, if_neg other]

def hciCommand : TxBuf where
  ifType := espHciIf
  ifNum := 3
  payloadZcopy := false
  payloadLen := 4
  payload := [1, 3, 12, 0]

theorem hciCommand_sendable : Sendable hciCommand where
  ifType := by decide
  ifNum := by decide
  accepted := by decide
  filled := by decide
  zeroed zcopy := by cases zcopy
  hci _ := ⟨rfl, by decide⟩

theorem host_frame_round_trip_hci :
    ∃ got, processSpiRx (onBus (formTxBuffer hciCommand)) = some got ∧ got.ifType = espHciIf ∧
      got.ifNum = 3 ∧ processRxPkt false false got = some (.hci, [1, 3, 12, 0]) := by
  obtain ⟨got, accepted, gotType, gotNum, delivered⟩ :=
    host_frame_round_trip hciCommand hciCommand_sendable
  exact ⟨got, accepted, gotType, gotNum, delivered false false⟩

end EspHosted.HostFrames

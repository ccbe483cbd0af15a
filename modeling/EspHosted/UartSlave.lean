import EspHosted.TxFrames
import EspHosted.UartReceive

/-!
The slave's end of the UART, slave/main/uart_slave_api.c: `h_uart_write` sends a header and as
many bytes as it says, and a round of `uart_rx_task` takes one frame off the wire, into a
scratch buffer first. `streamAnswers` are the answers of a UART that delivers. A frame of one
side is what the receiving round of the other side takes.
-/

namespace EspHosted.UartSlave
open SpiFrames HostFrames RxPackets TxFrames UartReceive

/-- The header that `h_uart_write` fills in, with its checksum still 0. -/
def hUartHeader (wifiFlowCtrlEn : UInt8) (buf : IfaceBuf) : PayloadHeader where
  ifType := buf.ifType
  ifNum := buf.ifNum
  flags := buf.flag
  len := buf.payloadLen
  offset := UInt16.ofNat payloadHeaderSize
  checksum := 0
  seqNum := buf.seqNum
  throttleCmd := wifiFlowCtrlEn

def summed (checksum : Bool) (header : PayloadHeader) (bytes : List UInt8) : PayloadHeader :=
  if checksum then { header with checksum := computeChecksum (header.encode ++ bytes) } else header

/-- The bytes handed to `uart_write_bytes`; `found` is whether there is a buffer for them. -/
def hUartWrite (checksum found : Bool) (wifiFlowCtrlEn : UInt8) (buf : IfaceBuf) :
    Option (List UInt8) :=
  if wifiFlowCtrlEn = 0 ∧ (buf.payloadLen = 0 ∨ buf.payload = []) then none
  else if !found then none
  else some ((summed checksum (hUartHeader wifiFlowCtrlEn buf) buf.bytes).encode ++ buf.bytes)

/-- `taken` counts the bytes that came off the wire. -/
structure RxRound where
  scratch : List UInt8
  taken : Nat
  queued : Option SlaveBuf

/-- The part of a round behind the two reads. -/
def queueRound (config : RxConfig) (scratch : List UInt8) (taken totalLen : Nat) : RxRound :=
  let rxChecksum := (decodeHeader scratch).checksum
  let scratch := if config.checksum then clearChecksum scratch else scratch
  if config.checksum ∧ computeChecksum (scratch.take totalLen) ≠ rxChecksum then
    ⟨scratch, taken, none⟩
  else
    let header := decodeHeader scratch
    let buf := putAt (List.replicate config.bufferSize 0) 0 (scratch.take totalLen)
    ⟨scratch, taken,
      some { ifType := header.ifType, ifNum := header.ifNum, payload := buf,
             payloadLen := UInt16.ofNat totalLen }⟩

/-- A round of `uart_rx_task`. -/
def rxRound (config : RxConfig) (scratch : List UInt8) (answers : Answers) : RxRound :=
  let header := answers.header
  let scratch := putAt scratch 0 header.bytes
  if header.bytesRead.toUInt32 < 12 then ⟨scratch, header.bytes.length, none⟩
  else
    let len := (decodeHeader scratch).len
    let offset := (decodeHeader scratch).offset
    let totalLen := len.toNat + payloadHeaderSize
    if totalLen > config.bufferSize then ⟨scratch, header.bytes.length, none⟩
    else
      let payload := answers.payload len
      let scratch := putAt scratch offset.toNat payload.bytes
      let taken := header.bytes.length + payload.bytes.length
      if payload.bytesRead.toInt < len.toNat then ⟨scratch, taken, none⟩
      else queueRound config scratch taken totalLen

/-! A frame that a round takes whole. -/

/-- A header with the payload it announces, which the buffers of both sides have room for. -/
structure Frame (config : RxConfig) where
  header : List UInt8
  payload : List UInt8
  whole : header.length = payloadHeaderSize
  len : (decodeHeader header).len.toNat = payload.length
  offset : (decodeHeader header).offset.toNat = payloadHeaderSize
  fits : payload.length ≤ config.maxPayloadSize
  right : config.checksum = true →
    computeChecksum (clearChecksum header ++ payload) = (decodeHeader header).checksum

variable {config : RxConfig}

def Frame.bytes (frame : Frame config) : List UInt8 := frame.header ++ frame.payload

def Frame.checkedHeader (frame : Frame config) : List UInt8 :=
  if config.checksum then clearChecksum frame.header else frame.header

theorem Frame.length (frame : Frame config) :
    frame.bytes.length = payloadHeaderSize + frame.payload.length := by
  rw [Frame.bytes, List.length_append, frame.whole]

theorem Frame.answers (frame : Frame config) (rest : List UInt8) :
    (streamAnswers (frame.bytes ++ rest)).header.bytes = frame.header ∧
      ¬(streamAnswers (frame.bytes ++ rest)).header.bytesRead.toUInt32 < 12 ∧
      ((streamAnswers (frame.bytes ++ rest)).payload (decodeHeader frame.header).len).bytes =
        frame.payload ∧
      ((streamAnswers (frame.bytes ++ rest)).payload
        (decodeHeader frame.header).len).bytesRead.toInt = (decodeHeader frame.header).len.toNat := by
  have stream : frame.bytes ++ rest = frame.header ++ (frame.payload ++ rest) :=
    List.append_assoc _ _ _
  have behind : (frame.bytes ++ rest).drop payloadHeaderSize = frame.payload ++ rest := by
    rw [stream, List.drop_left' frame.whole]
  obtain ⟨header, headerRead⟩ := fullRead_front
    (show frame.header.length = (12 : UInt16).toNat from frame.whole) (frame.payload ++ rest)
  obtain ⟨payload, payloadRead⟩ := fullRead_front frame.len.symm rest
  rw [streamAnswers]
  dsimp only
  rw [behind, stream]
  refine ⟨header, ?_, payload, payloadRead⟩
  rw [unsigned_below, headerRead]
  decide

/-- The buffer that a round queues of a frame. -/
def Frame.queued (frame : Frame config) : SlaveBuf where
  ifType := (decodeHeader frame.header).ifType
  ifNum := (decodeHeader frame.header).ifNum
  payload := putAt (List.replicate config.bufferSize 0) 0 (frame.checkedHeader ++ frame.payload)
  payloadLen := UInt16.ofNat (frame.payload.length + payloadHeaderSize)

theorem Frame.checkedHeader_length (frame : Frame config) :
    frame.checkedHeader.length = payloadHeaderSize := by
  rw [Frame.checkedHeader]
  split
  · rw [clearChecksum_length, frame.whole]
  · exact frame.whole

theorem Frame.checked_fields (frame : Frame config) :
    (decodeHeader frame.checkedHeader).ifType = (decodeHeader frame.header).ifType ∧
      (decodeHeader frame.checkedHeader).ifNum = (decodeHeader frame.header).ifNum := by
  rw [Frame.checkedHeader]
  split
  · exact ⟨(cleared_fields frame.header).1, (cleared_fields frame.header).2.1⟩
  · exact ⟨rfl, rfl⟩

theorem queueRound_frame (frame : Frame config) (behind : List UInt8) (taken : Nat) :
    queueRound config (frame.bytes ++ behind) taken (frame.payload.length + payloadHeaderSize) =
      ⟨frame.checkedHeader ++ (frame.payload ++ behind), taken, some frame.queued⟩ := by
  have stored : frame.bytes ++ behind = frame.header ++ (frame.payload ++ behind) :=
    List.append_assoc _ _ _
  have checked : (if config.checksum then clearChecksum (frame.bytes ++ behind)
      else frame.bytes ++ behind) = frame.checkedHeader ++ (frame.payload ++ behind) := by
    rw [stored, Frame.checkedHeader]
    split
    · exact clearChecksum_append frame.whole _
    · rfl
  have front : (frame.checkedHeader ++ (frame.payload ++ behind)).take
      (frame.payload.length + payloadHeaderSize) = frame.checkedHeader ++ frame.payload := by
    rw [← List.append_assoc]
    apply List.take_left'
    rw [List.length_append, frame.checkedHeader_length, Nat.add_comm]
  have sums : ¬(config.checksum = true ∧
      computeChecksum (frame.checkedHeader ++ frame.payload) ≠ (decodeHeader frame.header).checksum) := by
    rintro ⟨built, wrong⟩
    rw [Frame.checkedHeader, if_pos built] at wrong
    exact wrong (frame.right built)
  obtain ⟨ifType, ifNum⟩ := frame.checked_fields
  rw [queueRound]
  dsimp only
  rw [checked, front, stored, decodeHeader_append frame.whole, if_neg sums,
    decodeHeader_append frame.checkedHeader_length, ifType, ifNum]
  rfl

/-- A round takes a frame off the wire and queues it. -/
theorem rxRound_frame (frame : Frame config) (scratch rest : List UInt8) :
    (rxRound config scratch (streamAnswers (frame.bytes ++ rest))).taken = frame.bytes.length ∧
      (rxRound config scratch (streamAnswers (frame.bytes ++ rest))).queued = some frame.queued := by
  obtain ⟨header, read, payload, payloadRead⟩ := frame.answers rest
  have room : ¬(decodeHeader frame.header).len.toNat + payloadHeaderSize > config.bufferSize := by
    have room := config.room
    have fits := frame.fits
    have len := frame.len
    omega
  have complete : ¬((streamAnswers (frame.bytes ++ rest)).payload
      (decodeHeader frame.header).len).bytesRead.toInt < (decodeHeader frame.header).len.toNat := by
    omega
  have stored : putAt (putAt scratch 0 frame.header) payloadHeaderSize frame.payload =
      frame.bytes ++ (scratch.drop frame.header.length).drop frame.payload.length := by
    rw [putAt_zero, putAt_append frame.whole, ← List.append_assoc]
    rfl
  rw [rxRound]
  dsimp only
  rw [if_neg read, header, decode_stored frame.whole, if_neg room, if_neg complete, payload,
    frame.offset, frame.len, stored, queueRound_frame, frame.length, frame.whole]
  exact ⟨rfl, rfl⟩

/-! A frame of the host. -/

/-- What the callers of `esp_hosted_tx` hand in: the header in front of an uncopied payload is
clear, and the payload of an HCI packet is copied. -/
structure Handed (buf : TxBuf) : Prop where
  ifType : buf.ifType.toNat < espMaxIf.toNat
  ifNum : buf.ifNum.toNat < 16
  zeroed : buf.payloadZcopy = true → buf.payload.take payloadHeaderSize = blankHeader
  copied : buf.ifType = espHciIf → buf.payloadZcopy = false

instance (buf : TxBuf) : Decidable (Handed buf) :=
  decidable_of_iff
    (buf.ifType.toNat < espMaxIf.toNat ∧ buf.ifNum.toNat < 16 ∧
      (buf.payloadZcopy = true → buf.payload.take payloadHeaderSize = blankHeader) ∧
      (buf.ifType = espHciIf → buf.payloadZcopy = false))
    ⟨fun ⟨ifType, ifNum, zeroed, copied⟩ => ⟨ifType, ifNum, zeroed, copied⟩,
      fun ⟨ifType, ifNum, zeroed, copied⟩ => ⟨ifType, ifNum, zeroed, copied⟩⟩

/-- The frame that the write task of the host puts on the wire. -/
def hostFrame (message : Message config) (behind : List UInt8) : List UInt8 :=
  let buf := message.frame.buf
  let formed := formFrame config buf buf.payloadLen (buf.payload ++ behind)
  formed.sendbuf.take (payloadHeaderSize + formed.len.toNat)

/-- The frame before its checksum. -/
def unsummed (config : RxConfig) (buf : TxBuf) (memory : List UInt8) : Formed :=
  let sendbuf := if buf.payloadZcopy then memory else List.replicate config.bufferSize 0
  formPayload buf buf.payloadLen memory (formHeader buf buf.payloadLen sendbuf)

/-- The last thing the task does to a frame. -/
def addChecksum (config : RxConfig) (formed : Formed) : Formed :=
  if config.checksum then
    let checksum := computeChecksum (formed.sendbuf.take (payloadHeaderSize + formed.len.toNat))
    { formed with sendbuf := putAt formed.sendbuf 6 [lowByte checksum, highByte checksum] }
  else formed

theorem formFrame_unsummed (config : RxConfig) (buf : TxBuf) (memory : List UInt8) :
    formFrame config buf buf.payloadLen memory = addChecksum config (unsummed config buf memory) :=
  rfl

theorem unsummed_written (message : Message config) (behind : List UInt8) :
    Written message.frame.buf
      (unsummed config message.frame.buf (message.frame.buf.payload ++ behind)) :=
  @frame_written { config with checksum := false } ⟨message.request, message.accepted⟩ behind

/-- The task leaves the place of the checksum as it was. -/
theorem formed_keeps (buf : TxBuf) (len : UInt16) (memory : List UInt8) {front body : List UInt8}
    (whole : front.length = payloadHeaderSize) :
    (formPayload buf len memory (formHeader buf len (front ++ body))).sendbuf.getD 6 0 =
        front.getD 6 0 ∧
      (formPayload buf len memory (formHeader buf len (front ++ body))).sendbuf.getD 7 0 =
        front.getD 7 0 := by
  match front, whole with
  | [_, _, _, _, _, _, low, high, _, _, throttle, pktType], _ =>
      rw [formPayload]
      split
      · exact ⟨rfl, rfl⟩
      · split
        · exact ⟨rfl, rfl⟩
        · exact ⟨rfl, rfl⟩

theorem unsummed_clear {buf : TxBuf} (handed : Handed buf) (behind : List UInt8) :
    (unsummed config buf (buf.payload ++ behind)).sendbuf.getD 6 0 = 0 ∧
      (unsummed config buf (buf.payload ++ behind)).sendbuf.getD 7 0 = 0 := by
  rw [unsummed]
  cases copied : buf.payloadZcopy with
  | true =>
      have split : buf.payload ++ behind =
          blankHeader ++ (buf.payload.drop payloadHeaderSize ++ behind) := by
        rw [← handed.zeroed copied, ← List.append_assoc, List.take_append_drop]
      rw [if_pos rfl, split]
      exact formed_keeps buf _ _ rfl
  | false =>
      rw [if_neg Bool.false_ne_true, blank_sendbuf]
      exact formed_keeps buf _ _ rfl

/-- The frame of a message, as the slave takes it. -/
structure Sends (message : Message config) (behind : List UInt8) (frame : Frame config) : Prop where
  bytes : hostFrame message behind = frame.bytes
  ifType : (decodeHeader frame.header).ifType.toNat = message.frame.buf.ifType.toNat % 16
  ifNum : (decodeHeader frame.header).ifNum.toNat = message.frame.buf.ifNum.toNat % 16
  carries : (if byteInHeader message.frame.buf then frame.header.getD 11 0 :: frame.payload
    else frame.payload) = message.frame.buf.bytes

/-- A header with the bytes it announces, behind which a buffer may go on. -/
theorem take_frame {buf : TxBuf} {len : UInt16} {low high throttle pktType : UInt8}
    {carried : List UInt8} (length : carried.length = len.toNat) (padding : List UInt8) :
    (txHeader buf len low high throttle pktType ++ (carried ++ padding)).take
        (payloadHeaderSize + len.toNat) =
      txHeader buf len low high throttle pktType ++ carried := by
  rw [← List.append_assoc]
  apply List.take_left'
  rw [List.length_append, txHeader_length, length]

theorem sends_written {message : Message config} {behind carried : List UInt8} {len : UInt16}
    {low high throttle pktType : UInt8}
    (sent : hostFrame message behind =
      txHeader message.frame.buf len low high throttle pktType ++ carried)
    (length : carried.length = len.toNat) (small : carried.length ≤ config.maxPayloadSize)
    (bytes : (if byteInHeader message.frame.buf then pktType :: carried else carried) =
      message.frame.buf.bytes)
    (right : config.checksum = true →
      computeChecksum (txHeader message.frame.buf len 0 0 throttle pktType ++ carried) =
        le16 low high) :
    ∃ frame : Frame config, Sends message behind frame := by
  have ifType := @decode_ifType message.frame.buf len low high throttle pktType []
  have ifNum := @decode_ifNum message.frame.buf len low high throttle pktType []
  rw [List.append_nil] at ifType ifNum
  exact ⟨{
    header := txHeader message.frame.buf len low high throttle pktType
    payload := carried
    whole := txHeader_length
    len := (congrArg UInt16.toNat (le16_bytes len)).trans length.symm
    offset := rfl
    fits := small
    right := right }, sent, ifType, ifNum, bytes⟩

theorem endingLen_le {buf : TxBuf} (positive : buf.payloadLen ≠ 0) :
    (SpiDriver.endingLen buf).toNat ≤ buf.payloadLen.toNat := by
  by_cases inHeader : byteInHeader buf
  · have least := pred_toNat positive
    rw [endingLen_inHeader positive inHeader]
    omega
  · rw [endingLen_whole inHeader]

theorem message_sends (message : Message config) (handed : Handed message.frame.buf)
    (behind : List UInt8) : ∃ frame : Frame config, Sends message behind frame := by
  obtain ⟨ending, low, high, throttle, pktType, carried, padding, sendbuf, length, bytes⟩ :=
    unsummed_written message behind
  obtain ⟨noLow, noHigh⟩ := @unsummed_clear config _ handed behind
  have sent : hostFrame message behind =
      (addChecksum config (unsummed config message.frame.buf
        (message.frame.buf.payload ++ behind))).sendbuf.take (payloadHeaderSize +
          (addChecksum config (unsummed config message.frame.buf
            (message.frame.buf.payload ++ behind))).len.toNat) := rfl
  generalize unsummed config message.frame.buf (message.frame.buf.payload ++ behind) = formed
    at sent ending sendbuf length noLow noHigh
  have small : carried.length ≤ config.maxPayloadSize := by
    rw [length, ending]
    exact Nat.le_trans (endingLen_le message.positive) message.fits
  rw [sendbuf] at noLow noHigh
  change low = 0 at noLow
  change high = 0 at noHigh
  subst noLow noHigh
  cases built : config.checksum with
  | true =>
      rw [addChecksum, if_pos built] at sent
      dsimp only at sent
      rw [sendbuf, put_checksum, take_frame length, take_frame length] at sent
      exact sends_written sent length small bytes fun _ => (le16_bytes _).symm
  | false =>
      rw [addChecksum, if_neg (Bool.eq_false_iff.mp built), sendbuf, take_frame length] at sent
      exact sends_written sent length small bytes fun summed => absurd summed (Bool.eq_false_iff.mp built)

/-- The slave gets the interface of a message, and its consumer the bytes. -/
structure Reaches (message : Message config) (got : SlaveBuf) : Prop where
  ifType : got.ifType = message.frame.buf.ifType
  ifNum : got.ifNum = message.frame.buf.ifNum
  consumed : ∀ stationConnected softapStarted,
    processRxPkt stationConnected softapStarted got =
      (rxConsumer stationConnected softapStarted message.frame.buf.ifType).map fun consumer =>
        (consumer, message.frame.buf.bytes)

theorem Frame.checked_extent (frame : Frame config) :
    (decodeHeader frame.checkedHeader).len = (decodeHeader frame.header).len ∧
      (decodeHeader frame.checkedHeader).offset = (decodeHeader frame.header).offset ∧
      frame.checkedHeader.getD 11 0 = frame.header.getD 11 0 := by
  rw [Frame.checkedHeader]
  split
  · have two := cleared_other frame.header (by decide : 2 ≠ 6) (by decide)
    have three := cleared_other frame.header (by decide : 3 ≠ 6) (by decide)
    have four := cleared_other frame.header (by decide : 4 ≠ 6) (by decide)
    have five := cleared_other frame.header (by decide : 5 ≠ 6) (by decide)
    exact ⟨congrArg₂ le16 two three, congrArg₂ le16 four five,
      cleared_other frame.header (by decide) (by decide)⟩
  · exact ⟨rfl, rfl, rfl⟩

theorem Frame.queued_payload (frame : Frame config) : ∃ rest,
    frame.queued.payload = frame.checkedHeader ++ (frame.payload ++ rest) := by
  refine ⟨(List.replicate config.bufferSize 0).drop
    (frame.checkedHeader ++ frame.payload).length, ?_⟩
  change putAt _ 0 (frame.checkedHeader ++ frame.payload) = _
  rw [putAt_zero, List.append_assoc]

theorem Frame.decode_queued (frame : Frame config) :
    (decodeHeader frame.queued.payload).len = (decodeHeader frame.header).len ∧
      (decodeHeader frame.queued.payload).offset.toNat = payloadHeaderSize := by
  obtain ⟨rest, stored⟩ := frame.queued_payload
  obtain ⟨len, offset, _⟩ := frame.checked_extent
  rw [stored, decodeHeader_append frame.checkedHeader_length, len, offset]
  exact ⟨rfl, frame.offset⟩

/-- The bytes behind the header. -/
theorem Frame.packet_bytes (frame : Frame config) :
    (frame.queued.payload.drop payloadHeaderSize).take (decodeHeader frame.header).len.toNat =
      frame.payload := by
  obtain ⟨rest, stored⟩ := frame.queued_payload
  rw [stored, List.drop_left' frame.checkedHeader_length, frame.len, List.take_left]

theorem last_byte {header : List UInt8} (whole : header.length = payloadHeaderSize)
    (rest : List UInt8) :
    (header ++ rest).drop (payloadHeaderSize - 1) = header.getD 11 0 :: rest := by
  match header, whole with
  | [_, _, _, _, _, _, _, _, _, _, _, last], _ => rfl

/-- The bytes from the last one of the header on. -/
theorem Frame.hci_bytes (frame : Frame config) (small : config.maxPayloadSize < 65535) :
    processHciRxPkt frame.queued.payload payloadHeaderSize (decodeHeader frame.header).len =
      frame.header.getD 11 0 :: frame.payload := by
  obtain ⟨rest, stored⟩ := frame.queued_payload
  obtain ⟨_, _, last⟩ := frame.checked_extent
  have longer : ((decodeHeader frame.header).len + 1).toNat = frame.payload.length + 1 := by
    have fits := frame.fits
    rw [UInt16.toNat_add, frame.len, UInt16.toNat_one]
    exact Nat.mod_eq_of_lt (by omega)
  rw [processHciRxPkt, longer, stored, last_byte frame.checkedHeader_length, last,
    List.take_succ_cons, List.take_left]

theorem nibble_same {small : UInt8} {got : UInt8} (fits : small.toNat < 16)
    (same : got.toNat = small.toNat % 16) : got = small := by
  apply UInt8.toNat_inj.mp
  rw [same, Nat.mod_eq_of_lt fits]

/-- What is queued of a message reaches its consumer. -/
theorem queued_reaches {message : Message config} {behind : List UInt8} {frame : Frame config}
    (handed : Handed message.frame.buf) (sends : Sends message behind frame)
    (small : config.maxPayloadSize < 65535) : Reaches message frame.queued := by
  have narrow : message.frame.buf.ifType.toNat < 16 := Nat.lt_trans handed.ifType (by decide)
  have ifType : frame.queued.ifType = message.frame.buf.ifType := nibble_same narrow sends.ifType
  have ifNum : frame.queued.ifNum = message.frame.buf.ifNum := nibble_same handed.ifNum sends.ifNum
  obtain ⟨len, offset⟩ := frame.decode_queued
  refine ⟨ifType, ifNum, ?_⟩
  intro stationConnected softapStarted
  have carries := sends.carries
  rw [processRxPkt, ifType, offset, len]
  cases found : rxConsumer stationConnected softapStarted message.frame.buf.ifType with
  | none => rfl
  | some consumer =>
      by_cases hci : message.frame.buf.ifType = espHciIf
      · have inHeader : byteInHeader message.frame.buf := ⟨by rw [hci]; rfl, handed.copied hci⟩
        rw [hci, consumer_of_hci] at found
        cases found
        rw [if_pos inHeader] at carries
        rw [← carries, ← frame.hci_bytes small]
        rfl
      · have whole : ¬byteInHeader message.frame.buf := by
          rintro ⟨nibble, _⟩
          rw [Nat.mod_eq_of_lt narrow] at nibble
          exact hci (UInt8.toNat_inj.mp nibble)
        have other : consumer ≠ .hci := by
          rintro rfl
          exact hci (consumer_hci found)
        rw [if_neg whole, ← frame.packet_bytes] at carries
        rw [← carries]
        cases consumer with
        | hci => exact absurd rfl other
        | staTx | apTx | serial | priv | test => rfl

/-! A frame of the slave. -/

/-- What the slave hands to `h_uart_write`: the interface and the throttle state fit their
fields, and a payload fits the buffers. -/
structure Offered (config : RxConfig) (wifiFlowCtrlEn : UInt8) (buf : IfaceBuf) : Prop where
  ifType : buf.ifType.toNat < 16
  ifNum : buf.ifNum.toNat < 16
  throttle : wifiFlowCtrlEn.toNat < 4
  filled : buf.Filled
  fits : buf.payloadLen.toNat ≤ config.maxPayloadSize

instance (config : RxConfig) (wifiFlowCtrlEn : UInt8) (buf : IfaceBuf) :
    Decidable (Offered config wifiFlowCtrlEn buf) :=
  decidable_of_iff
    (buf.ifType.toNat < 16 ∧ buf.ifNum.toNat < 16 ∧ wifiFlowCtrlEn.toNat < 4 ∧
      buf.payloadLen.toNat ≤ buf.payload.length ∧ buf.payloadLen.toNat ≤ config.maxPayloadSize)
    ⟨fun ⟨ifType, ifNum, throttle, filled, fits⟩ => ⟨ifType, ifNum, throttle, filled, fits⟩,
      fun ⟨ifType, ifNum, throttle, filled, fits⟩ => ⟨ifType, ifNum, throttle, filled, fits⟩⟩

/-- The header that goes out. -/
def sentHeader (checksum : Bool) (wifiFlowCtrlEn : UInt8) (buf : IfaceBuf) : PayloadHeader :=
  summed checksum (hUartHeader wifiFlowCtrlEn buf) buf.bytes

section Sending
variable {wifiFlowCtrlEn : UInt8} {buf : IfaceBuf}

theorem hUartWrite_some {checksum found : Bool} {bytes : List UInt8}
    (sent : hUartWrite checksum found wifiFlowCtrlEn buf = some bytes) :
    bytes = (sentHeader checksum wifiFlowCtrlEn buf).encode ++ buf.bytes := by
  obtain ⟨_, rest⟩ := Option.ite_none_left_eq_some.mp sent
  obtain ⟨_, same⟩ := Option.ite_none_left_eq_some.mp rest
  exact (Option.some.inj same).symm

theorem sent_decoded (checksum : Bool) (offered : Offered config wifiFlowCtrlEn buf) :
    decodeHeader (sentHeader checksum wifiFlowCtrlEn buf).encode =
      sentHeader checksum wifiFlowCtrlEn buf := by
  have fields : (sentHeader checksum wifiFlowCtrlEn buf).ifType = buf.ifType ∧
      (sentHeader checksum wifiFlowCtrlEn buf).ifNum = buf.ifNum ∧
      (sentHeader checksum wifiFlowCtrlEn buf).throttleCmd = wifiFlowCtrlEn := by
    rw [sentHeader, summed]
    split
    · exact ⟨rfl, rfl, rfl⟩
    · exact ⟨rfl, rfl, rfl⟩
  obtain ⟨ifType, ifNum, throttle⟩ := fields
  have decoded := decodeHeader_encode (sentHeader checksum wifiFlowCtrlEn buf) []
    (by rw [ifType]; exact offered.ifType) (by rw [ifNum]; exact offered.ifNum)
    (by rw [throttle]; exact offered.throttle)
  rw [List.append_nil] at decoded
  exact decoded

theorem sent_len (checksum : Bool) : (sentHeader checksum wifiFlowCtrlEn buf).len = buf.payloadLen ∧
    (sentHeader checksum wifiFlowCtrlEn buf).offset.toNat = payloadHeaderSize := by
  rw [sentHeader, summed]
  split
  · exact ⟨rfl, rfl⟩
  · exact ⟨rfl, rfl⟩

theorem clear_encode (header : PayloadHeader) :
    clearChecksum header.encode = { header with checksum := 0 }.encode := by
  have low : lowByte 0 = 0 := by decide
  have high : highByte 0 = 0 := by decide
  rw [PayloadHeader.encode, PayloadHeader.encode, low, high]
  rfl

theorem summed_checksum {header : PayloadHeader} (clear : header.checksum = 0)
    (bytes : List UInt8) :
    computeChecksum (clearChecksum (summed true header bytes).encode ++ bytes) =
      (summed true header bytes).checksum := by
  have same : ({ summed true header bytes with checksum := 0 } : PayloadHeader) = header := by
    rw [summed, if_pos rfl, ← clear]
  rw [clear_encode, same, summed, if_pos rfl]

/-- What goes out is a frame. -/
theorem write_frame (offered : Offered config wifiFlowCtrlEn buf) :
    ∃ frame : Frame config, frame.payload = buf.bytes ∧
      frame.header = (sentHeader config.checksum wifiFlowCtrlEn buf).encode := by
  have decoded := sent_decoded config.checksum offered
  obtain ⟨len, offset⟩ := @sent_len wifiFlowCtrlEn buf config.checksum
  have size := SpiFrames.bytes_length offered.filled
  refine ⟨{
    header := (sentHeader config.checksum wifiFlowCtrlEn buf).encode
    payload := buf.bytes
    whole := rfl
    len := by rw [decoded, len, size]
    offset := by rw [decoded, offset]
    fits := by rw [size]; exact offered.fits
    right := ?_ }, rfl, rfl⟩
  intro built
  rw [decoded, built]
  exact summed_checksum rfl _

/-- A frame with a payload is a packet for the host, and its checksum is right. -/
theorem Frame.packet (frame : Frame config) (positive : frame.payload ≠ []) :
    ∃ packet : Packet config, packet.valid = true ∧ packet.payload = frame.payload ∧
      packet.header = frame.header := by
  refine ⟨{
    header := frame.header
    payload := frame.payload
    headerLength := frame.whole
    len := frame.len
    offset := frame.offset
    positive := List.length_pos_iff.mpr positive
    fits := frame.fits }, ?_, rfl, rfl⟩
  rw [Packet.valid, Bool.or_eq_true]
  rcases Bool.eq_false_or_eq_true config.checksum with built | without
  · exact Or.inr (decide_eq_true (frame.right built))
  · exact Or.inl (congrArg not without)

/-- A frame without a payload comes off the wire, and nothing is queued. -/
theorem readRound_empty (frame : Frame config) (empty : frame.payload = [])
    (scratch rest : List UInt8) :
    (readRound config scratch (streamAnswers (frame.bytes ++ rest))).taken = frame.bytes.length ∧
      (readRound config scratch (streamAnswers (frame.bytes ++ rest))).queued = none := by
  obtain ⟨header, read, payload, payloadRead⟩ := frame.answers rest
  have noLen : (decodeHeader frame.header).len.toNat = 0 := by rw [frame.len, empty]; rfl
  have room : ¬(decodeHeader frame.header).len.toNat + payloadHeaderSize > config.bufferSize := by
    have room := config.room
    omega
  have complete : ¬((streamAnswers (frame.bytes ++ rest)).payload
      (decodeHeader frame.header).len).bytesRead.toInt < (decodeHeader frame.header).len.toNat := by
    omega
  have stored : (putAt (putAt scratch 0 frame.header) payloadHeaderSize frame.payload).take
      payloadHeaderSize = frame.header := by
    rw [putAt_zero, putAt_append frame.whole, List.take_left' frame.whole]
  have refused (behind : List UInt8) :
      isValidRxPacket config (frame.header ++ behind) = ⟨frame.header ++ behind, none⟩ := by
    have unfit : headerFits config (frame.header ++ behind) = false := by
      rw [Bool.eq_false_iff, ne_eq, headerFits_iff, decodeHeader_append frame.whole]
      omega
    rw [isValidRxPacket, unfit, if_neg Bool.false_ne_true]
  have buffer : putAt (List.replicate config.bufferSize 0) 0 frame.header =
      frame.header ++ (List.replicate config.bufferSize 0).drop frame.header.length :=
    putAt_zero _ frame.header
  rw [readRound]
  dsimp only
  rw [if_neg read, header, decode_stored frame.whole, if_neg room, if_neg complete, payload,
    frame.offset, noLen, Nat.zero_add, stored, buffer, refused, frame.length, frame.whole]
  exact ⟨rfl, rfl⟩

/-- The host gets the frame of a payload as it was. -/
structure Arrives (buf : IfaceBuf) (received : Received) : Prop where
  ifType : received.ifType = buf.ifType
  ifNum : received.ifNum = buf.ifNum
  flag : received.flag = buf.flag
  seqNum : received.seqNum = buf.seqNum
  payloadLen : received.payloadLen = buf.payloadLen
  payload : received.payload = buf.bytes

theorem sent_fields (checksum : Bool) :
    (sentHeader checksum wifiFlowCtrlEn buf).ifType = buf.ifType ∧
      (sentHeader checksum wifiFlowCtrlEn buf).ifNum = buf.ifNum ∧
      (sentHeader checksum wifiFlowCtrlEn buf).flags = buf.flag ∧
      (sentHeader checksum wifiFlowCtrlEn buf).seqNum = buf.seqNum := by
  rw [sentHeader, summed]
  split
  · exact ⟨rfl, rfl, rfl, rfl⟩
  · exact ⟨rfl, rfl, rfl, rfl⟩

theorem carries_arrives {packet : Packet config} {received : Received}
    (offered : Offered config wifiFlowCtrlEn buf) (payload : packet.payload = buf.bytes)
    (header : packet.header = (sentHeader config.checksum wifiFlowCtrlEn buf).encode)
    (carries : Carries received packet) : Arrives buf received := by
  have decoded := sent_decoded config.checksum offered
  rw [← header] at decoded
  obtain ⟨ifType, ifNum, flags, seqNum⟩ := @sent_fields wifiFlowCtrlEn buf config.checksum
  obtain ⟨len, _⟩ := @sent_len wifiFlowCtrlEn buf config.checksum
  exact {
    ifType := by rw [carries.ifType, decoded, ifType]
    ifNum := by rw [carries.ifNum, decoded, ifNum]
    flag := by rw [carries.flag, decoded, flags]
    seqNum := by rw [carries.seqNum, decoded, seqNum]
    payloadLen := by rw [carries.payloadLen, decoded, len]
    payload := by rw [carries.payload, payload] }

/-- A round of the host takes a frame of the slave off the wire; it queues what the frame
carries, and of a frame that only throttles nothing. -/
theorem readRound_write {found : Bool} {bytes : List UInt8}
    (offered : Offered config wifiFlowCtrlEn buf)
    (sent : hUartWrite config.checksum found wifiFlowCtrlEn buf = some bytes)
    (scratch rest : List UInt8) :
    (readRound config scratch (streamAnswers (bytes ++ rest))).taken = bytes.length ∧
      ((buf.payloadLen = 0 ∧
          (readRound config scratch (streamAnswers (bytes ++ rest))).queued = none) ∨
        (buf.payloadLen ≠ 0 ∧ ∃ received,
          (readRound config scratch (streamAnswers (bytes ++ rest))).queued = some received ∧
            Arrives buf received)) := by
  obtain ⟨frame, payload, header⟩ := write_frame offered
  have whole : frame.bytes = bytes := by rw [Frame.bytes, payload, header, hUartWrite_some sent]
  have size := SpiFrames.bytes_length offered.filled
  rw [← whole]
  by_cases empty : buf.payloadLen = 0
  · have nothing : frame.payload = [] := by
      apply List.eq_nil_of_length_eq_zero
      rw [payload, size, empty]
      rfl
    obtain ⟨taken, queued⟩ := readRound_empty frame nothing scratch rest
    exact ⟨taken, Or.inl ⟨empty, queued⟩⟩
  · have something : frame.payload ≠ [] := by
      intro nothing
      rw [← payload, nothing] at size
      exact empty (UInt16.toNat_inj.mp size.symm)
    obtain ⟨packet, valid, samePayload, sameHeader⟩ := frame.packet something
    have same : packet.bytes = frame.bytes := by
      rw [Packet.bytes, samePayload, sameHeader]
      rfl
    obtain ⟨taken, queued⟩ := round_packet packet scratch rest
    rw [same] at taken queued
    rw [List.filter_cons_of_pos valid, List.filter_nil] at queued
    refine ⟨taken, Or.inr ⟨empty, ?_⟩⟩
    cases got : (readRound config scratch (streamAnswers (frame.bytes ++ rest))).queued with
    | none =>
        rw [got] at queued
        cases queued
    | some received =>
        rw [got] at queued
        cases queued with
        | cons carries _ =>
            exact ⟨received, rfl, carries_arrives offered (samePayload.trans payload)
              (sameHeader.trans header) carries⟩

end Sending

end EspHosted.UartSlave

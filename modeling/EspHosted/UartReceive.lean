import EspHosted.HostFrames
import EspHosted.RxPackets
import Mathlib.Data.List.Forall2

/-!
`h_uart_read_task`. A round reads a header, then as many bytes as its `len` says to where its
`offset` says, and copies the packet to a buffer of its own. Every round takes one frame off the
wire whether it is accepted or not. A put waits for room in the queue; `USE_DATA_THROTTLING` is
0, so `throttle_cmd` is not looked at.
-/

namespace EspHosted.UartReceive
open SpiFrames HostFrames RxPackets

/-- What `_h_uart_read` stored when it was asked for `size` bytes, and what it returned: the
number of bytes, or an error. -/
structure Got (size : UInt16) where
  bytes : List UInt8
  bytesRead : Int32
  within : bytes.length ≤ size.toNat
  counted : 0 ≤ bytesRead.toInt → bytesRead.toInt = bytes.length

/-- The answers to the two reads of a round. -/
structure Answers where
  header : Got 12
  payload : (len : UInt16) → Got len

/-- What a round does with memory. -/
inductive Event where
  | write (start count : Nat)
  | processHeader (bytesRead : Int32)
  | processPayload (len : UInt16) (bytesRead : Int32)
  | copy (totalLen : Nat)

/-- A write and a copy stay inside the scratch buffer; what is processed was completely read. -/
def Event.Safe (config : RxConfig) : Event → Prop
  | .write start count => count = 0 ∨ start + count ≤ config.bufferSize
  | .processHeader bytesRead => bytesRead.toInt = payloadHeaderSize
  | .processPayload len bytesRead => bytesRead.toInt = len.toNat
  | .copy totalLen => totalLen ≤ config.bufferSize

/-- `taken` counts the bytes that came off the wire. -/
structure Round where
  scratch : List UInt8
  taken : Nat
  events : List Event
  queued : Option Received

def readRound (config : RxConfig) (scratch : List UInt8) (answers : Answers) : Round :=
  let header := answers.header
  let scratch := putAt scratch 0 header.bytes
  let events := [.write 0 header.bytes.length]
  -- bytes_read is compared as a size_t
  if header.bytesRead.toUInt32 < 12 then ⟨scratch, header.bytes.length, events, none⟩
  else
    let len := (decodeHeader scratch).len
    let offset := (decodeHeader scratch).offset
    let totalLen := len.toNat + payloadHeaderSize
    let events := events ++ [.processHeader header.bytesRead]
    if totalLen > config.bufferSize then ⟨scratch, header.bytes.length, events, none⟩
    else
      let payload := answers.payload len
      let scratch := putAt scratch offset.toNat payload.bytes
      let taken := header.bytes.length + payload.bytes.length
      let events := events ++ [.write offset.toNat payload.bytes.length]
      -- bytes_read is compared as an int
      if payload.bytesRead.toInt < len.toNat then ⟨scratch, taken, events, none⟩
      else
        let events := events ++ [.processPayload len payload.bytesRead, .copy totalLen]
        let rxbuff := putAt (List.replicate config.bufferSize 0) 0 (scratch.take totalLen)
        let check := isValidRxPacket config rxbuff
        ⟨scratch, taken, events,
          check.found.map fun (len, offset) => pushPktToQueue check.rxbuff len offset⟩

/-- What the rounds have done. -/
structure Work where
  scratch : List UInt8
  events : List Event := []
  queued : List Received := []

def Work.then (work : Work) (round : Round) : Work where
  scratch := round.scratch
  events := work.events ++ round.events
  queued := work.queued ++ round.queued.toList

def readRounds (config : RxConfig) : Work → List Answers → Work
  | work, [] => work
  | work, answers :: rest =>
      readRounds config (work.then (readRound config work.scratch answers)) rest

/-! A wire that delivers. -/

/-- The full count, or all there is. -/
def fullRead (stream : List UInt8) (size : UInt16) : Got size where
  bytes := stream.take size.toNat
  bytesRead := Int32.ofNat (stream.take size.toNat).length
  within := List.length_take_le ..
  counted := by
    intro _
    have small := size.toNat_lt
    have within := List.length_take_le size.toNat stream
    rw [Int32.toInt_ofNat_of_lt (by omega)]

def streamAnswers (stream : List UInt8) : Answers where
  header := fullRead stream 12
  payload := fullRead (stream.drop payloadHeaderSize)

/-- Rounds on a stream of bytes: what they have done, and what is still on the wire. -/
def readStream (config : RxConfig) : Nat → Work → List UInt8 → Work × List UInt8
  | 0, work, stream => (work, stream)
  | rounds + 1, work, stream =>
      let round := readRound config work.scratch (streamAnswers stream)
      readStream config rounds (work.then round) (stream.drop round.taken)

/-! Bounds. -/

/-- The header is not an error, and what is stored behind a complete one that is not too big
ends inside the scratch buffer. -/
structure Answers.Contained (config : RxConfig) (answers : Answers) : Prop where
  header : 0 ≤ answers.header.bytesRead.toInt
  payload : answers.header.bytesRead.toInt = payloadHeaderSize →
    (decodeHeader answers.header.bytes).len.toNat + payloadHeaderSize ≤ config.bufferSize →
    (answers.payload (decodeHeader answers.header.bytes).len).bytes.length = 0 ∨
      (decodeHeader answers.header.bytes).offset.toNat +
        (answers.payload (decodeHeader answers.header.bytes).len).bytes.length ≤ config.bufferSize

def SafeEvents (config : RxConfig) (events : List Event) : Prop :=
  ∀ event ∈ events, event.Safe config

variable {config : RxConfig} {scratch : List UInt8} {answers : Answers}

/-- As a size_t, an error is not small. -/
theorem unsigned_below (bytesRead : Int32) :
    bytesRead.toUInt32 < 12 ↔ 0 ≤ bytesRead.toInt ∧ bytesRead.toInt < 12 := by
  have word : bytesRead.toInt = bytesRead.toBitVec.toInt := rfl
  have unsigned : bytesRead.toUInt32.toNat = bytesRead.toBitVec.toNat := rfl
  have below := bytesRead.toBitVec.isLt
  rw [UInt32.lt_iff_toNat_lt, unsigned, word, BitVec.toInt_eq_toNat_cond]
  show bytesRead.toBitVec.toNat < 12 ↔ _
  split <;> omega

theorem header_complete {got : Got 12} (read : ¬ got.bytesRead.toUInt32 < 12)
    (number : 0 ≤ got.bytesRead.toInt) :
    got.bytesRead.toInt = payloadHeaderSize ∧ got.bytes.length = payloadHeaderSize := by
  have counted := got.counted number
  have within : got.bytes.length ≤ 12 := got.within
  have many : 12 ≤ got.bytesRead.toInt := by
    by_contra few
    exact read ((unsigned_below _).mpr ⟨number, by omega⟩)
  show got.bytesRead.toInt = 12 ∧ got.bytes.length = 12
  omega

/-- A complete header is what the scratch buffer begins with. -/
theorem decode_stored {header : List UInt8} (whole : header.length = payloadHeaderSize) :
    decodeHeader (putAt scratch 0 header) = decodeHeader header := by
  rw [putAt_zero, decodeHeader_append whole]

theorem payload_complete {len : UInt16} {got : Got len} (read : ¬ got.bytesRead.toInt < len.toNat) :
    got.bytesRead.toInt = len.toNat ∧ got.bytes.length = len.toNat := by
  have counted := got.counted (by omega)
  have within := got.within
  omega

theorem round_missed (read : answers.header.bytesRead.toUInt32 < 12) :
    (readRound config scratch answers).events = [.write 0 answers.header.bytes.length] := by
  rw [readRound, if_pos read]

theorem round_large (read : ¬ answers.header.bytesRead.toUInt32 < 12)
    (whole : answers.header.bytes.length = payloadHeaderSize)
    (large : (decodeHeader answers.header.bytes).len.toNat + payloadHeaderSize >
      config.bufferSize) :
    (readRound config scratch answers).events =
      [.write 0 answers.header.bytes.length, .processHeader answers.header.bytesRead] := by
  rw [readRound, if_neg read]
  dsimp only
  rw [decode_stored whole, if_pos large]
  rfl

theorem round_read (read : ¬ answers.header.bytesRead.toUInt32 < 12)
    (whole : answers.header.bytes.length = payloadHeaderSize)
    (fits : ¬ (decodeHeader answers.header.bytes).len.toNat + payloadHeaderSize >
      config.bufferSize) :
    ∃ rest, (readRound config scratch answers).events =
        [.write 0 answers.header.bytes.length, .processHeader answers.header.bytesRead,
          .write (decodeHeader answers.header.bytes).offset.toNat
            (answers.payload (decodeHeader answers.header.bytes).len).bytes.length] ++ rest ∧
      SafeEvents config rest := by
  rw [readRound, if_neg read]
  dsimp only
  rw [decode_stored whole, if_neg fits]
  by_cases missed : (answers.payload (decodeHeader answers.header.bytes).len).bytesRead.toInt <
      (decodeHeader answers.header.bytes).len.toNat
  · rw [if_pos missed]
    exact ⟨[], rfl, fun event none => absurd none List.not_mem_nil⟩
  · rw [if_neg missed]
    refine ⟨_, rfl, ?_⟩
    intro event inside
    simp only [List.mem_cons, List.not_mem_nil, or_false] at inside
    rcases inside with rfl | rfl
    · exact (payload_complete missed).1
    · exact Nat.le_of_not_lt fits

theorem header_write_safe (config : RxConfig) (got : Got 12) : (Event.write 0 got.bytes.length).Safe config := by
  have within : got.bytes.length ≤ 12 := got.within
  have room := config.room
  have size : payloadHeaderSize = 12 := rfl
  exact .inr (by omega)

theorem round_processes (read : ¬ answers.header.bytesRead.toUInt32 < 12) :
    Event.processHeader answers.header.bytesRead ∈ (readRound config scratch answers).events := by
  rw [readRound, if_neg read]
  dsimp only
  split
  · simp
  · split
    · simp
    · simp

/-- The result is compared as a word without sign, so a read that fails is processed as well. -/
theorem error_processed (error : answers.header.bytesRead.toInt < 0) :
    Event.processHeader answers.header.bytesRead ∈ (readRound config scratch answers).events :=
  round_processes fun few => Int.not_lt.mpr ((unsigned_below _).mp few).1 error

/-- One round. -/
theorem round_safe_iff :
    SafeEvents config (readRound config scratch answers).events ↔ answers.Contained config := by
  have written := header_write_safe config answers.header
  by_cases read : answers.header.bytesRead.toUInt32 < 12
  · obtain ⟨number, few⟩ := (unsigned_below _).mp read
    rw [round_missed read]
    refine iff_of_true ?_ ⟨number, fun whole => ?_⟩
    · intro event inside
      rw [List.mem_singleton.mp inside]
      exact written
    · have size : payloadHeaderSize = 12 := rfl
      omega
  · by_cases number : 0 ≤ answers.header.bytesRead.toInt
    · obtain ⟨complete, whole⟩ := header_complete read number
      have processed : (Event.processHeader answers.header.bytesRead).Safe config := complete
      by_cases large : (decodeHeader answers.header.bytes).len.toNat + payloadHeaderSize >
          config.bufferSize
      · rw [round_large read whole large]
        refine iff_of_true ?_ ⟨number, fun _ fits => absurd large (Nat.not_lt.mpr fits)⟩
        simp only [SafeEvents, List.forall_mem_cons]
        exact ⟨written, processed, fun _ none => absurd none List.not_mem_nil⟩
      · obtain ⟨rest, events, safe⟩ := round_read read whole large
        rw [events]
        simp only [SafeEvents, List.mem_append, or_imp, forall_and, List.forall_mem_cons]
        constructor
        · rintro ⟨⟨_, _, stored, _⟩, _⟩
          exact ⟨number, fun _ _ => stored⟩
        · intro contained
          exact ⟨⟨written, processed, contained.payload complete (Nat.le_of_not_lt large),
            fun _ none => absurd none List.not_mem_nil⟩, safe⟩
    · refine iff_of_false (fun safe => number ?_) fun contained => number contained.header
      have complete : answers.header.bytesRead.toInt = payloadHeaderSize :=
        safe _ (round_processes read)
      rw [complete]
      exact Int.natCast_nonneg _

theorem rounds_events (work : Work) (rounds : List Answers) :
    SafeEvents config (readRounds config work rounds).events ↔
      SafeEvents config work.events ∧ ∀ answers ∈ rounds, answers.Contained config := by
  induction rounds generalizing work with
  | nil => simp [readRounds]
  | cons answers rest ih =>
      have both : SafeEvents config (work.then (readRound config work.scratch answers)).events ↔
          SafeEvents config work.events ∧ answers.Contained config := by
        rw [← @round_safe_iff config work.scratch answers]
        exact List.forall_mem_append
      rw [readRounds, ih, both, List.forall_mem_cons, and_assoc]

/-- The task stays inside its buffer and processes what it has read, as long as no header read
is an error and no payload is stored over the end. -/
theorem receive_bounds_iff (checksum : Bool) (scratch : List UInt8) (rounds : List Answers) :
    SafeEvents (uartConfig checksum)
        (readRounds (uartConfig checksum) { scratch := scratch } rounds).events ↔
      ∀ answers ∈ rounds, answers.Contained (uartConfig checksum) := by
  rw [rounds_events]
  exact and_iff_right fun _ none => absurd none List.not_mem_nil

/-- A header with offset 1600 and len 1, and one byte of payload. -/
def overrunning : Answers where
  header := ⟨[0, 0, 1, 0, 0x40, 6, 0, 0, 0, 0, 0, 0], 12, by decide, by decide⟩
  payload := fullRead [0xFF]

/-- The byte is stored behind the scratch buffer. -/
theorem receive_overruns :
    ¬ SafeEvents (uartConfig true)
      (readRounds (uartConfig true) { scratch := List.replicate 1600 0 } [overrunning]).events := by
  rw [rounds_events]
  rintro ⟨_, contained⟩
  rcases (contained overrunning List.mem_cons_self).payload rfl (by decide) with none | fits
  · exact absurd none (by decide)
  · exact absurd fits (by decide)

/-! Framing. -/

theorem fullRead_front {front : List UInt8} {size : UInt16} (whole : front.length = size.toNat)
    (rest : List UInt8) :
    (fullRead (front ++ rest) size).bytes = front ∧
      (fullRead (front ++ rest) size).bytesRead.toInt = size.toNat := by
  have small := size.toNat_lt
  have taken : (front ++ rest).take size.toNat = front := List.take_left' whole
  refine ⟨taken, ?_⟩
  show (Int32.ofNat ((front ++ rest).take size.toNat).length).toInt = size.toNat
  rw [taken, whole, Int32.toInt_ofNat_of_lt (by omega)]

theorem stored_packet (packet : Packet config) (scratch : List UInt8) :
    (putAt (putAt scratch 0 packet.header) payloadHeaderSize packet.payload).take
        (packet.payload.length + payloadHeaderSize) = packet.bytes := by
  rw [putAt_zero, putAt_append packet.headerLength, ← List.append_assoc]
  apply List.take_left'
  rw [List.length_append, packet.headerLength, Nat.add_comm]

/-- One frame in front of the wire: the round takes it off, and queues it if its checksum is
right. -/
theorem round_packet (packet : Packet config) (scratch rest : List UInt8) :
    (readRound config scratch (streamAnswers (packet.bytes ++ rest))).taken =
        packet.bytes.length ∧
      List.Forall₂ Carries
        (readRound config scratch (streamAnswers (packet.bytes ++ rest))).queued.toList
        ([packet].filter Packet.valid) := by
  have stream : packet.bytes ++ rest = packet.header ++ (packet.payload ++ rest) :=
    List.append_assoc _ _ _
  have behind : (packet.bytes ++ rest).drop payloadHeaderSize = packet.payload ++ rest := by
    rw [stream, List.drop_left' packet.headerLength]
  obtain ⟨header, headerRead⟩ := fullRead_front
    (show packet.header.length = (12 : UInt16).toNat from packet.headerLength)
    (packet.payload ++ rest)
  obtain ⟨payload, payloadRead⟩ := fullRead_front packet.len.symm rest
  have read : ¬ (fullRead (packet.header ++ (packet.payload ++ rest)) 12).bytesRead.toUInt32 < 12 := by
    rw [unsigned_below, headerRead]
    decide
  have fits : ¬ (decodeHeader packet.header).len.toNat + payloadHeaderSize > config.bufferSize := by
    have room := config.room
    have small := packet.fits
    have len := packet.len
    omega
  have complete : ¬ (fullRead (packet.payload ++ rest)
      (decodeHeader packet.header).len).bytesRead.toInt < (decodeHeader packet.header).len.toNat := by
    omega
  have whole := stored_packet packet scratch
  rw [readRound, streamAnswers]
  dsimp only
  rw [behind, stream, if_neg read, header, decode_stored packet.headerLength, if_neg fits, payload,
    if_neg complete, packet.offset, packet.len, whole, putAt_zero _ packet.bytes, check_packet]
  refine ⟨?_, ?_⟩
  · rw [Packet.bytes, List.length_append]
  · cases valid : packet.valid with
    | false =>
        rw [if_neg Bool.false_ne_true, List.filter_cons_of_neg (by rw [valid]; decide)]
        exact .nil
    | true =>
        rw [if_pos rfl, List.filter_cons_of_pos valid]
        exact .cons (pushed_carries packet _) .nil

/-- The frames in turn, from any buffer and with anything behind them on the wire. -/
theorem stream_packets (packets : List (Packet config)) (work : Work) (rest : List UInt8) :
    (readStream config packets.length work (packets.flatMap Packet.bytes ++ rest)).2 = rest ∧
      ∃ queued, List.Forall₂ Carries queued (packets.filter Packet.valid) ∧
        (readStream config packets.length work (packets.flatMap Packet.bytes ++ rest)).1.queued =
          work.queued ++ queued := by
  induction packets generalizing work with
  | nil => exact ⟨rfl, [], .nil, (List.append_nil _).symm⟩
  | cons packet packets ih =>
      have stream : (packet :: packets).flatMap Packet.bytes ++ rest =
          packet.bytes ++ (packets.flatMap Packet.bytes ++ rest) := by
        rw [List.flatMap_cons, List.append_assoc]
      obtain ⟨taken, carried⟩ :=
        round_packet packet work.scratch (packets.flatMap Packet.bytes ++ rest)
      rw [stream, List.length_cons, readStream, taken, List.drop_left]
      obtain ⟨left, queued, others, all⟩ := ih (work.then (readRound config work.scratch
        (streamAnswers (packet.bytes ++ (packets.flatMap Packet.bytes ++ rest)))))
      refine ⟨left, _, ?_, all.trans (List.append_assoc _ _ _)⟩
      have split : (packet :: packets).filter Packet.valid =
          [packet].filter Packet.valid ++ packets.filter Packet.valid :=
        List.filter_append [packet] packets
      rw [split]
      exact List.rel_append carried others

/-- With the checksum built in, the task stays in step with the frames, and queues exactly those
whose checksum is right. -/
theorem stream_framed (packets : List (Packet (uartConfig true))) (scratch rest : List UInt8) :
    (readStream (uartConfig true) packets.length { scratch := scratch }
        (packets.flatMap Packet.bytes ++ rest)).2 = rest ∧
      List.Forall₂ Carries
        (readStream (uartConfig true) packets.length { scratch := scratch }
          (packets.flatMap Packet.bytes ++ rest)).1.queued
        (packets.filter Packet.checksumRight) := by
  obtain ⟨left, queued, carried, all⟩ := stream_packets packets { scratch := scratch } rest
  have right : (Packet.valid : Packet (uartConfig true) → Bool) = Packet.checksumRight :=
    funext fun packet => Bool.false_or _
  rw [all]
  exact ⟨left, right ▸ carried⟩

end EspHosted.UartReceive

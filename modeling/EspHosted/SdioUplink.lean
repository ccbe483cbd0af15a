import EspHosted.ReadCounters
import EspHosted.SdioDoubleBuffer
import EspHosted.SdioStream
import EspHosted.UartLink

/-!
The way of a frame from the slave to the host over SDIO in streaming mode: `sdio_write` queues it
for the hardware, `sdio_read_task` finds in a register how much is there and reads it into one of
two buffers, `sdio_data_to_rx_buf_task` cuts it into packets again. A chunk that comes before the
last one is drained is dropped. As long as no block read fails, what is dropped are whole frames, and
all others arrive.
-/

namespace EspHosted.SdioUplink
open SpiFrames HostFrames SlaveFrames RxPackets QueueBank GuardedRun UartSlave
open LinkOrder (handlePrio)
open UartLink (nextOf receivedPrio)

def sdioSlaveQueueSize : Nat := 20

def sdioHeader (buf : IfaceBuf) : PayloadHeader where
  ifType := buf.ifType
  ifNum := buf.ifNum
  flags := buf.flag
  len := buf.payloadLen
  offset := UInt16.ofNat payloadHeaderSize
  checksum := 0
  seqNum := buf.seqNum
  throttleCmd := 0

/-- The buffer that `sdio_write` fills; none when it returns before. -/
def sdioWrite (checksum found : Bool) (buf : IfaceBuf) : Option (List UInt8) :=
  if buf.payloadLen = 0 ∨ buf.payload = [] then none
  else if !found then none
  else some ((summed checksum (sdioHeader buf) buf.bytes).encode ++ buf.bytes)

/-- The bytes that the host reads are taken from the buffers in front, and those that are read to
the end are finished. -/
def finish : Nat → List (List UInt8) → Nat × List (List UInt8)
  | _, [] => (0, [])
  | len, buf :: rest =>
      if buf.length ≤ len then
        let behind := finish (len - buf.length) rest
        (behind.1 + 1, behind.2)
      else (0, buf.drop len :: rest)

/-- `sendQueue` has what `sdio_slave_send_queue` was given and the host has not read, and
`finished` counts what `sdio_tx_done_task` has not looked at. `written` are the frames put into
the queue, and `read` those that `sdio_process_rx_task` took. -/
structure State where
  sendQueueSem : Nat
  sendQueue : List (List UInt8)
  finished : Nat
  counters : ReadCounters.Sdio.State
  host : SdioDoubleBuffer.State
  fromSlave : Prio → List Received
  read : Prio → List Received
  written : List IfaceBuf

def init : State where
  sendQueueSem := sdioSlaveQueueSize
  sendQueue := []
  finished := 0
  counters := ReadCounters.Sdio.init
  host := SdioDoubleBuffer.init
  fromSlave := fun _ => []
  read := fun _ => []
  written := []

inductive Act where
  /-- `found` and `queued` tell whether there is memory and whether the SDK takes the buffer. -/
  | write (found queued : Bool) (buf : IfaceBuf)
  | txDone
  /-- The word that the register gives. -/
  | look (word : UInt32)
  | readBlock
  /-- The block read returns an error behind this many bytes. -/
  | readFails (moved : Nat)
  | reader
  | drainer
  | processRx

structure Config where
  checksum : Bool
  blockOnly : Bool

def Config.double (config : Config) : SdioDoubleBuffer.Config := ⟨true, config.blockOnly, config.checksum⟩
def Config.rx (config : Config) : RxConfig := sdioConfig config.checksum

variable (config : Config)

/-- A buffer that the SDK does not take is freed, but the semaphore is not given back. -/
def writeStep (state : State) (found queued : Bool) (buf : IfaceBuf) : Option State :=
  match sdioWrite config.checksum found buf with
  | none => some state
  | some bytes =>
      if state.sendQueueSem = 0 then none
      else if queued then
        (ReadCounters.Sdio.step .streaming state.counters (.load bytes.length)).map fun counters =>
          { state with
            sendQueueSem := state.sendQueueSem - 1
            sendQueue := state.sendQueue ++ [bytes]
            counters := counters
            written := state.written ++ [buf] }
      else some { state with sendQueueSem := state.sendQueueSem - 1 }

def txDoneStep (state : State) : Option State :=
  if state.finished = 0 then none
  else some { state with sendQueueSem := state.sendQueueSem + 1, finished := state.finished - 1 }

/-- `sdio_read_task` up to the transfer. -/
def lookStep (state : State) (word : UInt32) : Option State :=
  if state.host.reader = .idle then
    (ReadCounters.Sdio.step .streaming state.counters (.look (some word))).bind fun counters =>
      match counters.pc with
      | .transferring len _ =>
          (SdioDoubleBuffer.step config.double state.host (.begin len.toNat)).map fun host =>
            { state with counters := counters, host := host }
      | .idle | .clearing _ _ => some { state with counters := counters }
  else none

/-- The slave pads a transfer of blocks with zeros. -/
def readBlockStep (state : State) : Option State :=
  match state.counters.pc with
  | .transferring len _ =>
      let padding := SdioDoubleBuffer.streamSize config.double len.toNat - len.toNat
      let data := state.sendQueue.flatten.take len.toNat ++ List.replicate padding 0
      (ReadCounters.Sdio.step .streaming state.counters .readBlock).bind fun counters =>
        (SdioDoubleBuffer.step config.double state.host (.readBlock data true)).map fun host =>
          { state with
            sendQueue := (finish len.toNat state.sendQueue).2
            finished := state.finished + (finish len.toNat state.sendQueue).1
            counters := counters
            host := host }
  | .idle | .clearing _ _ => none

/-- All of the chunk is counted and none of it is kept, whatever the slave has given of it. -/
def readFailsStep (state : State) (moved : Nat) : Option State :=
  let data := state.sendQueue.flatten.take moved
  (ReadCounters.Sdio.step .streaming state.counters .readBlock).bind fun counters =>
    (SdioDoubleBuffer.step config.double state.host (.readBlock data false)).map fun host =>
      { state with
        sendQueue := (finish moved state.sendQueue).2
        finished := state.finished + (finish moved state.sendQueue).1
        counters := counters
        host := host }

/-- The packets of a chunk go into the queues. -/
def pushed (state : State) : List Received :=
  match state.host.drainer with
  | .push buf len =>
      (SdioStream.sdioPushDataToQueue config.rx (state.host.chunk buf len)
        ((state.host.content buf).drop len)).queued
  | .wait | .look | .fetch | .fetchLen _ | .reset => []

def queueAll (bank : Prio → List Received) (received : List Received) : Prio → List Received :=
  received.foldl (fun bank one => put bank (receivedPrio one) one) bank

def drainerStep (state : State) : Option State :=
  (SdioDoubleBuffer.step config.double state.host .drainer).map fun host =>
    { state with host := host, fromSlave := queueAll state.fromSlave (pushed config state) }

/-- What `sdio_process_rx_task` takes. -/
def processRxStep (state : State) : Option State :=
  (nextOf state.fromSlave).map fun received =>
    { state with
      fromSlave :=
        Function.update state.fromSlave (receivedPrio received)
          (state.fromSlave (receivedPrio received)).tail
      read := put state.read (receivedPrio received) received }

def step (state : State) : Act → Option State
  | .write found queued buf => writeStep config state found queued buf
  | .txDone => txDoneStep state
  | .look word => lookStep config state word
  | .readBlock => readBlockStep config state
  | .readFails moved => readFailsStep config state moved
  | .reader =>
      (SdioDoubleBuffer.step config.double state.host .reader).map fun host => { state with host := host }
  | .drainer => drainerStep config state
  | .processRx => processRxStep state

/-- The slave is given what its callers give, and no block read fails. -/
def Sound (_ : State) : Act → Prop
  | .write _ _ buf => Offered config.rx 0 buf
  | .readFails _ => False
  | .txDone | .look _ | .readBlock | .reader | .drainer | .processRx => True

/-! Frames and chunks. -/

section Frames
variable {config : RxConfig}

/-- A frame that `sdio_write` has queued. -/
structure Loaded (config : RxConfig) where
  buf : IfaceBuf
  offered : Offered config 0 buf
  positive : buf.payloadLen ≠ 0

def Loaded.bytes (loaded : Loaded config) : List UInt8 :=
  (sentHeader config.checksum 0 loaded.buf).encode ++ loaded.buf.bytes

/-- Frames one behind the other. -/
def stream (frames : List (Loaded config)) : List UInt8 := frames.flatMap Loaded.bytes

theorem write_loaded {found : Bool} {buf : IfaceBuf} {bytes : List UInt8}
    (offered : Offered config 0 buf) (sent : sdioWrite config.checksum found buf = some bytes) :
    ∃ loaded : Loaded config, loaded.buf = buf ∧ loaded.bytes = bytes := by
  rw [sdioWrite] at sent
  split at sent
  · cases sent
  · rename_i positive
    split at sent
    · cases sent
    · cases sent
      exact ⟨⟨buf, offered, fun empty => positive (Or.inl empty)⟩, rfl, rfl⟩

theorem buf_length {buf : IfaceBuf} (filled : buf.Filled) : buf.bytes.length = buf.payloadLen.toNat :=
  List.length_take_of_le filled

/-- A loaded frame is a packet, and what carries the packet brings the frame. -/
theorem loaded_packet (loaded : Loaded config) : ∃ packet : Packet config,
    packet.valid = true ∧ packet.bytes = loaded.bytes ∧
      ∀ received, Carries received packet → Arrives loaded.buf received := by
  obtain ⟨frame, payload, header⟩ := write_frame loaded.offered
  have positive : frame.payload ≠ [] := by
    intro empty
    have none_left := buf_length loaded.offered.filled
    rw [← payload, empty] at none_left
    exact loaded.positive (UInt16.toNat_inj.mp none_left.symm)
  obtain ⟨packet, valid, same, sameHeader⟩ := frame.packet positive
  refine ⟨packet, valid, ?_, ?_⟩
  · rw [Packet.bytes, same, sameHeader, payload, header, Loaded.bytes]
  · intro received carries
    exact carries_arrives loaded.offered (same.trans payload) (sameHeader.trans header) carries

/-- A chunk of whole frames is queued frame by frame, whatever lies behind it. -/
theorem chunk_queued (frames : List (Loaded config)) (behind : List UInt8) :
    List.Forall₂ Arrives (frames.map Loaded.buf)
      (SdioStream.sdioPushDataToQueue config (stream frames) behind).queued := by
  have packets : ∃ packets : List (Packet config), (∀ packet ∈ packets, packet.valid = true) ∧
      packets.flatMap Packet.bytes = stream frames ∧
      ∀ received, List.Forall₂ Carries received packets →
        List.Forall₂ Arrives (frames.map Loaded.buf) received := by
    induction frames with
    | nil =>
        refine ⟨[], List.forall_mem_nil _, rfl, ?_⟩
        intro received carries
        cases carries
        exact .nil
    | cons loaded rest ih =>
        obtain ⟨packets, valids, bytes, arrive⟩ := ih
        obtain ⟨packet, valid, same, arrives⟩ := loaded_packet loaded
        refine ⟨packet :: packets, List.forall_mem_cons.mpr ⟨valid, valids⟩, ?_, ?_⟩
        · rw [List.flatMap_cons, same, bytes]
          rfl
        · intro received carries
          cases carries with
          | cons first others => exact .cons (arrives _ first) (arrive _ others)
  obtain ⟨packets, valids, bytes, arrive⟩ := packets
  rw [← bytes]
  exact arrive _ (SdioStream.queued_all packets valids behind)

theorem loaded_length (loaded : Loaded config) :
    0 < loaded.bytes.length ∧ loaded.bytes.length ≤ payloadHeaderSize + config.maxPayloadSize := by
  have header : (sentHeader config.checksum 0 loaded.buf).encode.length = payloadHeaderSize := rfl
  have payload := buf_length loaded.offered.filled
  have fits := loaded.offered.fits
  rw [Loaded.bytes, List.length_append, header, payload]
  exact ⟨Nat.lt_of_lt_of_le (by decide) (Nat.le_add_right _ _), Nat.add_le_add_left fits _⟩

theorem stream_length_le (frames : List (Loaded config)) :
    (stream frames).length ≤ frames.length * (payloadHeaderSize + config.maxPayloadSize) := by
  induction frames with
  | nil => exact Nat.zero_le _
  | cons loaded rest ih =>
      have one := (loaded_length loaded).2
      rw [stream, List.flatMap_cons, List.length_append, List.length_cons, Nat.succ_mul, Nat.add_comm]
      exact Nat.add_le_add ih one

theorem stream_append (frames others : List (Loaded config)) :
    stream (frames ++ others) = stream frames ++ stream others := List.flatMap_append

theorem stream_flatten (frames : List (Loaded config)) :
    (frames.map Loaded.bytes).flatten = stream frames := List.flatMap_def.symm

/-- A read of whole frames finishes their buffers and touches no other. -/
theorem finish_whole (front back : List (Loaded config)) :
    finish (stream front).length ((front ++ back).map Loaded.bytes) =
      (front.length, back.map Loaded.bytes) := by
  induction front with
  | nil =>
      cases back with
      | nil => rfl
      | cons loaded back =>
          have some_bytes := (loaded_length loaded).1
          simp only [stream, List.flatMap_nil, List.length_nil, List.nil_append, List.map_cons, finish]
          rw [if_neg (Nat.not_le.mpr some_bytes), List.drop_zero]
  | cons loaded front ih =>
      have whole : loaded.bytes.length ≤ (stream (loaded :: front)).length := by
        rw [stream, List.flatMap_cons, List.length_append]
        exact Nat.le_add_right _ _
      have left : (stream (loaded :: front)).length - loaded.bytes.length = (stream front).length := by
        rw [stream, List.flatMap_cons, List.length_append, Nat.add_sub_cancel_left]
        rfl
      rw [List.cons_append, List.map_cons, finish, if_pos whole, left, ih]
      rfl

end Frames

/-! What the steps of the two buffers do to the chunks. -/

section Double
variable {double : SdioDoubleBuffer.Config} {host after : SdioDoubleBuffer.State}

/-- Nothing is read into a buffer, tested or passed. -/
structure Untouched (host after : SdioDoubleBuffer.State) : Prop where
  records : after.records = host.records
  inFlight : after.inFlight = host.inFlight
  passed : after.passed = host.passed

theorem begin_untouched {len : Nat} (taken : SdioDoubleBuffer.step double host (.begin len) = some after) :
    host.reader = .idle ∧ Untouched host after ∧ ∃ rxbuff, after.reader = .filling rxbuff len := by
  simp only [SdioDoubleBuffer.step, Option.ite_none_right_eq_some, Option.some.injEq] at taken
  obtain ⟨⟨idle, _⟩, rfl⟩ := taken
  refine ⟨idle, ?_, _, rfl⟩
  have nothing : host.inFlight = [] := by
    rw [SdioDoubleBuffer.State.inFlight, idle]
  rcases SdioDoubleBuffer.getBuffer_cases double host len with ⟨same, _⟩ | ⟨trace, size, bufSize, got⟩
  · rw [same]
    exact ⟨rfl, nothing.symm, rfl⟩
  · rw [got]
    exact ⟨rfl, nothing.symm, rfl⟩

/-- The chunk that was read is the front of the data. -/
theorem readBlock_chunk {data : List UInt8}
    (taken : SdioDoubleBuffer.step double host (.readBlock data true) = some after) :
    ∃ rxbuff len, host.reader = .filling rxbuff len ∧ after.reader = .check rxbuff len ∧
      host.inFlight = [] ∧ after.inFlight = [data.take len] ∧ after.records = host.records ∧
      after.passed = host.passed := by
  have enough := taken
  obtain ⟨rxbuff, len, filling, rfl⟩ := SdioDoubleBuffer.readBlock_cases taken
  simp only [SdioDoubleBuffer.step, filling, Option.ite_none_left_eq_some] at enough
  have long : len ≤ data.length := by
    have some_missing := enough.1
    simp only [true_and, Nat.not_lt] at some_missing
    exact some_missing
  have content : (SdioDoubleBuffer.readBlock double host rxbuff len data true).content rxbuff =
      putAt (host.content rxbuff) 0 data := by
    simp [SdioDoubleBuffer.readBlock]
  refine ⟨rxbuff, len, filling, rfl, ?_, ?_, rfl, rfl⟩
  · rw [SdioDoubleBuffer.State.inFlight, filling]
  · change [(SdioDoubleBuffer.readBlock double host rxbuff len data true).chunk rxbuff len] = _
    rw [SdioDoubleBuffer.State.chunk, content, putAt_zero, List.take_append_of_le_length long]

/-- The test of `read_index`, or a statement behind it. -/
theorem reader_chunk (taken : SdioDoubleBuffer.step double host .reader = some after) :
    (∀ rxbuff len, host.reader ≠ .filling rxbuff len) ∧
      (∀ rxbuff len, after.reader ≠ .filling rxbuff len) ∧ after.passed = host.passed ∧
      (after.records = host.records ∧ host.inFlight = [] ∧ after.inFlight = [] ∨
        ∃ chunk flag, host.inFlight = [chunk] ∧ after.inFlight = [] ∧
          after.records = host.records ++ [(chunk, flag)]) := by
  cases SdioDoubleBuffer.reader_cases taken with
  | checks rxbuff len reader =>
      have flying : host.inFlight = [host.chunk rxbuff len] := by
        rw [SdioDoubleBuffer.State.inFlight, reader]
      rw [SdioDoubleBuffer.checkIndex]
      split
      · refine ⟨?_, ?_, rfl, Or.inr ⟨_, true, flying, rfl, rfl⟩⟩
        · simp [reader]
        · simp
      · refine ⟨?_, ?_, rfl, Or.inr ⟨_, false, flying, rfl, rfl⟩⟩
        · simp [reader]
        · simp
  | setsLen len reader | flips reader | posts reader =>
      refine ⟨?_, ?_, rfl, Or.inl ⟨rfl, ?_, rfl⟩⟩
      · simp [reader]
      · simp
      · rw [SdioDoubleBuffer.State.inFlight, reader]

/-- A chunk is passed when the drainer pushes it, and it is the one that is due. -/
theorem drainer_chunk (inv : SdioDoubleBuffer.Inv host)
    (taken : SdioDoubleBuffer.step double host .drainer = some after) :
    after.reader = host.reader ∧ after.records = host.records ∧ after.inFlight = host.inFlight ∧
      ((∀ buf len, host.drainer ≠ .push buf len) ∧ after.passed = host.passed ∨
        ∃ buf len, host.drainer = .push buf len ∧
          after.passed = host.passed ++ [host.chunk buf len] ∧
          host.due = host.passed ++ [host.chunk buf len]) := by
  simp only [SdioDoubleBuffer.step, SdioDoubleBuffer.drainerStep] at taken
  cases drainer : host.drainer with
  | wait =>
      rw [drainer] at taken
      dsimp only at taken
      split at taken
      · cases taken
      · cases taken
        exact ⟨rfl, rfl, rfl, Or.inl ⟨by simp, rfl⟩⟩
  | look =>
      rw [drainer] at taken
      dsimp only at taken
      split at taken
      · cases taken
        exact ⟨rfl, rfl, rfl, Or.inl ⟨by simp, rfl⟩⟩
      · cases taken
        exact ⟨rfl, rfl, rfl, Or.inl ⟨by simp, rfl⟩⟩
  | fetch =>
      rw [drainer] at taken
      obtain ⟨index, _, taken⟩ := Option.bind_eq_some_iff.mp taken
      obtain ⟨buf, _, same⟩ := Option.map_eq_some_iff.mp taken
      cases same
      exact ⟨rfl, rfl, rfl, Or.inl ⟨by simp, rfl⟩⟩
  | fetchLen buf =>
      rw [drainer] at taken
      cases taken
      exact ⟨rfl, rfl, rfl, Or.inl ⟨by simp, rfl⟩⟩
  | push buf len =>
      rw [drainer] at taken
      cases taken
      refine ⟨rfl, rfl, rfl, Or.inr ⟨buf, len, rfl, rfl, ?_⟩⟩
      cases inv.phase with
      | free _ _ waits _ _ => rw [drainer] at waits; cases waits
      | handing _ _ _ _ _ _ waits _ _ => rw [drainer] at waits; cases waits
      | done _ _ _ _ resets _ _ => rw [drainer] at resets; cases resets
      | handed _ held length _ _ _ _ _ pushing due =>
          rcases pushing with ⟨waits, _⟩ | ⟨_, looks | fetches | fetching | pushes⟩
          · rw [drainer] at waits; cases waits
          · rw [drainer] at looks; cases looks
          · rw [drainer] at fetches; cases fetches
          · rw [drainer] at fetching; cases fetching
          · rw [drainer] at pushes
            cases pushes
            exact due
  | reset =>
      rw [drainer] at taken
      cases taken
      exact ⟨rfl, rfl, rfl, Or.inl ⟨by simp, rfl⟩⟩

end Double

/-! The queues. -/

section Queues
variable {bank : Prio → List Received}

theorem queueAll_atLevel (received : List Received) (prio : Prio) :
    queueAll bank received prio = bank prio ++ atLevel receivedPrio prio received := by
  induction received generalizing bank with
  | nil => exact (List.append_nil _).symm
  | cons one rest ih =>
      change queueAll (put bank (receivedPrio one) one) rest prio = _
      rw [ih, put_atLevel, List.append_assoc, ← atLevel_append]
      rfl

theorem queueAll_sorted (received : List Received) (sorted : Sorted receivedPrio bank) :
    Sorted receivedPrio (queueAll bank received) := by
  induction received generalizing bank with
  | nil => exact sorted
  | cons one rest ih => exact ih (sorted_put sorted one)

theorem arrives_prio {buf : IfaceBuf} {received : Received} (arrives : Arrives buf received) :
    receivedPrio received = handlePrio buf := congrArg prioOf arrives.ifType

theorem arrive_atLevel {bufs : List IfaceBuf} {received : List Received} (prio : Prio)
    (arrive : List.Forall₂ Arrives bufs received) :
    List.Forall₂ Arrives (atLevel handlePrio prio bufs) (atLevel receivedPrio prio received) := by
  induction arrive with
  | nil => exact .nil
  | @cons buf one bufs rest first _ ih =>
      have heads := relays_single first (arrives_prio first) prio
      have split : List.Forall₂ Arrives (atLevel handlePrio prio [buf] ++ atLevel handlePrio prio bufs)
          (atLevel receivedPrio prio [one] ++ atLevel receivedPrio prio rest) :=
        List.rel_append heads ih
      rw [← atLevel_append, ← atLevel_append] at split
      exact split

end Queues

/-! The ledger. -/

/-- The frames of the chunks that were handed over. -/
def kept {config : RxConfig} (marks : List (List (Loaded config) × Bool)) : List (List (Loaded config)) :=
  (marks.filter Prod.snd).map Prod.fst

/-- Where the frames are: in chunks that came to the test of `read_index`, in the one before it,
in the transfer, or with the slave. `done` are the chunks that have been passed. -/
structure Ledger (config : RxConfig) (state : State) (marks : List (List (Loaded config) × Bool))
    (flight : List (List (Loaded config))) (front back : List (Loaded config))
    (done pend : List (List (Loaded config))) : Prop where
  sendQueue : state.sendQueue = (front ++ back).map Loaded.bytes
  unread : state.counters.read + (stream (front ++ back)).length = state.counters.loaded
  transferring : ∀ len seen, state.counters.pc = .transferring len seen →
    len.toNat = (stream front).length
  resting : (∀ len seen, state.counters.pc ≠ .transferring len seen) → front = []
  records : state.host.records = marks.map fun mark => (stream mark.1, mark.2)
  inFlight : state.host.inFlight = flight.map stream
  written : state.written =
    ((marks.map Prod.fst).flatten ++ flight.flatten ++ (front ++ back)).map Loaded.buf
  split : kept marks = done ++ pend
  passed : state.host.passed = done.map stream
  queued : ∀ prio, List.Forall₂ Arrives (atLevel handlePrio prio (done.flatten.map Loaded.buf))
    (state.read prio ++ state.fromSlave prio)
  credits : state.sendQueueSem + state.finished + (front ++ back).length ≤ sdioSlaveQueueSize

structure Inv (config : Config) (state : State) : Prop where
  counters : ReadCounters.Sdio.Inv state.counters
  double : SdioDoubleBuffer.Inv state.host
  reading : ∀ rxbuff len, state.host.reader = .filling rxbuff len →
    ∃ word seen, state.counters.pc = .transferring word seen ∧ word.toNat = len
  filling : ∀ word seen, state.counters.pc = .transferring word seen →
    ∃ rxbuff, state.host.reader = .filling rxbuff word.toNat
  sorted : Sorted receivedPrio state.fromSlave
  ledger : ∃ marks flight front back done pend,
    Ledger config.rx state marks flight front back done pend

section Steps
variable {config : Config} {before after : State}

/-- What is queued is less than a turn of the register. -/
theorem write_near {rx : RxConfig} {state : State} {marks : List (List (Loaded rx) × Bool)}
    {flight : List (List (Loaded rx))} {front back : List (Loaded rx)}
    {done pend : List (List (Loaded rx))} (small : payloadHeaderSize + rx.maxPayloadSize ≤ 1536)
    (ledger : Ledger rx state marks flight front back done pend) (credit : state.sendQueueSem ≠ 0)
    (loaded : Loaded rx) :
    state.counters.loaded + loaded.bytes.length - state.counters.read < 1048576 := by
  have total := stream_length_le (front ++ back)
  have one := (loaded_length loaded).2
  have credits := ledger.credits
  have unread := ledger.unread
  have few : (front ++ back).length ≤ 19 := by
    simp only [sdioSlaveQueueSize] at credits
    omega
  have bytes : (front ++ back).length * (payloadHeaderSize + rx.maxPayloadSize) ≤ 19 * 1536 :=
    Nat.mul_le_mul few small
  omega

theorem inv_write {found queued : Bool} {buf : IfaceBuf} (inv : Inv config before)
    (offered : Offered config.rx 0 buf)
    (taken : writeStep config before found queued buf = some after) : Inv config after := by
  obtain ⟨marks, flight, front, back, done, pend, ledger⟩ := inv.ledger
  rw [writeStep] at taken
  cases sent : sdioWrite config.checksum found buf with
  | none =>
      rw [sent] at taken
      cases taken
      exact inv
  | some bytes =>
      obtain ⟨loaded, sameBuf, sameBytes⟩ := @write_loaded config.rx found buf bytes offered sent
      rw [sent] at taken
      dsimp only at taken
      split at taken
      · cases taken
      · rename_i credit
        have credits := ledger.credits
        split at taken
        · obtain ⟨counters, counted, same⟩ := Option.map_eq_some_iff.mp taken
          have small : payloadHeaderSize + config.rx.maxPayloadSize ≤ 1536 := Nat.le_refl 1536
          have near := write_near small ledger credit loaded
          have counting := ReadCounters.Sdio.inv_step inv.counters (sameBytes ▸ near) counted
          cases counted
          subst same
          refine ⟨counting, inv.double, inv.reading, inv.filling, inv.sorted,
            marks, flight, front, back ++ [loaded], done, pend, ?_⟩
          have behind : front ++ (back ++ [loaded]) = (front ++ back) ++ [loaded] :=
            (List.append_assoc front back [loaded]).symm
          exact
            { ledger with
              sendQueue := by
                rw [behind, List.map_append, ← ledger.sendQueue, ← sameBytes]
                rfl
              unread := by
                have unread := ledger.unread
                rw [behind, stream_append, List.length_append, ← Nat.add_assoc, unread, ← sameBytes]
                exact congrArg _ (congrArg _ (List.append_nil _))
              resting := ledger.resting
              written := by
                rw [behind, ← List.append_assoc _ (front ++ back), List.map_append, ← ledger.written,
                  ← sameBuf]
                rfl
              credits := by
                rw [behind, List.length_append, List.length_singleton]
                change before.sendQueueSem - 1 + before.finished + _ ≤ _
                omega }
        · cases taken
          refine ⟨inv.counters, inv.double, inv.reading, inv.filling, inv.sorted,
            marks, flight, front, back, done, pend, ?_⟩
          exact { ledger with
            credits := by
              change before.sendQueueSem - 1 + before.finished + _ ≤ _
              omega }

theorem inv_txDone (inv : Inv config before) (taken : txDoneStep before = some after) :
    Inv config after := by
  obtain ⟨marks, flight, front, back, done, pend, ledger⟩ := inv.ledger
  have credits := ledger.credits
  rw [txDoneStep] at taken
  split at taken
  · cases taken
  · cases taken
    refine ⟨inv.counters, inv.double, inv.reading, inv.filling, inv.sorted,
      marks, flight, front, back, done, pend, ?_⟩
    exact { ledger with
      credits := by
        change before.sendQueueSem + 1 + (before.finished - 1) + _ ≤ _
        omega }

/-- The register tells how much is there, or that there is nothing. -/
theorem look_cases {mode : ReadCounters.Sdio.RxMode} {counters next : ReadCounters.Sdio.State}
    {word : UInt32} (taken : ReadCounters.Sdio.step mode counters (.look (some word)) = some next) :
    counters.pc = .idle ∧ (next = counters ∨
      ∃ len, next = { counters with pc := .transferring len counters.loaded }) := by
  simp only [ReadCounters.Sdio.step] at taken
  split at taken
  · rename_i may
    refine ⟨may.1, ?_⟩
    split at taken
    · cases taken
      exact Or.inl rfl
    · split at taken
      · cases taken
        exact Or.inl rfl
      · cases taken
        exact Or.inr ⟨_, rfl⟩
  · cases taken

theorem inv_look {word : UInt32} (inv : Inv config before)
    (taken : lookStep config before word = some after) : Inv config after := by
  obtain ⟨marks, flight, front, back, done, pend, ledger⟩ := inv.ledger
  rw [lookStep] at taken
  split at taken
  · obtain ⟨counters, looked, taken⟩ := Option.bind_eq_some_iff.mp taken
    have counting := ReadCounters.Sdio.inv_look inv.counters looked
    obtain ⟨idle, same | ⟨len, found⟩⟩ := look_cases looked
    · rw [same, idle] at taken
      cases taken
      exact ⟨inv.counters, inv.double, inv.reading, inv.filling, inv.sorted,
        marks, flight, front, back, done, pend, ledger⟩
    · have none_yet : front = [] := by
        apply ledger.resting
        intro len seen here
        rw [idle] at here
        cases here
      subst found
      obtain ⟨host, begun, same⟩ := Option.map_eq_some_iff.mp taken
      obtain ⟨_, untouched, rxbuff, filling⟩ := begin_untouched begun
      have all := (counting.takes len before.counters.loaded rfl).1
      subst same none_yet
      refine ⟨counting, SdioDoubleBuffer.inv_step inv.double begun, ?_, ?_, inv.sorted,
        marks, flight, back, [], done, pend, ?_⟩
      · intro other size here
        rw [filling] at here
        cases here
        exact ⟨len, before.counters.loaded, rfl, rfl⟩
      · intro word seen here
        cases here
        exact ⟨rxbuff, filling⟩
      · exact
          { sendQueue := by
              rw [List.append_nil]
              exact ledger.sendQueue
            unread := by
              rw [List.append_nil]
              exact ledger.unread
            transferring := by
              intro word seen here
              cases here
              have unread := ledger.unread
              change before.counters.read + len.toNat = before.counters.loaded at all
              rw [List.nil_append] at unread
              omega
            resting := fun other => absurd rfl (other len before.counters.loaded)
            records := untouched.records.trans ledger.records
            inFlight := untouched.inFlight.trans ledger.inFlight
            written := by
              rw [List.append_nil]
              exact ledger.written
            split := ledger.split
            passed := untouched.passed.trans ledger.passed
            queued := ledger.queued
            credits := by
              rw [List.append_nil]
              exact ledger.credits }
  · cases taken

theorem inv_readBlock (inv : Inv config before) (taken : readBlockStep config before = some after) :
    Inv config after := by
  obtain ⟨marks, flight, front, back, done, pend, ledger⟩ := inv.ledger
  rw [readBlockStep] at taken
  cases pc : before.counters.pc with
  | idle | clearing _ _ =>
      rw [pc] at taken
      cases taken
  | transferring len seen =>
      rw [pc] at taken
      obtain ⟨counters, counted, taken⟩ := Option.bind_eq_some_iff.mp taken
      obtain ⟨host, read, same⟩ := Option.map_eq_some_iff.mp taken
      have size := ledger.transferring len seen pc
      have near : ReadCounters.Sdio.Near before.counters .readBlock := trivial
      have counting := ReadCounters.Sdio.inv_step inv.counters near counted
      have doubled := SdioDoubleBuffer.inv_step inv.double read
      obtain ⟨rxbuff, asked, reader, checks, noFlight, flying, records, passed⟩ := readBlock_chunk read
      simp only [ReadCounters.Sdio.step, pc] at counted
      cases counted
      have exactly : asked = len.toNat := by
        obtain ⟨word, since, here, same⟩ := inv.reading rxbuff asked reader
        rw [pc] at here
        cases here
        exact same.symm
      have bytes : before.sendQueue.flatten = stream front ++ stream back := by
        rw [ledger.sendQueue, stream_flatten, stream_append]
      have chunk : (before.sendQueue.flatten.take len.toNat ++ List.replicate
          (SdioDoubleBuffer.streamSize config.double len.toNat - len.toNat) 0).take asked =
          stream front := by
        rw [exactly, bytes, size, List.take_left, List.take_left]
      have none_before : flight = [] := by
        have here := ledger.inFlight
        rw [noFlight] at here
        exact List.map_eq_nil_iff.mp here.symm
      have finishes : finish len.toNat before.sendQueue = (front.length, back.map Loaded.bytes) := by
        rw [ledger.sendQueue, size]
        exact finish_whole front back
      subst same none_before
      refine ⟨counting, doubled, ?_, ?_, inv.sorted, marks, [front], [], back, done, pend, ?_⟩
      · intro other size here
        rw [checks] at here
        cases here
      · intro word since here
        cases here
      · exact
          { sendQueue := by
              rw [finishes]
              rfl
            unread := by
              have unread := ledger.unread
              rw [stream_append, List.length_append] at unread
              change before.counters.read + len.toNat + (stream back).length = before.counters.loaded
              omega
            transferring := by
              intro word since here
              cases here
            resting := fun _ => rfl
            records := records.trans ledger.records
            inFlight := by
              rw [flying, chunk]
              rfl
            written := by
              rw [List.flatten_singleton, List.nil_append]
              have written := ledger.written
              rw [List.flatten_nil, List.append_nil, ← List.append_assoc] at written
              exact written
            split := ledger.split
            passed := passed.trans ledger.passed
            queued := ledger.queued
            credits := by
              have credits := ledger.credits
              rw [List.length_append] at credits
              rw [finishes, List.nil_append]
              change before.sendQueueSem + (before.finished + front.length) + back.length ≤ _
              omega }

theorem inv_reader {host : SdioDoubleBuffer.State} (inv : Inv config before)
    (taken : SdioDoubleBuffer.step config.double before.host .reader = some host) :
    Inv config { before with host := host } := by
  obtain ⟨marks, flight, front, back, done, pend, ledger⟩ := inv.ledger
  obtain ⟨noneBefore, noneAfter, passed, kinds⟩ := reader_chunk taken
  have idle (word : UInt32) (seen : Nat) : before.counters.pc ≠ .transferring word seen := by
    intro here
    obtain ⟨rxbuff, filling⟩ := inv.filling word seen here
    exact noneBefore _ _ filling
  have reading (rxbuff len : Nat) (here : host.reader = .filling rxbuff len) :
      ∃ word seen, before.counters.pc = .transferring word seen ∧ word.toNat = len :=
    absurd here (noneAfter rxbuff len)
  have doubled := SdioDoubleBuffer.inv_step inv.double taken
  rcases kinds with ⟨records, noFlight, still⟩ | ⟨chunk, flag, flying, landed, records⟩
  · refine ⟨inv.counters, doubled, reading, fun word seen here => absurd here (idle word seen),
      inv.sorted, marks, flight, front, back, done, pend, ?_⟩
    exact { ledger with
      records := records.trans ledger.records
      inFlight := by
        rw [← ledger.inFlight, noFlight]
        exact still
      passed := passed.trans ledger.passed }
  · have one : ∃ frames, flight = [frames] ∧ stream frames = chunk := by
      have here := ledger.inFlight
      rw [flying] at here
      cases flight with
      | nil => cases here
      | cons frames rest =>
          cases rest with
          | nil => exact ⟨frames, rfl, (List.cons.inj here).1.symm⟩
          | cons other rest => cases here
    obtain ⟨frames, only, same⟩ := one
    subst only
    have later : ∃ more, kept (marks ++ [(frames, flag)]) = done ++ (pend ++ more) := by
      refine ⟨kept [(frames, flag)], ?_⟩
      rw [← List.append_assoc, ← ledger.split, kept, List.filter_append, List.map_append]
      rfl
    obtain ⟨more, later⟩ := later
    refine ⟨inv.counters, doubled, reading, fun word seen here => absurd here (idle word seen),
      inv.sorted, marks ++ [(frames, flag)], [], front, back, done, pend ++ more, ?_⟩
    exact { ledger with
      records := by
        rw [List.map_append, ← ledger.records, List.map_singleton, same]
        exact records
      inFlight := landed
      written := by
        have joined : ((marks ++ [(frames, flag)]).map Prod.fst).flatten =
            (marks.map Prod.fst).flatten ++ frames := by
          rw [List.map_append, List.flatten_append, List.map_singleton, List.flatten_singleton]
        have written := ledger.written
        rw [List.flatten_singleton] at written
        rw [joined, List.flatten_nil, List.append_nil]
        exact written
      split := later
      passed := passed.trans ledger.passed }

/-- What is due is what was handed over. -/
theorem due_kept {rx : RxConfig} {state : State} {marks : List (List (Loaded rx) × Bool)}
    {flight : List (List (Loaded rx))} {front back : List (Loaded rx)}
    {done pend : List (List (Loaded rx))} (ledger : Ledger rx state marks flight front back done pend) :
    state.host.due = (done ++ pend).map stream := by
  rw [← ledger.split, SdioDoubleBuffer.State.due, ledger.records, kept, List.filter_map, List.map_map,
    List.map_map]
  rfl

theorem inv_drainer (inv : Inv config before) (taken : drainerStep config before = some after) :
    Inv config after := by
  obtain ⟨marks, flight, front, back, done, pend, ledger⟩ := inv.ledger
  obtain ⟨host, drained, same⟩ := Option.map_eq_some_iff.mp taken
  obtain ⟨reader, records, inFlight, kinds⟩ := drainer_chunk inv.double drained
  have doubled := SdioDoubleBuffer.inv_step inv.double drained
  subst same
  have reading : ∀ rxbuff len, host.reader = .filling rxbuff len →
      ∃ word seen, before.counters.pc = .transferring word seen ∧ word.toNat = len :=
    fun rxbuff len here => inv.reading rxbuff len (reader ▸ here)
  have filling : ∀ word seen, before.counters.pc = .transferring word seen →
      ∃ rxbuff, host.reader = .filling rxbuff word.toNat :=
    fun word seen here => reader ▸ inv.filling word seen here
  have sorted := queueAll_sorted (pushed config before) inv.sorted
  rcases kinds with ⟨other, passed⟩ | ⟨buf, len, pushes, passed, due⟩
  · have nothing : pushed config before = [] := by
      rw [pushed]
      cases drainer : before.host.drainer with
      | push buf len => exact absurd drainer (other buf len)
      | wait | look | fetch | fetchLen _ | reset => rfl
    refine ⟨inv.counters, doubled, reading, filling, sorted, marks, flight, front, back, done, pend, ?_⟩
    exact { ledger with
      records := records.trans ledger.records
      inFlight := inFlight.trans ledger.inFlight
      passed := passed.trans ledger.passed
      queued := by
        rw [nothing]
        exact ledger.queued }
  · have last : ∃ frames, pend = [frames] ∧ stream frames = before.host.chunk buf len := by
      rw [due_kept ledger, ledger.passed, List.map_append] at due
      have one := List.append_cancel_left due
      cases pend with
      | nil => cases one
      | cons frames rest =>
          cases rest with
          | nil => exact ⟨frames, rfl, (List.cons.inj one).1⟩
          | cons other rest => exact absurd (List.cons.inj one).2 (List.cons_ne_nil _ _)
    obtain ⟨frames, only, chunk⟩ := last
    subst only
    have comes := chunk_queued frames ((before.host.content buf).drop len)
    have brought : pushed config before = (SdioStream.sdioPushDataToQueue config.rx (stream frames)
        ((before.host.content buf).drop len)).queued := by
      rw [pushed, pushes, chunk]
    refine ⟨inv.counters, doubled, reading, filling, sorted,
      marks, flight, front, back, done ++ [frames], [], ?_⟩
    exact { ledger with
      records := records.trans ledger.records
      inFlight := inFlight.trans ledger.inFlight
      split := by
        rw [List.append_nil]
        exact ledger.split
      passed := by
        rw [List.map_append, ← ledger.passed, List.map_singleton, chunk]
        exact passed
      queued := by
        intro prio
        change List.Forall₂ _ _ (before.read prio ++ queueAll before.fromSlave _ prio)
        rw [queueAll_atLevel, brought, List.flatten_append, List.flatten_singleton, List.map_append,
          atLevel_append, ← List.append_assoc]
        exact List.rel_append (ledger.queued prio) (arrive_atLevel prio comes) }

theorem inv_processRx (inv : Inv config before) (taken : processRxStep before = some after) :
    Inv config after := by
  obtain ⟨marks, flight, front, back, done, pend, ledger⟩ := inv.ledger
  obtain ⟨received, next, same⟩ := Option.map_eq_some_iff.mp taken
  have held := UartLink.nextOf_some inv.sorted next
  subst same
  refine ⟨inv.counters, inv.double, inv.reading, inv.filling, sorted_get inv.sorted held,
    marks, flight, front, back, done, pend, ?_⟩
  exact { ledger with
    queued := by
      intro prio
      rw [UartLink.read_on inv.sorted next]
      exact ledger.queued prio }

theorem inv_step {act : Act} (inv : Inv config before) (sound : Sound config before act)
    (taken : step config before act = some after) : Inv config after := by
  cases act with
  | write found queued buf => exact inv_write inv sound taken
  | txDone => exact inv_txDone inv taken
  | look word => exact inv_look inv taken
  | readBlock => exact inv_readBlock inv taken
  | readFails moved => exact False.elim sound
  | reader =>
      obtain ⟨host, read, same⟩ := Option.map_eq_some_iff.mp taken
      rw [← same]
      exact inv_reader inv read
  | drainer => exact inv_drainer inv taken
  | processRx => exact inv_processRx inv taken

end Steps

theorem inv_init (config : Config) : Inv config init where
  counters := ⟨rfl, Nat.le_refl 0, by decide, fun _ _ here => by cases here⟩
  double := SdioDoubleBuffer.inv_init
  reading := fun _ _ here => by cases here
  filling := fun _ _ here => by cases here
  sorted := fun _ => List.forall_mem_nil _
  ledger :=
    ⟨[], [], [], [], [], [],
      { sendQueue := rfl
        unread := rfl
        transferring := fun _ _ here => by cases here
        resting := fun _ => rfl
        records := rfl
        inFlight := rfl
        written := rfl
        split := rfl
        passed := rfl
        queued := fun _ => .nil
        credits := Nat.le_refl sdioSlaveQueueSize }⟩

/-- The frames of the chunks that were handed over. -/
def handedOver (chunks : List (List IfaceBuf × Bool)) : List IfaceBuf :=
  ((chunks.filter Prod.snd).map Prod.fst).flatten

/-- The frames that were written came in chunks, each whole and in order, or are on their way.
Those of the chunks that were handed over arrive in order within their class, and those of the
others are lost. -/
structure Delivered (state : State) : Prop where
  chunks : ∃ chunks held onBus pending,
    state.written = (chunks.map Prod.fst).flatten ++ held ++ onBus ∧
    state.host.records.map Prod.snd = chunks.map Prod.snd ∧
    Relays Arrives (fun prio => atLevel handlePrio prio (handedOver chunks))
      (fun prio => state.read prio ++ state.fromSlave prio)
      (fun prio => atLevel handlePrio prio pending) ∧
    (state.host.reader = .idle → held = []) ∧ (state.sendQueue = [] → onBus = []) ∧
    (state.host.Quiet → pending = [])
  all : (∀ record ∈ state.host.records, record.2 = true) → state.host.Quiet → state.sendQueue = [] →
    ∀ prio, List.Forall₂ Arrives (atLevel handlePrio prio state.written)
      (state.read prio ++ state.fromSlave prio)
  room : state.sendQueueSem + state.finished + state.sendQueue.length ≤ sdioSlaveQueueSize

section Runs
variable {config : Config} {state : State}

theorem handedOver_kept {rx : RxConfig} (marks : List (List (Loaded rx) × Bool)) :
    handedOver (marks.map fun mark => (mark.1.map Loaded.buf, mark.2)) =
      (kept marks).flatten.map Loaded.buf := by
  rw [handedOver, kept, List.filter_map, List.map_map, List.map_flatten, List.map_map]
  rfl

theorem kept_all {rx : RxConfig} {marks : List (List (Loaded rx) × Bool)}
    (all : ∀ mark ∈ marks, mark.2 = true) : kept marks = marks.map Prod.fst := by
  rw [kept, List.filter_eq_self.mpr all]

theorem inv_delivered (inv : Inv config state) : Delivered state := by
  obtain ⟨marks, flight, front, back, done, pend, ledger⟩ := inv.ledger
  have idle (here : state.host.reader = .idle) : flight = [] := by
    have flying := ledger.inFlight
    rw [SdioDoubleBuffer.State.inFlight, here] at flying
    exact List.map_eq_nil_iff.mp flying.symm
  have empty (here : state.sendQueue = []) : front ++ back = [] := by
    have queue := ledger.sendQueue
    rw [here] at queue
    exact List.map_eq_nil_iff.mp queue.symm
  have quiet (here : state.host.Quiet) : pend = [] := by
    obtain ⟨pending, due, _, settled⟩ := inv.double.pending
    rw [settled here, List.append_nil, due_kept ledger, ledger.passed, List.map_append] at due
    exact List.map_eq_nil_iff.mp (List.append_right_eq_self.mp due)
  refine ⟨⟨marks.map fun mark => (mark.1.map Loaded.buf, mark.2), flight.flatten.map Loaded.buf,
    (front ++ back).map Loaded.buf, pend.flatten.map Loaded.buf, ?_, ?_, ?_, ?_, ?_, ?_⟩, ?_, ?_⟩
  · rw [ledger.written, List.map_append, List.map_append, List.map_flatten, List.map_map, List.map_map]
    rfl
  · rw [ledger.records, List.map_map, List.map_map]
    rfl
  · intro prio
    refine ⟨atLevel handlePrio prio (done.flatten.map Loaded.buf), ?_, ledger.queued prio⟩
    rw [handedOver_kept, ledger.split, List.flatten_append, List.map_append]
    exact atLevel_append _ _ _ _
  · intro here
    rw [idle here]
    rfl
  · intro here
    rw [empty here]
    rfl
  · intro here
    rw [quiet here]
    rfl
  · intro all here none_left prio
    have every : ∀ mark ∈ marks, mark.2 = true := by
      intro mark member
      have record : (stream mark.1, mark.2) ∈ state.host.records := by
        rw [ledger.records]
        exact List.mem_map.mpr ⟨mark, member, rfl⟩
      exact all _ record
    have whole : marks.map Prod.fst = done := by
      rw [← kept_all every, ledger.split, quiet here, List.append_nil]
    rw [ledger.written, whole, idle here.1, empty none_left, List.flatten_nil, List.append_nil,
      List.append_nil]
    exact ledger.queued prio
  · have credits := ledger.credits
    rw [ledger.sendQueue, List.length_map]
    exact credits

/-- Over every order of the slave's writes, the reads of the host and the steps of its three
tasks, as long as no block read fails, what the slave writes comes to the host's queues frame by
frame, except for the chunks that are complete while the last one is still being drained, and
these are whole frames too. -/
theorem sdio_frames_accounted (config : Config) (run : Run (step config) (Sound config) init state) :
    Delivered state := by
  have inv : Inv config state := by
    apply run.invariant
    · exact inv_init config
    · exact fun _ _ _ _ inv sound taken => inv_step inv sound taken
  exact inv_delivered inv

end Runs

/-- Two frames in one chunk; a third one is read while they are still to be drained. -/
def lateFrame : List Act :=
  [.write true true slaveEvent, .write true true slaveEvent, .look 30, .readBlock, .reader, .reader,
    .reader, .reader, .write true true slaveEvent, .txDone, .look 45, .readBlock, .reader,
    .drainer, .drainer, .drainer, .drainer, .drainer, .drainer]

theorem sdio_frames_accounted_late : ∃ state,
    Run (step ⟨true, false⟩) (Sound ⟨true, false⟩) init state ∧ state.host.Quiet ∧
      state.host.records.map Prod.snd = [true, false] ∧ state.sendQueueSem = 18 ∧ Delivered state := by
  have offered : Offered (sdioConfig true) 0 slaveEvent := by decide
  have given : Admits (step ⟨true, false⟩) (Sound ⟨true, false⟩) init lateFrame :=
    ⟨offered, offered, trivial, trivial, trivial, trivial, trivial, trivial, offered, trivial, trivial,
      trivial, trivial, trivial, trivial, trivial, trivial, trivial, trivial, trivial⟩
  have run := @admitted_run _ _ (step ⟨true, false⟩) (Sound ⟨true, false⟩) init _ lateFrame given rfl
  exact ⟨_, run, ⟨rfl, rfl, rfl⟩, rfl, rfl, sdio_frames_accounted ⟨true, false⟩ run⟩

end EspHosted.SdioUplink

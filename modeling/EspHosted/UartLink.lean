import EspHosted.LinkOrder
import EspHosted.UartSlave
import EspHosted.WriteTasks

/-!
The UART between the write task of the host, the receiving tasks of both sides and the slave's
`h_uart_write`. The wire keeps the bytes in order, and a round is taken once all it reads has
come. What was put on either side and what was read on the other are recorded in the state.
-/

namespace EspHosted.UartLink
open SpiFrames HostFrames SlaveFrames RxPackets QueueBank GuardedRun UartReceive UartSlave
open LinkOrder (rxPrio handlePrio)
open TxFrames (Message)
open WriteTasks (Numbered Served handed)

/-- All that a round reads has come: a header, and what it announces unless that is too much. -/
def comes (config : RxConfig) (wire : List UInt8) : Bool :=
  payloadHeaderSize ≤ wire.length &&
    (config.bufferSize < (decodeHeader wire).len.toNat + payloadHeaderSize ||
      (decodeHeader wire).len.toNat + payloadHeaderSize ≤ wire.length)

/-- One direction behind its sender. -/
structure Downlink where
  wire : List UInt8
  scratch : List UInt8
  rxQueue : Prio → List SlaveBuf
  read : Prio → List SlaveBuf

structure Uplink where
  wire : List UInt8
  scratch : List UInt8
  fromSlave : Prio → List Received
  read : Prio → List Received
  written : List IfaceBuf

structure State (checksum : Bool) (semMax : Nat) where
  host : WriteTasks.State (WriteTasks.uart checksum semMax)
  down : Downlink
  up : Uplink

/-- The scratch buffers come from `malloc`. -/
def init (checksum : Bool) (semMax : Nat) (slaveScratch hostScratch : List UInt8) :
    State checksum semMax where
  host := WriteTasks.init _
  down := ⟨[], slaveScratch, fun _ => [], fun _ => []⟩
  up := ⟨[], hostScratch, fun _ => [], fun _ => [], []⟩

inductive Act where
  | host (act : WriteTasks.Act)
  | slaveRound
  | slaveRead
  | slaveWrite (wifiFlowCtrlEn : UInt8) (found : Bool) (buf : IfaceBuf)
  | hostRound
  | processRx

/-- The bytes of the writes that the rounds have made. -/
def wroteBytes {config : RxConfig} (rounds : List (WriteTasks.Round config)) : List UInt8 :=
  rounds.flatMap fun round => round.attempts.flatMap WriteTasks.Attempt.bytes

variable {checksum : Bool} {semMax : Nat}

def hostStep (state : State checksum semMax) (act : WriteTasks.Act) : Option (State checksum semMax) :=
  (WriteTasks.step state.host act).map fun host =>
    { state with
      host := host
      down.wire :=
        state.down.wire ++ wroteBytes (host.rounds.drop state.host.rounds.length) }

def slaveRoundStep (config : RxConfig) (down : Downlink) : Option Downlink :=
  if comes config down.wire then
    let round := rxRound config down.scratch (streamAnswers down.wire)
    some
      { down with
        wire := down.wire.drop round.taken
        scratch := round.scratch
        rxQueue :=
          match round.queued with
          | none => down.rxQueue
          | some buf => put down.rxQueue (rxPrio buf) buf }
  else none

/-- The item in front of the first queue that is not empty. -/
def nextOf {Item : Type} (bank : Prio → List Item) : Option Item :=
  (bank .serial).head?.or ((bank .bt).head?.or (bank .others).head?)

/-- `h_uart_read`. -/
def slaveReadStep (down : Downlink) : Option Downlink :=
  (nextOf down.rxQueue).map fun buf =>
    { down with
      rxQueue := Function.update down.rxQueue (rxPrio buf) (down.rxQueue (rxPrio buf)).tail
      read := put down.read (rxPrio buf) buf }

def slaveWriteStep (checksum : Bool) (up : Uplink) (wifiFlowCtrlEn : UInt8) (found : Bool)
    (buf : IfaceBuf) : Uplink :=
  match hUartWrite checksum found wifiFlowCtrlEn buf with
  | none => up
  | some bytes => { up with wire := up.wire ++ bytes, written := up.written ++ [buf] }

def receivedPrio (received : Received) : Prio := prioOf received.ifType

def hostRoundStep (config : RxConfig) (up : Uplink) : Option Uplink :=
  if comes config up.wire then
    let round := readRound config up.scratch (streamAnswers up.wire)
    some
      { up with
        wire := up.wire.drop round.taken
        scratch := round.scratch
        fromSlave :=
          match round.queued with
          | none => up.fromSlave
          | some received => put up.fromSlave (receivedPrio received) received }
  else none

/-- What `h_uart_process_rx_task` takes. -/
def processRxStep (up : Uplink) : Option Uplink :=
  (nextOf up.fromSlave).map fun received =>
    { up with
      fromSlave :=
        Function.update up.fromSlave (receivedPrio received) (up.fromSlave (receivedPrio received)).tail
      read := put up.read (receivedPrio received) received }

def step (state : State checksum semMax) : Act → Option (State checksum semMax)
  | .host act => hostStep state act
  | .slaveRound =>
      (slaveRoundStep (uartConfig checksum) state.down).map fun down => { state with down := down }
  | .slaveRead => (slaveReadStep state.down).map fun down => { state with down := down }
  | .slaveWrite wifiFlowCtrlEn found buf =>
      some { state with up := slaveWriteStep checksum state.up wifiFlowCtrlEn found buf }
  | .hostRound =>
      (hostRoundStep (uartConfig checksum) state.up).map fun up => { state with up := up }
  | .processRx => (processRxStep state.up).map fun up => { state with up := up }

/-- No wake-up of the host finds its queues empty, its writes succeed, and both sides are given
what their callers give. -/
def Sound (state : State checksum semMax) : Act → Prop
  | .host act => Served state.host act ∧
      match act with
      | .call request _ _ => Handed request.frame.buf
      | .send bus _ => bus.writes 0 = true
      | .post | .wake | .dequeue => True
  | .slaveWrite wifiFlowCtrlEn _ buf => Offered (uartConfig checksum) wifiFlowCtrlEn buf
  | .slaveRound | .slaveRead | .hostRound | .processRx => True

def messagePrio {config : RxConfig} (message : Message config) : Prio := prioOf message.frame.buf.ifType
def numberedPrio {config : RxConfig} (item : Numbered config) : Prio := messagePrio item.message

/-- What the host holds for the wire, in hand or queued. -/
def waiting {driver : WriteTasks.Driver} (host : WriteTasks.State driver) (prio : Prio) :
    List (Message driver.config) :=
  (atLevel numberedPrio prio (handed host.pc) ++ host.toSlave prio).map Numbered.message

/-- The frames that carry something. -/
def carrying (bufs : List IfaceBuf) : List IfaceBuf := bufs.filter fun buf => buf.payloadLen ≠ 0

/-- In either direction the frames of a class come through once, unchanged and in the order in
which they were put, and a frame on the wire is there as a whole. -/
structure InOrder (state : State checksum semMax) : Prop where
  toSlave : ∃ onWire, (state.down.wire = [] → onWire = []) ∧
    Relays Reaches (fun prio => atLevel messagePrio prio state.host.queued)
      (fun prio => state.down.read prio ++ state.down.rxQueue prio)
      (fun prio => atLevel messagePrio prio onWire ++ waiting state.host prio)
  toHost : ∃ onWire, (state.up.wire = [] → onWire = []) ∧
    Relays Arrives (fun prio => atLevel handlePrio prio (carrying state.up.written))
      (fun prio => state.up.read prio ++ state.up.fromSlave prio)
      (fun prio => atLevel handlePrio prio (carrying onWire))
  slaveReady : state.down.wire ≠ [] → comes (uartConfig checksum) state.down.wire = true
  hostReady : state.up.wire ≠ [] → comes (uartConfig checksum) state.up.wire = true

section Banks
variable {Item : Type} {levelOf : Item → Prio} {bank read : Prio → List Item} {item : Item}

theorem nextOf_some (sorted : Sorted levelOf bank) (next : nextOf bank = some item) :
    bank (levelOf item) = item :: (bank (levelOf item)).tail := by
  have front : ∀ {prio : Prio}, (bank prio).head? = some item →
      bank (levelOf item) = item :: (bank (levelOf item)).tail := by
    intro prio head
    have held := List.eq_cons_of_mem_head? (Option.mem_def.mpr head)
    have level : levelOf item = prio := sorted prio item (List.mem_of_mem_head? (Option.mem_def.mpr head))
    rw [level]
    exact held
  rcases Option.or_eq_some_iff.mp next with serial | ⟨_, later⟩
  · exact front serial
  · rcases Option.or_eq_some_iff.mp later with bt | ⟨_, others⟩
    · exact front bt
    · exact front others

/-- What is read leaves its queue. -/
theorem read_on (sorted : Sorted levelOf bank) (next : nextOf bank = some item) (prio : Prio) :
    put read (levelOf item) item prio ++
        Function.update bank (levelOf item) (bank (levelOf item)).tail prio =
      read prio ++ bank prio := by
  rw [put_atLevel, List.append_assoc, ← get_atLevel (nextOf_some sorted next)]

end Banks

/-! The wire to the slave. -/

section Down
variable {config : RxConfig}

/-- A message whose frame is on the wire. -/
structure Flying (config : RxConfig) where
  message : Message config
  behind : List UInt8
  handed : Handed message.frame.buf

def Flying.bytes (flying : Flying config) : List UInt8 := hostFrame flying.message flying.behind

theorem frame_comes (frame : Frame config) (rest : List UInt8) :
    comes config (frame.bytes ++ rest) = true := by
  have split : frame.bytes ++ rest = frame.header ++ (frame.payload ++ rest) :=
    List.append_assoc _ _ _
  have long : frame.payload.length + payloadHeaderSize ≤ (frame.bytes ++ rest).length := by
    rw [List.length_append, frame.length]
    omega
  have len : (decodeHeader (frame.bytes ++ rest)).len.toNat = frame.payload.length := by
    rw [split, decodeHeader_append frame.whole, frame.len]
  rw [comes, len, Bool.and_eq_true, Bool.or_eq_true, decide_eq_true_eq, decide_eq_true_eq,
    decide_eq_true_eq]
  omega

theorem no_comes : comes config [] = false := rfl

/-- The slave takes the frame in front off the wire. -/
theorem slaveRound_front {down next : Downlink} {first : Flying config} {rest : List UInt8}
    (small : config.maxPayloadSize < 65535) (wire : down.wire = first.bytes ++ rest)
    (taken : slaveRoundStep config down = some next) :
    next.wire = rest ∧ next.read = down.read ∧
      ∃ buf, Reaches first.message buf ∧ next.rxQueue = put down.rxQueue (rxPrio buf) buf := by
  obtain ⟨frame, sends⟩ := message_sends first.message first.handed first.behind
  have front : down.wire = frame.bytes ++ rest := by rw [wire, Flying.bytes, sends.bytes]
  obtain ⟨count, queued⟩ := rxRound_frame frame down.scratch rest
  rw [slaveRoundStep, front, if_pos (frame_comes frame rest)] at taken
  have same := Option.some.inj taken
  subst same
  dsimp only
  rw [count, queued, List.drop_left]
  exact ⟨rfl, rfl, frame.queued, queued_reaches first.handed sends small, rfl⟩

end Down

/-! What a step of the host does to the messages it holds. -/

section Host
variable {driver : WriteTasks.Driver} {host next : WriteTasks.State driver} {prio : Prio}

theorem single_message (number : Nat) (message : Message driver.config) :
    (atLevel numberedPrio prio [⟨number, message⟩]).map Numbered.message =
      atLevel messagePrio prio [message] := by
  rw [atLevel_single, atLevel_single, numberedPrio]
  split
  · rfl
  · rfl

/-- The bytes on the wire, and the messages the step leaves with the host. -/
inductive Moves (host next : WriteTasks.State driver) : List UInt8 → Prop where
  | still (queued : next.queued = host.queued) (same : waiting next = waiting host) :
      Moves host next []
  | queues (message : Message driver.config) (queued : next.queued = host.queued ++ [message])
      (behind : ∀ prio, waiting next prio = waiting host prio ++ atLevel messagePrio prio [message])
      (handed : Handed message.frame.buf) : Moves host next []
  | writes (message : Message driver.config) (memory : List UInt8) (queued : next.queued = host.queued)
      (front : ∀ prio, waiting host prio = atLevel messagePrio prio [message] ++ waiting next prio)
      (known : message ∈ host.queued) : Moves host next (hostFrame message memory)

theorem none_added (rounds : List (WriteTasks.Round driver.config)) :
    wroteBytes (rounds.drop rounds.length) = [] := by
  rw [List.drop_length]
  rfl

/-- What a step has put on the wire. -/
def newBytes (host next : WriteTasks.State driver) : List UInt8 :=
  wroteBytes (next.rounds.drop host.rounds.length)

theorem still_moves (queued : next.queued = host.queued) (rounds : next.rounds = host.rounds)
    (pc : handed next.pc = handed host.pc) (toSlave : next.toSlave = host.toSlave) :
    Moves host next (newBytes host next) := by
  rw [newBytes, rounds, none_added]
  refine .still queued ?_
  funext prio
  rw [waiting, waiting, pc, toSlave]

theorem call_moves {request : TxFrames.Request} {transportUp ok : Bool}
    (handed : Handed request.frame.buf) :
    Moves host (WriteTasks.callStep host request transportUp ok)
      (newBytes host (WriteTasks.callStep host request transportUp ok)) := by
  rw [WriteTasks.callStep]
  cases called : TxFrames.espHostedTx driver.config transportUp request with
  | none => exact still_moves rfl rfl rfl rfl
  | some message =>
      obtain ⟨_, same⟩ := Option.dite_none_right_eq_some.mp called
      have frame : message.frame = request.frame := by rw [← Option.some.inj same]
      dsimp only
      split
      · rw [newBytes, none_added]
        refine .queues message rfl ?_ (by rw [frame]; exact handed)
        intro prio
        have stored := put_atLevel numberedPrio host.toSlave ⟨host.queued.length, message⟩ prio
        rw [waiting, waiting, ← single_message host.queued.length message, ← List.map_append,
          List.append_assoc, ← stored]
        rfl
      · exact still_moves rfl rfl rfl rfl

theorem dequeue_moves (sorted : Sorted numberedPrio host.toSlave)
    (taken : WriteTasks.dequeueStep host = some next) :
    Moves host next (newBytes host next) := by
  cases WriteTasks.dequeue_cases taken with
  | finds prio item rest pc held =>
      rw [newBytes, none_added]
      refine .still rfl ?_
      have level : numberedPrio item = prio :=
        sorted prio item (by rw [held]; exact List.mem_cons_self)
      subst level
      funext prio
      rw [waiting, waiting, pc, get_atLevel held prio]
      rfl
  | passes prio next pc empty follows => exact still_moves rfl rfl (by rw [pc]; rfl) rfl
  | misses pc empty => exact still_moves rfl rfl (by rw [pc]; rfl) rfl

theorem sorted_step {act : WriteTasks.Act} (sorted : Sorted numberedPrio host.toSlave)
    (taken : WriteTasks.step host act = some next) : Sorted numberedPrio next.toSlave := by
  cases act with
  | call request transportUp ok =>
      rw [← Option.some.inj taken, WriteTasks.callStep]
      split
      · exact sorted
      · split
        · rename_i message _ _
          exact sorted_put sorted ⟨host.queued.length, message⟩
        · exact sorted
  | post =>
      obtain ⟨_, rfl⟩ := WriteTasks.post_cases taken
      exact sorted
  | wake =>
      obtain ⟨_, _, rfl⟩ := WriteTasks.wake_cases taken
      exact sorted
  | dequeue =>
      cases WriteTasks.dequeue_cases taken with
      | finds prio item rest pc held => exact sorted_get sorted held
      | passes prio next pc empty follows => exact sorted
      | misses pc empty => exact sorted
  | send bus memory =>
      obtain ⟨_, _, rfl⟩ := WriteTasks.send_cases taken
      exact sorted

end Host

/-- A message that was found is written once, whole. -/
theorem uart_writes {bus : WriteTasks.Bus} (writes : bus.writes 0 = true)
    (message : Message (WriteTasks.uart checksum semMax).config) (memory : List UInt8) :
    (WriteTasks.startedAttempts (WriteTasks.uart checksum semMax) message bus memory).flatMap
      WriteTasks.Attempt.bytes = hostFrame message memory := by
  rw [WriteTasks.started_written, WriteTasks.write]
  show (WriteTasks.writeLoop _ _ bus.writes 1).flatMap _ = _
  rw [WriteTasks.writeLoop, writes, if_pos rfl, List.flatMap_singleton]
  rfl

theorem send_moves {host next : WriteTasks.State (WriteTasks.uart checksum semMax)}
    {bus : WriteTasks.Bus} {memory : List UInt8} (inv : WriteTasks.Inv host)
    (writes : bus.writes 0 = true) (taken : WriteTasks.sendStep host bus memory = some next) :
    Moves host next (newBytes host next) := by
  obtain ⟨found, pc, rfl⟩ := WriteTasks.send_cases taken
  obtain ⟨item, rfl, listed, handle⟩ := inv.held found pc
  have attempts : (WriteTasks.turn (WriteTasks.uart checksum semMax) host.locals bus
      (WriteTasks.memoryAt (some item) memory)).attempts =
        WriteTasks.startedAttempts (WriteTasks.uart checksum semMax) item.message bus memory := by
    rw [WriteTasks.turn_message item.message inv.needed handle, WriteTasks.started_written,
      WriteTasks.memoryAt]
  have bytes : newBytes host
      { host with
        locals := (WriteTasks.turn (WriteTasks.uart checksum semMax) host.locals bus
          (WriteTasks.memoryAt (some item) memory)).locals
        freed := host.freed ++ (WriteTasks.turn (WriteTasks.uart checksum semMax) host.locals bus
          (WriteTasks.memoryAt (some item) memory)).freed
        rounds := host.rounds ++ [⟨some item, bus, memory,
          (WriteTasks.turn (WriteTasks.uart checksum semMax) host.locals bus
            (WriteTasks.memoryAt (some item) memory)).attempts⟩]
        pc := .idle } = hostFrame item.message memory := by
    rw [newBytes, List.drop_left, wroteBytes, List.flatMap_singleton]
    dsimp only
    rw [attempts, uart_writes writes]
  rw [bytes]
  refine .writes item.message memory rfl ?_ (List.mem_of_getElem? listed)
  intro prio
  rw [waiting, waiting, pc, ← single_message item.number item.message, ← List.map_append]
  rfl

theorem host_moves {host next : WriteTasks.State (WriteTasks.uart checksum semMax)}
    {act : WriteTasks.Act} (inv : WriteTasks.Inv host) (sorted : Sorted numberedPrio host.toSlave)
    (sound : match act with
      | .call request _ _ => Handed request.frame.buf
      | .send bus _ => bus.writes 0 = true
      | .post | .wake | .dequeue => True)
    (taken : WriteTasks.step host act = some next) : Moves host next (newBytes host next) := by
  cases act with
  | call request transportUp ok =>
      rw [← Option.some.inj taken]
      exact call_moves sound
  | post =>
      obtain ⟨_, rfl⟩ := WriteTasks.post_cases taken
      exact still_moves rfl rfl rfl rfl
  | wake =>
      obtain ⟨pc, _, rfl⟩ := WriteTasks.wake_cases taken
      exact still_moves rfl rfl (by rw [pc]; rfl) rfl
  | dequeue => exact dequeue_moves sorted taken
  | send bus memory => exact send_moves inv sound taken

/-- The messages on the wire follow one another there, and behind them come those the host
holds. -/
def Downward {driver : WriteTasks.Driver} (host : WriteTasks.State driver) (down : Downlink) : Prop :=
  ∃ onWire : List (Flying driver.config), down.wire = onWire.flatMap Flying.bytes ∧
    Relays Reaches (fun prio => atLevel messagePrio prio host.queued)
      (fun prio => down.read prio ++ down.rxQueue prio)
      (fun prio => atLevel messagePrio prio (onWire.map Flying.message) ++ waiting host prio)

structure DownInv (host : WriteTasks.State (WriteTasks.uart checksum semMax)) (down : Downlink) :
    Prop where
  task : WriteTasks.Inv host
  sorted : Sorted numberedPrio host.toSlave
  handed : ∀ message ∈ host.queued, Handed message.frame.buf
  rxSorted : Sorted rxPrio down.rxQueue
  downward : Downward host down

section DownSteps
variable {host next : WriteTasks.State (WriteTasks.uart checksum semMax)} {down after : Downlink}

theorem downward_moves {bytes : List UInt8} (handed : ∀ message ∈ host.queued, Handed message.frame.buf)
    (downward : Downward host down) (moves : Moves host next bytes) :
    Downward next { down with wire := down.wire ++ bytes } := by
  obtain ⟨onWire, wire, relays⟩ := downward
  cases moves with
  | still queued same =>
      refine ⟨onWire, by rw [List.append_nil, wire], ?_⟩
      rw [queued, same]
      exact relays
  | queues message queued behind _ =>
      refine ⟨onWire, by rw [List.append_nil, wire], ?_⟩
      refine relays_enter (fun prio => atLevel messagePrio prio [message]) relays ?_ ?_
      · intro prio
        rw [queued, atLevel_append]
      · intro prio
        rw [behind prio, List.append_assoc]
  | writes message memory queued front known =>
      refine ⟨onWire ++ [⟨message, memory, handed message known⟩], ?_, ?_⟩
      · rw [List.flatMap_append, List.flatMap_singleton, wire]
        rfl
      · rw [queued]
        refine relays_same relays (fun _ => rfl) (fun _ => rfl) ?_
        intro prio
        rw [List.map_append, atLevel_append, List.append_assoc, front prio]
        rfl

theorem handed_moves {bytes : List UInt8} (handed : ∀ message ∈ host.queued, Handed message.frame.buf)
    (moves : Moves host next bytes) : ∀ message ∈ next.queued, Handed message.frame.buf := by
  cases moves with
  | still queued _ | writes _ _ queued _ _ =>
      rw [queued]
      exact handed
  | queues message queued _ new =>
      rw [queued]
      intro other member
      rcases List.mem_append.mp member with older | last
      · exact handed other older
      · rw [List.mem_singleton.mp last]
        exact new

theorem downInv_round (inv : DownInv host down)
    (taken : slaveRoundStep (uartConfig checksum) down = some after) : DownInv host after := by
  obtain ⟨onWire, wire, relays⟩ := inv.downward
  cases onWire with
  | nil =>
      rw [slaveRoundStep, wire, List.flatMap_nil, no_comes, if_neg Bool.false_ne_true] at taken
      cases taken
  | cons first others =>
      rw [List.flatMap_cons] at wire
      obtain ⟨rest, read, buf, reaches, rxQueue⟩ :=
        slaveRound_front (show 1588 < 65535 by decide) wire taken
      refine ⟨inv.task, inv.sorted, inv.handed, ?_, others, rest, ?_⟩
      · rw [rxQueue]
        exact sorted_put inv.rxSorted buf
      · refine relays_leave (fun prio => atLevel messagePrio prio [first.message])
          (fun prio => atLevel rxPrio prio [buf]) relays ?_ ?_ ?_
        · intro prio
          rw [← List.append_assoc, ← atLevel_append]
          rfl
        · intro prio
          refine relays_single reaches ?_ prio
          rw [rxPrio, messagePrio, reaches.ifType]
        · intro prio
          rw [read, rxQueue, put_atLevel, List.append_assoc]

theorem downInv_read (inv : DownInv host down) (taken : slaveReadStep down = some after) :
    DownInv host after := by
  obtain ⟨buf, next, rfl⟩ := Option.map_eq_some_iff.mp taken
  obtain ⟨onWire, wire, relays⟩ := inv.downward
  refine ⟨inv.task, inv.sorted, inv.handed, sorted_get inv.rxSorted (nextOf_some inv.rxSorted next),
    onWire, wire, relays_same relays (fun _ => rfl) ?_ (fun _ => rfl)⟩
  exact read_on inv.rxSorted next

end DownSteps

/-! The wire to the host. -/

/-- What `h_uart_write` put on the wire. -/
structure Sent (config : RxConfig) where
  wifiFlowCtrlEn : UInt8
  found : Bool
  buf : IfaceBuf
  bytes : List UInt8
  offered : Offered config wifiFlowCtrlEn buf
  wrote : hUartWrite config.checksum found wifiFlowCtrlEn buf = some bytes

structure UpInv (config : RxConfig) (up : Uplink) : Prop where
  sorted : Sorted receivedPrio up.fromSlave
  upward : ∃ onWire : List (Sent config), up.wire = onWire.flatMap Sent.bytes ∧
    Relays Arrives (fun prio => atLevel handlePrio prio (carrying up.written))
      (fun prio => up.read prio ++ up.fromSlave prio)
      (fun prio => atLevel handlePrio prio (carrying (onWire.map Sent.buf)))

section UpSteps
variable {config : RxConfig} {up next : Uplink}

theorem carrying_append (bufs others : List IfaceBuf) :
    carrying (bufs ++ others) = carrying bufs ++ carrying others := List.filter_append bufs others

theorem sent_comes (sent : Sent config) (rest : List UInt8) :
    comes config (sent.bytes ++ rest) = true := by
  obtain ⟨frame, payload, header⟩ := write_frame sent.offered
  have bytes : sent.bytes = frame.bytes := by
    rw [hUartWrite_some sent.wrote, Frame.bytes, payload, header]
  rw [bytes]
  exact frame_comes frame rest

theorem upInv_write {wifiFlowCtrlEn : UInt8} {found : Bool} {buf : IfaceBuf}
    (offered : Offered config wifiFlowCtrlEn buf) (inv : UpInv config up) :
    UpInv config (slaveWriteStep config.checksum up wifiFlowCtrlEn found buf) := by
  rw [slaveWriteStep]
  cases wrote : hUartWrite config.checksum found wifiFlowCtrlEn buf with
  | none => exact inv
  | some bytes =>
      obtain ⟨onWire, wire, relays⟩ := inv.upward
      refine ⟨inv.sorted, onWire ++ [⟨wifiFlowCtrlEn, found, buf, bytes, offered, wrote⟩], ?_, ?_⟩
      · rw [List.flatMap_append, List.flatMap_singleton, wire]
      · refine relays_enter (fun prio => atLevel handlePrio prio (carrying [buf])) relays ?_ ?_
        · intro prio
          rw [carrying_append, atLevel_append]
        · intro prio
          rw [List.map_append, carrying_append, atLevel_append]
          rfl

/-- A round of the host takes what is in front off the wire. -/
theorem hostRound_front {first : Sent config} {rest : List UInt8} (wire : up.wire = first.bytes ++ rest)
    (taken : hostRoundStep config up = some next) :
    next.wire = rest ∧ next.read = up.read ∧ next.written = up.written ∧
      ((carrying [first.buf] = [] ∧ next.fromSlave = up.fromSlave) ∨
        (carrying [first.buf] = [first.buf] ∧ ∃ received, Arrives first.buf received ∧
          next.fromSlave = put up.fromSlave (receivedPrio received) received)) := by
  obtain ⟨count, outcome⟩ := readRound_write first.offered first.wrote up.scratch rest
  rw [hostRoundStep, wire, if_pos (sent_comes first rest)] at taken
  have same := Option.some.inj taken
  subst same
  dsimp only
  rw [count, List.drop_left]
  refine ⟨rfl, rfl, rfl, ?_⟩
  rcases outcome with ⟨empty, queued⟩ | ⟨positive, received, queued, arrives⟩
  · rw [queued]
    exact Or.inl ⟨List.filter_cons_of_neg (by simp [empty]), rfl⟩
  · rw [queued]
    exact Or.inr ⟨List.filter_cons_of_pos (decide_eq_true positive), received, arrives, rfl⟩

theorem upInv_round (inv : UpInv config up) (taken : hostRoundStep config up = some next) :
    UpInv config next := by
  obtain ⟨onWire, wire, relays⟩ := inv.upward
  cases onWire with
  | nil =>
      rw [hostRoundStep, wire, List.flatMap_nil, no_comes, if_neg Bool.false_ne_true] at taken
      cases taken
  | cons first others =>
      rw [List.flatMap_cons] at wire
      obtain ⟨rest, read, written, outcome⟩ := hostRound_front wire taken
      have split (prio : Prio) : atLevel handlePrio prio (carrying ((first :: others).map Sent.buf)) =
          atLevel handlePrio prio (carrying [first.buf]) ++
            atLevel handlePrio prio (carrying (others.map Sent.buf)) := by
        rw [← atLevel_append, ← carrying_append]
        rfl
      rcases outcome with ⟨dropped, fromSlave⟩ | ⟨kept, received, arrives, fromSlave⟩
      · refine ⟨by rw [fromSlave]; exact inv.sorted, others, rest, ?_⟩
        rw [read, written, fromSlave]
        refine relays_same relays (fun _ => rfl) (fun _ => rfl) ?_
        intro prio
        rw [split prio, dropped]
        rfl
      · refine ⟨by rw [fromSlave]; exact sorted_put inv.sorted received, others, rest, ?_⟩
        rw [written]
        refine relays_leave (fun prio => atLevel handlePrio prio (carrying [first.buf]))
          (fun prio => atLevel receivedPrio prio [received]) relays split ?_ ?_
        · intro prio
          rw [kept]
          refine relays_single arrives ?_ prio
          rw [receivedPrio, handlePrio, arrives.ifType]
        · intro prio
          rw [read, fromSlave, put_atLevel, List.append_assoc]

theorem upInv_process (inv : UpInv config up) (taken : processRxStep up = some next) :
    UpInv config next := by
  obtain ⟨received, front, rfl⟩ := Option.map_eq_some_iff.mp taken
  obtain ⟨onWire, wire, relays⟩ := inv.upward
  refine ⟨sorted_get inv.sorted (nextOf_some inv.sorted front), onWire, wire,
    relays_same relays (fun _ => rfl) ?_ (fun _ => rfl)⟩
  exact read_on inv.sorted front

end UpSteps

/-! Runs. -/

structure Inv (state : State checksum semMax) : Prop where
  down : DownInv state.host state.down
  up : UpInv (uartConfig checksum) state.up

theorem inv_init (slaveScratch hostScratch : List UInt8) :
    Inv (init checksum semMax slaveScratch hostScratch) where
  down := by
    refine ⟨WriteTasks.inv_init _, fun _ _ => nofun, fun _ => nofun, fun _ _ => nofun, [], rfl, ?_⟩
    exact fun _ => ⟨[], rfl, .nil⟩
  up := by
    refine ⟨fun _ _ => nofun, [], rfl, ?_⟩
    exact fun _ => ⟨[], rfl, .nil⟩

section Runs
variable {before after state : State checksum semMax}

theorem inv_host {act : WriteTasks.Act} (inv : Inv before) (sound : Sound before (.host act))
    (taken : hostStep before act = some after) : Inv after := by
  obtain ⟨host, stepped, rfl⟩ := Option.map_eq_some_iff.mp taken
  obtain ⟨served, given⟩ := sound
  have moves := host_moves inv.down.task inv.down.sorted given stepped
  exact {
    down := {
      task := WriteTasks.inv_step inv.down.task served stepped
      sorted := sorted_step inv.down.sorted stepped
      handed := handed_moves inv.down.handed moves
      rxSorted := inv.down.rxSorted
      downward := downward_moves inv.down.handed inv.down.downward moves }
    up := inv.up }

theorem inv_step {act : Act} (inv : Inv before) (sound : Sound before act)
    (taken : step before act = some after) : Inv after := by
  cases act with
  | host act => exact inv_host inv sound taken
  | slaveRound =>
      obtain ⟨down, stepped, rfl⟩ := Option.map_eq_some_iff.mp taken
      exact ⟨downInv_round inv.down stepped, inv.up⟩
  | slaveRead =>
      obtain ⟨down, stepped, rfl⟩ := Option.map_eq_some_iff.mp taken
      exact ⟨downInv_read inv.down stepped, inv.up⟩
  | slaveWrite wifiFlowCtrlEn found buf =>
      rw [← Option.some.inj taken]
      exact ⟨inv.down, upInv_write sound inv.up⟩
  | hostRound =>
      obtain ⟨up, stepped, rfl⟩ := Option.map_eq_some_iff.mp taken
      exact ⟨inv.down, upInv_round inv.up stepped⟩
  | processRx =>
      obtain ⟨up, stepped, rfl⟩ := Option.map_eq_some_iff.mp taken
      exact ⟨inv.down, upInv_process inv.up stepped⟩

/-- A wire with whole frames on it. -/
theorem flat_empty {Item : Type} {bytes : Item → List UInt8} {config : RxConfig} {items : List Item}
    (whole : ∀ item rest, comes config (bytes item ++ rest) = true)
    (empty : items.flatMap bytes = []) : items = [] := by
  cases items with
  | nil => rfl
  | cons item others =>
      rw [List.flatMap_cons] at empty
      have comes := whole item (others.flatMap bytes)
      rw [empty, no_comes] at comes
      cases comes

theorem flat_ready {Item : Type} {bytes : Item → List UInt8} {config : RxConfig} {items : List Item}
    (whole : ∀ item rest, comes config (bytes item ++ rest) = true)
    (some_bytes : items.flatMap bytes ≠ []) : comes config (items.flatMap bytes) = true := by
  cases items with
  | nil => exact absurd rfl some_bytes
  | cons item others => exact whole item _

theorem flying_comes {config : RxConfig} (flying : Flying config) (rest : List UInt8) :
    comes config (flying.bytes ++ rest) = true := by
  obtain ⟨frame, sends⟩ := message_sends flying.message flying.handed flying.behind
  rw [Flying.bytes, sends.bytes]
  exact frame_comes frame rest

theorem inv_inOrder (inv : Inv state) : InOrder state := by
  obtain ⟨flying, downWire, down⟩ := inv.down.downward
  obtain ⟨sent, upWire, up⟩ := inv.up.upward
  refine ⟨⟨flying.map Flying.message, ?_, down⟩, ⟨sent.map Sent.buf, ?_, up⟩, ?_, ?_⟩
  · intro empty
    rw [downWire] at empty
    rw [flat_empty flying_comes empty]
    rfl
  · intro empty
    rw [upWire] at empty
    rw [flat_empty sent_comes empty]
    rfl
  · rw [downWire]
    exact flat_ready flying_comes
  · rw [upWire]
    exact flat_ready sent_comes

/-- As long as no wake-up of the write task finds its queues empty, the UART carries what is put
on either side to the other, in order within its class, and neither receiver loses its place. -/
theorem uart_carries_in_order (checksum : Bool) (semMax : Nat) (slaveScratch hostScratch : List UInt8)
    {state : State checksum semMax}
    (run : Run step Sound (init checksum semMax slaveScratch hostScratch) state) : InOrder state :=
  inv_inOrder (Run.invariant (inv_init slaveScratch hostScratch)
    (fun _ _ _ _ inv sound taken => inv_step inv sound taken) run)

end Runs

/-- A frame that only throttles. -/
def throttleOn : IfaceBuf where
  ifType := espStaIf
  ifNum := 0
  payload := []
  flag := 0
  payloadLen := 0
  seqNum := 0

/-- A message of the host crosses a throttling frame and an event of the slave. -/
def crossing : List Act :=
  [.host (.call WriteTasks.greeting true true), .host .post, .slaveWrite 1 true throttleOn,
    .host .wake, .host .dequeue, .host (.send WriteTasks.openBus []), .slaveWrite 0 true slaveEvent,
    .hostRound, .slaveRound, .hostRound, .slaveRead, .processRx]

theorem uart_carries_in_order_crossing : ∃ state : State false 15, InOrder state ∧
    (state.down.read .serial).length = 1 ∧ (state.up.read .serial).length = 1 := by
  have greeted : Handed WriteTasks.greeting.frame.buf := by decide
  have throttled : Offered (uartConfig false) 1 throttleOn := by decide
  have event : Offered (uartConfig false) 0 slaveEvent := by decide
  have admitted : Admits step Sound (init false 15 [] []) crossing :=
    ⟨⟨trivial, greeted⟩, ⟨trivial, trivial⟩, throttled, ⟨trivial, trivial⟩, ⟨trivial, trivial⟩,
      ⟨trivial, rfl⟩, event, trivial, trivial, trivial, trivial, trivial, trivial⟩
  obtain ⟨state, run, read⟩ :=
    admitted_reaches step Sound (init false 15 [] []) crossing
      (fun state => (state.down.read .serial).length = 1 ∧ (state.up.read .serial).length = 1) admitted
      (by decide)
  exact ⟨state, uart_carries_in_order false 15 [] [] run, read⟩

end EspHosted.UartLink

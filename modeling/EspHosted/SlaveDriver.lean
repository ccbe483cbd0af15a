import EspHosted.QueueBank
import EspHosted.SlaveFrames

/-!
The SPI driver of the slave, without `DUMMY_TRANS_DESIGN`. Any number of tasks are in
`esp_spi_write`, told apart only by how far they are; one task takes the result of a
transaction, arms the next one and only then looks at what it received. A full queue
holds its writer up.
-/

namespace EspHosted.SlaveDriver
open SpiFrames HostFrames SlaveFrames QueueBank

/-- The configuration: thresholds, and what each queue holds. -/
structure Config where
  thresholds : SlaveConfig
  rxQueueSize : Nat
  txQueueSize : Nat

/-- Where `spi_transaction_post_process_task` is. -/
inductive Pc where
  | awaitResult
  | takeTxSem
  | receive (prio : Prio)
  | lowerDataReady
  | buildDummy
  | queueTrans (txBuffer : List UInt8)
  | processRx
  deriving DecidableEq

structure State where
  txQueue : Prio → List (List UInt8)
  txSem : Nat
  dataReady : Bool
  /-- The frames of the calls that are about to queue them. -/
  putting : List (List UInt8)
  /-- Calls that have queued their frame, and calls that have given `spi_tx_sem` as well. -/
  giving : Nat
  raising : Nat
  currentThrottling : Bool
  rxQueue : Prio → List SlaveBuf
  pc : Pc
  /-- What the transaction that ended last received. -/
  rxBuffer : Option (List UInt8)
  /-- The buffer the host will clock out, and what came in with the one before. -/
  armed : Option (List UInt8)
  ended : Option (List UInt8)

/-- `generate_startup_event` calls `queue_next_transaction`, before there is any result. -/
def init : State where
  txQueue _ := []
  txSem := 0
  dataReady := false
  putting := []
  giving := 0
  raising := 0
  currentThrottling := false
  rxQueue _ := []
  pc := .takeTxSem
  rxBuffer := none
  armed := none
  ended := none

inductive Act where
  /-- `esp_spi_write` is called, and its frame is built. -/
  | write (buf : IfaceBuf)
  /-- The frame of a call is queued. -/
  | put (index : Nat)
  /-- `xSemaphoreGive(spi_tx_sem)` and `set_dataready_gpio` of a call. -/
  | give
  | raise
  /-- The task takes its next step. -/
  | task
  /-- The host clocks a transaction. -/
  | transact (rxBuffer : List UInt8)
  /-- `recv_task` takes a received frame. -/
  | recv

variable (config : Config)

/-- The result of `find_wifi_tx_throttling_to_be_set`, and the state it leaves. -/
def throttling (state : State) : Bool × Bool :=
  findWifiTxThrottlingToBeSet config.rxQueueSize config.thresholds state.currentThrottling
    (state.rxQueue .others).length

def framePrio (frame : List UInt8) : Prio := prioOf (decodeHeader frame).ifType

def writeStep (state : State) (buf : IfaceBuf) : State :=
  match espSpiWrite (throttleByte (throttling config state).1) buf with
  | none => state
  | some frame =>
      { state with
        currentThrottling := (throttling config state).2
        putting := state.putting ++ [frame] }

def putStep (state : State) (index : Nat) : Option State :=
  match state.putting[index]? with
  | none => none
  | some frame =>
      if (state.txQueue (framePrio frame)).length < config.txQueueSize then
        some
          { state with
            txQueue := put state.txQueue (framePrio frame) frame
            putting := state.putting.eraseIdx index
            giving := state.giving + 1 }
      else none

def giveStep (state : State) : Option State :=
  if 0 < state.giving then
    some
      { state with
        txSem := post (Fintype.card Prio * config.txQueueSize) state.txSem
        giving := state.giving - 1
        raising := state.raising + 1 }
  else none

def raiseStep (state : State) : Option State :=
  if 0 < state.raising then
    some { state with dataReady := true, raising := state.raising - 1 }
  else none

def receiveStep (state : State) (prio : Prio) : State :=
  match state.txQueue prio with
  | frame :: rest =>
      { state with txQueue := Function.update state.txQueue prio rest, pc := .queueTrans frame }
  | [] => { state with pc := (nextPrio prio).elim .lowerDataReady .receive }

/-- `process_spi_rx`, which waits when the queue is full. -/
def processRxStep (state : State) : Option State :=
  match state.rxBuffer.bind processSpiRx with
  | none => some { state with pc := .awaitResult, rxBuffer := none }
  | some buf =>
      if (state.rxQueue (prioOf buf.ifType)).length < config.rxQueueSize then
        some
          { state with
            rxQueue := put state.rxQueue (prioOf buf.ifType) buf
            pc := .awaitResult
            rxBuffer := none }
      else none

def taskStep (state : State) : Option State :=
  match state.pc with
  | .awaitResult =>
      state.ended.map fun rxBuffer =>
        { state with ended := none, rxBuffer := some rxBuffer, pc := .takeTxSem }
  | .takeTxSem =>
      if 0 < state.txSem then
        some { state with txSem := state.txSem - 1, pc := .receive .serial }
      else some { state with pc := .lowerDataReady }
  | .receive prio => some (receiveStep state prio)
  -- no real data pending
  | .lowerDataReady => some { state with dataReady := false, pc := .buildDummy }
  | .buildDummy =>
      some
        { state with
          currentThrottling := (throttling config state).2
          pc := .queueTrans (dummyFrame (throttling config state).1) }
  | .queueTrans txBuffer => some { state with armed := some txBuffer, pc := .processRx }
  | .processRx => processRxStep config state

def transactStep (state : State) (rxBuffer : List UInt8) : Option State :=
  match state.armed with
  | none => none
  | some _ => some { state with armed := none, ended := some rxBuffer }

def recvFrom (state : State) (prio : Prio) : Option State :=
  match state.rxQueue prio with
  | [] => none
  | _ :: rest => some { state with rxQueue := Function.update state.rxQueue prio rest }

def recvStep (state : State) : Option State :=
  (recvFrom state .serial).or ((recvFrom state .bt).or (recvFrom state .others))

def step (state : State) : Act → Option State
  | .write buf => some (writeStep config state buf)
  | .put index => putStep config state index
  | .give => giveStep config state
  | .raise => raiseStep state
  | .task => taskStep config state
  | .transact rxBuffer => transactStep state rxBuffer
  | .recv => recvStep state

section Steps
variable {config : Config} {before after : State}

/-- What a step of the task can be. -/
inductive TaskMoves (config : Config) (before : State) : State → Prop where
  | takeResult (rxBuffer : List UInt8) (pc : before.pc = .awaitResult)
      (ended : before.ended = some rxBuffer) :
      TaskMoves config before
        { before with ended := none, rxBuffer := some rxBuffer, pc := .takeTxSem }
  | take (pc : before.pc = .takeTxSem) (positive : 0 < before.txSem) :
      TaskMoves config before { before with txSem := before.txSem - 1, pc := .receive .serial }
  | pass (pc : before.pc = .takeTxSem) (none : ¬ 0 < before.txSem) :
      TaskMoves config before { before with pc := .lowerDataReady }
  | receive (prio : Prio) (pc : before.pc = .receive prio) :
      TaskMoves config before (receiveStep before prio)
  | lowerDataReady (pc : before.pc = .lowerDataReady) :
      TaskMoves config before { before with dataReady := false, pc := .buildDummy }
  | buildDummy (pc : before.pc = .buildDummy) :
      TaskMoves config before
        { before with
          currentThrottling := (throttling config before).2
          pc := .queueTrans (dummyFrame (throttling config before).1) }
  | queueTrans (txBuffer : List UInt8) (pc : before.pc = .queueTrans txBuffer) :
      TaskMoves config before { before with armed := some txBuffer, pc := .processRx }
  | dropRx (pc : before.pc = .processRx) (invalid : before.rxBuffer.bind processSpiRx = none) :
      TaskMoves config before { before with pc := .awaitResult, rxBuffer := none }
  | queueRx (buf : SlaveBuf) (pc : before.pc = .processRx)
      (valid : before.rxBuffer.bind processSpiRx = some buf)
      (room : (before.rxQueue (prioOf buf.ifType)).length < config.rxQueueSize) :
      TaskMoves config before
        { before with
          rxQueue := put before.rxQueue (prioOf buf.ifType) buf
          pc := .awaitResult
          rxBuffer := none }

theorem taskStep_moves (taken : taskStep config before = some after) :
    TaskMoves config before after := by
  unfold taskStep at taken
  split at taken
  case h_1 pc =>
    obtain ⟨rxBuffer, ended, rfl⟩ := Option.map_eq_some_iff.mp taken
    exact .takeResult rxBuffer pc ended
  case h_2 pc =>
    split at taken
    · rename_i positive
      cases taken
      exact .take pc positive
    · rename_i none
      cases taken
      exact .pass pc none
  case h_3 prio pc =>
    cases taken
    exact .receive prio pc
  case h_4 pc =>
    cases taken
    exact .lowerDataReady pc
  case h_5 pc =>
    cases taken
    exact .buildDummy pc
  case h_6 txBuffer pc =>
    cases taken
    exact .queueTrans txBuffer pc
  case h_7 pc =>
    unfold processRxStep at taken
    split at taken
    · rename_i invalid
      cases taken
      exact .dropRx pc invalid
    · rename_i buf valid
      split at taken
      · rename_i room
        cases taken
        exact .queueRx buf pc valid room
      · cases taken

theorem putStep_cases {index : Nat} (taken : putStep config before index = some after) :
    ∃ frame, before.putting[index]? = some frame ∧
      (before.txQueue (framePrio frame)).length < config.txQueueSize ∧ after =
        { before with
          txQueue := put before.txQueue (framePrio frame) frame
          putting := before.putting.eraseIdx index
          giving := before.giving + 1 } := by
  unfold putStep at taken
  split at taken
  · cases taken
  · rename_i frame found
    split at taken
    · rename_i room
      cases taken
      exact ⟨frame, found, room, rfl⟩
    · cases taken

theorem giveStep_cases (taken : giveStep config before = some after) :
    0 < before.giving ∧ after =
      { before with
        txSem := post (Fintype.card Prio * config.txQueueSize) before.txSem
        giving := before.giving - 1
        raising := before.raising + 1 } := by
  unfold giveStep at taken
  split at taken
  · rename_i positive
    cases taken
    exact ⟨positive, rfl⟩
  · cases taken

theorem raiseStep_cases (taken : raiseStep before = some after) :
    0 < before.raising ∧
      after = { before with dataReady := true, raising := before.raising - 1 } := by
  unfold raiseStep at taken
  split at taken
  · rename_i positive
    cases taken
    exact ⟨positive, rfl⟩
  · cases taken

theorem transactStep_cases {rxBuffer : List UInt8}
    (taken : transactStep before rxBuffer = some after) :
    ∃ txBuffer, before.armed = some txBuffer ∧
      after = { before with armed := none, ended := some rxBuffer } := by
  unfold transactStep at taken
  split at taken
  · cases taken
  · rename_i txBuffer armed
    cases taken
    exact ⟨txBuffer, armed, rfl⟩

/-- A frame is received once the queues before its own are empty. -/
inductive Recvs (before : State) : State → Prop where
  | recv (prio : Prio) (buf : SlaveBuf) (rest : List SlaveBuf)
      (queued : before.rxQueue prio = buf :: rest)
      (first : prio = .others → before.rxQueue .serial = [] ∧ before.rxQueue .bt = []) :
      Recvs before { before with rxQueue := Function.update before.rxQueue prio rest }

theorem recvFrom_cases {prio : Prio} (taken : recvFrom before prio = some after) :
    ∃ buf rest, before.rxQueue prio = buf :: rest ∧
      after = { before with rxQueue := Function.update before.rxQueue prio rest } := by
  unfold recvFrom at taken
  split at taken
  · cases taken
  · rename_i buf rest queued
    cases taken
    exact ⟨buf, rest, queued, rfl⟩

theorem recvFrom_none {prio : Prio} (empty : recvFrom before prio = none) :
    before.rxQueue prio = [] := by
  unfold recvFrom at empty
  split at empty
  · assumption
  · cases empty

theorem recvStep_recvs (taken : recvStep before = some after) : Recvs before after := by
  rcases Option.or_eq_some_iff.mp taken with serial | ⟨no_serial, later⟩
  · obtain ⟨buf, rest, queued, rfl⟩ := recvFrom_cases serial
    exact .recv .serial buf rest queued nofun
  · rcases Option.or_eq_some_iff.mp later with bt | ⟨no_bt, others⟩
    · obtain ⟨buf, rest, queued, rfl⟩ := recvFrom_cases bt
      exact .recv .bt buf rest queued nofun
    · obtain ⟨buf, rest, queued, rfl⟩ := recvFrom_cases others
      exact .recv .others buf rest queued fun _ => ⟨recvFrom_none no_serial, recvFrom_none no_bt⟩

end Steps

end EspHosted.SlaveDriver

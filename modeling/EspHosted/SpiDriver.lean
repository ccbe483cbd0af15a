import EspHosted.GuardedRun
import EspHosted.QueueBank
import EspHosted.SlaveFrames

/-!
The SPI driver of the host. Any number of threads are in `esp_hosted_tx`, told apart only by
how far they are; the two interrupt handlers come at any moment; one task waits on
`spi_trans_ready_sem` and makes a pass through `check_and_execute_spi_transaction`. Every
access of that pass to something shared is a step of its own.
-/

namespace EspHosted.SpiDriver
open SpiFrames HostFrames SlaveFrames QueueBank

/-- `TO_SLAVE_QUEUE_SIZE`, with its range. -/
structure Config where
  toSlaveQueueSize : Nat
  range : 1 ≤ toSlaveQueueSize ∧ toSlaveQueueSize ≤ 32

/-- What a semaphore counts up to. -/
def semValueMax : Nat := 65535

/-- The frame of a call of `esp_hosted_tx`, the buffer it came in and whether there is a
function to free it with. -/
structure TxFrame where
  buf : TxBuf
  wbuffer : Option Nat
  freeWbufFun : Bool
  deriving DecidableEq

/-- `H_FREE_PTR_WITH_FUNC`: the buffers it frees. -/
def TxFrame.free (frame : TxFrame) : List Nat :=
  if frame.freeWbufFun then frame.wbuffer.toList else []

/-- What a pass has seen of the data-ready line. -/
structure Pass where
  rxDataReady : Bool
  latched : Bool
  deriving DecidableEq

/-- Where `spi_transaction_task` is. -/
inductive Pc where
  | getReadySem
  | readHandshake
  | readDataReady (handshake : Bool)
  | exchange (rxDataReady : Bool)
  -- get_next_tx_buffer
  | getToSlaveSem (pass : Pass)
  | dequeue (pass : Pass) (prio : Prio)
  | formBuffer (pass : Pass) (frame : TxFrame)
  -- the rest of the pass; `failed` is `ret || rx_ret`
  | decide (pass : Pass) (tx : Option TxFrame)
  | transfer (pass : Pass) (tx : Option TxFrame)
  | freeTx (pass : Pass) (tx : Option TxFrame) (failed : Bool)
  | rearm (pass : Pass) (failed : Bool)
  | repost (handshake retry : Bool)
  deriving DecidableEq

structure State where
  toSlave : Prio → List TxFrame
  semToSlave : Nat
  readySem : Nat
  dataReadyPending : Bool
  scheduleDummyTx : Bool
  rx : HostRx
  /-- The frames of the calls that are about to queue them, then the calls that are about to
  post `sem_to_slave_queue` and those about to post `spi_trans_ready_sem`. -/
  putting : List TxFrame
  posting : Nat
  waking : Nat
  pc : Pc
  /-- Of the last pass. -/
  handshakeInactive : Bool
  /-- The buffers handed in with a function to free them, and those it was called on. -/
  handedIn : List Nat
  freed : List Nat
  transfers : Nat

def init : State where
  toSlave _ := []
  semToSlave := 0
  readySem := 0
  dataReadyPending := false
  scheduleDummyTx := false
  rx := idleHost
  putting := []
  posting := 0
  waking := 0
  pc := .getReadySem
  handshakeInactive := false
  handedIn := []
  freed := []
  transfers := 0

/-- A step of the task; what it finds on the lines and on the bus comes from outside. -/
inductive TaskAct where
  | go
  | sees (active : Bool)
  /-- `rxbuff` is none when the bus transfer fails; `put` is for `from_slave_queue`. -/
  | transfers (rxbuff : Option (List UInt8)) (put : Bool)

inductive Act where
  | call (transportUp : Bool) (frame : TxFrame)
  | put (index : Nat) (ok : Bool)
  | postToSlave
  | postReady
  | handshakeIsr
  | dataReadyIsr
  | task (act : TaskAct)

variable (config : Config)

def postReadySem (readySem : Nat) : Nat := post semValueMax readySem

/-- `esp_hosted_tx` up to its queue. -/
def callStep (state : State) (transportUp : Bool) (frame : TxFrame) : State :=
  let handedIn := state.handedIn ++ frame.free
  if frame.wbuffer.isNone ∨ ¬ lenAccepted frame.buf.payloadLen ∨ ¬ transportUp then
    { state with handedIn := handedIn, freed := state.freed ++ frame.free }
  else { state with handedIn := handedIn, putting := state.putting ++ [frame] }

def putStep (state : State) (index : Nat) (ok : Bool) : Option State :=
  match state.putting[index]? with
  | none => none
  | some frame =>
      let prio := prioOf frame.buf.ifType
      if ¬ ok then
        some
          { state with
            putting := state.putting.eraseIdx index
            freed := state.freed ++ frame.free }
      else if (state.toSlave prio).length < config.toSlaveQueueSize then
        some
          { state with
            toSlave := put state.toSlave prio frame
            putting := state.putting.eraseIdx index
            posting := state.posting + 1 }
      else none

def postToSlaveStep (state : State) : Option State :=
  if 0 < state.posting then
    some
      { state with
        semToSlave := post semValueMax state.semToSlave
        posting := state.posting - 1
        waking := state.waking + 1 }
  else none

def postReadyStep (state : State) : Option State :=
  if 0 < state.waking then
    some { state with readySem := postReadySem state.readySem, waking := state.waking - 1 }
  else none

/-- The local `len` with which `get_next_tx_buffer` comes to its end. -/
def endingLen (buf : TxBuf) : UInt16 :=
  if buf.payloadLen ≠ 0 ∧ buf.ifType.toNat % 16 = espHciIf.toNat ∧ !buf.payloadZcopy then
    buf.payloadLen - 1
  else buf.payloadLen

/-- The buffers freed at the end of `get_next_tx_buffer`. -/
def formedFrees (frame : TxFrame) : List Nat :=
  if endingLen frame.buf ≠ 0 ∧ !frame.buf.payloadZcopy then frame.free else []

/-- The buffers freed behind the transaction, by `tx_buff_free_func`. -/
def transferredFrees : Option TxFrame → List Nat
  | some frame => if frame.buf.payloadZcopy then frame.free else []
  | none => []

def dequeueStep (state : State) (pass : Pass) (prio : Prio) : State :=
  match state.toSlave prio with
  | frame :: rest =>
      { state with
        toSlave := Function.update state.toSlave prio rest
        pc := .formBuffer pass frame }
  | [] => { state with pc := (nextPrio prio).elim (.decide pass none) (.dequeue pass) }

def formStep (state : State) (pass : Pass) (frame : TxFrame) : State :=
  { state with
    freed := state.freed ++ formedFrees frame
    pc := .decide pass (if frame.buf.payloadLen = 0 then none else some frame) }

def decideStep (state : State) (pass : Pass) (tx : Option TxFrame) : State :=
  if pass.rxDataReady || pass.latched || tx.isSome || state.scheduleDummyTx ||
      state.rx.scheduleDummyRx then
    { state with scheduleDummyTx := tx.isSome, pc := .transfer pass tx }
  else { state with pc := .freeTx pass tx true }

def transferStep (state : State) (pass : Pass) (tx : Option TxFrame)
    (rxbuff : Option (List UInt8)) (put : Bool) : State :=
  match rxbuff with
  | none => { state with transfers := state.transfers + 1, pc := .freeTx pass tx true }
  | some rxbuff =>
      let received := processRxbuff put state.rx rxbuff
      { state with
        rx := received.1
        transfers := state.transfers + 1
        pc := .freeTx pass tx (received.2 ≠ 0) }

def rearmStep (state : State) (pass : Pass) (failed : Bool) : State :=
  if failed && (pass.latched || pass.rxDataReady) then
    { state with dataReadyPending := true, pc := .repost true true }
  else { state with pc := .repost true false }

def repostStep (state : State) (handshake retry : Bool) : State :=
  let again := !handshake || state.scheduleDummyTx || state.rx.scheduleDummyRx || retry
  { state with
    readySem := if again then postReadySem state.readySem else state.readySem
    handshakeInactive := !handshake
    pc := .getReadySem }

def taskStep (state : State) (act : TaskAct) : Option State :=
  match state.pc, act with
  | .getReadySem, .go =>
      if 0 < state.readySem then
        some { state with readySem := state.readySem - 1, pc := .readHandshake }
      else none
  | .readHandshake, .sees active => some { state with pc := .readDataReady active }
  | .readDataReady handshake, .sees active =>
      some { state with pc := if handshake then .exchange active else .repost false false }
  | .exchange rxDataReady, .go =>
      some
        { state with
          dataReadyPending := false
          pc := .getToSlaveSem ⟨rxDataReady, state.dataReadyPending⟩ }
  | .getToSlaveSem pass, .go =>
      if 0 < state.semToSlave then
        some { state with semToSlave := state.semToSlave - 1, pc := .dequeue pass .serial }
      else some { state with pc := .decide pass none }
  | .dequeue pass prio, .go => some (dequeueStep state pass prio)
  | .formBuffer pass frame, .go => some (formStep state pass frame)
  | .decide pass tx, .go => some (decideStep state pass tx)
  | .transfer pass tx, .transfers rxbuff put => some (transferStep state pass tx rxbuff put)
  | .freeTx pass tx failed, .go =>
      some { state with freed := state.freed ++ transferredFrees tx, pc := .rearm pass failed }
  | .rearm pass failed, .go => some (rearmStep state pass failed)
  | .repost handshake retry, .go => some (repostStep state handshake retry)
  | _, _ => none

def step (state : State) : Act → Option State
  | .call transportUp frame => some (callStep state transportUp frame)
  | .put index ok => putStep config state index ok
  | .postToSlave => postToSlaveStep state
  | .postReady => postReadyStep state
  | .handshakeIsr => some { state with readySem := postReadySem state.readySem }
  | .dataReadyIsr =>
      some { state with dataReadyPending := true, readySem := postReadySem state.readySem }
  | .task act => taskStep state act

section Steps
variable {config : Config} {before after : State}

/-- The queues together hold less than a semaphore counts up to. -/
theorem few_queued {Item : Type} {bank : Prio → List Item}
    (bounded : ∀ prio, (bank prio).length ≤ config.toSlaveQueueSize) :
    size bank < semValueMax := by
  have total := size_le_of_le bounded
  have three : Fintype.card Prio = 3 := rfl
  have small := config.range.2
  have most : semValueMax = 65535 := rfl
  rw [three] at total
  omega

/-- What a step of the task can be. -/
inductive TaskMoves (before : State) : TaskAct → State → Prop where
  | enter (pc : before.pc = .getReadySem) (positive : 0 < before.readySem) :
      TaskMoves before .go { before with readySem := before.readySem - 1, pc := .readHandshake }
  | handshake (active : Bool) (pc : before.pc = .readHandshake) :
      TaskMoves before (.sees active) { before with pc := .readDataReady active }
  | dataReady (handshake active : Bool) (pc : before.pc = .readDataReady handshake) :
      TaskMoves before (.sees active)
        { before with pc := if handshake then .exchange active else .repost false false }
  | exchange (rxDataReady : Bool) (pc : before.pc = .exchange rxDataReady) :
      TaskMoves before .go
        { before with
          dataReadyPending := false
          pc := .getToSlaveSem ⟨rxDataReady, before.dataReadyPending⟩ }
  | take (pass : Pass) (pc : before.pc = .getToSlaveSem pass) (positive : 0 < before.semToSlave) :
      TaskMoves before .go
        { before with semToSlave := before.semToSlave - 1, pc := .dequeue pass .serial }
  | pass (pass : Pass) (pc : before.pc = .getToSlaveSem pass) (none : ¬ 0 < before.semToSlave) :
      TaskMoves before .go { before with pc := .decide pass .none }
  | dequeue (pass : Pass) (prio : Prio) (pc : before.pc = .dequeue pass prio) :
      TaskMoves before .go (dequeueStep before pass prio)
  | form (pass : Pass) (frame : TxFrame) (pc : before.pc = .formBuffer pass frame) :
      TaskMoves before .go (formStep before pass frame)
  | decide (pass : Pass) (tx : Option TxFrame) (pc : before.pc = .decide pass tx) :
      TaskMoves before .go (decideStep before pass tx)
  | transfer (pass : Pass) (tx : Option TxFrame) (rxbuff : Option (List UInt8)) (put : Bool)
      (pc : before.pc = .transfer pass tx) :
      TaskMoves before (.transfers rxbuff put) (transferStep before pass tx rxbuff put)
  | freeTx (pass : Pass) (tx : Option TxFrame) (failed : Bool)
      (pc : before.pc = .freeTx pass tx failed) :
      TaskMoves before .go
        { before with freed := before.freed ++ transferredFrees tx, pc := .rearm pass failed }
  | rearm (pass : Pass) (failed : Bool) (pc : before.pc = .rearm pass failed) :
      TaskMoves before .go (rearmStep before pass failed)
  | repost (handshake retry : Bool) (pc : before.pc = .repost handshake retry) :
      TaskMoves before .go (repostStep before handshake retry)

theorem taskStep_moves {act : TaskAct} (taken : taskStep before act = some after) :
    TaskMoves before act after := by
  unfold taskStep at taken
  split at taken
  case h_1 pc =>
    split at taken
    · rename_i positive
      cases taken
      exact .enter pc positive
    · cases taken
  case h_2 active pc =>
    cases taken
    exact .handshake active pc
  case h_3 handshake active pc =>
    cases taken
    exact .dataReady handshake active pc
  case h_4 rxDataReady pc =>
    cases taken
    exact .exchange rxDataReady pc
  case h_5 pass pc =>
    split at taken
    · rename_i positive
      cases taken
      exact .take pass pc positive
    · rename_i none
      cases taken
      exact .pass pass pc none
  case h_6 pass prio pc =>
    cases taken
    exact .dequeue pass prio pc
  case h_7 pass frame pc =>
    cases taken
    exact .form pass frame pc
  case h_8 pass tx pc =>
    cases taken
    exact .decide pass tx pc
  case h_9 pass tx rxbuff put pc =>
    cases taken
    exact .transfer pass tx rxbuff put pc
  case h_10 pass tx failed pc =>
    cases taken
    exact .freeTx pass tx failed pc
  case h_11 pass failed pc =>
    cases taken
    exact .rearm pass failed pc
  case h_12 handshake retry pc =>
    cases taken
    exact .repost handshake retry pc
  case h_13 => cases taken

/-- A put that fails gives up the frame, one that succeeds found room for it. -/
inductive Puts (config : Config) (before : State) (index : Nat) : Bool → State → Prop where
  | fails (frame : TxFrame) (found : before.putting[index]? = some frame) :
      Puts config before index false
        { before with
          putting := before.putting.eraseIdx index
          freed := before.freed ++ frame.free }
  | queues (frame : TxFrame) (found : before.putting[index]? = some frame)
      (room : (before.toSlave (prioOf frame.buf.ifType)).length < config.toSlaveQueueSize) :
      Puts config before index true
        { before with
          toSlave := put before.toSlave (prioOf frame.buf.ifType) frame
          putting := before.putting.eraseIdx index
          posting := before.posting + 1 }

theorem putStep_puts {index : Nat} {ok : Bool} (taken : putStep config before index ok = some after) :
    Puts config before index ok after := by
  unfold putStep at taken
  split at taken
  · cases taken
  · rename_i frame found
    cases ok with
    | false =>
        cases taken
        exact .fails frame found
    | true =>
        simp only [not_true, if_false] at taken
        split at taken
        · rename_i room
          cases taken
          exact .queues frame found room
        · cases taken

theorem postToSlave_cases (taken : postToSlaveStep before = some after) :
    0 < before.posting ∧ after =
      { before with
        semToSlave := post semValueMax before.semToSlave
        posting := before.posting - 1
        waking := before.waking + 1 } := by
  unfold postToSlaveStep at taken
  split at taken
  · rename_i positive
    cases taken
    exact ⟨positive, rfl⟩
  · cases taken

theorem postReady_cases (taken : postReadyStep before = some after) :
    0 < before.waking ∧ after =
      { before with
        readySem := postReadySem before.readySem
        waking := before.waking - 1 } := by
  unfold postReadyStep at taken
  split at taken
  · rename_i positive
    cases taken
    exact ⟨positive, rfl⟩
  · cases taken

end Steps

/-- A call of `esp_hosted_tx` that nothing comes in between. -/
def sent (frame : TxFrame) : List Act := [.call true frame, .put 0 true, .postToSlave, .postReady]

/-- The beginning of a pass with the handshake active, up to `steps` steps behind the lines. -/
def passBegin (rxDataReady : Bool) (steps : Nat) : List Act :=
  [.task .go, .task (.sees true), .task (.sees rxDataReady)] ++ List.replicate steps (.task .go)

/-- A pass that takes a frame out of the last of the first `queues` queues. -/
def framePass (queues : Nat) (rxbuff : List UInt8) : List Act :=
  passBegin false (queues + 4) ++ .task (.transfers (some rxbuff) true) ::
    List.replicate 3 (.task .go)

/-- A pass that finds nothing to do. -/
def idlePass : List Act := passBegin false 6

end EspHosted.SpiDriver

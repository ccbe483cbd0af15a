import EspHosted.ResourceTrace
import EspHosted.SerialReassembly
import EspHosted.SpiDriver

/-!
The way of a receive buffer. `check_and_execute_spi_transaction` allocates it, lets the bus
write into it and hands it to `process_spi_rx_buf`, which frees it or queues a handle of it;
`spi_process_rx_task` takes handles out of the queues, gives them to a consumer by interface
and frees what is left. A buffer is numbered by its allocation, not by its address, and the
trace says what is done with each.
-/

namespace EspHosted.RxBuffers
open SpiFrames HostFrames SlaveFrames QueueBank SpiDriver SerialReassembly ResourceTrace

/-- `interface_buffer_handle_t`. `payload` points into the buffer with that number. -/
structure RxHandle where
  buf : IfaceBuf
  payload : Nat
  privBufferHandle : Option Nat
  freeBufHandle : Bool
  payloadZcopy : Bool

/-- The handle of `process_spi_rx_buf`; `free_buf_handle` is `spi_buffer_free`. -/
def formHandle (rxbuff : Nat) (buf : IfaceBuf) : RxHandle where
  buf := buf
  payload := rxbuff
  privBufferHandle := some rxbuff
  freeBufHandle := true
  payloadZcopy := false

/-- `H_FREE_PTR_WITH_FUNC` frees what the handle has and clears the pointer. -/
def RxHandle.freePtr (handle : RxHandle) : RxHandle × List (Nat × Use) :=
  if handle.freeBufHandle then
    ({ handle with privBufferHandle := none },
      handle.privBufferHandle.toList.map fun rxbuff => (rxbuff, .giveBack))
  else (handle, [])

/-- What a consumer finds and how its calls turn out. -/
structure Outcome where
  /-- `chan_arr[if_type]` is there and has an `rx`. -/
  registered : Bool
  copyAlloc : Bool
  host : Host
  env : Env
  /-- The code the serial handler returns after it has misused `r.data`. -/
  misused : Int

/-- `serial_ll_rx_handler` comes to its first `memcpy`. -/
def copiesPayload (outcome : Outcome) (buf : IfaceBuf) : Bool :=
  buf.payloadLen ≠ 0 && (getSerialLlHandle outcome.host buf.ifNum).isSome &&
    match allocReallocRdata outcome.env outcome.host.r buf.payloadLen.toNat with
    | some none => false
    | some (some _) | none => true

/-- `serial_ll_rx_handler`: `serial_buff_cleanup` frees the buffer of the caller's handle. -/
def serialRxHandler (outcome : Outcome) (handle : RxHandle) : RxHandle × List (Nat × Use) :=
  let copied := if copiesPayload outcome handle.buf then [(handle.payload, .access)] else []
  let ret := (serialLlRxHandler outcome.env handle.buf outcome.host).elim outcome.misused Prod.snd
  if ret = stmOk then (handle, copied)
  else (handle.freePtr.1, copied ++ handle.freePtr.2)

/-- The station and access point branch: `rx` gets a copy. `none` is `assert(copy_payload)`. -/
def networkRx (outcome : Outcome) (handle : RxHandle) : Option (RxHandle × List (Nat × Use)) :=
  if outcome.registered then
    if outcome.copyAlloc then
      some (handle.freePtr.1, (handle.payload, .access) :: handle.freePtr.2)
    else none
  else some (handle, [])

def processRxHandle (outcome : Outcome) (handle : RxHandle) :
    Option (RxHandle × List (Nat × Use)) :=
  let ifType := handle.buf.ifType
  if ifType = espSerialIf then some (serialRxHandler outcome handle)
  else if ifType = espStaIf ∨ ifType = espApIf then networkRx outcome handle
  else if ifType = espPrivIf then
    -- process_priv_communication, then event_type
    some (handle, [(handle.payload, .access), (handle.payload, .access)])
  else if ifType = espHciIf then some (handle, [(handle.payload, .access)])
  -- ESP_TEST_IF is only counted, other types are only logged
  else some (handle, [])

/-- The end of a round of `spi_process_rx_task`. -/
def freeRxHandle (handle : RxHandle) : List (Nat × Use) :=
  if handle.payloadZcopy then [] else handle.freePtr.2

inductive SpiPc where
  | idle
  | transfer (rxbuff : Nat)
  | put (rxbuff : Nat) (buf : IfaceBuf)
  | post

inductive RxPc where
  | getSem
  | dequeue (prio : Prio)
  | consume (handle : RxHandle)
  | free (handle : RxHandle)
  | halted (handle : RxHandle)

structure State where
  fromSlave : Prio → List RxHandle
  semFromSlave : Nat
  spi : SpiPc
  rx : RxPc
  allocated : Nat
  trace : List (Nat × Use)

def init : State where
  fromSlave _ := []
  semFromSlave := 0
  spi := .idle
  rx := .getSem
  allocated := 0
  trace := []

inductive Act where
  | alloc
  /-- `rxbuff` is none when the bus transfer fails. -/
  | transfer (rxbuff : Option (List UInt8))
  | put (ok : Bool)
  | post
  /-- The task goes on whether or not it got the semaphore. -/
  | getSem (ok : Bool)
  | dequeue
  | consume (outcome : Outcome)
  | free

variable (config : Config)

/-- The bus transfer and `process_spi_rx_buf` up to its queue. -/
def transferStep (state : State) (rxbuff : Nat) (content : Option (List UInt8)) : State :=
  match content with
  | none =>
      { state with spi := .idle, trace := state.trace ++ [(rxbuff, .access)] ++ [(rxbuff, .giveBack)] }
  | some content =>
      let trace := state.trace ++ [(rxbuff, .access)] ++ [(rxbuff, .access)]
      match processSpiRxBuf content with
      | .error _ => { state with spi := .idle, trace := trace ++ [(rxbuff, .giveBack)] }
      | .ok buf => { state with spi := .put rxbuff buf, trace := trace }

/-- Both sides have queues of `H_TRANSPORT_QUEUE_NUMBER` items. -/
def putStep (state : State) (rxbuff : Nat) (buf : IfaceBuf) (ok : Bool) : Option State :=
  if !ok then some { state with spi := .idle, trace := state.trace ++ [(rxbuff, .giveBack)] }
  else if (state.fromSlave (prioOf buf.ifType)).length < config.toSlaveQueueSize then
    some
      { state with
        fromSlave := put state.fromSlave (prioOf buf.ifType) (formHandle rxbuff buf)
        spi := .post }
  else none

def getSemStep (state : State) (ok : Bool) : Option State :=
  if !ok then some { state with rx := .dequeue .serial }
  else if 0 < state.semFromSlave then
    some { state with semFromSlave := state.semFromSlave - 1, rx := .dequeue .serial }
  else none

def dequeueStep (state : State) (prio : Prio) : State :=
  match state.fromSlave prio with
  | handle :: rest =>
      { state with fromSlave := Function.update state.fromSlave prio rest, rx := .consume handle }
  | [] => { state with rx := (nextPrio prio).elim .getSem .dequeue }

def consumeStep (state : State) (handle : RxHandle) (outcome : Outcome) : State :=
  match processRxHandle outcome handle with
  | some (handle, done) => { state with rx := .free handle, trace := state.trace ++ done }
  | none => { state with rx := .halted handle }

def step (state : State) : Act → Option State
  | .alloc =>
      match state.spi with
      | .idle =>
          some
            { state with
              spi := .transfer state.allocated
              allocated := state.allocated + 1
              trace := state.trace ++ [(state.allocated, .take)] }
      | .transfer _ | .put _ _ | .post => none
  | .transfer content =>
      match state.spi with
      | .transfer rxbuff => some (transferStep state rxbuff content)
      | .idle | .put _ _ | .post => none
  | .put ok =>
      match state.spi with
      | .put rxbuff buf => putStep config state rxbuff buf ok
      | .idle | .transfer _ | .post => none
  | .post =>
      match state.spi with
      | .post =>
          some { state with semFromSlave := post semValueMax state.semFromSlave, spi := .idle }
      | .idle | .transfer _ | .put _ _ => none
  | .getSem ok =>
      match state.rx with
      | .getSem => getSemStep state ok
      | .dequeue _ | .consume _ | .free _ | .halted _ => none
  | .dequeue =>
      match state.rx with
      | .dequeue prio => some (dequeueStep state prio)
      | .getSem | .consume _ | .free _ | .halted _ => none
  | .consume outcome =>
      match state.rx with
      | .consume handle => some (consumeStep state handle outcome)
      | .getSem | .dequeue _ | .free _ | .halted _ => none
  | .free =>
      match state.rx with
      | .free handle =>
          some { state with rx := .getSem, trace := state.trace ++ freeRxHandle handle }
      | .getSem | .dequeue _ | .consume _ | .halted _ => none

section Steps
variable {config : Config} {before after : State}

/-- What a step can be. -/
inductive Moves (config : Config) (before : State) : Act → State → Prop where
  | alloc (idle : before.spi = .idle) :
      Moves config before .alloc
        { before with
          spi := .transfer before.allocated
          allocated := before.allocated + 1
          trace := before.trace ++ [(before.allocated, .take)] }
  | dropped (rxbuff : Nat) (content : Option (List UInt8)) (accesses : List (Nat × Use))
      (spi : before.spi = .transfer rxbuff) (only : ∀ event ∈ accesses, event = (rxbuff, .access)) :
      Moves config before (.transfer content)
        { before with
          spi := .idle
          trace := before.trace ++ accesses ++ [(rxbuff, .giveBack)] }
  | received (rxbuff : Nat) (content : Option (List UInt8)) (accesses : List (Nat × Use))
      (buf : IfaceBuf) (spi : before.spi = .transfer rxbuff)
      (only : ∀ event ∈ accesses, event = (rxbuff, .access)) :
      Moves config before (.transfer content)
        { before with spi := .put rxbuff buf, trace := before.trace ++ accesses }
  | refused (rxbuff : Nat) (buf : IfaceBuf) (spi : before.spi = .put rxbuff buf) :
      Moves config before (.put false)
        { before with spi := .idle, trace := before.trace ++ [(rxbuff, .giveBack)] }
  | queued (rxbuff : Nat) (buf : IfaceBuf) (spi : before.spi = .put rxbuff buf)
      (room : (before.fromSlave (prioOf buf.ifType)).length < config.toSlaveQueueSize) :
      Moves config before (.put true)
        { before with
          fromSlave := put before.fromSlave (prioOf buf.ifType) (formHandle rxbuff buf)
          spi := .post }
  | post (spi : before.spi = .post) :
      Moves config before .post
        { before with semFromSlave := post semValueMax before.semFromSlave, spi := .idle }
  | woken (rx : before.rx = .getSem) (positive : 0 < before.semFromSlave) :
      Moves config before (.getSem true)
        { before with semFromSlave := before.semFromSlave - 1, rx := .dequeue .serial }
  | spurious (rx : before.rx = .getSem) :
      Moves config before (.getSem false) { before with rx := .dequeue .serial }
  | dequeue (prio : Prio) (rx : before.rx = .dequeue prio) :
      Moves config before .dequeue (dequeueStep before prio)
  | consume (handle : RxHandle) (outcome : Outcome) (rx : before.rx = .consume handle) :
      Moves config before (.consume outcome) (consumeStep before handle outcome)
  | free (handle : RxHandle) (rx : before.rx = .free handle) :
      Moves config before .free
        { before with rx := .getSem, trace := before.trace ++ freeRxHandle handle }

theorem transferStep_moves {rxbuff : Nat} (content : Option (List UInt8))
    (spi : before.spi = .transfer rxbuff) :
    Moves config before (.transfer content) (transferStep before rxbuff content) := by
  unfold transferStep
  cases content with
  | none => exact .dropped rxbuff none [(rxbuff, .access)] spi (by simp)
  | some content =>
      -- the bus has written into the buffer, process_spi_rx_buf reads it
      have accesses : ∀ event ∈ [(rxbuff, Use.access), (rxbuff, Use.access)],
          event = (rxbuff, .access) := by simp
      dsimp only
      rw [List.append_assoc before.trace]
      cases processSpiRxBuf content with
      | error code => exact .dropped rxbuff (some content) _ spi accesses
      | ok buf => exact .received rxbuff (some content) _ buf spi accesses

theorem step_moves {act : Act} (taken : step config before act = some after) :
    Moves config before act after := by
  cases act with
  | alloc =>
      cases spi : before.spi with
      | idle =>
          simp only [step, spi] at taken
          cases taken
          exact .alloc spi
      | transfer _ | put _ _ | post => simp [step, spi] at taken
  | transfer content =>
      cases spi : before.spi with
      | transfer rxbuff =>
          simp only [step, spi] at taken
          cases taken
          exact transferStep_moves content spi
      | idle | put _ _ | post => simp [step, spi] at taken
  | put ok =>
      cases spi : before.spi with
      | put rxbuff buf =>
          simp only [step, spi, putStep] at taken
          cases ok with
          | false =>
              cases taken
              exact .refused rxbuff buf spi
          | true =>
              simp only [Bool.not_true, Bool.false_eq_true, if_false] at taken
              split at taken
              · rename_i room
                cases taken
                exact .queued rxbuff buf spi room
              · cases taken
      | idle | transfer _ | post => simp [step, spi] at taken
  | post =>
      cases spi : before.spi with
      | post =>
          simp only [step, spi] at taken
          cases taken
          exact .post spi
      | idle | transfer _ | put _ _ => simp [step, spi] at taken
  | getSem ok =>
      cases rx : before.rx with
      | getSem =>
          simp only [step, rx, getSemStep] at taken
          cases ok with
          | false =>
              cases taken
              exact .spurious rx
          | true =>
              simp only [Bool.not_true, Bool.false_eq_true, if_false] at taken
              split at taken
              · rename_i positive
                cases taken
                exact .woken rx positive
              · cases taken
      | dequeue _ | consume _ | free _ | halted _ => simp [step, rx] at taken
  | dequeue =>
      cases rx : before.rx with
      | dequeue prio =>
          simp only [step, rx] at taken
          cases taken
          exact .dequeue prio rx
      | getSem | consume _ | free _ | halted _ => simp [step, rx] at taken
  | consume outcome =>
      cases rx : before.rx with
      | consume handle =>
          simp only [step, rx] at taken
          cases taken
          exact .consume handle outcome rx
      | getSem | dequeue _ | free _ | halted _ => simp [step, rx] at taken
  | free =>
      cases rx : before.rx with
      | free handle =>
          simp only [step, rx] at taken
          cases taken
          exact .free handle rx
      | getSem | dequeue _ | consume _ | halted _ => simp [step, rx] at taken

end Steps

end EspHosted.RxBuffers

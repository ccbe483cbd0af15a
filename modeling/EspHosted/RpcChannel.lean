import EspHosted.LinkOrder
import EspHosted.SerialHandover
import EspHosted.SerialRead
import EspHosted.SerialReassembly
import EspHosted.SerialSend
import EspHosted.SlaveScheduler

/-!
The way of a request to its handler and of what the slave says back to the host's rpc thread:
`transport_pserial_send`, the link, `process_serial_rx_pkt`, the pserial task,
`serial_write_data`, `send_task`, the link again, `serial_rx_handler` and `serial_drv_read`. Each
task goes on by itself; the serial frames share the link with all others.
-/

namespace EspHosted.RpcChannel
open SpiFrames HostFrames SlaveFrames QueueBank GuardedRun LinkOrder SerialTlv SerialSend
open SerialFragments (serialWriteData)

/-- What the slave says: the answer to a request, or an event. -/
inductive Message where
  | response (data : List UInt8)
  | event (data : List UInt8)
  deriving DecidableEq

def Message.data : Message → List UInt8
  | .response data | .event data => data

def Message.epname : Message → List UInt8
  | .response _ => rpcEpNameRsp
  | .event _ => rpcEpNameEvt

def Message.bytes (message : Message) : List UInt8 := enveloped message.epname message.data

/-- The data of an answer. -/
def Message.answer : Message → Option (List UInt8)
  | .response data => some data
  | .event _ => none

structure Config where
  link : SpiLink.Config
  scheduler : SlaveScheduler.Config
  reqQMax : Nat

structure State where
  link : SpiLink.State × History
  receiver : SerialReceiver.State
  /-- The fragments that `serial_write_data` has still to queue, and its `seq_num`. -/
  writing : List IfaceBuf
  seqNum : UInt16
  scheduler : SlaveScheduler.State IfaceBuf
  host : SerialReassembly.Host
  /-- How many serial frames the rx thread has taken, and how many messages the rpc thread. -/
  handled : Nat
  fetched : Nat
  /-- The requests sent, the requests answered with their answers, what the slave has said and
  what the rpc thread has read. -/
  asked : List (List UInt8)
  answers : List (List UInt8 × List UInt8)
  said : List Message
  read : List (List UInt8)

def init : State where
  link := (SpiLink.init, fresh)
  receiver := SerialReceiver.init
  writing := []
  seqNum := 0
  scheduler := SlaveScheduler.init
  host := SerialReassembly.openHost
  handled := 0
  fetched := 0
  asked := []
  answers := []
  said := []
  read := []

inductive Act where
  /-- `transport_pserial_send`, with the address of its buffer. -/
  | ask (path : Path) (wbuffer : Nat) (data : List UInt8)
  /-- The drivers go on, and the frames of other interfaces with them. -/
  | link (act : SpiLink.Act)
  /-- `recv_task` takes a frame. -/
  | recv (stationConnected softapStarted : Bool)
  /-- It goes on in `process_serial_rx_pkt`. -/
  | collect (ok : Bool)
  | event
  /-- The pserial task goes on; `reply` is what `protocomm_req_handle` gives if it is called. -/
  | pserial (reply : List UInt8)
  /-- `serial_write_data` hands its next fragment to `send_to_host_queue`. -/
  | fragment
  | schedule (act : SlaveScheduler.Act IfaceBuf)
  /-- The rx thread takes a serial frame, the rpc thread a message. -/
  | handle (env : SerialReassembly.Env)
  | fetch

variable (config : Config)

def linkStep (state : State) (act : SpiLink.Act) : Option State :=
  (watched (SpiLink.step config.link) note state.link act).map fun link =>
    { state with link := link }

def serialTx (frame : SpiDriver.TxFrame) : Bool := txPrio frame = .serial

/-- The rpc thread is in `esp_hosted_tx`. -/
def asking (host : SpiDriver.State) : Bool := host.putting.any serialTx

def askStep (state : State) (path : Path) (wbuffer : Nat) (data : List UInt8) : Option State :=
  if asking state.link.1.host then none
  else
    match transportPserialSend path wbuffer data with
    | none => none
    | some sent =>
        match sent.queued with
        | none => some state
        | some frame =>
            linkStep config { state with asked := state.asked ++ [data] } (.host (.call true frame))

/-- The serial frames are sent by the rpc thread alone, the frames of the slave by its
`send_task`, and read by `recv_task`. -/
def mayLink : SpiLink.Act → Bool
  | .host (.call _ frame) => !serialTx frame
  | .slave (.write _) | .slave .recv => false
  | .staTx _ _ _ | .host _ | .slave _ | .transfer => true

/-- What `process_serial_rx_pkt` reads of a buffer. -/
def serialFrag (buf : SlaveBuf) : SerialReceiver.SerialFrag where
  payload := (buf.payload.drop (decodeHeader buf.payload).offset.toNat).take
    (decodeHeader buf.payload).len.toNat
  seqNum := (decodeHeader buf.payload).seqNum
  flags := (decodeHeader buf.payload).flags

/-- `process_rx_pkt` behind the choice of the consumer. -/
def consume (state : State) (stationConnected softapStarted : Bool) (buf : SlaveBuf) : State :=
  if rxConsumer stationConnected softapStarted buf.ifType = some .serial then
    match SerialReceiver.deliverStep state.receiver (serialFrag buf) with
    | none => state
    | some receiver => { state with receiver := receiver }
  else state

def recvStep (state : State) (stationConnected softapStarted : Bool) : Option State :=
  if state.receiver.rx ≠ .idle then none
  else
    match readNext state.link.1.slave.rxQueue with
    | none => none
    | some buf =>
        (linkStep config state (.slave .recv)).map fun next =>
          consume next stationConnected softapStarted buf

def serialItem (call : Prio × IfaceBuf) : Bool := call.1 = .serial

/-- A call of `send_to_host_queue` for a fragment has not returned. -/
def sendingFragment (scheduler : SlaveScheduler.State IfaceBuf) : Bool :=
  scheduler.sending.any serialItem || scheduler.announcing.contains .serial

/-- What the pserial task says at this step of its, with the request it answers. -/
inductive Speech where
  | silent
  | announces
  | answers (request : List UInt8)

def speech (receiver : SerialReceiver.State) : Speech :=
  match receiver.reader, receiver.reqQueue with
  | .idle, .event :: _ => .announces
  | .handling data len, _ =>
      if len = 0 then .silent
      else
        match Slave.rpcReqHandler (data.take len) with
        | .request _ request => .answers request
        | .overread | .refused => .silent
  | _, _ => .silent

/-- `compose_tlv` and the call of `serial_write_data`. -/
def say (state : State) (message : Message) : State :=
  match Slave.composeTlv true message.epname message.data with
  | none => state
  | some composed =>
      let written := serialWriteData (fun _ => false) state.seqNum composed.out
      { state with writing := written.1, seqNum := written.2.1, said := state.said ++ [message] }

def utter (state : State) (reply : List UInt8) : Speech → State
  | .silent => state
  | .announces => say state (.event reply)
  | .answers request =>
      say { state with answers := state.answers ++ [(request, reply)] } (.response reply)

def pserialStep (state : State) (reply : List UInt8) : Option State :=
  if state.writing ≠ [] ∨ sendingFragment state.scheduler then none
  else
    (SerialReceiver.readerStep state.receiver).map fun receiver =>
      utter { state with receiver := receiver } reply (speech state.receiver)

def fragmentStep (state : State) : Option State :=
  match state.writing with
  | [] => none
  | frame :: rest =>
      if sendingFragment state.scheduler then none
      else
        (SlaveScheduler.step config.scheduler state.scheduler (.call .serial frame)).map
          fun scheduler => { state with writing := rest, scheduler := scheduler }

/-- The frames of the other interfaces, with the queue their senders choose. -/
def maySchedule : SlaveScheduler.Act IfaceBuf → Bool
  | .call queueType buf =>
      queueType ≠ .serial && queueType = prioOf buf.ifType && SpiLink.writable buf
  | .sendItem _ | .sendToken _ | .look _ | .go => true

/-- The frame that `process_tx_pkt` is about to write. -/
def writes (scheduler : SlaveScheduler.State IfaceBuf) : SlaveScheduler.Act IfaceBuf → Option IfaceBuf
  | .go =>
      match scheduler.pc with
      | .processTxPkt _ buf => some buf
      | .lookDatapath | .receiveType | .receiveItem _ => none
  | .call _ _ | .sendItem _ | .sendToken _ | .look _ => none

def scheduleStep (state : State) (act : SlaveScheduler.Act IfaceBuf) : Option State :=
  if !maySchedule act then none
  else
    (SlaveScheduler.step config.scheduler state.scheduler act).bind fun scheduler =>
      let next := { state with scheduler := scheduler }
      match writes state.scheduler act with
      | none => some next
      | some buf =>
          -- the call of esp_spi_write before has returned
          if state.link.1.slave.putting ≠ [] then none
          else linkStep config next (.slave (.write buf))

def handleStep (state : State) (env : SerialReassembly.Env) : Option State :=
  match (state.link.1.host.rx.fromSlaveQueue .serial)[state.handled]? with
  | none => none
  | some buf =>
      (SerialReassembly.serialLlRxHandler env buf state.host).map fun result =>
        { state with host := result.1, handled := state.handled + 1 }

/-- What the interface has queued for the rpc thread. -/
def serialQueue (host : SerialReassembly.Host) : List SerialReassembly.Queued :=
  match host.interfaceHandle 0 with
  | none => []
  | some handle => handle.queue

/-- `serial_drv_read` of a handle on the queue. -/
def readQueued (item : SerialReassembly.Queued) : Option SerialRead.Ended :=
  if filled : item.buf.Filled then
    SerialRead.serialDrvRead SerialRead.openReader true (some (.ofBuf item.buf filled))
  else none

def fetchStep (state : State) : Option State :=
  match (serialQueue state.host)[state.fetched]? with
  | none => none
  | some item =>
      (readQueued item).map fun ended =>
        { state with fetched := state.fetched + 1, read := state.read ++ ended.returned.toList }

def step (state : State) : Act → Option State
  | .ask path wbuffer data => askStep config state path wbuffer data
  | .link act => if mayLink act then linkStep config state act else none
  | .recv stationConnected softapStarted => recvStep config state stationConnected softapStarted
  | .collect ok =>
      (SerialReceiver.rxStep config.reqQMax state.receiver ok).map fun receiver =>
        { state with receiver := receiver }
  | .event =>
      (SerialReceiver.eventStep config.reqQMax state.receiver).map fun receiver =>
        { state with receiver := receiver }
  | .pserial reply => pserialStep state reply
  | .fragment => fragmentStep config state
  | .schedule act => scheduleStep config state act
  | .handle env => handleStep state env
  | .fetch => fetchStep state

/-- What a step can be. -/
inductive Moves (before : State) : Act → State → Prop where
  | refused (path : Path) (wbuffer : Nat) (data : List UInt8) :
      Moves before (.ask path wbuffer data) before
  | ask (path : Path) (wbuffer : Nat) (data : List UInt8) (sent : Sent) (frame : SpiDriver.TxFrame)
      (link : SpiLink.State × History) (returned : asking before.link.1.host = false)
      (composes : transportPserialSend path wbuffer data = some sent)
      (queued : sent.queued = some frame)
      (goes : watched (SpiLink.step config.link) note before.link (.host (.call true frame)) =
        some link) :
      Moves before (.ask path wbuffer data)
        { before with asked := before.asked ++ [data], link := link }
  | link (act : SpiLink.Act) (link : SpiLink.State × History) (own : mayLink act = true)
      (goes : watched (SpiLink.step config.link) note before.link act = some link) :
      Moves before (.link act) { before with link := link }
  | recv (stationConnected softapStarted : Bool) (buf : SlaveBuf) (link : SpiLink.State × History)
      (idle : before.receiver.rx = .idle)
      (next : readNext before.link.1.slave.rxQueue = some buf)
      (goes : watched (SpiLink.step config.link) note before.link (.slave .recv) = some link) :
      Moves before (.recv stationConnected softapStarted)
        (consume { before with link := link } stationConnected softapStarted buf)
  | collect (ok : Bool) (receiver : SerialReceiver.State)
      (goes : SerialReceiver.rxStep config.reqQMax before.receiver ok = some receiver) :
      Moves before (.collect ok) { before with receiver := receiver }
  | event (receiver : SerialReceiver.State)
      (goes : SerialReceiver.eventStep config.reqQMax before.receiver = some receiver) :
      Moves before .event { before with receiver := receiver }
  | pserial (reply : List UInt8) (receiver : SerialReceiver.State) (clear : before.writing = [])
      (returned : sendingFragment before.scheduler = false)
      (goes : SerialReceiver.readerStep before.receiver = some receiver) :
      Moves before (.pserial reply)
        (utter { before with receiver := receiver } reply (speech before.receiver))
  | fragment (frame : IfaceBuf) (rest : List IfaceBuf) (next : before.writing = frame :: rest)
      (returned : sendingFragment before.scheduler = false) :
      Moves before .fragment
        { before with
          writing := rest
          scheduler := { before.scheduler with
            sending := before.scheduler.sending ++ [(.serial, frame)] } }
  | schedule (act : SlaveScheduler.Act IfaceBuf) (scheduler : SlaveScheduler.State IfaceBuf)
      (may : maySchedule act = true) (silent : writes before.scheduler act = none)
      (goes : SlaveScheduler.step config.scheduler before.scheduler act = some scheduler) :
      Moves before (.schedule act) { before with scheduler := scheduler }
  | write (act : SlaveScheduler.Act IfaceBuf) (scheduler : SlaveScheduler.State IfaceBuf)
      (buf : IfaceBuf) (link : SpiLink.State × History) (may : maySchedule act = true)
      (wrote : writes before.scheduler act = some buf) (returned : before.link.1.slave.putting = [])
      (goes : SlaveScheduler.step config.scheduler before.scheduler act = some scheduler)
      (below : watched (SpiLink.step config.link) note before.link (.slave (.write buf)) =
        some link) :
      Moves before (.schedule act) { before with scheduler := scheduler, link := link }
  | handle (env : SerialReassembly.Env) (buf : IfaceBuf) (result : SerialReassembly.Host × Int)
      (next : (before.link.1.host.rx.fromSlaveQueue .serial)[before.handled]? = some buf)
      (goes : SerialReassembly.serialLlRxHandler env buf before.host = some result) :
      Moves before (.handle env)
        { before with host := result.1, handled := before.handled + 1 }
  | fetch (item : SerialReassembly.Queued) (ended : SerialRead.Ended)
      (next : (serialQueue before.host)[before.fetched]? = some item)
      (goes : readQueued item = some ended) :
      Moves before .fetch
        { before with
          fetched := before.fetched + 1
          read := before.read ++ ended.returned.toList }

section Steps
variable {config} {before after : State}

theorem linkStep_cases {act : SpiLink.Act} (taken : linkStep config before act = some after) :
    ∃ link, watched (SpiLink.step config.link) note before.link act = some link ∧
      after = { before with link := link } := by
  obtain ⟨link, goes, same⟩ := Option.map_eq_some_iff.mp taken
  exact ⟨link, goes, same.symm⟩

theorem ask_moves {path : Path} {wbuffer : Nat} {data : List UInt8}
    (taken : askStep config before path wbuffer data = some after) :
    Moves config before (.ask path wbuffer data) after := by
  unfold askStep at taken
  split at taken
  · cases taken
  · rename_i returned
    split at taken
    · cases taken
    · rename_i sent composes
      split at taken
      · cases taken
        exact .refused path wbuffer data
      · rename_i frame queued
        obtain ⟨link, goes, rfl⟩ := linkStep_cases taken
        exact .ask path wbuffer data sent frame link (Bool.eq_false_of_not_eq_true returned)
          composes queued goes

theorem schedule_moves {act : SlaveScheduler.Act IfaceBuf}
    (taken : scheduleStep config before act = some after) :
    Moves config before (.schedule act) after := by
  unfold scheduleStep at taken
  split at taken
  · cases taken
  · rename_i allowed
    have may : maySchedule act = true := by simpa using allowed
    obtain ⟨scheduler, goes, rest⟩ := Option.bind_eq_some_iff.mp taken
    dsimp only at rest
    split at rest
    · rename_i silent
      cases rest
      exact .schedule act scheduler may silent goes
    · rename_i buf wrote
      obtain ⟨returned, below⟩ := Option.ite_none_left_eq_some.mp rest
      obtain ⟨link, wrote_link, rfl⟩ := linkStep_cases below
      exact .write act scheduler buf link may wrote (not_not.mp returned) goes wrote_link

theorem step_moves {act : Act} (taken : step config before act = some after) :
    Moves config before act after := by
  cases act with
  | ask path wbuffer data => exact ask_moves taken
  | link act =>
      obtain ⟨own, rest⟩ := Option.ite_none_right_eq_some.mp taken
      obtain ⟨link, goes, rfl⟩ := linkStep_cases rest
      exact .link act link own goes
  | recv stationConnected softapStarted =>
      obtain ⟨idle, rest⟩ := Option.ite_none_left_eq_some.mp taken
      split at rest
      · cases rest
      · rename_i buf next
        obtain ⟨middle, below, rfl⟩ := Option.map_eq_some_iff.mp rest
        obtain ⟨link, goes, rfl⟩ := linkStep_cases below
        exact .recv stationConnected softapStarted buf link (not_not.mp idle) next goes
  | collect ok =>
      obtain ⟨receiver, goes, rfl⟩ := Option.map_eq_some_iff.mp taken
      exact .collect ok receiver goes
  | event =>
      obtain ⟨receiver, goes, rfl⟩ := Option.map_eq_some_iff.mp taken
      exact .event receiver goes
  | pserial reply =>
      obtain ⟨free, rest⟩ := Option.ite_none_left_eq_some.mp taken
      obtain ⟨clear, returned⟩ := not_or.mp free
      obtain ⟨receiver, goes, rfl⟩ := Option.map_eq_some_iff.mp rest
      exact .pserial reply receiver (not_not.mp clear) (Bool.eq_false_of_not_eq_true returned) goes
  | fragment =>
      rw [step, fragmentStep] at taken
      split at taken
      · cases taken
      · rename_i frame rest next
        obtain ⟨returned, called⟩ := Option.ite_none_left_eq_some.mp taken
        cases called
        exact .fragment frame rest next (Bool.eq_false_of_not_eq_true returned)
  | schedule act => exact schedule_moves taken
  | handle env =>
      rw [step, handleStep] at taken
      split at taken
      · cases taken
      · rename_i buf next
        obtain ⟨result, goes, rfl⟩ := Option.map_eq_some_iff.mp taken
        exact .handle env buf result next goes
  | fetch =>
      rw [step, fetchStep] at taken
      split at taken
      · cases taken
      · rename_i item next
        obtain ⟨ended, goes, rfl⟩ := Option.map_eq_some_iff.mp taken
        exact .fetch item ended next goes

end Steps

/-- The lengths a message may have. -/
def Sized (data : List UInt8) : Prop := 1 ≤ data.length ∧ data.length ≤ 65523

/-- Memory suffices, messages have the lengths that the format is for, and no fragment overtakes
the pserial task while it empties `r`. -/
def Fair (state : State) : Act → Prop
  | .ask path _ data => path.ifNum = 0 ∧ Sized data
  | .link act => Handed state.link act
  | .collect ok => SerialReceiver.Undisturbed state.receiver (.rx ok)
  | .pserial reply => Sized reply
  | .handle env => env.Succeeds
  | .recv _ _ | .event | .fragment | .schedule _ | .fetch => True

end EspHosted.RpcChannel

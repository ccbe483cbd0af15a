import EspHosted.RpcChannel

/-!
What each part of the channel does to the serial frames. A frame on its way into a queue is in
the hands of one task, so the frames of a queue and the one before it keep their order.
-/

namespace EspHosted.RpcChannel
open SpiFrames HostFrames SlaveFrames QueueBank GuardedRun LinkOrder SerialTlv SerialSend
open Throttling (Pipeline Written)

def serialRx (frame : List UInt8) : Bool := SlaveDriver.framePrio frame = .serial

/-- The serial frames the host has queued, then the one it is about to queue. -/
def askLine (link : SpiLink.State × History) : List SpiDriver.TxFrame :=
  link.2.hostPut .serial ++ link.1.host.putting.filter serialTx

/-- The serial frames the slave has queued, then the one it is about to queue. -/
def sayLine (link : SpiLink.State × History) : List (List UInt8) :=
  link.2.slavePut .serial ++ link.1.slave.putting.filter serialRx

/-- One call each of the rpc thread and of `send_task`. -/
structure Once (link : SpiLink.State × History) : Prop where
  asking : (link.1.host.putting.filter serialTx).length ≤ 1
  saying : link.1.slave.putting.length ≤ 1

section Link
variable {config : SpiLink.Config} {state : SpiLink.State} {history : History}

end Link

/-- The frame of a request. -/
structure Requests (frame : SpiDriver.TxFrame) (data : List UInt8) : Prop where
  ifType : frame.buf.ifType = espSerialIf
  copied : frame.buf.payloadZcopy = false
  bytes : frame.buf.bytes = enveloped rpcEpNameRsp data
  sendable : Sendable frame.buf

theorem Requests.serial {frame : SpiDriver.TxFrame} {data : List UInt8}
    (requests : Requests frame data) : serialTx frame = true := by
  rw [serialTx, txPrio, requests.ifType]
  rfl

section Asking
variable {path : Path} {wbuffer : Nat} {data : List UInt8} {sent : Sent}
variable {frame : SpiDriver.TxFrame}

end Asking

/-- What the serial interface of the host sees of a frame. -/
def heardPiece (frame : List UInt8) : Option SerialFragments.Piece :=
  (accepted frame).map SerialFragments.piece

/-- A fragment that `serial_write_data` makes. -/
structure Fit (buf : IfaceBuf) : Prop where
  sound : SerialFragments.Sound buf
  fits : buf.payloadLen.toNat ≤ ethDataLen
  ifType : buf.ifType = espSerialIf

/-- The serial frame that `process_tx_pkt` is through with. -/
def processedNow : Option IfaceBuf → List IfaceBuf
  | none => []
  | some buf => if prioOf buf.ifType = .serial then [buf] else []

section Ends
variable {config : SpiLink.Config} {state : SpiLink.State} {history : History}
variable {last : SpiLink.State × History}

/-- `recv_task` takes a frame, and nothing else. -/
structure Reads (before after : SpiLink.State × History) (buf : SlaveBuf) : Prop where
  once : Once after
  asked : askLine after = askLine before
  said : sayLine after = sayLine before
  read : after.2.slaveRead .serial =
    before.2.slaveRead .serial ++ if rxPrio buf = .serial then [buf] else []
  heard : after.1.host.rx.fromSlaveQueue .serial = before.1.host.rx.fromSlaveQueue .serial

/-- A frame that `send_task` has written for a fragment. -/
def Fragment (frame : List UInt8) : Prop :=
  ∃ throttle buf, Fit buf ∧ SpiLink.writable buf = true ∧ espSpiWrite throttle buf = some frame

/-- The host can work with what it gets of a fragment. -/
theorem Fragment.sound {frame : List UInt8} (fragment : Fragment frame) {got : IfaceBuf}
    (received : accepted frame = some got) : SerialFragments.Sound got := by
  obtain ⟨throttle, buf, fit, may, wrote⟩ := fragment
  obtain ⟨taken, frame_taken, same⟩ :=
    @SerialFragments.carry_kept (fun _ => throttle) buf fit.sound fit.fits fit.ifType
  rw [SerialFragments.carry, if_neg Bool.false_ne_true, wrote, Option.bind_some] at frame_taken
  have one : taken = got := Option.some.inj (frame_taken.symm.trans received)
  rw [← one]
  exact SerialFragments.same_sound same fit.sound

/-- `send_task` writes a frame, and nothing else. -/
structure Writes (before after : SpiLink.State × History) (buf : IfaceBuf) : Prop where
  once : Once after
  asked : askLine after = askLine before
  said : (sayLine after).filterMap heardPiece =
    (sayLine before).filterMap heardPiece ++
      (processedNow (some buf)).map SerialFragments.piece
  fragments : ∀ frame ∈ sayLine after, frame ∈ sayLine before ∨ Fragment frame
  read : after.2.slaveRead .serial = before.2.slaveRead .serial
  heard : after.1.host.rx.fromSlaveQueue .serial = before.1.host.rx.fromSlaveQueue .serial

end Ends

section Scheduler
variable {config : SlaveScheduler.Config} {before after : SlaveScheduler.State IfaceBuf}

/-- The fragments that are in the serial queue or were, then the one that is being sent. -/
def fragLine (scheduler : SlaveScheduler.State IfaceBuf) : List IfaceBuf :=
  scheduler.accepted .serial ++ (scheduler.sending.filter serialItem).map Prod.snd

/-- An item in the queue of its interface; those of the serial one are fragments. -/
structure Placed (queueType : Prio) (buf : IfaceBuf) : Prop where
  prio : prioOf buf.ifType = queueType
  fit : queueType = .serial → Fit buf

structure Places (scheduler : SlaveScheduler.State IfaceBuf) : Prop where
  sending : ∀ call ∈ scheduler.sending, Placed call.1 call.2
  queued : ∀ prio, ∀ buf ∈ scheduler.toHost prio, Placed prio buf
  hand : ∀ queueType buf, scheduler.pc = .processTxPkt queueType buf → Placed queueType buf
  once : (scheduler.sending.filter serialItem).length ≤ 1

end Scheduler

end EspHosted.RpcChannel

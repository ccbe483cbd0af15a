import EspHosted.SerialTraffic

/-!
What a conversation over the channel comes to, in whatever order its tasks run: the slave answers
the requests in the order in which they were sent, each of them once, and the rpc thread reads
what the slave says in the order in which it says it.
-/

namespace EspHosted.RpcChannel
open SpiFrames HostFrames SlaveFrames QueueBank GuardedRun LinkOrder SerialTlv SerialSend Segments
open SerialFragments (Piece piece pieces Sound)
open SerialReceiver (ReceiverInv assemble)

variable {config : Config} {before after state : State}

section Parts

/-- What each part keeps by itself. -/
structure Parts (state : State) : Prop where
  link : LinkOrder.Inv state.link
  pipeline : Throttling.Pipeline state.link.1.slave
  receiver : ReceiverInv state.receiver
  room : SerialReceiver.RoomInv state.receiver
  scheduler : SlaveScheduler.Inv state.scheduler

end Parts

/-- The fragment `process_serial_rx_pkt` is at work on. -/
def collecting : SerialReceiver.RxPc → List SerialReceiver.SerialFrag
  | .waiting frag _ | .adopting frag _ | .comparing frag _ | .copying frag _ | .growing frag _
  | .ending frag => [frag]
  | .idle | .handing | .queueing _ => []

/-- From `transport_pserial_send` to `process_serial_rx_pkt`. -/
structure Asking (state : State) : Prop where
  sized : ∀ data ∈ state.asked, Sized data
  frames : List.Forall₂ Requests (askLine state.link) state.asked
  collected : state.receiver.taken ++ collecting state.receiver.rx =
    (state.link.2.slaveRead .serial).map serialFrag

/-- The requests that were handled, and what was said to them. -/
structure Answering (state : State) : Prop where
  handled : state.receiver.handled =
    state.answers.map fun answer => enveloped rpcEpNameRsp answer.1
  answers : state.said.filterMap Message.answer = state.answers.map Prod.snd

/-- The fragments of all that was said. -/
def saidPieces (said : List Message) : List Piece :=
  (said.map fun message => pieces message.bytes).flatten

/-- From `serial_write_data` to `esp_spi_write`. -/
structure Saying (state : State) : Prop where
  places : Places state.scheduler
  sized : ∀ message ∈ state.said, Sized message.data
  fits : ∀ buf ∈ state.writing, Fit buf
  pieces : (fragLine state.scheduler ++ state.writing).map piece = saidPieces state.said
  frames : ∀ frame ∈ sayLine state.link, Fragment frame
  written : (sayLine state.link).filterMap heardPiece =
    (state.scheduler.processed .serial).map piece

/-- The serial frames the rx thread has taken. -/
def heardFrames (state : State) : List IfaceBuf :=
  (state.link.1.host.rx.fromSlaveQueue .serial).take state.handled

/-- From the queue of the host's driver to the rpc thread. -/
structure Hearing (state : State) : Prop where
  handled : state.handled ≤ (state.link.1.host.rx.fromSlaveQueue .serial).length
  opened : SerialReassembly.Opened state.host
    ((segments Piece.last [] ((heardFrames state).map piece)).map SerialReassembly.message)
  holds : SerialReassembly.Holds state.host.r (pending Piece.last [] ((heardFrames state).map piece))
  fetched : state.fetched ≤ state.said.length
  read : state.read = (state.said.take state.fetched).map Message.data

structure Wired (state : State) : Prop where
  once : Once state.link
  asking : Asking state
  answering : Answering state
  saying : Saying state
  hearing : Hearing state

section Keeping

theorem Asking.keep (asking : Asking before) (asked : after.asked = before.asked)
    (line : askLine after.link = askLine before.link)
    (read : after.link.2.slaveRead .serial = before.link.2.slaveRead .serial)
    (taken : after.receiver.taken = before.receiver.taken)
    (rx : after.receiver.rx = before.receiver.rx) : Asking after where
  sized := by
    rw [asked]
    exact asking.sized
  frames := by
    rw [line, asked]
    exact asking.frames
  collected := by
    rw [taken, rx, read]
    exact asking.collected

theorem Answering.keep (answering : Answering before)
    (handled : after.receiver.handled = before.receiver.handled)
    (answers : after.answers = before.answers) (said : after.said = before.said) :
    Answering after where
  handled := by
    rw [handled, answers]
    exact answering.handled
  answers := by
    rw [said, answers]
    exact answering.answers

theorem Saying.keep (saying : Saying before) (scheduler : after.scheduler = before.scheduler)
    (writing : after.writing = before.writing) (said : after.said = before.said)
    (line : sayLine after.link = sayLine before.link) : Saying after where
  places := by
    rw [scheduler]
    exact saying.places
  sized := by
    rw [said]
    exact saying.sized
  fits := by
    rw [writing]
    exact saying.fits
  pieces := by
    rw [scheduler, writing, said]
    exact saying.pieces
  frames := by
    rw [line]
    exact saying.frames
  written := by
    rw [line, scheduler]
    exact saying.written

/-- More may be said, and more may have come. -/
theorem Hearing.keep (hearing : Hearing before)
    (heard : before.link.1.host.rx.fromSlaveQueue .serial <+:
      after.link.1.host.rx.fromSlaveQueue .serial)
    (host : after.host = before.host) (handled : after.handled = before.handled)
    (fetched : after.fetched = before.fetched) (read : after.read = before.read)
    (said : before.said <+: after.said) : Hearing after := by
  have frames : heardFrames after = heardFrames before := by
    obtain ⟨more, longer⟩ := heard
    rw [heardFrames, heardFrames, handled, ← longer, List.take_append_of_le_length hearing.handled]
  obtain ⟨later, longer⟩ := said
  constructor
  case handled =>
    rw [handled]
    exact Nat.le_trans hearing.handled heard.length_le
  case opened =>
    rw [host, frames]
    exact hearing.opened
  case holds =>
    rw [host, frames]
    exact hearing.holds
  case fetched =>
    rw [fetched, ← longer, List.length_append]
    exact Nat.le_add_right_of_le hearing.fetched
  case read =>
    rw [read, fetched, ← longer, List.take_append_of_le_length hearing.fetched]
    exact hearing.read

end Keeping

section Steps

end Steps

section Requests

/-- What the pserial task says at a step, and the request it handles with it. -/
inductive Speaks (before after : SerialReceiver.State) : Speech → Prop where
  | silent (same : after.handled = before.handled) : Speaks before after .silent
  | announces (same : after.handled = before.handled) : Speaks before after .announces
  | answers (request : List UInt8) (asked : Sized request)
      (handled : after.handled = before.handled ++ [enveloped rpcEpNameRsp request]) :
      Speaks before after (.answers request)

end Requests

section Speaking

theorem epname_length (message : Message) : message.epname.length = 6 := by
  cases message <;> rfl

theorem bytes_length (message : Message) (sized : Sized message.data) :
    message.bytes.length = 12 + message.data.length ∧ message.bytes ≠ [] := by
  have length := (enveloped_small (epname_length message) sized.2).1
  refine ⟨length, ?_⟩
  intro none
  rw [Message.bytes] at none
  rw [none, List.length_nil] at length
  omega

end Speaking

section Hearing

theorem segments_said (said : List Message) :
    segments Piece.last [] (saidPieces said) = said.map fun message => pieces message.bytes := by
  have lossless := (SerialReassembly.segments_lossless (said.map Message.bytes)).1
  have stream : SerialFragments.stream (fun _ _ => false) (said.map Message.bytes) =
      saidPieces said := by
    induction said with
    | nil => rfl
    | cons first rest ih =>
        rw [List.map_cons, SerialFragments.stream, SerialReassembly.survivors_all]
        rw [ih (SerialReassembly.segments_lossless (rest.map Message.bytes)).1]
        rfl
  rw [stream, List.map_map] at lossless
  exact lossless

theorem serialQueue_opened {host : SerialReassembly.Host} {queue : List SerialReassembly.Queued}
    (opened : SerialReassembly.Opened host queue) : serialQueue host = queue := by
  rw [serialQueue, opened]

end Hearing

/-- Nothing that was said is on its way to the rpc thread. -/
structure SayRests (state : State) : Prop where
  written : state.writing = []
  sent : state.scheduler.sending.filter serialItem = []
  scheduled : SlaveScheduler.pending state.scheduler .serial = []
  put : state.link.1.slave.putting.filter serialRx = []
  carried : toHost state.link.1 .serial = []
  handled : state.handled = (state.link.1.host.rx.fromSlaveQueue .serial).length
  fetched : state.fetched = (serialQueue state.host).length

/-- With nothing said on its way all of it has been read. -/
theorem all_read (parts : Parts state) (wired : Wired state) (rests : SayRests state) :
    state.read = state.said.map Message.data := by
  have line : (state.link.2.slavePut .serial).filterMap accepted =
      state.link.1.host.rx.fromSlaveQueue .serial ++ toHost state.link.1 .serial :=
    parts.link.toHost .serial
  have order : state.scheduler.accepted .serial =
      state.scheduler.processed .serial ++ SlaveScheduler.pending state.scheduler .serial :=
    parts.scheduler.order .serial
  have written := wired.saying.written
  have cut := wired.saying.pieces
  have heard : (state.link.2.slavePut .serial).filterMap heardPiece =
      ((state.link.2.slavePut .serial).filterMap accepted).map piece := by
    rw [List.map_filterMap]
    rfl
  rw [sayLine, rests.put, List.append_nil, heard, line, rests.carried, List.append_nil] at written
  rw [fragLine, rests.written, rests.sent, order, rests.scheduled] at cut
  simp only [List.map_nil, List.append_nil] at cut
  have queue := serialQueue_opened wired.hearing.opened
  rw [heardFrames, rests.handled, List.take_length, written, cut, segments_said, List.map_map]
    at queue
  have all := congrArg List.length queue
  rw [← rests.fetched, List.length_map] at all
  rw [wired.hearing.read, all, List.take_length]

instance (env : SerialReassembly.Env) : Decidable env.Succeeds :=
  decidable_of_iff (env.dataAlloc = true ∧ env.msgAlloc = true ∧ env.queueItem = true)
    ⟨fun ⟨dataAlloc, msgAlloc, queueItem⟩ => ⟨dataAlloc, msgAlloc, queueItem⟩,
      fun ⟨dataAlloc, msgAlloc, queueItem⟩ => ⟨dataAlloc, msgAlloc, queueItem⟩⟩

instance (data : List UInt8) : Decidable (Sized data) := inferInstanceAs (Decidable (_ ∧ _))

instance (state : State) : (act : Act) → Decidable (Fair state act)
  | .ask _ _ _ => inferInstanceAs (Decidable (_ ∧ _))
  | .link act => inferInstanceAs (Decidable (Handed state.link act))
  | .collect ok => inferInstanceAs (Decidable (SerialReceiver.Undisturbed state.receiver (.rx ok)))
  | .pserial reply => inferInstanceAs (Decidable (Sized reply))
  | .handle env => inferInstanceAs (Decidable env.Succeeds)
  | .recv _ _ | .event | .fragment | .schedule _ | .fetch => .isTrue trivial

def smallConfig : Config where
  link := Throttling.fewSlots
  scheduler := ⟨20, by decide⟩
  reqQMax := 10

end EspHosted.RpcChannel

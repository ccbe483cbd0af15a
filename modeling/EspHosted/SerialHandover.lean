import EspHosted.SerialReceiver

/-!
What the slave hands over of the fragments it is given. The fragments alone say which
messages are complete; the two tasks hand over just these as long as no fragment leaves the
wait loop while `r` is being emptied, and no hand-off fails.
-/

namespace EspHosted.SerialReceiver
open SpiFrames HostFrames GuardedRun

variable {reqQMax : Nat}

/-- What the fragments say, whoever collects them: the messages that are complete, and the
one that is open. Another sequence number abandons the open message. -/
structure Assembly where
  messages : List (List UInt8)
  seqNum : UInt16
  bytes : List UInt8

def Assembly.feed (assembly : Assembly) (frag : SerialFrag) : Assembly :=
  let bytes :=
    if assembly.bytes = [] ∨ frag.seqNum ≠ assembly.seqNum then frag.payload
    else assembly.bytes ++ frag.payload
  if frag.more then { assembly with seqNum := frag.seqNum, bytes := bytes }
  else { messages := assembly.messages ++ [bytes], seqNum := frag.seqNum, bytes := [] }

def assemble (frags : List SerialFrag) : Assembly := frags.foldl Assembly.feed ⟨[], 0, []⟩

/-- A message as far as `r.data` holds it. -/
def cut (bytes : List UInt8) : List UInt8 := bytes.take rxDataSize

def requests (reqQueue : List SerialArg) : List (List UInt8) :=
  reqQueue.filterMap fun
    | .event => none
    | .request data => some data

/-- `serial_read_data` has given `r` free but is still writing to it. -/
def ReaderPc.clearing : ReaderPc → Bool
  | .clearingLen _ _ | .clearingSeq _ _ => true
  | .idle | .entered _ | .sized _ _ | .clearingValid _ _ | .handling _ _ => false

/-- The fragment that leaves the wait loop finds `r` left alone by the reader, belongs to the
message that is open and has its room still; and hand-offs succeed. -/
def RxUndisturbed (state : State) (ok : Bool) : RxPc → Prop
  | .waiting frag rem =>
      state.r.valid = false →
        state.reader.clearing = false ∧
        (state.r.len ≠ 0 → frag.seqNum = state.r.curSeqNo) ∧
        (frag.payload.length ≤ rem ∨ state.r.len + rem = rxDataSize)
  | .handing => state.r.len ≠ 0 → ok = true
  | .queueing _ => ok = true
  | .idle | .adopting _ _ | .comparing _ _ | .copying _ _ | .growing _ _ | .ending _ => True

def Undisturbed (state : State) : Act → Prop
  | .rx ok => RxUndisturbed state ok state.rx
  | .deliver _ | .event | .reader => True

instance (state : State) (ok : Bool) : (pc : RxPc) → Decidable (RxUndisturbed state ok pc)
  | .waiting frag rem =>
      inferInstanceAs (Decidable (state.r.valid = false →
        state.reader.clearing = false ∧
        (state.r.len ≠ 0 → frag.seqNum = state.r.curSeqNo) ∧
        (frag.payload.length ≤ rem ∨ state.r.len + rem = rxDataSize)))
  | .handing => inferInstanceAs (Decidable (state.r.len ≠ 0 → ok = true))
  | .queueing _ => inferInstanceAs (Decidable (ok = true))
  | .idle | .adopting _ _ | .comparing _ _ | .copying _ _ | .growing _ _ | .ending _ =>
      .isTrue trivial

instance (state : State) : (act : Act) → Decidable (Undisturbed state act)
  | .rx ok => inferInstanceAs (Decidable (RxUndisturbed state ok state.rx))
  | .deliver _ | .event | .reader => .isTrue trivial

section Assembling
variable {assembly : Assembly} {frag : SerialFrag}

theorem assemble_append (frags : List SerialFrag) (frag : SerialFrag) :
    assemble (frags ++ [frag]) = (assemble frags).feed frag := by
  rw [assemble, List.foldl_append, List.foldl_cons, List.foldl_nil, assemble]

/-- A fragment of the open message extends it. -/
theorem joined (continues : assembly.bytes ≠ [] → frag.seqNum = assembly.seqNum) :
    (if assembly.bytes = [] ∨ frag.seqNum ≠ assembly.seqNum then frag.payload
      else assembly.bytes ++ frag.payload) = assembly.bytes ++ frag.payload := by
  by_cases fresh : assembly.bytes = []
  · simp [fresh]
  · simp [fresh, continues fresh]

theorem feed_more (continues : assembly.bytes ≠ [] → frag.seqNum = assembly.seqNum)
    (more : frag.more = true) :
    assembly.feed frag =
      { assembly with seqNum := frag.seqNum, bytes := assembly.bytes ++ frag.payload } := by
  simp only [Assembly.feed, joined continues, more, if_true]

theorem feed_last (continues : assembly.bytes ≠ [] → frag.seqNum = assembly.seqNum)
    (last : frag.more = false) :
    assembly.feed frag =
      { messages := assembly.messages ++ [assembly.bytes ++ frag.payload]
        seqNum := frag.seqNum, bytes := [] } := by
  simp [Assembly.feed, joined continues, last]

end Assembling

/-- `r` holds the open message. -/
structure Holds (r : RxData) (assembly : Assembly) : Prop where
  message : r.message = cut assembly.bytes
  seqNum : r.len ≠ 0 → r.curSeqNo = assembly.seqNum

/-- A fragment on its way into `r` belongs to the open message. -/
def Continues (frag : SerialFrag) (assembly : Assembly) : Prop :=
  assembly.bytes ≠ [] → frag.seqNum = assembly.seqNum

section Message
variable {r : RxData} {assembly : Assembly} {frag : SerialFrag} {rem : Nat}

theorem message_length (size : r.data.length = rxDataSize) (room : r.len ≤ rxDataSize) :
    r.message.length = r.len := by
  rw [RxData.message, List.length_take, size, Nat.min_eq_left room]

theorem len_ne_zero (holds : r.message = cut assembly.bytes) (open_ : assembly.bytes ≠ []) :
    r.len ≠ 0 := by
  intro empty
  rw [RxData.message, empty, List.take_zero, cut] at holds
  rcases List.take_eq_nil_iff.mp holds.symm with none | none
  · cases none
  · exact open_ none

theorem Holds.continues (holds : Holds r assembly) (same : r.len ≠ 0 → frag.seqNum = r.curSeqNo) :
    Continues frag assembly := by
  intro open_
  have some_bytes := len_ne_zero holds.message open_
  rw [same some_bytes, holds.seqNum some_bytes]

/-- What `memcpy` puts behind the open message. -/
theorem copied_message (size : r.data.length = rxDataSize) (room : r.len + rem ≤ rxDataSize)
    (fits : frag.payload.length ≤ rem ∨ r.len + rem = rxDataSize)
    (message : r.message = cut assembly.bytes) :
    (putAt r.data r.len (frag.payload.take (min frag.payload.length rem))).take
        (r.len + min frag.payload.length rem) = cut (assembly.bytes ++ frag.payload) := by
  have length := @message_length r size (by omega)
  have copied : (frag.payload.take (min frag.payload.length rem)).length =
      min frag.payload.length rem := by
    rw [List.length_take]
    omega
  have front : (r.message ++ frag.payload.take (min frag.payload.length rem)).length =
      r.len + min frag.payload.length rem := by
    rw [List.length_append, length, copied]
  have put : (putAt r.data r.len (frag.payload.take (min frag.payload.length rem))).take
      (r.len + min frag.payload.length rem) =
        r.message ++ frag.payload.take (min frag.payload.length rem) := by
    rw [putAt]
    exact List.take_left' front
  have open_len : r.len = min rxDataSize assembly.bytes.length := by
    rw [← length, message, cut, List.length_take]
  have tail : frag.payload.take (min frag.payload.length rem) =
      frag.payload.take (rxDataSize - assembly.bytes.length) := by
    apply List.take_eq_take_iff.mpr
    omega
  rw [put, message, tail, cut, cut, List.take_append]

end Message

/-- Outside `process_serial_rx_pkt` or in its wait loop, at work on `r`, or handing it over. -/
inductive Phase where
  | outside
  | working
  | handing
  deriving DecidableEq

def RxPc.phase : RxPc → Phase
  | .idle | .waiting _ _ => .outside
  | .adopting _ _ | .comparing _ _ | .copying _ _ | .growing _ _ | .ending _ => .working
  | .handing | .queueing _ => .handing

/-- The request whose message the reader still has to take out of `r`. -/
def ReaderPc.reads : ReaderPc → List (List UInt8)
  | .entered data | .sized data _ | .clearingValid data _ => [data]
  | .idle | .clearingLen _ _ | .clearingSeq _ _ | .handling _ _ => []

/-- The request the reader has not let go of. -/
def ReaderPc.holds : ReaderPc → List (List UInt8)
  | .entered data | .sized data _ | .clearingValid data _ | .clearingLen data _
  | .clearingSeq data _ | .handling data _ => [data]
  | .idle => []

/-- What `serial_read_data` returns is the length of the request. -/
def ReaderPc.Whole : ReaderPc → Prop
  | .sized data len | .clearingValid data len | .clearingLen data len | .clearingSeq data len
  | .handling data len => len = data.length
  | .idle | .entered _ => True

/-- Requests that are queued or being read out of `r`. -/
def State.pending (state : State) : List (List UInt8) :=
  state.reader.reads ++ requests state.reqQueue

/-- What `r` holds of the open message, and what was handed over of the complete ones. -/
def Content (state : State) : Prop :=
  let assembly := assemble state.taken
  match state.rx with
  | .idle | .waiting _ _ =>
      assembly.messages.map cut = state.handed ∧
      ((state.r.valid || state.reader.clearing) = true → assembly.bytes = []) ∧
      ((state.r.valid || state.reader.clearing) = false → Holds state.r assembly)
  | .adopting frag rem =>
      assembly.messages.map cut = state.handed ∧ Holds state.r assembly ∧
      (frag.payload.length ≤ rem ∨ state.r.len + rem = rxDataSize) ∧
      (state.r.len ≠ 0 → frag.seqNum = state.r.curSeqNo)
  | .comparing frag rem | .copying frag rem =>
      assembly.messages.map cut = state.handed ∧ state.r.message = cut assembly.bytes ∧
      (frag.payload.length ≤ rem ∨ state.r.len + rem = rxDataSize) ∧
      Continues frag assembly ∧ frag.seqNum = state.r.curSeqNo
  | .growing frag rem =>
      assembly.messages.map cut = state.handed ∧
      state.r.data.take (state.r.len + min frag.payload.length rem) =
        cut (assembly.bytes ++ frag.payload) ∧
      Continues frag assembly ∧ frag.seqNum = state.r.curSeqNo
  | .ending frag =>
      assembly.messages.map cut = state.handed ∧
      state.r.message = cut (assembly.bytes ++ frag.payload) ∧
      Continues frag assembly ∧ frag.seqNum = state.r.curSeqNo
  | .handing =>
      assembly.messages.map cut = state.handed ++ [state.r.message] ∧ assembly.bytes = []
  | .queueing data =>
      data = state.r.message ∧
      assembly.messages.map cut = state.handed ++ [state.r.message] ∧ assembly.bytes = []

structure ReceiverInv (state : State) : Prop where
  content : Content state
  /-- `r.valid` stands for exactly one request. -/
  free : state.r.valid = false → state.pending = []
  taken : state.rx.phase = .outside → state.r.valid = true → state.pending = [state.r.message]
  working : state.rx.phase = .working → state.r.valid = false
  handing : state.rx.phase = .handing → state.r.valid = true ∧ state.pending = []
  clearing : state.reader.clearing = true → state.r.valid = false ∧ state.rx.phase = .outside
  cleared : ∀ data len, state.reader = .clearingSeq data len → state.r.len = 0
  whole : state.reader.Whole
  account : ∃ finished, state.handed = finished ++ (state.reader.holds ++ requests state.reqQueue) ∧
    state.handled = finished.filter (· ≠ [])

section Steps
variable {before after : State}

theorem assemble_nil : assemble [] = ⟨[], 0, []⟩ := rfl

theorem receiverInv_init : ReceiverInv init where
  content := by
    simp [Content, init, assemble_nil, ReaderPc.clearing]
    exact ⟨rfl, fun filled => absurd rfl filled⟩
  free _ := rfl
  taken _ valid := by simp [init] at valid
  working _ := rfl
  handing phase := by simp [init, RxPc.phase] at phase
  clearing clearing := by simp [init, ReaderPc.clearing] at clearing
  cleared _ _ reader := by simp [init] at reader
  whole := trivial
  account := ⟨[], rfl, rfl⟩

theorem ReceiverInv.still (inv : ReceiverInv before) (busy : before.rx.phase ≠ .outside) :
    before.reader.clearing = false := by
  cases clearing : before.reader.clearing with
  | false => rfl
  | true => exact absurd (inv.clearing clearing).2 busy

/-- A step towards the next complete message. -/
theorem inv_unfinished (inv : ReceiverInv before) (still : before.reader.clearing = false)
    (open_ : before.r.valid = false) (valid : after.r.valid = false)
    (reader : after.reader = before.reader) (reqQueue : after.reqQueue = before.reqQueue)
    (handed : after.handed = before.handed) (handled : after.handled = before.handled)
    (phase : after.rx.phase ≠ .handing) (content : Content after) : ReceiverInv after where
  content := content
  free _ := by
    rw [State.pending, reader, reqQueue]
    exact inv.free open_
  taken _ filled := by simp [valid] at filled
  working _ := valid
  handing hands := absurd hands phase
  clearing clearing := by simp [reader, still] at clearing
  cleared data len here := by
    rw [reader] at here
    simp [here, ReaderPc.clearing] at still
  whole := by
    rw [reader]
    exact inv.whole
  account := by
    rw [handed, handled, reader, reqQueue]
    exact inv.account

/-- A step of a hand-over that was begun. -/
theorem inv_handing (inv : ReceiverInv before) (still : before.reader.clearing = false)
    (none : before.pending = []) (valid : after.r.valid = true)
    (reader : after.reader = before.reader) (reqQueue : after.reqQueue = before.reqQueue)
    (handed : after.handed = before.handed) (handled : after.handled = before.handled)
    (phase : after.rx.phase = .handing) (content : Content after) : ReceiverInv after where
  content := content
  free free := by simp [valid] at free
  taken outside := by simp [phase] at outside
  working works := by simp [phase] at works
  handing _ := by
    refine ⟨valid, ?_⟩
    rw [State.pending, reader, reqQueue]
    exact none
  clearing clearing := by simp [reader, still] at clearing
  cleared data len here := by
    rw [reader] at here
    simp [here, ReaderPc.clearing] at still
  whole := by
    rw [reader]
    exact inv.whole
  account := by
    rw [handed, handled, reader, reqQueue]
    exact inv.account

/-- A step between the fragment's look at `r.valid` and its end. -/
theorem inv_works (inv : ReceiverInv before) (working : before.rx.phase = .working)
    (valid : after.r.valid = before.r.valid) (reader : after.reader = before.reader)
    (reqQueue : after.reqQueue = before.reqQueue) (handed : after.handed = before.handed)
    (handled : after.handled = before.handled) (phase : after.rx.phase ≠ .handing)
    (content : Content after) : ReceiverInv after := by
  have still := inv.still (by simp [working])
  have free := inv.working working
  exact inv_unfinished inv still free (valid.trans free) reader reqQueue handed handled phase content

section Collecting
variable {frag : SerialFrag} {rem : Nat} {ok : Bool}

theorem inv_waiting (inv : ReceiverInv before) (rx : before.rx = .waiting frag rem)
    (free : before.r.valid = false) (undisturbed : Undisturbed before (.rx ok)) :
    ReceiverInv { before with rx := .adopting frag rem } := by
  have content := inv.content
  simp only [Content, rx] at content
  simp only [Undisturbed, rx, RxUndisturbed] at undisturbed
  obtain ⟨still, same, fits⟩ := undisturbed free
  apply inv_unfinished inv still free
  case valid => exact free
  case phase => simp [RxPc.phase]
  case content => exact ⟨content.1, content.2.2 (by simp [free, still]), fits, same⟩
  all_goals rfl

theorem inv_adopting (inv : ReceiverInv before) (rx : before.rx = .adopting frag rem) :
    ReceiverInv
      { before with
        r := if before.r.len = 0 then { before.r with curSeqNo := frag.seqNum } else before.r
        rx := .comparing frag rem } := by
  have working : before.rx.phase = .working := by rw [rx, RxPc.phase]
  have content := inv.content
  simp only [Content, rx] at content
  obtain ⟨handed, holds, fits, same⟩ := content
  have continues := holds.continues same
  by_cases empty : before.r.len = 0
  · simp only [empty, if_true]
    apply inv_works inv working
    case phase => simp [RxPc.phase]
    case content =>
      exact ⟨handed, by simpa [RxData.message, empty] using holds.message,
        by simpa [empty] using fits, continues, rfl⟩
    all_goals rfl
  · simp only [empty, if_false]
    apply inv_works inv working
    case phase => simp [RxPc.phase]
    case content => exact ⟨handed, holds.message, fits, continues, same empty⟩
    all_goals rfl

theorem inv_comparing (inv : ReceiverInv before) (rx : before.rx = .comparing frag rem) :
    ReceiverInv { before with rx := .copying frag rem } := by
  have content := inv.content
  simp only [Content, rx] at content
  apply inv_works inv
  case working => rw [rx, RxPc.phase]
  case phase => simp [RxPc.phase]
  case content => exact content
  all_goals rfl

theorem inv_copying (inv : ReceiverInv before) (room : RoomInv before)
    (rx : before.rx = .copying frag rem) :
    ReceiverInv
      { before with
        r := { before.r with
          data := putAt before.r.data before.r.len
            (frag.payload.take (min frag.payload.length rem)) }
        rx := .growing frag rem } := by
  have content := inv.content
  have promised := room.room
  simp only [Content, rx] at content
  simp only [rx, RxPc.room] at promised
  obtain ⟨handed, message, fits, continues, same⟩ := content
  apply inv_works inv
  case working => rw [rx, RxPc.phase]
  case phase => simp [RxPc.phase]
  case content => exact ⟨handed, copied_message room.size promised fits message, continues, same⟩
  all_goals rfl

theorem inv_growing (inv : ReceiverInv before) (rx : before.rx = .growing frag rem) :
    ReceiverInv
      { before with
        r := { before.r with len := before.r.len + min frag.payload.length rem }
        rx := .ending frag } := by
  have content := inv.content
  simp only [Content, rx] at content
  apply inv_works inv
  case working => rw [rx, RxPc.phase]
  case phase => simp [RxPc.phase]
  case content => exact content
  all_goals rfl

theorem inv_keeps (inv : ReceiverInv before) (rx : before.rx = .ending frag)
    (more : frag.more = true) :
    ReceiverInv { before with rx := .idle, taken := before.taken ++ [frag] } := by
  have working : before.rx.phase = .working := by rw [rx, RxPc.phase]
  have free := inv.working working
  have still := inv.still (by simp [working])
  have content := inv.content
  simp only [Content, rx] at content
  obtain ⟨handed, message, continues, same⟩ := content
  apply inv_works inv working
  case phase => simp [RxPc.phase]
  case content =>
    simp only [Content, assemble_append, feed_more continues more, free, still]
    exact ⟨handed, nofun, fun _ => ⟨message, fun _ => same.symm⟩⟩
  all_goals rfl

theorem inv_closes (inv : ReceiverInv before) (rx : before.rx = .ending frag)
    (last : frag.more = false) :
    ReceiverInv
      { before with
        r := { before.r with valid := true }
        rx := .handing
        taken := before.taken ++ [frag] } := by
  have working : before.rx.phase = .working := by rw [rx, RxPc.phase]
  have content := inv.content
  simp only [Content, rx] at content
  obtain ⟨handed, message, continues, same⟩ := content
  apply inv_handing inv (inv.still (by simp [working])) (inv.free (inv.working working))
  case content =>
    simp only [Content, assemble_append, feed_last continues last, List.map_append,
      List.map_cons, List.map_nil, handed]
    exact ⟨congrArg (fun last => before.handed ++ [last]) message.symm, trivial⟩
  all_goals rfl

theorem inv_hands (inv : ReceiverInv before) (rx : before.rx = .handing) :
    ReceiverInv { before with rx := .queueing before.r.message } := by
  have handing : before.rx.phase = .handing := by rw [rx, RxPc.phase]
  obtain ⟨valid, none⟩ := inv.handing handing
  have content := inv.content
  simp only [Content, rx] at content
  apply inv_handing inv (inv.still (by simp [handing])) none
  case valid => exact valid
  case content => exact ⟨rfl, content⟩
  all_goals rfl

theorem inv_queues {data : List UInt8} (inv : ReceiverInv before)
    (rx : before.rx = .queueing data) :
    ReceiverInv
      { before with
        rx := .idle
        reqQueue := before.reqQueue ++ [.request data]
        handed := before.handed ++ [data] } := by
  have handing : before.rx.phase = .handing := by rw [rx, RxPc.phase]
  obtain ⟨valid, none⟩ := inv.handing handing
  have still := inv.still (by simp [handing])
  have content := inv.content
  simp only [Content, rx] at content
  obtain ⟨rfl, handed, closed⟩ := content
  obtain ⟨quiet, unqueued⟩ := List.append_eq_nil_iff.mp none
  have queued : requests (before.reqQueue ++ [.request before.r.message]) = [before.r.message] := by
    rw [requests] at unqueued ⊢
    rw [List.filterMap_append, unqueued]
    rfl
  constructor
  case content => exact ⟨handed, fun _ => closed, fun free => by simp [valid] at free⟩
  case free =>
    intro free
    rw [valid] at free
    cases free
  case taken =>
    intro _ _
    rw [State.pending]
    simp only [quiet, queued, List.nil_append]
  case working =>
    intro phase
    simp [RxPc.phase] at phase
  case handing =>
    intro phase
    simp [RxPc.phase] at phase
  case clearing =>
    intro clearing
    rw [still] at clearing
    cases clearing
  case cleared => exact inv.cleared
  case whole => exact inv.whole
  case account =>
    obtain ⟨finished, handed, handled⟩ := inv.account
    refine ⟨finished, ?_, handled⟩
    simp only [handed, unqueued, queued, List.append_nil, List.append_assoc]

end Collecting

theorem inv_rx {ok : Bool} (inv : ReceiverInv before) (room : RoomInv before)
    (undisturbed : Undisturbed before (.rx ok)) (taken : rxStep reqQMax before ok = some after) :
    ReceiverInv after := by
  cases rxStep_moves taken with
  | leave frag rem rx free => exact inv_waiting inv rx free undisturbed
  | adopt frag rem rx => exact inv_adopting inv rx
  | abandon frag rem rx other =>
      have content := inv.content
      simp only [Content, rx] at content
      exact absurd content.2.2.2.2 other
  | join frag rem rx => exact inv_comparing inv rx
  | copy frag rem rx => exact inv_copying inv room rx
  | grow frag rem rx => exact inv_growing inv rx
  | keep frag rx more => exact inv_keeps inv rx more
  | close frag rx last => exact inv_closes inv rx last
  | unallocated rx some_bytes failed =>
      simp only [Undisturbed, rx, RxUndisturbed] at undisturbed
      exact absurd (undisturbed some_bytes) failed
  | hand rx => exact inv_hands inv rx
  | unqueued data rx failed =>
      simp only [Undisturbed, rx, RxUndisturbed] at undisturbed
      exact absurd undisturbed failed
  | queue data rx => exact inv_queues inv rx

theorem inv_deliver {frag : SerialFrag} (inv : ReceiverInv before)
    (taken : deliverStep before frag = some after) : ReceiverInv after := by
  have content := inv.content
  have pending := inv.taken
  obtain ⟨rx, rfl⟩ := deliverStep_cases taken
  simp only [Content, rx] at content
  simp only [rx, RxPc.phase, true_implies] at pending
  exact
    { content := content, free := inv.free, taken := fun _ => pending
      working := nofun, handing := nofun
      clearing := fun clearing => ⟨(inv.clearing clearing).1, rfl⟩
      cleared := inv.cleared, whole := inv.whole, account := inv.account }

theorem requests_event (reqQueue : List SerialArg) :
    requests (reqQueue ++ [.event]) = requests reqQueue := by
  rw [requests, List.filterMap_append]
  simp [requests]

/-- Only `r`, the reader's place and the requests matter to what was handed over. -/
theorem inv_events {reqQueue : List SerialArg} (inv : ReceiverInv before)
    (same : requests reqQueue = requests before.reqQueue) :
    ReceiverInv { before with reqQueue := reqQueue } where
  content := inv.content
  free free := by
    rw [State.pending, same]
    exact inv.free free
  taken outside valid := by
    rw [State.pending, same]
    exact inv.taken outside valid
  working := inv.working
  handing hands := by
    rw [State.pending, same]
    exact inv.handing hands
  clearing := inv.clearing
  cleared := inv.cleared
  whole := inv.whole
  account := by
    rw [same]
    exact inv.account

/-- A request the reader has taken out of the queue is the message in `r`. -/
theorem ReceiverInv.reading {data : List UInt8} (inv : ReceiverInv before)
    (reads : before.reader.reads = [data]) :
    before.r.valid = true ∧ before.rx.phase = .outside ∧ data = before.r.message ∧
      requests before.reqQueue = [] := by
  have some_pending : before.pending ≠ [] := by simp [State.pending, reads]
  have valid : before.r.valid = true := by
    cases valid : before.r.valid with
    | true => rfl
    | false => exact absurd (inv.free valid) some_pending
  have outside : before.rx.phase = .outside := by
    cases phase : before.rx.phase with
    | outside => rfl
    | working => exact absurd (inv.working phase) (by simp [valid])
    | handing => exact absurd (inv.handing phase).2 some_pending
  have pending := inv.taken outside valid
  rw [State.pending, reads, List.singleton_append, List.cons.injEq] at pending
  exact ⟨valid, outside, pending⟩

/-- The reader goes on with its request and leaves `r` alone. -/
theorem inv_reads {data : List UInt8} {pc : ReaderPc} (inv : ReceiverInv before)
    (reads : before.reader.reads = [data]) (held : before.reader.holds = [data])
    (still : before.reader.clearing = false) (next : pc.reads = [data]) (holds : pc.holds = [data])
    (clearing : pc.clearing = false) (whole : pc.Whole) :
    ReceiverInv { before with reader := pc } where
  content := by
    have content := inv.content
    unfold Content at content ⊢
    simp only [clearing, still] at content ⊢
    exact content
  free free := by
    rw [State.pending, next, ← reads]
    exact inv.free free
  taken outside valid := by
    rw [State.pending, next, ← reads]
    exact inv.taken outside valid
  working := inv.working
  handing hands := by
    rw [State.pending, next, ← reads]
    exact inv.handing hands
  clearing now := by simp [clearing] at now
  cleared from_ size here := by
    have cleared : pc = .clearingSeq from_ size := here
    rw [cleared] at clearing
    cases clearing
  whole := whole
  account := by
    rw [holds, ← held]
    exact inv.account

theorem content_outside {state : State} (outside : state.rx.phase = .outside) :
    Content state ↔ (assemble state.taken).messages.map cut = state.handed ∧
      ((state.r.valid || state.reader.clearing) = true → (assemble state.taken).bytes = []) ∧
      ((state.r.valid || state.reader.clearing) = false → Holds state.r (assemble state.taken)) := by
  unfold Content
  cases rx : state.rx with
  | idle | waiting frag rem => rfl
  | adopting frag rem | comparing frag rem | copying frag rem | growing frag rem | ending frag
  | handing | queueing data => simp [rx, RxPc.phase] at outside

theorem inv_pops {data : List UInt8} {rest : List SerialArg} (inv : ReceiverInv before)
    (reader : before.reader = .idle) (queued : before.reqQueue = .request data :: rest) :
    ReceiverInv { before with reqQueue := rest, reader := .entered data } where
  content := by
    have content := inv.content
    unfold Content at content ⊢
    simp only [reader, ReaderPc.clearing] at content ⊢
    exact content
  free free := by
    have none := inv.free free
    simp [State.pending, queued, requests] at none
  taken outside valid := by
    have pending := inv.taken outside valid
    simpa [State.pending, reader, queued, ReaderPc.reads, requests] using pending
  working := inv.working
  handing hands := by
    have none := (inv.handing hands).2
    simp [State.pending, queued, requests] at none
  clearing := nofun
  cleared _ _ := nofun
  whole := trivial
  account := by
    obtain ⟨finished, handed, handled⟩ := inv.account
    refine ⟨finished, ?_, handled⟩
    simpa [reader, queued, ReaderPc.holds, requests] using handed

theorem inv_sizes {data : List UInt8} (inv : ReceiverInv before) (room : RoomInv before)
    (reader : before.reader = .entered data) :
    ReceiverInv { before with reader := .sized data (min data.length before.r.len) } := by
  obtain ⟨_, _, message, _⟩ := @ReceiverInv.reading _ data inv (by rw [reader, ReaderPc.reads])
  have length := message_length room.size (Nat.le_trans (Nat.le_add_right _ _) room.room)
  rw [← message] at length
  apply inv_reads inv
  case whole => simp [ReaderPc.Whole, length]
  all_goals first | rfl | rw [reader]; rfl

theorem inv_copies {data : List UInt8} {len : Nat} (inv : ReceiverInv before) (room : RoomInv before)
    (reader : before.reader = .sized data len) :
    ReceiverInv
      { before with reader := .clearingValid (putAt data 0 (before.r.data.take len)) len } := by
  obtain ⟨valid, _, message, _⟩ :=
    @ReceiverInv.reading _ data inv (by rw [reader, ReaderPc.reads])
  have whole := inv.whole
  have length := message_length room.size (Nat.le_trans (Nat.le_add_right _ _) room.room)
  rw [← message] at length
  rw [reader, ReaderPc.Whole] at whole
  have copied : putAt data 0 (before.r.data.take len) = data := by
    have read : before.r.data.take len = data := by rw [whole, length, message, RxData.message]
    rw [putAt, read, List.take_zero, List.nil_append, Nat.zero_add, List.drop_length,
      List.append_nil]
  rw [copied]
  apply inv_reads inv
  case whole => exact whole
  all_goals first | rfl | rw [reader]; rfl

/-- The reader writes to `r` with no request behind its own. -/
theorem inv_frees {r : RxData} {pc : ReaderPc} (inv : ReceiverInv before)
    (outside : before.rx.phase = .outside) (none : requests before.reqQueue = [])
    (free : r.valid = false) (reads : pc.reads = []) (holds : pc.holds = before.reader.holds)
    (whole : pc.Whole) (cleared : ∀ data len, pc = .clearingSeq data len → r.len = 0)
    (closed : pc.clearing = true → (assemble before.taken).bytes = [])
    (held : pc.clearing = false → Holds r (assemble before.taken)) :
    ReceiverInv { before with r := r, reader := pc } where
  content := by
    have content := (content_outside outside).mp inv.content
    refine (content_outside ?_).mpr ⟨content.1, ?_, ?_⟩
    · exact outside
    · simpa [free] using closed
    · simpa [free] using held
  free _ := by simp [State.pending, reads, none]
  taken _ valid := by simp [free] at valid
  working _ := free
  handing hands := by
    rw [outside] at hands
    cases hands
  clearing _ := ⟨free, outside⟩
  cleared := cleared
  whole := whole
  account := by
    rw [holds]
    exact inv.account

/-- What the reader finds while it empties `r`. -/
theorem ReceiverInv.emptying (inv : ReceiverInv before) (clearing : before.reader.clearing = true) :
    before.r.valid = false ∧ before.rx.phase = .outside ∧ requests before.reqQueue = [] ∧
      (assemble before.taken).bytes = [] := by
  obtain ⟨free, outside⟩ := inv.clearing clearing
  have content := (content_outside outside).mp inv.content
  exact ⟨free, outside, (List.append_eq_nil_iff.mp (inv.free free)).2,
    content.2.1 (by simp [clearing])⟩

theorem inv_releases {data : List UInt8} {len : Nat} (inv : ReceiverInv before)
    (reader : before.reader = .clearingValid data len) :
    ReceiverInv
      { before with
        r := { before.r with valid := false }
        reader := .clearingLen data len } := by
  obtain ⟨valid, outside, _, none⟩ :=
    @ReceiverInv.reading _ data inv (by rw [reader, ReaderPc.reads])
  have content := (content_outside outside).mp inv.content
  have whole := inv.whole
  rw [reader, ReaderPc.Whole] at whole
  apply inv_frees inv outside none
  case holds => rw [reader]; rfl
  case whole => exact whole
  case cleared => exact fun _ _ => nofun
  case closed => exact fun _ => content.2.1 (by simp [valid])
  case held => exact nofun
  all_goals rfl

theorem inv_empties {data : List UInt8} {len : Nat} (inv : ReceiverInv before)
    (reader : before.reader = .clearingLen data len) :
    ReceiverInv
      { before with
        r := { before.r with len := 0 }
        reader := .clearingSeq data len } := by
  obtain ⟨free, outside, none, closed⟩ := inv.emptying (by rw [reader, ReaderPc.clearing])
  have whole := inv.whole
  rw [reader, ReaderPc.Whole] at whole
  apply inv_frees inv outside none
  case free => exact free
  case holds => rw [reader]; rfl
  case whole => exact whole
  case cleared => exact fun _ _ _ => rfl
  case closed => exact fun _ => closed
  case held => exact nofun
  all_goals rfl

/-- With `r` empty and given free, it holds the open message, which is empty too. -/
theorem inv_forgets {data : List UInt8} {len : Nat} (inv : ReceiverInv before)
    (reader : before.reader = .clearingSeq data len) :
    ReceiverInv
      { before with
        r := { before.r with curSeqNo := 0 }
        reader := .handling data len } := by
  obtain ⟨free, outside, none, closed⟩ := inv.emptying (by rw [reader, ReaderPc.clearing])
  have empty := inv.cleared data len reader
  have whole := inv.whole
  rw [reader, ReaderPc.Whole] at whole
  apply inv_frees inv outside none
  case free => exact free
  case holds => rw [reader]; rfl
  case whole => exact whole
  case cleared => exact fun _ _ => nofun
  case closed => exact nofun
  case held =>
    refine fun _ => ⟨?_, fun filled => absurd empty filled⟩
    rw [closed, RxData.message]
    simp [empty, cut]
  all_goals rfl

theorem inv_handles {data : List UInt8} {len : Nat} (inv : ReceiverInv before)
    (reader : before.reader = .handling data len) :
    ReceiverInv
      { before with
        reader := .idle
        handled := if len = 0 then before.handled else before.handled ++ [data.take len] } where
  content := by
    have content := inv.content
    unfold Content at content ⊢
    simp only [reader, ReaderPc.clearing] at content ⊢
    exact content
  free free := by
    have none := inv.free free
    rw [State.pending, reader] at none
    exact none
  taken outside valid := by
    have pending := inv.taken outside valid
    rw [State.pending, reader] at pending
    exact pending
  working := inv.working
  handing hands := by
    have none := inv.handing hands
    rw [State.pending, reader] at none
    exact none
  clearing := nofun
  cleared _ _ := nofun
  whole := trivial
  account := by
    obtain ⟨finished, handed, handled⟩ := inv.account
    have whole := inv.whole
    rw [reader, ReaderPc.Whole] at whole
    refine ⟨finished ++ [data], ?_, ?_⟩
    · rw [handed, reader]
      simp [ReaderPc.holds]
    · rw [List.filter_append, ← handled, whole, List.take_length]
      by_cases empty : data = []
      · simp [empty]
      · simp [empty]

theorem inv_reader (inv : ReceiverInv before) (room : RoomInv before)
    (taken : readerStep before = some after) : ReceiverInv after := by
  cases readerStep_moves taken with
  | skip rest reader queued =>
      apply inv_events inv
      rw [queued]
      rfl
  | pop data rest reader queued => exact inv_pops inv reader queued
  | size data reader => exact inv_sizes inv room reader
  | copy data len reader => exact inv_copies inv room reader
  | pass data len reader invalid =>
      have reads : before.reader.reads = [data] := by rw [reader, ReaderPc.reads]
      exact absurd (inv.reading reads).1 invalid
  | release data len reader => exact inv_releases inv reader
  | empty data len reader => exact inv_empties inv reader
  | forget data len reader => exact inv_forgets inv reader
  | handle data len reader => exact inv_handles inv reader

theorem receiverInv_step {act : Act} (inv : ReceiverInv before) (room : RoomInv before)
    (undisturbed : Undisturbed before act) (taken : step reqQMax before act = some after) :
    ReceiverInv after := by
  cases act with
  | deliver frag => exact inv_deliver inv taken
  | rx ok => exact inv_rx inv room undisturbed taken
  | event =>
      cases eventStep_cases taken
      exact inv_events inv (requests_event _)
  | reader => exact inv_reader inv room taken

theorem receiverInv_reached {state : State} (run : Run (step reqQMax) Undisturbed init state) :
    ReceiverInv state := by
  apply run.invariant receiverInv_init
  intro before act after prior inv undisturbed taken
  exact receiverInv_step inv (roomInv_reached prior.forget) undisturbed taken

end Steps

/-- What the slave makes of the fragments it was given. -/
structure Delivered (state : State) : Prop where
  bounded : state.r.len ≤ rxDataSize
  /-- Between two frames exactly the complete messages were handed over, in order. -/
  whole : state.rx = .idle → state.handed = (assemble state.taken).messages.map cut
  /-- Nothing else is, at any moment. -/
  faithful : state.handed <+: (assemble state.taken).messages.map cut
  /-- The requests that reach their handler are the messages handed over. -/
  handled : state.reader = .idle → requests state.reqQueue = [] →
    state.handled = state.handed.filter (· ≠ [])
  accepting : state.rx = .idle → state.reader = .idle → requests state.reqQueue = [] →
    state.r.valid = false

section Results
variable {state : State}

theorem ReceiverInv.faithful (inv : ReceiverInv state) :
    state.handed <+: (assemble state.taken).messages.map cut := by
  have content := inv.content
  unfold Content at content
  cases rx : state.rx with
  | idle | waiting frag rem | adopting frag rem | comparing frag rem | copying frag rem
  | growing frag rem | ending frag =>
      simp only [rx] at content
      exact content.1 ▸ List.prefix_rfl
  | handing =>
      simp only [rx] at content
      rw [content.1]
      exact List.prefix_append _ _
  | queueing data =>
      simp only [rx] at content
      rw [content.2.1]
      exact List.prefix_append _ _

/-- While the fragments come undisturbed and hand-offs succeed, every complete message is
handed over once, as it was sent, and the receiver is ready for the next one. -/
theorem messages_delivered (reqQMax : Nat) (state : State)
    (run : Run (step reqQMax) Undisturbed init state) : Delivered state where
  bounded := len_within run.forget
  whole idle := by
    have content := (receiverInv_reached run).content
    simp only [Content, idle] at content
    exact content.1.symm
  faithful := (receiverInv_reached run).faithful
  handled idle none := by
    obtain ⟨finished, handed, handled⟩ := (receiverInv_reached run).account
    rw [idle, none, ReaderPc.holds, List.append_nil, List.append_nil] at handed
    rw [handed, handled]
  accepting idle reader none := by
    cases valid : state.r.valid with
    | false => rfl
    | true =>
        have pending := (receiverInv_reached run).taken (by rw [idle, RxPc.phase]) valid
        simp [State.pending, reader, none, ReaderPc.reads] at pending

end Results

/-- `r` is taken and no request stands for it. -/
structure Stuck (state : State) : Prop where
  valid : state.r.valid = true
  outside : state.rx.phase = .outside
  reads : state.reader.reads = []
  clearing : state.reader.clearing = false
  requests : requests state.reqQueue = []

section Stuck
variable {before after state : State}

theorem stuck_step {act : Act} (stuck : Stuck before) (taken : step reqQMax before act = some after) :
    Stuck after ∧ after.handed = before.handed := by
  obtain ⟨valid, outside, reads, clearing, none⟩ := stuck
  cases act with
  | deliver frag =>
      obtain ⟨_, rfl⟩ := deliverStep_cases taken
      exact ⟨⟨valid, rfl, reads, clearing, none⟩, rfl⟩
  | rx ok =>
      cases rxStep_moves taken with
      | leave frag rem rx free =>
          rw [valid] at free
          cases free
      | adopt frag rem rx | abandon frag rem rx | join frag rem rx | copy frag rem rx
      | grow frag rem rx | keep frag rx | close frag rx | unallocated rx | hand rx
      | unqueued data rx | queue data rx =>
          rw [rx] at outside
          cases outside
  | event =>
      cases eventStep_cases taken
      exact ⟨⟨valid, outside, reads, clearing, (requests_event _).trans none⟩, rfl⟩
  | reader =>
      cases readerStep_moves taken with
      | skip rest reader queued =>
          rw [queued] at none
          exact ⟨⟨valid, outside, reads, clearing, none⟩, rfl⟩
      | pop data rest reader queued =>
          rw [queued] at none
          cases none
      | handle => exact ⟨⟨valid, outside, rfl, rfl, none⟩, rfl⟩
      | size data reader | copy data len reader | pass data len reader | release data len reader =>
          rw [reader] at reads
          cases reads
      | empty data len reader | forget data len reader =>
          rw [reader] at clearing
          cases clearing

/-- Nothing is handed over any more. -/
theorem stuck_for_good {later : State} (stuck : Stuck state)
    (run : Run (step reqQMax) unguarded state later) :
    Stuck later ∧ later.handed = state.handed := by
  apply run.invariant
  · exact ⟨stuck, rfl⟩
  · intro before act after _ inv _ taken
    obtain ⟨still, same⟩ := stuck_step inv.1 taken
    exact ⟨still, same.trans inv.2⟩

end Stuck

def single (seqNum : UInt16) (byte flags : UInt8) : SerialFrag := ⟨[byte], seqNum, flags⟩

/-- A fragment goes through `process_serial_rx_pkt` without any trouble. -/
def collected (frag : SerialFrag) (steps : Nat) : List Act :=
  .deliver frag :: List.replicate steps (.rx true)

/-- Two fragments of one message, which the pserial task then reads. -/
def twoFragments : List Act :=
  collected (single 1 7 1) 6 ++ collected (single 1 8 0) 8 ++ List.replicate 7 .reader

theorem messages_delivered_two : ∃ state, Delivered state ∧ state.handled = [[7, 8]] := by
  obtain ⟨state, run, handled⟩ := admitted_reaches (step 10) Undisturbed init twoFragments
    (fun state => state.handled = [[7, 8]]) (by decide) (by decide)
  exact ⟨state, messages_delivered 10 state run, handled⟩

/-- A fragment comes while the pserial task reads the message before it, and leaves the wait
loop between the two writes that empty `r`. -/
def overtaking : List Act :=
  collected (single 1 7 0) 8 ++ List.replicate 4 .reader ++ collected (single 2 8 0) 5

/-- A message whose last fragment is lost is handed over in place of the next one. -/
def abandoned : List Act := collected (single 1 7 1) 6 ++ collected (single 2 8 0) 5

/-- The copy of a message cannot be allocated. -/
def unallocated : List Act := collected (single 1 7 0) 6 ++ [.rx false]

theorem unallocated_stuck : ∃ state, Run (step 10) unguarded init state ∧ Stuck state ∧
    state.rx = .idle ∧ state.handed = [] := by
  obtain ⟨state, run, valid, idle, reader, reqQueue, handed⟩ :=
    exec_reaches (step 10) init unallocated
      (fun state => state.r.valid = true ∧ state.rx = .idle ∧ state.reader = .idle ∧
        state.reqQueue = [] ∧ state.handed = []) (by decide)
  refine ⟨state, run, ⟨valid, ?_, ?_, ?_, ?_⟩, idle, handed⟩
  · rw [idle, RxPc.phase]
  · rw [reader, ReaderPc.reads]
  · rw [reader, ReaderPc.clearing]
  · rw [reqQueue]
    rfl

/-- A failed hand-off ends all hand-overs; an incomplete message is handed over; and one
message is handed over twice while the next one is dropped. -/
theorem messages_delivered_fails :
    (∃ state, Run (step 10) unguarded init state ∧ state.rx = .idle ∧ state.handed = [] ∧
      ∀ later, Run (step 10) unguarded state later → later.r.valid = true ∧ later.handed = []) ∧
    (∃ state, Run (step 10) unguarded init state ∧ state.rx = .idle ∧
      state.handed = [[7]] ∧ (assemble state.taken).messages = [[8]]) ∧
    ∃ state, Run (step 10) unguarded init state ∧ state.rx = .idle ∧
      state.handed = [[7], [7]] ∧ (assemble state.taken).messages = [[7], [8]] := by
  refine ⟨?_, ?_, ?_⟩
  · obtain ⟨state, run, stuck, idle, none⟩ := unallocated_stuck
    refine ⟨state, run, idle, none, ?_⟩
    intro later further
    obtain ⟨still, same⟩ := stuck_for_good stuck further
    exact ⟨still.valid, same.trans none⟩
  · exact exec_reaches (step 10) init abandoned
      (fun state => state.rx = .idle ∧ state.handed = [[7]] ∧
        (assemble state.taken).messages = [[8]]) (by decide)
  · exact exec_reaches (step 10) init overtaking
      (fun state => state.rx = .idle ∧ state.handed = [[7], [7]] ∧
        (assemble state.taken).messages = [[7], [8]]) (by decide)

end EspHosted.SerialReceiver

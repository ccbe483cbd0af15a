import EspHosted.GuardedRun
import EspHosted.HostFrames

/-!
The serial interface at the slave. `process_serial_rx_pkt` collects the fragments of a
message in the static buffer `r` and hands it to the pserial task, which reads it out of `r`
again with `serial_read_data`. The two tasks share `r` through `r.valid` and `r.len` and
nothing else, so every access is a step of its own here.
-/

namespace EspHosted.SerialReceiver
open SpiFrames HostFrames GuardedRun

/-- `sizeof(r.data)`. -/
def rxDataSize : Nat := 4096

/-- What `process_serial_rx_pkt` reads of a frame; `payload` has `payload_len` bytes. -/
structure SerialFrag where
  payload : List UInt8
  seqNum : UInt16
  flags : UInt8
  deriving DecidableEq

def SerialFrag.more (frag : SerialFrag) : Bool := frag.flags &&& moreFragment ≠ 0

structure RxData where
  valid : Bool
  curSeqNo : UInt16
  len : Nat
  data : List UInt8

def RxData.message (r : RxData) : List UInt8 := r.data.take r.len

/-- An argument in `req_queue`: an event of this side, or a request of the host. -/
inductive SerialArg where
  | event
  | request (data : List UInt8)
  deriving DecidableEq

/-- Where `recv_task` is in `process_serial_rx_pkt`. -/
inductive RxPc where
  | idle
  | waiting (frag : SerialFrag) (remBuffSize : Nat)
  | adopting (frag : SerialFrag) (remBuffSize : Nat)
  | comparing (frag : SerialFrag) (remBuffSize : Nat)
  | copying (frag : SerialFrag) (remBuffSize : Nat)
  | growing (frag : SerialFrag) (remBuffSize : Nat)
  | ending (frag : SerialFrag)
  | handing
  | queueing (data : List UInt8)
  deriving DecidableEq

/-- Where `pserial_task` is, with the copy of the message it was handed and the result of
`serial_read_data`. -/
inductive ReaderPc where
  | idle
  | entered (data : List UInt8)
  | sized (data : List UInt8) (len : Nat)
  | clearingValid (data : List UInt8) (len : Nat)
  | clearingLen (data : List UInt8) (len : Nat)
  | clearingSeq (data : List UInt8) (len : Nat)
  | handling (data : List UInt8) (len : Nat)
  deriving DecidableEq

structure State where
  r : RxData
  rx : RxPc
  reader : ReaderPc
  reqQueue : List SerialArg
  /-- The fragments `process_serial_rx_pkt` is through with, the messages it queued and the
  requests that reached `rpc_req_handler`. -/
  taken : List SerialFrag
  handed : List (List UInt8)
  handled : List (List UInt8)

def init : State where
  r :=
    { valid := false
      curSeqNo := 0
      len := 0
      data := List.replicate rxDataSize 0 }
  rx := .idle
  reader := .idle
  reqQueue := []
  taken := []
  handed := []
  handled := []

inductive Act where
  | deliver (frag : SerialFrag)
  /-- The next step of `process_serial_rx_pkt`; `ok` tells of `malloc` and `xQueueSend`. -/
  | rx (ok : Bool)
  /-- Another task queues an event. -/
  | event
  | reader

variable (reqQMax : Nat)

def deliverStep (state : State) (frag : SerialFrag) : Option State :=
  match state.rx with
  | .idle => some { state with rx := .waiting frag (rxDataSize - state.r.len) }
  | _ => none

def rxStep (state : State) (ok : Bool) : Option State :=
  let r := state.r
  match state.rx with
  | .idle => none
  | .waiting frag rem => if r.valid then none else some { state with rx := .adopting frag rem }
  | .adopting frag rem =>
      let r := if r.len = 0 then { r with curSeqNo := frag.seqNum } else r
      some { state with r := r, rx := .comparing frag rem }
  | .comparing frag rem =>
      if frag.seqNum ≠ r.curSeqNo then
        some
          { state with
            r := { r with valid := true }
            rx := .handing
            taken := state.taken ++ [frag] }
      else some { state with rx := .copying frag rem }
  | .copying frag rem =>
      let data := putAt r.data r.len (frag.payload.take (min frag.payload.length rem))
      some { state with r := { r with data := data }, rx := .growing frag rem }
  | .growing frag rem =>
      let len := r.len + min frag.payload.length rem
      some { state with r := { r with len := len }, rx := .ending frag }
  | .ending frag =>
      let taken := state.taken ++ [frag]
      if frag.more then some { state with rx := .idle, taken := taken }
      else some { state with r := { r with valid := true }, rx := .handing, taken := taken }
  | .handing =>
      if r.len ≠ 0 ∧ ¬ ok then some { state with rx := .idle }
      else some { state with rx := .queueing r.message }
  | .queueing data =>
      if ¬ ok then some { state with rx := .idle }
      else if state.reqQueue.length < reqQMax then
        some
          { state with
            rx := .idle
            reqQueue := state.reqQueue ++ [.request data]
            handed := state.handed ++ [data] }
      else none

def eventStep (state : State) : Option State :=
  if state.reqQueue.length < reqQMax then
    some { state with reqQueue := state.reqQueue ++ [.event] }
  else none

def readerStep (state : State) : Option State :=
  let r := state.r
  match state.reader with
  | .idle =>
      match state.reqQueue with
      | [] => none
      | .event :: rest => some { state with reqQueue := rest }
      | .request data :: rest => some { state with reqQueue := rest, reader := .entered data }
  | .entered data => some { state with reader := .sized data (min data.length r.len) }
  | .sized data len =>
      if r.valid then
        some { state with reader := .clearingValid (putAt data 0 (r.data.take len)) len }
      else some { state with reader := .handling data len }
  | .clearingValid data len =>
      some { state with r := { r with valid := false }, reader := .clearingLen data len }
  | .clearingLen data len =>
      some { state with r := { r with len := 0 }, reader := .clearingSeq data len }
  | .clearingSeq data len =>
      some { state with r := { r with curSeqNo := 0 }, reader := .handling data len }
  | .handling data len =>
      let handled := if len = 0 then state.handled else state.handled ++ [data.take len]
      some { state with reader := .idle, handled := handled }

def step (state : State) : Act → Option State
  | .deliver frag => deliverStep state frag
  | .rx ok => rxStep reqQMax state ok
  | .event => eventStep reqQMax state
  | .reader => readerStep state

section Moves
variable {reqQMax} {before after : State}

/-- What a step of `process_serial_rx_pkt` can be. -/
inductive RxMoves (reqQMax : Nat) (before : State) (ok : Bool) : State → Prop where
  | leave (frag : SerialFrag) (rem : Nat) (rx : before.rx = .waiting frag rem)
      (free : before.r.valid = false) : RxMoves reqQMax before ok { before with rx := .adopting frag rem }
  | adopt (frag : SerialFrag) (rem : Nat) (rx : before.rx = .adopting frag rem) :
      RxMoves reqQMax before ok
        { before with
          r := if before.r.len = 0 then { before.r with curSeqNo := frag.seqNum } else before.r
          rx := .comparing frag rem }
  | abandon (frag : SerialFrag) (rem : Nat) (rx : before.rx = .comparing frag rem)
      (other : frag.seqNum ≠ before.r.curSeqNo) :
      RxMoves reqQMax before ok
        { before with
          r := { before.r with valid := true }
          rx := .handing
          taken := before.taken ++ [frag] }
  | join (frag : SerialFrag) (rem : Nat) (rx : before.rx = .comparing frag rem)
      (same : frag.seqNum = before.r.curSeqNo) :
      RxMoves reqQMax before ok { before with rx := .copying frag rem }
  | copy (frag : SerialFrag) (rem : Nat) (rx : before.rx = .copying frag rem) :
      RxMoves reqQMax before ok
        { before with
          r := { before.r with
            data := putAt before.r.data before.r.len
              (frag.payload.take (min frag.payload.length rem)) }
          rx := .growing frag rem }
  | grow (frag : SerialFrag) (rem : Nat) (rx : before.rx = .growing frag rem) :
      RxMoves reqQMax before ok
        { before with
          r := { before.r with len := before.r.len + min frag.payload.length rem }
          rx := .ending frag }
  | keep (frag : SerialFrag) (rx : before.rx = .ending frag) (more : frag.more = true) :
      RxMoves reqQMax before ok { before with rx := .idle, taken := before.taken ++ [frag] }
  | close (frag : SerialFrag) (rx : before.rx = .ending frag) (last : frag.more = false) :
      RxMoves reqQMax before ok
        { before with
          r := { before.r with valid := true }
          rx := .handing
          taken := before.taken ++ [frag] }
  | unallocated (rx : before.rx = .handing) (some_bytes : before.r.len ≠ 0) (failed : ok ≠ true) :
      RxMoves reqQMax before ok { before with rx := .idle }
  | hand (rx : before.rx = .handing) :
      RxMoves reqQMax before ok { before with rx := .queueing before.r.message }
  | unqueued (data : List UInt8) (rx : before.rx = .queueing data) (failed : ok ≠ true) :
      RxMoves reqQMax before ok { before with rx := .idle }
  | queue (data : List UInt8) (rx : before.rx = .queueing data)
      (room : before.reqQueue.length < reqQMax) :
      RxMoves reqQMax before ok
        { before with
          rx := .idle
          reqQueue := before.reqQueue ++ [.request data]
          handed := before.handed ++ [data] }

theorem rxStep_moves {ok : Bool} (taken : rxStep reqQMax before ok = some after) :
    RxMoves reqQMax before ok after := by
  unfold rxStep at taken
  cases rx : before.rx with
  | idle => simp [rx] at taken
  | waiting frag rem =>
      simp only [rx] at taken
      split at taken
      · cases taken
      · rename_i free
        cases taken
        exact .leave frag rem rx (by simpa using free)
  | adopting frag rem =>
      simp only [rx, Option.some.injEq] at taken
      rw [← taken]
      exact .adopt frag rem rx
  | comparing frag rem =>
      simp only [rx] at taken
      split at taken
      · rename_i other
        cases taken
        exact .abandon frag rem rx other
      · rename_i same
        cases taken
        exact .join frag rem rx (not_not.mp same)
  | copying frag rem =>
      simp only [rx, Option.some.injEq] at taken
      rw [← taken]
      exact .copy frag rem rx
  | growing frag rem =>
      simp only [rx, Option.some.injEq] at taken
      rw [← taken]
      exact .grow frag rem rx
  | ending frag =>
      simp only [rx] at taken
      split at taken
      · rename_i more
        cases taken
        exact .keep frag rx more
      · rename_i last
        cases taken
        exact .close frag rx (by simpa using last)
  | handing =>
      simp only [rx] at taken
      split at taken
      · rename_i failed
        cases taken
        exact .unallocated rx failed.1 failed.2
      · cases taken
        exact .hand rx
  | queueing data =>
      simp only [rx] at taken
      split at taken
      · rename_i failed
        cases taken
        exact .unqueued data rx failed
      · split at taken
        · rename_i room
          cases taken
          exact .queue data rx room
        · cases taken

/-- What a step of the pserial task can be. -/
inductive ReaderMoves (before : State) : State → Prop where
  | skip (rest : List SerialArg) (reader : before.reader = .idle)
      (queued : before.reqQueue = .event :: rest) :
      ReaderMoves before { before with reqQueue := rest }
  | pop (data : List UInt8) (rest : List SerialArg) (reader : before.reader = .idle)
      (queued : before.reqQueue = .request data :: rest) :
      ReaderMoves before { before with reqQueue := rest, reader := .entered data }
  | size (data : List UInt8) (reader : before.reader = .entered data) :
      ReaderMoves before { before with reader := .sized data (min data.length before.r.len) }
  | copy (data : List UInt8) (len : Nat) (reader : before.reader = .sized data len)
      (valid : before.r.valid = true) :
      ReaderMoves before
        { before with reader := .clearingValid (putAt data 0 (before.r.data.take len)) len }
  | pass (data : List UInt8) (len : Nat) (reader : before.reader = .sized data len)
      (invalid : before.r.valid ≠ true) :
      ReaderMoves before { before with reader := .handling data len }
  | release (data : List UInt8) (len : Nat) (reader : before.reader = .clearingValid data len) :
      ReaderMoves before
        { before with
          r := { before.r with valid := false }
          reader := .clearingLen data len }
  | empty (data : List UInt8) (len : Nat) (reader : before.reader = .clearingLen data len) :
      ReaderMoves before
        { before with
          r := { before.r with len := 0 }
          reader := .clearingSeq data len }
  | forget (data : List UInt8) (len : Nat) (reader : before.reader = .clearingSeq data len) :
      ReaderMoves before
        { before with
          r := { before.r with curSeqNo := 0 }
          reader := .handling data len }
  | handle (data : List UInt8) (len : Nat) (reader : before.reader = .handling data len) :
      ReaderMoves before
        { before with
          reader := .idle
          handled := if len = 0 then before.handled else before.handled ++ [data.take len] }

theorem readerStep_moves (taken : readerStep before = some after) : ReaderMoves before after := by
  unfold readerStep at taken
  cases reader : before.reader with
  | idle =>
      simp only [reader] at taken
      split at taken
      · cases taken
      · rename_i rest queued
        cases taken
        have skipped := ReaderMoves.skip rest reader queued
        rw [reader] at skipped
        exact skipped
      · rename_i data rest queued
        cases taken
        exact .pop data rest reader queued
  | entered data =>
      simp only [reader, Option.some.injEq] at taken
      rw [← taken]
      exact .size data reader
  | sized data len =>
      simp only [reader] at taken
      split at taken
      · rename_i valid
        cases taken
        exact .copy data len reader valid
      · rename_i invalid
        cases taken
        exact .pass data len reader invalid
  | clearingValid data len =>
      simp only [reader, Option.some.injEq] at taken
      rw [← taken]
      exact .release data len reader
  | clearingLen data len =>
      simp only [reader, Option.some.injEq] at taken
      rw [← taken]
      exact .empty data len reader
  | clearingSeq data len =>
      simp only [reader, Option.some.injEq] at taken
      rw [← taken]
      exact .forget data len reader
  | handling data len =>
      simp only [reader, Option.some.injEq] at taken
      rw [← taken]
      exact .handle data len reader

theorem deliverStep_cases {frag : SerialFrag} (taken : deliverStep before frag = some after) :
    before.rx = .idle ∧
      after = { before with rx := .waiting frag (rxDataSize - before.r.len) } := by
  unfold deliverStep at taken
  split at taken
  · rename_i rx
    cases taken
    exact ⟨rx, rfl⟩
  · cases taken

theorem eventStep_cases (taken : eventStep reqQMax before = some after) :
    after = { before with reqQueue := before.reqQueue ++ [.event] } := by
  unfold eventStep at taken
  split at taken
  · cases taken
    rfl
  · cases taken

end Moves

section Room
variable {reqQMax} {before after : State}

/-- The room a fragment on its way into `r.data` was promised. -/
def RxPc.room : RxPc → Nat
  | .waiting _ rem | .adopting _ rem | .comparing _ rem | .copying _ rem | .growing _ rem => rem
  | .idle | .ending _ | .handing | .queueing _ => 0

structure RoomInv (state : State) : Prop where
  size : state.r.data.length = rxDataSize
  room : state.r.len + state.rx.room ≤ rxDataSize

theorem putAt_length {buffer bytes : List UInt8} {pos : Nat}
    (fits : pos + bytes.length ≤ buffer.length) : (putAt buffer pos bytes).length = buffer.length := by
  simp only [putAt, List.length_append, List.length_take, List.length_drop]
  omega

theorem roomInv_rx {ok : Bool} (inv : RoomInv before)
    (taken : rxStep reqQMax before ok = some after) : RoomInv after := by
  obtain ⟨size, room⟩ := inv
  cases rxStep_moves taken with
  | leave frag rem rx | abandon frag rem rx | join frag rem rx | keep frag rx | close frag rx
  | unallocated rx | hand rx | unqueued data rx | queue data rx =>
      rw [rx] at room
      exact ⟨size, by simp only [RxPc.room] at room ⊢; omega⟩
  | adopt frag rem rx =>
      rw [rx] at room
      split <;> exact ⟨size, room⟩
  | copy frag rem rx =>
      rw [rx] at room
      have short : before.r.len + (frag.payload.take (min frag.payload.length rem)).length ≤
          before.r.data.length := by
        rw [List.length_take, size]
        simp only [RxPc.room] at room
        omega
      exact ⟨(putAt_length short).trans size, room⟩
  | grow frag rem rx =>
      rw [rx] at room
      refine ⟨size, ?_⟩
      simp only [RxPc.room] at room ⊢
      omega

theorem roomInv_reader (inv : RoomInv before) (taken : readerStep before = some after) :
    RoomInv after := by
  obtain ⟨size, room⟩ := inv
  cases readerStep_moves taken with
  | skip | pop | size | copy | pass | release | forget | handle => exact ⟨size, room⟩
  | empty =>
      -- room is only ever won here
      exact ⟨size, Nat.le_trans (Nat.add_le_add_right (Nat.zero_le _) _) room⟩

theorem roomInv_step {act : Act} (inv : RoomInv before)
    (taken : step reqQMax before act = some after) : RoomInv after := by
  cases act with
  | deliver frag =>
      obtain ⟨size, room⟩ := inv
      obtain ⟨_, rfl⟩ := deliverStep_cases taken
      refine ⟨size, ?_⟩
      simp only [RxPc.room]
      omega
  | rx ok => exact roomInv_rx inv taken
  | event =>
      cases eventStep_cases taken
      exact ⟨inv.size, inv.room⟩
  | reader => exact roomInv_reader inv taken

theorem roomInv_reached {state : State} (run : Run (step reqQMax) unguarded init state) :
    RoomInv state := by
  apply run.invariant
  · exact ⟨List.length_replicate, Nat.zero_le _⟩
  · intro before act after _ inv _ taken
    exact roomInv_step inv taken

/-- Whatever comes in, `r.len` stays within `r.data`. -/
theorem len_within {state : State} (run : Run (step reqQMax) unguarded init state) :
    state.r.len ≤ rxDataSize :=
  Nat.le_trans (Nat.le_add_right _ _) (roomInv_reached run).room

end Room

end EspHosted.SerialReceiver

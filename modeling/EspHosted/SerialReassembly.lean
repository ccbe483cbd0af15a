import EspHosted.Segments
import EspHosted.SerialFragments

/-!
The host's side of the serial interface: `serial_ll_rx_handler` collects fragments in
the static buffer `r` until a frame without `MORE_FRAGMENT` comes, and queues what it
has. Only that flag and the bytes of a frame count; `seq_num` is never read. A result
`none` of the handler is a use of freed memory or a write past the end of a block.
-/

namespace EspHosted.SerialReassembly
open SpiFrames SerialFragments Segments

def maxSerialIntf : Nat := 2
def stmOk : Int := 0
def stmFail : Int := -1

/-- What `r.data` points at. -/
inductive Block where
  | null
  | dangling
  | live (bytes : List UInt8)

/-- `struct rx_data`. The block is full long before the `int` length overflows. -/
structure RxData where
  len : Nat
  data : Block

inductive SerialLlState where
  | init
  | active
  | destroy
  deriving DecidableEq

/-- A buffer handle on the queue of an interface; `live` is false once its payload has
been freed again. -/
structure Queued where
  buf : IfaceBuf
  live : Bool

/-- `queue` is everything that was put on the queue, oldest first. -/
structure SerialLlHandle where
  state : SerialLlState
  serialRxCallback : Bool
  queue : List Queued

structure Host where
  r : RxData
  interfaceHandle : UInt8 → Option SerialLlHandle

/-- How the calls of one run of the handler turn out. `stale` is what new memory, and
memory past the end of a block, happens to contain. -/
structure Env where
  dataAlloc : Bool
  msgAlloc : Bool
  queueItem : Bool
  stale : Nat → UInt8

structure Env.Succeeds (env : Env) : Prop where
  dataAlloc : env.dataAlloc = true
  msgAlloc : env.msgAlloc = true
  queueItem : env.queueItem = true

def getSerialLlHandle (host : Host) (ifNum : UInt8) : Option SerialLlHandle :=
  if ifNum.toNat < maxSerialIntf then
    (host.interfaceHandle ifNum).filter fun handle => handle.state = .active
  else none

def hostedMalloc (env : Env) (size : Nat) : Option (List UInt8) :=
  if env.dataAlloc then some ((List.range size).map env.stale) else none

/-- `hosted_realloc` copies the new size out of the old block, whatever its length. -/
def hostedRealloc (env : Env) (block : List UInt8) (size : Nat) : Option (List UInt8) :=
  if size = 0 then none
  else if env.dataAlloc then
    some ((List.range size).map fun index => block.getD index (env.stale index))
  else none

/-- `SERIAL_ALLOC_REALLOC_RDATA`. The outer `none` is a freed pointer passed to realloc. -/
def allocReallocRdata (env : Env) (r : RxData) (payloadLen : Nat) : Option (Option (List UInt8)) :=
  match r.data with
  | .null => some (hostedMalloc env payloadLen)
  | .live block => some (hostedRealloc env block (r.len + payloadLen))
  | .dangling => none

def memcpyAt (block : List UInt8) (offset : Nat) (bytes : List UInt8) : Option (List UInt8) :=
  if offset + bytes.length ≤ block.length then
    some (block.take offset ++ bytes ++ block.drop (offset + bytes.length))
  else none

/-- `serial_buff_cleanup`: `r.data` is freed but not cleared. -/
def serialBuffCleanup (host : Host) : Option (Host × Int) :=
  match host.r.data with
  | .null => some ({ host with r := { len := 0, data := .null } }, stmFail)
  | .live _ => some ({ host with r := { len := 0, data := .dangling } }, stmFail)
  | .dangling => none

def putQueue (host : Host) (ifNum : UInt8) (handle : SerialLlHandle) (item : Queued) : Host :=
  let longer := { handle with queue := handle.queue ++ [item] }
  { host with interfaceHandle := Function.update host.interfaceHandle ifNum (some longer) }

def serialLlRxHandler (env : Env) (buf : IfaceBuf) (host : Host) : Option (Host × Int) :=
  -- every jump to serial_buff_cleanup also throws away what `r` has collected
  if buf.payloadLen = 0 then serialBuffCleanup host
  else match getSerialLlHandle host buf.ifNum with
  | none => serialBuffCleanup host
  | some handle =>
    match allocReallocRdata env host.r buf.payloadLen.toNat with
    | none => none
    | some none => serialBuffCleanup { host with r := { host.r with data := .null } }
    | some (some block) =>
      match memcpyAt block host.r.len buf.bytes with
      | none => none
      | some block =>
        let r : RxData := { len := host.r.len + buf.payloadLen.toNat, data := .live block }
        -- accumulate fragments
        if buf.flag &&& moreFragment ≠ 0 then some ({ host with r := r }, stmOk)
        -- no or last fragment: payload_len is 16 bits wide, r.len is not
        else if !env.msgAlloc then serialBuffCleanup { host with r := r }
        else
          let new : IfaceBuf :=
            { ifType := espSerialIf, ifNum := buf.ifNum, payload := block.take r.len, flag := 0,
              payloadLen := UInt16.ofNat r.len, seqNum := 0 }
          let host : Host := { host with r := { len := 0, data := .null } }
          -- send to serial queue
          if !env.queueItem then serialBuffCleanup host
          else if handle.serialRxCallback then
            some (putQueue host buf.ifNum handle { buf := new, live := true }, stmOk)
          -- without a callback the payload is freed while its handle is on the queue
          else serialBuffCleanup (putQueue host buf.ifNum handle { buf := new, live := false })

/-- The handler over a stream of frames; `envs` numbers its runs. -/
def receive : (Nat → Env) → Host → List IfaceBuf → Option Host
  | _, host, [] => some host
  | envs, host, buf :: rest =>
      (serialLlRxHandler (envs 0) buf host).bind fun result =>
        receive (fun call => envs (call + 1)) result.1 rest

/-- The bytes of some pieces. -/
def joined (held : List Piece) : List UInt8 := (held.map Piece.bytes).flatten

/-- The message that is queued for a segment. -/
def message (segment : List Piece) : Queued where
  buf := { ifType := espSerialIf, ifNum := 0, payload := joined segment, flag := 0,
           payloadLen := UInt16.ofNat (joined segment).length, seqNum := 0 }
  live := true

/-- Interface 0 is open, with a callback, and `queue` has been put on its queue. -/
def Opened (host : Host) (queue : List Queued) : Prop :=
  host.interfaceHandle 0 = some { state := .active, serialRxCallback := true, queue := queue }

/-- `r` holds exactly these pieces; it is a NULL pointer when there are none. -/
def Holds (r : RxData) (held : List Piece) : Prop :=
  r.len = (joined held).length ∧
    r.data = if held = [] then Block.null else Block.live (joined held)

theorem hostedRealloc_keeps {env : Env} {block grown : List UInt8} {size : Nat}
    (fits : block.length ≤ size) (ok : hostedRealloc env block size = some grown) :
    grown.length = size ∧ grown.take block.length = block := by
  unfold hostedRealloc at ok
  split at ok
  · cases ok
  · split at ok
    · cases ok
      refine ⟨by simp, List.ext_getElem (by simp [fits]) fun index _ inside => ?_⟩
      simp [inside]
    · cases ok

theorem memcpyAt_end {block bytes kept : List UInt8} (length : block.length = kept.length + bytes.length)
    (keeps : block.take kept.length = kept) :
    memcpyAt block kept.length bytes = some (kept ++ bytes) := by
  have rest : block.drop (kept.length + bytes.length) = [] := List.drop_of_length_le (by omega)
  simp [memcpyAt, length, keeps, rest]

/-- However `r` is made to grow, the new bytes end up behind those it held. -/
theorem grow {env : Env} {host : Host} {held : List Piece} {buf : IfaceBuf}
    (succeeds : env.Succeeds) (sound : Sound buf) (holds : Holds host.r held) :
    ∃ block, allocReallocRdata env host.r buf.payloadLen.toNat = some (some block) ∧
      memcpyAt block host.r.len buf.bytes = some (joined held ++ buf.bytes) := by
  obtain ⟨len, data⟩ := holds
  have size := bytes_length sound.filled
  rw [len]
  -- malloc for the first piece, realloc for the others
  by_cases empty : held = []
  · refine ⟨(List.range buf.payloadLen.toNat).map env.stale, ?_, ?_⟩
    · simp [allocReallocRdata, data, empty, hostedMalloc, succeeds.dataAlloc]
    · apply memcpyAt_end
      · simp [empty, joined, size]
      · simp [empty, joined]
  · have positive : (joined held).length + buf.payloadLen.toNat ≠ 0 := by
      have := sound.positive
      omega
    have grown : hostedRealloc env (joined held) ((joined held).length + buf.payloadLen.toNat) =
        some ((List.range ((joined held).length + buf.payloadLen.toNat)).map fun index =>
          (joined held).getD index (env.stale index)) := by
      simp only [hostedRealloc, positive, succeeds.dataAlloc, if_true, if_false]
    obtain ⟨length, keeps⟩ := hostedRealloc_keeps (Nat.le_add_right _ _) grown
    refine ⟨_, ?_, memcpyAt_end (by rw [length, size]) keeps⟩
    simp [allocReallocRdata, data, empty, len, grown]

theorem joined_append (held : List Piece) (buf : IfaceBuf) :
    joined (held ++ [piece buf]) = joined held ++ buf.bytes := by
  simp [joined, piece]

theorem getSerialLlHandle_opened {host : Host} {queue : List Queued} (opened : Opened host queue) :
    getSerialLlHandle host 0 =
      some { state := .active, serialRxCallback := true, queue := queue } := by
  simp only [getSerialLlHandle, show (0 : UInt8).toNat < maxSerialIntf from Nat.zero_lt_two, if_true]
  rw [opened]
  rfl

/-- One frame: its bytes are collected, and if it is the last one the message is queued. -/
theorem handler_step {env : Env} {host : Host} {held : List Piece} {queue : List Queued}
    {buf : IfaceBuf} (succeeds : env.Succeeds) (sound : Sound buf) (opened : Opened host queue)
    (holds : Holds host.r held) :
    ∃ after, serialLlRxHandler env buf host = some (after, stmOk) ∧
      if (piece buf).last then
        Opened after (queue ++ [message (held ++ [piece buf])]) ∧ Holds after.r []
      else Opened after queue ∧ Holds after.r (held ++ [piece buf]) := by
  obtain ⟨block, alloc, copied⟩ := @grow env host held buf succeeds sound holds
  have size := bytes_length sound.filled
  have some_bytes : buf.payloadLen ≠ 0 := by
    intro zero
    exact sound.positive (by rw [zero]; rfl)
  have length : host.r.len + buf.payloadLen.toNat = (joined (held ++ [piece buf])).length := by
    rw [joined_append, List.length_append, holds.1, size]
  rw [← joined_append] at copied
  -- the last piece empties `r`, any other is appended to it
  by_cases more : buf.flag &&& moreFragment = 0
  · have ran : serialLlRxHandler env buf host = some (putQueue { host with
        r := { len := 0, data := .null } } 0 { state := .active, serialRxCallback := true, queue := queue }
        (message (held ++ [piece buf])), stmOk) := by
      simp [serialLlRxHandler, some_bytes, sound.ifNum, getSerialLlHandle_opened opened, alloc, copied,
        length, more, succeeds.msgAlloc, succeeds.queueItem, message]
    refine ⟨_, ran, ?_⟩
    simp [piece, more, putQueue, Opened, Holds, joined]
  · have ran : serialLlRxHandler env buf host = some ({ host with
        r := { len := (joined (held ++ [piece buf])).length,
               data := .live (joined (held ++ [piece buf])) } }, stmOk) := by
      simp [serialLlRxHandler, some_bytes, sound.ifNum, getSerialLlHandle_opened opened, alloc, copied,
        length, more]
    refine ⟨_, ran, ?_⟩
    have open_piece : (piece buf).last = false := by simpa [piece] using more
    rw [open_piece]
    exact ⟨opened, rfl, by simp⟩

/-- The handler computes segments: what they are is put on the queue, and `r` holds what
is left over. -/
theorem receive_segments {envs : Nat → Env} {host : Host} {held : List Piece} {queue : List Queued}
    {frames : List IfaceBuf} (succeeds : ∀ call, (envs call).Succeeds)
    (sound : ∀ buf ∈ frames, Sound buf) (opened : Opened host queue) (holds : Holds host.r held) :
    ∃ after, receive envs host frames = some after ∧
      Opened after (queue ++ (segments Piece.last held (frames.map piece)).map message) ∧
      Holds after.r (pending Piece.last held (frames.map piece)) := by
  induction frames generalizing envs host held queue with
  | nil => exact ⟨host, rfl, by simpa [segments] using opened, holds⟩
  | cons buf rest ih =>
      obtain ⟨good, later⟩ := List.forall_mem_cons.mp sound
      obtain ⟨middle, ran, result⟩ := handler_step (succeeds 0) good opened holds
      simp only [receive, ran, Option.bind_some, List.map_cons, segments, pending]
      split at result
      next last =>
        obtain ⟨after, rest_ran, put, left⟩ :=
          ih (fun call => succeeds (call + 1)) later result.1 result.2
        exact ⟨after, rest_ran, by simpa [last] using put, by simpa [last] using left⟩
      next more =>
        obtain ⟨after, rest_ran, put, left⟩ :=
          ih (fun call => succeeds (call + 1)) later result.1 result.2
        exact ⟨after, rest_ran, by simpa [more] using put, by simpa [more] using left⟩

theorem survivors_all {Item : Type} (items : List Item) : survivors (fun _ => false) items = items := by
  induction items with
  | nil => rfl
  | cons item rest ih => simp [survivors, ih]

/-- Without loss the segments are the messages. -/
theorem segments_lossless (messages : List (List UInt8)) :
    segments Piece.last [] (stream (fun _ _ => false) messages) = messages.map pieces ∧
      pending Piece.last [] (stream (fun _ _ => false) messages) = [] := by
  induction messages with
  | nil => exact ⟨rfl, rfl⟩
  | cons first rest ih =>
      obtain ⟨init, final, shape, more, last⟩ := pieces_shape first
      obtain ⟨whole, clear⟩ := @segments_whole Piece Piece.last [] init final more last
      rw [← shape] at whole clear
      simp only [stream, survivors_all, segments_append, pending_append, whole, clear, ih.1, ih.2]
      simp [shape]

theorem transmit_initial (throttle : IfaceBuf → UInt8) (lost : Nat → Nat → Bool) (seqNum : UInt16)
    {sent messages : List (List UInt8)} (initial : sent <+: messages) :
    transmit throttle lost seqNum sent <+: transmit throttle lost seqNum messages := by
  induction sent generalizing lost seqNum messages with
  | nil => simp [transmit]
  | cons first rest ih =>
      obtain ⟨more, rfl⟩ := initial
      simp only [List.cons_append, transmit, List.prefix_append_right_inj]
      exact ih _ _ ⟨more, rfl⟩

/-- Every message comes out as it went in, and after each one the collecting buffer is
empty: after any first part `sent` of the messages, exactly that part has been queued. -/
theorem lossless_round_trip {throttle : IfaceBuf → UInt8} {seqNum : UInt16} {envs : Nat → Env}
    {host : Host} {queue : List Queued} {messages : List (List UInt8)}
    (sized : ∀ bytes ∈ messages, 1 ≤ bytes.length ∧ bytes.length ≤ 65535)
    (succeeds : ∀ call, (envs call).Succeeds) (opened : Opened host queue)
    (clean : host.r = { len := 0, data := .null }) (sent : List (List UInt8))
    (initial : sent <+: messages) :
    transmit throttle (fun _ _ => false) seqNum sent <+:
        transmit throttle (fun _ _ => false) seqNum messages ∧
      ∃ after put, receive envs host (transmit throttle (fun _ _ => false) seqNum sent) = some after ∧
        Opened after (queue ++ put) ∧
        put.map (fun item => (item.live, item.buf.payload, item.buf.payloadLen.toNat)) =
          sent.map (fun bytes => (true, bytes, bytes.length)) ∧
        after.r = { len := 0, data := .null } := by
  refine ⟨transmit_initial throttle _ seqNum initial, ?_⟩
  have parts : ∀ bytes ∈ sent, 1 ≤ bytes.length ∧ bytes.length ≤ 65535 :=
    fun bytes member => sized bytes (initial.subset member)
  have some_bytes : ∀ bytes ∈ sent, bytes ≠ [] := by
    rintro bytes member rfl
    exact absurd (parts [] member).1 (by decide)
  obtain ⟨same, sound⟩ := transmit_pieces throttle (fun _ _ => false) seqNum sent some_bytes
  have holds : Holds host.r [] := by simp [clean, Holds, joined]
  obtain ⟨after, ran, put, len, data⟩ := receive_segments succeeds sound opened holds
  rw [same, (segments_lossless sent).1] at put
  rw [same, (segments_lossless sent).2] at len data
  refine ⟨after, _, ran, put, ?_, ?_⟩
  -- up to 65535 bytes the narrowing to payload_len loses nothing
  · simp only [List.map_map]
    refine List.map_congr_left fun bytes member => ?_
    have whole : joined (pieces bytes) = bytes := pieces_flatten bytes
    have bound : bytes.length < 65536 := Nat.lt_succ_of_le (parts bytes member).2
    simp [message, whole, Nat.mod_eq_of_lt bound]
  · generalize after.r = r at len data
    cases r
    simp_all [joined]

/-- The interface just opened: nothing collected, nothing queued. -/
def openHost : Host where
  r := { len := 0, data := .null }
  interfaceHandle ifNum :=
    if ifNum = 0 then some { state := .active, serialRxCallback := true, queue := [] } else none

def plenty : Env := { dataAlloc := true, msgAlloc := true, queueItem := true, stale := fun _ => 0xa5 }

/-- A message of exactly two full fragments. -/
def twoFull : List UInt8 := List.replicate (2 * ethDataLen) 7

theorem lossless_round_trip_two : ∃ after put,
    receive (fun _ => plenty) openHost
        (transmit (fun _ => 0) (fun _ _ => false) 65535 [[1, 2, 3], twoFull]) = some after ∧
    Opened after put ∧
    put.map (fun item => (item.live, item.buf.payload, item.buf.payloadLen.toNat)) =
      [(true, [1, 2, 3], 3), (true, twoFull, 3000)] ∧
    after.r = { len := 0, data := .null } := by
  have length : twoFull.length = 3000 := List.length_replicate
  have sized : ∀ bytes ∈ [[1, 2, 3], twoFull], 1 ≤ bytes.length ∧ bytes.length ≤ 65535 := by
    simp [length]
  obtain ⟨-, after, put, ran, opened, same, clean⟩ :=
    @lossless_round_trip (fun _ => 0) 65535 (fun _ => plenty) openHost [] [[1, 2, 3], twoFull] sized
      (fun _ => ⟨rfl, rfl, rfl⟩) rfl rfl _ (List.prefix_refl _)
  exact ⟨after, put, ran, opened, by simpa [length] using same, clean⟩

end EspHosted.SerialReassembly

import EspHosted.GuardedRun
import EspHosted.ResourceTrace
import EspHosted.SerialReassembly

/-!
The blocks of `serial_ll_rx_handler`: the static buffer `r.data`, the copy that goes to the
queue, and the received buffer of the caller. A block is numbered by its allocation, and the
trace says what is done with each; the contents are those of `SerialReassembly`. The label
`serial_buff_cleanup` frees `r.data` and leaves the pointer, and frees the copy even when its
handle is on a queue, so what it may be reached with is the condition on a run.
-/

namespace EspHosted.AccumulatorBlocks
open SpiFrames ResourceTrace GuardedRun
open SerialReassembly (Env SerialLlHandle Host Block RxData Queued getSerialLlHandle stmOk stmFail)

structure Heap where
  allocated : Nat
  size : Nat → Nat
  trace : List (Nat × Use)

def Heap.take (heap : Heap) (size : Nat) : Heap where
  allocated := heap.allocated + 1
  size := Function.update heap.size heap.allocated size
  trace := heap.trace ++ [(heap.allocated, .take)]

def Heap.access (heap : Heap) (block : Nat) : Heap :=
  { heap with trace := heap.trace ++ [(block, .access)] }

/-- `rt_free`, which does nothing with NULL. -/
def Heap.free (heap : Heap) : Option Nat → Heap
  | none => heap
  | some block => { heap with trace := heap.trace ++ [(block, .giveBack)] }

def hostedMalloc (ok : Bool) (heap : Heap) (size : Nat) : Heap × Option Nat :=
  if ok then (heap.take size, some heap.allocated) else (heap, none)

def hostedRealloc (ok : Bool) (heap : Heap) (mem newsize : Nat) : Heap × Option Nat :=
  if newsize = 0 then (heap.free (some mem), none)
  else if ok then (((heap.take newsize).access mem).free (some mem), some heap.allocated)
  else (heap, none)

/-- `len` and `data` are `struct rx_data`. The other fields only remember: `queued` the
payloads whose handles went to a queue, `kept` the received buffers left to the caller, and
`lost` what a failed realloc was given. -/
structure State where
  len : Nat
  data : Option Nat
  heap : Heap
  queued : List Nat
  kept : List Nat
  lost : List Nat

/-- A call with a received frame. Interfaces may come and go between two calls. -/
structure Call where
  buf : IfaceBuf
  env : Env
  interfaceHandle : UInt8 → Option SerialLlHandle

def serialBuffCleanup (rxbuff : Nat) (new : Option Nat) (state : State) : State × Int :=
  ({ state with
      len := 0
      heap := ((state.heap.free (some rxbuff)).free new).free state.data }, stmFail)

def allocReallocRdata (ok : Bool) (payloadLen : Nat) (state : State) : Heap × Option Nat :=
  match state.data with
  | none => hostedMalloc ok state.heap payloadLen
  | some mem => hostedRealloc ok state.heap mem (state.len + payloadLen)

/-- The active interface of a frame with a payload. -/
def usable (call : Call) : Option SerialLlHandle :=
  if call.buf.payloadLen = 0 then none
  else
    getSerialLlHandle { r := { len := 0, data := .null }, interfaceHandle := call.interfaceHandle }
      call.buf.ifNum

/-- The payload goes behind what `r` has. -/
def appendPayload (payloadLen rxbuff data : Nat) (heap : Heap) (state : State) : State :=
  { state with
    len := state.len + payloadLen
    data := some data
    heap := (heap.access rxbuff).access data }

/-- `serial_buf` is the next block; `r` is copied to it and cleared. -/
def moveMessage (data : Nat) (state : State) : State :=
  let serialBuf := state.heap.allocated
  let heap := ((state.heap.take state.len).access data).access serialBuf
  { state with len := 0, data := none, heap := heap.free (some data) }

/-- `rxbuff` is the `priv_buffer_handle` of the received frame. -/
def serialLlRxHandler (call : Call) (rxbuff : Nat) (state : State) : State × Int :=
  match usable call with
  | none => serialBuffCleanup rxbuff none state
  | some handle =>
    match allocReallocRdata call.env.dataAlloc call.buf.payloadLen.toNat state with
    | (heap, none) =>
        serialBuffCleanup rxbuff none
          { state with data := none, heap := heap, lost := state.data.toList ++ state.lost }
    | (heap, some data) =>
        let state := appendPayload call.buf.payloadLen.toNat rxbuff data heap state
        if call.buf.flag &&& moreFragment ≠ 0 then
          ({ state with kept := rxbuff :: state.kept }, stmOk)
        else if call.env.msgAlloc = false then serialBuffCleanup rxbuff none state
        else
          let serialBuf := state.heap.allocated
          let state := moveMessage data state
          if call.env.queueItem = false then serialBuffCleanup rxbuff (some serialBuf) state
          else
            let state : State := { state with queued := serialBuf :: state.queued }
            if handle.serialRxCallback then
              ({ state with kept := rxbuff :: state.kept }, stmOk)
            else serialBuffCleanup rxbuff (some serialBuf) state

/-- The frame comes in a buffer of its own. -/
def receive (state : State) (call : Call) : State × Int :=
  serialLlRxHandler call state.heap.allocated
    { state with heap := state.heap.take maxSpiBufferSize }

def step (state : State) (call : Call) : Option State := some (receive state call).1

def init : State where
  len := 0
  data := none
  heap := { allocated := 0, size := fun _ => 0, trace := [] }
  queued := []
  kept := []
  lost := []

def Heap.Live (heap : Heap) (block : Nat) : Prop :=
  (block, Use.take) ∈ heap.trace ∧ (block, Use.giveBack) ∉ heap.trace

/-- What is asked of the state between two calls. -/
structure Correct (state : State) : Prop where
  accumulator : (state.len = 0 ∧ state.data = none) ∨
    ∃ block, state.data = some block ∧ state.heap.Live block ∧ state.len ≤ state.heap.size block
  once : ∀ block, state.heap.trace.count (block, .giveBack) ≤ 1
  queued : ∀ block ∈ state.queued, (block, Use.giveBack) ∉ state.heap.trace

/-- The call does not reach `serial_buff_cleanup` with `r.data` set, nor with its message on a
queue. -/
def Spared (state : State) (call : Call) : Prop :=
  match usable call with
  | none => state.data = none
  | some handle =>
      call.env.dataAlloc = true → call.buf.flag &&& moreFragment = 0 →
        call.env.msgAlloc = true ∧ (call.env.queueItem = true → handle.serialRxCallback = true)

def held (state : State) : List Nat :=
  state.data.toList ++ (state.queued ++ (state.kept ++ state.lost))

def Heap.Holds (heap : Heap) (blocks : List Nat) : Prop :=
  Holding heap.trace blocks heap.allocated

/-- Every block that was not given back is held in one place. -/
structure Sound (state : State) : Prop where
  holds : state.heap.Holds (held state)
  empty : state.data = none → state.len = 0
  room : ∀ block, state.data = some block → state.len ≤ state.heap.size block

section Heap
variable {heap : Heap} {blocks others : List Nat} {block : Nat}

theorem Heap.Holds.perm (holds : heap.Holds blocks) (same : blocks.Perm others) :
    heap.Holds others :=
  Holding.perm holds same

theorem holds_take (holds : heap.Holds blocks) (size : Nat) :
    (heap.take size).Holds (heap.allocated :: blocks) :=
  Holding.take holds

theorem holds_access (holds : heap.Holds blocks) (member : block ∈ blocks) :
    (heap.access block).Holds blocks :=
  Holding.access holds member

theorem holds_free (holds : heap.Holds (block :: blocks)) : (heap.free (some block)).Holds blocks :=
  Holding.giveBack holds

theorem size_take (size : Nat) : (heap.take size).size heap.allocated = size := by
  simp only [Heap.take, Function.update_self]

theorem size_take_old (size : Nat) (old : block ≠ heap.allocated) :
    (heap.take size).size block = heap.size block := by
  simp only [Heap.take, Function.update_of_ne old]

theorem size_free (pointer : Option Nat) : (heap.free pointer).size = heap.size := by
  cases pointer <;> rfl

/-- Whatever is freed stays freed. -/
theorem given_free {event : Nat × Use} (given : event ∈ heap.trace) (pointer : Option Nat) :
    event ∈ (heap.free pointer).trace := by
  cases pointer with
  | none => exact given
  | some block => exact List.mem_append_left _ given

theorem given_freed (heap : Heap) (block : Nat) :
    (block, Use.giveBack) ∈ (heap.free (some block)).trace :=
  List.mem_append_right _ (List.mem_singleton.mpr rfl)

end Heap

variable {state : State} {call : Call} {rxbuff : Nat}

theorem init_sound : Sound init where
  holds := holding_nil
  empty _ := rfl
  room _ wrong := by cases wrong

/-- What nobody gave back twice: the blocks of a sound state are as they should be. -/
theorem Sound.correct (sound : Sound state) : Correct state where
  accumulator := by
    cases data : state.data with
    | none => exact Or.inl ⟨sound.empty data, rfl⟩
    | some block =>
        have member : block ∈ held state := by simp [held, data]
        exact Or.inr ⟨block, rfl, sound.holds.live member, sound.room block data⟩
  once := sound.holds.once
  queued block member := by
    have somewhere : block ∈ held state := by
      simp only [held, List.mem_append]
      exact Or.inr (Or.inl member)
    exact (sound.holds.live somewhere).2

/-- The cleanup with nothing in `r.data` frees the two buffers of this call. -/
theorem cleanup_sound (data : state.data = none) (new : Option Nat)
    (holds : state.heap.Holds
      (rxbuff :: (new.toList ++ (state.queued ++ (state.kept ++ state.lost))))) :
    Sound (serialBuffCleanup rxbuff new state).1 where
  holds := by
    have without := holds_free holds
    simp only [serialBuffCleanup, held, data, Heap.free, Option.toList_none, List.nil_append]
    cases new with
    | none => exact without
    | some block => exact holds_free without
  empty _ := rfl
  room block wrong := by
    rw [show (serialBuffCleanup rxbuff new state).1.data = state.data from rfl, data] at wrong
    cases wrong

/-- The blocks that are no part of the accumulator. -/
def others (state : State) : List Nat := state.queued ++ (state.kept ++ state.lost)

/-- A state in the middle of a call: the received buffer is held as well. -/
structure Midway (rxbuff : Nat) (state : State) : Prop where
  holds : state.heap.Holds (rxbuff :: (state.data.toList ++ others state))
  empty : state.data = none → state.len = 0
  room : ∀ block, state.data = some block → state.len ≤ state.heap.size block

theorem received (sound : Sound state) : Midway state.heap.allocated
    { state with heap := state.heap.take maxSpiBufferSize } where
  holds := holds_take sound.holds maxSpiBufferSize
  empty := sound.empty
  room block data := by
    have member : block ∈ held state := by
      rw [held, data]
      exact List.mem_cons_self
    have old : block ≠ state.heap.allocated := Nat.ne_of_lt (Holding.old sound.holds member)
    rw [size_take_old _ old]
    exact sound.room block data

/-- However `r.data` is had, it has room for what is in `r` and for the new payload. -/
theorem alloc_some {ok : Bool} {payloadLen data : Nat} {heap : Heap}
    (midway : Midway rxbuff state)
    (allocated : allocReallocRdata ok payloadLen state = (heap, some data)) :
    heap.Holds (rxbuff :: data :: others state) ∧ heap.size data = state.len + payloadLen ∧
      ok = true := by
  have holds := midway.holds
  unfold allocReallocRdata at allocated
  cases old : state.data with
  | none =>
      rw [old] at allocated holds
      simp only [hostedMalloc] at allocated
      cases ok with
      | false => cases allocated
      | true =>
          cases allocated
          refine ⟨(holds_take holds payloadLen).perm (List.Perm.swap _ _ _), ?_, rfl⟩
          rw [size_take, midway.empty old, Nat.zero_add]
  | some mem =>
      rw [old] at allocated holds
      simp only [hostedRealloc] at allocated
      split at allocated
      · cases allocated
      · cases ok with
        | false => cases allocated
        | true =>
            cases allocated
            have taken := holds_take holds (state.len + payloadLen)
            have copied := holds_access taken
              (List.mem_cons_of_mem _ (List.mem_cons_of_mem _ List.mem_cons_self))
            have freed := holds_free (copied.perm
              (@List.perm_middle _ _ [state.heap.allocated, rxbuff] (others state)))
            refine ⟨freed.perm (List.Perm.swap _ _ _), ?_, rfl⟩
            rw [size_free]
            exact size_take _

theorem alloc_none {ok : Bool} {payloadLen : Nat} {heap : Heap} (positive : payloadLen ≠ 0)
    (allocated : allocReallocRdata ok payloadLen state = (heap, none)) :
    heap = state.heap ∧ ok = false := by
  unfold allocReallocRdata at allocated
  cases old : state.data with
  | none =>
      rw [old] at allocated
      simp only [hostedMalloc] at allocated
      cases ok with
      | true => cases allocated
      | false =>
          cases allocated
          exact ⟨rfl, rfl⟩
  | some mem =>
      rw [old] at allocated
      simp only [hostedRealloc] at allocated
      split at allocated
      · omega
      · cases ok with
        | true => cases allocated
        | false =>
            cases allocated
            exact ⟨rfl, rfl⟩

theorem usable_some {handle : SerialLlHandle} (found : usable call = some handle) :
    call.buf.payloadLen.toNat ≠ 0 := by
  unfold usable at found
  split at found
  · cases found
  next some_bytes => exact fun zero => some_bytes (UInt16.toNat_inj.mp zero)

theorem appendPayload_midway {payloadLen data : Nat} {heap : Heap}
    (holds : heap.Holds (rxbuff :: data :: others state))
    (room : heap.size data = state.len + payloadLen) :
    Midway rxbuff (appendPayload payloadLen rxbuff data heap state) where
  holds := holds_access (holds_access holds List.mem_cons_self)
    (List.mem_cons_of_mem _ List.mem_cons_self)
  empty wrong := by cases wrong
  room block same := by
    cases same
    exact Nat.le_of_eq room.symm

theorem moveMessage_holds {data : Nat} (midway : Midway rxbuff state)
    (collected : state.data = some data) :
    (moveMessage data state).heap.Holds (state.heap.allocated :: rxbuff :: others state) := by
  have holds := midway.holds
  rw [collected] at holds
  have taken := holds_take holds state.len
  have from_data := holds_access taken
    (List.mem_cons_of_mem _ (List.mem_cons_of_mem _ List.mem_cons_self))
  have to_new := holds_access from_data List.mem_cons_self
  exact holds_free (to_new.perm
    (@List.perm_middle _ _ [state.heap.allocated, rxbuff] (others state)))

/-- The received buffer may be left to the caller. -/
theorem kept_sound (midway : Midway rxbuff state) :
    Sound { state with kept := rxbuff :: state.kept } where
  holds := by
    have apart : held { state with kept := rxbuff :: state.kept } =
        (state.data.toList ++ state.queued) ++ rxbuff :: (state.kept ++ state.lost) := by
      simp only [held, List.append_assoc, List.cons_append]
    rw [apart]
    apply midway.holds.perm
    rw [others, ← List.append_assoc]
    exact List.perm_middle.symm
  empty := midway.empty
  room := midway.room

/-- The rest of a call for a complete message. -/
theorem message_sound {data : Nat} (midway : Midway rxbuff state)
    (collected : state.data = some data) :
    Sound (serialBuffCleanup rxbuff (some state.heap.allocated) (moveMessage data state)).1 ∧
      Sound { moveMessage data state with
        queued := state.heap.allocated :: state.queued
        kept := rxbuff :: state.kept } := by
  have holds := moveMessage_holds midway collected
  constructor
  · exact cleanup_sound rfl _ (holds.perm (List.Perm.swap _ _ _))
  · have middle : Midway rxbuff { moveMessage data state with
        queued := state.heap.allocated :: state.queued } :=
      { holds := holds.perm (List.Perm.swap _ _ _)
        empty := fun _ => rfl
        room := fun _ wrong => by cases wrong }
    exact kept_sound middle

theorem handler_sound (midway : Midway rxbuff state) (spared : Spared state call) :
    Sound (serialLlRxHandler call rxbuff state).1 := by
  unfold serialLlRxHandler
  unfold Spared at spared
  cases found : usable call with
  | none =>
      rw [found] at spared
      have holds := midway.holds
      rw [show state.data = none from spared] at holds
      exact cleanup_sound spared none holds
  | some handle =>
      rw [found] at spared
      dsimp only at spared ⊢
      split
      next heap allocated =>
        -- a failed realloc keeps its block, but nothing points at it any more
        obtain ⟨same, _⟩ := alloc_none (usable_some found) allocated
        apply cleanup_sound rfl
        rw [same]
        apply midway.holds.perm
        apply List.perm_iff_count.mpr
        intro block
        simp only [others, List.count_cons, List.count_append, Option.toList_none, List.nil_append]
        omega
      next heap data allocated =>
        obtain ⟨holds, room, data_alloc⟩ := alloc_some midway allocated
        have collected := appendPayload_midway holds room
        by_cases more : call.buf.flag &&& moreFragment = 0
        · rw [if_neg (not_not_intro more)]
          obtain ⟨msg_alloc, callback⟩ := spared data_alloc more
          have msg_fails : ¬ call.env.msgAlloc = false := by rw [msg_alloc]; decide
          rw [if_neg msg_fails]
          obtain ⟨refused, queued⟩ := message_sound collected rfl
          by_cases put_fails : call.env.queueItem = false
          · rw [if_pos put_fails]
            exact refused
          · rw [if_neg put_fails, if_pos (callback (Bool.of_not_eq_false put_fails))]
            exact queued
        · rw [if_pos more]
          exact kept_sound collected

/-- The cleanup frees what is in `r.data`, and the pointer stays. -/
theorem cleanup_dangles {data : Nat} (new : Option Nat) (set : state.data = some data) :
    ¬ Correct (serialBuffCleanup rxbuff new state).1 := by
  intro correct
  have freed : (data, Use.giveBack) ∈ (serialBuffCleanup rxbuff new state).1.heap.trace := by
    simp only [serialBuffCleanup, set]
    exact given_freed _ data
  have pointer : (serialBuffCleanup rxbuff new state).1.data = some data := set
  rcases correct.accumulator with ⟨_, null⟩ | ⟨block, points, live, _⟩
  · rw [pointer] at null
    cases null
  · rw [pointer] at points
    cases points
    exact live.2 freed

/-- The cleanup frees its second argument, also when that is on a queue. -/
theorem cleanup_frees_queued {block : Nat} (put : block ∈ state.queued) :
    ¬ Correct (serialBuffCleanup rxbuff (some block) state).1 := by
  intro correct
  have freed : (block, Use.giveBack) ∈
      (serialBuffCleanup rxbuff (some block) state).1.heap.trace :=
    given_free (given_freed _ block) _
  exact correct.queued block put freed

theorem handler_incorrect (not_spared : ¬ Spared state call) :
    ¬ Correct (serialLlRxHandler call rxbuff state).1 := by
  unfold serialLlRxHandler
  unfold Spared at not_spared
  cases found : usable call with
  | none =>
      rw [found] at not_spared
      obtain ⟨data, set⟩ := Option.ne_none_iff_exists'.mp not_spared
      exact cleanup_dangles none set
  | some handle =>
      rw [found] at not_spared
      dsimp only at not_spared ⊢
      split
      next heap allocated =>
        obtain ⟨_, failed⟩ := alloc_none (usable_some found) allocated
        exact absurd (fun ok => absurd (failed.symm.trans ok) (by decide)) not_spared
      next heap data allocated =>
        by_cases more : call.buf.flag &&& moreFragment = 0
        · rw [if_neg (not_not_intro more)]
          by_cases msg_fails : call.env.msgAlloc = false
          · rw [if_pos msg_fails]
            exact cleanup_dangles none rfl
          · rw [if_neg msg_fails]
            by_cases put_fails : call.env.queueItem = false
            · exact absurd (fun _ _ => ⟨Bool.of_not_eq_false msg_fails,
                fun put => absurd (put_fails.symm.trans put) (by decide)⟩) not_spared
            · rw [if_neg put_fails]
              by_cases callback : handle.serialRxCallback = true
              · exact absurd (fun _ _ => ⟨Bool.of_not_eq_false msg_fails, fun _ => callback⟩)
                  not_spared
              · rw [if_neg callback]
                exact cleanup_frees_queued List.mem_cons_self
        · exact absurd (fun _ none => absurd none more) not_spared

/-- A pointer and what it points at. -/
def PointsAt (heap : Heap) : Option Nat → Block → Prop
  | none, .null => True
  | some block, .live bytes => heap.Live block ∧ bytes.length = heap.size block
  | some block, .dangling => (block, Use.giveBack) ∈ heap.trace
  | _, _ => False

theorem pointsAt_take {heap : Heap} {pointer : Option Nat} {target : Block} {size : Nat}
    (points : PointsAt heap pointer target)
    (old : ∀ block, pointer = some block → block ≠ heap.allocated) :
    PointsAt (heap.take size) pointer target := by
  cases pointer with
  | none =>
      cases target with
      | null => trivial
      | live _ | dangling => exact points.elim
  | some block =>
      cases target with
      | null => exact points.elim
      | dangling => exact List.mem_append_left _ points
      | live bytes =>
          obtain ⟨⟨taken, not_freed⟩, length⟩ := points
          refine ⟨⟨List.mem_append_left _ taken, fun freed => ?_⟩, ?_⟩
          · rcases List.mem_append.mp freed with before | now
            · exact not_freed before
            · cases List.mem_singleton.mp now
          · rw [length, size_take_old size (old block rfl)]

/-- The static buffer here and there. -/
structure Agrees (state : State) (r : RxData) : Prop where
  len : r.len = state.len
  data : PointsAt state.heap state.data r.data

section Contents
variable {host : Host} {r : RxData}

theorem usable_host (same : host.interfaceHandle = call.interfaceHandle) :
    usable call = if call.buf.payloadLen = 0 then none
      else getSerialLlHandle host call.buf.ifNum := by
  simp only [usable, getSerialLlHandle, same]

theorem memcpyAt_fits {block bytes : List UInt8} {offset : Nat}
    (fits : offset + bytes.length ≤ block.length) :
    ∃ copied, SerialReassembly.memcpyAt block offset bytes = some copied ∧
      copied.length = block.length := by
  refine ⟨_, if_pos fits, ?_⟩
  simp only [List.length_append, List.length_take, List.length_drop]
  omega

/-- Where both agree, there is no block in either or a live one in both. -/
theorem Agrees.data_cases (agrees : Agrees state r)
    (live : ∀ data, state.data = some data → state.heap.Live data) :
    (state.data = none ∧ r.data = .null) ∨
      ∃ block bytes, state.data = some block ∧ r.data = .live bytes := by
  have points := agrees.data
  cases data : state.data with
  | none =>
      rw [data] at points
      cases block : r.data with
      | null => exact Or.inl ⟨rfl, rfl⟩
      | live bytes | dangling =>
          rw [block] at points
          exact points.elim
  | some mem =>
      rw [data] at points
      cases block : r.data with
      | live bytes => exact Or.inr ⟨mem, bytes, rfl, rfl⟩
      | dangling =>
          rw [block] at points
          exact absurd points (live mem data).2
      | null =>
          rw [block] at points
          exact points.elim

/-- A live or empty accumulator is allocated in both models with the same outcome. -/
theorem alloc_agrees {payloadLen : Nat} (midway : Midway rxbuff state) (agrees : Agrees state r)
    (live : ∀ data, state.data = some data → state.heap.Live data) (env : Env) :
    (∀ heap, allocReallocRdata env.dataAlloc payloadLen state = (heap, none) →
      SerialReassembly.allocReallocRdata env r payloadLen = some none) ∧
    ∀ heap data, allocReallocRdata env.dataAlloc payloadLen state = (heap, some data) →
      ∃ bytes, SerialReassembly.allocReallocRdata env r payloadLen = some (some bytes) ∧
        bytes.length = state.len + payloadLen := by
  unfold allocReallocRdata SerialReassembly.allocReallocRdata
  rcases agrees.data_cases live with ⟨absent, block⟩ | ⟨mem, bytes, data, block⟩
  · simp only [absent, block, hostedMalloc, SerialReassembly.hostedMalloc]
    cases ok : env.dataAlloc with
    | true =>
        refine ⟨fun heap wrong => (by cases wrong), fun heap data _ => ⟨_, rfl, ?_⟩⟩
        rw [List.length_map, List.length_range, midway.empty absent, Nat.zero_add]
    | false => exact ⟨fun _ _ => rfl, fun heap data wrong => by cases wrong⟩
  · simp only [data, block, hostedRealloc, SerialReassembly.hostedRealloc, agrees.len]
    by_cases zero : state.len + payloadLen = 0
    · rw [if_pos zero, if_pos zero]
      exact ⟨fun _ _ => rfl, fun heap data wrong => by cases wrong⟩
    · rw [if_neg zero, if_neg zero]
      cases ok : env.dataAlloc with
      | true =>
          refine ⟨fun heap wrong => (by cases wrong), fun heap data _ => ⟨_, rfl, ?_⟩⟩
          rw [List.length_map, List.length_range]
      | false => exact ⟨fun _ _ => rfl, fun heap data wrong => by cases wrong⟩

/-- The cleanup does the same in both models, as long as `r.data` is not dangling before. -/
theorem cleanup_agrees (agrees : Agrees state host.r) (new : Option Nat)
    (live : ∀ data, state.data = some data → state.heap.Live data) :
    ∃ after, SerialReassembly.serialBuffCleanup host = some (after, stmFail) ∧
      Agrees (serialBuffCleanup rxbuff new state).1 after.r := by
  unfold SerialReassembly.serialBuffCleanup
  rcases agrees.data_cases live with ⟨data, block⟩ | ⟨mem, bytes, data, block⟩
  · rw [block]
    refine ⟨_, rfl, rfl, ?_⟩
    rw [show (serialBuffCleanup rxbuff new state).1.data = state.data from rfl, data]
    trivial
  · rw [block]
    refine ⟨_, rfl, rfl, ?_⟩
    simp only [serialBuffCleanup, data]
    exact given_freed _ mem

theorem Midway.live (midway : Midway rxbuff state) (block : Nat) (data : state.data = some block) :
    state.heap.Live block := by
  have holds := midway.holds
  rw [data] at holds
  exact Holding.live holds (List.mem_cons_of_mem _ List.mem_cons_self)

theorem appendPayload_agrees {payloadLen data : Nat} {heap : Heap} {bytes : List UInt8}
    (midway : Midway rxbuff (appendPayload payloadLen rxbuff data heap state))
    (room : heap.size data = state.len + payloadLen)
    (length : bytes.length = state.len + payloadLen) :
    Agrees (appendPayload payloadLen rxbuff data heap state)
      { len := state.len + payloadLen, data := .live bytes } where
  len := rfl
  data := ⟨midway.live data rfl, length.trans room.symm⟩

/-- Where nothing dangles, the handler with the contents is defined and does the same. -/
theorem handler_agrees (midway : Midway rxbuff state) (agrees : Agrees state host.r)
    (same : host.interfaceHandle = call.interfaceHandle) :
    ∃ after, SerialReassembly.serialLlRxHandler call.env call.buf host =
        some (after, (serialLlRxHandler call rxbuff state).2) ∧
      Agrees (serialLlRxHandler call rxbuff state).1 after.r := by
  have live := midway.live
  have found := usable_host same
  unfold SerialReassembly.serialLlRxHandler serialLlRxHandler
  by_cases no_bytes : call.buf.payloadLen = 0
  · rw [if_pos no_bytes] at found ⊢
    rw [found]
    exact cleanup_agrees agrees none live
  rw [if_neg no_bytes] at found ⊢
  rw [found]
  cases opened : getSerialLlHandle host call.buf.ifNum with
  | none => exact cleanup_agrees agrees none live
  | some handle =>
      dsimp only
      obtain ⟨fails, succeeds⟩ :=
        @alloc_agrees _ _ host.r call.buf.payloadLen.toNat midway agrees live call.env
      rcases allocated : allocReallocRdata call.env.dataAlloc call.buf.payloadLen.toNat state with
        ⟨heap, _ | data⟩
      · rw [fails heap allocated]
        have cleared : Agrees { state with
            data := none, heap := heap, lost := state.data.toList ++ state.lost }
            { host.r with data := .null } :=
          { len := agrees.len, data := trivial }
        exact @cleanup_agrees _ rxbuff { host with r := { host.r with data := .null } } cleared none
          (fun data wrong => by cases wrong)
      · obtain ⟨holds, room, _⟩ := alloc_some midway allocated
        obtain ⟨block, had, length⟩ := succeeds heap data allocated
        rw [had]
        have within : host.r.len + call.buf.bytes.length ≤ block.length := by
          rw [length, agrees.len, IfaceBuf.bytes, List.length_take]
          omega
        obtain ⟨copied, copies, copied_length⟩ := memcpyAt_fits within
        have collected := appendPayload_midway holds room
        have collected_agrees := appendPayload_agrees collected room (copied_length.trans length)
        dsimp only
        rw [copies, agrees.len]
        dsimp only
        by_cases more : call.buf.flag &&& moreFragment = 0
        · rw [if_neg (not_not_intro more), if_neg (not_not_intro more)]
          cases msg_alloc : call.env.msgAlloc with
          | false =>
              exact @cleanup_agrees _ rxbuff { host with
                r := { len := state.len + call.buf.payloadLen.toNat, data := .live copied } }
                collected_agrees none collected.live
          | true =>
              have moved : ∀ handles, Agrees { moveMessage data
                  (appendPayload call.buf.payloadLen.toNat rxbuff data heap state) with
                  queued := handles } { len := 0, data := .null } :=
                fun _ => { len := rfl, data := trivial }
              cases put : call.env.queueItem with
              | false =>
                  exact @cleanup_agrees _ rxbuff { host with r := { len := 0, data := .null } }
                    (moved state.queued) _ (fun data wrong => by cases wrong)
              | true =>
                  cases callback : handle.serialRxCallback with
                  | true => exact ⟨_, rfl, rfl, trivial⟩
                  | false =>
                      exact @cleanup_agrees _ rxbuff (SerialReassembly.putQueue
                        { host with r := { len := 0, data := .null } } call.buf.ifNum handle _)
                        (moved _) _ (fun data wrong => by cases wrong)
        · rw [if_pos more, if_pos more]
          exact ⟨_, rfl, collected_agrees.len, collected_agrees.data⟩

end Contents

theorem sound_of_run (run : Run step Spared init state) : Sound state := by
  apply run.invariant init_sound
  intro before call after _ sound spared taken
  cases taken
  exact handler_sound (received sound) spared

/-- As long as every call meets the condition, the accumulator is empty or a live block with
room for its bytes, no block is freed twice and no queued one by the handler; the first call
that does not meet it breaks this. -/
theorem error_path_iff (state : State) (run : Run step Spared init state) :
    Correct state ∧ ∀ call, Correct (receive state call).1 ↔ Spared state call := by
  have sound := sound_of_run run
  refine ⟨sound.correct, fun call => ⟨fun correct => ?_, fun spared => ?_⟩⟩
  · by_contra not_spared
    rw [receive] at correct
    exact absurd correct (handler_incorrect not_spared)
  · exact (@handler_sound _ call _ (received sound) spared).correct

/-- Up to the first such call the bytes are those of `SerialReassembly`, where a use of freed
memory has no result. -/
theorem run_agrees {host : Host} (run : Run step Spared init state) (agrees : Agrees state host.r)
    (same : host.interfaceHandle = call.interfaceHandle) :
    ∃ after, SerialReassembly.serialLlRxHandler call.env call.buf host =
        some (after, (receive state call).2) ∧ Agrees (receive state call).1 after.r := by
  have sound := sound_of_run run
  have old : ∀ block, state.data = some block → block ≠ state.heap.allocated := by
    intro block data
    have member : block ∈ held state := by
      rw [held, data]
      exact List.mem_cons_self
    exact Nat.ne_of_lt (Holding.old sound.holds member)
  have middle : Agrees { state with heap := state.heap.take maxSpiBufferSize } host.r :=
    { len := agrees.len, data := pointsAt_take agrees.data old }
  exact handler_agrees (received sound) middle same

section Runs

def onlyInterface (handle : SerialLlHandle) (ifNum : UInt8) : Option SerialLlHandle :=
  if ifNum = 0 then some handle else none

def withCallback : SerialLlHandle := { state := .active, serialRxCallback := true, queue := [] }

def allSucceed : Env where
  dataAlloc := true
  msgAlloc := true
  queueItem := true
  stale _ := 0

def fragmentCall : Call where
  buf := { ifType := espSerialIf, ifNum := 0, payload := [7], flag := moreFragment,
           payloadLen := 1, seqNum := 1 }
  env := allSucceed
  interfaceHandle := onlyInterface withCallback

def lastCall : Call :=
  { fragmentCall with buf := { fragmentCall.buf with flag := 0 } }

/-- `serial_buf` cannot be allocated. -/
def noMemoryCall : Call := { lastCall with env := { allSucceed with msgAlloc := false } }

def noCallbackCall : Call :=
  { lastCall with
    interfaceHandle := onlyInterface { withCallback with serialRxCallback := false } }

/-- A realloc that fails loses its block, but nothing dangles. -/
def noGrowthCall : Call := { fragmentCall with env := { allSucceed with dataAlloc := false } }

theorem error_path_iff_refused :
    ∃ state, (Correct state ∧ ∀ call, Correct (receive state call).1 ↔ Spared state call) ∧
      state.data = none ∧ state.lost = [1] := by
  obtain ⟨state, run, data, lost⟩ := admitted_reaches step Spared init
    [fragmentCall, noGrowthCall] (fun state => state.data = none ∧ state.lost = [1])
    ⟨fun _ more => absurd more (by decide), fun ok => absurd ok (by decide), trivial⟩
    ⟨_, rfl, rfl, rfl⟩
  exact ⟨state, error_path_iff state run, data, lost⟩

/-- The copy for the queue cannot be allocated, and the next frame is reassembled in freed
memory; or there is no callback, and the payload on the queue is freed. -/
theorem error_path_fails :
    ¬ (∀ state, Run step unguarded init state → Correct state) ∧
      (∃ state, Run step unguarded init state ∧ state.heap.trace.count (3, .giveBack) = 2) ∧
      ∃ state, Run step unguarded init state ∧
        ∃ block ∈ state.queued, (block, Use.giveBack) ∈ state.heap.trace := by
  have twice : ∃ state, Run step unguarded init state ∧
      state.heap.trace.count (3, .giveBack) = 2 :=
    exec_reaches step init [fragmentCall, noMemoryCall, lastCall] _ ⟨_, rfl, by decide⟩
  have queued : ∃ state, Run step unguarded init state ∧
      ∃ block ∈ state.queued, (block, Use.giveBack) ∈ state.heap.trace :=
    exec_reaches step init [noCallbackCall] _ ⟨_, rfl, 2, by decide, by decide⟩
  refine ⟨fun correct => ?_, twice, queued⟩
  obtain ⟨state, run, block, member, freed⟩ := queued
  exact (correct state run).queued block member freed

end Runs

end EspHosted.AccumulatorBlocks

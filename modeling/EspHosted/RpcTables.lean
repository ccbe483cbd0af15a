import EspHosted.SlotTable

/-!
The response tables of `rpc_core.c` and the five searches over them. A slot is
free when its uid is 0; the searches compare uids only, so what a free slot
answers to is decided by that encoding alone. `Sem` and `Cb` stand for the
semaphore handles and callback pointers; `none` is NULL.
-/

namespace EspHosted.RpcTables
open SlotTable

def rpcIdReqBase : Int := 256
def rpcIdRespBase : Int := 512
def rpcIdRespMax : Int := 607

def callbackAvailable : Int := 0
def callbackNotRegistered : Int := -1
def msgIdOutOfOrder : Int := -2

def rpcErrMemoryFailure : Int := 0x2f06
def rpcErrProtobufEncode : Int := 0x2f09
def rpcErrSetAsyncCb : Int := 0x2f0b
def rpcErrTransportSend : Int := 0x2f0c
def rpcErrRequestTimeout : Int := 0x2f0d

/-- A decoded response: `msg_id` is a protobuf enum, `resp` what the payload of
that message yields for `resp_event_status`. -/
structure Rpc where
  msgId : Int
  uid : UInt32
  resp : Int
  deriving DecidableEq

/-- `ctrl_cmd_t` of a response. -/
structure CtrlCmd where
  msgId : UInt16
  uid : UInt32
  respEventStatus : Int
  deriving DecidableEq

/-- The basic fields `rpc_parse_rsp` sets for every message. `msg_id` is narrowed
to the `uint16_t` of `ctrl_cmd_t`. -/
def rpcParseRsp (msg : Rpc) : CtrlCmd :=
  { msgId := UInt16.ofInt msg.msgId, uid := msg.uid, respEventStatus := msg.resp }

def expRespMsgId (msgId : UInt16) : Int := msgId.toNat - rpcIdReqBase + rpcIdRespBase

structure SyncRsp (Sem : Type) where
  uid : UInt32
  sem : Option Sem

structure AsyncRsp (Cb : Type) where
  uid : UInt32
  cb : Option Cb

abbrev SyncTable (size : Nat) (Sem : Type) := Fin size → SyncRsp Sem
abbrev AsyncTable (size : Nat) (Cb : Type) := Fin size → AsyncRsp Cb

section Searches
variable {syncSize asyncSize : Nat} {Sem Cb : Type}

/-- The test `msg_id <= RPC_ID__Resp_Base || msg_id >= RPC_ID__Resp_Max`, negated. -/
def respMsgIdValid (msgId : UInt16) : Bool :=
  rpcIdRespBase < msgId.toNat && msgId.toNat < rpcIdRespMax

-- The loops compare uids and nothing else: a free slot is a match for uid 0.
def syncSlotOf (table : SyncTable syncSize Sem) (uid : UInt32) : Option (Fin syncSize) :=
  scan table fun slot => slot.uid == uid

def asyncSlotOf (table : AsyncTable asyncSize Cb) (uid : UInt32) : Option (Fin asyncSize) :=
  scan table fun slot => slot.uid == uid

def isAsyncRespCallbackAvailable (table : AsyncTable asyncSize Cb) (resp : CtrlCmd) : Int :=
  if respMsgIdValid resp.msgId then
    match asyncSlotOf table resp.uid with
    | some _ => callbackAvailable
    | none => callbackNotRegistered
  else msgIdOutOfOrder

/-- `.ok cb`: the pointer `cb` is called. -/
def callAsyncRespCallback (table : AsyncTable asyncSize Cb) (resp : CtrlCmd) :
    Except Int (Option Cb) :=
  if respMsgIdValid resp.msgId then
    match asyncSlotOf table resp.uid with
    | some index => .ok (table index).cb
    | none => .error callbackNotRegistered
  else .error msgIdOutOfOrder

-- The id is not tested again here, nor does the caller look at the result.
def clearAsyncRespCallback (table : AsyncTable asyncSize Cb) (resp : CtrlCmd) :
    AsyncTable asyncSize Cb :=
  match asyncSlotOf table resp.uid with
  | some index => Function.update table index { uid := 0, cb := none }
  | none => table

def isSyncRespSemAvailable (table : SyncTable syncSize Sem) (uid : UInt32) : Int :=
  match syncSlotOf table uid with
  | some _ => callbackAvailable
  | none => callbackNotRegistered

/-- `.ok sem`: the handle `sem` is posted. -/
def postSyncRespSem (table : SyncTable syncSize Sem) (resp : CtrlCmd) :
    Except Int (Option Sem) :=
  if respMsgIdValid resp.msgId then
    match syncSlotOf table resp.uid with
    | some index => .ok (table index).sem
    | none => .error callbackNotRegistered
  else .error msgIdOutOfOrder

def setAsyncRespCallback (table : AsyncTable asyncSize Cb) (msgId : UInt16) (uid : UInt32)
    (cb : Cb) : Except Int (AsyncTable asyncSize Cb) :=
  -- only the upper end of the response range is tested
  if expRespMsgId msgId ≥ rpcIdRespMax then .error msgIdOutOfOrder
  else match asyncSlotOf table 0 with
    | some index => .ok (Function.update table index { uid := uid, cb := some cb })
    | none => .error callbackNotRegistered

theorem syncSlotOf_uid {table : SyncTable syncSize Sem} {uid : UInt32} {index : Fin syncSize}
    (found : syncSlotOf table uid = some index) : (table index).uid = uid := by
  simpa using scan_passes found

theorem asyncSlotOf_uid {table : AsyncTable asyncSize Cb} {uid : UInt32}
    {index : Fin asyncSize} (found : asyncSlotOf table uid = some index) :
    (table index).uid = uid := by
  simpa using scan_passes found

theorem syncSlotOf_none {table : SyncTable syncSize Sem} {uid : UInt32} :
    syncSlotOf table uid = none ↔ ∀ index, (table index).uid ≠ uid := by
  simp [syncSlotOf, scan_none_iff]

theorem asyncSlotOf_none {table : AsyncTable asyncSize Cb} {uid : UInt32} :
    asyncSlotOf table uid = none ↔ ∀ index, (table index).uid ≠ uid := by
  simp [asyncSlotOf, scan_none_iff]

theorem syncSlotOf_unique {table : SyncTable syncSize Sem} {index : Fin syncSize}
    (only : ∀ other, (table other).uid = (table index).uid → other = index) :
    syncSlotOf table (table index).uid = some index :=
  scan_unique (by simp) fun other same => only other (by simpa using same)

theorem asyncSlotOf_unique {table : AsyncTable asyncSize Cb} {index : Fin asyncSize}
    (only : ∀ other, (table other).uid = (table index).uid → other = index) :
    asyncSlotOf table (table index).uid = some index :=
  scan_unique (by simp) fun other same => only other (by simpa using same)

end Searches

/-! The response branch of `process_rpc_rx_msg` as one call, with nothing else
running: what it calls, queues and posts, and the table it leaves. `queued` is
the result of the blocking put on `rpc_rx_q`. -/
section Routing
variable {syncSize asyncSize : Nat} {Sem Cb : Type}

inductive Effect (Sem Cb : Type) where
  | called (cb : Option Cb)
  | queued (resp : CtrlCmd)
  | posted (sem : Option Sem)
  deriving DecidableEq

def Effect.ofCall : Except Int (Option Cb) → List (Effect Sem Cb)
  | .ok cb => [.called cb]
  | .error _ => []

def Effect.ofPost : Except Int (Option Sem) → List (Effect Sem Cb)
  | .ok sem => [.posted sem]
  | .error _ => []

def processRpcRxMsg (async : AsyncTable asyncSize Cb) (sync : SyncTable syncSize Sem)
    (queued : Bool) (msg : Rpc) : List (Effect Sem Cb) × AsyncTable asyncSize Cb :=
  let resp := rpcParseRsp msg
  if isAsyncRespCallbackAvailable async resp = callbackAvailable then
    (Effect.ofCall (callAsyncRespCallback async resp), clearAsyncRespCallback async resp)
  -- the put comes before the question whether anybody waits for the uid
  else if queued then
    if isSyncRespSemAvailable sync resp.uid = callbackAvailable then
      (.queued resp :: Effect.ofPost (postSyncRespSem sync resp), async)
    else ([.queued resp], async)
  else ([], async)

/-- What a request leaves in a slot: a valid uid and a handle. -/
structure Registration (Handle : Type) where
  uid : UInt32
  handle : Handle
  valid : uid ≠ 0

/-- The C encoding of a table's content. -/
def syncSlots (content : Fin syncSize → Option (Registration Sem)) : SyncTable syncSize Sem :=
  fun index => match content index with
    | none => { uid := 0, sem := none }
    | some entry => { uid := entry.uid, sem := some entry.handle }

def asyncSlots (content : Fin asyncSize → Option (Registration Cb)) : AsyncTable asyncSize Cb :=
  fun index => match content index with
    | none => { uid := 0, cb := none }
    | some entry => { uid := entry.uid, cb := some entry.handle }

def Registered {Handle : Type} {size : Nat} (content : Fin size → Option (Registration Handle))
    (uid : UInt32) (handle : Handle) : Prop :=
  ∃ index entry, content index = some entry ∧ entry.uid = uid ∧ entry.handle = handle

def Outstanding {Handle : Type} {size : Nat} (content : Fin size → Option (Registration Handle))
    (uid : UInt32) : Prop := ∃ handle, Registered content uid handle

/-! The four ways through the response branch. The msg_id test is made by both
`is_async_resp_callback_available` and `post_sync_resp_sem`, so an id outside the
response range is queued for a synchronous requester and then told to nobody. -/

theorem process_out_of_range (async : AsyncTable asyncSize Cb) (sync : SyncTable syncSize Sem)
    (queued : Bool) (msg : Rpc) (outside : respMsgIdValid (rpcParseRsp msg).msgId = false) :
    (processRpcRxMsg async sync queued msg).1 =
      if queued then [.queued (rpcParseRsp msg)] else [] := by
  have missed : isAsyncRespCallbackAvailable async (rpcParseRsp msg) = msgIdOutOfOrder := by
    simp [isAsyncRespCallbackAvailable, outside]
  have unposted : postSyncRespSem sync (rpcParseRsp msg) = .error msgIdOutOfOrder := by
    simp [postSyncRespSem, outside]
  cases queued <;>
    simp [processRpcRxMsg, missed, unposted, msgIdOutOfOrder, callbackAvailable, Effect.ofPost]

theorem process_async (async : AsyncTable asyncSize Cb) (sync : SyncTable syncSize Sem)
    (queued : Bool) (msg : Rpc) (inside : respMsgIdValid (rpcParseRsp msg).msgId = true)
    {index : Fin asyncSize} (found : asyncSlotOf async msg.uid = some index) :
    (processRpcRxMsg async sync queued msg).1 = [.called (async index).cb] := by
  have found' : asyncSlotOf async (rpcParseRsp msg).uid = some index := found
  simp [processRpcRxMsg, isAsyncRespCallbackAvailable, callAsyncRespCallback, inside, found',
    Effect.ofCall]

theorem process_sync (async : AsyncTable asyncSize Cb) (sync : SyncTable syncSize Sem)
    (msg : Rpc) (inside : respMsgIdValid (rpcParseRsp msg).msgId = true)
    (missing : asyncSlotOf async msg.uid = none)
    {index : Fin syncSize} (found : syncSlotOf sync msg.uid = some index) :
    (processRpcRxMsg async sync true msg).1 =
      [.queued (rpcParseRsp msg), .posted (sync index).sem] := by
  have missing' : asyncSlotOf async (rpcParseRsp msg).uid = none := missing
  have found' : syncSlotOf sync (rpcParseRsp msg).uid = some index := found
  simp [processRpcRxMsg, isAsyncRespCallbackAvailable, isSyncRespSemAvailable, postSyncRespSem,
    inside, missing', found', Effect.ofPost, callbackNotRegistered, callbackAvailable]

theorem process_unmatched (async : AsyncTable asyncSize Cb) (sync : SyncTable syncSize Sem)
    (queued : Bool) (msg : Rpc) (missing : asyncSlotOf async msg.uid = none)
    (absent : queued = true → syncSlotOf sync msg.uid = none) :
    (processRpcRxMsg async sync queued msg).1 =
      if queued then [.queued (rpcParseRsp msg)] else [] := by
  have missing' : asyncSlotOf async (rpcParseRsp msg).uid = none := missing
  have unavailable : isAsyncRespCallbackAvailable async (rpcParseRsp msg) ≠ callbackAvailable := by
    simp only [isAsyncRespCallbackAvailable, missing']
    split <;> decide
  cases queued with
  | false => simp [processRpcRxMsg, unavailable]
  | true =>
      have absent' : syncSlotOf sync (rpcParseRsp msg).uid = none := absent rfl
      have unposted : isSyncRespSemAvailable sync (rpcParseRsp msg).uid ≠ callbackAvailable := by
        simp [isSyncRespSemAvailable, absent', callbackNotRegistered, callbackAvailable]
      simp [processRpcRxMsg, unavailable, unposted]

variable (pending : Fin asyncSize → Option (Registration Cb))
variable (waiting : Fin syncSize → Option (Registration Sem))

theorem asyncSlotOf_registered {uid : UInt32} (valid : uid ≠ 0) {index : Fin asyncSize}
    (found : asyncSlotOf (asyncSlots pending) uid = some index) :
    ∃ cb, (asyncSlots pending index).cb = some cb ∧ Registered pending uid cb := by
  have same := asyncSlotOf_uid found
  simp only [asyncSlots] at same ⊢
  cases entry : pending index with
  | none => simp [entry, Ne.symm valid] at same
  | some entry' => exact ⟨entry'.handle, rfl, index, entry', entry, by simpa [entry] using same, rfl⟩

theorem syncSlotOf_registered {uid : UInt32} (valid : uid ≠ 0) {index : Fin syncSize}
    (found : syncSlotOf (syncSlots waiting) uid = some index) :
    ∃ sem, (syncSlots waiting index).sem = some sem ∧ Registered waiting uid sem := by
  have same := syncSlotOf_uid found
  simp only [syncSlots] at same ⊢
  cases entry : waiting index with
  | none => simp [entry, Ne.symm valid] at same
  | some entry' => exact ⟨entry'.handle, rfl, index, entry', entry, by simpa [entry] using same, rfl⟩

theorem asyncSlotOf_isSome {uid : UInt32} (valid : uid ≠ 0) :
    (asyncSlotOf (asyncSlots pending) uid).isSome ↔ Outstanding pending uid := by
  constructor
  · intro some
    obtain ⟨index, found⟩ := Option.isSome_iff_exists.mp some
    obtain ⟨cb, -, registered⟩ := asyncSlotOf_registered pending valid found
    exact ⟨cb, registered⟩
  · rintro ⟨cb, index, entry, present, rfl, rfl⟩
    exact scan_isSome_iff.mpr ⟨index, by simp [asyncSlots, present]⟩

theorem syncSlotOf_isSome {uid : UInt32} (valid : uid ≠ 0) :
    (syncSlotOf (syncSlots waiting) uid).isSome ↔ Outstanding waiting uid := by
  constructor
  · intro some
    obtain ⟨index, found⟩ := Option.isSome_iff_exists.mp some
    obtain ⟨sem, -, registered⟩ := syncSlotOf_registered waiting valid found
    exact ⟨sem, registered⟩
  · rintro ⟨sem, index, entry, present, rfl, rfl⟩
    exact scan_isSome_iff.mpr ⟨index, by simp [syncSlots, present]⟩

/-- Someone is told about the message exactly when `told` holds, and whoever is
told had registered the uid with the handle that is used. -/
structure Routed (queued : Bool) (msg : Rpc) (told : Prop) : Prop where
  tells : (∃ cb, .called cb ∈ (processRpcRxMsg (asyncSlots pending) (syncSlots waiting) queued msg).1) ∨
      (∃ sem, .posted sem ∈ (processRpcRxMsg (asyncSlots pending) (syncSlots waiting) queued msg).1) ↔
    told
  calls : ∀ cb, .called cb ∈ (processRpcRxMsg (asyncSlots pending) (syncSlots waiting) queued msg).1 →
    ∃ handle, cb = some handle ∧ Registered pending msg.uid handle
  posts : ∀ sem, .posted sem ∈ (processRpcRxMsg (asyncSlots pending) (syncSlots waiting) queued msg).1 →
    ∃ handle, sem = some handle ∧ Registered waiting msg.uid handle

/-- For every content of the tables, a response with a valid uid reaches exactly
the request that registered it. A message whose id is outside the response range
is told to nobody; a failing put on `rpc_rx_q` tells no synchronous requester. -/
theorem response_routed (queued : Bool) (msg : Rpc) (valid : msg.uid ≠ 0) :
    Routed pending waiting queued msg
      (respMsgIdValid (rpcParseRsp msg).msgId = true ∧
        (Outstanding pending msg.uid ∨ queued = true ∧ Outstanding waiting msg.uid)) := by
  have asyncIff := asyncSlotOf_isSome pending valid
  have syncIff := syncSlotOf_isSome waiting valid
  cases inside : respMsgIdValid (rpcParseRsp msg).msgId with
  | false =>
      have nothing := process_out_of_range (asyncSlots pending) (syncSlots waiting) queued msg inside
      constructor <;> rw [nothing] <;> cases queued <;> simp
  | true =>
      cases found : asyncSlotOf (asyncSlots pending) msg.uid with
      | some index =>
          obtain ⟨cb, present, registered⟩ := asyncSlotOf_registered pending valid found
          have outstanding : Outstanding pending msg.uid := ⟨cb, registered⟩
          have called := process_async (asyncSlots pending) (syncSlots waiting) queued msg inside found
          rw [present] at called
          constructor <;> rw [called] <;> simp [outstanding, registered]
      | none =>
          have idle : ¬ Outstanding pending msg.uid := by simpa [found] using asyncIff
          by_cases waits : queued = true ∧ Outstanding waiting msg.uid
          · obtain ⟨rfl, outstanding⟩ := waits
            obtain ⟨index, located⟩ := Option.isSome_iff_exists.mp (syncIff.mpr outstanding)
            obtain ⟨sem, present, registered⟩ := syncSlotOf_registered waiting valid located
            have posted := process_sync (asyncSlots pending) (syncSlots waiting) msg inside found located
            rw [present] at posted
            constructor <;> rw [posted] <;> simp [outstanding, registered]
          -- nobody waits, or the put has failed and the second search is not made
          · have absent : queued = true → syncSlotOf (syncSlots waiting) msg.uid = none := by
              intro blocked
              have free : ¬ Outstanding waiting msg.uid := fun outstanding => waits ⟨blocked, outstanding⟩
              simpa using mt syncIff.mp free
            have nothing := process_unmatched (asyncSlots pending) (syncSlots waiting) queued msg found absent
            constructor <;> rw [nothing] <;> cases queued <;> simp_all

/-- One requester registered under uid 7, in a table of one slot. -/
def oneRegistered : Fin 1 → Option (Registration Unit) := fun _ => some ⟨7, (), by decide⟩

def allFree : Fin 1 → Option (Registration Unit) := fun _ => none

theorem response_routed_sync :
    Routed allFree oneRegistered true ⟨513, 7, 0⟩
      (respMsgIdValid (rpcParseRsp ⟨513, 7, 0⟩).msgId = true ∧
        (Outstanding allFree 7 ∨ true = true ∧ Outstanding oneRegistered 7)) :=
  response_routed allFree oneRegistered true ⟨513, 7, 0⟩ (by decide)

/-- A registered uid under an id outside the response range is told to nobody,
and uid 0 calls the NULL of a free slot. -/
theorem routing_by_uid_alone_fails :
    ¬ Routed oneRegistered allFree true ⟨700, 7, 0⟩
        (Outstanding oneRegistered 7 ∨ Outstanding allFree 7) ∧
      ¬ Routed allFree allFree true ⟨513, 0, 0⟩ (Outstanding allFree 0 ∨ Outstanding allFree 0) := by
  constructor
  · intro routed
    have told := routed.tells.mpr (Or.inl ⟨(), 0, _, rfl, rfl, rfl⟩)
    rw [process_out_of_range _ _ _ _ (by decide)] at told
    simp at told
  · intro routed
    obtain ⟨handle, same, -⟩ := routed.calls none (by decide)
    cases same

/-- A response with uid 0 is matched by the first free slot of the asynchronous
table, and the NULL callback stored there is called. -/
theorem uid_zero_calls_null (queued : Bool) (msg : Rpc) (zero : msg.uid = 0)
    (inside : respMsgIdValid (rpcParseRsp msg).msgId = true)
    (free : ∃ index, pending index = none) :
    (processRpcRxMsg (asyncSlots pending) (syncSlots waiting) queued msg).1 = [.called none] := by
  obtain ⟨index, empty⟩ := free
  have passes : ((asyncSlots pending index).uid == msg.uid) = true := by
    simp [asyncSlots, empty, zero]
  obtain ⟨hit, found⟩ : ∃ hit, asyncSlotOf (asyncSlots pending) msg.uid = some hit :=
    scan_some_of_passes passes
  rw [process_async _ _ queued msg inside found]
  have same := asyncSlotOf_uid found
  simp only [asyncSlots] at same ⊢
  cases entry : pending hit with
  | none => rfl
  | some registration => simp [entry, zero, registration.valid] at same

end Routing

end EspHosted.RpcTables

import EspHosted.GuardedRun
import EspHosted.RpcTables

/-!
The RPC core of the host as an interleaving of atomic steps. There is one
requester for every `ctrl_cmd_t` handed to `rpc_send_req`; it goes on to
`rpc_wait_and_parse_sync_resp` when the request is synchronous. Beside the
requesters run the `rpc_tx` thread (`process_rpc_tx_msg`), the `rpc_rx` thread
(the response branch of `process_rpc_rx_msg`) and the timer thread. Requests are
numbered by `Fin reqs` for an arbitrary `reqs`; a thread that issues several
requests is a run in which one requester starts after another has finished.

One queue or semaphore operation and one access to a global is one step. A function
on the response tables is one step, but `set_sync_resp_sem` creates the semaphore,
searches and stores in three, and `wait_for_sync_response` searches, waits and
releases the slot in three; `SlotSteps` takes these searches, stores and releases apart.
A semaphore, a timer and a registered callback belong to one request each and carry its
number.
-/

namespace EspHosted.RpcCore
open RpcTables GuardedRun

def rpcRxQueueSize : Nat := 3
def rpcTxQueueSize : Nat := 5

/-- The fields of the request that its caller fixes. A pointer is `true` when it
is not NULL. -/
structure ReqInfo where
  msgId : UInt16
  rpcRspCb : Bool
  appFreeBuffFunc : Bool
  appFreeBuffHdl : Bool
  deriving DecidableEq

/-- The three statements of `H_FREE_PTR_WITH_FUNC`. -/
inductive FreeHook where
  | test
  | call
  | clear
  deriving DecidableEq

/-- Where a requester stands. `uidInc`, `uidTest` and `uidCopy` split
`uid++; if (!uid) uid++; app_req->uid = uid` into its reads and writes. -/
inductive ReqPc (syncSize : Nat) where
  | start
  | uidInc (read : UInt32)
  | uidTest
  | uidReload
  | uidReinc (read : UInt32)
  | uidCopy
  | setSem
  | searchSlot
  | fillSlot (slot : Fin syncSize)
  | putTx
  | indTx
  | freeHook (part : FreeHook)
  | sent
  | findSlot
  | takeSem (slot : Fin syncSize)
  | clearSlot (slot : Fin syncSize) (taken : Bool)
  | dequeueRx
  | freeReq (resp : Option CtrlCmd)
  | returned (resp : Option CtrlCmd)
  | failReq
  | failHook (part : FreeHook)
  | failFree
  | failed
  deriving DecidableEq

inductive TxPc (reqs : Nat) where
  | getSem
  | dequeue
  | compose (req : Fin reqs)
  | setCb (req : Fin reqs)
  | startTimer (req : Fin reqs)
  | send (req : Fin reqs)
  | failResp (req : Fin reqs) (status : Int)
  | failCall (req : Fin reqs) (status : Int)
  | failPut (req : Fin reqs) (resp : CtrlCmd)
  | failTest (req : Fin reqs) (resp : CtrlCmd)
  | failPost (req : Fin reqs) (resp : CtrlCmd)
  | freeHook (req : Fin reqs) (part : FreeHook)
  | cleanup (req : Fin reqs)
  deriving DecidableEq

inductive RxPc where
  | idle
  | timerTest (resp : CtrlCmd)
  | timerStop (resp : CtrlCmd)
  | timerForget (resp : CtrlCmd)
  | asyncTest (resp : CtrlCmd)
  | asyncCall (resp : CtrlCmd)
  | asyncClear (resp : CtrlCmd)
  | putRx (resp : CtrlCmd)
  | semTest (resp : CtrlCmd)
  | semPost (resp : CtrlCmd)
  deriving DecidableEq

inductive SemSt where
  | absent
  | live (count : Nat)
  | destroyed
  deriving DecidableEq

inductive TimerSt where
  | absent
  | running
  | expired
  | deleted
  deriving DecidableEq

/-- Shared data of the RPC core. The last group is not in the source: it records
what happened (`woken`: requests whose semaphore was posted and that have not
dequeued since, oldest first). -/
structure State (reqs syncSize asyncSize : Nat) where
  uid : UInt32
  syncRspTable : SyncTable syncSize (Fin reqs)
  asyncRspTable : AsyncTable asyncSize (Fin reqs)
  rpcTxQ : List (Fin reqs)
  rpcRxQ : List CtrlCmd
  rpcTxSem : Nat
  asyncTimerHdl : Option (Fin reqs)
  pc : Fin reqs → ReqPc syncSize
  tx : TxPc reqs
  rx : RxPc
  reqUid : Fin reqs → UInt32
  freeBuffHdl : Fin reqs → Bool
  sem : Fin reqs → SemSt
  timer : Fin reqs → TimerSt
  woken : List (Fin reqs)
  calls : Fin reqs → List Int
  answered : Fin reqs → Bool
  reqFreed : Fin reqs → Bool
  touchedFreed : Fin reqs → Bool
  hookCalls : Fin reqs → Nat
  packedFreed : Fin reqs → Bool
  nullCalls : Nat
  nullPosts : Nat
  deadPosts : Nat

inductive ReqChoice where
  | go
  | putFails
  | timeout
  | semError
  deriving DecidableEq

/-- What may go wrong in `process_rpc_tx_msg`. -/
inductive TxFault where
  | compose (status : Int)
  | size
  | alloc
  | timer
  | transport
  | put
  deriving DecidableEq

inductive Act (reqs : Nat) where
  | req (req : Fin reqs) (choice : ReqChoice)
  | tx (fault : Option TxFault)
  | receive (msg : Rpc)
  | rx (queued : Bool)
  | expire (req : Fin reqs) (alloc : Bool)
  deriving DecidableEq

variable {reqs syncSize asyncSize : Nat} (info : Fin reqs → ReqInfo)

def init : State reqs syncSize asyncSize where
  uid := 0
  syncRspTable _ := { uid := 0, sem := none }
  asyncRspTable _ := { uid := 0, cb := none }
  rpcTxQ := []
  rpcRxQ := []
  rpcTxSem := 0
  asyncTimerHdl := none
  pc _ := .start
  tx := .getSem
  rx := .idle
  reqUid _ := 0
  freeBuffHdl req := (info req).appFreeBuffHdl
  sem _ := .absent
  timer _ := .absent
  woken := []
  calls _ := []
  answered _ := false
  reqFreed _ := false
  touchedFreed _ := false
  hookCalls _ := 0
  packedFreed _ := false
  nullCalls := 0
  nullPosts := 0
  deadPosts := 0

namespace State
variable (state : State reqs syncSize asyncSize)

def goto (req : Fin reqs) (pc : ReqPc syncSize) : State reqs syncSize asyncSize :=
  { state with pc := Function.update state.pc req pc }

def setSem (req : Fin reqs) (sem : SemSt) : State reqs syncSize asyncSize :=
  { state with sem := Function.update state.sem req sem }

def setSyncSlot (slot : Fin syncSize) (content : SyncRsp (Fin reqs)) :
    State reqs syncSize asyncSize :=
  { state with syncRspTable := Function.update state.syncRspTable slot content }

/-- An access to the request's `ctrl_cmd_t`. -/
def touch (req : Fin reqs) : State reqs syncSize asyncSize :=
  { state with touchedFreed :=
      Function.update state.touchedFreed req (state.touchedFreed req || state.reqFreed req) }

/-- `_h_post_semaphore` on a handle read from a slot. -/
def post : Option (Fin reqs) → State reqs syncSize asyncSize
  | none => { state with nullPosts := state.nullPosts + 1 }
  | some owner => match state.sem owner with
    | .live count =>
        { state with
          sem := Function.update state.sem owner (.live (count + 1))
          woken := state.woken ++ [owner] }
    | _ => { state with deadPosts := state.deadPosts + 1 }

/-- `_h_destroy_semaphore` on a handle. -/
def destroy : Option (Fin reqs) → State reqs syncSize asyncSize
  | none => state
  | some owner => match state.sem owner with
    | .absent => state
    | _ => state.setSem owner .destroyed

def callback (cb : Option (Fin reqs)) (status : Int) : State reqs syncSize asyncSize :=
  match cb with
  | none => { state with nullCalls := state.nullCalls + 1 }
  | some owner =>
      { state with calls := Function.update state.calls owner (state.calls owner ++ [status]) }

/-- `hosted_timer_stop`: a timer that is not running is not deleted. -/
def timerStop : Option (Fin reqs) → State reqs syncSize asyncSize
  | none => state
  | some owner => match state.timer owner with
    | .running => { state with timer := Function.update state.timer owner .deleted }
    | _ => state

end State

/-- One statement of `H_FREE_PTR_WITH_FUNC`; `none` after the last. The call reads
the pointer again. -/
def hookStep (req : Fin reqs) (state : State reqs syncSize asyncSize) :
    FreeHook → State reqs syncSize asyncSize × Option FreeHook
  | .test => (state, if (info req).appFreeBuffFunc && state.freeBuffHdl req then some .call else none)
  | .call =>
      let made := state.hookCalls req + if state.freeBuffHdl req then 1 else 0
      ({ state with hookCalls := Function.update state.hookCalls req made }, some .clear)
  | .clear => ({ state with freeBuffHdl := Function.update state.freeBuffHdl req false }, none)

def reqStep (req : Fin reqs) (choice : ReqChoice) (state : State reqs syncSize asyncSize) :
    Option (State reqs syncSize asyncSize) :=
  match state.pc req, choice with
  -- rpc_send_req: the uid
  | .start, .go => some (state.goto req (.uidInc state.uid))
  | .uidInc read, .go => some ({ state with uid := read + 1 }.goto req .uidTest)
  | .uidTest, .go => some (state.goto req (if state.uid = 0 then .uidReload else .uidCopy))
  | .uidReload, .go => some (state.goto req (.uidReinc state.uid))
  | .uidReinc read, .go => some ({ state with uid := read + 1 }.goto req .uidCopy)
  | .uidCopy, .go =>
      some ({ state with reqUid := Function.update state.reqUid req state.uid }.goto req
        (if (info req).rpcRspCb then .putTx else .setSem))
  -- set_sync_resp_sem
  | .setSem, .go =>
      if expRespMsgId (info req).msgId ≥ rpcIdRespMax then some (state.goto req .failReq)
      else some ((state.setSem req (.live 0)).goto req .searchSlot)
  | .searchSlot, .go =>
      match syncSlotOf state.syncRspTable 0 with
      | some slot => some (state.goto req (.fillSlot slot))
      | none => some (state.goto req .failReq)
  | .fillSlot slot, .go =>
      some ((state.setSyncSlot slot { uid := state.reqUid req, sem := some req }).goto req .putTx)
  -- the rest of rpc_send_req
  -- the put blocks while the queue is full; it may also fail
  | .putTx, .go =>
      if state.rpcTxQ.length < rpcTxQueueSize then
        some ({ state with rpcTxQ := state.rpcTxQ ++ [req] }.goto req .indTx)
      else none
  | .putTx, .putFails => some (state.goto req .failReq)
  | .indTx, .go =>
      some ({ state with rpcTxSem := state.rpcTxSem + 1 }.goto req (.freeHook .test))
  | .freeHook part, .go =>
      let hooked := hookStep info req state part
      some (hooked.1.goto req (hooked.2.elim .sent .freeHook))
  | .failReq, .go => some ((state.destroy (some req)).goto req (.failHook .test))
  | .failHook part, .go =>
      let hooked := hookStep info req state part
      some (hooked.1.goto req (hooked.2.elim .failFree .failHook))
  | .failFree, .go =>
      some ({ state with reqFreed := Function.update state.reqFreed req true }.goto req .failed)
  -- wait_for_sync_response
  | .sent, .go =>
      if (info req).rpcRspCb then none
      else if expRespMsgId (info req).msgId ≥ rpcIdRespMax then
        some (state.goto req (.freeReq none))
      else some (state.goto req .findSlot)
  | .findSlot, .go =>
      match syncSlotOf state.syncRspTable (state.reqUid req) with
      | some slot => some (state.goto req (.takeSem slot))
      | none => some (state.goto req (.freeReq none))
  -- the handle is read from the slot: it need not be the request's own
  | .takeSem slot, choice =>
      match (state.syncRspTable slot).sem.map fun owner => (owner, state.sem owner), choice with
      | some (owner, .live (count + 1)), .go =>
          some ((state.setSem owner (.live count)).goto req (.clearSlot slot true))
      | some (_, .live 0), .timeout => some (state.goto req (.clearSlot slot false))
      | none, .semError | some (_, .absent), .semError | some (_, .destroyed), .semError =>
          some (state.goto req (.clearSlot slot false))
      | _, _ => none
  | .clearSlot slot taken, .go =>
      -- and it is read again for the destroy
      let state := state.destroy (state.syncRspTable slot).sem
      some ((state.setSyncSlot slot { uid := 0, sem := none }).goto req
        (if taken then .dequeueRx else .freeReq none))
  -- get_response, rpc_wait_and_parse_sync_resp
  | .dequeueRx, .go =>
      match state.rpcRxQ with
      | [] => none
      | resp :: rest =>
          some ({ state with rpcRxQ := rest, woken := state.woken.erase req }.goto req
            (.freeReq (some resp)))
  | .freeReq resp, .go =>
      some ({ state with reqFreed := Function.update state.reqFreed req true }.goto req
        (.returned resp))
  | _, _ => none

/-- The response `process_rpc_tx_msg` makes up for a failed synchronous request.
It is `calloc`ed and its uid is never assigned. -/
def failedResp (msgId : UInt16) (status : Int) : CtrlCmd :=
  { msgId := UInt16.ofInt (expRespMsgId msgId), uid := 0, respEventStatus := status }

def txStep (fault : Option TxFault) (state : State reqs syncSize asyncSize) :
    Option (State reqs syncSize asyncSize) :=
  match state.tx, fault with
  -- rpc_tx_thread
  | .getSem, none =>
      if state.rpcTxSem = 0 then none
      else some { state with rpcTxSem := state.rpcTxSem - 1, tx := .dequeue }
  | .dequeue, none =>
      match state.rpcTxQ with
      | [] => none
      | req :: rest => some { state with rpcTxQ := rest, tx := .compose req }
  -- process_rpc_tx_msg: compose, packed size and allocation
  | .compose req, none =>
      some { state with tx := if (info req).rpcRspCb then .setCb req else .send req }
  | .compose req, some (.compose status) => some { state with tx := .failResp req status }
  | .compose req, some .size => some { state with tx := .failResp req rpcErrProtobufEncode }
  | .compose req, some .alloc => some { state with tx := .failResp req rpcErrMemoryFailure }
  | .setCb req, none =>
      match setAsyncRespCallback state.asyncRspTable (info req).msgId (state.reqUid req) req with
      | .ok table => some { state with asyncRspTable := table, tx := .startTimer req }
      | .error _ => some { state with tx := .failResp req rpcErrSetAsyncCb }
  | .startTimer req, none =>
      some { state with
        timer := Function.update state.timer req .running
        asyncTimerHdl := some req
        tx := .send req }
  -- failure_status is still 0 on this way to fail_req
  | .startTimer req, some .timer =>
      some { state with asyncTimerHdl := none, tx := .failResp req 0 }
  -- pack and transport_pserial_send
  | .send req, none =>
      some { state with
        packedFreed := Function.update state.packedFreed req
          (state.packedFreed req || decide (0 < state.hookCalls req))
        tx := .freeHook req .test }
  | .send req, some .transport =>
      some { state with
        packedFreed := Function.update state.packedFreed req
          (state.packedFreed req || decide (0 < state.hookCalls req))
        tx := .failResp req rpcErrTransportSend }
  -- fail_req
  | .failResp req status, none =>
      some { state with
        tx := if (info req).rpcRspCb then .failCall req status
          else .failPut req (failedResp (info req).msgId status) }
  -- fail_req2: nobody is told
  | .failResp req _, some .alloc => some { state with tx := .freeHook req .test }
  | .failCall req status, none =>
      some { state.callback (some req) status with tx := .freeHook req .test }
  | .failPut req resp, none =>
      if state.rpcRxQ.length < rpcRxQueueSize then
        some { state with rpcRxQ := state.rpcRxQ ++ [resp], tx := .failTest req resp }
      else none
  | .failPut req _, some .put => some { state with tx := .freeHook req .test }
  | .failTest req resp, none =>
      some { state with
        tx := if isSyncRespSemAvailable state.syncRspTable resp.uid = callbackAvailable then
          .failPost req resp else .freeHook req .test }
  | .failPost req resp, none =>
      match postSyncRespSem state.syncRspTable resp with
      | .ok sem => some { state.post sem with tx := .freeHook req .test }
      | .error _ => some { state with tx := .freeHook req .test }
  -- H_FREE_PTR_WITH_FUNC and RPC_FREE_BUFFS, on success and at fail_req2
  | .freeHook req part, none =>
      let hooked := hookStep info req state part
      some { hooked.1 with tx := hooked.2.elim (.cleanup req) (.freeHook req) }
  | .cleanup _, none => some { state with tx := .getSem }
  | _, _ => none

/-- The request whose `ctrl_cmd_t` the tx thread holds. -/
def TxPc.current : TxPc reqs → Option (Fin reqs)
  | .getSem | .dequeue => none
  | .compose req | .setCb req | .startTimer req | .send req | .failResp req _
  | .failCall req _ | .failPut req _ | .failTest req _ | .failPost req _
  | .freeHook req _ | .cleanup req => some req

/-- `app_req->uid` has been assigned. -/
def ReqPc.numbered : ReqPc syncSize → Bool
  | .start | .uidInc _ | .uidTest | .uidReload | .uidReinc _ | .uidCopy => false
  | _ => true

/-- The rx thread is done with `resp`; every request of that uid has had an answer. -/
def State.finish (state : State reqs syncSize asyncSize) (resp : CtrlCmd) :
    State reqs syncSize asyncSize :=
  { state with
    rx := .idle
    answered := fun req =>
      state.answered req || (state.pc req).numbered && state.reqUid req == resp.uid }

def rxStep (queued : Bool) (state : State reqs syncSize asyncSize) :
    Option (State reqs syncSize asyncSize) :=
  match state.rx with
  | .idle => none
  -- whose timer it is, nobody asks
  | .timerTest resp =>
      some { state with rx := if state.asyncTimerHdl.isSome then .timerStop resp else .asyncTest resp }
  | .timerStop resp => some { state.timerStop state.asyncTimerHdl with rx := .timerForget resp }
  | .timerForget resp => some { state with asyncTimerHdl := none, rx := .asyncTest resp }
  | .asyncTest resp =>
      some { state with
        rx := if isAsyncRespCallbackAvailable state.asyncRspTable resp = callbackAvailable then
          .asyncCall resp else .putRx resp }
  | .asyncCall resp =>
      match callAsyncRespCallback state.asyncRspTable resp with
      | .ok cb => some { state.callback cb resp.respEventStatus with rx := .asyncClear resp }
      | .error _ => some { state with rx := .asyncClear resp }
  | .asyncClear resp =>
      some ({ state with
        asyncRspTable := clearAsyncRespCallback state.asyncRspTable resp }.finish resp)
  -- HOSTED_BLOCK_MAX: with a full queue the rx thread waits here
  | .putRx resp =>
      if queued then
        if state.rpcRxQ.length < rpcRxQueueSize then
          some { state with rpcRxQ := state.rpcRxQ ++ [resp], rx := .semTest resp }
        else none
      else some (state.finish resp)
  | .semTest resp =>
      if isSyncRespSemAvailable state.syncRspTable resp.uid = callbackAvailable then
        some { state with rx := .semPost resp }
      else some (state.finish resp)
  | .semPost resp =>
      match postSyncRespSem state.syncRspTable resp with
      | .ok sem => some ((state.post sem).finish resp)
      | .error _ => some (state.finish resp)

/-- A one-shot soft timer runs out: `rpc_async_timeout_handler`. The handler stays
silent when its response cannot be allocated. -/
def expireStep (req : Fin reqs) (alloc : Bool) (state : State reqs syncSize asyncSize) :
    Option (State reqs syncSize asyncSize) :=
  match state.timer req with
  | .running =>
      let state := { state with timer := Function.update state.timer req .expired }
      some (if alloc then state.callback (some req) rpcErrRequestTimeout else state)
  | _ => none

/-- Every step of a requester, of `process_rpc_tx_msg` and of the timeout handler
counts as an access to the request it works on. -/
def step (state : State reqs syncSize asyncSize) : Act reqs → Option (State reqs syncSize asyncSize)
  | .req req choice => reqStep info req choice (state.touch req)
  | .tx fault => txStep info fault (state.tx.current.elim state state.touch)
  | .receive msg =>
      if state.rx = .idle then some { state with rx := .timerTest (rpcParseRsp msg) } else none
  | .rx queued => rxStep queued state
  | .expire req alloc => expireStep req alloc (state.touch req)

abbrev Reachable : State reqs syncSize asyncSize → Prop :=
  Run (step info) unguarded (init info)

/-- `count` statements of one requester. -/
def go (req : Fin reqs) (count : Nat) : List (Act reqs) := List.replicate count (.req req .go)

/-- One requester alone, and the two of a pair. -/
def sole : Fin 1 := 0
def former : Fin 2 := 0
def latter : Fin 2 := 1

/-- Synchronous requests with an ordinary message id and no application buffer. -/
def plain : Fin reqs → ReqInfo := fun _ =>
  { msgId := 257, rpcRspCb := false, appFreeBuffFunc := false, appFreeBuffHdl := false }

end EspHosted.RpcCore

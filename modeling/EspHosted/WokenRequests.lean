import EspHosted.SyncRspTable

/-!
What becomes of a synchronous request whose semaphore was posted, as long as the other
requests leave slots, semaphores and responses alone: its own steps take it through the rest
of `wait_for_sync_response` and `get_response` to the response at the head of `rpc_rx_q`,
whatever the tx thread, the rx thread and the timers do in between.
-/

namespace EspHosted.WokenRequests
open RpcTables RpcCore GuardedRun SyncRspTable

variable {reqs syncSize asyncSize : Nat} {info : Fin reqs → ReqInfo}
variable {before after state : State reqs syncSize asyncSize} {req : Fin reqs}
variable {queue : List CtrlCmd → Prop} {got : CtrlCmd → Prop}

/-- The next step stores or releases a slot, or takes a semaphore or a response. -/
def disturbs : ReqPc syncSize → Bool
  | .fillSlot _ | .takeSem _ | .clearSlot _ _ | .dequeueRx => true
  | _ => false

/-- No other request stores its slot, and none gets past its wait. -/
def Apart (req : Fin reqs) (state : State reqs syncSize asyncSize) : Act reqs → Prop
  | .req other _ => other = req ∨ disturbs (state.pc other) = false
  | .tx _ | .receive _ | .rx _ | .expire _ _ => True

/-- The requester is on its way to its semaphore, or waits on it. -/
def WaitsOn (state : State reqs syncSize asyncSize) (req : Fin reqs) : Prop :=
  match state.pc req with
  | .indTx | .freeHook _ | .sent | .findSlot => True
  | .takeSem slot => (state.syncRspTable slot).sem = some req
  | _ => False

/-- Its semaphore is posted, and the search for its uid leads there. -/
structure Posted (info : Fin reqs → ReqInfo) (state : State reqs syncSize asyncSize)
    (req : Fin reqs) : Prop where
  sync : (info req).rpcRspCb = false
  mapped : expRespMsgId (info req).msgId < rpcIdRespMax
  found : ∃ slot, syncSlotOf state.syncRspTable (state.reqUid req) = some slot ∧
    (state.syncRspTable slot).sem = some req
  live : ∃ count, state.sem req = .live (count + 1)

/-- Where a posted request comes by, up to the response it returns. -/
inductive Served (info : Fin reqs → ReqInfo) (queue : List CtrlCmd → Prop)
    (got : CtrlCmd → Prop) (state : State reqs syncSize asyncSize) (req : Fin reqs) : Prop where
  | waits (posted : Posted info state req) (waits : WaitsOn state req)
      (queued : queue state.rpcRxQ)
  | took (slot : Fin syncSize) (stands : state.pc req = .clearSlot slot true)
      (queued : queue state.rpcRxQ)
  | dequeues (stands : state.pc req = .dequeueRx) (queued : queue state.rpcRxQ)
  | has (resp : CtrlCmd) (stands : state.pc req = .freeReq (some resp)) (good : got resp)
  | returned (resp : CtrlCmd) (stands : state.pc req = .returned (some resp)) (good : got resp)

/-- The thread of the request returns a response of that status, whatever was done before by
others than the requests that it must be kept apart from. -/
def Receives (info : Fin reqs → ReqInfo) (state : State reqs syncSize asyncSize) (req : Fin reqs)
    (status : Int) : Prop :=
  ∀ later, Run (step info) (Apart req) state later →
    ∃ count final resp, exec (step info) later (go req count) = some final ∧
      final.pc req = .returned (some resp) ∧ resp.respEventStatus = status

/-- The response at the head has the status. -/
def Heads (status : Int) (queue : List CtrlCmd) : Prop :=
  ∃ resp, queue.head? = some resp ∧ resp.respEventStatus = status

/-- How many steps a requester has left at most. -/
def rank : ReqPc syncSize → Nat
  | .indTx => 10
  | .freeHook .test => 9
  | .freeHook .call => 8
  | .freeHook .clear => 7
  | .sent => 6
  | .findSlot => 5
  | .takeSem _ => 4
  | .clearSlot _ _ => 3
  | .dequeueRx => 2
  | .freeReq _ => 1
  | _ => 0

end EspHosted.WokenRequests

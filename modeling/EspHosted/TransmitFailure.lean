import EspHosted.WokenRequests

/-!
Where the response goes that `process_rpc_tx_msg` makes up for a synchronous
request it could not send. The response is routed by uid like a received one, but
its uid is never assigned, so the search looks for a free slot. A requester that is woken
all the same takes whatever is at the head of `rpc_rx_q`.
-/

namespace EspHosted.TransmitFailure
open RpcTables RpcCore GuardedRun SyncRspTable WokenRequests

variable {reqs syncSize asyncSize : Nat} {info : Fin reqs → ReqInfo}
variable {before after : State reqs syncSize asyncSize} {req : Fin reqs}

/-- On the failure path of `process_rpc_tx_msg` for a request. -/
def failing : TxPc reqs → Option (Fin reqs)
  | .failResp req _ | .failPut req _ | .failTest req _ | .failPost req _ => some req
  | _ => none

/-- The status the failed response carries, or is to carry. -/
def failureStatus : TxPc reqs → Option Int
  | .failResp _ status => some status
  | .failPut _ resp | .failTest _ resp | .failPost _ resp => some resp.respEventStatus
  | _ => none

/-- The step posts the semaphore of `req` and nothing else. -/
structure Wakes (before after : State reqs syncSize asyncSize) (req : Fin reqs) : Prop where
  posted : after.woken = before.woken ++ [req]
  others : ∀ other, other ≠ req → after.sem other = before.sem other
  noNull : after.nullPosts = before.nullPosts

/-- The step wakes the thread of `req`, which waits for it, and nobody else, and that thread
receives the failure status. -/
structure Reaches (info : Fin reqs → ReqInfo) (before after : State reqs syncSize asyncSize)
    (req : Fin reqs) : Prop where
  wakes : Wakes before after req
  waits : WaitsOn before req
  receives : ∀ status, failureStatus before.tx = some status → Receives info after req status

/-- A request that waits in slot 0 of two; its message cannot be composed, and the
made-up response has been queued and matched. -/
def composeFails : List (Act 1) :=
  go sole 12 ++ [.tx none, .tx none, .tx (some (.compose 5)), .tx none, .tx none, .tx none]

end EspHosted.TransmitFailure

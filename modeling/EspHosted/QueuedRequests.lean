import EspHosted.RpcSteps

/-!
Which requests the tx thread can have its hands on. A request is on `rpc_tx_q` at
most once, only after its put has succeeded, and not while the tx thread works on
it. Timers belong to asynchronous requests that the tx thread has worked on.
-/

namespace EspHosted.QueuedRequests
open RpcTables RpcCore GuardedRun

variable {reqs syncSize asyncSize : Nat} {info : Fin reqs → ReqInfo}
variable {before after : State reqs syncSize asyncSize} {req : Fin reqs}

/-- The tx thread is between composing an asynchronous request and sending it. -/
def timing : TxPc reqs → Option (Fin reqs)
  | .setCb req | .startTimer req => some req
  | _ => none

structure QueueInv (info : Fin reqs → ReqInfo) (state : State reqs syncSize asyncSize) : Prop where
  kind : ∀ req, (state.pc req).syncOnly = true → (info req).rpcRspCb = false
  members : ∀ req ∈ state.rpcTxQ, (state.pc req).queued = true
  nodup : state.rpcTxQ.Nodup
  current : ∀ req, state.tx.current = some req → (state.pc req).queued = true ∧ req ∉ state.rpcTxQ
  timing : ∀ req, timing state.tx = some req → (info req).rpcRspCb = true
  timed : ∀ req, state.timer req ≠ .absent →
    (info req).rpcRspCb = true ∧ (state.pc req).queued = true

theorem queueInv_init : QueueInv info (init info : State reqs syncSize asyncSize) := by
  constructor <;> simp [init, TxPc.current, timing, ReqPc.syncOnly]

theorem quiet_kind {info : ReqInfo} {table : SyncTable syncSize (Fin reqs)} {uid : UInt32}
    {here next : ReqPc syncSize} (edge : Quiet info table uid here next)
    (kind : here.syncOnly = true → info.rpcRspCb = false) (only : next.syncOnly = true) :
    info.rpcRspCb = false := by
  cases edge <;> simp_all [ReqPc.syncOnly]

theorem quiet_queued {info : ReqInfo} {table : SyncTable syncSize (Fin reqs)} {uid : UInt32}
    {here next : ReqPc syncSize} (edge : Quiet info table uid here next)
    (queued : here.queued = true) : next.queued = true := by
  cases edge <;> simp_all [ReqPc.queued]

/-- What a requester does to the queue: nothing, or its own put. -/
structure ReqQueue (info : Fin reqs → ReqInfo) (req : Fin reqs)
    (before after : State reqs syncSize asyncSize) : Prop where
  kind : ((before.pc req).syncOnly = true → (info req).rpcRspCb = false) →
    (after.pc req).syncOnly = true → (info req).rpcRspCb = false
  queued : (before.pc req).queued = true → (after.pc req).queued = true
  queue : after.rpcTxQ = before.rpcTxQ ∨ before.pc req = .putTx ∧ after.pc req = .indTx ∧
    after.rpcTxQ = before.rpcTxQ ++ [req]
  timer : after.timer = before.timer

theorem req_queue {choice : ReqChoice} (move : ReqMove info req before after choice) :
    ReqQueue info req before after := by
  cases move with
  | quiet next edge effect =>
      have pc : after.pc req = next := by simp [effect.pc, State.goto]
      refine ⟨?_, ?_, Or.inl effect.rpcTxQ, effect.timer⟩
      · rw [pc]
        exact quiet_kind edge
      · rw [pc]
        exact quiet_queued edge
  | put stands effect =>
      have pc : after.pc req = .indTx := by simp [effect.pc, State.goto]
      refine ⟨?_, ?_, Or.inr ⟨stands, pc, effect.rpcTxQ⟩, effect.timer⟩
      · simp [pc, ReqPc.syncOnly]
      · simp [pc, ReqPc.queued]
  | copyUid stands effect =>
      refine ⟨?_, ?_, Or.inl effect.rpcTxQ, effect.timer⟩
      · cases kind : (info req).rpcRspCb <;> simp [effect.pc, State.goto, kind, ReqPc.syncOnly]
      · simp [stands, ReqPc.queued]
  | clear slot taken stands effect =>
      refine ⟨fun kind _ => kind (by simp [stands, ReqPc.syncOnly]), ?_, Or.inl effect.rpcTxQ,
        effect.timer⟩
      cases taken <;> simp [effect.pc, State.goto, ReqPc.queued]
  | putFails stands _ effect | abandon stands effect =>
      refine ⟨?_, ?_, Or.inl effect.rpcTxQ, effect.timer⟩
      · simp [effect.pc, State.goto, ReqPc.syncOnly]
      · simp [stands, ReqPc.queued]
  | createSem stands _ effect | fill _ stands effect =>
      refine ⟨fun kind _ => kind (by simp [stands, ReqPc.syncOnly]), ?_, Or.inl effect.rpcTxQ,
        effect.timer⟩
      simp [stands, ReqPc.queued]
  | take _ _ _ stands _ _ effect | giveUp _ stands _ effect | dequeue _ _ stands _ _ effect =>
      refine ⟨fun kind _ => kind (by simp [stands, ReqPc.syncOnly]), ?_, Or.inl effect.rpcTxQ,
        effect.timer⟩
      simp [effect.pc, State.goto, ReqPc.queued]

theorem queueInv_req {choice : ReqChoice} (inv : QueueInv info before)
    (move : ReqMove info req before after choice) : QueueInv info after := by
  have own := req_queue move
  have tx := (req_tx_rx move).1
  have queued : ∀ other, (before.pc other).queued = true → (after.pc other).queued = true := by
    intro other here
    by_cases moved : other = req
    · subst other
      exact own.queued here
    · rw [pc_other move moved]
      exact here
  constructor
  case kind =>
    intro other
    by_cases moved : other = req
    · subst other
      exact own.kind (inv.kind req)
    · rw [pc_other move moved]
      exact inv.kind other
  case members =>
    intro other member
    rcases own.queue with same | ⟨-, here, longer⟩
    · exact queued other (inv.members other (same ▸ member))
    · rw [longer] at member
      rcases List.mem_append.mp member with old | new
      · exact queued other (inv.members other old)
      · have is : other = req := by simpa using new
        rw [is, here]
        rfl
  case nodup =>
    rcases own.queue with same | ⟨stands, -, longer⟩
    · rw [same]
      exact inv.nodup
    · rw [longer]
      refine List.nodup_append.mpr ⟨inv.nodup, by simp, ?_⟩
      -- a request on the queue is past its put, so it is not put a second time
      rintro other member last new rfl
      have is : other = req := by simpa using new
      subst other
      have here := inv.members req member
      simp [stands, ReqPc.queued] at here
  case current =>
    intro other held
    rw [tx] at held
    obtain ⟨here, absent⟩ := inv.current other held
    -- the request in the hands of the tx thread is past its put as well
    refine ⟨queued other here, ?_⟩
    rcases own.queue with same | ⟨stands, -, longer⟩
    · rw [same]
      exact absent
    · rw [longer]
      intro member
      rcases List.mem_append.mp member with old | new
      · exact absent old
      · have is : other = req := by simpa using new
        rw [is, stands] at here
        simp [ReqPc.queued] at here
  case timing =>
    rw [tx]
    exact inv.timing
  case timed =>
    intro other started
    rw [own.timer] at started
    obtain ⟨async, here⟩ := inv.timed other started
    exact ⟨async, queued other here⟩

theorem txQuiet_current {here next : TxPc reqs} (edge : TxQuiet info here next)
    (held : next.current = some req) : here.current = some req := by
  cases edge <;> simp_all [TxPc.current]

theorem txQuiet_timing {here next : TxPc reqs} (edge : TxQuiet info here next)
    (held : timing next = some req) : (info req).rpcRspCb = true := by
  cases edge <;> simp_all [timing]

/-- The tx thread turns to another statement about the same request. -/
theorem QueueInv.turn (inv : QueueInv info before) (pc : after.pc = before.pc)
    (queue : after.rpcTxQ = before.rpcTxQ) (timer : after.timer = before.timer)
    (current : ∀ req, after.tx.current = some req → before.tx.current = some req)
    (async : ∀ req, QueuedRequests.timing after.tx = some req → (info req).rpcRspCb = true) :
    QueueInv info after where
  kind := by
    rw [pc]
    exact inv.kind
  members := by
    rw [pc, queue]
    exact inv.members
  nodup := by
    rw [queue]
    exact inv.nodup
  current req held := by
    rw [pc, queue]
    exact inv.current req (current req held)
  timing := async
  timed := by
    rw [pc, timer]
    exact inv.timed

theorem queueInv_tx {fault : Option TxFault} (inv : QueueInv info before)
    (move : TxMove info before after fault) : QueueInv info after := by
  cases move with
  | quiet next edge effect =>
      apply inv.turn effect.pc effect.rpcTxQ effect.timer
      · rw [effect.tx]
        exact fun _ => txQuiet_current edge
      · rw [effect.tx]
        exact fun _ => txQuiet_timing edge
  | pop req rest stands queue effect =>
      have member : req ∈ before.rpcTxQ := by simp [queue]
      have nodup := inv.nodup
      rw [queue] at nodup
      constructor
      case kind =>
        rw [effect.pc]
        exact inv.kind
      case members =>
        rw [effect.pc, effect.rpcTxQ]
        intro other later
        exact inv.members other (queue ▸ List.mem_cons_of_mem req later)
      case nodup =>
        rw [effect.rpcTxQ]
        exact (List.nodup_cons.mp nodup).2
      case current =>
        rw [effect.pc, effect.rpcTxQ, effect.tx]
        intro other held
        have is : req = other := by simpa [TxPc.current] using held
        subst other
        exact ⟨inv.members req member, (List.nodup_cons.mp nodup).1⟩
      case timing => simp [effect.tx, QueuedRequests.timing]
      case timed =>
        rw [effect.pc, effect.timer]
        exact inv.timed
  | startTimer req stands sound effect =>
      have async := inv.timing req (by simp [stands, QueuedRequests.timing])
      have queued := (inv.current req (by simp [stands, TxPc.current])).1
      constructor
      case kind =>
        rw [effect.pc]
        exact inv.kind
      case members =>
        rw [effect.pc, effect.rpcTxQ]
        exact inv.members
      case nodup =>
        rw [effect.rpcTxQ]
        exact inv.nodup
      case current =>
        rw [effect.pc, effect.rpcTxQ, effect.tx]
        intro other held
        exact inv.current other (by simpa [stands, TxPc.current] using held)
      case timing => simp [effect.tx, QueuedRequests.timing]
      case timed =>
        rw [effect.pc, effect.timer]
        intro other started
        by_cases same : other = req
        · subst other
          exact ⟨async, queued⟩
        · exact inv.timed other (by simpa [same] using started)
  | register req index stands mapped free effect =>
      apply inv.turn effect.pc effect.rpcTxQ effect.timer
      · simp [effect.tx, stands, TxPc.current]
      · intro other held
        exact inv.timing other (by simpa [effect.tx, stands, QueuedRequests.timing] using held)
  | hook req part stands effect =>
      apply inv.turn effect.pc effect.rpcTxQ effect.timer
      · rw [effect.tx]
        generalize (hookStep info req before part).2 = next
        cases next <;> simp [stands, TxPc.current]
      · rw [effect.tx]
        generalize (hookStep info req before part).2 = next
        cases next <;> simp [QueuedRequests.timing]
  | timerFails req stands _ effect | pack req stands _ effect | sendFails req stands _ effect
  | call req _ stands effect | queue req _ stands _ _ effect | post req _ _ stands _ _ effect =>
      apply inv.turn effect.pc effect.rpcTxQ effect.timer
      · simp [effect.tx, stands, TxPc.current]
      · simp [effect.tx, QueuedRequests.timing]

theorem timerStop_started {state : State reqs syncSize asyncSize} {handle : Option (Fin reqs)}
    (started : (state.timerStop handle).timer req ≠ .absent) : state.timer req ≠ .absent := by
  cases handle with
  | none => exact started
  | some owner =>
      by_cases same : req = owner
      · subst owner
        intro absent
        simp [State.timerStop, absent] at started
      · cases stands : state.timer owner <;> simpa [State.timerStop, stands, same] using started

theorem timerStop_running {state : State reqs syncSize asyncSize} {handle : Option (Fin reqs)}
    (running : (state.timerStop handle).timer req = .running) : state.timer req = .running := by
  cases handle with
  | none => exact running
  | some owner =>
      cases stands : state.timer owner with
      | running =>
          by_cases same : req = owner
          · exact same ▸ stands
          · simpa [State.timerStop, stands, same] using running
      | absent | expired | deleted => simpa [State.timerStop, stands] using running

/-- The rx thread and the timer thread move no requester and leave the tx queue alone. -/
theorem QueueInv.elsewhere (inv : QueueInv info before) (pc : after.pc = before.pc)
    (queue : after.rpcTxQ = before.rpcTxQ) (tx : after.tx = before.tx)
    (timer : ∀ req, after.timer req ≠ .absent → before.timer req ≠ .absent) : QueueInv info after where
  kind := by
    rw [pc]
    exact inv.kind
  members := by
    rw [pc, queue]
    exact inv.members
  nodup := by
    rw [queue]
    exact inv.nodup
  current := by
    rw [pc, queue, tx]
    exact inv.current
  timing := by
    rw [tx]
    exact inv.timing
  timed req started := by
    rw [pc]
    exact inv.timed req (timer req started)

theorem queueInv_rx {queued : Bool} (inv : QueueInv info before)
    (move : RxMove before after queued) : QueueInv info after := by
  cases move with
  | stopTimer resp stands effect =>
      apply inv.elsewhere effect.pc effect.rpcTxQ effect.tx
      rw [effect.timer]
      exact fun req => timerStop_started
  | quiet _ _ effect | forgetTimer _ _ effect | call _ _ _ _ effect | clear _ _ effect
  | queue _ _ _ _ effect | drop _ _ effect | unmatched _ _ _ effect | post _ _ _ _ _ effect
  | unposted _ _ _ effect =>
      apply inv.elsewhere effect.pc effect.rpcTxQ effect.tx
      rw [effect.timer]
      exact fun req started => started

theorem queueInv_step {act : Act reqs} (inv : QueueInv info before)
    (move : Move info before after act) : QueueInv info after := by
  cases move with
  | req req choice move => exact queueInv_req inv move
  | tx fault move => exact queueInv_tx inv move
  | rx queued move => exact queueInv_rx inv move
  | receive msg stands effect =>
      apply inv.elsewhere effect.pc effect.rpcTxQ effect.tx
      rw [effect.timer]
      exact fun req started => started
  | expire req alloc stands effect =>
      apply inv.elsewhere effect.pc effect.rpcTxQ effect.tx
      rw [effect.timer]
      intro other started
      by_cases same : other = req
      · rw [same, stands]
        simp
      · simpa [same] using started

theorem queueInv_run (reached : Reachable info after) : QueueInv info after :=
  reached.invariant queueInv_init fun _ _ _ _ inv _ taken => queueInv_step inv (step_move taken)

end EspHosted.QueuedRequests

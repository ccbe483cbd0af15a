import EspHosted.QueuedRequests

/-!
The callback of an asynchronous request. Four things end such a request: its
response, its timeout, a failed registration and a failure to send. Only the first
and the third leave no slot of `async_rsp_table` and no timer behind, and the first
only if the one global timer handle is that of the request.
-/

namespace EspHosted.AsyncRequests
open RpcTables RpcCore GuardedRun QueuedRequests

variable {reqs syncSize asyncSize : Nat} {info : Fin reqs → ReqInfo}
variable {before after : State reqs syncSize asyncSize} {req : Fin reqs}

/-- The request whose callback has not been registered yet, or could not be. -/
def beforeCb : TxPc reqs → Option (Fin reqs)
  | .compose req | .setCb req | .failResp req _ | .failCall req _ => some req
  | _ => none

def starting : TxPc reqs → Option (Fin reqs)
  | .startTimer req => some req
  | _ => none

def calling : TxPc reqs → Option (Fin reqs)
  | .failCall req _ => some req
  | _ => none

/-- The uid whose slot the rx thread clears next, having called its callback. -/
def clearing : RxPc → Option UInt32
  | .asyncClear resp => some resp.uid
  | _ => none

def Unregistered (info : Fin reqs → ReqInfo) (state : State reqs syncSize asyncSize)
    (req : Fin reqs) : Prop :=
  (info req).rpcRspCb = false ∨ (state.pc req).queued = false ∨ req ∈ state.rpcTxQ ∨
    beforeCb state.tx = some req

/-- Neither slot nor timer, and nobody has called the callback. -/
structure Pristine (state : State reqs syncSize asyncSize) (req : Fin reqs) : Prop where
  calls : state.calls req = []
  timer : state.timer req = .absent
  slot : ∀ slot, (state.asyncRspTable slot).cb ≠ some req

/-- A slot is free or carries a callback under the uid of its request, and that uid alone. -/
structure SlotsOk (table : AsyncTable asyncSize (Fin reqs)) (reqUid : Fin reqs → UInt32) : Prop where
  free : ∀ slot, (table slot).uid = 0 ↔ (table slot).cb = none
  distinct : ∀ slot other, (table slot).uid = (table other).uid → (table slot).uid ≠ 0 → slot = other
  owner : ∀ slot req, (table slot).cb = some req → (table slot).uid = reqUid req

theorem SlotsOk.register {table : AsyncTable asyncSize (Fin reqs)} {reqUid : Fin reqs → UInt32}
    (ok : SlotsOk table reqUid) (index : Fin asyncSize) (valid : reqUid req ≠ 0)
    (fresh : ∀ slot, (table slot).uid ≠ reqUid req) :
    SlotsOk (Function.update table index { uid := reqUid req, cb := some req }) reqUid where
  free slot := by
    by_cases same : slot = index
    · simp [same, valid]
    · simpa [same] using ok.free slot
  distinct slot other uids valid := by
    by_cases same : slot = index <;> by_cases alike : other = index
    · rw [same, alike]
    · exact absurd (by simpa [same, alike] using uids.symm) (fresh other)
    · exact absurd (by simpa [same, alike] using uids) (fresh slot)
    · exact ok.distinct slot other (by simpa [same, alike] using uids) (by simpa [same] using valid)
  owner slot holder held := by
    by_cases same : slot = index
    · have is : req = holder := by simpa [same] using held
      simp [same, is]
    · simpa [same] using ok.owner slot holder (by simpa [same] using held)

theorem clearAsyncRespCallback_cases (table : AsyncTable asyncSize (Fin reqs)) (resp : CtrlCmd)
    (slot : Fin asyncSize) :
    clearAsyncRespCallback table resp slot = { uid := 0, cb := none } ∨
      clearAsyncRespCallback table resp slot = table slot ∧
        asyncSlotOf table resp.uid ≠ some slot := by
  unfold clearAsyncRespCallback
  cases found : asyncSlotOf table resp.uid with
  | none => exact Or.inr ⟨rfl, by simp⟩
  | some index =>
      by_cases same : slot = index
      · exact Or.inl (by simp [same])
      · exact Or.inr ⟨by simp [same], by simpa [eq_comm] using same⟩

/-- What is still in the table after a clear was there before, and the search for the
uid of the response does not stop at it. -/
theorem clear_kept {table : AsyncTable asyncSize (Fin reqs)} {resp : CtrlCmd} {slot : Fin asyncSize}
    (held : (clearAsyncRespCallback table resp slot).cb = some req) :
    clearAsyncRespCallback table resp slot = table slot ∧ asyncSlotOf table resp.uid ≠ some slot := by
  rcases clearAsyncRespCallback_cases table resp slot with cleared | kept
  · rw [cleared] at held
    cases held
  · exact kept

theorem SlotsOk.clear {table : AsyncTable asyncSize (Fin reqs)} {reqUid : Fin reqs → UInt32}
    (ok : SlotsOk table reqUid) (resp : CtrlCmd) :
    SlotsOk (clearAsyncRespCallback table resp) reqUid where
  free slot := by
    rcases clearAsyncRespCallback_cases table resp slot with cleared | ⟨kept, -⟩
    · simp [cleared]
    · rw [kept]
      exact ok.free slot
  distinct slot other uids valid := by
    rcases clearAsyncRespCallback_cases table resp slot with cleared | ⟨mine, -⟩
    · simp [cleared] at valid
    · rcases clearAsyncRespCallback_cases table resp other with cleared | ⟨its, -⟩
      · rw [uids, cleared] at valid
        exact absurd rfl valid
      · rw [mine, its] at uids
        rw [mine] at valid
        exact ok.distinct slot other uids valid
  owner slot holder held := by
    have same := (clear_kept held).1
    rw [same] at held ⊢
    exact ok.owner slot holder held

structure AsyncInv (info : Fin reqs → ReqInfo) (state : State reqs syncSize asyncSize) : Prop where
  slots : SlotsOk state.asyncRspTable state.reqUid
  uncalled : ∀ slot req, (state.asyncRspTable slot).cb = some req →
    state.calls req = [] ∨ clearing state.rx = some (state.asyncRspTable slot).uid
  told : ∀ req, state.calls req ≠ [] → (state.calls req).length = 1 ∧ state.timer req ≠ .running
  pristine : ∀ req, Unregistered info state req → Pristine state req
  starts : ∀ req, starting state.tx = some req →
    state.calls req = [] ∧ state.timer req = .absent
  calls : ∀ req, calling state.tx = some req → (info req).rpcRspCb = true

theorem asyncInv_init : AsyncInv info (init info : State reqs syncSize asyncSize) := by
  constructor <;> simp [init, starting, calling]
  · constructor <;> simp
  · intro req _
    exact ⟨rfl, rfl, by simp⟩

theorem AsyncInv.held_registered (inv : AsyncInv info before) {slot : Fin asyncSize}
    (held : (before.asyncRspTable slot).cb = some req) : ¬ Unregistered info before req :=
  fun unregistered => (inv.pristine req unregistered).slot slot held

/-- No timer is started. -/
structure Wanes (before after : State reqs syncSize asyncSize) : Prop where
  absent : ∀ req, before.timer req = .absent → after.timer req = .absent
  running : ∀ req, after.timer req = .running → before.timer req = .running

theorem Wanes.same (same : after.timer = before.timer) : Wanes before after where
  absent := by
    rw [same]
    exact fun _ => id
  running := by
    rw [same]
    exact fun _ => id

/-- A step that registers nothing, calls nothing and clears nothing. -/
structure AsyncKept (info : Fin reqs → ReqInfo) (before after : State reqs syncSize asyncSize) :
    Prop where
  table : after.asyncRspTable = before.asyncRspTable
  calls : after.calls = before.calls
  timer : Wanes before after
  uids : ∀ req, Unregistered info before req ∨ after.reqUid req = before.reqUid req
  unregistered : ∀ req, Unregistered info after req → Unregistered info before req
  starts : ∀ req, starting after.tx = some req → starting before.tx = some req
  reports : ∀ req, calling after.tx = some req → (info req).rpcRspCb = true
  clears : ∀ uid, clearing before.rx = some uid → clearing after.rx = some uid

theorem asyncInv_kept (inv : AsyncInv info before) (kept : AsyncKept info before after) :
    AsyncInv info after where
  slots := by
    rw [kept.table]
    refine ⟨inv.slots.free, inv.slots.distinct, fun slot holder held => ?_⟩
    rcases kept.uids holder with unregistered | same
    · exact absurd unregistered (inv.held_registered held)
    · rw [same]
      exact inv.slots.owner slot holder held
  uncalled slot holder held := by
    rw [kept.table] at held ⊢
    rw [kept.calls]
    exact (inv.uncalled slot holder held).imp_right (kept.clears _)
  told holder called := by
    rw [kept.calls] at called ⊢
    obtain ⟨once, still⟩ := inv.told holder called
    exact ⟨once, mt (kept.timer.running holder) still⟩
  pristine holder unregistered := by
    obtain ⟨calls, timer, slot⟩ := inv.pristine holder (kept.unregistered holder unregistered)
    exact ⟨by rw [kept.calls, calls], kept.timer.absent holder timer, by rw [kept.table]; exact slot⟩
  starts holder now := by
    obtain ⟨calls, timer⟩ := inv.starts holder (kept.starts holder now)
    exact ⟨by rw [kept.calls, calls], kept.timer.absent holder timer⟩
  calls := kept.reports

theorem kept_req {choice : ReqChoice} (inv : AsyncInv info before)
    (move : ReqMove info req before after choice) : AsyncKept info before after := by
  obtain ⟨tx, rx⟩ := req_tx_rx move
  have queue := req_queue move
  have table : after.asyncRspTable = before.asyncRspTable ∧ after.calls = before.calls := by
    cases move with
    | quiet _ _ effect | putFails _ _ effect | put _ effect | copyUid _ effect
    | createSem _ _ effect | fill _ _ effect | take _ _ _ _ _ _ effect | giveUp _ _ _ effect
    | clear _ _ _ effect | dequeue _ _ _ _ _ effect | abandon _ effect =>
        exact ⟨effect.asyncRspTable, effect.calls⟩
  constructor
  case table => exact table.1
  case calls => exact table.2
  case timer => exact .same queue.timer
  case uids =>
    intro other
    by_cases moved : other = req
    · subst other
      -- the uid changes only before the put, when there is no slot yet
      cases numbered : (before.pc req).numbered with
      | true => exact Or.inr (by rw [(numbered_move move numbered).2])
      | false =>
          refine Or.inl (Or.inr (Or.inl ?_))
          generalize before.pc req = here at numbered
          cases here <;> simp_all [ReqPc.numbered, ReqPc.queued]
    · exact Or.inr (reqUid_other move moved)
  case unregistered =>
    intro other unregistered
    by_cases moved : other = req
    · subst other
      rcases unregistered with sync | fresh | waiting | composing
      · exact Or.inl sync
      · refine Or.inr (Or.inl ?_)
        cases queued : (before.pc req).queued with
        | false => rfl
        | true =>
            rw [queue.queued queued] at fresh
            cases fresh
      · rcases queue.queue with same | ⟨stands, -, -⟩
        · exact Or.inr (Or.inr (Or.inl (same ▸ waiting)))
        · exact Or.inr (Or.inl (by simp [stands, ReqPc.queued]))
      · exact Or.inr (Or.inr (Or.inr (tx ▸ composing)))
    · rcases unregistered with sync | fresh | waiting | composing
      · exact Or.inl sync
      · exact Or.inr (Or.inl (by rw [← pc_other move moved]; exact fresh))
      · rcases queue.queue with same | ⟨-, -, longer⟩
        · exact Or.inr (Or.inr (Or.inl (same ▸ waiting)))
        · rw [longer] at waiting
          exact Or.inr (Or.inr (Or.inl (by simpa [moved] using waiting)))
      · exact Or.inr (Or.inr (Or.inr (tx ▸ composing)))
  case starts =>
    rw [tx]
    exact fun _ => id
  case reports =>
    rw [tx]
    exact inv.calls
  case clears =>
    rw [rx]
    exact fun _ => id

/-- The response whose callback the rx thread calls next. -/
def answering : RxPc → Option CtrlCmd
  | .asyncCall resp => some resp
  | _ => none

/-- No asynchronous request fails once its callback is registered, no timeout is
reported, a response comes while the request's own timer is started but no longer
running, and a callback is registered under a valid uid that no slot has. -/
def Orderly (info : Fin reqs → ReqInfo) (state : State reqs syncSize asyncSize) : Act reqs → Prop
  | .tx fault =>
      (∀ req, state.tx = .startTimer req → fault ≠ some .timer) ∧
      (∀ req, state.tx = .send req → fault = some .transport → (info req).rpcRspCb = false) ∧
      ∀ req, state.tx = .setCb req → state.reqUid req ≠ 0 ∧
        ∀ slot, (state.asyncRspTable slot).uid ≠ state.reqUid req
  | .rx _ => ∀ resp ∈ answering state.rx, ∀ slot ∈ asyncSlotOf state.asyncRspTable resp.uid,
      ∀ req ∈ (state.asyncRspTable slot).cb, state.timer req ≠ .absent ∧ state.timer req ≠ .running
  | .expire _ alloc => alloc = false
  | .req _ _ | .receive _ => True

theorem unregistered_tx (pc : after.pc = before.pc)
    (queue : req ∈ after.rpcTxQ → req ∈ before.rpcTxQ)
    (tx : beforeCb after.tx = some req → Unregistered info before req)
    (unregistered : Unregistered info after req) : Unregistered info before req := by
  rcases unregistered with sync | fresh | waiting | composing
  · exact Or.inl sync
  · exact Or.inr (Or.inl (pc ▸ fresh))
  · exact Or.inr (Or.inr (Or.inl (queue waiting)))
  · exact tx composing

/-- Where neither a requester nor the tx thread moves, nobody loses a callback. -/
theorem unregistered_elsewhere (pc : after.pc = before.pc) (queue : after.rpcTxQ = before.rpcTxQ)
    (tx : after.tx = before.tx) (unregistered : Unregistered info after req) :
    Unregistered info before req := by
  refine unregistered_tx pc ?_ ?_ unregistered
  · rw [queue]
    exact id
  · rw [tx]
    exact fun composing => Or.inr (Or.inr (Or.inr composing))

theorem txQuiet_async {here next : TxPc reqs} (edge : TxQuiet info here next) (req : Fin reqs) :
    (beforeCb next = some req → beforeCb here = some req) ∧
      (starting next = some req → starting here = some req) ∧
      (calling next = some req → (info req).rpcRspCb = true) := by
  cases edge <;> simp_all [beforeCb, starting, calling]
  rintro rfl
  assumption

/-- The request that the tx thread works on, past `set_async_resp_callback`, is not among
those without a callback. -/
theorem registered_current (before after : State reqs syncSize asyncSize)
    (queue : QueueInv info before) (held : before.tx.current = some req)
    (async : (info req).rpcRspCb = true) (pc : after.pc = before.pc)
    (line : after.rpcTxQ = before.rpcTxQ) (past : beforeCb after.tx = none) (other : Fin reqs)
    (unregistered : Unregistered info after other) :
    other ≠ req ∧ Unregistered info before other := by
  constructor
  · rintro rfl
    obtain ⟨queued, absent⟩ := queue.current other held
    rcases unregistered with sync | fresh | waiting | composing
    · rw [async] at sync
      cases sync
    · rw [pc, queued] at fresh
      cases fresh
    · exact absent (line ▸ waiting)
    · rw [past] at composing
      cases composing
  · refine unregistered_tx pc ?_ ?_ unregistered
    · rw [line]
      exact id
    · simp [past]

/-- The steps of the tx thread that register nothing and call nothing. -/
theorem kept_tx (before after : State reqs syncSize asyncSize) (pc : after.pc = before.pc)
    (rx : after.rx = before.rx) (table : after.asyncRspTable = before.asyncRspTable)
    (calls : after.calls = before.calls) (timer : after.timer = before.timer)
    (reqUid : after.reqUid = before.reqUid)
    (queue : ∀ req ∈ after.rpcTxQ, req ∈ before.rpcTxQ)
    (composing : ∀ req, beforeCb after.tx = some req → Unregistered info before req)
    (starts : ∀ req, starting after.tx = some req → starting before.tx = some req)
    (reports : ∀ req, calling after.tx = some req → (info req).rpcRspCb = true) :
    AsyncKept info before after where
  table := table
  calls := calls
  timer := .same timer
  uids other := Or.inr (by rw [reqUid])
  unregistered other := unregistered_tx pc (queue other) (composing other)
  starts := starts
  reports := reports
  clears := by
    rw [rx]
    exact fun _ => id

theorem asyncInv_register (queue : QueueInv info before) (inv : AsyncInv info before)
    {index : Fin asyncSize} (stands : before.tx = .setCb req)
    (valid : before.reqUid req ≠ 0)
    (fresh : ∀ slot, (before.asyncRspTable slot).uid ≠ before.reqUid req)
    (effect : Agrees after { before with
      asyncRspTable := Function.update before.asyncRspTable index
        { uid := before.reqUid req, cb := some req }
      tx := .startTimer req }) : AsyncInv info after := by
  have own : Pristine before req :=
    inv.pristine req (Or.inr (Or.inr (Or.inr (by simp [stands, beforeCb]))))
  have async := queue.timing req (by simp [stands, timing])
  have others := registered_current before after queue (by simp [stands, TxPc.current]) async
    effect.pc effect.rpcTxQ (by simp [effect.tx, beforeCb])
  have table := effect.asyncRspTable
  constructor
  case slots =>
    rw [table, effect.reqUid]
    exact inv.slots.register index valid fresh
  case uncalled =>
    rw [table, effect.calls, effect.rx]
    intro slot holder held
    by_cases same : slot = index
    · have is : req = holder := by simpa [same] using held
      exact Or.inl (is ▸ own.calls)
    · simpa [same] using inv.uncalled slot holder (by simpa [same] using held)
  case told =>
    rw [effect.calls, effect.timer]
    exact inv.told
  case pristine =>
    intro other unregistered
    obtain ⟨apart, earlier⟩ := others other unregistered
    obtain ⟨calls, timer, slots⟩ := inv.pristine other earlier
    refine ⟨by rw [effect.calls, calls], by rw [effect.timer, timer], fun slot held => ?_⟩
    rw [table] at held
    by_cases same : slot = index
    · exact apart (by simpa [same, eq_comm] using held)
    · exact slots slot (by simpa [same] using held)
  case starts =>
    rw [effect.tx, effect.calls, effect.timer]
    intro other now
    have is : req = other := by simpa [starting] using now
    exact is ▸ ⟨own.calls, own.timer⟩
  case calls => simp [effect.tx, calling]

theorem asyncInv_startTimer (queue : QueueInv info before) (inv : AsyncInv info before)
    (stands : before.tx = .startTimer req)
    (effect : Agrees after { before with
      timer := Function.update before.timer req .running
      asyncTimerHdl := some req
      tx := .send req }) : AsyncInv info after := by
  have own := inv.starts req (by simp [stands, starting])
  have async := queue.timing req (by simp [stands, timing])
  have others := registered_current before after queue (by simp [stands, TxPc.current]) async
    effect.pc effect.rpcTxQ (by simp [effect.tx, beforeCb])
  constructor
  case slots =>
    rw [effect.asyncRspTable, effect.reqUid]
    exact inv.slots
  case uncalled =>
    rw [effect.asyncRspTable, effect.calls, effect.rx]
    exact inv.uncalled
  case told =>
    rw [effect.calls, effect.timer]
    intro other called
    have apart : other ≠ req := by
      rintro rfl
      exact called own.1
    simpa [apart] using inv.told other called
  case pristine =>
    intro other unregistered
    obtain ⟨apart, earlier⟩ := others other unregistered
    obtain ⟨calls, timer, slots⟩ := inv.pristine other earlier
    exact ⟨by rw [effect.calls, calls], by simpa [effect.timer, apart] using timer,
      by rw [effect.asyncRspTable]; exact slots⟩
  case starts => simp [effect.tx, starting]
  case calls => simp [effect.tx, calling]

/-- `fail_req` calls the callback of a request that never got a slot. -/
theorem asyncInv_failCall (queue : QueueInv info before) (inv : AsyncInv info before) {status : Int}
    (stands : before.tx = .failCall req status)
    (effect : Agrees after { before.callback (some req) status with tx := .freeHook req .test }) :
    AsyncInv info after := by
  have own : Pristine before req :=
    inv.pristine req (Or.inr (Or.inr (Or.inr (by simp [stands, beforeCb]))))
  have async := inv.calls req (by simp [stands, calling])
  have others := registered_current before after queue (by simp [stands, TxPc.current]) async
    effect.pc effect.rpcTxQ (by simp [effect.tx, beforeCb])
  have table : after.asyncRspTable = before.asyncRspTable := effect.asyncRspTable
  have timer : after.timer = before.timer := effect.timer
  have calls : after.calls = Function.update before.calls req (before.calls req ++ [status]) :=
    effect.calls
  constructor
  case slots =>
    rw [table, effect.reqUid]
    exact inv.slots
  case uncalled =>
    rw [table, calls, effect.rx]
    intro slot holder held
    have apart : holder ≠ req := by
      rintro rfl
      exact own.slot slot held
    simpa [apart, State.callback] using inv.uncalled slot holder held
  case told =>
    rw [calls, timer]
    intro other called
    by_cases same : other = req
    · subst other
      simp [own.calls, own.timer]
    · simpa [same] using inv.told other (by simpa [same] using called)
  case pristine =>
    intro other unregistered
    obtain ⟨apart, earlier⟩ := others other unregistered
    obtain ⟨quiet, absent, slots⟩ := inv.pristine other earlier
    exact ⟨by simpa [calls, apart] using quiet, by rw [timer, absent], by rw [table]; exact slots⟩
  case starts => simp [effect.tx, starting]
  case calls => simp [effect.tx, calling]

theorem asyncInv_tx {fault : Option TxFault} (queue : QueueInv info before)
    (inv : AsyncInv info before) (orderly : Orderly info before (.tx fault))
    (move : TxMove info before after fault) : AsyncInv info after := by
  obtain ⟨timed, sent, registered⟩ := orderly
  cases move with
  | quiet next edge effect =>
      apply asyncInv_kept inv
      apply kept_tx before after effect.pc effect.rx effect.asyncRspTable effect.calls effect.timer
        effect.reqUid
      · rw [effect.rpcTxQ]
        exact fun _ => id
      · rw [effect.tx]
        exact fun other composing => Or.inr (Or.inr (Or.inr ((txQuiet_async edge other).1 composing)))
      · rw [effect.tx]
        exact fun other => (txQuiet_async edge other).2.1
      · rw [effect.tx]
        exact fun other => (txQuiet_async edge other).2.2
  | pop held rest stands head effect =>
      have member : held ∈ before.rpcTxQ := by simp [head]
      apply asyncInv_kept inv
      apply kept_tx before after effect.pc effect.rx effect.asyncRspTable effect.calls effect.timer
        effect.reqUid
      · rw [effect.rpcTxQ, head]
        exact fun other => List.mem_cons_of_mem held
      · rw [effect.tx]
        intro other composing
        have is : held = other := by simpa [beforeCb] using composing
        exact Or.inr (Or.inr (Or.inl (is ▸ member)))
      · simp [effect.tx, starting]
      · simp [effect.tx, calling]
  | register held index stands mapped free effect =>
      obtain ⟨valid, fresh⟩ := registered held stands
      exact asyncInv_register queue inv stands valid fresh effect
  | startTimer held stands sound effect => exact asyncInv_startTimer queue inv stands effect
  | timerFails held stands failing effect => exact absurd failing (timed held stands)
  -- only a synchronous request may fail here: an asynchronous one has its callback registered
  | sendFails held stands failing effect =>
      have sync := sent held stands failing
      apply asyncInv_kept inv
      apply kept_tx before after effect.pc effect.rx effect.asyncRspTable effect.calls effect.timer
        effect.reqUid
      · rw [effect.rpcTxQ]
        exact fun _ => id
      · rw [effect.tx]
        intro other composing
        have is : held = other := by simpa [beforeCb] using composing
        exact Or.inl (is ▸ sync)
      · simp [effect.tx, starting]
      · simp [effect.tx, calling]
  | call held status stands effect => exact asyncInv_failCall queue inv stands effect
  | hook held part stands effect =>
      apply asyncInv_kept inv
      apply kept_tx before after effect.pc effect.rx effect.asyncRspTable effect.calls effect.timer
        effect.reqUid
      · rw [effect.rpcTxQ]
        exact fun _ => id
      all_goals
        rw [effect.tx]
        generalize (hookStep info held before part).2 = next
        cases next <;> simp [beforeCb, starting, calling]
  | pack _ _ _ effect | queue _ _ _ _ _ effect | post _ _ _ _ _ _ effect =>
      apply asyncInv_kept inv
      apply kept_tx before after effect.pc effect.rx effect.asyncRspTable effect.calls effect.timer
        effect.reqUid
      · rw [effect.rpcTxQ]
        exact fun _ => id
      all_goals simp [effect.tx, beforeCb, starting, calling]

theorem timerStop_absent {state : State reqs syncSize asyncSize} {handle : Option (Fin reqs)}
    (absent : state.timer req = .absent) : (state.timerStop handle).timer req = .absent := by
  by_contra started
  exact timerStop_started started absent

theorem timerStop_wanes {handle : Option (Fin reqs)}
    (timer : after.timer = (before.timerStop handle).timer) : Wanes before after where
  absent := by
    rw [timer]
    exact fun _ => timerStop_absent
  running := by
    rw [timer]
    exact fun _ => timerStop_running

theorem expired_wanes (stands : before.timer req = .running)
    (timer : after.timer = Function.update before.timer req .expired) : Wanes before after where
  absent other none := by
    have apart : other ≠ req := by
      rintro rfl
      rw [stands] at none
      cases none
    simpa [timer, apart] using none
  running other still := by
    by_cases same : other = req
    · exact same ▸ stands
    · simpa [timer, same] using still

/-- The steps of the rx and the timer thread that call nothing and clear nothing. -/
theorem kept_elsewhere (before after : State reqs syncSize asyncSize) (inv : AsyncInv info before)
    (pc : after.pc = before.pc) (tx : after.tx = before.tx)
    (table : after.asyncRspTable = before.asyncRspTable) (calls : after.calls = before.calls)
    (reqUid : after.reqUid = before.reqUid) (queue : after.rpcTxQ = before.rpcTxQ)
    (timer : Wanes before after)
    (clears : ∀ uid, clearing before.rx = some uid → clearing after.rx = some uid) :
    AsyncKept info before after where
  table := table
  calls := calls
  timer := timer
  uids other := Or.inr (by rw [reqUid])
  unregistered _ := unregistered_elsewhere pc queue tx
  starts := by
    rw [tx]
    exact fun _ => id
  reports := by
    rw [tx]
    exact inv.calls
  clears := clears

theorem AsyncInv.uncalled_slot (inv : AsyncInv info before) (clears : clearing before.rx = none)
    {slot : Fin asyncSize} (held : (before.asyncRspTable slot).cb = some req) :
    before.calls req = [] := by
  rcases inv.uncalled slot req held with quiet | now
  · exact quiet
  · rw [clears] at now
    cases now

/-- The rx thread calls the callback of a slot: the timer is not running any more, and
the slot is the one it clears next. -/
theorem asyncInv_call (inv : AsyncInv info before) {resp : CtrlCmd} {index : Fin asyncSize}
    (stands : before.rx = .asyncCall resp)
    (found : asyncSlotOf before.asyncRspTable resp.uid = some index)
    (held : (before.asyncRspTable index).cb = some req)
    (started : before.timer req ≠ .absent) (stopped : before.timer req ≠ .running)
    (table : after.asyncRspTable = before.asyncRspTable)
    (calls : after.calls = Function.update before.calls req
      (before.calls req ++ [resp.respEventStatus]))
    (timer : after.timer = before.timer) (reqUid : after.reqUid = before.reqUid)
    (pc : after.pc = before.pc) (queue : after.rpcTxQ = before.rpcTxQ) (tx : after.tx = before.tx)
    (rx : after.rx = .asyncClear resp) : AsyncInv info after := by
  have clears : clearing before.rx = none := by simp [stands, clearing]
  have quiet := inv.uncalled_slot clears held
  have same_uid := asyncSlotOf_uid found
  -- the called request holds a slot, so it is none of those without a callback
  have elsewhere : ∀ other, Unregistered info after other → Unregistered info before other :=
    fun other => unregistered_elsewhere pc queue tx
  have apart : ∀ other, Unregistered info after other → other ≠ req := by
    rintro other unregistered rfl
    exact inv.held_registered held (elsewhere other unregistered)
  constructor
  case slots =>
    rw [table, reqUid]
    exact inv.slots
  case uncalled =>
    rw [table, calls, rx]
    intro slot holder mine
    by_cases same : holder = req
    · subst holder
      refine Or.inr ?_
      rw [inv.slots.owner slot req mine, ← inv.slots.owner index req held, same_uid]
      rfl
    · exact Or.inl (by simpa [same] using inv.uncalled_slot clears mine)
  case told =>
    rw [calls, timer]
    intro other called
    by_cases same : other = req
    · subst other
      simp [quiet, stopped]
    · simpa [same] using inv.told other (by simpa [same] using called)
  case pristine =>
    intro other unregistered
    obtain ⟨none, absent, slots⟩ := inv.pristine other (elsewhere other unregistered)
    exact ⟨by simpa [calls, apart other unregistered] using none, by rw [timer, absent],
      by rw [table]; exact slots⟩
  case starts =>
    rw [tx, calls, timer]
    intro other now
    obtain ⟨none, absent⟩ := inv.starts other now
    have apart : other ≠ req := by
      rintro rfl
      exact started absent
    exact ⟨by simpa [apart] using none, absent⟩
  case calls =>
    rw [tx]
    exact inv.calls

theorem asyncInv_clear (inv : AsyncInv info before) {resp : CtrlCmd}
    (stands : before.rx = .asyncClear resp)
    (table : after.asyncRspTable = clearAsyncRespCallback before.asyncRspTable resp)
    (calls : after.calls = before.calls) (timer : after.timer = before.timer)
    (reqUid : after.reqUid = before.reqUid) (pc : after.pc = before.pc)
    (queue : after.rpcTxQ = before.rpcTxQ) (tx : after.tx = before.tx) : AsyncInv info after := by
  constructor
  case slots =>
    rw [table, reqUid]
    exact inv.slots.clear resp
  case uncalled =>
    rw [table, calls]
    intro slot holder held
    obtain ⟨same, spared⟩ := clear_kept held
    rw [same] at held
    rcases inv.uncalled slot holder held with quiet | now
    · exact Or.inl quiet
    · -- the slot that has the uid of the response is the one the search finds
      have uid : resp.uid = (before.asyncRspTable slot).uid := by simpa [stands, clearing] using now
      have valid : (before.asyncRspTable slot).uid ≠ 0 := by
        intro zero
        rw [(inv.slots.free slot).mp zero] at held
        cases held
      refine absurd ?_ spared
      rw [uid]
      exact asyncSlotOf_unique fun other same => inv.slots.distinct other slot same (same ▸ valid)
  case told =>
    rw [calls, timer]
    exact inv.told
  case pristine =>
    intro other unregistered
    have earlier := unregistered_elsewhere pc queue tx unregistered
    obtain ⟨none, absent, free⟩ := inv.pristine other earlier
    refine ⟨by rw [calls, none], by rw [timer, absent], fun slot held => ?_⟩
    rw [table] at held
    have same := (clear_kept held).1
    rw [same] at held
    exact free slot held
  case starts =>
    rw [tx, calls, timer]
    exact inv.starts
  case calls =>
    rw [tx]
    exact inv.calls

theorem asyncInv_rx {queued : Bool} (inv : AsyncInv info before)
    (orderly : Orderly info before (.rx queued)) (move : RxMove before after queued) :
    AsyncInv info after := by
  cases move with
  | quiet next edge effect =>
      apply asyncInv_kept inv
      apply kept_elsewhere before after inv effect.pc effect.tx effect.asyncRspTable effect.calls
        effect.reqUid effect.rpcTxQ (.same effect.timer)
      · generalize before.rx = here at edge
        cases edge <;> simp [clearing]
  | stopTimer resp stands effect =>
      apply asyncInv_kept inv
      apply kept_elsewhere before after inv effect.pc effect.tx effect.asyncRspTable effect.calls
        effect.reqUid effect.rpcTxQ (timerStop_wanes effect.timer)
      · simp [stands, clearing]
  | call resp index stands found effect =>
      -- a free slot matches uid 0, and the NULL in it is called
      cases held : (before.asyncRspTable index).cb with
      | none =>
          rw [held] at effect
          apply asyncInv_kept inv
          apply kept_elsewhere before after inv effect.pc effect.tx effect.asyncRspTable effect.calls
            effect.reqUid effect.rpcTxQ (.same effect.timer)
          · simp [stands, clearing]
      | some req =>
          rw [held] at effect
          obtain ⟨started, stopped⟩ := orderly resp (by simp [stands, answering]) index found req held
          exact asyncInv_call inv stands found held started stopped effect.asyncRspTable effect.calls
            effect.timer effect.reqUid effect.pc effect.rpcTxQ effect.tx effect.rx
  | clear resp stands effect =>
      exact asyncInv_clear inv stands effect.asyncRspTable effect.calls effect.timer effect.reqUid
        effect.pc effect.rpcTxQ effect.tx
  | forgetTimer _ stands effect | queue _ stands _ _ effect | drop _ stands effect
  | unmatched _ stands _ effect | post _ _ stands _ _ effect | unposted _ stands _ effect =>
      apply asyncInv_kept inv
      apply kept_elsewhere before after inv effect.pc effect.tx effect.asyncRspTable effect.calls
        effect.reqUid effect.rpcTxQ (.same effect.timer)
      · simp [stands, clearing]

theorem asyncInv_step {act : Act reqs} (queue : QueueInv info before) (inv : AsyncInv info before)
    (orderly : Orderly info before act) (move : Move info before after act) :
    AsyncInv info after := by
  cases move with
  | req req choice move => exact asyncInv_kept inv (kept_req inv move)
  | tx fault move => exact asyncInv_tx queue inv orderly move
  | rx queued move => exact asyncInv_rx inv orderly move
  | receive msg stands effect =>
      apply asyncInv_kept inv
      apply kept_elsewhere before after inv effect.pc effect.tx effect.asyncRspTable effect.calls
        effect.reqUid effect.rpcTxQ (.same effect.timer)
      · simp [stands, clearing]
  | expire req alloc stands effect =>
      have silent : alloc = false := orderly
      subst silent
      apply asyncInv_kept inv
      apply kept_elsewhere before after inv effect.pc effect.tx effect.asyncRspTable effect.calls
        effect.reqUid effect.rpcTxQ (expired_wanes stands effect.timer)
      rw [effect.rx]
      exact fun _ => id

/-- `rpc_send_req` has accepted the request and it has not ended: nobody has called the
callback, or the rx thread has just done so and clears the slot next. -/
structure Outstanding (info : Fin reqs → ReqInfo) (state : State reqs syncSize asyncSize)
    (req : Fin reqs) : Prop where
  async : (info req).rpcRspCb = true
  queued : (state.pc req).queued = true
  uncalled : state.calls req = [] ∨ clearing state.rx = some (state.reqUid req)

/-- What a caller of an asynchronous request relies on. -/
structure OnceCalled (info : Fin reqs → ReqInfo) (state : State reqs syncSize asyncSize) : Prop where
  once : ∀ req, (state.calls req).length ≤ 1
  stopped : ∀ req, state.calls req ≠ [] → state.timer req ≠ .running
  released : ∀ req slot, state.calls req ≠ [] → (state.asyncRspTable slot).cb = some req →
    clearing state.rx = some (state.asyncRspTable slot).uid
  registrable : asyncSlotOf state.asyncRspTable 0 = none →
    ∃ owner : Fin asyncSize → Fin reqs, Function.Injective owner ∧
      ∀ slot, Outstanding info state (owner slot)

theorem asyncInv_run (run : Run (step info) (Orderly info) (init info) after) :
    AsyncInv info after :=
  run.invariant asyncInv_init fun _ _ _ sofar inv orderly taken =>
    asyncInv_step (queueInv_run sofar.forget) inv orderly (step_move taken)

/-- A table without a free slot is full of requests that have not ended. -/
theorem AsyncInv.full_outstanding {state : State reqs syncSize asyncSize}
    (inv : AsyncInv info state) (full : asyncSlotOf state.asyncRspTable 0 = none) :
    ∃ owner : Fin asyncSize → Fin reqs, Function.Injective owner ∧
      ∀ slot, Outstanding info state (owner slot) := by
  have taken : ∀ slot, ∃ req, (state.asyncRspTable slot).cb = some req := by
    intro slot
    refine Option.ne_none_iff_exists'.mp fun empty => ?_
    exact asyncSlotOf_none.mp full slot ((inv.slots.free slot).mpr empty)
  choose owner held using taken
  refine ⟨owner, ?_, fun slot => ?_⟩
  · intro slot other same
    -- two slots of one request would carry the same uid
    refine inv.slots.distinct slot other ?_ (asyncSlotOf_none.mp full slot)
    rw [inv.slots.owner slot _ (held slot), inv.slots.owner other _ (held other), same]
  · have registered := inv.held_registered (held slot)
    simp only [Unregistered, not_or] at registered
    obtain ⟨async, queued, -, -⟩ := registered
    refine ⟨by simpa using async, by simpa using queued, ?_⟩
    rw [← inv.slots.owner slot _ (held slot)]
    exact inv.uncalled slot _ (held slot)

/-- In an orderly run every callback is called at most once, and then neither its slot
nor its timer is left behind. -/
theorem async_called_once (run : Run (step info) (Orderly info) (init info) after) :
    OnceCalled info after := by
  have inv := asyncInv_run run
  constructor
  case once =>
    intro req
    by_cases called : after.calls req = []
    · simp [called]
    · have once := (inv.told req called).1
      omega
  case stopped => exact fun req called => (inv.told req called).2
  case released =>
    intro req slot called held
    rcases inv.uncalled slot req held with quiet | now
    · exact absurd quiet called
    · exact now
  case registrable => exact inv.full_outstanding

instance orderlyDecidable (state : State reqs syncSize asyncSize) :
    (act : Act reqs) → Decidable (Orderly info state act)
  | .tx fault => inferInstanceAs (Decidable (
      (∀ req, state.tx = .startTimer req → fault ≠ some .timer) ∧
      (∀ req, state.tx = .send req → fault = some .transport → (info req).rpcRspCb = false) ∧
      ∀ req, state.tx = .setCb req → state.reqUid req ≠ 0 ∧
        ∀ slot, (state.asyncRspTable slot).uid ≠ state.reqUid req))
  | .rx _ => inferInstanceAs (Decidable (
      ∀ resp ∈ answering state.rx, ∀ slot ∈ asyncSlotOf state.asyncRspTable resp.uid,
        ∀ req ∈ (state.asyncRspTable slot).cb,
          state.timer req ≠ .absent ∧ state.timer req ≠ .running))
  | .expire _ alloc => inferInstanceAs (Decidable (alloc = false))
  | .req _ _ | .receive _ => .isTrue trivial

/-- Asynchronous requests without an application buffer. -/
def async : Fin reqs → ReqInfo := fun _ =>
  { msgId := 257, rpcRspCb := true, appFreeBuffFunc := false, appFreeBuffHdl := false }

/-- One asynchronous request: sent, answered, its timer stopped and its slot cleared. -/
def answeredOnce : List (Act 1) :=
  go sole 7 ++ List.replicate 8 (.tx none) ++ .receive ⟨513, 1, 0⟩ :: List.replicate 6 (.rx true)

theorem async_called_once_one : ∃ state : State 1 1 1,
    (state.calls 0 = [0] ∧ state.timer 0 = .deleted ∧ (state.asyncRspTable 0).cb = none) ∧
      OnceCalled async state := by
  obtain ⟨state, run, done⟩ := admitted_reaches (step async) (Orderly async) (init async) answeredOnce
    (fun state : State 1 1 1 => state.calls 0 = [0] ∧ state.timer 0 = .deleted ∧
      (state.asyncRspTable 0).cb = none) (by decide) (by decide)
  exact ⟨state, done, async_called_once run⟩

/-- The timeout handler calls the callback and leaves the slot: the late response calls it
again. A failed send leaves both the slot and the running timer. -/
theorem async_called_once_fails :
    (∃ state : State 1 1 1, Reachable async state ∧ state.calls 0 = [rpcErrRequestTimeout, 0] ∧
      ¬ OnceCalled async state) ∧
    ∃ state : State 1 1 1, Reachable async state ∧ state.calls 0 = [rpcErrTransportSend] ∧
      asyncSlotOf state.asyncRspTable 0 = none ∧ state.timer 0 = .running ∧
      ¬ OnceCalled async state := by
  constructor
  · obtain ⟨state, run, twice⟩ := exec_reaches (step async) (init async)
      (go 0 7 ++ List.replicate 8 (.tx none) ++ .expire 0 true :: .receive ⟨513, 1, 0⟩ ::
        List.replicate 6 (.rx true))
      (fun state : State 1 1 1 => state.calls 0 = [rpcErrRequestTimeout, 0]) (by decide)
    refine ⟨state, run, twice, fun sound => ?_⟩
    have once := sound.once 0
    simp [twice] at once
  · obtain ⟨state, run, failed, full, running⟩ := exec_reaches (step async) (init async)
      (go 0 7 ++ List.replicate 5 (.tx none) ++ .tx (some .transport) :: List.replicate 2 (.tx none))
      (fun state : State 1 1 1 => state.calls 0 = [rpcErrTransportSend] ∧
        asyncSlotOf state.asyncRspTable 0 = none ∧ state.timer 0 = .running) (by decide)
    refine ⟨state, run, failed, full, running, fun sound => ?_⟩
    exact sound.stopped 0 (by simp [failed]) running

end EspHosted.AsyncRequests

import EspHosted.RpcCore

/-!
What one step of the RPC core can do, said once for each thread. A move names the
statement that is executed, the tests it has passed and the state it leads to, up
to the record of what became of a request's memory (`Agrees`). Statements that
only advance their thread are the edges of `Quiet`, `TxQuiet` and `RxQuiet`.
-/

namespace EspHosted.RpcCore
open RpcTables GuardedRun

variable {reqs syncSize asyncSize : Nat} {info : Fin reqs → ReqInfo}
variable {before after : State reqs syncSize asyncSize} {req : Fin reqs}

/-- The request holds a slot unless something went wrong. -/
def ReqPc.owns : ReqPc syncSize → Bool
  | .putTx | .indTx | .freeHook _ | .sent | .findSlot | .takeSem _ | .clearSlot _ _ => true
  | _ => false

/-- The request has a semaphore that nobody has destroyed yet. -/
def ReqPc.hasSem : ReqPc syncSize → Bool
  | .searchSlot | .fillSlot _ => true
  | pc => pc.owns

/-- `rpc_send_req` returns, or is about to return, FAILURE. -/
def ReqPc.gaveUp : ReqPc syncSize → Bool
  | .failReq | .failHook _ | .failFree | .failed => true
  | _ => false

/-- The put on `rpc_tx_q` has succeeded. -/
def ReqPc.queued : ReqPc syncSize → Bool
  | .indTx | .freeHook _ | .sent | .findSlot | .takeSem _ | .clearSlot _ _ | .dequeueRx
  | .freeReq _ | .returned _ => true
  | _ => false

/-- Only a synchronous request gets there. -/
def ReqPc.syncOnly : ReqPc syncSize → Bool
  | .setSem | .searchSlot | .fillSlot _ | .findSlot | .takeSem _ | .clearSlot _ _ | .dequeueRx
  | .freeReq _ | .returned _ => true
  | _ => false

/-- The request is registered and has not stopped waiting. -/
def ReqPc.waits : ReqPc syncSize → Bool
  | .putTx | .indTx | .freeHook _ | .sent | .findSlot | .takeSem _ => true
  | _ => false

/-- The response that `rpc_wait_and_parse_sync_resp` returns. -/
def ReqPc.answer : ReqPc syncSize → Option CtrlCmd
  | .freeReq resp | .returned resp => resp
  | _ => none

/-- The rx thread has queued this response and still has to look for a semaphore. -/
def RxPc.posting : RxPc → Option CtrlCmd
  | .semTest resp | .semPost resp => some resp
  | _ => none

/-- The slot that `wait_for_sync_response` works on. -/
def ReqPc.claims : ReqPc syncSize → Option (Fin syncSize)
  | .takeSem slot | .clearSlot slot _ => some slot
  | _ => none

/-- Statements that only advance the requester. -/
inductive Quiet (info : ReqInfo) (table : SyncTable syncSize (Fin reqs)) (uid : UInt32) :
    ReqPc syncSize → ReqPc syncSize → Prop where
  | load (read) : Quiet info table uid .start (.uidInc read)
  | store (read) : Quiet info table uid (.uidInc read) .uidTest
  | wrapped : Quiet info table uid .uidTest .uidReload
  | counted : Quiet info table uid .uidTest .uidCopy
  | reload (read) : Quiet info table uid .uidReload (.uidReinc read)
  | restore (read) : Quiet info table uid (.uidReinc read) .uidCopy
  | unmapped : Quiet info table uid .setSem .failReq
  | free (slot) : Quiet info table uid .searchSlot (.fillSlot slot)
  | full : Quiet info table uid .searchSlot .failReq
  | indicate : Quiet info table uid .indTx (.freeHook .test)
  | hook (part next) : Quiet info table uid (.freeHook part) (.freeHook next)
  | sent (part) : Quiet info table uid (.freeHook part) .sent
  | failHook (part next) : Quiet info table uid (.failHook part) (.failHook next)
  | hooked (part) : Quiet info table uid (.failHook part) .failFree
  | failed : Quiet info table uid .failFree .failed
  | unawaited (sync : info.rpcRspCb = false) (outside : expRespMsgId info.msgId ≥ rpcIdRespMax) :
      Quiet info table uid .sent (.freeReq none)
  | await (sync : info.rpcRspCb = false) : Quiet info table uid .sent .findSlot
  | unregistered (missing : syncSlotOf table uid = none) :
      Quiet info table uid .findSlot (.freeReq none)
  | found (slot) (hit : syncSlotOf table uid = some slot) :
      Quiet info table uid .findSlot (.takeSem slot)
  | freed (resp) : Quiet info table uid (.freeReq resp) (.returned resp)

/-- `after` is `expected` up to the uid counter, the count of `rpc_tx_sem` and
what happened to the memory of requests. -/
def Agrees (after expected : State reqs syncSize asyncSize) : Prop :=
  after = { expected with
    uid := after.uid
    rpcTxSem := after.rpcTxSem
    freeBuffHdl := after.freeBuffHdl
    reqFreed := after.reqFreed
    touchedFreed := after.touchedFreed
    hookCalls := after.hookCalls
    packedFreed := after.packedFreed }

section
variable {expected : State reqs syncSize asyncSize} (effect : Agrees after expected)
include effect

theorem Agrees.pc : after.pc = expected.pc := (congrArg State.pc effect :)
theorem Agrees.tx : after.tx = expected.tx := (congrArg State.tx effect :)
theorem Agrees.rx : after.rx = expected.rx := (congrArg State.rx effect :)
theorem Agrees.reqUid : after.reqUid = expected.reqUid := (congrArg State.reqUid effect :)
theorem Agrees.sem : after.sem = expected.sem := (congrArg State.sem effect :)
theorem Agrees.syncRspTable : after.syncRspTable = expected.syncRspTable :=
  (congrArg State.syncRspTable effect :)
theorem Agrees.asyncRspTable : after.asyncRspTable = expected.asyncRspTable :=
  (congrArg State.asyncRspTable effect :)
theorem Agrees.rpcTxQ : after.rpcTxQ = expected.rpcTxQ := (congrArg State.rpcTxQ effect :)
theorem Agrees.rpcRxQ : after.rpcRxQ = expected.rpcRxQ := (congrArg State.rpcRxQ effect :)
theorem Agrees.woken : after.woken = expected.woken := (congrArg State.woken effect :)
theorem Agrees.timer : after.timer = expected.timer := (congrArg State.timer effect :)
theorem Agrees.asyncTimerHdl : after.asyncTimerHdl = expected.asyncTimerHdl :=
  (congrArg State.asyncTimerHdl effect :)
theorem Agrees.calls : after.calls = expected.calls := (congrArg State.calls effect :)
theorem Agrees.answered : after.answered = expected.answered := (congrArg State.answered effect :)

end

inductive ReqMove (info : Fin reqs → ReqInfo) (req : Fin reqs)
    (before after : State reqs syncSize asyncSize) (choice : ReqChoice) : Prop where
  | quiet (next : ReqPc syncSize)
      (edge : Quiet (info req) before.syncRspTable (before.reqUid req) (before.pc req) next)
      (effect : Agrees after (before.goto req next))
  | putFails (stands : before.pc req = .putTx) (failing : choice = .putFails)
      (effect : Agrees after (before.goto req .failReq))
  | put (stands : before.pc req = .putTx)
      (effect : Agrees after ({ before with rpcTxQ := before.rpcTxQ ++ [req] }.goto req .indTx))
  | copyUid (stands : before.pc req = .uidCopy)
      (effect : Agrees after ({ before with
        reqUid := Function.update before.reqUid req before.uid }.goto req
          (if (info req).rpcRspCb then .putTx else .setSem)))
  | createSem (stands : before.pc req = .setSem)
      (mapped : expRespMsgId (info req).msgId < rpcIdRespMax)
      (effect : Agrees after ((before.setSem req (.live 0)).goto req .searchSlot))
  | fill (slot : Fin syncSize) (stands : before.pc req = .fillSlot slot)
      (effect : Agrees after
        ((before.setSyncSlot slot { uid := before.reqUid req, sem := some req }).goto req .putTx))
  | take (slot : Fin syncSize) (owner : Fin reqs) (count : Nat) (stands : before.pc req = .takeSem slot)
      (handle : (before.syncRspTable slot).sem = some owner)
      (posted : before.sem owner = .live (count + 1))
      (effect : Agrees after ((before.setSem owner (.live count)).goto req (.clearSlot slot true)))
  | giveUp (slot : Fin syncSize) (stands : before.pc req = .takeSem slot)
      (reason : (choice = .timeout ∧ ∃ owner, (before.syncRspTable slot).sem = some owner ∧
          before.sem owner = .live 0) ∨
        ∀ owner, (before.syncRspTable slot).sem = some owner → ∀ count, before.sem owner ≠ .live count)
      (effect : Agrees after (before.goto req (.clearSlot slot false)))
  | clear (slot : Fin syncSize) (taken : Bool) (stands : before.pc req = .clearSlot slot taken)
      (effect : Agrees after
        (({ before with sem := (before.destroy (before.syncRspTable slot).sem).sem }.setSyncSlot slot
          { uid := 0, sem := none }).goto req (if taken then .dequeueRx else .freeReq none)))
  | dequeue (resp : CtrlCmd) (rest : List CtrlCmd) (stands : before.pc req = .dequeueRx)
      (going : choice = .go) (queue : before.rpcRxQ = resp :: rest)
      (effect : Agrees after ({ before with
        rpcRxQ := rest
        woken := before.woken.erase req }.goto req (.freeReq (some resp))))
  | abandon (stands : before.pc req = .failReq)
      (effect : Agrees after
        ({ before with sem := (before.destroy (some req)).sem }.goto req (.failHook .test)))

theorem destroy_sem (state : State reqs syncSize asyncSize) (handle : Option (Fin reqs)) :
    state.destroy handle = { state with sem := (state.destroy handle).sem } := by
  unfold State.destroy
  split
  · rfl
  · split <;> rfl

theorem timerStop_timer (state : State reqs syncSize asyncSize) (handle : Option (Fin reqs)) :
    state.timerStop handle = { state with timer := (state.timerStop handle).timer } := by
  unfold State.timerStop
  split
  · rfl
  · split <;> rfl

theorem callback_calls (state : State reqs syncSize asyncSize) (cb : Option (Fin reqs)) (status : Int) :
    state.callback cb status = { state with
      calls := (state.callback cb status).calls
      nullCalls := (state.callback cb status).nullCalls } := by
  cases cb <;> rfl

theorem post_sem (state : State reqs syncSize asyncSize) (handle : Option (Fin reqs)) :
    state.post handle = { state with
      sem := (state.post handle).sem
      woken := (state.post handle).woken
      nullPosts := (state.post handle).nullPosts
      deadPosts := (state.post handle).deadPosts } := by
  unfold State.post
  split
  · rfl
  · split <;> rfl

theorem destroy_touch (state : State reqs syncSize asyncSize) (handle : Option (Fin reqs)) :
    ((state.touch req).destroy handle).sem = (state.destroy handle).sem := by
  cases handle with
  | none => rfl
  | some owner =>
      simp only [State.destroy, State.touch]
      split <;> rfl

theorem reqMove_untouch {choice : ReqChoice}
    (move : ReqMove info req (before.touch req) after choice) : ReqMove info req before after choice := by
  cases move with
  | quiet next edge effect => exact .quiet next edge effect
  | putFails stands failing effect => exact .putFails stands failing effect
  | put stands effect => exact .put stands effect
  | copyUid stands effect => exact .copyUid stands effect
  | createSem stands mapped effect => exact .createSem stands mapped effect
  | fill slot stands effect => exact .fill slot stands effect
  | take slot owner count stands handle posted effect =>
      exact .take slot owner count stands handle posted effect
  | giveUp slot stands reason effect => exact .giveUp slot stands reason effect
  | clear slot taken stands effect =>
      rw [destroy_touch] at effect
      exact .clear slot taken stands effect
  | dequeue resp rest stands going queue effect => exact .dequeue resp rest stands going queue effect
  | abandon stands effect =>
      rw [destroy_touch] at effect
      exact .abandon stands effect

theorem hookStep_agrees (part : FreeHook) (next : ReqPc syncSize) :
    Agrees ((hookStep info req before part).1.goto req next) (before.goto req next) := by
  cases part <;> rfl

theorem reqStep_move {decided : ReqChoice} (taken : reqStep info req decided before = some after) :
    ReqMove info req before after decided := by
  unfold reqStep at taken
  split at taken
  case h_1 stands =>
    cases taken
    exact .quiet _ (stands ▸ .load _) rfl
  case h_2 stands =>
    cases taken
    exact .quiet _ (stands ▸ .store _) rfl
  case h_3 stands =>
    cases taken
    refine .quiet _ ?_ rfl
    split
    · exact stands ▸ .wrapped
    · exact stands ▸ .counted
  case h_4 stands =>
    cases taken
    exact .quiet _ (stands ▸ .reload _) rfl
  case h_5 stands =>
    cases taken
    exact .quiet _ (stands ▸ .restore _) rfl
  case h_6 stands =>
    cases taken
    exact .copyUid stands rfl
  case h_7 stands =>
    split at taken
    · cases taken
      exact .quiet _ (stands ▸ .unmapped) rfl
    next mapped =>
      cases taken
      exact .createSem stands (not_le.mp mapped) rfl
  case h_8 stands =>
    split at taken
    · cases taken
      exact .quiet _ (stands ▸ .free _) rfl
    · cases taken
      exact .quiet _ (stands ▸ .full) rfl
  case h_9 slot stands =>
    cases taken
    exact .fill slot stands rfl
  case h_10 stands =>
    split at taken
    · cases taken
      exact .put stands rfl
    · cases taken
  case h_11 stands =>
    cases taken
    exact .putFails stands rfl rfl
  case h_12 stands =>
    cases taken
    exact .quiet _ (stands ▸ .indicate) rfl
  case h_13 part stands =>
    cases taken
    refine .quiet _ ?_ (hookStep_agrees part _)
    rw [stands]
    cases (hookStep info req before part).2 with
    | none => exact .sent part
    | some next => exact .hook part next
  case h_14 stands =>
    cases taken
    refine .abandon stands ?_
    rw [destroy_sem]
    exact rfl
  case h_15 part stands =>
    cases taken
    refine .quiet _ ?_ (hookStep_agrees part _)
    rw [stands]
    cases (hookStep info req before part).2 with
    | none => exact .hooked part
    | some next => exact .failHook part next
  case h_16 stands =>
    cases taken
    exact .quiet _ (stands ▸ .failed) rfl
  case h_17 stands =>
    split at taken
    · cases taken
    next async =>
      have sync : (info req).rpcRspCb = false := by simpa using async
      split at taken
      next outside =>
        cases taken
        exact .quiet _ (stands ▸ .unawaited sync outside) rfl
      · cases taken
        exact .quiet _ (stands ▸ .await sync) rfl
  case h_18 stands =>
    split at taken
    next slot hit =>
      cases taken
      exact .quiet _ (stands ▸ .found slot hit) rfl
    next missing =>
      cases taken
      exact .quiet _ (stands ▸ .unregistered missing) rfl
  -- takeSem: the handle in the slot and the state of its semaphore decide what may happen
  case h_19 decided _ _ slot stands =>
    cases handle : (before.syncRspTable slot).sem with
    | none =>
        rw [handle] at taken
        cases decided <;> simp at taken
        subst taken
        exact .giveUp slot stands (Or.inr (by simp [handle])) rfl
    | some owner =>
        rw [handle] at taken
        cases posted : before.sem owner with
        | live count =>
            cases count with
            | zero =>
                cases decided <;> simp [posted] at taken
                subst taken
                exact .giveUp slot stands (Or.inl ⟨rfl, owner, handle, posted⟩) rfl
            | succ count =>
                cases decided <;> simp [posted] at taken
                subst taken
                exact .take slot owner count stands handle posted rfl
        | absent | destroyed =>
            cases decided <;> simp [posted] at taken
            subst taken
            exact .giveUp slot stands (Or.inr (by simp [handle, posted]))
              rfl
  case h_20 slot got stands =>
    cases taken
    refine .clear slot got stands ?_
    rw [destroy_sem]
    exact rfl
  case h_21 stands =>
    split at taken
    · cases taken
    next resp rest queue =>
      cases taken
      exact .dequeue resp rest stands rfl queue rfl
  case h_22 resp stands =>
    cases taken
    exact .quiet _ (stands ▸ .freed resp) rfl
  case h_23 => cases taken

theorem pc_other {other : Fin reqs} {choice : ReqChoice} (move : ReqMove info req before after choice)
    (moved : other ≠ req) : after.pc other = before.pc other := by
  cases move with
  | quiet _ _ effect | putFails _ _ effect | put _ effect | copyUid _ effect
  | createSem _ _ effect | fill _ _ effect | take _ _ _ _ _ _ effect | giveUp _ _ _ effect
  | clear _ _ _ effect | dequeue _ _ _ _ _ effect | abandon _ effect =>
      rw [effect.pc]
      simp [State.goto, State.setSem, State.setSyncSlot, moved]

theorem reqUid_other {other : Fin reqs} {choice : ReqChoice}
    (move : ReqMove info req before after choice) (moved : other ≠ req) :
    after.reqUid other = before.reqUid other := by
  cases move with
  | quiet _ _ effect | putFails _ _ effect | put _ effect | copyUid _ effect
  | createSem _ _ effect | fill _ _ effect | take _ _ _ _ _ _ effect | giveUp _ _ _ effect
  | clear _ _ _ effect | dequeue _ _ _ _ _ effect | abandon _ effect =>
      rw [effect.reqUid]
      simp [State.goto, State.setSem, State.setSyncSlot, moved]

theorem quiet_numbered {info : ReqInfo} {table : SyncTable syncSize (Fin reqs)} {uid : UInt32}
    {here next : ReqPc syncSize} (edge : Quiet info table uid here next)
    (numbered : here.numbered = true) : next.numbered = true := by
  cases edge <;> simp_all [ReqPc.numbered]

/-- Once a request has its uid, it keeps it. -/
theorem numbered_move {choice : ReqChoice} (move : ReqMove info req before after choice)
    (numbered : (before.pc req).numbered = true) :
    (after.pc req).numbered = true ∧ after.reqUid = before.reqUid := by
  cases move with
  | quiet next edge effect =>
      refine ⟨?_, effect.reqUid⟩
      rw [effect.pc]
      simpa [State.goto] using quiet_numbered edge numbered
  | copyUid stands effect => simp [stands, ReqPc.numbered] at numbered
  | clear slot taken stands effect =>
      refine ⟨?_, effect.reqUid⟩
      rw [effect.pc]
      cases taken <;> simp [State.goto, ReqPc.numbered]
  | putFails _ _ effect | put _ effect | createSem _ _ effect | fill _ _ effect
  | take _ _ _ _ _ _ effect | giveUp _ _ _ effect | dequeue _ _ _ _ _ effect | abandon _ effect =>
      refine ⟨?_, effect.reqUid⟩
      rw [effect.pc]
      simp [State.goto, ReqPc.numbered]

theorem setAsyncRespCallback_ok {table left : AsyncTable asyncSize (Fin reqs)} {msgId : UInt16}
    {uid : UInt32} (registered : setAsyncRespCallback table msgId uid req = .ok left) :
    ∃ index, expRespMsgId msgId < rpcIdRespMax ∧ asyncSlotOf table 0 = some index ∧
      left = Function.update table index { uid := uid, cb := some req } := by
  unfold setAsyncRespCallback at registered
  split at registered
  · cases registered
  next mapped =>
    split at registered
    next index free =>
      cases registered
      exact ⟨index, not_le.mp mapped, free, rfl⟩
    · cases registered

theorem postSyncRespSem_ok {table : SyncTable syncSize (Fin reqs)} {resp : CtrlCmd}
    {sem : Option (Fin reqs)} (posted : postSyncRespSem table resp = .ok sem) :
    ∃ slot, respMsgIdValid resp.msgId = true ∧ syncSlotOf table resp.uid = some slot ∧
      sem = (table slot).sem := by
  unfold postSyncRespSem at posted
  split at posted
  next inside =>
    split at posted
    next slot found =>
      cases posted
      exact ⟨slot, inside, found, rfl⟩
    · cases posted
  · cases posted

/-- Statements of `rpc_tx_thread` and `process_rpc_tx_msg` that only advance the thread. -/
inductive TxQuiet (info : Fin reqs → ReqInfo) : TxPc reqs → TxPc reqs → Prop where
  | getSem : TxQuiet info .getSem .dequeue
  | composeAsync (req : Fin reqs) (async : (info req).rpcRspCb = true) :
      TxQuiet info (.compose req) (.setCb req)
  | composeSync (req : Fin reqs) (sync : (info req).rpcRspCb = false) :
      TxQuiet info (.compose req) (.send req)
  | composeFails (req : Fin reqs) (status : Int) : TxQuiet info (.compose req) (.failResp req status)
  | setCbFails (req : Fin reqs) : TxQuiet info (.setCb req) (.failResp req rpcErrSetAsyncCb)
  | reportAsync (req : Fin reqs) (status : Int) (async : (info req).rpcRspCb = true) :
      TxQuiet info (.failResp req status) (.failCall req status)
  | reportSync (req : Fin reqs) (status : Int) (sync : (info req).rpcRspCb = false) :
      TxQuiet info (.failResp req status) (.failPut req (failedResp (info req).msgId status))
  | unreported (req : Fin reqs) (status : Int) :
      TxQuiet info (.failResp req status) (.freeHook req .test)
  | putFails (req : Fin reqs) (resp : CtrlCmd) :
      TxQuiet info (.failPut req resp) (.freeHook req .test)
  | matched (req : Fin reqs) (resp : CtrlCmd) :
      TxQuiet info (.failTest req resp) (.failPost req resp)
  | unmatched (req : Fin reqs) (resp : CtrlCmd) :
      TxQuiet info (.failTest req resp) (.freeHook req .test)
  | unposted (req : Fin reqs) (resp : CtrlCmd) :
      TxQuiet info (.failPost req resp) (.freeHook req .test)
  | cleanup (req : Fin reqs) : TxQuiet info (.cleanup req) .getSem

inductive TxMove (info : Fin reqs → ReqInfo) (before after : State reqs syncSize asyncSize)
    (fault : Option TxFault) : Prop where
  | quiet (next : TxPc reqs)
      (edge : TxQuiet info before.tx next)
      (effect : Agrees after { before with tx := next })
  | pop (req : Fin reqs) (rest : List (Fin reqs)) (stands : before.tx = .dequeue)
      (queue : before.rpcTxQ = req :: rest)
      (effect : Agrees after { before with rpcTxQ := rest, tx := .compose req })
  | register (req : Fin reqs) (index : Fin asyncSize) (stands : before.tx = .setCb req)
      (mapped : expRespMsgId (info req).msgId < rpcIdRespMax)
      (free : asyncSlotOf before.asyncRspTable 0 = some index)
      (effect : Agrees after { before with
        asyncRspTable := Function.update before.asyncRspTable index
          { uid := before.reqUid req, cb := some req }
        tx := .startTimer req })
  | startTimer (req : Fin reqs) (stands : before.tx = .startTimer req) (sound : fault = none)
      (effect : Agrees after { before with
        timer := Function.update before.timer req .running
        asyncTimerHdl := some req
        tx := .send req })
  | timerFails (req : Fin reqs) (stands : before.tx = .startTimer req) (failing : fault = some .timer)
      (effect : Agrees after { before with asyncTimerHdl := none, tx := .failResp req 0 })
  | pack (req : Fin reqs) (stands : before.tx = .send req) (sound : fault = none)
      (effect : Agrees after { before with tx := .freeHook req .test })
  | sendFails (req : Fin reqs) (stands : before.tx = .send req) (failing : fault = some .transport)
      (effect : Agrees after { before with tx := .failResp req rpcErrTransportSend })
  | call (req : Fin reqs) (status : Int) (stands : before.tx = .failCall req status)
      (effect : Agrees after { before.callback (some req) status with tx := .freeHook req .test })
  | queue (req : Fin reqs) (resp : CtrlCmd) (stands : before.tx = .failPut req resp)
      (sound : fault = none) (room : before.rpcRxQ.length < rpcRxQueueSize)
      (effect : Agrees after { before with
        rpcRxQ := before.rpcRxQ ++ [resp]
        tx := .failTest req resp })
  | post (req : Fin reqs) (resp : CtrlCmd) (slot : Fin syncSize) (stands : before.tx = .failPost req resp)
      (inside : respMsgIdValid resp.msgId = true)
      (found : syncSlotOf before.syncRspTable resp.uid = some slot)
      (effect : Agrees after { before with
        sem := (before.post (before.syncRspTable slot).sem).sem
        woken := (before.post (before.syncRspTable slot).sem).woken
        nullPosts := (before.post (before.syncRspTable slot).sem).nullPosts
        deadPosts := (before.post (before.syncRspTable slot).sem).deadPosts
        tx := .freeHook req .test })
  | hook (req : Fin reqs) (part : FreeHook) (stands : before.tx = .freeHook req part)
      (effect : Agrees after { before with
        tx := (hookStep info req before part).2.elim (.cleanup req) (.freeHook req) })

theorem txStep_move {fault : Option TxFault} (taken : txStep info fault before = some after) :
    TxMove info before after fault := by
  unfold txStep at taken
  split at taken
  case h_1 stands =>
    split at taken
    · cases taken
    · cases taken
      exact .quiet .dequeue (stands ▸ .getSem) rfl
  case h_2 stands =>
    split at taken
    · cases taken
    next req rest queue =>
      cases taken
      exact .pop req rest stands queue rfl
  case h_3 req stands =>
    cases taken
    cases kind : (info req).rpcRspCb with
    | true => exact .quiet (.setCb req) (stands ▸ .composeAsync req kind) rfl
    | false => exact .quiet (.send req) (stands ▸ .composeSync req kind) rfl
  case h_4 req status stands =>
    cases taken
    exact .quiet (.failResp req status) (stands ▸ .composeFails req status) rfl
  case h_5 req stands =>
    cases taken
    exact .quiet (.failResp req _) (stands ▸ .composeFails req _) rfl
  case h_6 req stands =>
    cases taken
    exact .quiet (.failResp req _) (stands ▸ .composeFails req _) rfl
  case h_7 req stands =>
    split at taken
    next table registered =>
      cases taken
      obtain ⟨index, mapped, free, rfl⟩ := setAsyncRespCallback_ok registered
      exact .register req index stands mapped free rfl
    · cases taken
      exact .quiet (.failResp req _) (stands ▸ .setCbFails req) rfl
  case h_8 req stands =>
    cases taken
    exact .startTimer req stands rfl rfl
  case h_9 req stands =>
    cases taken
    exact .timerFails req stands rfl rfl
  case h_10 req stands =>
    cases taken
    exact .pack req stands rfl rfl
  case h_11 req stands =>
    cases taken
    exact .sendFails req stands rfl rfl
  case h_12 req status stands =>
    cases taken
    cases kind : (info req).rpcRspCb with
    | true =>
        exact .quiet (.failCall req status) (stands ▸ .reportAsync req status kind)
          rfl
    | false =>
        exact .quiet (.failPut req (failedResp (info req).msgId status))
          (stands ▸ .reportSync req status kind) rfl
  case h_13 req status stands =>
    cases taken
    exact .quiet (.freeHook req .test) (stands ▸ .unreported req status) rfl
  case h_14 req status stands =>
    cases taken
    exact .call req status stands rfl
  case h_15 req resp stands =>
    split at taken
    next room =>
      cases taken
      exact .queue req resp stands rfl room rfl
    · cases taken
  case h_16 req resp stands =>
    cases taken
    exact .quiet (.freeHook req .test) (stands ▸ .putFails req resp) rfl
  case h_17 req resp stands =>
    split at taken
    · cases taken
      exact .quiet (.failPost req resp) (stands ▸ .matched req resp) rfl
    · cases taken
      exact .quiet (.freeHook req .test) (stands ▸ .unmatched req resp) rfl
  case h_18 req resp stands =>
    split at taken
    next sem posted =>
      cases taken
      obtain ⟨slot, inside, found, rfl⟩ := postSyncRespSem_ok posted
      refine .post req resp slot stands inside found ?_
      rw [post_sem]
      rfl
    · cases taken
      exact .quiet (.freeHook req .test) (stands ▸ .unposted req resp) rfl
  case h_19 req part stands =>
    cases taken
    refine .hook req part stands ?_
    cases part <;> rfl
  case h_20 req stands =>
    cases taken
    exact .quiet .getSem (stands ▸ .cleanup req) rfl
  case h_21 => cases taken

theorem post_touch (req : Fin reqs) (state : State reqs syncSize asyncSize) (handle : Option (Fin reqs)) :
    ((state.touch req).post handle).sem = (state.post handle).sem ∧
      ((state.touch req).post handle).woken = (state.post handle).woken ∧
      ((state.touch req).post handle).nullPosts = (state.post handle).nullPosts ∧
      ((state.touch req).post handle).deadPosts = (state.post handle).deadPosts := by
  cases handle with
  | none => exact ⟨rfl, rfl, rfl, rfl⟩
  | some owner =>
      simp only [State.post, State.touch]
      split <;> exact ⟨rfl, rfl, rfl, rfl⟩

theorem txMove_untouch {fault : Option TxFault} (move : TxMove info (before.touch req) after fault) :
    TxMove info before after fault := by
  cases move with
  | quiet next edge effect => exact .quiet next edge effect
  | pop other rest stands queue effect => exact .pop other rest stands queue effect
  | register other index stands mapped free effect => exact .register other index stands mapped free effect
  | startTimer other stands sound effect => exact .startTimer other stands sound effect
  | timerFails other stands failing effect => exact .timerFails other stands failing effect
  | pack other stands sound effect => exact .pack other stands sound effect
  | sendFails other stands failing effect => exact .sendFails other stands failing effect
  | call other status stands effect => exact .call other status stands effect
  | queue other resp stands sound room effect => exact .queue other resp stands sound room effect
  | post other resp slot stands inside found effect =>
      obtain ⟨sem, woken, nulls, deads⟩ := post_touch req before (before.syncRspTable slot).sem
      refine .post other resp slot stands inside found ?_
      rw [← sem, ← woken, ← nulls, ← deads]
      exact effect
  | hook other part stands effect =>
      refine .hook other part stands ?_
      cases part <;> exact effect

/-- Statements of `process_rpc_rx_msg` that only advance the thread. -/
inductive RxQuiet : RxPc → RxPc → Prop where
  | running (resp : CtrlCmd) : RxQuiet (.timerTest resp) (.timerStop resp)
  | untimed (resp : CtrlCmd) : RxQuiet (.timerTest resp) (.asyncTest resp)
  | available (resp : CtrlCmd) : RxQuiet (.asyncTest resp) (.asyncCall resp)
  | unavailable (resp : CtrlCmd) : RxQuiet (.asyncTest resp) (.putRx resp)
  | uncalled (resp : CtrlCmd) : RxQuiet (.asyncCall resp) (.asyncClear resp)
  | matched (resp : CtrlCmd) : RxQuiet (.semTest resp) (.semPost resp)

inductive RxMove (before after : State reqs syncSize asyncSize) (queued : Bool) : Prop where
  | quiet (next : RxPc) (edge : RxQuiet before.rx next) (effect : Agrees after { before with rx := next })
  | stopTimer (resp : CtrlCmd) (stands : before.rx = .timerStop resp)
      (effect : Agrees after { before with
        timer := (before.timerStop before.asyncTimerHdl).timer
        rx := .timerForget resp })
  | forgetTimer (resp : CtrlCmd) (stands : before.rx = .timerForget resp)
      (effect : Agrees after { before with asyncTimerHdl := none, rx := .asyncTest resp })
  | call (resp : CtrlCmd) (index : Fin asyncSize) (stands : before.rx = .asyncCall resp)
      (found : asyncSlotOf before.asyncRspTable resp.uid = some index)
      (effect : Agrees after { before with
        calls := (before.callback (before.asyncRspTable index).cb resp.respEventStatus).calls
        nullCalls := (before.callback (before.asyncRspTable index).cb resp.respEventStatus).nullCalls
        rx := .asyncClear resp })
  | clear (resp : CtrlCmd) (stands : before.rx = .asyncClear resp)
      (effect : Agrees after ({ before with
        asyncRspTable := clearAsyncRespCallback before.asyncRspTable resp }.finish resp))
  | queue (resp : CtrlCmd) (stands : before.rx = .putRx resp) (sound : queued = true)
      (room : before.rpcRxQ.length < rpcRxQueueSize)
      (effect : Agrees after { before with
        rpcRxQ := before.rpcRxQ ++ [resp]
        rx := .semTest resp })
  | drop (resp : CtrlCmd) (stands : before.rx = .putRx resp) (effect : Agrees after (before.finish resp))
  | unmatched (resp : CtrlCmd) (stands : before.rx = .semTest resp)
      (missing : syncSlotOf before.syncRspTable resp.uid = none)
      (effect : Agrees after (before.finish resp))
  | post (resp : CtrlCmd) (slot : Fin syncSize) (stands : before.rx = .semPost resp)
      (inside : respMsgIdValid resp.msgId = true)
      (found : syncSlotOf before.syncRspTable resp.uid = some slot)
      (effect : Agrees after ({ before with
        sem := (before.post (before.syncRspTable slot).sem).sem
        woken := (before.post (before.syncRspTable slot).sem).woken
        nullPosts := (before.post (before.syncRspTable slot).sem).nullPosts
        deadPosts := (before.post (before.syncRspTable slot).sem).deadPosts }.finish resp))
  | unposted (resp : CtrlCmd) (stands : before.rx = .semPost resp)
      (refused : respMsgIdValid resp.msgId = false ∨ syncSlotOf before.syncRspTable resp.uid = none)
      (effect : Agrees after (before.finish resp))

theorem isSyncRespSemAvailable_none {table : SyncTable syncSize (Fin reqs)} {uid : UInt32}
    (missing : isSyncRespSemAvailable table uid ≠ callbackAvailable) : syncSlotOf table uid = none := by
  unfold isSyncRespSemAvailable at missing
  split at missing
  · exact absurd rfl missing
  next none => exact none

theorem postSyncRespSem_error {table : SyncTable syncSize (Fin reqs)} {resp : CtrlCmd} {error : Int}
    (refused : postSyncRespSem table resp = .error error) :
    respMsgIdValid resp.msgId = false ∨ syncSlotOf table resp.uid = none := by
  unfold postSyncRespSem at refused
  split at refused
  · split at refused
    · cases refused
    next missing => exact Or.inr missing
  next outside => exact Or.inl (by simpa using outside)

theorem callAsyncRespCallback_ok {table : AsyncTable asyncSize (Fin reqs)} {resp : CtrlCmd}
    {cb : Option (Fin reqs)} (called : callAsyncRespCallback table resp = .ok cb) :
    ∃ index, asyncSlotOf table resp.uid = some index ∧ cb = (table index).cb := by
  unfold callAsyncRespCallback at called
  split at called
  · split at called
    next index found =>
      cases called
      exact ⟨index, found, rfl⟩
    · cases called
  · cases called

theorem rxStep_move {queued : Bool} (taken : rxStep queued before = some after) :
    RxMove before after queued := by
  unfold rxStep at taken
  split at taken
  case h_1 => cases taken
  case h_2 resp stands =>
    split at taken
    · cases taken
      exact .quiet (.timerStop resp) (stands ▸ .running resp) rfl
    · cases taken
      exact .quiet (.asyncTest resp) (stands ▸ .untimed resp) rfl
  case h_3 resp stands =>
    cases taken
    refine .stopTimer resp stands ?_
    rw [timerStop_timer]
    rfl
  case h_4 resp stands =>
    cases taken
    exact .forgetTimer resp stands rfl
  case h_5 resp stands =>
    split at taken
    · cases taken
      exact .quiet (.asyncCall resp) (stands ▸ .available resp) rfl
    · cases taken
      exact .quiet (.putRx resp) (stands ▸ .unavailable resp) rfl
  case h_6 resp stands =>
    split at taken
    next cb called =>
      cases taken
      obtain ⟨index, found, rfl⟩ := callAsyncRespCallback_ok called
      refine .call resp index stands found ?_
      rw [callback_calls]
      rfl
    · cases taken
      exact .quiet (.asyncClear resp) (stands ▸ .uncalled resp) rfl
  case h_7 resp stands =>
    cases taken
    exact .clear resp stands rfl
  case h_8 resp stands =>
    split at taken
    next sound =>
      split at taken
      next room =>
        cases taken
        exact .queue resp stands sound room rfl
      · cases taken
    · cases taken
      exact .drop resp stands rfl
  case h_9 resp stands =>
    split at taken
    · cases taken
      exact .quiet (.semPost resp) (stands ▸ .matched resp) rfl
    next missing =>
      cases taken
      exact .unmatched resp stands (isSyncRespSemAvailable_none missing) rfl
  case h_10 resp stands =>
    split at taken
    next sem posted =>
      cases taken
      obtain ⟨slot, inside, found, rfl⟩ := postSyncRespSem_ok posted
      refine .post resp slot stands inside found ?_
      rw [post_sem]
      rfl
    next error refused =>
      cases taken
      exact .unposted resp stands (postSyncRespSem_error refused) rfl

/-- One step of the system, by thread. -/
inductive Move (info : Fin reqs → ReqInfo) (before after : State reqs syncSize asyncSize) :
    Act reqs → Prop where
  | req (req : Fin reqs) (choice : ReqChoice) (move : ReqMove info req before after choice) :
      Move info before after (.req req choice)
  | tx (fault : Option TxFault) (move : TxMove info before after fault) :
      Move info before after (.tx fault)
  | receive (msg : Rpc) (stands : before.rx = .idle)
      (effect : Agrees after { before with rx := .timerTest (rpcParseRsp msg) }) :
      Move info before after (.receive msg)
  | rx (queued : Bool) (move : RxMove before after queued) : Move info before after (.rx queued)
  | expire (req : Fin reqs) (alloc : Bool) (stands : before.timer req = .running)
      (effect : Agrees after { before with
        timer := Function.update before.timer req .expired
        calls := if alloc then
          Function.update before.calls req (before.calls req ++ [rpcErrRequestTimeout])
          else before.calls }) :
      Move info before after (.expire req alloc)

theorem step_move {act : Act reqs} (taken : step info before act = some after) :
    Move info before after act := by
  cases act with
  | req req choice => exact .req req choice (reqMove_untouch (reqStep_move taken))
  | tx fault =>
      refine .tx fault ?_
      -- that a request is touched changes nothing a move speaks about
      simp only [step] at taken
      cases held : before.tx.current with
      | none =>
          rw [held] at taken
          exact txStep_move taken
      | some req =>
          rw [held] at taken
          exact txMove_untouch (txStep_move taken)
  | receive msg =>
      simp only [step] at taken
      split at taken
      next idle =>
        cases taken
        exact .receive msg idle rfl
      · cases taken
  | rx queued => exact .rx queued (rxStep_move taken)
  | expire req alloc =>
      simp only [step, expireStep] at taken
      split at taken
      next stands =>
        cases taken
        refine .expire req alloc stands ?_
        cases alloc <;> rfl
      · cases taken

/-! Which thread moves which program counter. -/

theorem req_tx_rx {choice : ReqChoice} (move : ReqMove info req before after choice) :
    after.tx = before.tx ∧ after.rx = before.rx := by
  cases move with
  | quiet _ _ effect | putFails _ _ effect | put _ effect | copyUid _ effect
  | createSem _ _ effect | fill _ _ effect | take _ _ _ _ _ _ effect | giveUp _ _ _ effect
  | clear _ _ _ effect | dequeue _ _ _ _ _ effect | abandon _ effect => exact ⟨effect.tx, effect.rx⟩

theorem rx_tx {queued : Bool} (move : RxMove before after queued) : after.tx = before.tx := by
  cases move with
  | quiet _ _ effect | stopTimer _ _ effect | forgetTimer _ _ effect | call _ _ _ _ effect
  | clear _ _ effect | queue _ _ _ _ effect | drop _ _ effect | unmatched _ _ _ effect
  | post _ _ _ _ _ effect | unposted _ _ _ effect => exact effect.tx

theorem tx_pc {fault : Option TxFault} (move : TxMove info before after fault) :
    after.pc = before.pc ∧ after.rx = before.rx := by
  cases move with
  | quiet _ _ effect | pop _ _ _ _ effect | register _ _ _ _ _ effect | startTimer _ _ _ effect
  | timerFails _ _ _ effect | pack _ _ _ effect | sendFails _ _ _ effect | call _ _ _ effect
  | queue _ _ _ _ _ effect | post _ _ _ _ _ _ effect | hook _ _ _ effect =>
      exact ⟨effect.pc, effect.rx⟩

end EspHosted.RpcCore

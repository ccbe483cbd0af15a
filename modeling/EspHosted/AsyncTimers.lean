import EspHosted.AsyncRequests

/-!
The response timers. Every asynchronous request has its own, but their handles go
through the one global `async_timer_hdl`, which the rx thread stops and forgets on
every response, whatever its uid.
-/

namespace EspHosted.AsyncTimers
open RpcTables RpcCore GuardedRun QueuedRequests AsyncRequests

variable {reqs syncSize asyncSize : Nat} {info : Fin reqs → ReqInfo}
variable {before after : State reqs syncSize asyncSize} {req : Fin reqs}

/-- The response for which the rx thread looks at `async_timer_hdl`. -/
def stopping : RxPc → Option CtrlCmd
  | .timerTest resp | .timerStop resp | .timerForget resp => some resp
  | _ => none

/-- The response the rx thread works on. -/
def handling : RxPc → Option CtrlCmd
  | .idle => none
  | .timerTest resp | .timerStop resp | .timerForget resp | .asyncTest resp | .asyncCall resp
  | .asyncClear resp | .putRx resp | .semTest resp | .semPost resp => some resp

/-- A response comes while no timer runs under the global handle but that of its own
request, no other request starts its timer while the rx thread looks at the handle,
and the timeout handler gets its memory. -/
def OneTimer (state : State reqs syncSize asyncSize) : Act reqs → Prop
  | .receive msg => ∀ req ∈ state.asyncTimerHdl, state.timer req = .running →
      state.reqUid req = msg.uid
  | .tx _ => ∀ req, state.tx = .startTimer req →
      ∀ resp ∈ stopping state.rx, state.reqUid req = resp.uid
  | .expire _ alloc => alloc = true
  | .req _ _ | .rx _ => True

/-- The request was told of its timeout, or an answer to it has come or is being handled. -/
def Ended (state : State reqs syncSize asyncSize) (req : Fin reqs) : Prop :=
  rpcErrRequestTimeout ∈ state.calls req ∨ state.answered req = true ∨
    ∃ resp ∈ handling state.rx, state.reqUid req = resp.uid

structure TimerInv (state : State reqs syncSize asyncSize) : Prop where
  own : ∀ resp ∈ stopping state.rx, ∀ req ∈ state.asyncTimerHdl, state.timer req = .running →
    state.reqUid req = resp.uid
  ended : ∀ req, state.timer req ≠ .absent → state.timer req = .running ∨ Ended state req

theorem timerInv_init : TimerInv (init info : State reqs syncSize asyncSize) := by
  constructor <;> simp [init, stopping]

/-- A step that stops no timer, and after which every timer that runs under the global
handle ran under it before. -/
structure TimerKept (before after : State reqs syncSize asyncSize) : Prop where
  own : ∀ resp ∈ stopping after.rx, resp ∈ stopping before.rx
  handle : ∀ req ∈ after.asyncTimerHdl, req ∈ before.asyncTimerHdl
  timer : after.timer = before.timer
  uids : ∀ req, before.timer req ≠ .absent → after.reqUid req = before.reqUid req
  calls : ∀ req status, status ∈ before.calls req → status ∈ after.calls req
  answered : ∀ req, before.answered req = true → after.answered req = true
  handles : ∀ req, before.timer req ≠ .absent →
    ∀ resp ∈ handling before.rx, before.reqUid req = resp.uid →
      resp ∈ handling after.rx ∨ after.answered req = true

theorem TimerKept.ended (kept : TimerKept before after) (started : before.timer req ≠ .absent)
    (ended : Ended before req) : Ended after req := by
  rcases ended with told | answered | ⟨resp, now, uid⟩
  · exact Or.inl (kept.calls req _ told)
  · exact Or.inr (Or.inl (kept.answered req answered))
  · rcases kept.handles req started resp now uid with still | answered
    · exact Or.inr (Or.inr ⟨resp, still, by rw [kept.uids req started, uid]⟩)
    · exact Or.inr (Or.inl answered)

theorem timerInv_kept (inv : TimerInv before) (kept : TimerKept before after) : TimerInv after where
  own resp stops req held running := by
    rw [kept.timer] at running
    rw [kept.uids req (by simp [running])]
    exact inv.own resp (kept.own resp stops) req (kept.handle req held) running
  ended req started := by
    rw [kept.timer] at started ⊢
    exact (inv.ended req started).imp_right (kept.ended started)

theorem queued_numbered {pc : ReqPc syncSize} (queued : pc.queued = true) : pc.numbered = true := by
  cases pc <;> simp_all [ReqPc.queued, ReqPc.numbered]

theorem kept_req {choice : ReqChoice} (queue : QueueInv info before)
    (move : ReqMove info req before after choice) : TimerKept before after := by
  obtain ⟨-, rx⟩ := req_tx_rx move
  have timer := (req_queue move).timer
  have rest : after.asyncTimerHdl = before.asyncTimerHdl ∧ after.calls = before.calls ∧
      after.answered = before.answered := by
    cases move with
    | quiet _ _ effect | putFails _ _ effect | put _ effect | copyUid _ effect
    | createSem _ _ effect | fill _ _ effect | take _ _ _ _ _ _ effect | giveUp _ _ _ effect
    | clear _ _ _ effect | dequeue _ _ _ _ _ effect | abandon _ effect =>
        exact ⟨effect.asyncTimerHdl, effect.calls, effect.answered⟩
  obtain ⟨handle, calls, answered⟩ := rest
  constructor
  case own =>
    rw [rx]
    exact fun _ => id
  case handle =>
    rw [handle]
    exact fun _ => id
  case timer => exact timer
  case uids =>
    intro other started
    by_cases moved : other = req
    · subst other
      have numbered := queued_numbered (queue.timed req started).2
      rw [(numbered_move move numbered).2]
    · exact reqUid_other move moved
  case calls =>
    rw [calls]
    exact fun _ _ => id
  case answered =>
    rw [answered]
    exact fun _ => id
  case handles =>
    rw [rx]
    exact fun _ _ _ now _ => Or.inl now

theorem callback_grows (state : State reqs syncSize asyncSize) (cb : Option (Fin reqs))
    (told status : Int) (member : status ∈ state.calls req) :
    status ∈ (state.callback cb told).calls req := by
  cases cb with
  | none => exact member
  | some owner =>
      by_cases same : req = owner
      · subst owner
        simp [State.callback, member]
      · simpa [State.callback, same] using member

/-- No response comes or is done with, and no timer is started or stopped. -/
theorem kept_on (before after : State reqs syncSize asyncSize)
    (handling : handling after.rx = handling before.rx)
    (own : ∀ resp ∈ stopping after.rx, resp ∈ stopping before.rx)
    (handle : ∀ req ∈ after.asyncTimerHdl, req ∈ before.asyncTimerHdl)
    (timer : after.timer = before.timer) (reqUid : after.reqUid = before.reqUid)
    (calls : ∀ req status, status ∈ before.calls req → status ∈ after.calls req)
    (answered : after.answered = before.answered) : TimerKept before after where
  own := own
  handle := handle
  timer := timer
  uids req _ := by rw [reqUid]
  calls := calls
  answered := by
    rw [answered]
    exact fun _ => id
  handles := by
    rw [handling]
    exact fun _ _ _ now _ => Or.inl now

/-- The steps that leave the timer, its handle and the calls alone. -/
theorem timerInv_quiet (inv : TimerInv before) (handling : handling after.rx = handling before.rx)
    (own : ∀ resp ∈ stopping after.rx, resp ∈ stopping before.rx)
    (handle : after.asyncTimerHdl = before.asyncTimerHdl) (timer : after.timer = before.timer)
    (reqUid : after.reqUid = before.reqUid) (calls : after.calls = before.calls)
    (answered : after.answered = before.answered) : TimerInv after := by
  apply timerInv_kept inv
  apply kept_on before after handling own _ timer reqUid _ answered
  · rw [handle]
    exact fun _ => id
  · rw [calls]
    exact fun _ _ => id

theorem timerInv_tx {fault : Option TxFault} (inv : TimerInv before)
    (alone : OneTimer before (.tx fault)) (move : TxMove info before after fault) :
    TimerInv after := by
  cases move with
  | startTimer req stands sound effect =>
      constructor
      case own =>
        rw [effect.rx, effect.asyncTimerHdl, effect.reqUid]
        intro resp stops other held running
        have is : req = other := by simpa using held
        -- the new timer takes the handle the rx thread may be looking at
        exact is ▸ alone req stands resp stops
      case ended =>
        intro other started
        by_cases same : other = req
        · exact Or.inl (by simp [effect.timer, same])
        · rw [effect.timer] at started ⊢
          simp only [Ended, effect.calls, effect.answered, effect.rx, effect.reqUid]
          simpa [same, Ended] using inv.ended other (by simpa [same] using started)
  | timerFails req stands failing effect =>
      apply timerInv_kept inv
      apply kept_on before after (congrArg handling effect.rx) (by rw [effect.rx]; exact fun _ => id) _
        effect.timer effect.reqUid _ effect.answered
      · simp [effect.asyncTimerHdl]
      · rw [effect.calls]
        exact fun _ _ => id
  | call req status stands effect =>
      apply timerInv_kept inv
      apply kept_on before after (congrArg handling effect.rx) (by rw [effect.rx]; exact fun _ => id) _
        effect.timer effect.reqUid _ effect.answered
      · rw [effect.asyncTimerHdl]
        exact fun _ => id
      · rw [effect.calls]
        exact fun other told => callback_grows before (some req) status told
  | quiet _ _ effect | pop _ _ _ _ effect | register _ _ _ _ _ effect | pack _ _ _ effect
  | sendFails _ _ _ effect | queue _ _ _ _ _ effect | post _ _ _ _ _ _ effect
  | hook _ _ _ effect =>
      exact timerInv_quiet inv (congrArg handling effect.rx) (by rw [effect.rx]; exact fun _ => id)
        effect.asyncTimerHdl effect.timer effect.reqUid effect.calls effect.answered

/-- The rx thread is done with its response: whoever has its uid has been answered. -/
theorem kept_finish (before after : State reqs syncSize asyncSize) (queue : QueueInv info before)
    {resp : CtrlCmd} (now : handling before.rx = some resp) (idle : after.rx = .idle)
    (handle : after.asyncTimerHdl = before.asyncTimerHdl) (timer : after.timer = before.timer)
    (reqUid : after.reqUid = before.reqUid) (calls : after.calls = before.calls)
    (answered : after.answered = fun req =>
      before.answered req || (before.pc req).numbered && before.reqUid req == resp.uid) :
    TimerKept before after where
  own := by simp [idle, stopping]
  handle := by
    rw [handle]
    exact fun _ => id
  timer := timer
  uids req _ := by rw [reqUid]
  calls := by
    rw [calls]
    exact fun _ _ => id
  answered req was := by simp [answered, was]
  handles req started other held uid := by
    have is : resp = other := by simpa [now] using held
    have numbered := queued_numbered (queue.timed req started).2
    exact Or.inr (by simp [answered, numbered, uid, is])

theorem rxQuiet_stopping {here next : RxPc} (edge : RxQuiet here next) :
    handling next = handling here ∧ ∀ resp ∈ stopping next, resp ∈ stopping here := by
  cases edge <;> simp [handling, stopping]

/-- The timer that a response stops belongs to the request it answers. -/
theorem timerInv_stop (inv : TimerInv before) {resp : CtrlCmd} (stands : before.rx = .timerStop resp)
    (effect : Agrees after { before with
      timer := (before.timerStop before.asyncTimerHdl).timer
      rx := .timerForget resp }) : TimerInv after := by
  have own := inv.own resp (by simp [stands, stopping])
  constructor
  case own =>
    rw [effect.rx, effect.asyncTimerHdl, effect.timer, effect.reqUid]
    intro other stops req held running
    have is : resp = other := by simpa [stopping] using stops
    exact is ▸ own req held (timerStop_running running)
  case ended =>
    intro req started
    rw [effect.timer] at started ⊢
    have lasting : Ended before req → Ended after req := by
      simp only [Ended, effect.calls, effect.answered, effect.rx, effect.reqUid, stands, handling]
      exact id
    rcases inv.ended req (timerStop_started started) with running | ended
    · by_cases held : req ∈ before.asyncTimerHdl
      -- the timer that is stopped is that of the request whose answer is being handled
      · refine Or.inr (Or.inr (Or.inr ⟨resp, by simp [effect.rx, handling], ?_⟩))
        rw [effect.reqUid]
        exact own req held running
      · refine Or.inl ?_
        cases handle : before.asyncTimerHdl with
        | none => exact running
        | some owner =>
            have apart : req ≠ owner := by
              rintro rfl
              exact held handle
            cases stands : before.timer owner <;> simpa [State.timerStop, stands, apart] using running
    · exact Or.inr (lasting ended)

theorem timerInv_rx {queued : Bool} (queue : QueueInv info before) (inv : TimerInv before)
    (move : RxMove before after queued) : TimerInv after := by
  cases move with
  | stopTimer resp stands effect => exact timerInv_stop inv stands effect
  | quiet next edge effect =>
      exact timerInv_quiet inv (by rw [effect.rx]; exact (rxQuiet_stopping edge).1)
        (by rw [effect.rx]; exact (rxQuiet_stopping edge).2) effect.asyncTimerHdl effect.timer
        effect.reqUid effect.calls effect.answered
  | forgetTimer resp stands effect =>
      apply timerInv_kept inv
      apply kept_on before after (by simp [effect.rx, stands, handling])
        (by simp [effect.rx, stopping]) _ effect.timer effect.reqUid _ effect.answered
      · simp [effect.asyncTimerHdl]
      · rw [effect.calls]
        exact fun _ _ => id
  | call resp index stands found effect =>
      apply timerInv_kept inv
      apply kept_on before after (by simp [effect.rx, stands, handling])
        (by simp [effect.rx, stopping]) _ effect.timer effect.reqUid _ effect.answered
      · rw [effect.asyncTimerHdl]
        exact fun _ => id
      · rw [effect.calls]
        exact fun other told => callback_grows before (before.asyncRspTable index).cb _ told
  | queue resp stands sound room effect =>
      exact timerInv_quiet inv (by simp [effect.rx, stands, handling])
        (by simp [effect.rx, stopping]) effect.asyncTimerHdl effect.timer effect.reqUid effect.calls
        effect.answered
  | clear resp stands effect | drop resp stands effect | unmatched resp stands _ effect
  | post resp _ stands _ _ effect | unposted resp stands _ effect =>
      apply timerInv_kept inv
      exact kept_finish before after queue (by rw [stands]; rfl) effect.rx effect.asyncTimerHdl
        effect.timer effect.reqUid effect.calls effect.answered

theorem timerInv_step {act : Act reqs} (queue : QueueInv info before) (inv : TimerInv before)
    (alone : OneTimer before act) (move : Move info before after act) : TimerInv after := by
  cases move with
  | req req choice move => exact timerInv_kept inv (kept_req queue move)
  | tx fault move => exact timerInv_tx inv alone move
  | rx queued move => exact timerInv_rx queue inv move
  | receive msg stands effect =>
      constructor
      case own =>
        rw [effect.rx, effect.asyncTimerHdl, effect.timer, effect.reqUid]
        intro resp stops req held running
        have is : rpcParseRsp msg = resp := by simpa [stopping] using stops
        exact is ▸ alone req held running
      case ended =>
        intro req started
        rw [effect.timer] at started ⊢
        refine (inv.ended req started).imp_right fun ended => ?_
        simpa [Ended, effect.calls, effect.answered, effect.reqUid, stands, handling] using
          ended.imp_right Or.inl
  | expire req alloc stands effect =>
      have told : alloc = true := alone
      subst told
      have elsewhere : ∀ other, other ≠ req → after.timer other = before.timer other := by
        intro other apart
        simp [effect.timer, apart]
      constructor
      case own =>
        rw [effect.rx, effect.asyncTimerHdl, effect.reqUid]
        intro resp stops other held running
        -- a timer that has run out no longer runs under the handle
        by_cases same : other = req
        · simp [effect.timer, same] at running
        · exact inv.own resp stops other held (elsewhere other same ▸ running)
      case ended =>
        intro other started
        by_cases same : other = req
        · exact Or.inr (Or.inl (by simp [effect.calls, same]))
        · rw [elsewhere other same] at started ⊢
          simpa [Ended, effect.calls, effect.answered, effect.rx, effect.reqUid, same] using
            inv.ended other started

theorem timerInv_run (run : Run (step info) OneTimer (init info) after) : TimerInv after :=
  run.invariant timerInv_init fun _ _ _ sofar inv alone taken =>
    timerInv_step (queueInv_run sofar.forget) inv alone (step_move taken)

/-- `spared`: where the rx thread stops or forgets a timer that still runs, it is that of
the request whose response has come. `told`: whoever started a timer still has it running
or has been told of the end. -/
structure TimersApart (state : State reqs syncSize asyncSize) : Prop where
  spared : ∀ resp, state.rx = .timerStop resp ∨ state.rx = .timerForget resp →
    ∀ req ∈ state.asyncTimerHdl, state.timer req = .running → state.reqUid req = resp.uid
  told : ∀ req, state.timer req ≠ .absent → state.timer req = .running ∨ Ended state req

/-- In a run where the timers do not meet under the global handle, no response stops the
timer of another request. -/
theorem timeout_independent (run : Run (step info) OneTimer (init info) after) :
    TimersApart after where
  spared resp stands := by
    have inv := timerInv_run run
    rcases stands with stands | stands
    · exact inv.own resp (by simp [stands, stopping])
    · exact inv.own resp (by simp [stands, stopping])
  told := (timerInv_run run).ended

instance oneTimerDecidable (state : State reqs syncSize asyncSize) :
    (act : Act reqs) → Decidable (OneTimer state act)
  | .receive msg => inferInstanceAs (Decidable (∀ req ∈ state.asyncTimerHdl,
      state.timer req = .running → state.reqUid req = msg.uid))
  | .tx _ => inferInstanceAs (Decidable (∀ req, state.tx = .startTimer req →
      ∀ resp ∈ stopping state.rx, state.reqUid req = resp.uid))
  | .expire _ alloc => inferInstanceAs (Decidable (alloc = true))
  | .req _ _ | .rx _ => .isTrue trivial

/-- Two asynchronous requests one after the other: the first is answered, the second is
not and times out. -/
def answeredThenSilent : List (Act 2) :=
  go former 7 ++ List.replicate 8 (.tx none) ++ .receive ⟨513, 1, 0⟩ ::
    List.replicate 6 (.rx true) ++ go latter 7 ++ List.replicate 8 (.tx none) ++ [.expire latter true]

theorem timeout_independent_two : ∃ state : State 2 1 1,
    (state.answered 0 = true ∧ state.timer 0 = .deleted ∧
      state.calls 1 = [rpcErrRequestTimeout]) ∧ TimersApart state := by
  obtain ⟨state, run, done⟩ := admitted_reaches (step async) OneTimer (init async) answeredThenSilent
    (fun state : State 2 1 1 => state.answered 0 = true ∧ state.timer 0 = .deleted ∧
      state.calls 1 = [rpcErrRequestTimeout]) (by decide) (by decide)
  exact ⟨state, done, timeout_independent run⟩

/-- Two asynchronous requests at once: the response to the first deletes the timer of the
second, whose caller hears nothing any more. -/
theorem timeout_independent_fails : ∃ state : State 2 1 2,
    Reachable async state ∧ state.rx = .idle ∧ state.timer 1 = .deleted ∧ state.calls 1 = [] ∧
      state.answered 1 = false ∧ ¬ TimersApart state := by
  obtain ⟨state, run, idle, deleted, silent, unanswered⟩ := exec_reaches (step async) (init async)
    (go 0 7 ++ go 1 7 ++ List.replicate 16 (.tx none) ++ .receive ⟨513, 1, 0⟩ ::
      List.replicate 6 (.rx true))
    (fun state : State 2 1 2 => state.rx = .idle ∧ state.timer 1 = .deleted ∧ state.calls 1 = [] ∧
      state.answered 1 = false) (by decide)
  refine ⟨state, run, idle, deleted, silent, unanswered, fun sound => ?_⟩
  rcases sound.told 1 (by simp [deleted]) with running | told | answered | ⟨resp, now, -⟩
  · simp [deleted] at running
  · simp [silent] at told
  · simp [unanswered] at answered
  · simp [idle, handling] at now

end EspHosted.AsyncTimers

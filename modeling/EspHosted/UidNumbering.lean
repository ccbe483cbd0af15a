import EspHosted.SyncRspTable

/-!
Where the uids of `rpc_send_req` come from. The counter is a global that every
requester loads, increments, tests and copies in statements of its own. Where these do
not interleave, the rollover test keeps 0 from being handed out; where the counter has
not come round to a uid in use either, every fill of `sync_rsp_table` brings an unused
one.
-/

namespace EspHosted.UidNumbering
open RpcTables RpcCore GuardedRun SyncRspTable

variable {reqs syncSize asyncSize : Nat} {info : Fin reqs → ReqInfo}
variable {before after : State reqs syncSize asyncSize} {req : Fin reqs}

/-- Between the first load of the counter and the copy. -/
def counting : ReqPc syncSize → Bool
  | .uidInc _ | .uidTest | .uidReload | .uidReinc _ | .uidCopy => true
  | _ => false

/-- The request has its uid and goes to store it. -/
def storing : ReqPc syncSize → Bool
  | .setSem | .searchSlot | .fillSlot _ => true
  | _ => false

/-- What a requester that counts knows of the counter. -/
def CountOk (uid : UInt32) : ReqPc syncSize → Prop
  | .uidReload => uid = 0
  | .uidReinc read => read = 0
  | .uidCopy => uid ≠ 0
  | _ => True

/-- One requester counts at a time, and what it copies is neither in the table nor on
its way there. -/
def Serial (state : State reqs syncSize asyncSize) : Act reqs → Prop
  | .req req _ =>
      (state.pc req = .start → ∀ other, counting (state.pc other) = false) ∧
      (state.pc req = .uidCopy → (∀ slot, (state.syncRspTable slot).uid ≠ state.uid) ∧
        ∀ other, storing (state.pc other) = true → state.reqUid other ≠ state.uid)
  | _ => True

/-- What a requester does to the counter. -/
inductive UidMove (req : Fin reqs) (before after : State reqs syncSize asyncSize) : Prop where
  | load (stands : before.pc req = .start) (next : after.pc req = .uidInc before.uid)
      (uid : after.uid = before.uid)
  | store (read : UInt32) (stands : before.pc req = .uidInc read) (next : after.pc req = .uidTest)
      (uid : after.uid = read + 1)
  | test (stands : before.pc req = .uidTest)
      (next : after.pc req = if before.uid = 0 then .uidReload else .uidCopy)
      (uid : after.uid = before.uid)
  | reload (stands : before.pc req = .uidReload) (next : after.pc req = .uidReinc before.uid)
      (uid : after.uid = before.uid)
  | restore (read : UInt32) (stands : before.pc req = .uidReinc read) (next : after.pc req = .uidCopy)
      (uid : after.uid = read + 1)
  | other (next : counting (after.pc req) = false) (uid : after.uid = before.uid)

theorem reqStep_uid {choice : ReqChoice} (taken : reqStep info req choice before = some after) :
    UidMove req before after := by
  unfold reqStep at taken
  split at taken
  case h_1 stands =>
    cases taken
    exact .load stands (by simp [State.goto]) rfl
  case h_2 read stands =>
    cases taken
    exact .store read stands (by simp [State.goto]) rfl
  case h_3 stands =>
    cases taken
    exact .test stands (by simp [State.goto]) rfl
  case h_4 stands =>
    cases taken
    exact .reload stands (by simp [State.goto]) rfl
  case h_5 read stands =>
    cases taken
    exact .restore read stands (by simp [State.goto]) rfl
  case h_6 stands =>
    cases taken
    refine .other ?_ rfl
    cases (info req).rpcRspCb <;> simp [State.goto, counting]
  case h_13 part stands =>
    cases taken
    refine .other ?_ ?_
    · simp only [State.goto, Function.update_self]
      cases (hookStep info req before part).2 <;> rfl
    · cases part <;> rfl
  case h_15 part stands =>
    cases taken
    refine .other ?_ ?_
    · simp only [State.goto, Function.update_self]
      cases (hookStep info req before part).2 <;> rfl
    · cases part <;> rfl
  case h_14 stands =>
    cases taken
    rw [destroy_sem]
    exact .other (by simp [State.goto, counting]) rfl
  case h_20 slot got stands =>
    cases taken
    rw [destroy_sem]
    refine .other ?_ rfl
    cases got <;> simp [State.goto, counting]
  -- no other statement comes near the counter
  all_goals
    repeat' split at taken
    all_goals first
      | (cases taken; done)
      | (cases taken; exact .other (by simp [State.goto, counting]) rfl)

theorem uidMove_untouch (move : UidMove req (before.touch req) after) : UidMove req before after := by
  cases move with
  | load stands next uid => exact .load stands next uid
  | store read stands next uid => exact .store read stands next uid
  | test stands next uid => exact .test stands next uid
  | reload stands next uid => exact .reload stands next uid
  | restore read stands next uid => exact .restore read stands next uid
  | other next uid => exact .other next uid

theorem txStep_uid {fault : Option TxFault} (taken : txStep info fault before = some after) :
    after.uid = before.uid := by
  unfold txStep at taken
  split at taken
  case h_19 req part stands =>
    cases taken
    cases part <;> rfl
  case h_18 req resp stands =>
    split at taken
    · cases taken
      rw [post_sem]
    · cases taken
      rfl
  all_goals
    repeat' split at taken
    all_goals first
      | (cases taken; done)
      | (cases taken; rfl)

theorem rxStep_uid {queued : Bool} (taken : rxStep queued before = some after) :
    after.uid = before.uid := by
  unfold rxStep at taken
  split at taken
  case h_3 resp stands =>
    cases taken
    rw [timerStop_timer]
  case h_6 resp stands =>
    split at taken
    · cases taken
      rw [callback_calls]
    · cases taken
      rfl
  case h_10 resp stands =>
    split at taken
    · cases taken
      rw [post_sem]
      rfl
    · cases taken
      rfl
  all_goals
    repeat' split at taken
    all_goals first
      | (cases taken; done)
      | (cases taken; rfl)

/-- Only requesters count. -/
theorem step_uid {act : Act reqs} (taken : step info before act = some after) :
    (∃ req choice, act = .req req choice ∧ ReqMove info req before after choice ∧
      UidMove req before after) ∨ SyncKept before after ∧ after.uid = before.uid := by
  rcases sync_move (step_move taken) with ⟨req, choice, rfl, move⟩ | kept
  · exact Or.inl ⟨req, choice, rfl, move, uidMove_untouch (reqStep_uid taken)⟩
  cases act with
  | req req choice =>
      have move := reqMove_untouch (reqStep_move taken)
      exact Or.inl ⟨req, choice, rfl, move, uidMove_untouch (reqStep_uid taken)⟩
  | tx fault =>
      refine Or.inr ⟨kept, ?_⟩
      simp only [step] at taken
      cases held : before.tx.current with
      | none =>
          rw [held] at taken
          exact txStep_uid taken
      | some req =>
          rw [held] at taken
          have same : after.uid = (before.touch req).uid := txStep_uid taken
          exact same
  | rx queued => exact Or.inr ⟨kept, rxStep_uid taken⟩
  | receive msg =>
      refine Or.inr ⟨kept, ?_⟩
      simp only [step] at taken
      split at taken
      · cases taken
        rfl
      · cases taken
  | expire req alloc =>
      refine Or.inr ⟨kept, ?_⟩
      simp only [step, expireStep] at taken
      split at taken
      · cases taken
        cases alloc <;> rfl
      · cases taken

structure Numbered (state : State reqs syncSize asyncSize) : Prop where
  alone : ∀ req other, counting (state.pc req) = true → counting (state.pc other) = true → req = other
  count : ∀ req, CountOk state.uid (state.pc req)
  valid : ∀ req, storing (state.pc req) = true → state.reqUid req ≠ 0
  unused : ∀ req, storing (state.pc req) = true →
    ∀ slot, (state.syncRspTable slot).uid ≠ state.reqUid req
  apart : ∀ req other, storing (state.pc req) = true → storing (state.pc other) = true →
    state.reqUid req = state.reqUid other → req = other

theorem numbered_init : Numbered (init info : State reqs syncSize asyncSize) := by
  constructor <;> simp [init, counting, storing, CountOk]

/-- A request that goes to store its uid did so before, or has just copied it. -/
theorem storing_move {choice : ReqChoice} (move : ReqMove info req before after choice)
    (stores : storing (after.pc req) = true) :
    after.syncRspTable = before.syncRspTable ∧
      (storing (before.pc req) = true ∧ after.reqUid = before.reqUid ∨
        before.pc req = .uidCopy ∧ after.reqUid = Function.update before.reqUid req before.uid) := by
  cases move with
  | quiet next edge effect =>
      rw [effect.pc] at stores
      refine ⟨effect.syncRspTable, Or.inl ⟨?_, effect.reqUid⟩⟩
      generalize before.pc req = here at edge
      cases edge <;> simp_all [State.goto, storing]
  | copyUid stands effect => exact ⟨effect.syncRspTable, Or.inr ⟨stands, effect.reqUid⟩⟩
  | createSem stands _ effect =>
      exact ⟨effect.syncRspTable, Or.inl ⟨by simp [stands, storing], effect.reqUid⟩⟩
  | clear slot taken stands effect =>
      rw [effect.pc] at stores
      cases taken <;> simp [State.goto, storing] at stores
  | putFails _ _ effect | put _ effect | fill _ _ effect | take _ _ _ _ _ _ effect
  | giveUp _ _ _ effect | dequeue _ _ _ _ _ effect | abandon _ effect =>
      rw [effect.pc] at stores
      simp [State.goto, storing] at stores

/-- A uid in the table was there before, or a request that stores has brought it. -/
theorem uid_move {choice : ReqChoice} (move : ReqMove info req before after choice)
    (slot : Fin syncSize) :
    (after.syncRspTable slot).uid = (before.syncRspTable slot).uid ∨
      (after.syncRspTable slot).uid = 0 ∨
      storing (before.pc req) = true ∧ (after.syncRspTable slot).uid = before.reqUid req := by
  cases move with
  | fill place stands effect =>
      rw [effect.syncRspTable]
      by_cases same : slot = place
      · exact Or.inr (Or.inr ⟨by simp [stands, storing], by simp [State.goto, State.setSyncSlot, same]⟩)
      · exact Or.inl (by simp [State.goto, State.setSyncSlot, same])
  | clear place _ _ effect =>
      rw [effect.syncRspTable]
      by_cases same : slot = place
      · exact Or.inr (Or.inl (by simp [State.goto, State.setSyncSlot, same]))
      · exact Or.inl (by simp [State.goto, State.setSyncSlot, same])
  | quiet _ _ effect | putFails _ _ effect | put _ effect | copyUid _ effect
  | createSem _ _ effect | take _ _ _ _ _ _ effect | giveUp _ _ _ effect
  | dequeue _ _ _ _ _ effect | abandon _ effect =>
      exact Or.inl (by rw [effect.syncRspTable]; rfl)

theorem countOk_uncounted {uid : UInt32} {pc : ReqPc syncSize} (quiet : counting pc = false) :
    CountOk uid pc := by
  cases pc <;> simp_all [counting, CountOk]

theorem counting_move (move : UidMove req before after) (counts : counting (after.pc req) = true) :
    counting (before.pc req) = true ∨ before.pc req = .start := by
  cases move with
  | load stands _ _ => exact Or.inr stands
  | store _ stands _ _ | test stands _ _ | reload stands _ _ | restore _ stands _ _ =>
      exact Or.inl (by simp [stands, counting])
  | other next _ =>
      rw [next] at counts
      cases counts

/-- What a requester learns of the counter still holds: nobody else counts meanwhile. -/
theorem count_move (inv : Numbered before) {choice : ReqChoice}
    (move : ReqMove info req before after choice) (counter : UidMove req before after)
    (other : Fin reqs) : CountOk after.uid (after.pc other) := by
  by_cases moved : other = req
  · subst other
    have known := inv.count req
    cases counter with
    | load _ next _ | store _ _ next _ =>
        rw [next]
        trivial
    | test _ next uid =>
        rw [next, uid]
        by_cases zero : before.uid = 0
        · simp [zero, CountOk]
        · simp [zero, CountOk]
    | reload stands next uid =>
        rw [stands] at known
        rw [next]
        exact known
    | restore read stands next uid =>
        -- the counter read 0, so it is 1 now
        rw [stands] at known
        have zero : read = 0 := known
        rw [next, uid, zero]
        simp [CountOk]
    | other next _ => exact countOk_uncounted next
  · rw [pc_other move moved]
    have alone : counting (before.pc req) = true → CountOk after.uid (before.pc other) := by
      intro counts
      apply countOk_uncounted
      by_contra also
      exact moved (inv.alone other req (by simpa using also) counts)
    cases counter with
    | store _ stands _ _ | restore _ stands _ _ => exact alone (by simp [stands, counting])
    | load _ _ uid | test _ _ uid | reload _ _ uid | other _ uid =>
        rw [uid]
        exact inv.count other

theorem numbered_req {choice : ReqChoice} (inv : Numbered before)
    (serial : Serial before (.req req choice)) (move : ReqMove info req before after choice)
    (counter : UidMove req before after) : Numbered after := by
  obtain ⟨first, unused⟩ := serial
  have elsewhere : ∀ other, other ≠ req → after.pc other = before.pc other ∧
      after.reqUid other = before.reqUid other :=
    fun other moved => ⟨pc_other move moved, reqUid_other move moved⟩
  constructor
  case alone =>
    -- whoever starts to count finds nobody counting
    have apart : ∀ other, other ≠ req → counting (after.pc req) = true →
        counting (after.pc other) = true → False := by
      intro other moved counts also
      rw [(elsewhere other moved).1] at also
      rcases counting_move counter counts with already | starts
      · exact moved (inv.alone other req also already)
      · rw [first starts other] at also
        cases also
    intro left right counts also
    by_cases l : left = req <;> by_cases r : right = req
    · rw [l, r]
    · exact (apart right r (l ▸ counts) also).elim
    · exact (apart left l (r ▸ also) counts).elim
    · rw [(elsewhere left l).1] at counts
      rw [(elsewhere right r).1] at also
      exact inv.alone left right counts also
  case count => exact count_move inv move counter
  case valid =>
    intro other stores
    by_cases moved : other = req
    · subst other
      rcases (storing_move move stores).2 with ⟨already, uids⟩ | ⟨stands, uids⟩
      · rw [uids]
        exact inv.valid req already
      · have known := inv.count req
        rw [stands] at known
        simpa [uids, CountOk] using known
    · obtain ⟨pc, uid⟩ := elsewhere other moved
      rw [uid]
      exact inv.valid other (pc ▸ stores)
  case unused =>
    intro other stores slot
    by_cases moved : other = req
    · subst other
      obtain ⟨table, origin⟩ := storing_move move stores
      rw [table]
      rcases origin with ⟨already, uids⟩ | ⟨stands, uids⟩
      · rw [uids]
        exact inv.unused req already slot
      · simpa [uids] using (unused stands).1 slot
    · obtain ⟨pc, uid⟩ := elsewhere other moved
      rw [pc] at stores
      rw [uid]
      rcases uid_move move slot with same | zero | ⟨brings, same⟩
      · rw [same]
        exact inv.unused other stores slot
      · rw [zero]
        exact (inv.valid other stores).symm
      · rw [same]
        exact fun equal => moved (inv.apart other req stores brings equal.symm)
  case apart =>
    -- a uid that has just been copied is on nobody else's way to the table
    have fresh : ∀ other, other ≠ req → storing (after.pc req) = true →
        storing (before.pc other) = true → after.reqUid req ≠ before.reqUid other := by
      intro other moved stores also
      rcases (storing_move move stores).2 with ⟨already, uids⟩ | ⟨stands, uids⟩
      · rw [uids]
        exact fun equal => moved (inv.apart other req also already equal.symm)
      · simpa [uids] using ((unused stands).2 other also).symm
    intro left right stores also equal
    by_cases l : left = req <;> by_cases r : right = req
    · rw [l, r]
    · obtain ⟨pc, uid⟩ := elsewhere right r
      rw [l, uid] at equal
      exact absurd equal (fresh right r (l ▸ stores) (pc ▸ also))
    · obtain ⟨pc, uid⟩ := elsewhere left l
      rw [r, uid] at equal
      exact absurd equal.symm (fresh left l (r ▸ also) (pc ▸ stores))
    · obtain ⟨pc, uid⟩ := elsewhere left l
      obtain ⟨pc', uid'⟩ := elsewhere right r
      rw [uid, uid'] at equal
      exact inv.apart left right (pc ▸ stores) (pc' ▸ also) equal

theorem numbered_step {act : Act reqs} (inv : Numbered before) (serial : Serial before act)
    (taken : step info before act = some after) : Numbered after := by
  rcases step_uid taken with ⟨req, choice, rfl, move, counter⟩ | ⟨kept, uid⟩
  · exact numbered_req inv serial move counter
  · obtain ⟨alone, count, valid, unused, apart⟩ := inv
    constructor
    · rw [kept.pc]
      exact alone
    · rw [kept.pc, uid]
      exact count
    · rw [kept.pc, kept.reqUid]
      exact valid
    · rw [kept.pc, kept.reqUid, kept.table]
      exact unused
    · rw [kept.pc, kept.reqUid]
      exact apart

theorem numbered_run (run : Run (step info) Serial (init info) after) : Numbered after :=
  run.invariant numbered_init fun _ _ _ _ inv serial taken => numbered_step inv serial taken

theorem Numbered.unused_fills (inv : Numbered before) (act : Act reqs) : FillsUnused before act := by
  cases act with
  | req req choice =>
      intro slot stands
      have stores : storing (before.pc req) = true := by simp [stands, storing]
      exact ⟨inv.valid req stores, fun other _ => inv.unused req stores other⟩
  | tx | receive | rx | expire => trivial

/-- In a run in which the uids are counted one at a time, every request that waits has a slot of
its own. -/
theorem serial_slots (run : Run (step info) Serial (init info) after) : Slots info after := by
  apply slots_run
  apply run.admit
  intro state act prior _
  exact (numbered_run prior).unused_fills act

instance serialDecidable (state : State reqs syncSize asyncSize) :
    (act : Act reqs) → Decidable (Serial state act)
  | .req req _ => inferInstanceAs (Decidable (
      (state.pc req = .start → ∀ other, counting (state.pc other) = false) ∧
      (state.pc req = .uidCopy → (∀ slot, (state.syncRspTable slot).uid ≠ state.uid) ∧
        ∀ other, storing (state.pc other) = true → state.reqUid other ≠ state.uid)))
  | .tx _ | .receive _ | .rx _ | .expire _ _ => .isTrue trivial

/-- Two requests that search and store side by side, having counted one after the other. -/
example : Admits (step plain) Serial (init plain : State 2 2 1)
    (go former 4 ++ go latter 4 ++ go former 4 ++ go latter 4) := by decide

end EspHosted.UidNumbering

import EspHosted.SlotRuns

/-!
What `sync_rsp_table` holds over whole runs. A request that stores its slot passes states in
which the slot is incomplete, and its release passes states in which the slot holds a
semaphore that is gone: the table is in order in every state only as long as no slot is stored
at all. These states apart, each slot has one owner, as long as every store finds the slot
untouched and brings an unused uid, and no put on `rpc_tx_q` fails.
-/

namespace EspHosted.SlotSteps
open RpcTables RpcCore GuardedRun SyncRspTable

variable {reqs syncSize asyncSize : Nat} {info : Fin reqs → ReqInfo} {req : Fin reqs}
variable {before after state : Split reqs syncSize asyncSize}

def Occupied (view : View reqs syncSize) (slot : Fin syncSize) : Prop :=
  (view.table slot).uid ≠ 0 ∨ (view.table slot).sem ≠ none

/-- `req` alone has the slot: the slot carries its uid and a semaphore that is not destroyed,
the request is not done with it, and it has no other slot. -/
structure Owns (view : View reqs syncSize) (slot : Fin syncSize) (req : Fin reqs) : Prop where
  handle : (view.table slot).sem = some req
  uid : (view.table slot).uid = view.reqUid req
  alive : (view.pc req).owns = true
  sem : ∃ count, view.sem req = .live count
  only : ∀ other, (view.table other).sem = some req → other = slot

structure TableOk (view : View reqs syncSize) : Prop where
  nonzero : ∀ slot, Occupied view slot → (view.table slot).uid ≠ 0
  distinct : Distinct view.table
  owner : ∀ slot, Occupied view slot → ∃ req, Owns view slot req
  failed : ∀ req slot, view.pc req = .failed → (view.table slot).sem ≠ some req

/-- No request has its slot stored: neither a uid that is not 0, nor the semaphore. -/
def Unstored (state : Split reqs syncSize asyncSize) : SplitAct reqs syncSize → Prop
  | .core (.req req .go) => ∀ slot, state.core.pc req = .fillSlot slot →
      state.part req = 0 ∧ state.core.reqUid req = 0
  | _ => True

/-- A table nobody has stored in. -/
def Untouched (state : Split reqs syncSize asyncSize) : Prop :=
  ∀ slot, state.core.syncRspTable slot = freeSlot

theorem untouched_ok (untouched : Untouched state) : TableOk state.view := by
  have empty : ∀ slot, state.view.table slot = freeSlot := untouched
  have vacant : ∀ slot, ¬ Occupied state.view slot := by
    intro slot occupied
    rw [Occupied, empty slot] at occupied
    exact occupied.elim (fun uid => uid rfl) fun sem => sem rfl
  refine ⟨fun slot occupied => absurd occupied (vacant slot), ?_,
    fun slot occupied => absurd occupied (vacant slot), ?_⟩
  · intro slot other _ nonzero
    rw [empty slot] at nonzero
    exact absurd rfl nonzero
  · intro req slot _ held
    rw [empty slot] at held
    cases held

theorem update_free {table : SyncTable syncSize (Fin reqs)} {slot : Fin syncSize}
    (empty : ∀ other, table other = freeSlot) (other : Fin syncSize) :
    Function.update table slot freeSlot other = freeSlot := by
  by_cases same : other = slot
  · rw [same, Function.update_self]
  · rw [Function.update_of_ne same, empty other]

/-- What a table without any entry becomes by a statement of a block. -/
theorem untouched_block (untouched : Untouched before)
    (unstored : Unstored before (.core (.req req .go))) (move : BlockMove req before after) :
    Untouched after := by
  intro other
  cases move with
  | busy _ _ _ effect | free _ _ effect | full _ effect | passes _ _ _ _ effect
  | finds _ _ _ effect | misses _ _ effect | destroys _ _ _ _ effect =>
      rw [effect.syncRspTable]
      exact untouched other
  | storeUid slot stands first effect =>
      rw [effect.syncRspTable, untouched slot, (unstored slot stands).2]
      exact update_free untouched other
  | storeSem slot stands second =>
      rw [(unstored slot stands).1] at second
      cases second
  | zeroes slot _ _ _ effect | nulls slot _ _ _ effect =>
      rw [effect.syncRspTable, untouched slot]
      exact update_free untouched other

/-- Outside the blocks no requester writes a slot. -/
theorem table_outside {choice : ReqChoice} (outside : inBlock (before.core.pc req) = false)
    (move : ReqMove info req before.core after.core choice) :
    after.core.syncRspTable = before.core.syncRspTable := by
  cases move with
  | fill _ stands | clear _ _ stands =>
      rw [stands] at outside
      cases outside
  | quiet _ _ effect | putFails _ _ effect | put _ effect | copyUid _ effect
  | createSem _ _ effect | take _ _ _ _ _ _ effect | giveUp _ _ _ effect
  | dequeue _ _ _ _ _ effect | abandon _ effect => exact effect.syncRspTable

theorem untouched_step {act : SplitAct reqs syncSize} (untouched : Untouched before)
    (unstored : Unstored before act) (taken : splitStep info before act = some after) :
    Untouched after := by
  cases split_move taken with
  | block req move => exact untouched_block untouched unstored move
  | req req choice outside move _ =>
      intro slot
      rw [table_outside outside move]
      exact untouched slot
  | kept _ kept _ =>
      intro slot
      rw [kept.table]
      exact untouched slot

/-- The first store of all leaves a slot that is taken and belongs to nobody. -/
theorem stored_not_ok {act : SplitAct reqs syncSize} (untouched : Untouched before)
    (stored : ¬ Unstored before act) (taken : splitStep info before act = some after) :
    ¬ TableOk after.view := by
  intro ok
  have found : ∃ req slot, act = .core (.req req .go) ∧ before.core.pc req = .fillSlot slot ∧
      (before.part req = 0 → before.core.reqUid req ≠ 0) := by
    unfold Unstored at stored
    split at stored
    · rename_i req
      obtain ⟨slot, stands, wrong⟩ := not_forall₂.mp stored
      exact ⟨req, slot, rfl, stands, fun first zero => wrong ⟨first, zero⟩⟩
    · exact absurd trivial stored
  obtain ⟨req, slot, rfl, stands, valid⟩ := found
  have occupied (uid : UInt32) (sem : Option (Fin reqs))
      (content : after.core.syncRspTable slot = { uid := uid, sem := sem })
      (taken : uid ≠ 0 ∨ sem ≠ none) : Occupied after.view slot := by
    rw [Occupied, show after.view.table slot = _ from content]
    exact taken
  cases split_move taken with
  | block _ move =>
      cases move with
      -- taken by its uid, and without a semaphore nobody owns it
      | storeUid place here first effect =>
          rw [stands] at here
          cases here
          have content : after.core.syncRspTable slot =
              { uid := before.core.reqUid req, sem := none } := by
            rw [effect.syncRspTable, untouched slot]
            exact Function.update_self ..
          obtain ⟨owner, owns⟩ := ok.owner slot (occupied _ _ content (.inl (valid first)))
          have handle := owns.handle
          rw [show after.view.table slot = _ from content] at handle
          cases handle
      -- taken by its semaphore, under the uid of a free slot
      | storeSem place here second effect =>
          rw [stands] at here
          cases here
          have content : after.core.syncRspTable slot = { uid := 0, sem := some req } := by
            rw [effect.syncRspTable, untouched slot]
            exact Function.update_self ..
          refine ok.nonzero slot (occupied _ _ content (.inr (by rintro ⟨⟩))) ?_
          exact congrArg SyncRsp.uid content
      | busy _ here | free _ here | full here | passes _ here | finds _ here | misses here
      | destroys _ _ here | zeroes _ _ here | nulls _ _ here =>
          rw [stands] at here
          cases here
  | req _ _ outside =>
      rw [stands] at outside
      cases outside
  | kept others => exact absurd rfl (others req .go)

/-- No put on `rpc_tx_q` fails for a synchronous request. -/
def PutSucceeds (info : Fin reqs → ReqInfo) : SplitAct reqs syncSize → Prop
  | .core (.req req .putFails) => (info req).rpcRspCb = true
  | _ => True

def Sound (info : Fin reqs → ReqInfo) (state : Split reqs syncSize asyncSize)
    (act : SplitAct reqs syncSize) : Prop :=
  StoresFree state act ∧ PutSucceeds info act

theorem owned_init : Owned info (Split.init info : Split reqs syncSize asyncSize).view := by
  constructor
  case owner => exact fun _ taken => absurd rfl taken
  case keeps => rintro _ _ ⟨⟩
  case alone => exact fun _ _ _ keeps => absurd keeps.stage.owning Bool.noConfusion
  case distinct => exact fun _ _ _ nonzero => absurd rfl nonzero
  case rest => exact fun _ _ => rfl
  case sync => rintro _ ⟨⟩
  case mapped => rintro _ _ ⟨⟩
  case live => rintro _ ⟨⟩

theorem owned_step {act : SplitAct reqs syncSize} (owned : Owned info before.view)
    (sound : Sound info before act) (taken : splitStep info before act = some after) :
    Owned info after.view := by
  cases split_move taken with
  | block req move => exact owned_block owned sound.1 move
  | req req choice outside move part =>
      refine owned_req owned outside part ?_ move
      rintro rfl
      exact sound.2
  | kept _ kept part => exact owned_kept owned kept part

theorem owned_run (run : Run (splitStep info) (Sound info) (Split.init info) state) :
    Owned info state.view := by
  induction run with
  | refl => exact owned_init
  | next act _ sound taken ih => exact owned_step ih sound taken

/-- Each slot in use belongs to one request that is not done with it, and holds its uid and its
live semaphore as long as that waits; a request that failed has none. -/
structure Settled (info : Fin reqs → ReqInfo) (view : View reqs syncSize) : Prop where
  distinct : Distinct view.table
  owner : ∀ slot, view.table slot ≠ freeSlot → ∃ req, Keeps info view slot req ∧
    ((view.pc req).waits = true → Waiting view slot req) ∧
      ∀ other, Keeps info view slot other → other = req
  failed : ∀ req slot, view.pc req = .failed → (view.table slot).sem ≠ some req

theorem Owned.settled {view : View reqs syncSize} (owned : Owned info view) :
    Settled info view := by
  refine ⟨owned.distinct, fun slot taken => ?_, fun req slot failed held => ?_⟩
  · obtain ⟨req, keeps⟩ := owned.owner slot taken
    exact ⟨req, keeps, keeps.waiting, fun other also => owned.alone slot other req also keeps⟩
  · have taken : view.table slot ≠ freeSlot := by
      intro free
      rw [free] at held
      cases held
    obtain ⟨owner, keeps⟩ := owned.owner slot taken
    have own : owner = req := by
      rcases keeps.stage.own_sem with none | some
      · rw [none] at held
        cases held
      · rw [some] at held
        exact Option.some.inj held
    have owns := keeps.stage.owning
    rw [own, failed] at owns
    cases owns

/-- Between the two stores of a fill, or between the statements of a release. -/
def Midway (view : View reqs syncSize) (req : Fin reqs) : Prop :=
  view.part req ≠ 0 ∧
    ((∃ slot, view.pc req = .fillSlot slot) ∨ ∃ slot taken, view.pc req = .clearSlot slot taken)

theorem Keeps.taken_occupied {view : View reqs syncSize} {slot : Fin syncSize}
    (keeps : Keeps info view slot req) : Occupied view slot := by
  have taken := keeps.taken
  by_contra vacant
  obtain ⟨uid, sem⟩ := not_or.mp vacant
  refine taken ?_
  generalize view.table slot = content at uid sem
  cases content
  cases not_not.mp uid
  cases not_not.mp sem
  rfl

theorem Occupied.taken {view : View reqs syncSize} {slot : Fin syncSize}
    (occupied : Occupied view slot) : view.table slot ≠ freeSlot := by
  intro free
  rw [Occupied, free] at occupied
  exact occupied.elim (fun uid => uid rfl) fun sem => sem rfl

/-- A request that is between blocks has its uid and its live semaphore in its slot. -/
theorem Keeps.whole {view : View reqs syncSize} {slot : Fin syncSize}
    (keeps : Keeps info view slot req) (rests : ¬ Midway view req) :
    view.table slot = { uid := view.reqUid req, sem := some req } ∧
      (view.pc req).owns = true ∧ ∃ count, view.sem req = .live count := by
  obtain ⟨_, _, stage⟩ := keeps
  unfold Midway at rests
  generalize view.pc req = pc at stage rests
  generalize view.part req = part at stage rests
  generalize view.sem req = sem at stage
  generalize view.table slot = content at stage
  cases stage with
  | stored => exact absurd ⟨Nat.one_ne_zero, .inl ⟨slot, rfl⟩⟩ rests
  | held _ _ count waits =>
      refine ⟨rfl, ?_, count, rfl⟩
      cases pc <;> simp_all [ReqPc.waits, ReqPc.owns]
  | releasing taken count => exact ⟨rfl, rfl, count, rfl⟩
  | destroyed taken => exact absurd ⟨Nat.one_ne_zero, .inr ⟨slot, taken, rfl⟩⟩ rests
  | zeroed taken => exact absurd ⟨Nat.succ_ne_zero 1, .inr ⟨slot, taken, rfl⟩⟩ rests

theorem Owned.table_ok {view : View reqs syncSize} (owned : Owned info view)
    (rests : ∀ req, ¬ Midway view req) : TableOk view := by
  constructor
  case nonzero =>
    intro slot occupied
    obtain ⟨req, keeps⟩ := owned.owner slot occupied.taken
    rw [(keeps.whole (rests req)).1]
    exact keeps.valid
  case distinct => exact owned.distinct
  case owner =>
    intro slot occupied
    obtain ⟨req, keeps⟩ := owned.owner slot occupied.taken
    obtain ⟨content, owns, live⟩ := keeps.whole (rests req)
    refine ⟨req, by rw [content], by rw [content], owns, live, fun other held => ?_⟩
    obtain ⟨also, keeps'⟩ := owned.owner other (Occupied.taken (.inr (by rw [held]; rintro ⟨⟩)))
    rw [(keeps'.whole (rests also)).1] at held
    cases held
    exact keeps_single owned.distinct keeps' keeps
  case failed => exact owned.settled.failed

/-- A request that is midway has a slot that nobody has in order. -/
theorem Owned.midway_spoils {view : View reqs syncSize} (owned : Owned info view)
    (midway : Midway view req) : ¬ TableOk view := by
  intro ok
  have stands : owning (view.pc req) (view.part req) = true ∧ (view.pc req).syncOnly = true := by
    obtain ⟨part, ⟨slot, here⟩ | ⟨slot, taken, here⟩⟩ := midway
    · rw [here]
      exact ⟨decide_eq_true part, rfl⟩
    · rw [here]
      exact ⟨rfl, rfl⟩
  obtain ⟨slot, keeps⟩ := owned.keeps req (owned.sync req stands.2) stands.1
  have occupied := keeps.taken_occupied
  have nonzero := ok.nonzero slot occupied
  obtain ⟨owner, owns⟩ := ok.owner slot occupied
  have handle := owns.handle
  obtain ⟨count, live⟩ := owns.sem
  obtain ⟨_, _, stage⟩ := keeps
  unfold Midway at midway
  generalize view.pc req = pc at stage midway
  generalize view.part req = part at stage midway
  generalize state : view.sem req = sem at stage
  generalize view.table slot = content at stage nonzero handle
  cases stage with
  -- no semaphore to name an owner
  | stored => cases handle
  | held _ _ _ waits =>
      obtain ⟨_, ⟨_, rfl⟩ | ⟨_, _, rfl⟩⟩ := midway <;> cases waits
  | releasing => exact midway.1 rfl
  -- the owner it names has lost its semaphore
  | destroyed =>
      cases handle
      rw [state] at live
      cases live
  | zeroed => exact nonzero rfl

/-- In a run the table is in order in every state exactly as long as no request stores its
slot. In a run in which each store finds its slot untouched and brings an unused uid, and no put
fails for a synchronous request, it is in order in exactly the states in which no request is
inside its fill or its release, and these states apart a slot still has one owner. -/
theorem sync_table_settled (info : Fin reqs → ReqInfo) (state : Split reqs syncSize asyncSize) :
    (Run (splitStep info) Unstored (Split.init info) state →
      TableOk state.view ∧ ∀ act next, splitStep info state act = some next →
        (TableOk next.view ↔ Unstored state act)) ∧
    (Run (splitStep info) (Sound info) (Split.init info) state →
      Settled info state.view ∧ (TableOk state.view ↔ ∀ req, ¬ Midway state.view req)) := by
  constructor
  · intro run
    have untouched : Untouched state := by
      refine run.invariant (fun _ => rfl) ?_
      exact fun _ _ _ _ untouched unstored taken => untouched_step untouched unstored taken
    refine ⟨untouched_ok untouched, fun act next taken => ⟨fun ok => ?_, fun unstored => ?_⟩⟩
    · by_contra stored
      exact stored_not_ok untouched stored taken ok
    · exact untouched_ok (untouched_step untouched unstored taken)
  · intro run
    have owned := owned_run run
    exact ⟨owned.settled, fun ok req midway => owned.midway_spoils midway ok, owned.table_ok⟩

instance storesFreeDecidable (state : Split reqs syncSize asyncSize) :
    (act : SplitAct reqs syncSize) → Decidable (StoresFree state act)
  | .core (.req req _) => inferInstanceAs (Decidable (∀ slot, state.core.pc req = .fillSlot slot →
      state.part req = 0 →
      (state.core.syncRspTable slot).uid = 0 ∧ (state.core.syncRspTable slot).sem = none ∧
        state.core.reqUid req ≠ 0 ∧
          ∀ other, (state.core.syncRspTable other).uid ≠ state.core.reqUid req))
  | .core (.tx _) | .core (.receive _) | .core (.rx _) | .core (.expire _ _) | .post _ =>
      .isTrue trivial

instance putSucceedsDecidable :
    (act : SplitAct reqs syncSize) → Decidable (PutSucceeds info act)
  | .core (.req req choice) => match choice with
    | .putFails => inferInstanceAs (Decidable ((info req).rpcRspCb = true))
    | .go | .timeout | .semError => .isTrue trivial
  | .core (.tx _) | .core (.receive _) | .core (.rx _) | .core (.expire _ _) | .post _ =>
      .isTrue trivial

instance soundDecidable (state : Split reqs syncSize asyncSize) (act : SplitAct reqs syncSize) :
    Decidable (Sound info state act) :=
  inferInstanceAs (Decidable (StoresFree state act ∧ PutSucceeds info act))

/-- Two requests in the table at once. -/
theorem sync_table_settled_two : ∃ state : Split 2 2 1,
    ((state.core.syncRspTable 0).uid = 1 ∧ (state.core.syncRspTable 1).uid = 2) ∧
      Settled plain state.view ∧ (TableOk state.view ↔ ∀ req, ¬ Midway state.view req) := by
  obtain ⟨state, run, stored⟩ := admitted_reaches (splitStep plain) (Sound plain)
    (Split.init plain) (does 0 9 ++ does 1 10)
    (fun state : Split 2 2 1 => (state.core.syncRspTable 0).uid = 1 ∧
      (state.core.syncRspTable 1).uid = 2) (by decide) (by decide)
  exact ⟨state, stored, (sync_table_settled plain state).2 run⟩

/-- A request whose put fails keeps its slot, with a destroyed semaphore in it; two requests
that count up together get the same uid; a request that times out passes a state in which its
slot holds a destroyed semaphore; and the last store of its release takes the semaphore out of
the slot that another request has taken meanwhile. -/
theorem sync_table_spoilt :
    (∃ state : Split 1 1 1, Run (splitStep plain) unguarded (Split.init plain) state ∧
      state.core.pc 0 = .failed ∧ (state.core.syncRspTable 0).sem = some 0 ∧
      state.core.sem 0 = .destroyed ∧ ¬ TableOk state.view) ∧
    (∃ state : Split 2 2 1, Run (splitStep plain) unguarded (Split.init plain) state ∧
      (state.core.syncRspTable 0).uid = 1 ∧ (state.core.syncRspTable 1).uid = 1 ∧
      ¬ TableOk state.view) ∧
    (∃ state : Split 1 1 1, Run (splitStep plain) unguarded (Split.init plain) state ∧
      (state.core.syncRspTable 0).sem = some 0 ∧ state.core.sem 0 = .destroyed ∧
      ¬ TableOk state.view) ∧
    ∃ state : Split 2 1 1, Run (splitStep plain) unguarded (Split.init plain) state ∧
      (state.core.syncRspTable 0).uid = 2 ∧ (state.core.syncRspTable 0).sem = none ∧
      state.core.pc 1 = .putTx ∧ state.core.pc 0 = .freeReq none ∧ ¬ TableOk state.view := by
  refine ⟨?_, ?_, ?_, ?_⟩
  · obtain ⟨state, run, failed, kept, destroyed⟩ := exec_reaches (splitStep plain)
      (Split.init plain) (does 0 8 ++ [.core (.req 0 .putFails)] ++ does 0 3)
      (fun state : Split 1 1 1 => state.core.pc 0 = .failed ∧
        (state.core.syncRspTable 0).sem = some 0 ∧ state.core.sem 0 = .destroyed) (by decide)
    exact ⟨state, run, failed, kept, destroyed, fun ok => ok.failed 0 0 failed kept⟩
  · obtain ⟨state, run, first, second⟩ := exec_reaches (splitStep plain) (Split.init plain)
      ([.core (.req 0 .go), .core (.req 1 .go)] ++ does 0 7 ++ does 1 8)
      (fun state : Split 2 2 1 => (state.core.syncRspTable 0).uid = 1 ∧
        (state.core.syncRspTable 1).uid = 1) (by decide)
    refine ⟨state, run, first, second, fun ok => ?_⟩
    have same := ok.distinct 0 1 (first.trans second.symm) fun zero => by
      rw [show (state.view.table 0).uid = 1 from first] at zero
      cases zero
    cases same
  · obtain ⟨state, run, held, destroyed⟩ := exec_reaches (splitStep plain) (Split.init plain)
      (does 0 13 ++ [.core (.req 0 .timeout)] ++ does 0 1)
      (fun state : Split 1 1 1 => (state.core.syncRspTable 0).sem = some 0 ∧
        state.core.sem 0 = .destroyed) (by decide)
    refine ⟨state, run, held, destroyed, fun ok => ?_⟩
    obtain ⟨owner, owns⟩ := ok.owner 0 (.inr fun none => by
      rw [show (state.view.table 0).sem = some 0 from held] at none
      cases none)
    obtain ⟨count, live⟩ := owns.sem
    rw [Subsingleton.elim owner 0, show state.view.sem 0 = .destroyed from destroyed] at live
    cases live
  · obtain ⟨state, run, uid, wiped, stands, gone⟩ := exec_reaches (splitStep plain)
      (Split.init plain)
      (does 0 13 ++ [.core (.req 0 .timeout)] ++ does 0 2 ++ does 1 8 ++ does 0 1)
      (fun state : Split 2 1 1 => (state.core.syncRspTable 0).uid = 2 ∧
        (state.core.syncRspTable 0).sem = none ∧ state.core.pc 1 = .putTx ∧
        state.core.pc 0 = .freeReq none) (by decide)
    refine ⟨state, run, uid, wiped, stands, gone, fun ok => ?_⟩
    obtain ⟨owner, owns⟩ := ok.owner 0 (.inl fun zero => by
      rw [show (state.view.table 0).uid = 2 from uid] at zero
      cases zero)
    have handle := owns.handle
    rw [show (state.view.table 0).sem = none from wiped] at handle
    cases handle

end EspHosted.SlotSteps

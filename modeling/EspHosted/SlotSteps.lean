import EspHosted.SyncRspTable

/-!
The functions on `sync_rsp_table` statement by statement. `RpcCore` takes a search, a fill and
a release of a slot as one step each. Here a loop over the table looks at one slot a step, a
fill stores the uid and then the semaphore, and a release destroys the semaphore, clears the
uid and clears the pointer; other threads run in between. All other steps are those of
`RpcCore`, and each run of `RpcCore` is one of these.
-/

namespace EspHosted.SlotSteps
open RpcTables RpcCore GuardedRun SyncRspTable SlotTable

/-- `part` is how far a requester is in the block it stands in: the slots its loop has looked
at, or the statements of its fill or release that are done. -/
structure Split (reqs syncSize asyncSize : Nat) where
  core : State reqs syncSize asyncSize
  part : Fin reqs → Nat

/-- `post` is the post behind a search whose slot may have changed since. -/
inductive SplitAct (reqs syncSize : Nat) where
  | core (act : Act reqs)
  | post (slot : Fin syncSize)
  deriving DecidableEq

/-- The blocks that are taken apart. -/
def inBlock {syncSize : Nat} : ReqPc syncSize → Bool
  | .searchSlot | .fillSlot _ | .findSlot | .clearSlot _ _ => true
  | _ => false

variable {reqs syncSize asyncSize : Nat} {info : Fin reqs → ReqInfo} {req : Fin reqs}

def Split.init (info : Fin reqs → ReqInfo) : Split reqs syncSize asyncSize :=
  { core := RpcCore.init info, part := fun _ => 0 }

def Split.to (state : Split reqs syncSize asyncSize) (req : Fin reqs)
    (core : State reqs syncSize asyncSize) (part : Nat) : Split reqs syncSize asyncSize :=
  { core := core, part := Function.update state.part req part }

/-- One turn of a loop that looks for a uid. -/
def lookStep (req : Fin reqs) (uid : UInt32) (hit : Fin syncSize → ReqPc syncSize)
    (miss : ReqPc syncSize) (state : Split reqs syncSize asyncSize) :
    Split reqs syncSize asyncSize :=
  if inside : state.part req < syncSize then
    if (state.core.syncRspTable ⟨state.part req, inside⟩).uid = uid then
      state.to req (state.core.goto req (hit ⟨state.part req, inside⟩)) 0
    else state.to req state.core (state.part req + 1)
  else state.to req (state.core.goto req miss) 0

/-- `sync_rsp_table[i].uid = app_req->uid; sync_rsp_table[i].sem = app_req->rx_sem;` -/
def fillStep (req : Fin reqs) (slot : Fin syncSize) (state : Split reqs syncSize asyncSize) :
    Option (Split reqs syncSize asyncSize) :=
  let content := state.core.syncRspTable slot
  match state.part req with
  | 0 => some (state.to req
      (state.core.setSyncSlot slot { content with uid := state.core.reqUid req }) 1)
  | 1 => some (state.to req
      ((state.core.setSyncSlot slot { content with sem := some req }).goto req .putTx) 0)
  | _ => none

/-- `_h_destroy_semaphore(sync_rsp_table[i].sem)`, then the two stores that clear the entry. -/
def releaseStep (req : Fin reqs) (slot : Fin syncSize) (taken : Bool)
    (state : Split reqs syncSize asyncSize) : Option (Split reqs syncSize asyncSize) :=
  let content := state.core.syncRspTable slot
  match state.part req with
  | 0 => some (state.to req (state.core.destroy content.sem) 1)
  | 1 => some (state.to req (state.core.setSyncSlot slot { content with uid := 0 }) 2)
  | 2 => some (state.to req
      ((state.core.setSyncSlot slot { content with sem := none }).goto req
        (if taken then .dequeueRx else .freeReq none)) 0)
  | _ => none

def blockStep (req : Fin reqs) (state : Split reqs syncSize asyncSize) :
    Option (Split reqs syncSize asyncSize) :=
  match state.core.pc req with
  | .searchSlot => some (lookStep req 0 .fillSlot .failReq state)
  | .fillSlot slot => fillStep req slot state
  | .findSlot => some (lookStep req (state.core.reqUid req) .takeSem (.freeReq none) state)
  | .clearSlot slot taken => releaseStep req slot taken state
  | _ => none

def coreStep (info : Fin reqs → ReqInfo) (act : Act reqs) (state : Split reqs syncSize asyncSize) :
    Option (Split reqs syncSize asyncSize) :=
  (step info state.core act).map fun core => { state with core := core }

def splitStep (info : Fin reqs → ReqInfo) (state : Split reqs syncSize asyncSize) :
    SplitAct reqs syncSize → Option (Split reqs syncSize asyncSize)
  | .core (.req req choice) =>
      if inBlock (state.core.pc req) then
        if choice = .go then blockStep req { state with core := state.core.touch req } else none
      else coreStep info (.req req choice) state
  | .core act => coreStep info act state
  | .post slot =>
      some { state with core := state.core.post (state.core.syncRspTable slot).sem }

variable {before after : Split reqs syncSize asyncSize}

/-- What a statement of a block can be. -/
inductive BlockMove (req : Fin reqs) (before after : Split reqs syncSize asyncSize) : Prop where
  | busy (slot : Fin syncSize) (stands : before.core.pc req = .searchSlot)
      (index : slot.val = before.part req) (effect : Agrees after.core before.core)
      (part : after.part = Function.update before.part req (before.part req + 1))
  | free (slot : Fin syncSize) (stands : before.core.pc req = .searchSlot)
      (effect : Agrees after.core (before.core.goto req (.fillSlot slot)))
      (part : after.part = Function.update before.part req 0)
  | full (stands : before.core.pc req = .searchSlot)
      (effect : Agrees after.core (before.core.goto req .failReq))
      (part : after.part = Function.update before.part req 0)
  | storeUid (slot : Fin syncSize) (stands : before.core.pc req = .fillSlot slot)
      (first : before.part req = 0)
      (effect : Agrees after.core (before.core.setSyncSlot slot
        { before.core.syncRspTable slot with uid := before.core.reqUid req }))
      (part : after.part = Function.update before.part req 1)
  | storeSem (slot : Fin syncSize) (stands : before.core.pc req = .fillSlot slot)
      (second : before.part req = 1)
      (effect : Agrees after.core ((before.core.setSyncSlot slot
        { before.core.syncRspTable slot with sem := some req }).goto req .putTx))
      (part : after.part = Function.update before.part req 0)
  | passes (slot : Fin syncSize) (stands : before.core.pc req = .findSlot)
      (index : slot.val = before.part req)
      (other : (before.core.syncRspTable slot).uid ≠ before.core.reqUid req)
      (effect : Agrees after.core before.core)
      (part : after.part = Function.update before.part req (before.part req + 1))
  | finds (slot : Fin syncSize) (stands : before.core.pc req = .findSlot)
      (hit : (before.core.syncRspTable slot).uid = before.core.reqUid req)
      (effect : Agrees after.core (before.core.goto req (.takeSem slot)))
      (part : after.part = Function.update before.part req 0)
  | misses (stands : before.core.pc req = .findSlot) (past : syncSize ≤ before.part req)
      (effect : Agrees after.core (before.core.goto req (.freeReq none)))
      (part : after.part = Function.update before.part req 0)
  | destroys (slot : Fin syncSize) (taken : Bool)
      (stands : before.core.pc req = .clearSlot slot taken) (first : before.part req = 0)
      (effect : Agrees after.core { before.core with
        sem := (before.core.destroy (before.core.syncRspTable slot).sem).sem })
      (part : after.part = Function.update before.part req 1)
  | zeroes (slot : Fin syncSize) (taken : Bool)
      (stands : before.core.pc req = .clearSlot slot taken) (second : before.part req = 1)
      (effect : Agrees after.core (before.core.setSyncSlot slot
        { before.core.syncRspTable slot with uid := 0 }))
      (part : after.part = Function.update before.part req 2)
  | nulls (slot : Fin syncSize) (taken : Bool)
      (stands : before.core.pc req = .clearSlot slot taken) (third : before.part req = 2)
      (effect : Agrees after.core ((before.core.setSyncSlot slot
        { before.core.syncRspTable slot with sem := none }).goto req
          (if taken then .dequeueRx else .freeReq none)))
      (part : after.part = Function.update before.part req 0)

theorem fill_move {slot : Fin syncSize} (stands : before.core.pc req = .fillSlot slot)
    (taken : fillStep req slot { before with core := before.core.touch req } = some after) :
    BlockMove req before after := by
  unfold fillStep at taken
  dsimp only at taken
  split at taken
  · rename_i first
    cases taken
    exact .storeUid slot stands first rfl rfl
  · rename_i second
    cases taken
    exact .storeSem slot stands second rfl rfl
  · cases taken

theorem release_move {slot : Fin syncSize} {got : Bool}
    (stands : before.core.pc req = .clearSlot slot got)
    (taken : releaseStep req slot got { before with core := before.core.touch req } = some after) :
    BlockMove req before after := by
  unfold releaseStep at taken
  dsimp only at taken
  split at taken
  · rename_i first
    cases taken
    refine .destroys slot got stands first ?_ rfl
    rw [Split.to, destroy_sem, destroy_touch]
    rfl
  · rename_i second
    cases taken
    exact .zeroes slot got stands second rfl rfl
  · rename_i third
    cases taken
    exact .nulls slot got stands third rfl rfl
  · cases taken

theorem block_move (taken : blockStep req { before with core := before.core.touch req } =
    some after) : BlockMove req before after := by
  unfold blockStep at taken
  dsimp only at taken
  split at taken
  · rename_i stands
    cases taken
    unfold lookStep
    dsimp only
    split
    · rename_i inside
      split
      · exact .free ⟨_, inside⟩ stands rfl rfl
      · exact .busy ⟨_, inside⟩ stands rfl rfl rfl
    · exact .full stands rfl rfl
  · rename_i slot stands
    exact fill_move stands taken
  · rename_i stands
    cases taken
    unfold lookStep
    dsimp only
    split
    · rename_i inside
      split
      · rename_i hit
        exact .finds ⟨_, inside⟩ stands hit rfl rfl
      · rename_i other
        exact .passes ⟨_, inside⟩ stands rfl other rfl rfl
    · rename_i past
      exact .misses stands (Nat.le_of_not_lt past) rfl rfl
  · rename_i slot got stands
    exact release_move stands taken
  · cases taken

/-- What a step can be: a statement of a block, another statement of a requester, or a step of
another thread. -/
inductive SplitMove (info : Fin reqs → ReqInfo) (before after : Split reqs syncSize asyncSize) :
    SplitAct reqs syncSize → Prop where
  | block (req : Fin reqs) (move : BlockMove req before after) :
      SplitMove info before after (.core (.req req .go))
  | req (req : Fin reqs) (choice : ReqChoice) (outside : inBlock (before.core.pc req) = false)
      (move : ReqMove info req before.core after.core choice) (part : after.part = before.part) :
      SplitMove info before after (.core (.req req choice))
  | kept {act : SplitAct reqs syncSize} (others : ∀ req choice, act ≠ .core (.req req choice))
      (kept : SyncKept before.core after.core) (part : after.part = before.part) :
      SplitMove info before after act

theorem post_kept (state : State reqs syncSize asyncSize) (handle : Option (Fin reqs)) :
    SyncKept state (state.post handle) := by
  have same := post_sem state handle
  have raises := post_raises state handle
  rw [same]
  exact ⟨rfl, rfl, rfl, raises, queue_same rfl⟩

theorem core_kept {act : Act reqs} (other : ∀ req choice, act ≠ .req req choice)
    (taken : coreStep info act before = some after) : SplitMove info before after (.core act) := by
  obtain ⟨core, moved, rfl⟩ := Option.map_eq_some_iff.mp taken
  rcases sync_move (step_move moved) with ⟨req, choice, is, _⟩ | kept
  · exact absurd is (other req choice)
  · refine .kept (fun req choice same => ?_) kept rfl
    cases same
    exact other req choice rfl

theorem split_move {act : SplitAct reqs syncSize} (taken : splitStep info before act = some after) :
    SplitMove info before after act := by
  cases act with
  | core act =>
      cases act with
      | req req choice =>
          simp only [splitStep] at taken
          split at taken
          · split at taken
            · rename_i going
              subst going
              exact .block req (block_move taken)
            · cases taken
          · rename_i outside
            obtain ⟨core, moved, rfl⟩ := Option.map_eq_some_iff.mp taken
            exact .req req choice (Bool.not_eq_true _ ▸ outside)
              (reqMove_untouch (reqStep_move moved)) rfl
      | tx fault => exact core_kept (by rintro _ _ ⟨⟩) taken
      | receive msg => exact core_kept (by rintro _ _ ⟨⟩) taken
      | rx queued => exact core_kept (by rintro _ _ ⟨⟩) taken
      | expire req alloc => exact core_kept (by rintro _ _ ⟨⟩) taken
  | post slot =>
      cases taken
      exact .kept (by rintro _ _ ⟨⟩) (post_kept _ _) rfl

/-- `count` statements of one requester. -/
def does (req : Fin reqs) (count : Nat) : List (SplitAct reqs syncSize) :=
  List.replicate count (.core (.req req .go))

section Coarse
variable {core next : State reqs syncSize asyncSize} {uid : UInt32}
variable {hit : Fin syncSize → ReqPc syncSize} {miss : ReqPc syncSize}

/-- One requester is inside a block, all others are between blocks. -/
def inside (core : State reqs syncSize asyncSize) (req : Fin reqs) (part : Nat) :
    Split reqs syncSize asyncSize :=
  { core := core, part := Function.update (fun _ => 0) req part }

theorem inside_zero (core : State reqs syncSize asyncSize) (req : Fin reqs) :
    inside core req 0 = { core := core, part := fun _ => 0 } := by
  rw [inside, Function.update_eq_self_iff.mpr rfl]

theorem inside_to (core next : State reqs syncSize asyncSize) (req : Fin reqs) (part more : Nat) :
    (inside core req part).to req next more = inside next req more := by
  rw [Split.to, inside, inside, Function.update_idem]

@[simp] theorem inside_core (core : State reqs syncSize asyncSize) (req : Fin reqs) (part : Nat) :
    (inside core req part).core = core := rfl

@[simp] theorem inside_part (core : State reqs syncSize asyncSize) (req : Fin reqs) (part : Nat) :
    (inside core req part).part req = part := by
  simp [inside]

theorem touch_touch (core : State reqs syncSize asyncSize) (req : Fin reqs) :
    (core.touch req).touch req = core.touch req := by
  simp [State.touch]

theorem split_go (block : inBlock (core.pc req) = true) (part : Nat) :
    splitStep info (inside core req part) (.core (.req req .go)) =
      blockStep req (inside (core.touch req) req part) :=
  if_pos block

theorem look_pass {index : Nat} (small : index < syncSize)
    (other : (core.syncRspTable ⟨index, small⟩).uid ≠ uid) :
    lookStep req uid hit miss (inside core req index) = inside core req (index + 1) := by
  simp only [lookStep, inside_part, inside_core, small, dif_pos, if_neg other, inside_to]

theorem look_hit {slot : Fin syncSize} (same : (core.syncRspTable slot).uid = uid) :
    lookStep req uid hit miss (inside core req slot.val) = inside (core.goto req (hit slot)) req 0 := by
  simp only [lookStep, inside_part, inside_core, slot.isLt, dif_pos, if_pos same, inside_to]

theorem look_miss :
    lookStep req uid hit miss (inside core req syncSize) = inside (core.goto req miss) req 0 := by
  simp only [lookStep, inside_part, inside_core, Nat.lt_irrefl, dif_neg, not_false_eq_true,
    inside_to]

/-- A requester that stands in a loop over the table. -/
structure Looks (req : Fin reqs) (uid : UInt32) (hit : Fin syncSize → ReqPc syncSize)
    (miss : ReqPc syncSize) (core : State reqs syncSize asyncSize) : Prop where
  block : inBlock (core.pc req) = true
  touched : core.touch req = core
  turn : ∀ part, blockStep req (inside core req part) =
    some (lookStep req uid hit miss (inside core req part))

theorem Looks.step (looks : Looks req uid hit miss core) (part : Nat) :
    splitStep info (inside core req part) (.core (.req req .go)) =
      some (lookStep req uid hit miss (inside core req part)) := by
  rw [split_go looks.block, looks.touched, looks.turn]

/-- The loop passes the slots that do not have the uid. -/
theorem Looks.passes (looks : Looks req uid hit miss core) (count : Nat) (within : count ≤ syncSize)
    (others : ∀ slot : Fin syncSize, slot.val < count → (core.syncRspTable slot).uid ≠ uid) :
    exec (splitStep info) (inside core req 0) (does req count) =
      some (inside core req count) := by
  induction count with
  | zero => rfl
  | succ count ih =>
      have before := ih (Nat.le_of_succ_le within) fun slot earlier =>
        others slot (Nat.lt_succ_of_lt earlier)
      rw [does, List.replicate_succ', exec_append]
      refine Option.bind_eq_some_iff.mpr ⟨_, before, ?_⟩
      refine Option.bind_eq_some_iff.mpr ⟨_, looks.step count, ?_⟩
      rw [look_pass within (others ⟨count, within⟩ (Nat.lt_succ_self count))]
      rfl

/-- The loop comes to where the search over the whole table comes to. -/
theorem Looks.ends (looks : Looks req uid hit miss core) :
    ∃ count, exec (splitStep info) (inside core req 0) (does req (count + 1)) =
      some (inside (core.goto req ((syncSlotOf core.syncRspTable uid).elim miss hit)) req 0) := by
  cases found : syncSlotOf core.syncRspTable uid with
  | some slot =>
      have passed : exec (splitStep info) _ _ = _ :=
        looks.passes slot.val (Nat.le_of_lt slot.isLt) fun other earlier same => by
          have failed := scan_first found other earlier
          simp [same] at failed
      refine ⟨slot.val, ?_⟩
      rw [does, List.replicate_succ', exec_append]
      refine Option.bind_eq_some_iff.mpr ⟨_, passed, ?_⟩
      refine Option.bind_eq_some_iff.mpr ⟨_, looks.step slot.val, ?_⟩
      rw [look_hit (syncSlotOf_uid found)]
      rfl
  | none =>
      have passed : exec (splitStep info) _ _ = _ :=
        looks.passes syncSize (Nat.le_refl _) fun other _ same => by
          have failed := scan_none_iff.mp found other
          simp [same] at failed
      refine ⟨syncSize, ?_⟩
      rw [does, List.replicate_succ', exec_append]
      refine Option.bind_eq_some_iff.mpr ⟨_, passed, ?_⟩
      refine Option.bind_eq_some_iff.mpr ⟨_, looks.step syncSize, ?_⟩
      rw [look_miss]
      rfl

/-- A statement of a block that is not a loop. -/
theorem stage_step {part more : Nat} (block : inBlock (core.pc req) = true)
    (touched : core.touch req = core)
    (turn : blockStep req (inside core req part) = some ((inside core req part).to req next more)) :
    splitStep info (inside core req part) (.core (.req req .go)) = some (inside next req more) := by
  rw [split_go block, touched, turn, inside_to]

theorem fill_whole {slot : Fin syncSize} (stands : core.pc req = .fillSlot slot)
    (touched : core.touch req = core) :
    exec (splitStep info) (inside core req 0) (does req 2) = some (inside
      ((core.setSyncSlot slot { uid := core.reqUid req, sem := some req }).goto req .putTx) req 0) := by
  let half := core.setSyncSlot slot { core.syncRspTable slot with uid := core.reqUid req }
  have still : half.pc req = .fillSlot slot := stands
  have first : splitStep info (inside core req 0) (.core (.req req .go)) =
      some (inside half req 1) := by
    apply stage_step (by rw [stands]; rfl) touched
    simp only [blockStep, inside_core, stands, fillStep, inside_part]
    rfl
  have same : half.touch req = half := by
    change (core.touch req).setSyncSlot slot _ = half
    rw [touched]
  have second : splitStep info (inside half req 1) (.core (.req req .go)) = some (inside
      ((half.setSyncSlot slot { half.syncRspTable slot with sem := some req }).goto req .putTx)
      req 0) := by
    apply stage_step (by rw [still]; rfl) same
    simp only [blockStep, inside_core, still, fillStep, inside_part]
  refine Option.bind_eq_some_iff.mpr ⟨_, first, ?_⟩
  refine Option.bind_eq_some_iff.mpr ⟨_, second, ?_⟩
  simp [exec, half, State.setSyncSlot]

theorem release_whole {slot : Fin syncSize} {got : Bool}
    (stands : core.pc req = .clearSlot slot got) (touched : core.touch req = core) :
    exec (splitStep info) (inside core req 0) (does req 3) = some (inside
      (((core.destroy (core.syncRspTable slot).sem).setSyncSlot slot { uid := 0, sem := none }).goto
        req (if got then .dequeueRx else .freeReq none)) req 0) := by
  let gone := core.destroy (core.syncRspTable slot).sem
  let half := gone.setSyncSlot slot { gone.syncRspTable slot with uid := 0 }
  have shape : gone = { core with sem := gone.sem } := destroy_sem core _
  have there : gone.pc req = .clearSlot slot got := by
    rw [shape]
    exact stands
  have still : half.pc req = .clearSlot slot got := there
  have first : splitStep info (inside core req 0) (.core (.req req .go)) =
      some (inside gone req 1) := by
    apply stage_step (by rw [stands]; rfl) touched
    simp only [blockStep, inside_core, stands, releaseStep, inside_part]
    rfl
  have same : gone.touch req = gone := by
    rw [shape]
    change { core.touch req with sem := gone.sem } = { core with sem := gone.sem }
    rw [touched]
  have second : splitStep info (inside gone req 1) (.core (.req req .go)) =
      some (inside half req 2) := by
    apply stage_step (by rw [there]; rfl) same
    simp only [blockStep, inside_core, there, releaseStep, inside_part]
    rfl
  have same' : half.touch req = half := by
    change (gone.touch req).setSyncSlot slot _ = half
    rw [same]
  have third : splitStep info (inside half req 2) (.core (.req req .go)) = some (inside
      ((half.setSyncSlot slot { half.syncRspTable slot with sem := none }).goto req
        (if got then .dequeueRx else .freeReq none)) req 0) := by
    apply stage_step (by rw [still]; rfl) same'
    simp only [blockStep, inside_core, still, releaseStep, inside_part]
  refine Option.bind_eq_some_iff.mpr ⟨_, first, ?_⟩
  refine Option.bind_eq_some_iff.mpr ⟨_, second, ?_⟩
  refine Option.bind_eq_some_iff.mpr ⟨_, third, ?_⟩
  simp [exec, half, gone, State.setSyncSlot]

/-- A block as a whole. -/
theorem block_whole {choice : ReqChoice} (block : inBlock (core.pc req) = true)
    (touched : core.touch req = core) (taken : reqStep info req choice core = some next) :
    choice = .go ∧ ∃ count, exec (splitStep info) (inside core req 0) (does req (count + 1)) =
      some (inside next req 0) := by
  cases stands : core.pc req with
  | searchSlot =>
      have looks : Looks req 0 .fillSlot .failReq core :=
        ⟨block, touched, fun part => by simp only [blockStep, inside_core, stands]⟩
      obtain ⟨count, ends⟩ : ∃ count, exec (splitStep info) _ _ = _ := looks.ends
      cases choice with
      | go =>
          refine ⟨rfl, count, ends.trans ?_⟩
          simp only [reqStep, stands] at taken
          split at taken <;> cases taken <;> rename_i found <;> rw [found] <;> rfl
      | putFails | timeout | semError => simp [reqStep, stands] at taken
  | findSlot =>
      have looks : Looks req (core.reqUid req) .takeSem (.freeReq none) core :=
        ⟨block, touched, fun part => by simp only [blockStep, inside_core, stands]⟩
      obtain ⟨count, ends⟩ : ∃ count, exec (splitStep info) _ _ = _ := looks.ends
      cases choice with
      | go =>
          refine ⟨rfl, count, ends.trans ?_⟩
          simp only [reqStep, stands] at taken
          split at taken <;> cases taken <;> rename_i found <;> rw [found] <;> rfl
      | putFails | timeout | semError => simp [reqStep, stands] at taken
  | fillSlot slot =>
      cases choice with
      | go =>
          simp only [reqStep, stands, Option.some.injEq] at taken
          exact ⟨rfl, 1, taken ▸ fill_whole stands touched⟩
      | putFails | timeout | semError => simp [reqStep, stands] at taken
  | clearSlot slot got =>
      cases choice with
      | go =>
          simp only [reqStep, stands, Option.some.injEq] at taken
          exact ⟨rfl, 2, taken ▸ release_whole stands touched⟩
      | putFails | timeout | semError => simp [reqStep, stands] at taken
  | _ => simp [inBlock, stands] at block

/-- The first statement of a block records the use of the request, as the block does. -/
theorem exec_touch (block : inBlock (core.pc req) = true) (count : Nat) :
    exec (splitStep info) (inside core req 0) (does req (count + 1)) =
      exec (splitStep info) (inside (core.touch req) req 0) (does req (count + 1)) := by
  have touched : inBlock ((core.touch req).pc req) = true := block
  rw [does, List.replicate_succ]
  simp only [exec]
  rw [split_go block, split_go touched, touch_touch]

theorem coarse_step {act : Act reqs} (taken : step info core act = some next) :
    ∃ acts, exec (splitStep info) { core := core, part := fun _ => 0 } acts =
      some { core := next, part := fun _ => 0 } := by
  have outside (one : splitStep info { core := core, part := fun _ => 0 } (.core act) =
      coreStep info act { core := core, part := fun _ => 0 }) :
      ∃ acts, exec (splitStep info) { core := core, part := fun _ => 0 } acts =
        some { core := next, part := fun _ => 0 } := by
    refine ⟨[.core act], ?_⟩
    simp [exec, one, coreStep, taken]
  cases act with
  | req req choice =>
      by_cases block : inBlock (core.pc req) = true
      · have touched : inBlock ((core.touch req).pc req) = true := block
        obtain ⟨_, count, ends⟩ := block_whole touched (touch_touch core req) taken
        refine ⟨does req (count + 1), ?_⟩
        rw [← inside_zero core req, exec_touch block, ends, inside_zero]
      · exact outside (if_neg block)
  | tx | receive | rx | expire => exact outside rfl

end Coarse

/-- The runs with whole blocks are among those with single statements. -/
theorem coarse_run {core : State reqs syncSize asyncSize}
    (run : Run (step info) unguarded (RpcCore.init info) core) :
    Run (splitStep info) unguarded (Split.init info) { core := core, part := fun _ => 0 } := by
  induction run with
  | refl => exact .refl
  | next act _ _ taken ih =>
      obtain ⟨acts, result⟩ := coarse_step taken
      exact exec_run_from acts ih result

end EspHosted.SlotSteps

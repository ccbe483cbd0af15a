import EspHosted.SlotSteps

/-!
Who a slot of `sync_rsp_table` belongs to, from the store of its uid to the store that clears
its semaphore. A request that finds its slot untouched when it stores its uid, and whose uid
is in no other slot, has it to itself until then; nobody else can take, release or see it as
free in between.
-/

namespace EspHosted.SlotSteps
open RpcTables RpcCore GuardedRun SyncRspTable

variable {reqs syncSize asyncSize : Nat} {info : Fin reqs → ReqInfo} {req : Fin reqs}

/-- An entry nobody has anything in. -/
def freeSlot : SyncRsp (Fin reqs) := { uid := 0, sem := none }

/-- The place of a request with a slot, and what it has in it: between its two stores, with
its semaphore to wait for, and in the three statements of its release. -/
inductive Stage (req : Fin reqs) (slot : Fin syncSize) (uid : UInt32) :
    ReqPc syncSize → Nat → SemSt → SyncRsp (Fin reqs) → Prop where
  | stored (count : Nat) : Stage req slot uid (.fillSlot slot) 1 (.live count) ⟨uid, none⟩
  | held (pc : ReqPc syncSize) (part count : Nat) (waits : pc.waits = true)
      (place : ∀ other, pc.claims = some other → other = slot)
      (ahead : pc = .findSlot → part ≤ slot.val) :
      Stage req slot uid pc part (.live count) ⟨uid, some req⟩
  | releasing (taken : Bool) (count : Nat) :
      Stage req slot uid (.clearSlot slot taken) 0 (.live count) ⟨uid, some req⟩
  | destroyed (taken : Bool) :
      Stage req slot uid (.clearSlot slot taken) 1 .destroyed ⟨uid, some req⟩
  | zeroed (taken : Bool) : Stage req slot uid (.clearSlot slot taken) 2 .destroyed ⟨0, some req⟩

/-- Between the first store into a slot and the last. -/
def owning (pc : ReqPc syncSize) (part : Nat) : Bool :=
  match pc with
  | .fillSlot _ => decide (part ≠ 0)
  | pc => pc.owns

/-- The semaphore is created and nothing is stored yet. -/
def registering (pc : ReqPc syncSize) (part : Nat) : Bool :=
  match pc with
  | .searchSlot => true
  | .fillSlot _ => decide (part = 0)
  | _ => false

theorem Stage.owning {slot : Fin syncSize} {uid : UInt32} {pc : ReqPc syncSize} {part : Nat}
    {sem : SemSt} {content : SyncRsp (Fin reqs)} (stage : Stage req slot uid pc part sem content) :
    owning pc part = true := by
  cases stage with
  | held _ _ _ waits =>
      unfold SlotSteps.owning
      cases pc <;> simp_all [ReqPc.waits, ReqPc.owns]
  | stored | releasing | destroyed | zeroed => rfl

/-- What a slot with an owner holds is never that of a free one. -/
theorem Stage.taken {slot : Fin syncSize} {uid : UInt32} {pc : ReqPc syncSize} {part : Nat}
    {sem : SemSt} {content : SyncRsp (Fin reqs)} (stage : Stage req slot uid pc part sem content)
    (valid : uid ≠ 0) : content ≠ freeSlot := by
  intro free
  cases stage with
  | stored => exact valid (congrArg SyncRsp.uid free)
  | held | releasing | destroyed | zeroed => cases congrArg SyncRsp.sem free

/-- The components of a state that the ownership of slots is about. -/
structure View (reqs syncSize : Nat) where
  pc : Fin reqs → ReqPc syncSize
  part : Fin reqs → Nat
  reqUid : Fin reqs → UInt32
  sem : Fin reqs → SemSt
  table : SyncTable syncSize (Fin reqs)

def Split.view (state : Split reqs syncSize asyncSize) : View reqs syncSize :=
  { pc := state.core.pc
    part := state.part
    reqUid := state.core.reqUid
    sem := state.core.sem
    table := state.core.syncRspTable }

structure Keeps (info : Fin reqs → ReqInfo) (view : View reqs syncSize) (slot : Fin syncSize)
    (req : Fin reqs) : Prop where
  sync : (info req).rpcRspCb = false
  valid : view.reqUid req ≠ 0
  stage : Stage req slot (view.reqUid req) (view.pc req) (view.part req) (view.sem req)
    (view.table slot)

/-- No uid is in two slots. -/
def Distinct (table : SyncTable syncSize (Fin reqs)) : Prop :=
  ∀ slot other, (table slot).uid = (table other).uid → (table slot).uid ≠ 0 → slot = other

structure Owned (info : Fin reqs → ReqInfo) (view : View reqs syncSize) : Prop where
  owner : ∀ slot, view.table slot ≠ freeSlot → ∃ req, Keeps info view slot req
  keeps : ∀ req, (info req).rpcRspCb = false → owning (view.pc req) (view.part req) = true →
    ∃ slot, Keeps info view slot req
  alone : ∀ slot req other, Keeps info view slot req → Keeps info view slot other → req = other
  distinct : Distinct view.table
  rest : ∀ req, inBlock (view.pc req) = false → view.part req = 0
  sync : ∀ req, (view.pc req).syncOnly = true → (info req).rpcRspCb = false
  mapped : ∀ req, (info req).rpcRspCb = false → (view.pc req).hasSem = true →
    expRespMsgId (info req).msgId < rpcIdRespMax
  live : ∀ req, registering (view.pc req) (view.part req) = true →
    ∃ count, view.sem req = .live count

variable {before after : View reqs syncSize}

theorem Keeps.taken {slot : Fin syncSize} (keeps : Keeps info before slot req) :
    before.table slot ≠ freeSlot :=
  keeps.stage.taken keeps.valid

theorem Keeps.none_of_rest {slot : Fin syncSize}
    (rests : owning (before.pc req) (before.part req) = false) :
    ¬ Keeps info before slot req := by
  intro keeps
  rw [keeps.stage.owning] at rests
  cases rests

theorem Keeps.none_of_async {slot : Fin syncSize} (async : (info req).rpcRspCb = true) :
    ¬ Keeps info before slot req := by
  intro keeps
  rw [keeps.sync] at async
  cases async

/-- A request has one slot. -/
theorem keeps_single (distinct : Distinct before.table) {slot other : Fin syncSize}
    (keeps : Keeps info before slot req) (also : Keeps info before other req) : slot = other := by
  obtain ⟨_, valid, stage⟩ := keeps
  obtain ⟨_, _, stage'⟩ := also
  -- both stages are of the same place, so only equal ones are left
  generalize here : before.pc req = pc at stage stage'
  generalize done : before.part req = part at stage stage'
  generalize state : before.sem req = sem at stage stage'
  generalize first : before.table slot = content at stage
  generalize second : before.table other = content' at stage'
  cases stage with
  | stored =>
      cases stage' with
      | stored => rfl
      | held _ _ _ waits => cases waits
  | held _ _ _ waits =>
      cases stage' with
      | held =>
          apply distinct slot other
          · rw [first, second]
          · rw [first]
            exact valid
      | stored | releasing => cases waits
  | releasing =>
      cases stage' with
      | held _ _ _ waits => cases waits
      | releasing => rfl
  | destroyed =>
      cases stage' with
      | destroyed => rfl
  | zeroed =>
      cases stage' with
      | zeroed => rfl

/-- What a step of `req` leaves of the others, and where it writes. -/
structure Step (info : Fin reqs → ReqInfo) (before after : View reqs syncSize) (req : Fin reqs) :
    Prop where
  pc : ∀ other, other ≠ req → after.pc other = before.pc other
  part : ∀ other, other ≠ req → after.part other = before.part other
  reqUid : ∀ other, other ≠ req → after.reqUid other = before.reqUid other
  sem : ∀ other, other ≠ req → after.sem other = before.sem other
  written : ∀ slot, after.table slot ≠ before.table slot →
    (before.table slot = freeSlot ∨ Keeps info before slot req) ∧
      ((after.table slot).sem = none ∨ (after.table slot).sem = some req)

section Steps
variable (owned : Owned info before) (moves : Step info before after req)
include moves

theorem Step.keeps_same {slot : Fin syncSize} {other : Fin reqs} (moved : other ≠ req)
    (same : after.table slot = before.table slot) :
    Keeps info after slot other ↔ Keeps info before slot other := by
  constructor
  · rintro ⟨sync, valid, stage⟩
    rw [moves.reqUid other moved] at valid stage
    rw [moves.pc other moved, moves.part other moved, moves.sem other moved, same] at stage
    exact ⟨sync, valid, stage⟩
  · rintro ⟨sync, valid, stage⟩
    refine ⟨sync, ?_, ?_⟩
    · rw [moves.reqUid other moved]
      exact valid
    · rw [moves.reqUid other moved, moves.pc other moved, moves.part other moved,
        moves.sem other moved, same]
      exact stage

include owned

/-- Where another request keeps a slot, nothing was written. -/
theorem Step.unwritten {slot : Fin syncSize} {other : Fin reqs} (moved : other ≠ req)
    (keeps : Keeps info before slot other) : after.table slot = before.table slot := by
  by_contra written
  rcases (moves.written slot written).1 with free | own
  · exact keeps.taken free
  · exact moved (owned.alone slot other req keeps own)

/-- The others keep what they kept. -/
theorem Step.keeps_iff {slot : Fin syncSize} {other : Fin reqs} (moved : other ≠ req) :
    Keeps info after slot other ↔ Keeps info before slot other := by
  by_cases same : after.table slot = before.table slot
  · exact moves.keeps_same moved same
  · constructor
    · intro keeps
      exfalso
      obtain ⟨place, content⟩ := moves.written slot same
      obtain ⟨sync, valid, stage⟩ := keeps
      rw [moves.pc other moved, moves.part other moved] at stage
      generalize here : before.pc other = pc at stage
      generalize done : before.part other = part at stage
      generalize after.sem other = sem at stage
      generalize written : after.table slot = new at stage
      rw [written] at content
      cases stage with
      | stored =>
          -- the other request stored there before, so it is its slot
          have owns : owning (before.pc other) (before.part other) = true := by
            rw [here, done]
            rfl
          obtain ⟨own, keeps⟩ := owned.keeps other sync owns
          have is : own = slot := by
            have stage := keeps.stage
            rw [here, done] at stage
            generalize before.sem other = sem at stage
            generalize before.table own = content at stage
            cases stage with
            | stored => rfl
            | held _ _ _ waits => cases waits
          subst own
          exact same (moves.unwritten owned moved keeps)
      -- a semaphore that was written there is that of `req`
      | held | releasing | destroyed | zeroed =>
          rcases content with none | some
          · cases none
          · cases some
            exact moved rfl
    · intro keeps
      exact absurd (moves.unwritten owned moved keeps) same

/-- What is left to show of a step is about the request that takes it. -/
theorem Step.owned_after
    (owner : ∀ slot, after.table slot ≠ freeSlot → Keeps info after slot req ∨
      after.table slot = before.table slot ∧ ¬ Keeps info before slot req)
    (fresh : ∀ slot, Keeps info after slot req →
      before.table slot = freeSlot ∨ Keeps info before slot req)
    (keeps : (info req).rpcRspCb = false → owning (after.pc req) (after.part req) = true →
      ∃ slot, Keeps info after slot req)
    (distinct : Distinct after.table)
    (rest : inBlock (after.pc req) = false → after.part req = 0)
    (sync : (after.pc req).syncOnly = true → (info req).rpcRspCb = false)
    (mapped : (info req).rpcRspCb = false → (after.pc req).hasSem = true →
      expRespMsgId (info req).msgId < rpcIdRespMax)
    (live : registering (after.pc req) (after.part req) = true →
      ∃ count, after.sem req = .live count) :
    Owned info after := by
  -- a slot the step has just taken was nobody else's
  have apart : ∀ slot other, other ≠ req → Keeps info after slot req →
      Keeps info after slot other → False := by
    intro slot other moved own also
    have was := (moves.keeps_iff owned moved).mp also
    rcases fresh slot own with free | mine
    · exact was.taken free
    · exact moved (owned.alone slot other req was mine)
  constructor
  case owner =>
    intro slot taken
    rcases owner slot taken with own | ⟨same, others⟩
    · exact ⟨req, own⟩
    · obtain ⟨holder, held⟩ := owned.owner slot (by rwa [← same])
      have moved : holder ≠ req := by
        rintro rfl
        exact others held
      exact ⟨holder, (moves.keeps_iff owned moved).mpr held⟩
  case keeps =>
    intro other
    by_cases moved : other = req
    · subst other
      exact keeps
    · rw [moves.pc other moved, moves.part other moved]
      intro sync owns
      obtain ⟨slot, held⟩ := owned.keeps other sync owns
      exact ⟨slot, (moves.keeps_iff owned moved).mpr held⟩
  case alone =>
    intro slot left right held also
    by_cases l : left = req <;> by_cases r : right = req
    · rw [l, r]
    · exact (apart slot right r (l ▸ held) also).elim
    · exact (apart slot left l (r ▸ also) held).elim
    · exact owned.alone slot left right ((moves.keeps_iff owned l).mp held)
        ((moves.keeps_iff owned r).mp also)
  case distinct => exact distinct
  case rest =>
    intro other
    by_cases moved : other = req
    · subst other
      exact rest
    · rw [moves.pc other moved, moves.part other moved]
      exact owned.rest other
  case sync =>
    intro other
    by_cases moved : other = req
    · subst other
      exact sync
    · rw [moves.pc other moved]
      exact owned.sync other
  case mapped =>
    intro other
    by_cases moved : other = req
    · subst other
      exact mapped
    · rw [moves.pc other moved]
      exact owned.mapped other
  case live =>
    intro other
    by_cases moved : other = req
    · subst other
      exact live
    · rw [moves.pc other moved, moves.part other moved, moves.sem other moved]
      exact owned.live other

/-- The request has no slot, before and after. -/
theorem Step.owned_apart (table : after.table = before.table)
    (none : owning (before.pc req) (before.part req) = false ∨ (info req).rpcRspCb = true)
    (still : owning (after.pc req) (after.part req) = false ∨ (info req).rpcRspCb = true)
    (rest : inBlock (after.pc req) = false → after.part req = 0)
    (sync : (after.pc req).syncOnly = true → (info req).rpcRspCb = false)
    (mapped : (info req).rpcRspCb = false → (after.pc req).hasSem = true →
      expRespMsgId (info req).msgId < rpcIdRespMax)
    (live : registering (after.pc req) (after.part req) = true →
      ∃ count, after.sem req = .live count) :
    Owned info after := by
  have nothing : ∀ slot, ¬ Keeps info before slot req := fun _ =>
    none.elim Keeps.none_of_rest Keeps.none_of_async
  have nothing' : ∀ slot, ¬ Keeps info after slot req := fun _ =>
    still.elim Keeps.none_of_rest Keeps.none_of_async
  refine moves.owned_after owned ?_ ?_ ?_ ?_ rest sync mapped live
  · exact fun slot _ => .inr ⟨congrFun table slot, nothing slot⟩
  · exact fun slot keeps => absurd keeps (nothing' slot)
  · intro own owns
    rcases still with quiet | async
    · rw [quiet] at owns
      cases owns
    · rw [own] at async
      cases async
  · rw [table]
    exact owned.distinct

/-- The request goes on with its slot, in which it may have written. -/
theorem Step.owned_keeps {slot : Fin syncSize} {content : SyncRsp (Fin reqs)}
    (keeps : Keeps info before slot req) (still : Keeps info after slot req)
    (table : after.table = Function.update before.table slot content)
    (uid : content.uid = (before.table slot).uid ∨ content.uid = 0)
    (rest : inBlock (after.pc req) = false → after.part req = 0)
    (registered : registering (after.pc req) (after.part req) = false) :
    Owned info after := by
  have elsewhere : ∀ other, other ≠ slot → after.table other = before.table other := by
    intro other moved
    rw [table, Function.update_of_ne moved]
  have here : after.table slot = content := by
    rw [table, Function.update_self]
  have mapped : expRespMsgId (info req).msgId < rpcIdRespMax := by
    refine owned.mapped req keeps.sync ?_
    have owns := keeps.stage.owning
    unfold SlotSteps.owning at owns
    generalize before.pc req = pc at owns
    cases pc <;> simp_all [ReqPc.hasSem, ReqPc.owns]
  have distinct : Distinct after.table := by
    intro left right equal nonzero
    by_cases l : left = slot <;> by_cases r : right = slot
    · rw [l, r]
    · rw [l, here, elsewhere right r] at equal
      rw [l, here] at nonzero
      rcases uid with same | zero
      · rw [same] at equal nonzero
        exact l.trans (owned.distinct slot right equal nonzero)
      · exact absurd zero nonzero
    · rw [r, here, elsewhere left l] at equal
      rw [elsewhere left l] at nonzero
      rcases uid with same | zero
      · rw [same] at equal
        exact (owned.distinct left slot equal nonzero).trans r.symm
      · exact absurd (equal.trans zero) nonzero
    · rw [elsewhere left l, elsewhere right r] at equal
      rw [elsewhere left l] at nonzero
      exact owned.distinct left right equal nonzero
  refine moves.owned_after owned ?_ ?_ ?_ distinct rest (fun _ => keeps.sync)
    (fun _ _ => mapped) ?_
  · intro other _
    by_cases same : other = slot
    · exact .inl (same ▸ still)
    · exact .inr ⟨elsewhere other same, fun also => same (keeps_single owned.distinct also keeps)⟩
  · intro other also
    rw [keeps_single distinct also still]
    exact .inr keeps
  · exact fun _ _ => ⟨slot, still⟩
  · intro registers
    rw [registered] at registers
    cases registers

/-- The request stores its uid in a free slot; no other slot has that uid. -/
theorem Step.owned_takes {slot : Fin syncSize} {uid : UInt32} (free : before.table slot = freeSlot)
    (fresh : ∀ other, (before.table other).uid ≠ uid)
    (rested : owning (before.pc req) (before.part req) = false)
    (keeps : Keeps info after slot req)
    (table : after.table = Function.update before.table slot { uid := uid, sem := none })
    (rest : inBlock (after.pc req) = false → after.part req = 0)
    (mapped : expRespMsgId (info req).msgId < rpcIdRespMax)
    (registered : registering (after.pc req) (after.part req) = false) : Owned info after := by
  have elsewhere : ∀ other, other ≠ slot → after.table other = before.table other := by
    intro other moved
    rw [table, Function.update_of_ne moved]
  have here : (after.table slot).uid = uid := by
    rw [table, Function.update_self]
  have distinct : Distinct after.table := by
    intro left right equal nonzero
    by_cases l : left = slot <;> by_cases r : right = slot
    · rw [l, r]
    · rw [l, here, elsewhere right r] at equal
      exact absurd equal.symm (fresh right)
    · rw [r, here, elsewhere left l] at equal
      exact absurd equal (fresh left)
    · rw [elsewhere left l, elsewhere right r] at equal
      rw [elsewhere left l] at nonzero
      exact owned.distinct left right equal nonzero
  refine moves.owned_after owned ?_ ?_ ?_ distinct rest (fun _ => keeps.sync)
    (fun _ _ => mapped) ?_
  · intro other _
    by_cases same : other = slot
    · exact .inl (same ▸ keeps)
    · exact .inr ⟨elsewhere other same, Keeps.none_of_rest rested⟩
  · intro other also
    rw [keeps_single distinct also keeps]
    exact .inl free
  · exact fun _ _ => ⟨slot, keeps⟩
  · intro registers
    rw [registered] at registers
    cases registers

/-- The last store of a release: the slot is free again. -/
theorem Step.owned_leaves {slot : Fin syncSize} (keeps : Keeps info before slot req)
    (table : after.table = Function.update before.table slot freeSlot)
    (rested : owning (after.pc req) (after.part req) = false)
    (rest : inBlock (after.pc req) = false → after.part req = 0)
    (unmapped : (after.pc req).hasSem = false)
    (registered : registering (after.pc req) (after.part req) = false) : Owned info after := by
  have elsewhere : ∀ other, other ≠ slot → after.table other = before.table other := by
    intro other moved
    rw [table, Function.update_of_ne moved]
  have here : after.table slot = freeSlot := by
    rw [table, Function.update_self]
  refine moves.owned_after owned ?_ ?_ ?_ ?_ rest (fun _ => keeps.sync) ?_ ?_
  · intro other taken
    have moved : other ≠ slot := by
      rintro rfl
      exact taken here
    exact .inr ⟨elsewhere other moved, fun also => moved (keeps_single owned.distinct also keeps)⟩
  · exact fun other also => absurd also (Keeps.none_of_rest rested)
  · intro _ owns
    rw [rested] at owns
    cases owns
  · intro left right equal nonzero
    by_cases l : left = slot
    · rw [l, here] at nonzero
      exact absurd rfl nonzero
    · by_cases r : right = slot
      · rw [equal, r, here] at nonzero
        exact absurd rfl nonzero
      · rw [elsewhere left l, elsewhere right r] at equal
        rw [elsewhere left l] at nonzero
        exact owned.distinct left right equal nonzero
  · intro _ has
    rw [unmapped] at has
    cases has
  · intro registers
    rw [registered] at registers
    cases registers

end Steps

end EspHosted.SlotSteps

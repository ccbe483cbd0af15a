import EspHosted.SlotOwners

/-!
What each statement leaves of the ownership of slots: the statements of the requesters outside
the blocks, those of a search, a fill and a release, and the steps of the other threads.
-/

namespace EspHosted.SlotSteps
open RpcTables RpcCore GuardedRun SyncRspTable

variable {reqs syncSize asyncSize : Nat} {info : Fin reqs → ReqInfo} {req : Fin reqs}
variable {before after state : Split reqs syncSize asyncSize}

/-- Where a request waits it has a slot with its uid and its semaphore. -/
structure Waiting (view : View reqs syncSize) (slot : Fin syncSize) (req : Fin reqs) : Prop where
  live : ∃ count, view.sem req = .live count
  content : view.table slot = { uid := view.reqUid req, sem := some req }
  place : ∀ other, (view.pc req).claims = some other → other = slot
  ahead : view.pc req = .findSlot → view.part req ≤ slot.val

theorem Keeps.waiting {view : View reqs syncSize} {slot : Fin syncSize}
    (keeps : Keeps info view slot req) (waits : (view.pc req).waits = true) :
    Waiting view slot req := by
  have stage := keeps.stage
  generalize here : view.pc req = pc at stage waits
  generalize done : view.part req = part at stage
  generalize state : view.sem req = sem at stage
  generalize content : view.table slot = new at stage
  cases stage with
  | held _ _ count _ place ahead =>
      refine ⟨⟨count, state⟩, content, ?_, ?_⟩
      · rw [here]
        exact place
      · rw [here, done]
        exact ahead
  | stored | releasing | destroyed | zeroed => cases waits

theorem Waiting.keeps {view : View reqs syncSize} {slot : Fin syncSize}
    (waiting : Waiting view slot req) (sync : (info req).rpcRspCb = false)
    (valid : view.reqUid req ≠ 0) (waits : (view.pc req).waits = true) :
    Keeps info view slot req := by
  obtain ⟨⟨count, live⟩, content, place, ahead⟩ := waiting
  refine ⟨sync, valid, ?_⟩
  rw [live, content]
  exact .held _ _ count waits place ahead

theorem owning_of_waits {pc : ReqPc syncSize} {part : Nat} (waits : pc.waits = true) :
    owning pc part = true := by
  cases pc <;> simp_all [ReqPc.waits, owning, ReqPc.owns]

theorem Owned.waiting {view : View reqs syncSize} (owned : Owned info view)
    (sync : (info req).rpcRspCb = false) (waits : (view.pc req).waits = true) :
    ∃ slot, Keeps info view slot req ∧ Waiting view slot req := by
  obtain ⟨slot, keeps⟩ := owned.keeps req sync (owning_of_waits waits)
  exact ⟨slot, keeps, keeps.waiting waits⟩

/-- What a posted semaphore is still good for. -/
theorem stage_raised {slot : Fin syncSize} {uid : UInt32} {pc : ReqPc syncSize} {part : Nat}
    {old new : SemSt} {content : SyncRsp (Fin reqs)} (raised : Raised old new) :
    Stage req slot uid pc part new content ↔ Stage req slot uid pc part old content := by
  cases raised with
  | same => exact Iff.rfl
  | posted count =>
      constructor <;> intro stage <;> cases stage with
      | stored => exact .stored _
      | held _ _ _ waits place ahead => exact .held _ _ _ waits place ahead
      | releasing => exact .releasing _ _

theorem owned_kept (owned : Owned info before.view) (kept : SyncKept before.core after.core)
    (part : after.part = before.part) : Owned info after.view := by
  have same : after.view = { before.view with sem := after.core.sem } := by
    simp only [Split.view, kept.pc, kept.reqUid, kept.table, part]
  have keeps : ∀ slot req, Keeps info after.view slot req ↔ Keeps info before.view slot req := by
    intro slot req
    have stages := @stage_raised reqs syncSize req slot (before.core.reqUid req)
      (before.core.pc req) (before.part req) _ _ (before.core.syncRspTable slot) (kept.sems req)
    rw [same]
    exact ⟨fun ⟨sync, valid, stage⟩ => ⟨sync, valid, stages.mp stage⟩,
      fun ⟨sync, valid, stage⟩ => ⟨sync, valid, stages.mpr stage⟩⟩
  constructor
  case owner =>
    intro slot taken
    rw [same] at taken
    obtain ⟨holder, held⟩ := owned.owner slot taken
    exact ⟨holder, (keeps slot holder).mpr held⟩
  case keeps =>
    intro holder sync owns
    rw [same] at owns
    obtain ⟨slot, held⟩ := owned.keeps holder sync owns
    exact ⟨slot, (keeps slot holder).mpr held⟩
  case alone =>
    intro slot first second held also
    exact owned.alone slot first second ((keeps slot first).mp held) ((keeps slot second).mp also)
  case distinct =>
    rw [same]
    exact owned.distinct
  case rest =>
    rw [same]
    exact owned.rest
  case sync =>
    rw [same]
    exact owned.sync
  case mapped =>
    rw [same]
    exact owned.mapped
  case live =>
    intro holder registers
    rw [same] at registers
    obtain ⟨count, live⟩ := owned.live holder registers
    exact kept.alive holder count live

theorem goto_pc (core : State reqs syncSize asyncSize) (req : Fin reqs) (pc : ReqPc syncSize) :
    (core.goto req pc).pc req = pc :=
  Function.update_self ..

/-- A step that writes in no slot, in terms of the state it leads to. -/
theorem step_unwritten {choice : ReqChoice} (move : ReqMove info req before.core after.core choice)
    (part : after.part = before.part)
    (table : after.core.syncRspTable = before.core.syncRspTable)
    (sem : ∀ other, other ≠ req → after.core.sem other = before.core.sem other) :
    Step info before.view after.view req where
  pc _ moved := pc_other move moved
  part other _ := congrFun part other
  reqUid _ moved := reqUid_other move moved
  sem := sem
  written slot written := absurd (congrFun table slot) written

section Requests
variable {choice : ReqChoice} {next : ReqPc syncSize}

/-- The request has no slot, or is none that gets one. -/
def Slotless (info : Fin reqs → ReqInfo) (req : Fin reqs) (pc : ReqPc syncSize) (part : Nat) :
    Prop :=
  owning pc part = false ∨ (info req).rpcRspCb = true

/-- A request without a slot goes on. -/
theorem owned_slotless (owned : Owned info before.view) (moves : Step info before.view after.view req)
    (table : after.core.syncRspTable = before.core.syncRspTable)
    (pc : after.core.pc req = next)
    (was : Slotless info req (before.core.pc req) (before.part req))
    (still : Slotless info req next (after.part req))
    (rest : inBlock next = false → after.part req = 0)
    (sync : next.syncOnly = true → (info req).rpcRspCb = false)
    (mapped : (info req).rpcRspCb = false → next.hasSem = true →
      expRespMsgId (info req).msgId < rpcIdRespMax)
    (live : registering next (after.part req) = true → ∃ count, after.core.sem req = .live count) :
    Owned info after.view := by
  subst pc
  exact moves.owned_apart owned table was still rest sync mapped live

/-- A request that waits goes on waiting. -/
theorem owned_waits (owned : Owned info before.view) (moves : Step info before.view after.view req)
    (table : after.core.syncRspTable = before.core.syncRspTable)
    (reqUid : after.core.reqUid req = before.core.reqUid req)
    (sem : after.core.sem req = before.core.sem req)
    (pc : after.core.pc req = next)
    (sync : (info req).rpcRspCb = false) (waits : (before.core.pc req).waits = true)
    (still : next.waits = true)
    (rest : inBlock next = false → after.part req = 0)
    (place : ∀ slot, Waiting before.view slot req → (∀ other, next.claims = some other → other = slot) ∧
      (next = .findSlot → after.part req ≤ slot.val)) :
    Owned info after.view := by
  subst pc
  obtain ⟨slot, keeps, waiting⟩ := owned.waiting sync waits
  obtain ⟨claims, ahead⟩ := place slot waiting
  have content : after.core.syncRspTable slot =
      { uid := after.core.reqUid req, sem := some req } := by
    rw [table, reqUid]
    exact waiting.content
  have live : ∃ count, after.core.sem req = .live count := by
    rw [sem]
    exact waiting.live
  have valid : after.core.reqUid req ≠ 0 := by
    rw [reqUid]
    exact keeps.valid
  have later : Waiting after.view slot req := ⟨live, content, claims, ahead⟩
  have same : after.view.table =
      Function.update before.view.table slot (before.view.table slot) :=
    table.trans (Function.update_eq_self slot _).symm
  refine moves.owned_keeps owned keeps (later.keeps sync valid still) same (.inl rfl) rest ?_
  change registering (after.core.pc req) (after.part req) = false
  cases here : after.core.pc req <;> simp_all [ReqPc.waits, registering]

/-- A statement outside the blocks that only advances the requester. -/
theorem owned_quiet (owned : Owned info before.view)
    (outside : inBlock (before.core.pc req) = false) (part : after.part = before.part)
    (edge : Quiet (info req) before.core.syncRspTable (before.core.reqUid req)
      (before.core.pc req) next)
    (effect : Agrees after.core (before.core.goto req next)) : Owned info after.view := by
  have move : ReqMove info req before.core after.core .go := .quiet next edge effect
  have moves : Step info before.view after.view req :=
    step_unwritten move part effect.syncRspTable fun other _ => congrFun effect.sem other
  have here : after.core.pc req = next := (congrFun effect.pc req).trans (goto_pc ..)
  have rests : after.part req = 0 := by
    rw [part]
    exact owned.rest req outside
  have kind : (before.core.pc req).syncOnly = true → _ := owned.sync req
  have mapped : _ → (before.core.pc req).hasSem = true → _ := owned.mapped req
  -- a step between two places where the request waits, or has nothing to wait for
  have waits (was : (before.core.pc req).waits = true) (still : next.waits = true)
      (claims : next.claims = none) : Owned info after.view := by
    cases sync : (info req).rpcRspCb with
    | false =>
        refine owned_waits owned moves effect.syncRspTable (congrFun effect.reqUid req)
          (congrFun effect.sem req) here sync was still (fun _ => rests) fun slot _ => ⟨?_, ?_⟩
        · rw [claims]
          rintro _ ⟨⟩
        · rw [rests]
          exact fun _ => Nat.zero_le _
    | true =>
        refine owned_slotless owned moves effect.syncRspTable here (.inr sync) (.inr sync)
          (fun _ => rests) ?_ ?_ ?_
        · intro only
          cases only' : (before.core.pc req).syncOnly with
          | true => exact kind only'
          | false =>
              generalize before.core.pc req = pc at edge was only'
              cases edge <;> simp_all [ReqPc.syncOnly, ReqPc.waits]
        · rw [sync]
          rintro ⟨⟩
        · intro registers
          cases next <;> simp_all [registering, ReqPc.waits]
  have slotless (was : owning (before.core.pc req) (before.part req) = false)
      (still : owning next 0 = false) (only : next.syncOnly = true → (info req).rpcRspCb = false)
      (has : next.hasSem = false) (registers : registering next 0 = false) :
      Owned info after.view := by
    refine owned_slotless owned moves effect.syncRspTable here (.inl was) ?_ (fun _ => rests)
      only ?_ ?_
    · rw [rests]
      exact .inl still
    · rw [has]
      rintro _ ⟨⟩
    · rw [rests, registers]
      rintro ⟨⟩
  generalize stands : before.core.pc req = pc at edge outside kind mapped waits slotless
  cases edge with
  | load | store | wrapped | counted | reload | restore | unmapped | failHook | hooked | failed =>
      exact slotless rfl rfl (by rintro ⟨⟩) rfl rfl
  | freed resp => exact slotless rfl rfl (fun _ => kind rfl) rfl rfl
  | indicate | hook | sent => exact waits rfl rfl rfl
  | await sync => exact waits rfl rfl rfl
  | unawaited sync beyond => exact absurd (mapped sync rfl) (not_lt.mpr beyond)
  | free | full | unregistered | found => cases outside

/-- The request that waits on its slot took its own semaphore, or gave it up. -/
theorem owned_releases {slot : Fin syncSize} {taken : Bool} (owned : Owned info before.view)
    (moves : Step info before.view after.view req) (stands : before.core.pc req = .takeSem slot)
    (part : after.part = before.part)
    (table : after.core.syncRspTable = before.core.syncRspTable)
    (reqUid : after.core.reqUid req = before.core.reqUid req)
    (live : ∃ count, after.core.sem req = .live count)
    (pc : after.core.pc req = .clearSlot slot taken) : Owned info after.view := by
  have sync : (info req).rpcRspCb = false :=
    owned.sync req (show (before.core.pc req).syncOnly = true by rw [stands]; rfl)
  have waits : (before.core.pc req).waits = true := by rw [stands]; rfl
  obtain ⟨own, keeps, waiting⟩ := owned.waiting sync waits
  have is : slot = own := waiting.place slot (show (before.core.pc req).claims = _ by rw [stands]; rfl)
  subst own
  have rests : after.part req = 0 := by
    rw [part]
    exact owned.rest req (show inBlock (before.core.pc req) = false by rw [stands]; rfl)
  have content : after.core.syncRspTable slot =
      { uid := after.core.reqUid req, sem := some req } := by
    rw [table, reqUid]
    exact waiting.content
  have valid : after.core.reqUid req ≠ 0 := by
    rw [reqUid]
    exact keeps.valid
  have later : Keeps info after.view slot req := by
    obtain ⟨count, live⟩ := live
    refine ⟨sync, valid, ?_⟩
    change Stage req slot (after.core.reqUid req) (after.core.pc req) (after.part req)
      (after.core.sem req) (after.core.syncRspTable slot)
    rw [pc, rests, live, content]
    exact .releasing taken count
  have same : after.view.table =
      Function.update before.view.table slot (before.view.table slot) :=
    table.trans (Function.update_eq_self slot _).symm
  refine moves.owned_keeps owned keeps later same (.inl rfl) (fun _ => rests) ?_
  change registering (after.core.pc req) (after.part req) = false
  rw [pc]
  rfl

/-- A statement of a requester outside the blocks. -/
theorem owned_req (owned : Owned info before.view)
    (outside : inBlock (before.core.pc req) = false) (part : after.part = before.part)
    (puts : choice = .putFails → (info req).rpcRspCb = true)
    (move : ReqMove info req before.core after.core choice) : Owned info after.view := by
  have rests : after.part req = 0 := by
    rw [part]
    exact owned.rest req outside
  have kind : (before.core.pc req).syncOnly = true → _ := owned.sync req
  have mapped : _ → (before.core.pc req).hasSem = true → _ := owned.mapped req
  have same := step_unwritten move part
  cases move with
  | quiet next edge effect => exact owned_quiet owned outside part edge effect
  | putFails stands failing effect =>
      have async := puts failing
      refine owned_slotless owned (same effect.syncRspTable fun _ _ => congrFun effect.sem _)
        effect.syncRspTable ((congrFun effect.pc req).trans (goto_pc ..)) (.inr async) (.inr async)
        (fun _ => rests) (by rintro ⟨⟩) (by rintro _ ⟨⟩) (by rintro ⟨⟩)
  | put stands effect =>
      have moves := same effect.syncRspTable fun _ _ => congrFun effect.sem _
      have here : after.core.pc req = .indTx := (congrFun effect.pc req).trans (goto_pc ..)
      cases sync : (info req).rpcRspCb with
      | false =>
          refine owned_waits owned moves effect.syncRspTable (congrFun effect.reqUid req)
            (congrFun effect.sem req) here sync (by rw [stands]; rfl) rfl (fun _ => rests)
            fun _ _ => ⟨(by rintro _ ⟨⟩), (by rintro ⟨⟩)⟩
      | true =>
          refine owned_slotless owned moves effect.syncRspTable here (.inr sync) (.inr sync)
            (fun _ => rests) (by rintro ⟨⟩) ?_ (by rintro ⟨⟩)
          rw [sync]
          rintro ⟨⟩
  | copyUid stands effect =>
      have moves := same effect.syncRspTable fun _ _ => congrFun effect.sem _
      have here := (congrFun effect.pc req).trans (goto_pc ..)
      have was : Slotless info req (before.core.pc req) (before.part req) := by
        rw [stands]
        exact .inl rfl
      cases sync : (info req).rpcRspCb with
      | false =>
          rw [sync] at here
          refine owned_slotless owned moves effect.syncRspTable here was (.inl rfl)
            (fun _ => rests) (fun _ => sync) (by rintro _ ⟨⟩) (by rintro ⟨⟩)
      | true =>
          rw [sync] at here
          refine owned_slotless owned moves effect.syncRspTable here was (.inr sync)
            (fun _ => rests) (by rintro ⟨⟩) ?_ (by rintro ⟨⟩)
          rw [sync]
          rintro ⟨⟩
  | createSem stands inside effect =>
      have sync := kind (by rw [stands]; rfl)
      refine owned_slotless owned (same effect.syncRspTable fun other moved => ?_)
        effect.syncRspTable ((congrFun effect.pc req).trans (goto_pc ..)) (.inl (by rw [stands]; rfl))
        (.inl rfl) (by rintro ⟨⟩) (fun _ => sync) (fun _ _ => inside) fun _ => ⟨0, ?_⟩
      · rw [effect.sem]
        simp [State.goto, State.setSem, moved]
      · rw [effect.sem]
        simp [State.goto, State.setSem]
  | take slot owner count stands handle posted effect =>
      have sync := kind (by rw [stands]; rfl)
      obtain ⟨own, keeps, waiting⟩ := owned.waiting sync
        (show (before.core.pc req).waits = true by rw [stands]; rfl)
      have is : slot = own :=
        waiting.place slot (show (before.core.pc req).claims = _ by rw [stands]; rfl)
      subst own
      have self : owner = req := by
        have content : before.core.syncRspTable slot = _ := waiting.content
        rw [content] at handle
        exact (Option.some.inj handle).symm
      subst owner
      refine owned_releases owned (same effect.syncRspTable fun other moved => ?_) stands part
        effect.syncRspTable (congrFun effect.reqUid req) ⟨count, ?_⟩
        ((congrFun effect.pc req).trans (goto_pc ..))
      · rw [effect.sem]
        simp [State.goto, State.setSem, moved]
      · rw [effect.sem]
        simp [State.goto, State.setSem]
  | giveUp slot stands reason effect =>
      have sync := kind (by rw [stands]; rfl)
      obtain ⟨own, keeps, waiting⟩ := owned.waiting sync
        (show (before.core.pc req).waits = true by rw [stands]; rfl)
      have live : ∃ count, after.core.sem req = .live count := by
        rw [effect.sem]
        exact waiting.live
      exact owned_releases owned (same effect.syncRspTable fun _ _ => congrFun effect.sem _) stands
        part effect.syncRspTable (congrFun effect.reqUid req) live
        ((congrFun effect.pc req).trans (goto_pc ..))
  | dequeue resp rest stands going queue effect =>
      refine owned_slotless owned (same effect.syncRspTable fun _ _ => congrFun effect.sem _)
        effect.syncRspTable ((congrFun effect.pc req).trans (goto_pc ..)) (.inl (by rw [stands]; rfl))
        (.inl rfl) (fun _ => rests) (fun _ => kind (by rw [stands]; rfl)) (by rintro _ ⟨⟩)
        (by rintro ⟨⟩)
  | abandon stands effect =>
      refine owned_slotless owned (same effect.syncRspTable fun other moved => ?_)
        effect.syncRspTable ((congrFun effect.pc req).trans (goto_pc ..)) (.inl (by rw [stands]; rfl))
        (.inl rfl) (fun _ => rests) (by rintro ⟨⟩) (by rintro _ ⟨⟩) (by rintro ⟨⟩)
      rw [effect.sem]
      exact destroy_other moved
  | fill slot stands | clear slot _ stands =>
      rw [stands] at outside
      cases outside

end Requests

/-! The statements of the blocks. -/

/-- A request that stores its uid finds its slot untouched, and its uid is valid and in no
slot. -/
def StoresFree (state : Split reqs syncSize asyncSize) : SplitAct reqs syncSize → Prop
  | .core (.req req _) => ∀ slot, state.core.pc req = .fillSlot slot → state.part req = 0 →
      (state.core.syncRspTable slot).uid = 0 ∧ (state.core.syncRspTable slot).sem = none ∧
        state.core.reqUid req ≠ 0 ∧
          ∀ other, (state.core.syncRspTable other).uid ≠ state.core.reqUid req
  | _ => True

/-- A statement of a block, up to what it writes. -/
theorem step_block {expected : State reqs syncSize asyncSize} {part : Nat}
    (effect : Agrees after.core expected)
    (parts : after.part = Function.update before.part req part)
    (pc : ∀ other, other ≠ req → expected.pc other = before.core.pc other)
    (reqUid : expected.reqUid = before.core.reqUid)
    (sem : ∀ other, other ≠ req → expected.sem other = before.core.sem other)
    (written : ∀ slot, after.view.table slot ≠ before.view.table slot →
      (before.view.table slot = freeSlot ∨ Keeps info before.view slot req) ∧
        ((after.view.table slot).sem = none ∨ (after.view.table slot).sem = some req)) :
    Step info before.view after.view req where
  pc other moved := (congrFun effect.pc other).trans (pc other moved)
  part other moved := by
    change after.part other = before.part other
    rw [parts, Function.update_of_ne moved]
  reqUid other _ := congrFun (effect.reqUid.trans reqUid) other
  sem other moved := (congrFun effect.sem other).trans (sem other moved)
  written := written

theorem goto_other (core : State reqs syncSize asyncSize) {other : Fin reqs} (moved : other ≠ req)
    (pc : ReqPc syncSize) : (core.goto req pc).pc other = core.pc other :=
  Function.update_of_ne moved ..

/-- One slot is written, by the request whose it is or for whom it is free. -/
theorem written_slot {old new : View reqs syncSize} {slot : Fin syncSize}
    {content : SyncRsp (Fin reqs)} (table : new.table = Function.update old.table slot content)
    (place : old.table slot = freeSlot ∨ Keeps info old slot req)
    (own : content.sem = none ∨ content.sem = some req) (other : Fin syncSize)
    (changed : new.table other ≠ old.table other) :
    (old.table other = freeSlot ∨ Keeps info old other req) ∧
      ((new.table other).sem = none ∨ (new.table other).sem = some req) := by
  by_cases same : other = slot
  · subst other
    rw [table, Function.update_self]
    exact ⟨place, own⟩
  · rw [table, Function.update_of_ne same] at changed
    exact absurd rfl changed

/-- The search for a free slot goes on, or is over. -/
theorem owned_search {next : ReqPc syncSize} (owned : Owned info before.view)
    (stands : before.core.pc req = .searchSlot) (moves : Step info before.view after.view req)
    (table : after.core.syncRspTable = before.core.syncRspTable)
    (sem : after.core.sem req = before.core.sem req) (here : after.core.pc req = next)
    (still : owning next (after.part req) = false)
    (rest : inBlock next = false → after.part req = 0) : Owned info after.view := by
  have sync := owned.sync req (show (before.core.pc req).syncOnly = true by rw [stands]; rfl)
  have inside := owned.mapped req sync (show (before.core.pc req).hasSem = true by rw [stands]; rfl)
  have live := owned.live req
    (show registering (before.core.pc req) (before.part req) = true by rw [stands]; rfl)
  refine owned_slotless owned moves table here (.inl (by rw [stands]; rfl)) (.inl still) rest
    (fun _ => sync) (fun _ _ => inside) fun _ => ?_
  rw [sem]
  exact live

/-- Between its two stores. -/
theorem Keeps.storing {view : View reqs syncSize} {slot : Fin syncSize} (owned : Owned info view)
    (stands : view.pc req = .fillSlot slot) (second : view.part req = 1) :
    Keeps info view slot req ∧ (∃ count, view.sem req = .live count) ∧
      view.table slot = { uid := view.reqUid req, sem := none } := by
  have sync := owned.sync req (by rw [stands]; rfl)
  obtain ⟨own, keeps⟩ := owned.keeps req sync (by rw [stands, second]; rfl)
  have stage := keeps.stage
  rw [stands, second] at stage
  generalize state : view.sem req = sem at stage
  generalize content : view.table own = new at stage
  cases stage with
  | stored count => exact ⟨keeps, ⟨count, rfl⟩, content⟩
  | held _ _ _ waits => cases waits

/-- In its release. -/
theorem Keeps.releasing {view : View reqs syncSize} {slot : Fin syncSize} {taken : Bool}
    (owned : Owned info view) (stands : view.pc req = .clearSlot slot taken) :
    Keeps info view slot req := by
  have sync := owned.sync req (by rw [stands]; rfl)
  obtain ⟨own, keeps⟩ := owned.keeps req sync (by rw [stands]; rfl)
  have stage := keeps.stage
  rw [stands] at stage
  generalize view.part req = part at stage
  generalize view.sem req = sem at stage
  generalize view.table own = new at stage
  cases stage with
  | releasing | destroyed | zeroed => exact keeps
  | held _ _ _ waits => cases waits

theorem owned_storeUid {slot : Fin syncSize} (owned : Owned info before.view)
    (free : StoresFree before (.core (.req req .go))) (stands : before.core.pc req = .fillSlot slot)
    (first : before.part req = 0)
    (effect : Agrees after.core (before.core.setSyncSlot slot
      { before.core.syncRspTable slot with uid := before.core.reqUid req }))
    (parts : after.part = Function.update before.part req 1) : Owned info after.view := by
  obtain ⟨zero, none, valid, fresh⟩ := free slot stands first
  have empty : before.core.syncRspTable slot = freeSlot := by
    generalize before.core.syncRspTable slot = content at zero none
    cases content
    cases zero
    cases none
    rfl
  have sync := owned.sync req (show (before.core.pc req).syncOnly = true by rw [stands]; rfl)
  have inside := owned.mapped req sync (show (before.core.pc req).hasSem = true by rw [stands]; rfl)
  obtain ⟨count, live⟩ := owned.live req
    (show registering (before.core.pc req) (before.part req) = true by rw [stands, first]; rfl)
  have here : after.core.pc req = .fillSlot slot := (congrFun effect.pc req).trans stands
  have done : after.part req = 1 := by
    rw [parts, Function.update_self]
  have table : after.view.table = Function.update before.view.table slot
      { uid := before.core.reqUid req, sem := Option.none } := by
    change after.core.syncRspTable = _
    rw [effect.syncRspTable, empty]
    rfl
  have moves : Step info before.view after.view req :=
    step_block effect parts (fun _ _ => rfl) rfl (fun _ _ => rfl)
      (written_slot table (.inl empty) (.inl rfl))
  have keeps : Keeps info after.view slot req := by
    have uid : after.core.reqUid req = before.core.reqUid req := congrFun effect.reqUid req
    have sem : after.core.sem req = .live count := (congrFun effect.sem req).trans live
    refine ⟨sync, ?_, ?_⟩
    · change after.core.reqUid req ≠ 0
      rw [uid]
      exact valid
    · change Stage req slot (after.core.reqUid req) (after.core.pc req) (after.part req)
        (after.core.sem req) (after.view.table slot)
      rw [uid, here, done, sem, table, Function.update_self]
      exact .stored count
  refine moves.owned_takes owned empty fresh ?_ keeps table ?_ inside ?_
  · change owning (before.core.pc req) (before.part req) = false
    rw [stands, first]
    rfl
  · change inBlock (after.core.pc req) = false → _
    rw [here]
    rintro ⟨⟩
  · change registering (after.core.pc req) (after.part req) = false
    rw [here, done]
    rfl

theorem registering_of_owning {pc : ReqPc syncSize} {part : Nat} (owns : owning pc part = true) :
    registering pc part = false := by
  cases pc <;> simp_all [owning, registering, ReqPc.owns]

theorem Stage.own_sem {slot : Fin syncSize} {uid : UInt32} {pc : ReqPc syncSize} {part : Nat}
    {sem : SemSt} {content : SyncRsp (Fin reqs)} (stage : Stage req slot uid pc part sem content) :
    content.sem = none ∨ content.sem = some req := by
  cases stage with
  | stored => exact .inl rfl
  | held | releasing | destroyed | zeroed => exact .inr rfl

/-- A request with a slot goes on to its next stage. -/
theorem owned_stage {slot : Fin syncSize} {content : SyncRsp (Fin reqs)}
    {expected : State reqs syncSize asyncSize} {part : Nat} (owned : Owned info before.view)
    (keeps : Keeps info before.view slot req) (effect : Agrees after.core expected)
    (parts : after.part = Function.update before.part req part)
    (pc : ∀ other, other ≠ req → expected.pc other = before.core.pc other)
    (reqUid : expected.reqUid = before.core.reqUid)
    (sem : ∀ other, other ≠ req → expected.sem other = before.core.sem other)
    (table : expected.syncRspTable = Function.update before.core.syncRspTable slot content)
    (stage : Stage req slot (before.core.reqUid req) (expected.pc req) part (expected.sem req)
      content)
    (uid : content.uid = (before.core.syncRspTable slot).uid ∨ content.uid = 0)
    (rest : inBlock (expected.pc req) = false → part = 0) : Owned info after.view := by
  have stored : after.view.table = Function.update before.view.table slot content :=
    effect.syncRspTable.trans table
  have moves : Step info before.view after.view req :=
    step_block effect parts pc reqUid sem (written_slot stored (.inr keeps) stage.own_sem)
  have here : after.view.pc req = expected.pc req := congrFun effect.pc req
  have done : after.view.part req = part := by
    change after.part req = part
    rw [parts, Function.update_self]
  have number : after.view.reqUid req = before.view.reqUid req :=
    congrFun (effect.reqUid.trans reqUid) req
  have handle : after.view.sem req = expected.sem req := congrFun effect.sem req
  have later : Keeps info after.view slot req := by
    refine ⟨keeps.sync, ?_, ?_⟩
    · rw [number]
      exact keeps.valid
    · rw [number, here, done, handle, stored, Function.update_self]
      exact stage
  refine moves.owned_keeps owned keeps later stored uid ?_ ?_
  · rw [here, done]
    exact rest
  · rw [here, done]
    exact registering_of_owning stage.owning

theorem owned_storeSem {slot : Fin syncSize} (owned : Owned info before.view)
    (stands : before.core.pc req = .fillSlot slot) (second : before.part req = 1)
    (effect : Agrees after.core ((before.core.setSyncSlot slot
      { before.core.syncRspTable slot with sem := some req }).goto req .putTx))
    (parts : after.part = Function.update before.part req 0) : Owned info after.view := by
  obtain ⟨keeps, ⟨count, live⟩, content⟩ := Keeps.storing owned stands second
  have old : before.core.syncRspTable slot = _ := content
  rw [old] at effect
  refine owned_stage owned keeps effect parts (fun _ moved => goto_other _ moved _) rfl
    (fun _ _ => rfl) rfl ?_ (.inl (congrArg SyncRsp.uid old).symm) fun _ => rfl
  rw [goto_pc]
  change Stage req slot _ _ _ (before.core.sem req) _
  rw [show before.core.sem req = .live count from live]
  exact .held _ _ count rfl (by rintro _ ⟨⟩) (by rintro ⟨⟩)

/-- The search for its uid passes the slots of others. -/
theorem owned_passes {slot : Fin syncSize} (owned : Owned info before.view)
    (stands : before.core.pc req = .findSlot) (index : slot.val = before.part req)
    (other : (before.core.syncRspTable slot).uid ≠ before.core.reqUid req)
    (effect : Agrees after.core before.core)
    (parts : after.part = Function.update before.part req (before.part req + 1)) :
    Owned info after.view := by
  have sync := owned.sync req (show (before.core.pc req).syncOnly = true by rw [stands]; rfl)
  obtain ⟨own, keeps, waiting⟩ := owned.waiting sync
    (show (before.core.pc req).waits = true by rw [stands]; rfl)
  obtain ⟨count, live⟩ := waiting.live
  have old : before.core.syncRspTable own = _ := waiting.content
  have ahead : before.part req ≤ own.val := waiting.ahead stands
  have apart : own.val ≠ slot.val := by
    intro same
    have is : own = slot := Fin.ext same
    rw [← is, old] at other
    exact other rfl
  refine owned_stage owned keeps effect parts (fun _ _ => rfl) rfl (fun _ _ => rfl)
    (Function.update_eq_self own _).symm ?_ (.inl rfl) ?_
  · rw [old, stands, show before.core.sem req = .live count from live]
    exact .held _ _ count rfl (by rintro _ ⟨⟩) fun _ => by omega
  · rw [stands]
    rintro ⟨⟩

/-- It stops at the slot of the request. -/
theorem owned_finds {slot : Fin syncSize} (owned : Owned info before.view)
    (stands : before.core.pc req = .findSlot)
    (hit : (before.core.syncRspTable slot).uid = before.core.reqUid req)
    (effect : Agrees after.core (before.core.goto req (.takeSem slot)))
    (parts : after.part = Function.update before.part req 0) : Owned info after.view := by
  have sync := owned.sync req (show (before.core.pc req).syncOnly = true by rw [stands]; rfl)
  obtain ⟨own, keeps, waiting⟩ := owned.waiting sync
    (show (before.core.pc req).waits = true by rw [stands]; rfl)
  obtain ⟨count, live⟩ := waiting.live
  have old : before.core.syncRspTable own = _ := waiting.content
  have is : own = slot := by
    apply owned.distinct own slot
    · change (before.core.syncRspTable own).uid = (before.core.syncRspTable slot).uid
      rw [old, hit]
      rfl
    · change (before.core.syncRspTable own).uid ≠ 0
      rw [old]
      exact keeps.valid
  subst is
  refine owned_stage owned keeps effect parts (fun _ moved => goto_other _ moved _) rfl
    (fun _ _ => rfl) (Function.update_eq_self own before.core.syncRspTable).symm ?_ (.inl rfl)
    fun _ => rfl
  rw [goto_pc, old]
  change Stage req own _ _ _ (before.core.sem req) _
  rw [show before.core.sem req = .live count from live]
  refine .held _ _ count rfl ?_ (by rintro ⟨⟩)
  rintro other same
  exact (Option.some.inj same).symm

/-- In a release, up to what is done of it. -/
theorem release_stage {slot : Fin syncSize} {taken : Bool} {part : Nat}
    (owned : Owned info before.view) (stands : before.core.pc req = .clearSlot slot taken)
    (done : before.part req = part) :
    Keeps info before.view slot req ∧
      Stage req slot (before.core.reqUid req) (.clearSlot slot taken) part
        (before.core.sem req) (before.core.syncRspTable slot) := by
  have keeps := Keeps.releasing owned stands
  have stage : Stage req slot (before.core.reqUid req) (before.core.pc req) (before.part req)
    (before.core.sem req) (before.core.syncRspTable slot) := keeps.stage
  rw [stands, done] at stage
  exact ⟨keeps, stage⟩

theorem owned_destroys {slot : Fin syncSize} {taken : Bool} (owned : Owned info before.view)
    (stands : before.core.pc req = .clearSlot slot taken) (first : before.part req = 0)
    (effect : Agrees after.core { before.core with
      sem := (before.core.destroy (before.core.syncRspTable slot).sem).sem })
    (parts : after.part = Function.update before.part req 1) : Owned info after.view := by
  obtain ⟨keeps, stage⟩ := release_stage owned stands first
  have both : (∃ count, before.core.sem req = .live count) ∧
      before.core.syncRspTable slot = { uid := before.core.reqUid req, sem := some req } := by
    generalize before.core.syncRspTable slot = content at stage
    generalize before.core.sem req = sem at stage
    cases stage with
    | releasing _ count => exact ⟨⟨count, rfl⟩, rfl⟩
    | held _ _ _ waits => cases waits
  obtain ⟨⟨count, live⟩, old⟩ := both
  have here : (before.core.destroy (some req)).sem req = .destroyed := by
    simp [State.destroy, live, State.setSem]
  rw [old] at effect
  refine owned_stage owned keeps effect parts (fun _ _ => rfl) rfl
    (fun other moved => destroy_other moved)
    (Function.update_eq_self slot before.core.syncRspTable).symm ?_ (.inl rfl) ?_
  · change Stage req slot _ (before.core.pc req) _ _ (before.core.syncRspTable slot)
    rw [old, stands, here]
    exact .destroyed taken
  · change inBlock (before.core.pc req) = false → _
    rw [stands]
    rintro ⟨⟩

theorem owned_zeroes {slot : Fin syncSize} {taken : Bool} (owned : Owned info before.view)
    (stands : before.core.pc req = .clearSlot slot taken) (second : before.part req = 1)
    (effect : Agrees after.core (before.core.setSyncSlot slot
      { uid := 0, sem := (before.core.syncRspTable slot).sem }))
    (parts : after.part = Function.update before.part req 2) : Owned info after.view := by
  obtain ⟨keeps, stage⟩ := release_stage owned stands second
  have both : before.core.sem req = .destroyed ∧ (before.core.syncRspTable slot).sem = some req := by
    generalize before.core.sem req = sem at stage
    generalize before.core.syncRspTable slot = content at stage
    cases stage with
    | destroyed => exact ⟨rfl, rfl⟩
    | held _ _ _ waits => cases waits
  rw [both.2] at effect
  refine owned_stage owned keeps effect parts (fun _ _ => rfl) rfl (fun _ _ => rfl) rfl ?_
    (.inr rfl) ?_
  · change Stage req slot _ (before.core.pc req) _ (before.core.sem req) _
    rw [stands, both.1]
    exact .zeroed taken
  · change inBlock (before.core.pc req) = false → _
    rw [stands]
    rintro ⟨⟩

theorem owned_nulls {slot : Fin syncSize} {taken : Bool} (owned : Owned info before.view)
    (stands : before.core.pc req = .clearSlot slot taken) (third : before.part req = 2)
    (effect : Agrees after.core ((before.core.setSyncSlot slot
      { uid := (before.core.syncRspTable slot).uid, sem := none }).goto req
        (if taken then .dequeueRx else .freeReq none)))
    (parts : after.part = Function.update before.part req 0) : Owned info after.view := by
  obtain ⟨keeps, stage⟩ := release_stage owned stands third
  have zero : (before.core.syncRspTable slot).uid = 0 := by
    generalize before.core.sem req = sem at stage
    generalize before.core.syncRspTable slot = content at stage
    cases stage with
    | zeroed => rfl
    | held _ _ _ waits => cases waits
  rw [zero] at effect
  have table : after.view.table = Function.update before.view.table slot freeSlot :=
    effect.syncRspTable
  have moves : Step info before.view after.view req :=
    step_block effect parts (fun _ moved => goto_other _ moved _) rfl (fun _ _ => rfl)
      (written_slot table (.inr keeps) (.inl rfl))
  have here : after.view.pc req = if taken then .dequeueRx else .freeReq none :=
    (congrFun effect.pc req).trans (goto_pc ..)
  have done : after.view.part req = 0 := by
    change after.part req = 0
    rw [parts, Function.update_self]
  refine moves.owned_leaves owned keeps table ?_ (fun _ => done) ?_ ?_ <;> rw [here] <;>
    cases taken <;> rfl

/-- A statement of a block. -/
theorem owned_block (owned : Owned info before.view)
    (free : StoresFree before (.core (.req req .go))) (move : BlockMove req before after) :
    Owned info after.view := by
  cases move with
  | busy slot stands index effect parts =>
      refine owned_search owned stands ?_ effect.syncRspTable (congrFun effect.sem req)
        ((congrFun effect.pc req).trans stands) rfl (by rintro ⟨⟩)
      exact step_block effect parts (fun _ _ => rfl) rfl (fun _ _ => rfl)
        fun other new => absurd (congrFun effect.syncRspTable other) new
  | free slot stands effect parts =>
      have done : after.part req = 0 := by
        rw [parts, Function.update_self]
      refine owned_search owned stands ?_ effect.syncRspTable (congrFun effect.sem req)
        ((congrFun effect.pc req).trans (goto_pc ..)) (by rw [done]; rfl) (by rintro ⟨⟩)
      exact step_block effect parts (fun _ moved => goto_other _ moved _) rfl (fun _ _ => rfl)
        fun other new => absurd (congrFun effect.syncRspTable other) new
  | full stands effect parts =>
      have done : after.part req = 0 := by
        rw [parts, Function.update_self]
      refine owned_search owned stands ?_ effect.syncRspTable (congrFun effect.sem req)
        ((congrFun effect.pc req).trans (goto_pc ..)) rfl fun _ => done
      exact step_block effect parts (fun _ moved => goto_other _ moved _) rfl (fun _ _ => rfl)
        fun other new => absurd (congrFun effect.syncRspTable other) new
  | storeUid slot stands first effect parts =>
      exact owned_storeUid owned free stands first effect parts
  | storeSem slot stands second effect parts =>
      exact owned_storeSem owned stands second effect parts
  | passes slot stands index other effect parts =>
      exact owned_passes owned stands index other effect parts
  | finds slot stands hit effect parts => exact owned_finds owned stands hit effect parts
  | misses stands past effect parts =>
      have sync := owned.sync req (show (before.core.pc req).syncOnly = true by rw [stands]; rfl)
      obtain ⟨own, keeps, waiting⟩ := owned.waiting sync
        (show (before.core.pc req).waits = true by rw [stands]; rfl)
      have ahead : before.part req ≤ own.val := waiting.ahead stands
      exact absurd own.isLt (Nat.not_lt.mpr (past.trans ahead))
  | destroys slot taken stands first effect parts =>
      exact owned_destroys owned stands first effect parts
  | zeroes slot taken stands second effect parts =>
      exact owned_zeroes owned stands second effect parts
  | nulls slot taken stands third effect parts =>
      exact owned_nulls owned stands third effect parts

end EspHosted.SlotSteps

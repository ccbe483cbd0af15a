import EspHosted.RpcSteps

/-!
What `sync_rsp_table` holds over whole runs. Filling a slot is the one write that
can spoil it: the slot was found free some steps earlier, and the uid comes from
an unguarded counter. Where every fill brings an unused uid, each slot has one owner,
even if another request has lost the slot to it (`SlotInv`). Where the slot is still
free as well, nobody loses a slot between the fill and the clear (`TableInv`).
-/

namespace EspHosted.SyncRspTable
open RpcTables RpcCore GuardedRun

variable {reqs syncSize asyncSize : Nat} {info : Fin reqs → ReqInfo}
variable {before after : State reqs syncSize asyncSize}

structure SlotInv (info : Fin reqs → ReqInfo) (pc : Fin reqs → ReqPc syncSize)
    (reqUid : Fin reqs → UInt32) (sem : Fin reqs → SemSt)
    (table : SyncTable syncSize (Fin reqs)) : Prop where
  free : ∀ slot, (table slot).uid = 0 ↔ (table slot).sem = none
  owner : ∀ slot req, (table slot).sem = some req → (table slot).uid = reqUid req ∧
    (info req).rpcRspCb = false ∧ ((pc req).owns = true ∨ (pc req).gaveUp = true)
  distinct : ∀ slot other, (table slot).uid = (table other).uid → (table slot).uid ≠ 0 →
    slot = other
  kind : ∀ req, (pc req).syncOnly = true → (info req).rpcRspCb = false
  mapped : ∀ req, (info req).rpcRspCb = false → (pc req).hasSem = true →
    expRespMsgId (info req).msgId < rpcIdRespMax
  -- a request that has lost its slot may lose its semaphore with it
  live : ∀ req, (info req).rpcRspCb = false → (pc req).hasSem = true →
    ((pc req).owns = true → ∃ slot, (table slot).sem = some req) → ∃ count, sem req = .live count
  place : ∀ req slot, (pc req).claims = some slot → ∀ other, (table other).sem = some req →
    other = slot

/-- A registered request is in the table, and works on its own slot. -/
structure TableInv (info : Fin reqs → ReqInfo) (pc : Fin reqs → ReqPc syncSize)
    (reqUid : Fin reqs → UInt32) (sem : Fin reqs → SemSt)
    (table : SyncTable syncSize (Fin reqs)) : Prop extends SlotInv info pc reqUid sem table where
  owned : ∀ req, (info req).rpcRspCb = false → (pc req).owns = true →
    ∃ slot, (table slot).sem = some req
  claimed : ∀ req slot, (pc req).claims = some slot → (table slot).sem = some req

section Components
variable {pc : Fin reqs → ReqPc syncSize} {reqUid : Fin reqs → UInt32} {sem : Fin reqs → SemSt}
variable {table : SyncTable syncSize (Fin reqs)} {req : Fin reqs}

theorem SlotInv.nonzero (inv : SlotInv info pc reqUid sem table) {slot : Fin syncSize}
    (held : (table slot).sem = some req) : (table slot).uid ≠ 0 := by
  intro zero
  have empty := (inv.free slot).mp zero
  rw [held] at empty
  cases empty

theorem SlotInv.single (inv : SlotInv info pc reqUid sem table) {slot other : Fin syncSize}
    (held : (table slot).sem = some req) (also : (table other).sem = some req) : slot = other := by
  apply inv.distinct slot other _ (inv.nonzero held)
  rw [(inv.owner slot req held).1, (inv.owner other req also).1]

/-- The search of `wait_for_sync_response` comes back with the request's own slot. -/
theorem SlotInv.search (inv : SlotInv info pc reqUid sem table) {slot : Fin syncSize}
    (held : (table slot).sem = some req) : syncSlotOf table (reqUid req) = some slot := by
  rw [← (inv.owner slot req held).1]
  exact syncSlotOf_unique fun other equal => (inv.distinct slot other equal.symm (inv.nonzero held)).symm

theorem SlotInv.unheld (inv : SlotInv info pc reqUid sem table) (owns : (pc req).owns = false)
    (gaveUp : (pc req).gaveUp = false) (slot : Fin syncSize) : (table slot).sem ≠ some req := by
  intro held
  rcases (inv.owner slot req held).2.2 with place | place
  · rw [owns] at place
    cases place
  · rw [gaveUp] at place
    cases place

theorem TableInv.alive (inv : TableInv info pc reqUid sem table) (sync : (info req).rpcRspCb = false)
    (hasSem : (pc req).hasSem = true) : ∃ count, sem req = .live count :=
  inv.live req sync hasSem (inv.owned req sync)

/-- The requester moves on and nothing else changes. -/
theorem SlotInv.advance (inv : SlotInv info pc reqUid sem table) (next : ReqPc syncSize)
    (keeps : ∀ slot, (table slot).sem = some req → (pc req).owns = true →
      next.owns = true ∨ next.gaveUp = true)
    (gaveUp : (pc req).gaveUp = true → next.gaveUp = true)
    (hasSem : (info req).rpcRspCb = false → next.hasSem = true →
      (pc req).hasSem = true ∧ (pc req).owns = next.owns)
    (place : ∀ slot, next.claims = some slot → ∀ other, (table other).sem = some req → other = slot)
    (kind : next.syncOnly = true → (info req).rpcRspCb = false) :
    SlotInv info (Function.update pc req next) reqUid sem table where
  free := inv.free
  distinct := inv.distinct
  owner slot other held := by
    obtain ⟨same, sync, stands⟩ := inv.owner slot other held
    refine ⟨same, sync, ?_⟩
    by_cases moved : other = req
    · subst other
      rcases stands with stands | stands
      · simpa using keeps slot held stands
      · simpa using Or.inr (gaveUp stands)
    · simpa [moved] using stands
  kind other := by
    by_cases moved : other = req
    · subst other
      simpa using kind
    · simpa [moved] using inv.kind other
  mapped other sync := by
    by_cases moved : other = req
    · subst other
      intro now
      exact inv.mapped req sync (hasSem sync (by simpa using now)).1
    · simpa [moved] using inv.mapped other sync
  live other sync := by
    by_cases moved : other = req
    · subst other
      intro now registered
      obtain ⟨was, same⟩ := hasSem sync (by simpa using now)
      rw [Function.update_self, ← same] at registered
      exact inv.live req sync was registered
    · simpa [moved] using inv.live other sync
  place other slot := by
    by_cases moved : other = req
    · subst other
      simpa using place slot
    · simpa [moved] using inv.place other slot

/-- Posts and takes keep a semaphore alive. -/
theorem SlotInv.semaphores (inv : SlotInv info pc reqUid sem table) {sem' : Fin reqs → SemSt}
    (alive : ∀ req count, sem req = .live count → ∃ left, sem' req = .live left) :
    SlotInv info pc reqUid sem' table :=
  { inv with
    live := fun req sync stands registered => by
      obtain ⟨count, present⟩ := inv.live req sync stands registered
      exact alive req count present }

/-- A requester without a slot gets its uid. -/
theorem SlotInv.renumber (inv : SlotInv info pc reqUid sem table) (uid : UInt32)
    (owns : (pc req).owns = false) (gaveUp : (pc req).gaveUp = false) :
    SlotInv info pc (Function.update reqUid req uid) sem table :=
  { inv with
    owner := fun slot other held => by
      obtain ⟨same, sync, stands⟩ := inv.owner slot other held
      have moved : other ≠ req := by
        rintro rfl
        exact inv.unheld owns gaveUp slot held
      exact ⟨by simpa [moved] using same, sync, stands⟩ }

/-- The new owner brings an unused uid; whoever had the slot loses it. -/
theorem SlotInv.fill (inv : SlotInv info pc reqUid sem table) (slot : Fin syncSize)
    (stands : pc req = .fillSlot slot) (valid : reqUid req ≠ 0)
    (fresh : ∀ other, other ≠ slot → (table other).uid ≠ reqUid req) :
    SlotInv info (Function.update pc req .putTx) reqUid sem
      (Function.update table slot { uid := reqUid req, sem := some req }) := by
  have sync : (info req).rpcRspCb = false := inv.kind req (by simp [stands, ReqPc.syncOnly])
  have unheld : ∀ place, (table place).sem ≠ some req :=
    inv.unheld (by simp [stands, ReqPc.owns]) (by simp [stands, ReqPc.gaveUp])
  have hasSem : (pc req).hasSem = true := by simp [stands, ReqPc.hasSem]
  -- the entries of other requests were there before
  have old : ∀ place other, other ≠ req → (Function.update table slot
      { uid := reqUid req, sem := some req } place).sem = some other →
      place ≠ slot ∧ (table place).sem = some other := by
    intro place other moved held
    by_cases same : place = slot
    · exact absurd (by simpa [same, eq_comm] using held) moved
    · exact ⟨same, by simpa [same] using held⟩
  constructor
  case free =>
    intro other
    by_cases same : other = slot
    · simp [same, valid]
    · simpa [same] using inv.free other
  case owner =>
    intro place holder held
    by_cases moved : holder = req
    · subst holder
      by_cases same : place = slot
      · exact ⟨by simp [same], sync, by simp [ReqPc.owns]⟩
      · exact absurd (by simpa [same] using held) (unheld place)
    · obtain ⟨apart, was⟩ := old place holder moved held
      simpa [apart, moved] using inv.owner place holder was
  case distinct =>
    intro left right equal nonzero
    -- the stored uid is in no other slot, so it cannot meet one
    by_cases l : left = slot <;> by_cases r : right = slot
    · rw [l, r]
    · exact absurd (by simpa [l, r] using equal.symm) (fresh right r)
    · exact absurd (by simpa [l, r] using equal) (fresh left l)
    · exact inv.distinct left right (by simpa [l, r] using equal) (by simpa [l] using nonzero)
  case kind =>
    intro other
    by_cases moved : other = req
    · simp [moved, ReqPc.syncOnly]
    · simpa [moved] using inv.kind other
  case mapped =>
    intro other sync' now
    by_cases moved : other = req
    · exact moved ▸ inv.mapped req sync hasSem
    · exact inv.mapped other sync' (by simpa [moved] using now)
  case live =>
    intro other sync' now registered
    by_cases moved : other = req
    · subst other
      exact inv.live req sync hasSem (by simp [stands, ReqPc.owns])
    · simp only [Function.update_of_ne moved] at now registered
      refine inv.live other sync' now fun owns => ?_
      obtain ⟨place, held⟩ := registered owns
      exact ⟨place, (old place other moved held).2⟩
  case place =>
    intro other place claims also held
    by_cases moved : other = req
    · simp [moved, ReqPc.claims] at claims
    · exact inv.place other place (by simpa [moved] using claims) also (old also other moved held).2

/-- Clearing gives the slot back together with the semaphore that is in it. -/
theorem SlotInv.clear (inv : SlotInv info pc reqUid sem table) (slot : Fin syncSize) (taken : Bool)
    (stands : pc req = .clearSlot slot taken) {sem' : Fin reqs → SemSt}
    (spared : ∀ other, (table slot).sem ≠ some other → sem' other = sem other) :
    SlotInv info (Function.update pc req (if taken then .dequeueRx else .freeReq none)) reqUid sem'
      (Function.update table slot { uid := 0, sem := none }) := by
  have sync : (info req).rpcRspCb = false := inv.kind req (by simp [stands, ReqPc.syncOnly])
  have hasSem : (if taken then .dequeueRx else .freeReq none : ReqPc syncSize).hasSem = false := by
    cases taken <;> rfl
  have claims : (if taken then .dequeueRx else .freeReq none : ReqPc syncSize).claims = none := by
    cases taken <;> rfl
  -- what is left in the table is not that of the requester, nor that of the cleared slot
  have old : ∀ place other, (Function.update table slot { uid := 0, sem := none } place).sem =
      some other → place ≠ slot ∧ other ≠ req ∧ (table place).sem = some other := by
    intro place other held
    by_cases same : place = slot
    · simp [same] at held
    · have was : (table place).sem = some other := by simpa [same] using held
      refine ⟨same, ?_, was⟩
      rintro rfl
      exact same (inv.place other slot (by simp [stands, ReqPc.claims]) place was)
  constructor
  case free =>
    intro other
    by_cases same : other = slot
    · simp [same]
    · simpa [same] using inv.free other
  case owner =>
    intro place holder held
    obtain ⟨apart, moved, was⟩ := old place holder held
    simpa [apart, moved] using inv.owner place holder was
  case distinct =>
    intro first second equal nonzero
    by_cases l : first = slot <;> by_cases r : second = slot
    · rw [l, r]
    · simp [l] at nonzero
    · exact absurd (by simpa [l, r] using equal) (by simpa [l] using nonzero)
    · exact inv.distinct first second (by simpa [l, r] using equal) (by simpa [l] using nonzero)
  case kind =>
    intro other
    by_cases moved : other = req
    · intro _
      rw [moved]
      exact sync
    · simpa [moved] using inv.kind other
  case mapped =>
    intro other sync' now
    by_cases moved : other = req
    · simp [moved, hasSem] at now
    · exact inv.mapped other sync' (by simpa [moved] using now)
  case live =>
    intro other sync' now registered
    by_cases moved : other = req
    · simp [moved, hasSem] at now
    · simp only [Function.update_of_ne moved] at now registered
      have apart : (table slot).sem ≠ some other := by
        intro held
        cases owns : (pc other).owns with
        | true =>
            obtain ⟨place, also⟩ := registered owns
            obtain ⟨elsewhere, -, was⟩ := old place other also
            exact elsewhere (inv.single was held)
        | false =>
            refine inv.unheld owns ?_ slot held
            generalize pc other = here at now
            cases here <;> simp_all [ReqPc.hasSem, ReqPc.owns, ReqPc.gaveUp]
      rw [spared other apart]
      refine inv.live other sync' now fun owns => ?_
      obtain ⟨place, also⟩ := registered owns
      exact ⟨place, (old place other also).2.2⟩
  case place =>
    intro other place claims' also held
    obtain ⟨-, moved, was⟩ := old also other held
    exact inv.place other place (by simpa [moved] using claims') also was

theorem SlotInv.createSem (inv : SlotInv info pc reqUid sem table) (stands : pc req = .setSem)
    (mapped : expRespMsgId (info req).msgId < rpcIdRespMax) :
    SlotInv info (Function.update pc req .searchSlot) reqUid (Function.update sem req (.live 0))
      table := by
  have sync : (info req).rpcRspCb = false := inv.kind req (by simp [stands, ReqPc.syncOnly])
  have unheld : ∀ place, (table place).sem ≠ some req :=
    inv.unheld (by simp [stands, ReqPc.owns]) (by simp [stands, ReqPc.gaveUp])
  constructor
  case free => exact inv.free
  case distinct => exact inv.distinct
  case owner =>
    intro slot other held
    have moved : other ≠ req := by
      rintro rfl
      exact unheld slot held
    simpa [moved] using inv.owner slot other held
  case kind =>
    intro other
    by_cases moved : other = req
    · intro _
      rw [moved]
      exact sync
    · simpa [moved] using inv.kind other
  case mapped =>
    intro other sync' now
    by_cases moved : other = req
    · exact moved ▸ mapped
    · exact inv.mapped other sync' (by simpa [moved] using now)
  case live =>
    intro other sync' now registered
    by_cases moved : other = req
    · exact ⟨0, by simp [moved]⟩
    · simp only [Function.update_of_ne moved] at now registered ⊢
      exact inv.live other sync' now registered
  case place =>
    intro other slot claims
    by_cases moved : other = req
    · simp [moved, ReqPc.claims] at claims
    · exact inv.place other slot (by simpa [moved] using claims)

/-- A request that gives up may lose its semaphore; its slot is not given back. -/
theorem SlotInv.abandon (inv : SlotInv info pc reqUid sem table) (stands : pc req = .failReq)
    (left : SemSt) :
    SlotInv info (Function.update pc req (.failHook .test)) reqUid (Function.update sem req left)
      table := by
  have given : SlotInv info (Function.update pc req (.failHook .test)) reqUid sem table := by
    apply inv.advance <;>
      simp [stands, ReqPc.owns, ReqPc.hasSem, ReqPc.gaveUp, ReqPc.claims, ReqPc.syncOnly]
  exact { given with
    live := fun other sync now registered => by
      have moved : other ≠ req := by
        rintro rfl
        simp [ReqPc.hasSem, ReqPc.owns] at now
      rw [Function.update_of_ne moved]
      exact given.live other sync now registered }

theorem SlotInv.quiet (inv : SlotInv info pc reqUid sem table) {next : ReqPc syncSize}
    (edge : Quiet (info req) table (reqUid req) (pc req) next) :
    SlotInv info (Function.update pc req next) reqUid sem table := by
  have kind := inv.kind req
  generalize stands : pc req = here at edge kind
  cases edge
  case unawaited sync outside =>
    have inside := inv.mapped req sync (by simp [stands, ReqPc.hasSem, ReqPc.owns])
    omega
  case unregistered missing =>
    -- only a request that has lost its slot does not find it
    apply inv.advance
    case keeps =>
      intro slot held _
      rw [inv.search held] at missing
      cases missing
    all_goals simp [stands, kind rfl, ReqPc.hasSem, ReqPc.owns, ReqPc.gaveUp, ReqPc.claims, ReqPc.syncOnly]
  case found slot hit =>
    apply inv.advance
    case place =>
      intro place claims other held
      have own : other = slot := by simpa [inv.search held] using hit
      simpa [ReqPc.claims, own] using claims
    all_goals simp [stands, kind rfl, ReqPc.hasSem, ReqPc.owns, ReqPc.gaveUp, ReqPc.syncOnly]
  case free slot =>
    apply inv.advance <;>
      simp [stands, kind rfl, ReqPc.owns, ReqPc.hasSem, ReqPc.gaveUp, ReqPc.claims, ReqPc.syncOnly]
  case await sync =>
    apply inv.advance <;>
      simp [stands, sync, ReqPc.owns, ReqPc.hasSem, ReqPc.gaveUp, ReqPc.claims, ReqPc.syncOnly]
  case freed resp =>
    apply inv.advance <;>
      simp [stands, kind rfl, ReqPc.owns, ReqPc.hasSem, ReqPc.gaveUp, ReqPc.claims, ReqPc.syncOnly]
  all_goals
    apply inv.advance <;> simp [stands, ReqPc.owns, ReqPc.hasSem, ReqPc.gaveUp, ReqPc.claims, ReqPc.syncOnly]

end Components

/-! Whole states. -/

def Slots (info : Fin reqs → ReqInfo) (state : State reqs syncSize asyncSize) : Prop :=
  SlotInv info state.pc state.reqUid state.sem state.syncRspTable

def Holds (info : Fin reqs → ReqInfo) (state : State reqs syncSize asyncSize) : Prop :=
  TableInv info state.pc state.reqUid state.sem state.syncRspTable

/-- A request that stores its slot has a valid uid that no other slot holds. -/
def FillsUnused (state : State reqs syncSize asyncSize) : Act reqs → Prop
  | .req req _ => ∀ slot, state.pc req = .fillSlot slot → state.reqUid req ≠ 0 ∧
      ∀ other, other ≠ slot → (state.syncRspTable other).uid ≠ state.reqUid req
  | _ => True

/-- A request that stores its slot finds it still free, and its uid is valid and in
no other slot. -/
def FillsFree (state : State reqs syncSize asyncSize) : Act reqs → Prop
  | .req req _ => ∀ slot, state.pc req = .fillSlot slot →
      (state.syncRspTable slot).uid = 0 ∧ state.reqUid req ≠ 0 ∧
        ∀ other, (state.syncRspTable other).uid ≠ state.reqUid req
  | _ => True

instance fillsUnusedDecidable (state : State reqs syncSize asyncSize) :
    (act : Act reqs) → Decidable (FillsUnused state act)
  | .req req _ => inferInstanceAs (Decidable (∀ slot, state.pc req = .fillSlot slot →
      state.reqUid req ≠ 0 ∧
        ∀ other, other ≠ slot → (state.syncRspTable other).uid ≠ state.reqUid req))
  | .tx _ | .receive _ | .rx _ | .expire _ _ => .isTrue trivial

instance fillsFreeDecidable (state : State reqs syncSize asyncSize) :
    (act : Act reqs) → Decidable (FillsFree state act)
  | .req req _ => inferInstanceAs (Decidable (∀ slot, state.pc req = .fillSlot slot →
      (state.syncRspTable slot).uid = 0 ∧ state.reqUid req ≠ 0 ∧
        ∀ other, (state.syncRspTable other).uid ≠ state.reqUid req))
  | .tx _ | .receive _ | .rx _ | .expire _ _ => .isTrue trivial

theorem FillsFree.unused {act : Act reqs} (filled : FillsFree before act) : FillsUnused before act := by
  cases act with
  | req req choice =>
      intro slot stands
      obtain ⟨-, valid, fresh⟩ := filled slot stands
      exact ⟨valid, fun other _ => fresh other⟩
  | tx | receive | rx | expire => trivial

theorem holds_init : Holds info (init info : State reqs syncSize asyncSize) := by
  refine ⟨?_, ?_, ?_⟩
  · constructor <;> simp [init, ReqPc.hasSem, ReqPc.owns, ReqPc.syncOnly, ReqPc.claims]
  · simp [init, ReqPc.owns]
  · simp [init, ReqPc.claims]

theorem destroy_own (state : State reqs syncSize asyncSize) (req : Fin reqs) :
    ∃ left, (state.destroy (some req)).sem = Function.update state.sem req left := by
  simp only [State.destroy]
  split
  next missing => exact ⟨state.sem req, by simp⟩
  · exact ⟨.destroyed, rfl⟩

theorem destroy_spared (state : State reqs syncSize asyncSize) (handle : Option (Fin reqs))
    (other : Fin reqs) (apart : handle ≠ some other) :
    (state.destroy handle).sem other = state.sem other := by
  cases handle with
  | none => rfl
  | some owner =>
      obtain ⟨left, destroyed⟩ := destroy_own state owner
      have moved : other ≠ owner := fun same => apart (same ▸ rfl)
      simp [destroyed, moved]

theorem slots_agrees {expected : State reqs syncSize asyncSize} (effect : Agrees after expected)
    (inv : Slots info expected) : Slots info after := by
  unfold Slots
  rw [effect.pc, effect.reqUid, effect.sem, effect.syncRspTable]
  exact inv

theorem slots_req {req : Fin reqs} {choice : ReqChoice} (inv : Slots info before)
    (filled : FillsUnused before (.req req choice)) (move : ReqMove info req before after choice) :
    Slots info after := by
  unfold Slots at inv
  cases move with
  | quiet next edge effect =>
      refine slots_agrees effect ?_
      exact inv.quiet edge
  | putFails stands failing effect =>
      refine slots_agrees effect ?_
      apply inv.advance <;>
        simp [stands, ReqPc.owns, ReqPc.hasSem, ReqPc.gaveUp, ReqPc.claims, ReqPc.syncOnly]
  | put stands effect =>
      refine slots_agrees effect ?_
      apply inv.advance <;>
        simp [stands, ReqPc.owns, ReqPc.hasSem, ReqPc.gaveUp, ReqPc.claims, ReqPc.syncOnly]
  | copyUid stands effect =>
      refine slots_agrees effect ?_
      have unowned : (before.pc req).owns = false := by simp [stands, ReqPc.owns]
      have standing : (before.pc req).gaveUp = false := by simp [stands, ReqPc.gaveUp]
      have numbered := inv.renumber before.uid unowned standing
      apply numbered.advance <;> cases (info req).rpcRspCb <;>
        simp [stands, ReqPc.owns, ReqPc.hasSem, ReqPc.gaveUp, ReqPc.claims, ReqPc.syncOnly]
  | createSem stands mapped effect =>
      refine slots_agrees effect ?_
      exact inv.createSem stands mapped
  | fill slot stands effect =>
      refine slots_agrees effect ?_
      obtain ⟨valid, fresh⟩ := filled slot stands
      exact inv.fill slot stands valid fresh
  | take slot owner count stands handle posted effect =>
      refine slots_agrees effect ?_
      have sync : (info req).rpcRspCb = false := inv.kind req (by simp [stands, ReqPc.syncOnly])
      have place := inv.place req slot (by simp [stands, ReqPc.claims])
      have kept : SlotInv info before.pc before.reqUid
          (Function.update before.sem owner (.live count)) before.syncRspTable := by
        apply inv.semaphores
        intro other left present
        by_cases same : other = owner
        · exact ⟨count, by simp [same]⟩
        · exact ⟨left, by simpa [same] using present⟩
      apply kept.advance <;>
        simp [stands, sync, ReqPc.owns, ReqPc.hasSem, ReqPc.gaveUp, ReqPc.claims, ReqPc.syncOnly]
      exact place
  | giveUp slot stands reason effect =>
      refine slots_agrees effect ?_
      have sync : (info req).rpcRspCb = false := inv.kind req (by simp [stands, ReqPc.syncOnly])
      have place := inv.place req slot (by simp [stands, ReqPc.claims])
      apply inv.advance <;>
        simp [stands, sync, ReqPc.owns, ReqPc.hasSem, ReqPc.gaveUp, ReqPc.claims, ReqPc.syncOnly]
      exact place
  | clear slot taken stands effect =>
      refine slots_agrees effect ?_
      exact inv.clear slot taken stands (destroy_spared before (before.syncRspTable slot).sem)
  | dequeue resp rest stands going queue effect =>
      refine slots_agrees effect ?_
      have sync : (info req).rpcRspCb = false := inv.kind req (by simp [stands, ReqPc.syncOnly])
      apply inv.advance <;>
        simp [stands, sync, ReqPc.owns, ReqPc.hasSem, ReqPc.gaveUp, ReqPc.claims, ReqPc.syncOnly]
  | abandon stands effect =>
      refine slots_agrees effect ?_
      obtain ⟨left, destroyed⟩ := destroy_own before req
      show SlotInv info (Function.update before.pc req (.failHook .test)) before.reqUid
        (before.destroy (some req)).sem before.syncRspTable
      rw [destroyed]
      exact inv.abandon stands left

theorem quiet_owns {info : ReqInfo} {table : SyncTable syncSize (Fin reqs)} {uid : UInt32}
    {here next : ReqPc syncSize} (edge : Quiet info table uid here next) (owns : next.owns = true) :
    here.owns = true := by
  cases edge <;> simp_all [ReqPc.owns]

theorem quiet_claims {req : Fin reqs} {next : ReqPc syncSize} (inv : Holds info before)
    (edge : Quiet (info req) before.syncRspTable (before.reqUid req) (before.pc req) next)
    (slot : Fin syncSize) (claims : next.claims = some slot) :
    (before.syncRspTable slot).sem = some req := by
  have kind := inv.kind req
  generalize stands : before.pc req = here at edge kind
  cases edge
  case found own hit =>
    obtain ⟨place, held⟩ := inv.owned req (kind rfl) (by simp [stands, ReqPc.owns])
    have same : place = own := by simpa [inv.search held] using hit
    have is : own = slot := by simpa [ReqPc.claims] using claims
    rw [← is, ← same]
    exact held
  all_goals cases claims

/-- A requester that stores nothing and clears nothing keeps to its own slot. -/
theorem holds_same {req : Fin reqs} {next : ReqPc syncSize} (inv : Holds info before)
    (slots : Slots info after) (table : after.syncRspTable = before.syncRspTable)
    (pc : after.pc = Function.update before.pc req next)
    (owns : (info req).rpcRspCb = false → next.owns = true → (before.pc req).owns = true)
    (claims : ∀ slot, next.claims = some slot → (before.syncRspTable slot).sem = some req) :
    Holds info after := by
  refine ⟨slots, ?_, ?_⟩
  · rw [table, pc]
    intro other sync now
    by_cases moved : other = req
    · subst other
      exact inv.owned req sync (owns sync (by simpa using now))
    · exact inv.owned other sync (by simpa [moved] using now)
  · rw [table, pc]
    intro other slot now
    by_cases moved : other = req
    · subst other
      exact claims slot (by simpa using now)
    · exact inv.claimed other slot (by simpa [moved] using now)

theorem holds_req {req : Fin reqs} {choice : ReqChoice} (inv : Holds info before)
    (filled : FillsFree before (.req req choice)) (move : ReqMove info req before after choice) :
    Holds info after := by
  have slots := slots_req inv.toSlotInv filled.unused move
  cases move with
  | quiet next edge effect =>
      exact holds_same inv slots effect.syncRspTable effect.pc (fun _ => quiet_owns edge)
        (quiet_claims inv edge)
  | copyUid stands effect =>
      apply holds_same inv slots effect.syncRspTable effect.pc <;>
        cases (info req).rpcRspCb <;> simp [ReqPc.owns, ReqPc.claims]
  | fill slot stands effect =>
      have unheld := (inv.free slot).mp (filled slot stands).1
      -- a free slot is stored in, so whoever is in the table stays there
      have apart : ∀ place other, (before.syncRspTable place).sem = some other → place ≠ slot := by
        rintro place other held rfl
        rw [unheld] at held
        cases held
      refine ⟨slots, ?_, ?_⟩
      · rw [effect.syncRspTable, effect.pc]
        intro other sync now
        by_cases moved : other = req
        · exact ⟨slot, by simp [State.goto, State.setSyncSlot, moved]⟩
        · obtain ⟨place, held⟩ := inv.owned other sync
            (by simpa [State.goto, State.setSyncSlot, moved] using now)
          exact ⟨place, by simpa [State.goto, State.setSyncSlot, apart place other held] using held⟩
      · rw [effect.syncRspTable, effect.pc]
        intro other place now
        by_cases moved : other = req
        · simp [State.goto, State.setSyncSlot, moved, ReqPc.claims] at now
        · have held := inv.claimed other place
            (by simpa [State.goto, State.setSyncSlot, moved] using now)
          simpa [State.goto, State.setSyncSlot, apart place other held] using held
  | clear slot taken stands effect =>
      have own := inv.claimed req slot (by simp [stands, ReqPc.claims])
      have apart : ∀ place other, other ≠ req → (before.syncRspTable place).sem = some other →
          place ≠ slot := by
        rintro place other moved held rfl
        rw [own] at held
        cases held
        exact moved rfl
      refine ⟨slots, ?_, ?_⟩
      · rw [effect.syncRspTable, effect.pc]
        intro other sync now
        by_cases moved : other = req
        · cases taken <;> simp [State.goto, State.setSyncSlot, moved, ReqPc.owns] at now
        · obtain ⟨place, held⟩ := inv.owned other sync
            (by simpa [State.goto, State.setSyncSlot, moved] using now)
          exact ⟨place, by simpa [State.goto, State.setSyncSlot, apart place other moved held] using held⟩
      · rw [effect.syncRspTable, effect.pc]
        intro other place now
        by_cases moved : other = req
        · cases taken <;> simp [State.goto, State.setSyncSlot, moved, ReqPc.claims] at now
        · have held := inv.claimed other place
            (by simpa [State.goto, State.setSyncSlot, moved] using now)
          simpa [State.goto, State.setSyncSlot, apart place other moved held] using held
  | take slot _ _ stands _ _ effect | giveUp slot stands _ effect =>
      have own := inv.claimed req slot (by simp [stands, ReqPc.claims])
      apply holds_same inv slots effect.syncRspTable effect.pc
      · simp [stands, ReqPc.owns]
      · simpa [ReqPc.claims] using own
  | putFails stands _ effect | put stands effect | createSem stands _ effect
  | dequeue _ _ stands _ _ effect | abandon stands effect =>
      apply holds_same inv slots effect.syncRspTable effect.pc <;>
        simp [stands, ReqPc.owns, ReqPc.claims]

/-- What a post does to a semaphore. -/
inductive Raised : SemSt → SemSt → Prop where
  | same (sem : SemSt) : Raised sem sem
  | posted (count : Nat) : Raised (.live count) (.live (count + 1))

/-- The threads other than the requesters move no requester and store in no slot; all they do
to a semaphore is post it, and all they do to `rpc_rx_q` is put a response at its end. -/
structure SyncKept (before after : State reqs syncSize asyncSize) : Prop where
  pc : after.pc = before.pc
  reqUid : after.reqUid = before.reqUid
  table : after.syncRspTable = before.syncRspTable
  sems : ∀ req, Raised (before.sem req) (after.sem req)
  queue : ∃ more, after.rpcRxQ = before.rpcRxQ ++ more

theorem SyncKept.alive (kept : SyncKept before after) :
    ∀ req count, before.sem req = .live count → ∃ left, after.sem req = .live left := by
  intro req count live
  have raised := kept.sems req
  rw [live] at raised
  generalize after.sem req = sem at raised
  cases raised with
  | same => exact ⟨count, rfl⟩
  | posted => exact ⟨count + 1, rfl⟩

theorem syncKept_of_sem (pc : after.pc = before.pc) (reqUid : after.reqUid = before.reqUid)
    (table : after.syncRspTable = before.syncRspTable) (sem : after.sem = before.sem)
    (queue : ∃ more, after.rpcRxQ = before.rpcRxQ ++ more) : SyncKept before after :=
  ⟨pc, reqUid, table, fun req => by rw [sem]; exact .same _, queue⟩

theorem post_raises (state : State reqs syncSize asyncSize) (handle : Option (Fin reqs))
    (req : Fin reqs) : Raised (state.sem req) ((state.post handle).sem req) := by
  cases handle with
  | none => exact .same _
  | some owner =>
      simp only [State.post]
      split
      next count live =>
        by_cases same : req = owner
        · subst owner
          simpa [live] using Raised.posted count
        · simpa [same] using Raised.same (state.sem req)
      · exact .same _

theorem destroy_other {state : State reqs syncSize asyncSize} {req other : Fin reqs}
    (moved : req ≠ other) :
    (state.destroy (some other)).sem req = state.sem req := by
  simp only [State.destroy]
  split
  · rfl
  · simp [State.setSem, moved]

/-- The queue is left as it is. -/
theorem queue_same (same : after.rpcRxQ = before.rpcRxQ) :
    ∃ more, after.rpcRxQ = before.rpcRxQ ++ more :=
  ⟨[], by rw [same, List.append_nil]⟩

theorem tx_kept {fault : Option TxFault} (move : TxMove info before after fault) :
    SyncKept before after := by
  cases move with
  | post req resp slot stands inside found effect =>
      refine ⟨effect.pc, effect.reqUid, effect.syncRspTable, ?_, queue_same effect.rpcRxQ⟩
      rw [effect.sem]
      exact post_raises before (before.syncRspTable slot).sem
  | queue req resp _ _ _ effect =>
      exact syncKept_of_sem effect.pc effect.reqUid effect.syncRspTable effect.sem
        ⟨[resp], effect.rpcRxQ⟩
  | quiet _ _ effect | pop _ _ _ _ effect | register _ _ _ _ _ effect | startTimer _ _ _ effect
  | timerFails _ _ _ effect | pack _ _ _ effect | sendFails _ _ _ effect | call _ _ _ effect
  | hook _ _ _ effect =>
      exact syncKept_of_sem effect.pc effect.reqUid effect.syncRspTable effect.sem
        (queue_same effect.rpcRxQ)

theorem rx_kept {queued : Bool} (move : RxMove before after queued) : SyncKept before after := by
  cases move with
  | post resp slot stands inside found effect =>
      refine ⟨effect.pc, effect.reqUid, effect.syncRspTable, ?_, queue_same effect.rpcRxQ⟩
      rw [effect.sem]
      exact post_raises before (before.syncRspTable slot).sem
  | queue resp _ _ _ effect =>
      exact syncKept_of_sem effect.pc effect.reqUid effect.syncRspTable effect.sem
        ⟨[resp], effect.rpcRxQ⟩
  | quiet _ _ effect | stopTimer _ _ effect | forgetTimer _ _ effect | call _ _ _ _ effect
  | clear _ _ effect | drop _ _ effect | unmatched _ _ _ effect | unposted _ _ _ effect =>
      exact syncKept_of_sem effect.pc effect.reqUid effect.syncRspTable effect.sem
        (queue_same effect.rpcRxQ)

theorem slots_kept (inv : Slots info before) (kept : SyncKept before after) : Slots info after := by
  unfold Slots
  rw [kept.pc, kept.reqUid, kept.table]
  exact inv.semaphores kept.alive

theorem holds_kept (inv : Holds info before) (kept : SyncKept before after) : Holds info after := by
  refine ⟨slots_kept inv.toSlotInv kept, ?_, ?_⟩
  · rw [kept.pc, kept.table]
    exact inv.owned
  · rw [kept.pc, kept.table]
    exact inv.claimed

theorem sync_move {act : Act reqs} (move : Move info before after act) :
    (∃ req choice, act = .req req choice ∧ ReqMove info req before after choice) ∨
      SyncKept before after := by
  cases move with
  | req req choice move => exact Or.inl ⟨req, choice, rfl, move⟩
  | tx fault move => exact Or.inr (tx_kept move)
  | rx queued move => exact Or.inr (rx_kept move)
  | receive _ _ effect | expire _ _ _ effect =>
      exact Or.inr (syncKept_of_sem effect.pc effect.reqUid effect.syncRspTable effect.sem
        (queue_same effect.rpcRxQ))

theorem slots_step {act : Act reqs} (inv : Slots info before) (filled : FillsUnused before act)
    (move : Move info before after act) : Slots info after := by
  rcases sync_move move with ⟨req, choice, rfl, own⟩ | kept
  · exact slots_req inv filled own
  · exact slots_kept inv kept

theorem slots_run (run : Run (step info) FillsUnused (init info) after) : Slots info after :=
  run.invariant holds_init.toSlotInv fun _ _ _ _ inv filled taken =>
    slots_step inv filled (step_move taken)

theorem holds_step {act : Act reqs} (inv : Holds info before) (filled : FillsFree before act)
    (move : Move info before after act) : Holds info after := by
  rcases sync_move move with ⟨req, choice, rfl, own⟩ | kept
  · exact holds_req inv filled own
  · exact holds_kept inv kept

theorem holds_run (run : Run (step info) FillsFree (init info) after) : Holds info after :=
  run.invariant holds_init fun _ _ _ _ inv filled taken => holds_step inv filled (step_move taken)

end EspHosted.SyncRspTable

import EspHosted.QueuedRequests

/-!
Who frees a request and its application buffer. Both the requester and the tx
thread run `H_FREE_PTR_WITH_FUNC` on the same request, and the requester frees the
`ctrl_cmd_t` without knowing whether the tx thread is done with it. `HookInv` is
the life of one buffer seen from both threads.
-/

namespace EspHosted.RequestLifetime
open RpcTables RpcCore GuardedRun QueuedRequests

variable {reqs syncSize asyncSize : Nat} {info : Fin reqs → ReqInfo}
variable {before after : State reqs syncSize asyncSize} {req : Fin reqs}

/-- The statement of `H_FREE_PTR_WITH_FUNC` the requester stands at. -/
def reqHook : ReqPc syncSize → Option FreeHook
  | .freeHook part | .failHook part => some part
  | _ => none

/-- The requester frees its `ctrl_cmd_t` next. -/
def frees : ReqPc syncSize → Bool
  | .freeReq _ | .failFree => true
  | _ => false

/-- What a requester does to the memory of its request. -/
inductive ReqLife (info : Fin reqs → ReqInfo) (req : Fin reqs)
    (before after : State reqs syncSize asyncSize) : Prop where
  | hook (part : FreeHook) (stands : before.pc req = .freeHook part)
      (next : after.pc req = (hookStep info req before part).2.elim .sent .freeHook)
      (hdl : after.freeBuffHdl = (hookStep info req before part).1.freeBuffHdl)
      (calls : after.hookCalls = (hookStep info req before part).1.hookCalls)
      (freed : after.reqFreed = before.reqFreed)
  | failHook (part : FreeHook) (stands : before.pc req = .failHook part)
      (next : after.pc req = (hookStep info req before part).2.elim .failFree .failHook)
      (hdl : after.freeBuffHdl = (hookStep info req before part).1.freeBuffHdl)
      (calls : after.hookCalls = (hookStep info req before part).1.hookCalls)
      (freed : after.reqFreed = before.reqFreed)
  | free (stands : frees (before.pc req) = true)
      (hdl : after.freeBuffHdl = before.freeBuffHdl) (calls : after.hookCalls = before.hookCalls)
      (freed : after.reqFreed = Function.update before.reqFreed req true)
  | other (unhooked : reqHook (before.pc req) = none) (keeps : frees (before.pc req) = false)
      (hdl : after.freeBuffHdl = before.freeBuffHdl) (calls : after.hookCalls = before.hookCalls)
      (freed : after.reqFreed = before.reqFreed)

theorem hookStep_freed (part : FreeHook) : (hookStep info req before part).1.reqFreed = before.reqFreed := by
  cases part <;> rfl

theorem req_life {decided : ReqChoice} (taken : reqStep info req decided before = some after) :
    ReqLife info req before after := by
  unfold reqStep at taken
  split at taken
  case h_13 part stands =>
    cases taken
    refine .hook part stands ?_ rfl rfl (hookStep_freed part)
    simp [State.goto]
  case h_15 part stands =>
    cases taken
    refine .failHook part stands ?_ rfl rfl (hookStep_freed part)
    simp [State.goto]
  case h_14 stands =>
    cases taken
    rw [destroy_sem]
    exact .other (by simp [stands, reqHook]) (by simp [stands, frees]) rfl rfl rfl
  case h_20 slot got stands =>
    cases taken
    rw [destroy_sem]
    exact .other (by simp [stands, reqHook]) (by simp [stands, frees]) rfl rfl rfl
  case h_16 stands =>
    cases taken
    exact .free (by simp [stands, frees]) rfl rfl rfl
  case h_22 resp stands =>
    cases taken
    exact .free (by simp [stands, frees]) rfl rfl rfl
  case h_23 => cases taken
  -- every other statement leaves the buffer and the request alone
  all_goals
    have unhooked : reqHook (before.pc req) = none := by simp [*, reqHook]
    have keeps : frees (before.pc req) = false := by simp [*, frees]
    repeat' split at taken
    all_goals first
      | (cases taken; done)
      | (cases taken; exact .other unhooked keeps rfl rfl rfl)

theorem req_ghosts {decided : ReqChoice} (taken : reqStep info req decided before = some after) :
    after.packedFreed = before.packedFreed ∧ after.touchedFreed = before.touchedFreed := by
  unfold reqStep at taken
  split at taken
  case h_13 part stands =>
    cases taken
    cases part <;> exact ⟨rfl, rfl⟩
  case h_15 part stands =>
    cases taken
    cases part <;> exact ⟨rfl, rfl⟩
  case h_14 | h_20 =>
    cases taken
    rw [destroy_sem]
    exact ⟨rfl, rfl⟩
  all_goals
    repeat' split at taken
    all_goals first
      | (cases taken; done)
      | (cases taken; exact ⟨rfl, rfl⟩)

/-- What the tx thread does to the memory of the request it works on. -/
inductive TxLife (info : Fin reqs → ReqInfo) (before after : State reqs syncSize asyncSize) : Prop where
  | hook (req : Fin reqs) (part : FreeHook) (stands : before.tx = .freeHook req part)
      (hdl : after.freeBuffHdl = (hookStep info req before part).1.freeBuffHdl)
      (calls : after.hookCalls = (hookStep info req before part).1.hookCalls)
      (packed : after.packedFreed = before.packedFreed)
  | pack (req : Fin reqs) (stands : before.tx = .send req)
      (hdl : after.freeBuffHdl = before.freeBuffHdl) (calls : after.hookCalls = before.hookCalls)
      (packed : after.packedFreed = Function.update before.packedFreed req
        (before.packedFreed req || decide (0 < before.hookCalls req)))
  | other (unhooked : ∀ req part, before.tx ≠ .freeHook req part)
      (hdl : after.freeBuffHdl = before.freeBuffHdl) (calls : after.hookCalls = before.hookCalls)
      (packed : after.packedFreed = before.packedFreed)

theorem tx_life {fault : Option TxFault} (taken : txStep info fault before = some after) :
    TxLife info before after := by
  unfold txStep at taken
  split at taken
  case h_19 req part stands =>
    cases taken
    refine .hook req part stands rfl rfl ?_
    cases part <;> rfl
  case h_10 req stands =>
    cases taken
    exact .pack req stands rfl rfl rfl
  case h_11 req stands =>
    cases taken
    exact .pack req stands rfl rfl rfl
  case h_18 req resp stands =>
    split at taken
    · cases taken
      rw [post_sem]
      exact .other (by simp [stands]) rfl rfl rfl
    · cases taken
      exact .other (by simp [stands]) rfl rfl rfl
  case h_21 => cases taken
  -- every other statement leaves the buffer alone and packs nothing
  all_goals
    have unhooked : ∀ req part, before.tx ≠ .freeHook req part := by simp [*]
    repeat' split at taken
    all_goals first
      | (cases taken; done)
      | (cases taken; exact .other unhooked rfl rfl rfl)

theorem tx_ghosts {fault : Option TxFault} (taken : txStep info fault before = some after) :
    after.reqFreed = before.reqFreed ∧ after.touchedFreed = before.touchedFreed := by
  unfold txStep at taken
  split at taken
  case h_19 req part stands =>
    cases taken
    cases part <;> exact ⟨rfl, rfl⟩
  case h_18 req resp stands =>
    split at taken
    · cases taken
      rw [post_sem]
      exact ⟨rfl, rfl⟩
    · cases taken
      exact ⟨rfl, rfl⟩
  all_goals
    repeat' split at taken
    all_goals first
      | (cases taken; done)
      | (cases taken; exact ⟨rfl, rfl⟩)

/-! The life of one buffer. -/

/-- Where the tx thread stands with one request. -/
inductive TxStage where
  | away
  | packing
  | reporting
  | hook (part : FreeHook)
  | cleanup
  deriving DecidableEq

def stageOf (req : Fin reqs) : TxPc reqs → TxStage
  | .getSem | .dequeue => .away
  | .compose held | .setCb held | .startTimer held | .send held =>
      if held = req then .packing else .away
  | .failResp held _ | .failCall held _ | .failPut held _ | .failTest held _ | .failPost held _ =>
      if held = req then .reporting else .away
  | .freeHook held part => if held = req then .hook part else .away
  | .cleanup held => if held = req then .cleanup else .away

def txHook : TxStage → Option FreeHook
  | .hook part => some part
  | _ => none

/-- The pointer has passed the test and is not NULL yet. -/
def inside : Option FreeHook → Bool
  | some .call | some .clear => true
  | _ => false

/-- The application gave a buffer and a function to free it with. -/
def owned (info : ReqInfo) : Bool := info.appFreeBuffFunc && info.appFreeBuffHdl

/-- Neither queued nor given up. -/
def early : ReqPc syncSize → Bool
  | .start | .uidInc _ | .uidTest | .uidReload | .uidReinc _ | .uidCopy | .setSem | .searchSlot
  | .fillSlot _ | .putTx | .failReq | .failHook .test => true
  | _ => false

structure HookInv (info : ReqInfo) (pc : ReqPc syncSize) (waiting : Prop) (stage : TxStage)
    (hdl : Bool) (calls : Nat) : Prop where
  unowned : owned info = false → (info.appFreeBuffFunc && hdl) = false ∧ calls = 0 ∧
    inside (reqHook pc) = false ∧ inside (txHook stage) = false
  excl : inside (reqHook pc) = true → inside (txHook stage) = false
  calling : owned info = true → reqHook pc = some .call ∨ txHook stage = some .call →
    hdl = true ∧ calls = 0
  -- between the call and the NULL the pointer is set but the buffer is gone
  clearing : owned info = true → reqHook pc = some .clear ∨ txHook stage = some .clear →
    hdl = true ∧ calls = 1
  outside : owned info = true → inside (reqHook pc) = false → inside (txHook stage) = false →
    hdl = true ∧ calls = 0 ∨ hdl = false ∧ calls = 1
  -- what is still to be packed has not been freed, nor is the requester about to
  unpacked : waiting ∨ stage = .packing → calls = 0 ∧ inside (reqHook pc) = false
  early : owned info = true → early pc = true → hdl = true ∧ calls = 0
  done : owned info = true → pc.queued = true → ¬ waiting → stage = .away ∨ stage = .cleanup →
    calls = 1
  failed : owned info = true → pc = .failFree ∨ pc = .failed → calls = 1

section Buffer
variable {info : ReqInfo} {pc next : ReqPc syncSize} {waiting waiting' : Prop} {stage : TxStage}
variable {hdl : Bool} {calls : Nat}

theorem inside_cases {held : Option FreeHook} (here : inside held = true) :
    held = some .call ∨ held = some .clear := by
  cases held with
  | none => simp [inside] at here
  | some part => cases part <;> simp_all [inside]

theorem HookInv.le_one (inv : HookInv info pc waiting stage hdl calls) : calls ≤ 1 := by
  cases own : owned info with
  | false =>
      have none := (inv.unowned own).2.1
      omega
  | true =>
      by_cases mine : inside (reqHook pc) = true
      · rcases inside_cases mine with place | place
        · have count := (inv.calling own (Or.inl place)).2
          omega
        · have count := (inv.clearing own (Or.inl place)).2
          omega
      · by_cases its : inside (txHook stage) = true
        · rcases inside_cases its with place | place
          · have count := (inv.calling own (Or.inr place)).2
            omega
          · have count := (inv.clearing own (Or.inr place)).2
            omega
        · rcases inv.outside own (by simpa using mine) (by simpa using its) with
            ⟨-, count⟩ | ⟨-, count⟩ <;> omega

/-- The requester moves on without touching the pointer: before the put, with the
put, or after it. -/
theorem HookInv.moves (inv : HookInv info pc waiting stage hdl calls)
    (here : inside (reqHook pc) = false) (there : inside (reqHook next) = false)
    (given : next = .failFree ∨ next = .failed → pc = .failFree)
    (kind : RequestLifetime.early pc = true ∧ RequestLifetime.early next = true ∧ (waiting' ↔ waiting) ∨
      RequestLifetime.early pc = true ∧ waiting' ∧ RequestLifetime.early next = false ∨
      pc = .failFree ∧ next = .failed ∧ (waiting' ↔ waiting) ∨
      pc.queued = true ∧ RequestLifetime.early next = false ∧ (waiting' ↔ waiting)) :
    HookInv info next waiting' stage hdl calls where
  unowned own := ⟨(inv.unowned own).1, (inv.unowned own).2.1, there, (inv.unowned own).2.2.2⟩
  excl mine := by
    rw [there] at mine
    cases mine
  calling own place := by
    rcases place with place | place
    · rw [place] at there
      cases there
    · exact inv.calling own (Or.inr place)
  clearing own place := by
    rcases place with place | place
    · rw [place] at there
      cases there
    · exact inv.clearing own (Or.inr place)
  outside own _ its := inv.outside own here its
  unpacked place := by
    refine ⟨?_, there⟩
    cases own : owned info with
    | false => exact (inv.unowned own).2.1
    | true =>
        rcases kind with ⟨was, -, same⟩ | ⟨was, -, -⟩ | ⟨-, -, same⟩ | ⟨-, -, same⟩
        · exact (inv.early own was).2
        · exact (inv.early own was).2
        · exact (inv.unpacked (place.imp_left same.mp)).1
        · exact (inv.unpacked (place.imp_left same.mp)).1
  early own now := by
    rcases kind with ⟨was, -, -⟩ | ⟨was, -, -⟩ | ⟨-, rfl, -⟩ | ⟨-, late, -⟩
    · exact inv.early own was
    · exact inv.early own was
    · cases now
    · rw [late] at now
      cases now
  done own now absent place := by
    rcases kind with ⟨-, young, -⟩ | ⟨-, present, -⟩ | ⟨-, rfl, -⟩ | ⟨was, -, same⟩
    · cases next <;> simp_all [RequestLifetime.early, ReqPc.queued]
    · exact absurd present absent
    · cases now
    · exact inv.done own was (fun present => absent (same.mpr present)) place
  failed own gave := inv.failed own (Or.inl (given gave))

/-- The tx thread moves on without touching the pointer. -/
theorem HookInv.turns {stage' : TxStage} (inv : HookInv info pc waiting stage hdl calls)
    (here : inside (txHook stage) = false) (there : inside (txHook stage') = false)
    (waits : waiting' → waiting)
    (packing : stage' = .packing → waiting ∨ stage = .packing)
    (left : stage' = .away ∨ stage' = .cleanup → (¬ waiting' → ¬ waiting) ∧
      (stage = .away ∨ stage = .cleanup)) :
    HookInv info pc waiting' stage' hdl calls where
  unowned own := ⟨(inv.unowned own).1, (inv.unowned own).2.1, (inv.unowned own).2.2.1, there⟩
  excl _ := there
  calling own place := by
    rcases place with place | place
    · exact inv.calling own (Or.inl place)
    · rw [place] at there
      cases there
  clearing own place := by
    rcases place with place | place
    · exact inv.clearing own (Or.inl place)
    · rw [place] at there
      cases there
  outside own mine _ := inv.outside own mine here
  unpacked place := by
    rcases place with place | place
    · exact inv.unpacked (Or.inl (waits place))
    · exact inv.unpacked (packing place)
  early := inv.early
  done own now absent place := inv.done own now ((left place).1 absent) (left place).2
  failed := inv.failed

theorem HookInv.set_owned (inv : HookInv info pc waiting stage hdl calls)
    (set : (info.appFreeBuffFunc && hdl) = true) : owned info = true := by
  cases own : owned info with
  | false =>
      rw [(inv.unowned own).1] at set
      cases set
  | true => rfl

/-- The test found the pointer, and nobody was in between: the buffer is still there. -/
theorem HookInv.set_fresh (inv : HookInv info pc waiting stage hdl calls)
    (set : (info.appFreeBuffFunc && hdl) = true) (mine : inside (reqHook pc) = false)
    (its : inside (txHook stage) = false) : hdl = true ∧ calls = 0 := by
  have alive : hdl = true := by
    simp only [Bool.and_eq_true] at set
    exact set.2
  rcases inv.outside (inv.set_owned set) mine its with fresh | ⟨null, -⟩
  · exact fresh
  · rw [alive] at null
    cases null

/-- The test found no pointer: whoever was in between has cleared it. -/
theorem HookInv.unset_freed (inv : HookInv info pc waiting stage hdl calls)
    (unset : (info.appFreeBuffFunc && hdl) = false) (own : owned info = true) :
    calls = 1 ∧ inside (reqHook pc) = false ∧ inside (txHook stage) = false := by
  have func : info.appFreeBuffFunc = true := by
    simp only [owned, Bool.and_eq_true] at own
    exact own.1
  have null : hdl = false := by simpa [func] using unset
  have mine : inside (reqHook pc) = false := by
    by_contra here
    rcases inside_cases (by simpa using here) with place | place
    · exact absurd (inv.calling own (Or.inl place)).1 (by simp [null])
    · exact absurd (inv.clearing own (Or.inl place)).1 (by simp [null])
  have its : inside (txHook stage) = false := by
    by_contra here
    rcases inside_cases (by simpa using here) with place | place
    · exact absurd (inv.calling own (Or.inr place)).1 (by simp [null])
    · exact absurd (inv.clearing own (Or.inr place)).1 (by simp [null])
  refine ⟨?_, mine, its⟩
  rcases inv.outside own mine its with ⟨alive, -⟩ | ⟨-, count⟩
  · rw [null] at alive
    cases alive
  · exact count

/-- The requester's test passes once the tx thread is done packing and not itself
inside the macro. -/
theorem HookInv.reqEnter (inv : HookInv info pc waiting stage hdl calls)
    (set : (info.appFreeBuffFunc && hdl) = true) (here : reqHook pc = some .test)
    (there : reqHook next = some .call) (queued : next.queued = true → pc.queued = true)
    (unpacking : ¬ waiting ∧ stage ≠ .packing) (apart : inside (txHook stage) = false) :
    HookInv info next waiting stage hdl calls := by
  have own := inv.set_owned set
  have fresh := inv.set_fresh set (by simp [here, inside]) apart
  constructor
  case unowned => simp [own]
  case excl => exact fun _ => apart
  case calling => exact fun _ _ => fresh
  case clearing =>
    rintro - (place | place)
    · rw [there] at place
      cases place
    · rw [place] at apart
      cases apart
  case outside =>
    intro _ mine
    rw [there] at mine
    cases mine
  case unpacked =>
    rintro (present | packing)
    · exact absurd present unpacking.1
    · exact absurd packing unpacking.2
  case early => exact fun _ _ => fresh
  case done => exact fun own now absent place => inv.done own (queued now) absent place
  case failed =>
    rintro - (rfl | rfl) <;> cases there

/-- The requester's test fails, or it has cleared the pointer: it leaves the macro. -/
theorem HookInv.reqLeave (inv : HookInv info pc waiting stage hdl calls) {hdl' : Bool}
    (here : reqHook pc = some .test ∧ (info.appFreeBuffFunc && hdl) = false ∧ hdl' = hdl ∨
      reqHook pc = some .clear ∧ hdl' = false)
    (there : reqHook next = none) (queued : next.queued = true → pc.queued = true)
    (late : RequestLifetime.early next = false) : HookInv info next waiting stage hdl' calls := by
  have freed : owned info = true →
      hdl' = false ∧ calls = 1 ∧ inside (txHook stage) = false := by
    intro own
    rcases here with ⟨-, unset, rfl⟩ | ⟨place, rfl⟩
    · obtain ⟨count, -, its⟩ := inv.unset_freed unset own
      have func : info.appFreeBuffFunc = true := by
        simp only [owned, Bool.and_eq_true] at own
        exact own.1
      exact ⟨by simpa [func] using unset, count, its⟩
    · exact ⟨rfl, (inv.clearing own (Or.inl place)).2, inv.excl (by simp [place, inside])⟩
  constructor
  case unowned =>
    intro own
    obtain ⟨unset, count, mine, its⟩ := inv.unowned own
    refine ⟨?_, count, by simp [there, inside], its⟩
    rcases here with ⟨-, -, rfl⟩ | ⟨place, -⟩
    · exact unset
    · rw [place] at mine
      cases mine
  case excl =>
    intro mine
    rw [there] at mine
    cases mine
  case calling =>
    rintro own (place | place)
    · rw [there] at place
      cases place
    · have its := (freed own).2.2
      rw [place] at its
      cases its
  case clearing =>
    rintro own (place | place)
    · rw [there] at place
      cases place
    · have its := (freed own).2.2
      rw [place] at its
      cases its
  case outside => exact fun own _ _ => Or.inr ⟨(freed own).1, (freed own).2.1⟩
  case unpacked => exact fun place => ⟨(inv.unpacked place).1, by simp [there, inside]⟩
  case early =>
    intro _ young
    rw [late] at young
    cases young
  case done => exact fun own now absent place => inv.done own (queued now) absent place
  case failed => exact fun own _ => (freed own).2.1

/-- The requester frees the buffer. -/
theorem HookInv.reqCall (inv : HookInv info pc waiting stage hdl calls)
    (here : reqHook pc = some .call) (there : reqHook next = some .clear)
    (late : RequestLifetime.early next = false) :
    HookInv info next waiting stage hdl (calls + if hdl then 1 else 0) := by
  have mine : inside (reqHook pc) = true := by simp [here, inside]
  have its := inv.excl mine
  have own : owned info = true := by
    cases own : owned info with
    | false =>
        rw [(inv.unowned own).2.2.1] at mine
        cases mine
    | true => rfl
  obtain ⟨rfl, rfl⟩ := inv.calling own (Or.inl here)
  constructor
  case unowned => simp [own]
  case excl => exact fun _ => its
  case calling =>
    rintro - (place | place)
    · rw [there] at place
      cases place
    · rw [place] at its
      cases its
  case clearing => exact fun _ _ => ⟨rfl, rfl⟩
  case outside =>
    intro _ out
    rw [there] at out
    cases out
  case unpacked =>
    intro place
    rw [(inv.unpacked place).2] at mine
    cases mine
  case early =>
    intro _ young
    rw [late] at young
    cases young
  case done => exact fun _ _ _ _ => rfl
  case failed => exact fun _ _ => rfl

/-- The tx thread's test passes while the requester is not inside the macro. -/
theorem HookInv.txEnter (inv : HookInv info pc waiting (.hook .test) hdl calls)
    (set : (info.appFreeBuffFunc && hdl) = true) (apart : inside (reqHook pc) = false) :
    HookInv info pc waiting (.hook .call) hdl calls := by
  have own := inv.set_owned set
  have fresh := inv.set_fresh set apart rfl
  constructor
  case unowned => simp [own]
  case excl =>
    intro mine
    rw [apart] at mine
    cases mine
  case calling => exact fun _ _ => fresh
  case clearing =>
    rintro - (place | place)
    · rw [place] at apart
      cases apart
    · cases place
  case outside =>
    intro _ _ its
    cases its
  case unpacked =>
    rintro (present | packing)
    · exact inv.unpacked (Or.inl present)
    · cases packing
  case early => exact fun _ _ => fresh
  case done =>
    rintro - - - (place | place) <;> cases place
  case failed => exact inv.failed

/-- The tx thread leaves the macro, having found or made the pointer NULL. -/
theorem HookInv.txLeave (inv : HookInv info pc waiting stage hdl calls) {hdl' : Bool}
    (here : txHook stage = some .test ∧ (info.appFreeBuffFunc && hdl) = false ∧ hdl' = hdl ∨
      txHook stage = some .clear ∧ hdl' = false) (queued : pc.queued = true) :
    HookInv info pc waiting .cleanup hdl' calls := by
  have freed : owned info = true →
      hdl' = false ∧ calls = 1 ∧ inside (reqHook pc) = false := by
    intro own
    rcases here with ⟨-, unset, rfl⟩ | ⟨place, rfl⟩
    · obtain ⟨count, mine, -⟩ := inv.unset_freed unset own
      have func : info.appFreeBuffFunc = true := by
        simp only [owned, Bool.and_eq_true] at own
        exact own.1
      exact ⟨by simpa [func] using unset, count, mine⟩
    · refine ⟨rfl, (inv.clearing own (Or.inr place)).2, ?_⟩
      by_contra mine
      have its := inv.excl (by simpa using mine)
      rw [place] at its
      cases its
  constructor
  case unowned =>
    intro own
    obtain ⟨unset, count, mine, its⟩ := inv.unowned own
    refine ⟨?_, count, mine, rfl⟩
    rcases here with ⟨-, -, rfl⟩ | ⟨place, -⟩
    · exact unset
    · rw [place] at its
      cases its
  case excl => exact fun _ => rfl
  case calling =>
    rintro own (place | place)
    · have mine := (freed own).2.2
      rw [place] at mine
      cases mine
    · cases place
  case clearing =>
    rintro own (place | place)
    · have mine := (freed own).2.2
      rw [place] at mine
      cases mine
    · cases place
  case outside => exact fun own _ _ => Or.inr ⟨(freed own).1, (freed own).2.1⟩
  case unpacked =>
    rintro (present | packing)
    · exact inv.unpacked (Or.inl present)
    · cases packing
  case early =>
    intro _ young
    generalize pc = here at queued young
    cases here <;> simp_all [RequestLifetime.early, ReqPc.queued]
  case done => exact fun own _ _ _ => (freed own).2.1
  case failed => exact fun own _ => (freed own).2.1

/-- The tx thread frees the buffer. -/
theorem HookInv.txCall (inv : HookInv info pc waiting (.hook .call) hdl calls) (absent : ¬ waiting)
    (queued : pc.queued = true) :
    HookInv info pc waiting (.hook .clear) hdl (calls + if hdl then 1 else 0) := by
  have own : owned info = true := by
    cases own : owned info with
    | false => exact absurd (inv.unowned own).2.2.2 (by simp [txHook, inside])
    | true => rfl
  have mine : inside (reqHook pc) = false := by
    by_contra mine
    exact absurd (inv.excl (by simpa using mine)) (by simp [txHook, inside])
  obtain ⟨rfl, rfl⟩ := inv.calling own (Or.inr rfl)
  constructor
  case unowned => simp [own]
  case excl =>
    intro here
    rw [mine] at here
    cases here
  case calling =>
    rintro - (place | place)
    · rw [place] at mine
      cases mine
    · cases place
  case clearing => exact fun _ _ => ⟨rfl, rfl⟩
  case outside =>
    intro _ _ its
    cases its
  case unpacked =>
    rintro (present | packing)
    · exact absurd present absent
    · cases packing
  case early =>
    intro _ young
    generalize pc = here at queued young
    cases here <;> simp_all [RequestLifetime.early, ReqPc.queued]
  case done => exact fun _ _ _ _ => rfl
  case failed => exact fun _ _ => rfl

end Buffer

/-! The two threads together. -/

def Hooks (info : Fin reqs → ReqInfo) (state : State reqs syncSize asyncSize) : Prop :=
  ∀ req, HookInv (info req) (state.pc req) (req ∈ state.rpcTxQ) (stageOf req state.tx)
    (state.freeBuffHdl req) (state.hookCalls req)

theorem hooks_init : Hooks info (init info : State reqs syncSize asyncSize) := by
  intro req
  constructor <;> simp [init, reqHook, stageOf, txHook, inside, early, ReqPc.queued]
  · intro own
    simpa [owned] using own
  · intro own
    simp only [owned, Bool.and_eq_true] at own
    exact own.2
  · intro own
    simp only [owned, Bool.and_eq_true] at own
    exact own.2

/-- How a requester moves that neither runs the macro nor frees. -/
theorem plain_kind {choice : ReqChoice} (move : ReqMove info req before after choice)
    (unhooked : reqHook (before.pc req) = none) (keeps : frees (before.pc req) = false) :
    inside (reqHook (after.pc req)) = false ∧
      (after.pc req = .failFree ∨ after.pc req = .failed → before.pc req = .failFree) ∧
      (early (before.pc req) = true ∧ early (after.pc req) = true ∧
          after.rpcTxQ = before.rpcTxQ ∨
        early (before.pc req) = true ∧ after.rpcTxQ = before.rpcTxQ ++ [req] ∧
          early (after.pc req) = false ∨
        (before.pc req).queued = true ∧ early (after.pc req) = false ∧
          after.rpcTxQ = before.rpcTxQ) := by
  cases move with
  | quiet next edge effect =>
      have pc : after.pc req = next := by simp [effect.pc, State.goto]
      have queue : after.rpcTxQ = before.rpcTxQ := effect.rpcTxQ
      rw [pc, queue]
      generalize before.pc req = here at edge unhooked keeps
      cases edge <;> simp_all [reqHook, frees, inside, early, ReqPc.queued]
  | copyUid stands effect =>
      have queue : after.rpcTxQ = before.rpcTxQ := effect.rpcTxQ
      cases kind : (info req).rpcRspCb <;>
        simp [effect.pc, State.goto, kind, stands, queue, reqHook, inside, early]
  | clear slot taken stands effect =>
      have queue : after.rpcTxQ = before.rpcTxQ := effect.rpcTxQ
      cases taken <;>
        simp [effect.pc, State.goto, stands, queue, reqHook, inside, early, ReqPc.queued]
  | put stands effect =>
      have queue : after.rpcTxQ = before.rpcTxQ ++ [req] := effect.rpcTxQ
      simp [effect.pc, State.goto, stands, queue, reqHook, inside, early]
  | putFails stands _ effect | createSem stands _ effect | fill _ stands effect
  | take _ _ _ stands _ _ effect | giveUp _ stands _ effect | dequeue _ _ stands _ _ effect
  | abandon stands effect =>
      have queue : after.rpcTxQ = before.rpcTxQ := effect.rpcTxQ
      simp [effect.pc, State.goto, stands, queue, reqHook, inside, early, ReqPc.queued]

theorem free_kind {choice : ReqChoice} (move : ReqMove info req before after choice)
    (stands : frees (before.pc req) = true) :
    after.rpcTxQ = before.rpcTxQ ∧
      (before.pc req = .failFree ∧ after.pc req = .failed ∨
        ∃ resp, before.pc req = .freeReq resp ∧ after.pc req = .returned resp) := by
  cases move with
  | quiet next edge effect =>
      have pc : after.pc req = next := by simp [effect.pc, State.goto]
      refine ⟨effect.rpcTxQ, ?_⟩
      rw [pc]
      generalize before.pc req = here at edge stands
      cases edge <;> simp_all [frees]
  | copyUid place effect | clear _ _ place effect | put place effect | putFails place _ effect
  | createSem place _ effect | fill _ place effect | take _ _ _ place _ _ effect
  | giveUp _ place _ effect | dequeue _ _ place _ _ effect | abandon place effect =>
      simp [place, frees] at stands

/-- A requester frees its request only when the tx thread is done with it, and runs
the macro of `rpc_send_req` on a pointer only after the request has been packed (or
its sending given up) and while the tx thread is not inside the macro; the tx thread
does not enter it while the requester is inside. -/
def HandsOff (info : Fin reqs → ReqInfo) (state : State reqs syncSize asyncSize) : Act reqs → Prop
  | .req req _ =>
      (frees (state.pc req) = true → req ∉ state.rpcTxQ ∧ state.tx.current ≠ some req) ∧
      (state.pc req = .freeHook .test →
        ((info req).appFreeBuffFunc && state.freeBuffHdl req) = true →
        req ∉ state.rpcTxQ ∧ stageOf req state.tx ≠ .packing ∧
          inside (txHook (stageOf req state.tx)) = false)
  | .tx _ => ∀ req, state.tx = .freeHook req .test →
      ((info req).appFreeBuffFunc && state.freeBuffHdl req) = true →
      inside (reqHook (state.pc req)) = false
  | .receive _ | .rx _ | .expire _ _ => True

theorem hookStep_other (info : Fin reqs → ReqInfo) (before : State reqs syncSize asyncSize)
    (part : FreeHook) {other : Fin reqs} (moved : other ≠ req) :
    (hookStep info req before part).1.freeBuffHdl other = before.freeBuffHdl other ∧
      (hookStep info req before part).1.hookCalls other = before.hookCalls other := by
  cases part <;> simp [hookStep, moved]

theorem req_others {choice : ReqChoice} (move : ReqMove info req before after choice)
    (life : ReqLife info req before after) {other : Fin reqs} (moved : other ≠ req) :
    (other ∈ after.rpcTxQ ↔ other ∈ before.rpcTxQ) ∧
      after.freeBuffHdl other = before.freeBuffHdl other ∧
      after.hookCalls other = before.hookCalls other := by
  refine ⟨?_, ?_⟩
  · rcases (req_queue move).queue with same | ⟨-, -, longer⟩
    · rw [same]
    · rw [longer]
      simp [moved]
  · cases life with
    | hook part _ _ hdl calls _ | failHook part _ _ hdl calls _ =>
        rw [hdl, calls]
        exact hookStep_other info before part moved
    | free _ hdl calls _ | other _ _ hdl calls _ => exact ⟨by rw [hdl], by rw [calls]⟩

theorem stage_away (queue : QueueInv info before) (fresh : (before.pc req).queued = false) :
    stageOf req before.tx = .away := by
  have apart : before.tx.current ≠ some req := by
    intro held
    rw [(queue.current req held).1] at fresh
    cases fresh
  generalize before.tx = tx at apart
  cases tx <;> simp_all [TxPc.current, stageOf]

/-- Only the put into the tx queue changes that queue. -/
theorem unqueued_kept {choice : ReqChoice} (move : ReqMove info req before after choice)
    (elsewhere : before.pc req ≠ .putTx) : after.rpcTxQ = before.rpcTxQ := by
  rcases (req_queue move).queue with same | ⟨put, -⟩
  · exact same
  · exact absurd put elsewhere

theorem hooks_req {choice : ReqChoice} (queue : QueueInv info before) (inv : Hooks info before)
    (allowed : HandsOff info before (.req req choice))
    (move : ReqMove info req before after choice) (life : ReqLife info req before after) :
    Hooks info after := by
  have tx := (req_tx_rx move).1
  intro other
  rw [tx]
  by_cases moved : other = req
  · subst other
    have own := inv req
    cases life with
    | hook part stands next hdl calls freed =>
        have same := unqueued_kept move (by rw [stands]; nofun)
        rw [stands] at own
        rw [next, hdl, calls, same]
        cases part with
        | test =>
            cases set : (info req).appFreeBuffFunc && before.freeBuffHdl req with
            | true =>
                -- the free in rpc_send_req is in time only when the tx thread is past packing
                obtain ⟨absent, unpacking, apart⟩ := allowed.2 stands set
                simp only [hookStep, set, if_true]
                exact own.reqEnter set rfl rfl (fun _ => rfl) ⟨absent, unpacking⟩ apart
            | false =>
                simp only [hookStep, set]
                exact own.reqLeave (Or.inl ⟨rfl, set, rfl⟩) rfl (fun _ => rfl) rfl
        | call =>
            simp only [hookStep, Function.update_self]
            exact own.reqCall rfl rfl rfl
        | clear =>
            simp only [hookStep, Function.update_self]
            exact own.reqLeave (Or.inr ⟨rfl, rfl⟩) rfl (fun _ => rfl) rfl
    | failHook part stands next hdl calls freed =>
        have same := unqueued_kept move (by rw [stands]; nofun)
        have fresh : (before.pc req).queued = false := by simp [stands, ReqPc.queued]
        -- a request that was never queued is out of reach of the tx thread
        have away := stage_away queue fresh
        have absent : req ∉ before.rpcTxQ := by
          intro member
          rw [queue.members req member] at fresh
          cases fresh
        rw [stands] at own
        rw [next, hdl, calls, same]
        cases part with
        | test =>
            cases set : (info req).appFreeBuffFunc && before.freeBuffHdl req with
            | true =>
                simp only [hookStep, set, if_true]
                rw [away] at own ⊢
                exact own.reqEnter set rfl rfl (fun queued => by cases queued) ⟨absent, by simp⟩ rfl
            | false =>
                simp only [hookStep, set]
                exact own.reqLeave (Or.inl ⟨rfl, set, rfl⟩) rfl (fun queued => by cases queued) rfl
        | call =>
            simp only [hookStep, Function.update_self]
            exact own.reqCall rfl rfl rfl
        | clear =>
            simp only [hookStep, Function.update_self]
            exact own.reqLeave (Or.inr ⟨rfl, rfl⟩) rfl (fun queued => by cases queued) rfl
    | free stands hdl calls freed =>
        obtain ⟨same, kind⟩ := free_kind move stands
        rw [hdl, calls, same]
        rcases kind with ⟨here, there⟩ | ⟨resp, here, there⟩
        · rw [here] at own
          rw [there]
          exact own.moves rfl rfl (fun _ => rfl) (Or.inr (Or.inr (Or.inl ⟨rfl, rfl, Iff.rfl⟩)))
        · rw [here] at own
          rw [there]
          exact own.moves rfl rfl (by simp) (Or.inr (Or.inr (Or.inr ⟨rfl, rfl, Iff.rfl⟩)))
    | other unhooked keeps hdl calls freed =>
        obtain ⟨there, given, kind⟩ := plain_kind move unhooked keeps
        rw [hdl, calls]
        apply own.moves (by simp [unhooked, inside]) there given
        rcases kind with ⟨was, now, same⟩ | ⟨was, longer, late⟩ | ⟨was, late, same⟩
        · exact Or.inl ⟨was, now, by rw [same]⟩
        · exact Or.inr (Or.inl ⟨was, by simp [longer], late⟩)
        · exact Or.inr (Or.inr (Or.inr ⟨was, late, by rw [same]⟩))
  · obtain ⟨waits, hdl, calls⟩ := req_others move life moved
    rw [pc_other move moved, hdl, calls, propext waits]
    exact inv other

theorem stageOf_other {tx : TxPc reqs} {held other : Fin reqs} (holds : tx.current = some held)
    (moved : other ≠ held) : stageOf other tx = .away := by
  cases tx <;> simp_all [TxPc.current, stageOf] <;> exact fun same => absurd same.symm moved

theorem txQuiet_stage {info : Fin reqs → ReqInfo} {here next : TxPc reqs}
    (edge : TxQuiet info here next) (req : Fin reqs) :
    inside (txHook (stageOf req next)) = false ∧
      (stageOf req next = .packing → stageOf req here = .packing) ∧
      (stageOf req next = .away ∨ stageOf req next = .cleanup →
        stageOf req here = .away ∨ stageOf req here = .cleanup) := by
  cases edge
  case getSem => simp [stageOf, txHook, inside]
  case cleanup held =>
    by_cases same : held = req <;> simp [stageOf, same, txHook, inside]
  all_goals
    simp only [stageOf]
    split <;> simp [txHook, inside]

theorem hook_turns {fault : Option TxFault} {part : FreeHook}
    (move : TxMove info before after fault) (stands : before.tx = .freeHook req part) :
    after.tx = (hookStep info req before part).2.elim (.cleanup req) (.freeHook req) ∧
      after.rpcTxQ = before.rpcTxQ := by
  cases move with
  | hook held part' here effect =>
      rw [stands] at here
      cases here
      exact ⟨effect.tx, effect.rpcTxQ⟩
  | quiet next edge effect =>
      rw [stands] at edge
      cases edge
  | pop _ _ here _ _ | register _ _ here _ _ _ | startTimer _ here _ _ | timerFails _ here _ _
  | pack _ here _ _ | sendFails _ here _ _ | call _ _ here _ | queue _ _ here _ _ _
  | post _ _ _ here _ _ _ =>
      rw [stands] at here
      cases here

/-- A statement of the tx thread outside the macro, seen from one request. -/
structure Turn (req : Fin reqs) (before after : State reqs syncSize asyncSize) : Prop where
  here : inside (txHook (stageOf req before.tx)) = false
  there : inside (txHook (stageOf req after.tx)) = false
  waits : req ∈ after.rpcTxQ → req ∈ before.rpcTxQ
  packing : stageOf req after.tx = .packing → req ∈ before.rpcTxQ ∨ stageOf req before.tx = .packing
  left : stageOf req after.tx = .away ∨ stageOf req after.tx = .cleanup →
    (req ∉ after.rpcTxQ → req ∉ before.rpcTxQ) ∧
      (stageOf req before.tx = .away ∨ stageOf req before.tx = .cleanup)

theorem unhooked_inside (req : Fin reqs) (unhooked : ∀ req part, before.tx ≠ .freeHook req part) :
    inside (txHook (stageOf req before.tx)) = false := by
  generalize before.tx = tx at unhooked
  cases tx <;> simp only [stageOf]
  case freeHook held part => exact absurd rfl (unhooked held part)
  all_goals first
    | rfl
    | (split <;> rfl)

theorem unhooked_turns {fault : Option TxFault} (move : TxMove info before after fault)
    (unhooked : ∀ req part, before.tx ≠ .freeHook req part) (req : Fin reqs) :
    Turn req before after := by
  have here := unhooked_inside req unhooked
  cases move with
  | hook held part stands effect => exact absurd stands (unhooked held part)
  | quiet next edge effect =>
      obtain ⟨there, packing, left⟩ := txQuiet_stage edge req
      have same : after.rpcTxQ = before.rpcTxQ := effect.rpcTxQ
      refine ⟨here, ?_, ?_, ?_, ?_⟩
      · rw [effect.tx]
        exact there
      · rw [same]
        exact id
      · rw [effect.tx]
        exact fun place => Or.inr (packing place)
      · rw [effect.tx, same]
        exact fun place => ⟨id, left place⟩
  | pop held rest stands queue effect =>
      have shorter : after.rpcTxQ = rest := effect.rpcTxQ
      by_cases same : held = req
      · subst held
        refine ⟨here, ?_, ?_, ?_, ?_⟩ <;> simp [effect.tx, stageOf, txHook, inside, shorter, queue]
      · have apart : req ≠ held := fun equal => same equal.symm
        refine ⟨here, ?_, ?_, ?_, ?_⟩ <;>
          simp [effect.tx, stageOf, same, apart, txHook, inside, shorter, queue, stands]
  | register held _ stands _ _ effect | startTimer held stands _ effect
  | timerFails held stands _ effect | pack held stands _ effect | sendFails held stands _ effect
  | call held _ stands effect | queue held _ stands _ _ effect | post held _ _ stands _ _ effect =>
      have queues : after.rpcTxQ = before.rpcTxQ := effect.rpcTxQ
      by_cases same : held = req
      · refine ⟨here, ?_, ?_, ?_, ?_⟩ <;>
          simp [effect.tx, stageOf, same, txHook, inside, queues, stands]
      · refine ⟨here, ?_, ?_, ?_, ?_⟩ <;>
          simp [effect.tx, stageOf, same, txHook, inside, queues, stands]

theorem stageOf_hook (next : Option FreeHook) :
    stageOf req (next.elim (.cleanup req) (.freeHook req)) = next.elim .cleanup .hook := by
  cases next <;> simp [stageOf]

theorem stageOf_hook_other {other : Fin reqs} (next : Option FreeHook) (moved : other ≠ req) :
    stageOf other (next.elim (.cleanup req) (.freeHook req)) = .away := by
  cases next <;> simp [stageOf] <;> exact fun same => absurd same.symm moved

theorem hooks_tx {fault : Option TxFault} (queue : QueueInv info before) (inv : Hooks info before)
    (allowed : HandsOff info before (.tx fault)) (move : TxMove info before after fault)
    (life : TxLife info before after) : Hooks info after := by
  have pc := (tx_pc move).1
  intro other
  have own := inv other
  rw [pc]
  cases life with
  | hook req part stands hdl calls packed =>
      obtain ⟨tx, queues⟩ := hook_turns move stands
      rw [tx, queues, hdl, calls]
      have held : before.tx.current = some req := by simp [stands, TxPc.current]
      by_cases moved : other = req
      · subst other
        obtain ⟨queued, absent⟩ := queue.current req held
        have stage : stageOf req before.tx = .hook part := by simp [stands, stageOf]
        rw [stage] at own
        rw [stageOf_hook]
        cases part with
        | test =>
            cases set : (info req).appFreeBuffFunc && before.freeBuffHdl req with
            | true =>
                simp only [hookStep, set, if_true]
                exact own.txEnter set (allowed req stands set)
            | false =>
                simp only [hookStep, set]
                exact own.txLeave (Or.inl ⟨rfl, set, rfl⟩) queued
        | call =>
            simp only [hookStep, Function.update_self]
            exact own.txCall absent queued
        | clear =>
            simp only [hookStep, Function.update_self]
            exact own.txLeave (Or.inr ⟨rfl, rfl⟩) queued
      · obtain ⟨hdls, counts⟩ := hookStep_other info before part moved
        have away := stageOf_other held moved
        rw [away] at own
        rw [hdls, counts, stageOf_hook_other _ moved]
        exact own
  | pack req stands hdl calls packed =>
      have turn := unhooked_turns move (by simp [stands]) other
      rw [hdl, calls]
      exact own.turns turn.here turn.there turn.waits turn.packing turn.left
  | other unhooked hdl calls packed =>
      have turn := unhooked_turns move unhooked other
      rw [hdl, calls]
      exact own.turns turn.here turn.there turn.waits turn.packing turn.left

def ended : ReqPc syncSize → Bool
  | .failed | .returned _ => true
  | _ => false

theorem ended_stuck {choice : ReqChoice} (move : ReqMove info req before after choice) :
    ended (before.pc req) = false := by
  cases move with
  | quiet next edge effect =>
      generalize before.pc req = here at edge
      cases edge <;> rfl
  | putFails stands _ _ | put stands _ | copyUid stands _ | createSem stands _ _ | fill _ stands _
  | take _ _ _ stands _ _ _ | giveUp _ stands _ _ | clear _ _ stands _ | dequeue _ _ stands _ _ _
  | abandon stands _ => simp [stands, ended]

/-- A freed request is out of everybody's reach. -/
def Unreachable (state : State reqs syncSize asyncSize) : Prop :=
  ∀ req, state.reqFreed req = true → ended (state.pc req) = true ∧ req ∉ state.rpcTxQ ∧
    state.tx.current ≠ some req ∧ state.timer req ≠ .running

structure Safe (info : Fin reqs → ReqInfo) (state : State reqs syncSize asyncSize) : Prop where
  hooks : Hooks info state
  freed : Unreachable state
  untouched : ∀ req, state.touchedFreed req = false
  packed : ∀ req, state.packedFreed req = false

theorem req_life_touch (life : ReqLife info req (before.touch req) after) :
    ReqLife info req before after := by
  cases life with
  | hook part stands next hdl calls freed =>
      cases part <;> exact .hook _ stands next hdl calls freed
  | failHook part stands next hdl calls freed =>
      cases part <;> exact .failHook _ stands next hdl calls freed
  | free stands hdl calls freed => exact .free stands hdl calls freed
  | other unhooked keeps hdl calls freed => exact .other unhooked keeps hdl calls freed

/-- A requester never frees before the request has left the tx thread's hands. -/
theorem unreachable_req {choice : ReqChoice} (queue : QueueInv info before)
    (freed : Unreachable before) (allowed : HandsOff info before (.req req choice))
    (move : ReqMove info req before after choice) (life : ReqLife info req before after) :
    Unreachable after := by
  have tx := (req_tx_rx move).1
  have timer := (req_queue move).timer
  intro other gone
  by_cases moved : other = req
  · subst other
    cases life with
    -- a synchronous request has no timer, and the tx thread has let go of it
    | free stands hdl calls free =>
        obtain ⟨same, kind⟩ := free_kind move stands
        obtain ⟨absent, apart⟩ := allowed.1 stands
        rw [same, tx, timer]
        refine ⟨?_, absent, apart, fun running => ?_⟩
        · rcases kind with ⟨-, there⟩ | ⟨resp, -, there⟩ <;> simp [there, ended]
        · obtain ⟨async, queued⟩ := queue.timed req (by simp [running])
          rcases kind with ⟨here, -⟩ | ⟨resp, here, -⟩
          · simp [here, ReqPc.queued] at queued
          · rw [queue.kind req (by simp [here, ReqPc.syncOnly])] at async
            cases async
    | hook _ _ _ _ _ same | failHook _ _ _ _ _ same | other _ _ _ _ same =>
        rw [same] at gone
        have stuck := ended_stuck move
        rw [(freed req gone).1] at stuck
        cases stuck
  · have same : after.reqFreed other = before.reqFreed other := by
      cases life with
      | free _ _ _ free => simp [free, moved]
      | hook _ _ _ _ _ same | failHook _ _ _ _ _ same | other _ _ _ _ same => rw [same]
    rw [same] at gone
    obtain ⟨done, absent, apart, still⟩ := freed other gone
    rw [pc_other move moved, (req_others move life moved).1, tx, timer]
    exact ⟨done, absent, apart, still⟩

theorem safe_req {choice : ReqChoice} (queue : QueueInv info before) (safe : Safe info before)
    (allowed : HandsOff info before (.req req choice))
    (taken : step info before (.req req choice) = some after) : Safe info after := by
  have move : ReqMove info req before after choice := reqMove_untouch (reqStep_move taken)
  have life := req_life_touch (req_life taken)
  obtain ⟨packed, touched⟩ := req_ghosts taken
  refine ⟨hooks_req queue safe.hooks allowed move life,
    unreachable_req queue safe.freed allowed move life, ?_, ?_⟩
  · have alive : before.reqFreed req = false := by
      by_contra gone
      have stuck := ended_stuck move
      rw [(safe.freed req (by simpa using gone)).1] at stuck
      cases stuck
    intro other
    rw [touched]
    by_cases same : other = req
    · simp [State.touch, same, alive, safe.untouched req]
    · simp [State.touch, same, safe.untouched other]
  · rw [packed]
    exact safe.packed

theorem tx_life_touch (life : TxLife info (before.touch req) after) : TxLife info before after := by
  cases life with
  | hook held part stands hdl calls packed =>
      cases part <;> exact .hook held _ stands hdl calls packed
  | pack held stands hdl calls packed => exact .pack held stands hdl calls packed
  | other unhooked hdl calls packed => exact .other unhooked hdl calls packed

/-- The tx thread takes requests from the queue only, and starts the timer of the
request it works on. -/
theorem tx_reach {fault : Option TxFault} (move : TxMove info before after fault) (req : Fin reqs) :
    (req ∈ after.rpcTxQ → req ∈ before.rpcTxQ) ∧
      (after.tx.current = some req → before.tx.current = some req ∨ req ∈ before.rpcTxQ) ∧
      (after.timer req = .running → before.timer req = .running ∨ before.tx.current = some req) := by
  cases move with
  | quiet next edge effect =>
      rw [effect.rpcTxQ, effect.tx, effect.timer]
      exact ⟨id, fun held => Or.inl (txQuiet_current edge held), Or.inl⟩
  | pop held rest stands queue effect =>
      rw [effect.rpcTxQ, effect.tx, effect.timer]
      refine ⟨fun later => by simp [queue, later], fun own => ?_, Or.inl⟩
      have is : held = req := by simpa [TxPc.current] using own
      simp [queue, is]
  | startTimer held stands _ effect =>
      rw [effect.rpcTxQ, effect.tx, effect.timer]
      refine ⟨id, fun own => ?_, fun running => ?_⟩
      · exact Or.inl (by simpa [stands, TxPc.current] using own)
      · by_cases same : req = held
        · simp [same, stands, TxPc.current]
        · exact Or.inl (by simpa [same] using running)
  | hook held part stands effect =>
      rw [effect.rpcTxQ, effect.tx, effect.timer]
      refine ⟨id, fun own => Or.inl ?_, Or.inl⟩
      generalize (hookStep info held before part).2 = next at own
      cases next <;> simpa [stands, TxPc.current] using own
  | register held _ stands _ _ effect | timerFails held stands _ effect | pack held stands _ effect
  | sendFails held stands _ effect | call held _ stands effect | queue held _ stands _ _ effect
  | post held _ _ stands _ _ effect =>
      rw [effect.rpcTxQ, effect.tx, effect.timer]
      exact ⟨id, fun own => Or.inl (by simpa [stands, TxPc.current] using own), Or.inl⟩

theorem unreachable_tx {fault : Option TxFault} (freed : Unreachable before)
    (move : TxMove info before after fault) (same : after.reqFreed = before.reqFreed) :
    Unreachable after := by
  intro req gone
  rw [same] at gone
  obtain ⟨done, absent, apart, still⟩ := freed req gone
  obtain ⟨member, held, running⟩ := tx_reach move req
  rw [(tx_pc move).1]
  refine ⟨done, mt member absent, fun now => ?_, fun now => ?_⟩
  · rcases held now with held | queued
    · exact apart held
    · exact absent queued
  · rcases running now with running | held
    · exact still running
    · exact apart held

/-- The pack of `process_rpc_tx_msg` finds the buffer in place. -/
theorem packed_tx (hooks : Hooks info before) (clean : ∀ req, before.packedFreed req = false)
    (life : TxLife info before after) (req : Fin reqs) : after.packedFreed req = false := by
  cases life with
  | hook _ _ _ _ _ packed | other _ _ _ packed =>
      rw [packed]
      exact clean req
  | pack held stands _ _ packed =>
      -- until it is packed nobody has freed the buffer
      have intact := ((hooks held).unpacked (Or.inr (by simp [stands, stageOf]))).1
      rw [packed]
      by_cases same : req = held
      · simp [same, clean, intact]
      · simp [same, clean]

theorem safe_tx {fault : Option TxFault} (queue : QueueInv info before) (safe : Safe info before)
    (allowed : HandsOff info before (.tx fault))
    (taken : step info before (.tx fault) = some after) : Safe info after := by
  cases step_move taken with
  | tx _ move =>
  have known : TxLife info before after ∧ after.reqFreed = before.reqFreed ∧
      ∀ req, after.touchedFreed req = false := by
    simp only [step] at taken
    cases held : before.tx.current with
    | none =>
        rw [held] at taken
        obtain ⟨freed, touched⟩ := tx_ghosts taken
        exact ⟨tx_life taken, freed, by rw [touched]; exact safe.untouched⟩
    | some req =>
        rw [held] at taken
        obtain ⟨freed, touched⟩ := tx_ghosts taken
        refine ⟨tx_life_touch (tx_life taken), freed, fun other => ?_⟩
        have alive : before.reqFreed req = false := by
          by_contra gone
          exact (safe.freed req (by simpa using gone)).2.2.1 held
        rw [touched]
        by_cases same : other = req
        · simp [Option.elim, State.touch, same, alive, safe.untouched req]
        · simp [Option.elim, State.touch, same, safe.untouched other]
  obtain ⟨life, freed, untouched⟩ := known
  exact ⟨hooks_tx queue safe.hooks allowed move life, unreachable_tx safe.freed move freed, untouched,
    packed_tx safe.hooks safe.packed life⟩

/-- The rx thread has no request in its hands. -/
structure MemoryKept (before after : State reqs syncSize asyncSize) : Prop where
  pc : after.pc = before.pc
  tx : after.tx = before.tx
  queue : after.rpcTxQ = before.rpcTxQ
  hdl : after.freeBuffHdl = before.freeBuffHdl
  calls : after.hookCalls = before.hookCalls
  freed : after.reqFreed = before.reqFreed
  packed : after.packedFreed = before.packedFreed
  timer : ∀ req, after.timer req = .running → before.timer req = .running

theorem rx_memory {queued : Bool} (taken : rxStep queued before = some after) :
    MemoryKept before after ∧ after.touchedFreed = before.touchedFreed := by
  have timer : ∀ req, after.timer req = .running → before.timer req = .running := by
    cases rxStep_move taken with
    | stopTimer _ _ effect =>
        rw [effect.timer]
        exact fun _ => timerStop_running
    | quiet _ _ effect | forgetTimer _ _ effect | call _ _ _ _ effect | clear _ _ effect
    | queue _ _ _ _ effect | drop _ _ effect | unmatched _ _ _ effect | post _ _ _ _ _ effect
    | unposted _ _ _ effect =>
        rw [effect.timer]
        exact fun _ => id
  unfold rxStep at taken
  split at taken
  case h_3 resp stands =>
    cases taken
    rw [timerStop_timer] at timer ⊢
    exact ⟨⟨rfl, rfl, rfl, rfl, rfl, rfl, rfl, timer⟩, rfl⟩
  case h_6 resp stands =>
    split at taken
    · cases taken
      rw [callback_calls] at timer ⊢
      exact ⟨⟨rfl, rfl, rfl, rfl, rfl, rfl, rfl, timer⟩, rfl⟩
    · cases taken
      exact ⟨⟨rfl, rfl, rfl, rfl, rfl, rfl, rfl, timer⟩, rfl⟩
  case h_10 resp stands =>
    split at taken
    · cases taken
      rw [post_sem] at timer ⊢
      exact ⟨⟨rfl, rfl, rfl, rfl, rfl, rfl, rfl, timer⟩, rfl⟩
    · cases taken
      exact ⟨⟨rfl, rfl, rfl, rfl, rfl, rfl, rfl, timer⟩, rfl⟩
  all_goals
    repeat' split at taken
    all_goals first
      | (cases taken; done)
      | (cases taken; exact ⟨⟨rfl, rfl, rfl, rfl, rfl, rfl, rfl, timer⟩, rfl⟩)

theorem safe_kept (safe : Safe info before) (kept : MemoryKept before after)
    (untouched : ∀ req, after.touchedFreed req = false) : Safe info after where
  hooks req := by
    rw [kept.pc, kept.tx, kept.queue, kept.hdl, kept.calls]
    exact safe.hooks req
  freed req gone := by
    rw [kept.freed] at gone
    obtain ⟨done, absent, apart, still⟩ := safe.freed req gone
    rw [kept.pc, kept.tx, kept.queue]
    exact ⟨done, absent, apart, mt (kept.timer req) still⟩
  untouched := untouched
  packed := by
    rw [kept.packed]
    exact safe.packed

theorem safe_step {act : Act reqs} (queue : QueueInv info before) (safe : Safe info before)
    (allowed : HandsOff info before act) (taken : step info before act = some after) :
    Safe info after := by
  cases act with
  | req req choice => exact safe_req queue safe allowed taken
  | tx fault => exact safe_tx queue safe allowed taken
  | rx queued =>
      obtain ⟨kept, touched⟩ := rx_memory taken
      exact safe_kept safe kept (by rw [touched]; exact safe.untouched)
  | receive msg =>
      simp only [step] at taken
      split at taken
      · cases taken
        exact safe_kept safe ⟨rfl, rfl, rfl, rfl, rfl, rfl, rfl, fun _ => id⟩ safe.untouched
      · cases taken
  | expire req alloc =>
      simp only [step, expireStep] at taken
      split at taken
      next running =>
        cases taken
        -- a running timer is that of a request that has not been freed
        have alive : before.reqFreed req = false := by
          by_contra gone
          exact (safe.freed req (by simpa using gone)).2.2.2 running
        have timers : ∀ other, Function.update before.timer req TimerSt.expired other = .running →
            before.timer other = .running := by
          intro other now
          by_cases same : other = req
          · simp [same] at now
          · simpa [same] using now
        have untouched : ∀ other, (before.touch req).touchedFreed other = false := by
          intro other
          by_cases same : other = req
          · simp [State.touch, same, alive, safe.untouched req]
          · simp [State.touch, same, safe.untouched other]
        cases alloc <;>
          exact safe_kept safe ⟨rfl, rfl, rfl, rfl, rfl, rfl, rfl, timers⟩ untouched
      · cases taken

theorem safe_run (run : Run (step info) (HandsOff info) (init info) after) : Safe info after := by
  refine run.invariant ⟨hooks_init, ?_, ?_, ?_⟩ ?_
  · intro req gone
    simp [init] at gone
  · simp [init]
  · simp [init]
  · intro before act after prior safe allowed taken
    exact safe_step (queueInv_run prior.forget) safe allowed taken

/-- The tx thread will not touch the request any more, or never gets it. -/
def Finished (state : State reqs syncSize asyncSize) (req : Fin reqs) : Prop :=
  state.pc req = .failed ∨
    (state.pc req).queued = true ∧ req ∉ state.rpcTxQ ∧ state.tx.current ≠ some req

structure LifetimeOk (info : Fin reqs → ReqInfo) (state : State reqs syncSize asyncSize) : Prop where
  untouched : ∀ req, (info req).rpcRspCb = false → state.touchedFreed req = false
  intact : ∀ req, req ∈ state.rpcTxQ ∨ stageOf req state.tx = .packing → state.hookCalls req = 0
  notBeforePack : ∀ req, state.packedFreed req = false
  atMostOnce : ∀ req, state.hookCalls req ≤ 1
  once : ∀ req, owned (info req) = true → Finished state req → state.hookCalls req = 1

/-- In every run in which the requesters keep their hands off a request that the tx
thread still needs, no freed request is touched, and every application buffer is
freed once and not before the request has been packed. -/
theorem request_lifetime (run : Run (step info) (HandsOff info) (init info) after) :
    LifetimeOk info after := by
  have safe := safe_run run
  constructor
  case untouched => exact fun req _ => safe.untouched req
  case intact => exact fun req place => ((safe.hooks req).unpacked place).1
  case notBeforePack => exact safe.packed
  case atMostOnce => exact fun req => (safe.hooks req).le_one
  case once =>
    rintro req own (failed | ⟨queued, absent, apart⟩)
    · exact (safe.hooks req).failed own (Or.inr failed)
    · have away : stageOf req after.tx = .away := by
        generalize after.tx = tx at apart
        cases tx <;> simp_all [TxPc.current, stageOf]
      exact (safe.hooks req).done own queued absent (Or.inl away)

instance handsOffDecidable (state : State reqs syncSize asyncSize) :
    (act : Act reqs) → Decidable (HandsOff info state act)
  | .req req _ => inferInstanceAs (Decidable (
      (frees (state.pc req) = true → req ∉ state.rpcTxQ ∧ state.tx.current ≠ some req) ∧
      (state.pc req = .freeHook .test →
        ((info req).appFreeBuffFunc && state.freeBuffHdl req) = true →
        req ∉ state.rpcTxQ ∧ stageOf req state.tx ≠ .packing ∧
          inside (txHook (stageOf req state.tx)) = false)))
  | .tx _ => inferInstanceAs (Decidable (∀ req, state.tx = .freeHook req .test →
      ((info req).appFreeBuffFunc && state.freeBuffHdl req) = true →
      inside (reqHook (state.pc req)) = false))
  | .receive _ | .rx _ | .expire _ _ => .isTrue trivial

/-- Synchronous requests with an application buffer. -/
def buffered : Fin reqs → ReqInfo := fun _ =>
  { msgId := 257, rpcRspCb := false, appFreeBuffFunc := true, appFreeBuffHdl := true }

/-- The tx thread is done before the requester goes on. -/
def unhurried : List (Act 1) :=
  go sole 9 ++ List.replicate 8 (.tx none) ++ go sole 3 ++ .receive ⟨513, 1, 0⟩ ::
    List.replicate 5 (.rx true) ++ go sole 4

theorem request_lifetime_one : ∃ state : State 1 1 1,
    (state.pc 0 = .returned (some ⟨513, 1, 0⟩) ∧ state.reqFreed 0 = true ∧ state.hookCalls 0 = 1) ∧
      LifetimeOk buffered state := by
  obtain ⟨state, run, done⟩ := admitted_reaches (step buffered) (HandsOff buffered) (init buffered)
    unhurried
    (fun state : State 1 1 1 => state.pc 0 = .returned (some ⟨513, 1, 0⟩) ∧
      state.reqFreed 0 = true ∧ state.hookCalls 0 = 1)
    (by decide) (by decide)
  exact ⟨state, done, request_lifetime run⟩

/-- A requester that times out before the tx thread gets to its request: the freed
request is composed and the freed buffer packed. Two threads in the macro at once:
the buffer is freed twice. -/
theorem request_lifetime_fails :
    (∃ state : State 1 1 1, Reachable buffered state ∧ state.touchedFreed 0 = true ∧
      state.packedFreed 0 = true ∧ ¬ LifetimeOk buffered state) ∧
    ∃ state : State 1 1 1, Reachable buffered state ∧ state.hookCalls 0 = 2 ∧
      ¬ LifetimeOk buffered state := by
  constructor
  · obtain ⟨state, run, touched, packed⟩ := exec_reaches (step buffered) (init buffered)
      (go 0 14 ++ [.req 0 .timeout] ++ go 0 2 ++ List.replicate 4 (.tx none))
      (fun state : State 1 1 1 => state.touchedFreed 0 = true ∧ state.packedFreed 0 = true)
      (by decide)
    refine ⟨state, run, touched, packed, fun sound => ?_⟩
    have clean := sound.untouched 0 rfl
    rw [touched] at clean
    cases clean
  · obtain ⟨state, run, twice⟩ := exec_reaches (step buffered) (init buffered)
      (go 0 9 ++ List.replicate 5 (.tx none) ++ go 0 1 ++ [.tx none] ++ go 0 1)
      (fun state : State 1 1 1 => state.hookCalls 0 = 2) (by decide)
    refine ⟨state, run, twice, fun sound => ?_⟩
    have once := sound.atMostOnce 0
    omega

end EspHosted.RequestLifetime

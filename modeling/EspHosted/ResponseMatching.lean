import EspHosted.SyncRspTable

/-!
Which response a synchronous requester gets. All responses share `rpc_rx_q` and a
requester takes whatever is at its head, so the match is a matter of order: as
long as only an awaited response is queued, nobody stops waiting for a queued
one, and requesters dequeue in the order in which they were woken, the queue
carries exactly the uids of the woken requests.
-/

namespace EspHosted.ResponseMatching
open RpcTables RpcCore GuardedRun SyncRspTable

variable {reqs syncSize asyncSize : Nat} {info : Fin reqs → ReqInfo}
variable {before after : State reqs syncSize asyncSize}

/-- A woken request: it has not taken the post yet, or it has and goes for the queue. -/
inductive Posted : ReqPc syncSize → SemSt → Prop where
  | waits {pc : ReqPc syncSize} (waits : pc.waits = true) : Posted pc (.live 1)
  | took (slot : Fin syncSize) : Posted (.clearSlot slot true) (.live 0)
  | dequeues (sem : SemSt) : Posted .dequeueRx sem

structure Unposted (pc : ReqPc syncSize) (sem : SemSt) : Prop where
  empty : pc.hasSem = true → sem = .live 0
  notTaken : ∀ slot, pc ≠ .clearSlot slot true
  notServed : pc ≠ .dequeueRx

structure MatchInv (info : Fin reqs → ReqInfo) (pc : Fin reqs → ReqPc syncSize)
    (reqUid : Fin reqs → UInt32) (sem : Fin reqs → SemSt) (table : SyncTable syncSize (Fin reqs))
    (queue : List CtrlCmd) (woken : List (Fin reqs)) (posting : Option CtrlCmd) : Prop where
  order : queue.map CtrlCmd.uid = woken.map reqUid ++ posting.toList.map CtrlCmd.uid
  nodup : woken.Nodup
  sync : ∀ req ∈ woken, (info req).rpcRspCb = false
  posted : ∀ req ∈ woken, Posted (pc req) (sem req)
  unposted : ∀ req, (info req).rpcRspCb = false → req ∉ woken → Unposted (pc req) (sem req)
  pending : ∀ resp, posting = some resp → respMsgIdValid resp.msgId = true ∧
    ∃ slot req, table slot = ⟨resp.uid, some req⟩ ∧ (pc req).waits = true ∧ req ∉ woken
  own : ∀ req resp, (pc req).answer = some resp → resp.uid = reqUid req

section Components
variable {pc : Fin reqs → ReqPc syncSize} {reqUid : Fin reqs → UInt32} {sem : Fin reqs → SemSt}
variable {table : SyncTable syncSize (Fin reqs)} {queue : List CtrlCmd} {woken : List (Fin reqs)}
variable {posting : Option CtrlCmd} {req : Fin reqs}

/-- The response a woken request waits for is in the queue. -/
theorem MatchInv.queued (inv : MatchInv info pc reqUid sem table queue woken posting)
    (member : req ∈ woken) : reqUid req ∈ queue.map CtrlCmd.uid := by
  rw [inv.order]
  exact List.mem_append_left _ (List.mem_map_of_mem member)

theorem MatchInv.posting_queued (inv : MatchInv info pc reqUid sem table queue woken posting)
    {resp : CtrlCmd} (here : posting = some resp) : resp.uid ∈ queue.map CtrlCmd.uid := by
  rw [inv.order, here]
  simp

/-- One request moves on, alone and in its own semaphore, and leaves the queue as it is. -/
theorem MatchInv.advance (inv : MatchInv info pc reqUid sem table queue woken posting)
    (next : ReqPc syncSize) (left : SemSt)
    (posted : req ∈ woken → Posted next left)
    (unposted : (info req).rpcRspCb = false → req ∉ woken → Unposted next left)
    (waits : ∀ slot uid, table slot = ⟨uid, some req⟩ → (pc req).waits = true → req ∉ woken →
      uid ∈ queue.map CtrlCmd.uid → next.waits = true)
    (own : ∀ resp, next.answer = some resp → resp.uid = reqUid req) :
    MatchInv info (Function.update pc req next) reqUid (Function.update sem req left) table queue
      woken posting where
  order := inv.order
  nodup := inv.nodup
  sync := inv.sync
  posted other member := by
    by_cases moved : other = req
    · subst other
      simpa using posted member
    · simpa [moved] using inv.posted other member
  unposted other sync absent := by
    by_cases moved : other = req
    · subst other
      simpa using unposted sync absent
    · simpa [moved] using inv.unposted other sync absent
  pending resp here := by
    obtain ⟨inside, slot, holder, held, waiting, absent⟩ := inv.pending resp here
    refine ⟨inside, slot, holder, held, ?_, absent⟩
    by_cases moved : holder = req
    · subst holder
      simpa using waits slot resp.uid held waiting absent (inv.posting_queued here)
    · simpa [moved] using waiting
  own other resp := by
    by_cases moved : other = req
    · subst other
      simpa using own resp
    · simpa [moved] using inv.own other resp

/-- Slots whose request is not waiting may change. -/
theorem MatchInv.store (inv : MatchInv info pc reqUid sem table queue woken posting)
    {stored : SyncTable syncSize (Fin reqs)}
    (kept : ∀ slot req, (table slot).sem = some req → (pc req).waits = true →
      stored slot = table slot) :
    MatchInv info pc reqUid sem stored queue woken posting :=
  { inv with
    pending := fun resp here => by
      obtain ⟨inside, slot, holder, held, waiting, absent⟩ := inv.pending resp here
      have same := kept slot holder (by rw [held]) waiting
      exact ⟨inside, slot, holder, same.trans held, waiting, absent⟩ }

theorem MatchInv.renumber (inv : MatchInv info pc reqUid sem table queue woken posting)
    (uid : UInt32) (absent : req ∉ woken) (unanswered : (pc req).answer = none) :
    MatchInv info pc (Function.update reqUid req uid) sem table queue woken posting :=
  { inv with
    order := by
      have same : woken.map (Function.update reqUid req uid) = woken.map reqUid := by
        apply List.map_congr_left
        intro other member
        have moved : other ≠ req := by
          rintro rfl
          exact absent member
        simp [moved]
      rw [same]
      exact inv.order
    own := fun other resp answer => by
      have moved : other ≠ req := by
        rintro rfl
        rw [unanswered] at answer
        cases answer
      simpa [moved] using inv.own other resp answer }

/-- The first of the woken requests takes the response at the head, which is its own. -/
theorem MatchInv.serve (inv : MatchInv info pc reqUid sem table queue woken posting)
    {resp : CtrlCmd} {rest : List CtrlCmd} (head : queue = resp :: rest)
    (first : woken.head? = some req) (stands : pc req = .dequeueRx) :
    MatchInv info (Function.update pc req (.freeReq (some resp))) reqUid sem table rest
      (woken.erase req) posting := by
  obtain ⟨later, rfl⟩ : ∃ later, woken = req :: later := by
    cases woken with
    | nil => simp at first
    | cons other later => exact ⟨later, by simp_all⟩
  subst head
  have order := inv.order
  simp only [List.map_cons, List.cons_append, List.cons.injEq] at order
  have apart : req ∉ later := (List.nodup_cons.mp inv.nodup).1
  have same : (req :: later).erase req = later := List.erase_cons_head _ _
  rw [same]
  constructor
  case order => exact order.2
  case nodup => exact (List.nodup_cons.mp inv.nodup).2
  case sync => exact fun other member => inv.sync other (List.mem_cons_of_mem _ member)
  case posted =>
    intro other member
    have moved : other ≠ req := by
      rintro rfl
      exact apart member
    simpa [moved] using inv.posted other (List.mem_cons_of_mem _ member)
  case unposted =>
    intro other sync absent
    by_cases moved : other = req
    · subst other
      exact ⟨by simp [ReqPc.hasSem, ReqPc.owns], by simp, by simp⟩
    · simpa [moved] using inv.unposted other sync (by simp [moved, absent])
  case pending =>
    intro found here
    obtain ⟨inside, slot, holder, held, waiting, absent⟩ := inv.pending found here
    have moved : holder ≠ req := by
      rintro rfl
      simp at absent
    exact ⟨inside, slot, holder, held, by simpa [moved] using waiting,
      fun member => absent (List.mem_cons_of_mem _ member)⟩
  case own =>
    intro other found
    by_cases moved : other = req
    · subst other
      intro answer
      have is : resp = found := by simpa [ReqPc.answer] using answer
      rw [← is, order.1]
    · simpa [moved] using inv.own other found

/-- An awaited response goes to the end of the queue. -/
theorem MatchInv.enqueue (inv : MatchInv info pc reqUid sem table queue woken none)
    {resp : CtrlCmd} {slot : Fin syncSize} (inside : respMsgIdValid resp.msgId = true)
    (held : table slot = ⟨resp.uid, some req⟩) (waits : (pc req).waits = true)
    (unposted : sem req = .live 0) :
    MatchInv info pc reqUid sem table (queue ++ [resp]) woken (some resp) :=
  { inv with
    order := by
      have order := inv.order
      simp at order
      simp [order]
    pending := fun found here => by
      cases here
      refine ⟨inside, slot, req, held, waits, fun member => ?_⟩
      have place := inv.posted req member
      rw [unposted] at place
      generalize pc req = here at place waits
      cases place <;> simp [ReqPc.waits] at waits }

/-- The post that follows wakes the request of the slot. -/
theorem MatchInv.deliver {resp : CtrlCmd} (sound : TableInv info pc reqUid sem table)
    (inv : MatchInv info pc reqUid sem table queue woken (some resp)) {slot : Fin syncSize}
    (held : table slot = ⟨resp.uid, some req⟩) (waits : (pc req).waits = true)
    (absent : req ∉ woken) :
    MatchInv info pc reqUid (Function.update sem req (.live 1)) table queue (woken ++ [req]) none := by
  obtain ⟨uid, sync, -⟩ := sound.owner slot req (by rw [held])
  rw [held] at uid
  constructor
  case order =>
    have order := inv.order
    simp at order uid
    simp [order, uid]
  case nodup =>
    refine List.nodup_append.mpr ⟨inv.nodup, by simp, ?_⟩
    rintro other member last new rfl
    have is : other = req := by simpa using new
    exact absent (is ▸ member)
  case sync =>
    intro other member
    rcases List.mem_append.mp member with old | new
    · exact inv.sync other old
    · have is : other = req := by simpa using new
      rw [is]
      exact sync
  case posted =>
    intro other member
    rcases List.mem_append.mp member with old | new
    · have moved : other ≠ req := by
        rintro rfl
        exact absent old
      simpa [moved] using inv.posted other old
    · have is : other = req := by simpa using new
      subst other
      simpa using Posted.waits waits
  case unposted =>
    intro other sync' apart
    have moved : other ≠ req := by
      rintro rfl
      simp at apart
    have outside : other ∉ woken := fun member => apart (List.mem_append_left _ member)
    simpa [moved] using inv.unposted other sync' outside
  case pending => simp
  case own => exact inv.own

theorem MatchInv.advance_pc (inv : MatchInv info pc reqUid sem table queue woken posting)
    (next : ReqPc syncSize)
    (posted : req ∈ woken → Posted next (sem req))
    (unposted : (info req).rpcRspCb = false → req ∉ woken → Unposted next (sem req))
    (waits : ∀ slot uid, table slot = ⟨uid, some req⟩ → (pc req).waits = true → req ∉ woken →
      uid ∈ queue.map CtrlCmd.uid → next.waits = true)
    (own : ∀ resp, next.answer = some resp → resp.uid = reqUid req) :
    MatchInv info (Function.update pc req next) reqUid sem table queue woken posting := by
  simpa using inv.advance next (sem req) posted unposted waits own

/-- A registered requester goes on waiting until its semaphore is taken or times out. -/
theorem quiet_waits (sound : TableInv info pc reqUid sem table) {next : ReqPc syncSize}
    (edge : Quiet (info req) table (reqUid req) (pc req) next) (waits : (pc req).waits = true) :
    next.waits = true := by
  have kind := sound.kind req
  generalize stands : pc req = here at edge kind waits
  cases edge
  case unawaited sync outside =>
    have inside := sound.mapped req sync (by simp [stands, ReqPc.hasSem, ReqPc.owns])
    omega
  case unregistered missing =>
    obtain ⟨slot, held⟩ := sound.owned req (kind rfl) (by simp [stands, ReqPc.owns])
    rw [sound.search held] at missing
    cases missing
  all_goals simp_all [ReqPc.waits]

theorem quiet_answer {info : ReqInfo} {uid : UInt32} {here next : ReqPc syncSize} {resp : CtrlCmd}
    (edge : Quiet info table uid here next) (answer : next.answer = some resp) :
    here.answer = some resp := by
  cases edge <;> simp_all [ReqPc.answer]

theorem quiet_posted {info : ReqInfo} {uid : UInt32} {here next : ReqPc syncSize} {left : SemSt}
    (edge : Quiet info table uid here next) (waits : here.waits = true → next.waits = true)
    (posted : Posted here left) : Posted next left := by
  cases posted with
  | waits waiting => exact .waits (waits waiting)
  | took slot => cases edge
  | dequeues => cases edge

theorem quiet_unposted {info : ReqInfo} {uid : UInt32} {here next : ReqPc syncSize} {left : SemSt}
    (edge : Quiet info table uid here next) (unposted : Unposted here left) : Unposted next left := by
  obtain ⟨empty, notTaken, notServed⟩ := unposted
  constructor
  · intro hasSem
    apply empty
    cases edge <;> simp_all [ReqPc.hasSem, ReqPc.owns]
  · rintro slot rfl
    cases edge
  · rintro rfl
    cases edge

end Components

/-- A registered request waits for the response and its semaphore is not posted. -/
def Awaited (state : State reqs syncSize asyncSize) (resp : CtrlCmd) : Prop :=
  respMsgIdValid resp.msgId = true ∧ ∃ slot owner,
    (state.syncRspTable slot).sem = some owner ∧ (state.syncRspTable slot).uid = resp.uid ∧
      (state.pc owner).waits = true ∧ state.sem owner = .live 0

/-- The tx thread is about to queue a made-up response. -/
def putsFailed : TxPc reqs → Bool
  | .failPut _ _ => true
  | _ => false

/-- The response that the rx thread is about to queue. -/
def putting : RxPc → Option CtrlCmd
  | .putRx resp => some resp
  | _ => none

/-- Only awaited responses are queued, a request whose response is in the queue does
not give up, and requests dequeue in the order in which they were woken. -/
def InOrder (info : Fin reqs → ReqInfo) (state : State reqs syncSize asyncSize) : Act reqs → Prop
  | .req req choice => match choice with
    | .go => state.pc req = .dequeueRx → state.woken.head? = some req
    | .timeout => state.reqUid req ∉ state.rpcRxQ.map CtrlCmd.uid
    | .putFails => (info req).rpcRspCb = false → state.reqUid req ∉ state.rpcRxQ.map CtrlCmd.uid
    | .semError => True
  | .tx fault => putsFailed state.tx = true → fault ≠ none
  | .rx queued => ∀ resp ∈ putting state.rx, queued = true → Awaited state resp
  | .receive _ | .expire _ _ => True

def Matching (info : Fin reqs → ReqInfo) (state : State reqs syncSize asyncSize) (act : Act reqs) :
    Prop :=
  FillsFree state act ∧ InOrder info state act

def Matched (info : Fin reqs → ReqInfo) (state : State reqs syncSize asyncSize) : Prop :=
  MatchInv info state.pc state.reqUid state.sem state.syncRspTable state.rpcRxQ state.woken
    state.rx.posting

/-- The invariant does not see what `Agrees` leaves open. -/
theorem matched_agrees {expected : State reqs syncSize asyncSize} (effect : Agrees after expected)
    (inv : Matched info expected) : Matched info after := by
  unfold Matched
  rw [effect.pc, effect.reqUid, effect.sem, effect.syncRspTable, effect.rpcRxQ, effect.woken,
    effect.rx]
  exact inv

theorem matched_init : Matched info (init info : State reqs syncSize asyncSize) := by
  constructor <;> simp [init, RxPc.posting, ReqPc.answer]
  intro req sync
  constructor <;> simp [ReqPc.hasSem, ReqPc.owns]

theorem posted_place {pc : ReqPc syncSize} {left : SemSt} (posted : Posted pc left) :
    pc.waits = true ∨ (∃ slot, pc = .clearSlot slot true) ∨ pc = .dequeueRx := by
  cases posted with
  | waits waiting => exact Or.inl waiting
  | took slot => exact Or.inr (Or.inl ⟨slot, rfl⟩)
  | dequeues => exact Or.inr (Or.inr rfl)

theorem posted_waits {pc next : ReqPc syncSize} {left : SemSt} (posted : Posted pc left)
    (here : pc.waits = true) (there : next.waits = true) : Posted next left := by
  cases posted with
  | waits => exact .waits there
  | took | dequeues => simp [ReqPc.waits] at here

/-- Before its slot is filled a request has not been woken. -/
theorem Matched.absent (inv : Matched info before) {req : Fin reqs}
    (waits : (before.pc req).waits = false) (notTaken : ∀ slot, before.pc req ≠ .clearSlot slot true)
    (notServed : before.pc req ≠ .dequeueRx) : req ∉ before.woken := by
  intro member
  rcases posted_place (inv.posted req member) with waiting | ⟨slot, taken⟩ | serving
  · rw [waits] at waiting
    cases waiting
  · exact notTaken slot taken
  · exact notServed serving

section Requester
variable {req : Fin reqs} {slot : Fin syncSize}

theorem matched_fill (inv : Matched info before) (unheld : (before.syncRspTable slot).sem = none)
    (stands : before.pc req = .fillSlot slot) :
    MatchInv info (Function.update before.pc req .putTx) before.reqUid before.sem
      (Function.update before.syncRspTable slot { uid := before.reqUid req, sem := some req })
      before.rpcRxQ before.woken before.rx.posting := by
  have absent : req ∉ before.woken :=
    inv.absent (by simp [stands, ReqPc.waits]) (by simp [stands]) (by simp [stands])
  have stored : MatchInv info before.pc before.reqUid before.sem
      (Function.update before.syncRspTable slot { uid := before.reqUid req, sem := some req })
      before.rpcRxQ before.woken before.rx.posting := by
    apply inv.store
    intro other holder held _
    have apart : other ≠ slot := by
      rintro rfl
      rw [unheld] at held
      cases held
    simp [apart]
  apply stored.advance_pc
  · exact fun member => absurd member absent
  · intro sync _
    have left := (inv.unposted req sync absent).empty (by simp [stands, ReqPc.hasSem])
    exact ⟨fun _ => left, by simp, by simp⟩
  · simp [stands, ReqPc.waits]
  · simp [ReqPc.answer]

/-- A count to take means that a post has been made, and only one. -/
theorem matched_take {count : Nat} (sound : Holds info before) (inv : Matched info before)
    (held : (before.syncRspTable slot).sem = some req) (stands : before.pc req = .takeSem slot)
    (posted : before.sem req = .live (count + 1)) :
    MatchInv info (Function.update before.pc req (.clearSlot slot true)) before.reqUid
      (Function.update before.sem req (.live count)) before.syncRspTable before.rpcRxQ before.woken
      before.rx.posting := by
  have sync := (sound.owner slot req held).2.1
  have member : req ∈ before.woken := by
    by_contra absent
    have left := (inv.unposted req sync absent).empty (by simp [stands, ReqPc.hasSem, ReqPc.owns])
    rw [posted] at left
    cases left
  have once : count = 0 := by
    have place := inv.posted req member
    rw [posted, stands] at place
    cases place
    rfl
  subst once
  apply inv.advance
  · exact fun _ => .took slot
  · exact fun _ absent => absurd member absent
  · exact fun _ _ _ _ absent => absurd member absent
  · simp [ReqPc.answer]

/-- A requester whose response is not queued may give up. -/
theorem matched_giveUp (sound : Holds info before) (inv : Matched info before)
    (stands : before.pc req = .takeSem slot)
    (unqueued : before.reqUid req ∉ before.rpcRxQ.map CtrlCmd.uid) :
    MatchInv info (Function.update before.pc req (.clearSlot slot false)) before.reqUid before.sem
      before.syncRspTable before.rpcRxQ before.woken before.rx.posting := by
  have absent : req ∉ before.woken := fun member => unqueued (inv.queued member)
  apply inv.advance_pc
  · exact fun member => absurd member absent
  · intro sync _
    have left := (inv.unposted req sync absent).empty (by simp [stands, ReqPc.hasSem, ReqPc.owns])
    exact ⟨fun _ => left, by simp, by simp⟩
  · intro place uid stored _ _ queued
    obtain ⟨own, -⟩ := sound.owner place req (by rw [stored])
    rw [stored] at own
    exact absurd (own ▸ queued) unqueued
  · simp [ReqPc.answer]

/-- The semaphore is destroyed and the slot is emptied, whether or not it was taken. -/
theorem matched_clear {taken : Bool} {left : SemSt} (sync : (info req).rpcRspCb = false)
    (inv : Matched info before) (held : (before.syncRspTable slot).sem = some req)
    (stands : before.pc req = .clearSlot slot taken) :
    MatchInv info
      (Function.update before.pc req (if taken then .dequeueRx else .freeReq none)) before.reqUid
      (Function.update before.sem req left)
      (Function.update before.syncRspTable slot { uid := 0, sem := none })
      before.rpcRxQ before.woken before.rx.posting := by
  have stored : MatchInv info before.pc before.reqUid before.sem
      (Function.update before.syncRspTable slot { uid := 0, sem := none })
      before.rpcRxQ before.woken before.rx.posting := by
    apply inv.store
    intro other holder also waiting
    have apart : other ≠ slot := by
      rintro rfl
      rw [held] at also
      cases also
      simp [stands, ReqPc.waits] at waiting
    simp [apart]
  apply stored.advance
  · intro member
    have place := inv.posted req member
    rw [stands] at place
    generalize before.sem req = here at place
    cases place with
    | waits waiting => simp [ReqPc.waits] at waiting
    | took => exact .dequeues left
  · intro _ absent
    cases taken with
    | true => exact absurd stands ((inv.unposted req sync absent).notTaken slot)
    | false => exact ⟨by simp [ReqPc.hasSem, ReqPc.owns], by simp, by simp⟩
  · simp [stands, ReqPc.waits]
  · cases taken <;> simp [ReqPc.answer]

end Requester

theorem matched_req {req : Fin reqs} {choice : ReqChoice} (sound : Holds info before)
    (inv : Matched info before) (filled : FillsFree before (.req req choice))
    (ordered : InOrder info before (.req req choice))
    (move : ReqMove info req before after choice) : Matched info after := by
  cases move with
  | quiet next edge effect =>
      refine matched_agrees effect ?_
      have waits := quiet_waits sound edge
      exact inv.advance_pc next (fun member => quiet_posted edge waits (inv.posted req member))
        (fun sync absent => quiet_unposted edge (inv.unposted req sync absent))
        (fun _ _ _ waiting _ _ => waits waiting)
        (fun resp answer => inv.own req resp (quiet_answer edge answer))
  | putFails stands failing effect =>
      refine matched_agrees effect ?_
      subst failing
      have absent : req ∉ before.woken :=
        fun member => ordered (inv.sync req member) (inv.queued member)
      apply inv.advance_pc .failReq
      · exact fun member => absurd member absent
      · exact fun _ _ => ⟨by simp [ReqPc.hasSem, ReqPc.owns], by simp, by simp⟩
      · intro slot uid held _ _ queued
        obtain ⟨same, sync, -⟩ := sound.owner slot req (by rw [held])
        rw [held] at same
        simp only at same
        exact absurd (same ▸ queued) (ordered sync)
      · simp [ReqPc.answer]
  | put stands effect =>
      refine matched_agrees effect ?_
      have waits : (before.pc req).waits = true := by simp [stands, ReqPc.waits]
      apply inv.advance_pc .indTx
      · exact fun member => posted_waits (inv.posted req member) waits rfl
      · intro sync absent
        have empty := (inv.unposted req sync absent).empty (by simp [stands, ReqPc.hasSem, ReqPc.owns])
        exact ⟨fun _ => empty, by simp, by simp⟩
      · simp [ReqPc.waits]
      · simp [ReqPc.answer]
  | copyUid stands effect =>
      refine matched_agrees effect ?_
      have absent : req ∉ before.woken :=
        inv.absent (by simp [stands, ReqPc.waits]) (by simp [stands]) (by simp [stands])
      have numbered := inv.renumber before.uid absent (by simp [stands, ReqPc.answer])
      apply numbered.advance_pc
      · exact fun member => absurd member absent
      · intro sync _
        rw [if_neg (by simp [sync])]
        exact ⟨by simp [ReqPc.hasSem, ReqPc.owns], by simp, by simp⟩
      · simp [stands, ReqPc.waits]
      · cases (info req).rpcRspCb <;> simp [ReqPc.answer]
  | createSem stands mapped effect =>
      refine matched_agrees effect ?_
      have absent : req ∉ before.woken :=
        inv.absent (by simp [stands, ReqPc.waits]) (by simp [stands]) (by simp [stands])
      apply inv.advance
      · exact fun member => absurd member absent
      · exact fun _ _ => ⟨fun _ => rfl, by simp, by simp⟩
      · simp [stands, ReqPc.waits]
      · simp [ReqPc.answer]
  | fill slot stands effect =>
      refine matched_agrees effect ?_
      obtain ⟨empty, -, -⟩ := filled slot stands
      exact matched_fill inv ((sound.free slot).mp empty) stands
  | take slot owner count stands handle posted effect =>
      refine matched_agrees effect ?_
      have held := sound.claimed req slot (by simp [stands, ReqPc.claims])
      have same : owner = req := by simpa [handle] using held
      subst owner
      exact matched_take sound inv held stands posted
  | giveUp slot stands reason effect =>
      refine matched_agrees effect ?_
      have held := sound.claimed req slot (by simp [stands, ReqPc.claims])
      obtain ⟨same, sync, -⟩ := sound.owner slot req held
      obtain ⟨live, lives⟩ := sound.alive sync (by simp [stands, ReqPc.hasSem, ReqPc.owns])
      -- by the order of the run a timeout does not abandon a queued response
      rcases reason with ⟨rfl, owner, handle, empty⟩ | dead
      · exact matched_giveUp sound inv stands ordered
      · exact absurd lives (dead req held live)
  | clear slot taken stands effect =>
      refine matched_agrees effect ?_
      have held := sound.claimed req slot (by simp [stands, ReqPc.claims])
      have sync := (sound.owner slot req held).2.1
      obtain ⟨left, destroyed⟩ := destroy_own before req
      have cleared := @matched_clear _ _ _ _ _ _ _ taken left sync inv held stands
      rw [← destroyed, ← held] at cleared
      exact cleared
  | dequeue resp rest stands going queue effect =>
      subst going
      refine matched_agrees effect ?_
      exact inv.serve queue (ordered stands) stands
  | abandon stands effect =>
      refine matched_agrees effect ?_
      obtain ⟨left, destroyed⟩ := destroy_own before req
      have absent : req ∉ before.woken :=
        inv.absent (by simp [stands, ReqPc.waits]) (by simp [stands]) (by simp [stands])
      show MatchInv info (Function.update before.pc req (.failHook .test)) before.reqUid
        (before.destroy (some req)).sem before.syncRspTable before.rpcRxQ before.woken
        before.rx.posting
      rw [destroyed]
      apply inv.advance
      · exact fun member => absurd member absent
      · exact fun _ _ => ⟨by simp [ReqPc.hasSem, ReqPc.owns], by simp, by simp⟩
      · simp [stands, ReqPc.waits]
      · simp [ReqPc.answer]

/-- No made-up response has got past its put. -/
def unfailed : TxPc reqs → Bool
  | .failTest _ _ | .failPost _ _ => false
  | _ => true

theorem matched_tx {fault : Option TxFault} (inv : Matched info before)
    (clean : unfailed before.tx = true) (ordered : InOrder info before (.tx fault))
    (move : TxMove info before after fault) : Matched info after ∧ unfailed after.tx = true := by
  cases move with
  | queue req resp stands sound room effect =>
      exact absurd sound (ordered (by simp [stands, putsFailed]))
  | post req resp slot stands inside found effect => simp [stands, unfailed] at clean
  | quiet next edge effect =>
      refine ⟨matched_agrees effect inv, ?_⟩
      rw [effect.tx]
      generalize before.tx = here at edge clean
      cases edge <;> simp_all [unfailed]
  | hook req part stands effect =>
      refine ⟨matched_agrees effect inv, ?_⟩
      rw [effect.tx]
      cases (hookStep info req before part).2 <;> rfl
  | pop _ _ _ _ effect | register _ _ _ _ _ effect | startTimer _ _ _ effect
  | timerFails _ _ _ effect | pack _ _ _ effect | sendFails _ _ _ effect | call _ _ _ effect =>
      exact ⟨matched_agrees effect inv, by rw [effect.tx]; rfl⟩

theorem post_awaited (state : State reqs syncSize asyncSize) {req : Fin reqs}
    (unposted : state.sem req = .live 0) :
    (state.post (some req)).sem = Function.update state.sem req (.live 1) ∧
      (state.post (some req)).woken = state.woken ++ [req] := by
  simp [State.post, unposted]

theorem matched_rx {queued : Bool} (sound : Holds info before) (inv : Matched info before)
    (ordered : InOrder info before (.rx queued)) (move : RxMove before after queued) :
    Matched info after := by
  cases move with
  | quiet next edge effect =>
      refine matched_agrees effect ?_
      have same : next.posting = before.rx.posting := by
        generalize before.rx = here at edge
        cases edge <;> rfl
      show MatchInv info before.pc before.reqUid before.sem before.syncRspTable before.rpcRxQ
        before.woken next.posting
      rw [same]
      exact inv
  | queue resp stands fine room effect =>
      refine matched_agrees effect ?_
      have idle : before.rx.posting = none := by simp [stands, RxPc.posting]
      have put : resp ∈ putting before.rx := by simp [stands, putting]
      obtain ⟨inside, slot, owner, handle, uid, waits, unposted⟩ := ordered resp put fine
      unfold Matched at inv
      rw [idle] at inv
      have held : before.syncRspTable slot = ⟨resp.uid, some owner⟩ := by rw [← handle, ← uid]
      exact inv.enqueue inside held waits unposted
  | post resp slot stands inside found effect =>
      refine matched_agrees effect ?_
      have here : before.rx.posting = some resp := by simp [stands, RxPc.posting]
      obtain ⟨-, place, owner, held, waits, absent⟩ := inv.pending resp here
      unfold Matched at inv
      rw [here] at inv
      -- uids are unique in the table, so the search meets the slot of the awaited request
      have uids : (before.syncRspTable place).uid = (before.syncRspTable slot).uid := by
        rw [held, syncSlotOf_uid found]
      have same := sound.distinct place slot uids (sound.nonzero (by rw [held]))
      subst place
      obtain ⟨-, sync, -⟩ := sound.owner slot owner (by rw [held])
      have hasSem : (before.pc owner).hasSem = true := by
        generalize before.pc owner = here at waits
        cases here <;> simp_all [ReqPc.waits, ReqPc.hasSem, ReqPc.owns]
      have unposted := (inv.unposted owner sync absent).empty hasSem
      obtain ⟨sems, wakes⟩ := post_awaited before unposted
      have handle : (before.syncRspTable slot).sem = some owner := by rw [held]
      show MatchInv info before.pc before.reqUid (before.post (before.syncRspTable slot).sem).sem
        before.syncRspTable before.rpcRxQ (before.post (before.syncRspTable slot).sem).woken none
      rw [handle, sems, wakes]
      exact MatchInv.deliver sound inv held waits absent
  | unmatched resp stands missing effect =>
      obtain ⟨-, slot, owner, held, -⟩ := inv.pending resp (by simp [stands, RxPc.posting])
      exact absurd (by rw [held]) (syncSlotOf_none.mp missing slot)
  | unposted resp stands refused effect =>
      obtain ⟨inside, slot, owner, held, -⟩ := inv.pending resp (by simp [stands, RxPc.posting])
      rcases refused with outside | missing
      · rw [inside] at outside
        cases outside
      · exact absurd (by rw [held]) (syncSlotOf_none.mp missing slot)
  | stopTimer resp stands effect | forgetTimer resp stands effect | call resp _ stands _ effect
  | clear resp stands effect | drop resp stands effect =>
      refine matched_agrees effect ?_
      have idle : before.rx.posting = none := by simp [stands, RxPc.posting]
      unfold Matched at inv
      rw [idle] at inv
      exact inv

theorem matched_step {act : Act reqs} (sound : Holds info before) (inv : Matched info before)
    (clean : unfailed before.tx = true) (filled : FillsFree before act)
    (ordered : InOrder info before act) (move : Move info before after act) :
    Matched info after ∧ unfailed after.tx = true := by
  cases move with
  | req req choice move =>
      refine ⟨matched_req sound inv filled ordered move, ?_⟩
      rw [(req_tx_rx move).1]
      exact clean
  | tx fault move => exact matched_tx inv clean ordered move
  | rx queued move =>
      refine ⟨matched_rx sound inv ordered move, ?_⟩
      rw [rx_tx move]
      exact clean
  | receive msg stands effect =>
      refine ⟨matched_agrees effect ?_, by rw [effect.tx]; exact clean⟩
      unfold Matched at inv
      rw [stands] at inv
      exact inv
  | expire req alloc stands effect =>
      exact ⟨matched_agrees effect inv, by rw [effect.tx]; exact clean⟩

/-- The invariant of a matching run. -/
def Serving (info : Fin reqs → ReqInfo) (state : State reqs syncSize asyncSize) : Prop :=
  Matched info state ∧ unfailed state.tx = true

theorem serving_run (run : Run (step info) (Matching info) (init info) after) : Serving info after := by
  refine run.invariant ⟨matched_init, rfl⟩ ?_
  intro before act after prior inv allowed taken
  have sound := holds_run (prior.weaken fun _ _ allowed => allowed.1)
  exact matched_step sound inv.1 inv.2 allowed.1 allowed.2 (step_move taken)

def AnswersMatch (state : State reqs syncSize asyncSize) : Prop :=
  ∀ req resp, state.pc req = .returned (some resp) → resp.uid = state.reqUid req

/-- In every matching run, what `rpc_wait_and_parse_sync_resp` returns carries the
uid of the request it was called for. -/
theorem response_matches_request (run : Run (step info) (Matching info) (init info) after) :
    AnswersMatch after := by
  intro req resp returned
  exact (serving_run run).1.own req resp (by simp [returned, ReqPc.answer])

/-- Each element of `rpc_rx_q` has a woken request of its own, but for the last one
while the rx thread goes for its semaphore. -/
structure NoOrphan (info : Fin reqs → ReqInfo) (state : State reqs syncSize asyncSize) : Prop where
  owned : ∀ (index : Nat) resp, state.rpcRxQ[index]? = some resp →
    (∃ req, state.woken[index]? = some req ∧ (info req).rpcRspCb = false ∧
      state.reqUid req = resp.uid ∧ Posted (state.pc req) (state.sem req)) ∨
    ∃ posting, state.rx.posting = some posting ∧ posting.uid = resp.uid
  apart : state.woken.Nodup
  full : state.rpcRxQ.length = rpcRxQueueSize →
    ∃ req, (info req).rpcRspCb = false ∧ Posted (state.pc req) (state.sem req)

/-- In every matching run no response is orphaned, so the queue is never full while
nobody waits. -/
theorem response_queue_owned (run : Run (step info) (Matching info) (init info) after) :
    NoOrphan info after := by
  have inv := (serving_run run).1
  constructor
  case owned =>
    intro index resp here
    have uid : (after.rpcRxQ.map CtrlCmd.uid)[index]? = some resp.uid := by simp [here]
    rw [inv.order] at uid
    -- the queue is as long as `woken`, or longer by the response being posted
    by_cases inside : index < after.woken.length
    · rw [List.getElem?_append_left (by simpa using inside)] at uid
      have at_index : after.woken[index]? = some after.woken[index] := List.getElem?_eq_getElem inside
      have member : after.woken[index] ∈ after.woken := List.getElem_mem inside
      refine Or.inl ⟨after.woken[index], at_index, inv.sync _ member, ?_, inv.posted _ member⟩
      simpa [at_index] using uid
    · rw [List.getElem?_append_right (by simpa using inside)] at uid
      cases posting : after.rx.posting with
      | none => simp [posting] at uid
      | some found =>
          refine Or.inr ⟨found, rfl, ?_⟩
          rw [posting] at uid
          have member := List.mem_of_getElem? uid
          have same : resp.uid = found.uid := by simpa using member
          exact same.symm
  case apart => exact inv.nodup
  case full =>
    intro full
    have lengths := congrArg List.length inv.order
    simp only [List.length_map, List.length_append] at lengths
    cases woken : after.woken with
    | nil =>
        rw [woken, full] at lengths
        cases posting : after.rx.posting <;> simp [posting, rpcRxQueueSize] at lengths
    | cons req later =>
        have member : req ∈ after.woken := by simp [woken]
        exact ⟨req, inv.sync req member, inv.posted req member⟩

instance awaitedDecidable (state : State reqs syncSize asyncSize) (resp : CtrlCmd) :
    Decidable (Awaited state resp) :=
  inferInstanceAs (Decidable (respMsgIdValid resp.msgId = true ∧ ∃ slot owner,
    (state.syncRspTable slot).sem = some owner ∧ (state.syncRspTable slot).uid = resp.uid ∧
      (state.pc owner).waits = true ∧ state.sem owner = .live 0))

instance inOrderDecidable (state : State reqs syncSize asyncSize) :
    (act : Act reqs) → Decidable (InOrder info state act)
  | .req req choice => match choice with
    | .go => inferInstanceAs (Decidable (state.pc req = .dequeueRx → state.woken.head? = some req))
    | .timeout => inferInstanceAs (Decidable (state.reqUid req ∉ state.rpcRxQ.map CtrlCmd.uid))
    | .putFails => inferInstanceAs (Decidable ((info req).rpcRspCb = false →
        state.reqUid req ∉ state.rpcRxQ.map CtrlCmd.uid))
    | .semError => .isTrue trivial
  | .tx fault => inferInstanceAs (Decidable (putsFailed state.tx = true → fault ≠ none))
  | .rx queued => inferInstanceAs (Decidable
      (∀ resp ∈ putting state.rx, queued = true → Awaited state resp))
  | .receive _ | .expire _ _ => .isTrue trivial

instance matchingDecidable (state : State reqs syncSize asyncSize) (act : Act reqs) :
    Decidable (Matching info state act) :=
  inferInstanceAs (Decidable (FillsFree state act ∧ InOrder info state act))

/-- A response comes in and is told to its requester. -/
def told (reqs : Nat) (uid : UInt32) : List (Act reqs) :=
  .receive ⟨513, uid, 0⟩ :: List.replicate 5 (.rx true)

/-- Two requests wait at once and are answered in turn. -/
def answered : List (Act 2) :=
  go former 12 ++ go latter 12 ++ told 2 2 ++ told 2 1 ++ go latter 4 ++ go former 4

theorem response_matches_request_two : ∃ state : State 2 2 1,
    (state.pc 0 = .returned (some ⟨513, 1, 0⟩) ∧ state.pc 1 = .returned (some ⟨513, 2, 0⟩)) ∧
      AnswersMatch state := by
  obtain ⟨state, run, both⟩ := admitted_reaches (step plain) (Matching plain) (init plain) answered
    (fun state : State 2 2 1 =>
      state.pc 0 = .returned (some ⟨513, 1, 0⟩) ∧ state.pc 1 = .returned (some ⟨513, 2, 0⟩))
    (by decide) (by decide)
  exact ⟨state, both, response_matches_request run⟩

/-- A late response: the first requester has timed out when it comes, and the second
gets it. Nor does it help that all are on time: the later of two requesters may
dequeue first. -/
theorem response_mismatched :
    (∃ state : State 2 2 1, Reachable plain state ∧ state.pc 0 = .returned none ∧
      state.pc 1 = .returned (some ⟨513, 1, 0⟩) ∧ ¬ AnswersMatch state) ∧
      ∃ state : State 2 2 1, Reachable plain state ∧ state.sem 0 = .live 1 ∧
        state.pc 1 = .returned (some ⟨513, 1, 0⟩) ∧ ¬ AnswersMatch state := by
  constructor
  · obtain ⟨state, run, given_up, returned, uid⟩ := exec_reaches (step plain) (init plain)
      (go 0 12 ++ [.req 0 .timeout] ++ go 0 2 ++ .receive ⟨513, 1, 0⟩ :: List.replicate 4 (.rx true) ++
        go 1 12 ++ told 2 2 ++ go 1 4)
      (fun state : State 2 2 1 => state.pc 0 = .returned none ∧
        state.pc 1 = .returned (some ⟨513, 1, 0⟩) ∧ state.reqUid 1 = 2)
      (by decide)
    refine ⟨state, run, given_up, returned, fun all => ?_⟩
    have same := all 1 _ returned
    rw [uid] at same
    exact absurd same (by decide)
  · obtain ⟨state, run, waiting, returned, uid⟩ := exec_reaches (step plain) (init plain)
      (go 0 12 ++ go 1 12 ++ told 2 1 ++ told 2 2 ++ go 1 4)
      (fun state : State 2 2 1 => state.sem 0 = .live 1 ∧
        state.pc 1 = .returned (some ⟨513, 1, 0⟩) ∧ state.reqUid 1 = 2)
      (by decide)
    refine ⟨state, run, waiting, returned, fun all => ?_⟩
    have same := all 1 _ returned
    rw [uid] at same
    exact absurd same (by decide)

/-- Two responses are queued and both requesters have been woken. -/
theorem response_queue_owned_two : ∃ state : State 2 2 1,
    state.rpcRxQ.length = 2 ∧ NoOrphan plain state := by
  obtain ⟨state, run, two⟩ := admitted_reaches (step plain) (Matching plain) (init plain)
    (go 0 12 ++ go 1 12 ++ told 2 2 ++ told 2 1) (fun state : State 2 2 1 => state.rpcRxQ.length = 2)
    (by decide) (by decide)
  exact ⟨state, two, response_queue_owned run⟩

/-- Three responses of an unknown uid fill the queue although nobody has sent a
request; the put of the fourth blocks the rx thread for ever. -/
theorem response_queue_orphaned : ∃ state : State 1 1 1, Reachable plain state ∧
    state.pc 0 = .start ∧ step plain state (.rx true) = none ∧ ¬ NoOrphan plain state := by
  obtain ⟨state, run, start, blocked, full⟩ := exec_reaches (step plain) (init plain)
    ((List.replicate 3 (.receive ⟨513, 9, 0⟩ :: List.replicate 4 (.rx true))).flatten ++
      .receive ⟨513, 9, 0⟩ :: List.replicate 2 (.rx true))
    (fun state : State 1 1 1 => state.pc 0 = .start ∧ (step plain state (.rx true)).isNone = true ∧
      state.rpcRxQ.length = rpcRxQueueSize)
    (by decide)
  refine ⟨state, run, start, by simpa using blocked, fun sound => ?_⟩
  obtain ⟨req, -, posted⟩ := sound.full full
  have only : req = 0 := Subsingleton.elim req 0
  rw [only, start] at posted
  rcases posted_place posted with waiting | ⟨slot, taken⟩ | serving
  · simp [ReqPc.waits] at waiting
  · cases taken
  · cases serving

end EspHosted.ResponseMatching

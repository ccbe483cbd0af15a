import EspHosted.ResourceTrace
import EspHosted.SerialFragments
import EspHosted.SlaveScheduler

/-!
The buffers on their way to the host on the slave, app_main.c and slave_bt.c. The Wi-Fi driver
hands a buffer to `wlan_sta_rx_callback` or `wlan_ap_rx_callback`, `host_rcv_pkt` makes a copy,
and `serial_write_data` queues a message piece by piece, of which only the last one names the
buffer to free. `process_tx_pkt` frees what a handle names, whether it was written or not.
-/

namespace EspHosted.SlaveTxBuffers
open SlaveFrames QueueBank GuardedRun ResourceTrace
open SlaveScheduler (Config inHand)

/-- A handle as `send_to_host_queue` gets it: the buffer `payload` lies in, and whether
`priv_buffer_handle` and `free_buf_handle` are set. -/
structure Handle where
  block : Nat
  frees : Bool
  deriving DecidableEq

/-- Buffers are numbered as they come; `next` is the number of the next one. -/
structure State where
  scheduler : SlaveScheduler.State Handle
  datapath : Bool
  /-- The pieces that `serial_write_data` has still to queue. -/
  writing : List Handle
  next : Nat
  trace : List (Nat × Use)

def init : State where
  scheduler := SlaveScheduler.init
  datapath := false
  writing := []
  next := 0
  trace := []

inductive Act where
  /-- `event_handler`. -/
  | datapath (opens : Bool)
  /-- Which of its two pointers are not NULL. -/
  | wlanRx (buffer eb : Bool)
  | hostRcvPkt (found : Bool)
  | serialWriteData (data : List UInt8)
  | piece
  | sendItem (index : Nat)
  | sendToken (index : Nat)
  | look
  | go

/-- A call of `send_to_host_queue`. -/
def sendToHostQueue (scheduler : SlaveScheduler.State Handle) (queueType : Prio) (handle : Handle) :
    SlaveScheduler.State Handle :=
  { scheduler with sending := scheduler.sending ++ [(queueType, handle)] }

/-- `wlan_sta_rx_callback` and `wlan_ap_rx_callback`. -/
def wlanRxStep (state : State) (buffer eb : Bool) : State :=
  if !eb then state
  else if !buffer || !state.datapath then
    { state with
      trace := state.trace ++ [(state.next, .take)] ++ [(state.next, .giveBack)]
      next := state.next + 1 }
  else
    { state with
      scheduler := sendToHostQueue state.scheduler .others ⟨state.next, true⟩
      trace := state.trace ++ [(state.next, .take)]
      next := state.next + 1 }

/-- `found` is whether there is memory for the copy. -/
def hostRcvPktStep (state : State) (found : Bool) : State :=
  if !found then state
  else
    { state with
      scheduler := sendToHostQueue state.scheduler .bt ⟨state.next, true⟩
      trace := state.trace ++ [(state.next, .take)] ++ [(state.next, .access)]
      next := state.next + 1 }

def serialItem (call : Prio × Handle) : Bool := call.1 = .serial

/-- The call for the piece before has not returned. -/
def sendingPiece (scheduler : SlaveScheduler.State Handle) : Bool :=
  scheduler.sending.any serialItem || scheduler.announcing.contains .serial

def handles (block : Nat) (pieces : List SerialFragments.Piece) : List Handle :=
  pieces.map fun piece => ⟨block, piece.last⟩

/-- The one task that calls `serial_write_data` hands it a buffer of `compose_tlv`. -/
def serialWriteDataStep (state : State) (data : List UInt8) : Option State :=
  if state.writing ≠ [] ∨ sendingPiece state.scheduler then none
  else
    some
      { state with
        writing := handles state.next (SerialFragments.pieces data)
        trace := state.trace ++ [(state.next, .take)] ++ [(state.next, .access)]
        next := state.next + 1 }

def pieceStep (state : State) : Option State :=
  match state.writing with
  | [] => none
  | handle :: rest =>
      if sendingPiece state.scheduler then none
      else
        some
          { state with
            scheduler := sendToHostQueue state.scheduler .serial handle
            writing := rest }

/-- What `process_tx_pkt` does with the buffer of a handle. -/
def processTxPkt (datapath : Bool) (handle : Handle) : List (Nat × Use) :=
  (if datapath then [(handle.block, .access)] else []) ++
    if handle.frees then [(handle.block, .giveBack)] else []

def goUses (datapath : Bool) : SlaveScheduler.Pc Handle → List (Nat × Use)
  | .processTxPkt _ handle => processTxPkt datapath handle
  | .lookDatapath | .receiveType | .receiveItem _ => []

def schedule (config : Config) (state : State) (act : SlaveScheduler.Act Handle)
    (uses : List (Nat × Use)) : Option State :=
  (SlaveScheduler.step config state.scheduler act).map fun scheduler =>
    { state with scheduler := scheduler, trace := state.trace ++ uses }

def step (config : Config) (state : State) : Act → Option State
  | .datapath opens => some { state with datapath := opens }
  | .wlanRx buffer eb => some (wlanRxStep state buffer eb)
  | .hostRcvPkt found => some (hostRcvPktStep state found)
  | .serialWriteData data => serialWriteDataStep state data
  | .piece => pieceStep state
  | .sendItem index => schedule config state (.sendItem index) []
  | .sendToken index => schedule config state (.sendToken index) []
  | .look => schedule config state (.look state.datapath) []
  | .go => schedule config state .go (goUses state.datapath state.scheduler.pc)

/-- The handles of a class on their way, those of a serial message in the order they go. -/
def line (state : State) (prio : Prio) : List Handle :=
  inHand state.scheduler.pc prio ++ state.scheduler.toHost prio ++
    (atLevel Prod.fst prio state.scheduler.sending).map Prod.snd ++
    if prio = .serial then state.writing else []

/-- No buffer is read or freed when it has been freed, and each one is freed that no handle frees
any more; no handle on its way points to a freed buffer. -/
structure Settled (state : State) : Prop where
  lawful : ∀ id, ∃ phase, phaseOf id state.trace = some phase
  once : ∀ id, state.trace.count (id, .giveBack) ≤ 1
  live : ∀ prio, ∀ handle ∈ line state prio, (handle.block, Use.giveBack) ∉ state.trace
  freed : ∀ id, (id, Use.take) ∈ state.trace →
    (∀ prio, ∀ handle ∈ line state prio, handle.frees = true → handle.block ≠ id) →
    state.trace.count (id, .giveBack) = 1

/-! A piece that does not free its buffer goes in front of one that does. -/

def Guarded : List Handle → Prop
  | [] => True
  | handle :: rest =>
      (handle.frees = false → ∃ later ∈ rest, later.frees = true ∧ later.block = handle.block) ∧
        Guarded rest

theorem guarded_append {first second : List Handle} (front : Guarded first) (back : Guarded second) :
    Guarded (first ++ second) := by
  induction first with
  | nil => exact back
  | cons handle rest ih =>
      obtain ⟨covered, others⟩ := front
      refine ⟨?_, ih others⟩
      intro keeps
      obtain ⟨later, member, frees⟩ := covered keeps
      exact ⟨later, List.mem_append_left _ member, frees⟩

theorem guarded_frees {line : List Handle} (frees : ∀ handle ∈ line, handle.frees = true) :
    Guarded line := by
  induction line with
  | nil => trivial
  | cons handle rest ih =>
      refine ⟨?_, ih fun later member => frees later (List.mem_cons_of_mem _ member)⟩
      intro keeps
      rw [frees handle List.mem_cons_self] at keeps
      cases keeps

/-- Each handle has one at or behind it that frees its buffer. -/
theorem Guarded.covered {line : List Handle} {handle : Handle} (guarded : Guarded line)
    (member : handle ∈ line) : ∃ later ∈ line, later.frees = true ∧ later.block = handle.block := by
  induction line with
  | nil => cases member
  | cons first rest ih =>
      obtain ⟨here, behind⟩ := guarded
      rcases List.mem_cons.mp member with rfl | inside
      · rcases Bool.eq_false_or_eq_true handle.frees with frees | keeps
        · exact ⟨handle, List.mem_cons_self, frees, rfl⟩
        · obtain ⟨later, member, covers⟩ := here keeps
          exact ⟨later, List.mem_cons_of_mem _ member, covers⟩
      · obtain ⟨later, member, covers⟩ := ih behind inside
        exact ⟨later, List.mem_cons_of_mem _ member, covers⟩

/-- The last piece of a message frees the buffer, and no other does. -/
theorem handles_shape (block : Nat) (data : List UInt8) : ∃ front,
    handles block (SerialFragments.pieces data) = front ++ [⟨block, true⟩] ∧
      ∀ handle ∈ front, handle = ⟨block, false⟩ := by
  obtain ⟨front, final, shape, others, last⟩ := SerialFragments.pieces_shape data
  refine ⟨front.map fun piece => ⟨block, piece.last⟩, ?_, ?_⟩
  · rw [handles, shape, List.map_append, List.map_singleton, last]
  · intro handle member
    obtain ⟨piece, inside, rfl⟩ := List.mem_map.mp member
    rw [others piece inside]

theorem handles_guarded (block : Nat) (data : List UInt8) :
    Guarded (handles block (SerialFragments.pieces data)) := by
  obtain ⟨front, shape, others⟩ := handles_shape block data
  rw [shape]
  clear shape
  induction front with
  | nil => exact guarded_frees fun handle member => by rw [List.mem_singleton.mp member]
  | cons handle rest ih =>
      have here := others handle List.mem_cons_self
      refine ⟨fun _ => ⟨⟨block, true⟩, by simp, rfl, by rw [here]⟩, ih ?_⟩
      exact fun later member => others later (List.mem_cons_of_mem _ member)

/-! The buffers that the handles on their way will free. -/

def freed (handles : List Handle) : List Nat := (handles.filter Handle.frees).map Handle.block

def held (state : State) : List Nat :=
  freed (line state .serial) ++ freed (line state .bt) ++ freed (line state .others)

theorem freed_append (first second : List Handle) :
    freed (first ++ second) = freed first ++ freed second := by
  rw [freed, List.filter_append, List.map_append]
  rfl

theorem freed_perm {first second : List Handle} (same : first.Perm second) :
    (freed first).Perm (freed second) := (same.filter _).map _

theorem mem_freed {id : Nat} {handles : List Handle} :
    id ∈ freed handles ↔ ∃ handle ∈ handles, handle.frees = true ∧ handle.block = id := by
  simp [freed, and_assoc]

theorem mem_held {id : Nat} {state : State} : id ∈ held state ↔
    ∃ prio, ∃ handle ∈ line state prio, handle.frees = true ∧ handle.block = id := by
  rw [held, List.mem_append, List.mem_append, mem_freed, mem_freed, mem_freed]
  constructor
  · rintro ((serial | bt) | others)
    · exact ⟨_, serial⟩
    · exact ⟨_, bt⟩
    · exact ⟨_, others⟩
  · rintro ⟨prio, here⟩
    cases prio with
    | serial => exact Or.inl (Or.inl here)
    | bt => exact Or.inl (Or.inr here)
    | others => exact Or.inr here

theorem freed_message (block : Nat) (data : List UInt8) :
    freed (handles block (SerialFragments.pieces data)) = [block] := by
  obtain ⟨front, shape, others⟩ := handles_shape block data
  have none : front.filter Handle.frees = [] := by
    apply List.filter_eq_nil_iff.mpr
    intro handle member
    rw [others handle member]
    exact Bool.false_ne_true
  rw [shape, freed, List.filter_append, none]
  rfl

section Lines
variable {before after : State} {config : Config}

/-- Handles have joined a class. -/
theorem held_joined {level : Prio} {handles : List Handle}
    (joined : ∀ prio, (line after prio).Perm ((if level = prio then handles else []) ++ line before prio)) :
    (held after).Perm (freed handles ++ held before) := by
  have each (prio : Prio) : (freed (line after prio)).Perm
      (freed (if level = prio then handles else []) ++ freed (line before prio)) := by
    rw [← freed_append]
    exact freed_perm (joined prio)
  apply List.perm_iff_count.mpr
  intro id
  have serial := (each .serial).count_eq id
  have bt := (each .bt).count_eq id
  have others := (each .others).count_eq id
  rw [held, held]
  simp only [List.count_append] at serial bt others ⊢
  cases level <;> simp only [reduceCtorEq, if_true, if_false] at serial bt others <;>
    simp only [freed, List.filter_nil, List.map_nil, List.count_nil] at serial bt others ⊢ <;> omega

theorem held_same (same : ∀ prio, (line after prio).Perm (line before prio)) :
    (held after).Perm (held before) := by
  have joined := @held_joined before after .serial [] (fun prio => by
    rw [ite_self]
    exact same prio)
  exact joined

end Lines

structure Inv (state : State) : Prop where
  holding : Holding state.trace (held state) state.next
  single : ∀ prio, prio ≠ .serial → ∀ handle ∈ line state prio, handle.frees = true
  guarded : Guarded (line state .serial)
  few : (atLevel Prod.fst .serial state.scheduler.sending).length ≤ 1

theorem Inv.guards {state : State} (inv : Inv state) (prio : Prio) : Guarded (line state prio) := by
  by_cases serial : prio = .serial
  · rw [serial]
    exact inv.guarded
  · exact guarded_frees (inv.single prio serial)

theorem inv_settled {state : State} (inv : Inv state) : Settled state where
  lawful id := by
    obtain ⟨phase, found, _⟩ := inv.holding.owned id
    exact ⟨phase, found⟩
  once := inv.holding.once
  live prio handle member := by
    obtain ⟨later, behind, frees, block⟩ := (inv.guards prio).covered member
    rw [← block]
    exact (inv.holding.live (mem_held.mpr ⟨prio, later, behind, frees, rfl⟩)).2
  freed id taken done := by
    refine inv.holding.settled (List.count_eq_zero.mpr ?_) taken
    intro member
    obtain ⟨prio, handle, inside, frees, block⟩ := mem_held.mp member
    exact done prio handle inside frees block

/-! Steps. -/

section Steps
variable {before after : State} {config : Config} {scheduler : SlaveScheduler.State Handle}

/-- Handles that are moved on free what they freed before. -/
theorem inv_moved (inv : Inv before) (trace : after.trace = before.trace) (next : after.next = before.next)
    (same : ∀ prio, (line after prio).Perm (line before prio))
    (order : line after .serial = line before .serial)
    (few : (atLevel Prod.fst .serial after.scheduler.sending).length ≤ 1) : Inv after where
  holding := by
    rw [trace, next]
    exact inv.holding.perm (held_same same).symm
  single prio other handle member := inv.single prio other handle ((same prio).mem_iff.mp member)
  guarded := by
    rw [order]
    exact inv.guarded
  few := few

theorem inv_still (inv : Inv before) (trace : after.trace = before.trace) (next : after.next = before.next)
    (same : ∀ prio, line after prio = line before prio)
    (sending : after.scheduler.sending = before.scheduler.sending) : Inv after := by
  refine inv_moved inv trace next (fun prio => List.Perm.of_eq (same prio)) (same .serial) ?_
  rw [sending]
  exact inv.few

/-- A handle that frees its buffer has come into a class of its own. -/
theorem inv_single {level : Prio} {uses : List (Nat × Use)} (inv : Inv before) (other : level ≠ .serial)
    (scheduler : after.scheduler = sendToHostQueue before.scheduler level ⟨before.next, true⟩)
    (writing : after.writing = before.writing) (next : after.next = before.next + 1)
    (trace : after.trace = before.trace ++ [(before.next, .take)] ++ uses)
    (only : ∀ use ∈ uses, use = (before.next, .access)) : Inv after := by
  have lines (prio : Prio) : (line after prio).Perm
      ((if level = prio then [⟨before.next, true⟩] else []) ++ line before prio) := by
    have joined : (atLevel Prod.fst prio (sendToHostQueue before.scheduler level ⟨before.next, true⟩).sending).map
        Prod.snd = (atLevel Prod.fst prio before.scheduler.sending).map Prod.snd ++
          if level = prio then [⟨before.next, true⟩] else [] := by
      rw [sendToHostQueue, atLevel_append, List.map_append, atLevel_single]
      split <;> rfl
    rw [line, line, scheduler, joined, writing]
    apply List.perm_iff_count.mpr
    intro handle
    simp only [List.count_append, sendToHostQueue]
    omega
  have taken : Holding (before.trace ++ [(before.next, .take)]) (before.next :: held before)
      (before.next + 1) := inv.holding.take
  exact {
    holding := by
      rw [trace, next]
      refine Holding.perm ?_ (held_joined lines).symm
      exact ledger_accesses taken (List.count_pos_iff.mpr List.mem_cons_self) only
    single := by
      intro prio apart handle member
      rcases List.mem_append.mp ((lines prio).mem_iff.mp member) with new | old
      · by_cases here : level = prio
        · rw [if_pos here] at new
          rw [List.mem_singleton.mp new]
        · rw [if_neg here] at new
          cases new
      · exact inv.single prio apart handle old
    guarded := by
      rw [line, scheduler, writing, sendToHostQueue, atLevel_append, atLevel_single, if_neg other,
        List.append_nil]
      exact inv.guarded
    few := by
      rw [scheduler, sendToHostQueue, atLevel_append, atLevel_single, if_neg other, List.append_nil]
      exact inv.few }

/-- A buffer that is handed over and freed at once. -/
theorem inv_refused (inv : Inv before) :
    Inv
      { before with
        trace := before.trace ++ [(before.next, .take)] ++ [(before.next, .giveBack)]
        next := before.next + 1 } where
  holding := inv.holding.take.giveBack
  single := inv.single
  guarded := inv.guarded
  few := inv.few

theorem inv_wlanRx (inv : Inv before) (buffer eb : Bool) : Inv (wlanRxStep before buffer eb) := by
  rw [wlanRxStep]
  split
  · exact inv
  · split
    · exact inv_refused inv
    · refine @inv_single before _ .others [] inv (by decide) rfl rfl rfl ?_ ?_
      · exact (List.append_nil _).symm
      · exact fun use member => absurd member List.not_mem_nil

theorem inv_hostRcvPkt (inv : Inv before) (found : Bool) : Inv (hostRcvPktStep before found) := by
  rw [hostRcvPktStep]
  split
  · exact inv
  · exact inv_single inv (show Prio.bt ≠ .serial by decide) rfl rfl rfl rfl
      fun use member => List.mem_singleton.mp member

/-- No serial piece is being sent. -/
theorem none_sending (idle : sendingPiece before.scheduler = false) :
    atLevel Prod.fst Prio.serial before.scheduler.sending = [] := by
  rw [sendingPiece, Bool.or_eq_false_iff] at idle
  apply List.filter_eq_nil_iff.mpr
  intro call member
  have other := List.any_eq_false.mp idle.1 call member
  exact other

theorem inv_serialWriteData {data : List UInt8} (inv : Inv before)
    (taken : serialWriteDataStep before data = some after) : Inv after := by
  obtain ⟨free, same⟩ := Option.ite_none_left_eq_some.mp taken
  obtain rfl := Option.some.inj same
  simp only [not_or, not_not, Bool.not_eq_true] at free
  obtain ⟨idle, _⟩ := free
  have joined (prio : Prio) :
      line { before with
        writing := handles before.next (SerialFragments.pieces data)
        trace := before.trace ++ [(before.next, .take)] ++ [(before.next, .access)]
        next := before.next + 1 } prio =
      line before prio ++
        if Prio.serial = prio then handles before.next (SerialFragments.pieces data) else [] := by
    rw [line, line, idle, ite_self, List.append_nil]
    cases prio <;> rfl
  exact {
    holding := by
      have more := held_joined fun prio =>
        (List.Perm.of_eq (joined prio)).trans List.perm_append_comm
      rw [freed_message] at more
      refine Holding.perm ?_ more.symm
      exact inv.holding.take.access List.mem_cons_self
    single := by
      intro prio apart handle member
      rw [joined prio, if_neg (Ne.symm apart), List.append_nil] at member
      exact inv.single prio apart handle member
    guarded := by
      rw [joined .serial, if_pos rfl]
      exact guarded_append inv.guarded (handles_guarded _ _)
    few := inv.few }

theorem inv_piece (inv : Inv before) (taken : pieceStep before = some after) : Inv after := by
  rw [pieceStep] at taken
  cases writing : before.writing with
  | nil =>
      rw [writing] at taken
      cases taken
  | cons handle rest =>
      rw [writing] at taken
      obtain ⟨free, same⟩ := Option.ite_none_left_eq_some.mp taken
      obtain rfl := Option.some.inj same
      have idle := none_sending (Bool.eq_false_iff.mpr free)
      have lines (prio : Prio) :
          line { before with
            scheduler := sendToHostQueue before.scheduler .serial handle
            writing := rest } prio = line before prio := by
        rw [line, line, writing, sendToHostQueue, atLevel_append, atLevel_single]
        cases prio with
        | serial => simp [idle]
        | bt => simp
        | others => simp
      refine inv_moved inv rfl rfl (fun prio => List.Perm.of_eq (lines prio)) (lines .serial) ?_
      rw [sendToHostQueue, atLevel_append, idle, atLevel_single]
      exact Nat.le_refl 1

/-- A handle goes from the hands of its sender into the queue. -/
theorem put_pair (bank : Prio → List Handle) (queueType prio : Prio) (handle : Handle) :
    put bank queueType handle prio =
      bank prio ++ (atLevel Prod.fst prio [(queueType, handle)]).map Prod.snd := by
  rw [atLevel_single]
  by_cases same : queueType = prio
  · subst same
    simp [put]
  · simp [put, Function.update_of_ne (Ne.symm same), same]

theorem perm_short {Item : Type} {items others : List Item} (same : items.Perm others)
    (short : others.length ≤ 1) : items = others := by
  match others, short with
  | [], _ => exact same.eq_nil
  | [_], _ => exact List.perm_singleton.mp same

theorem inv_item {index : Nat} {queueType : Prio} {handle : Handle} (inv : Inv before)
    (found : before.scheduler.sending[index]? = some (queueType, handle))
    (queue : scheduler.toHost = put before.scheduler.toHost queueType handle)
    (sending : scheduler.sending = before.scheduler.sending.eraseIdx index)
    (pc : scheduler.pc = before.scheduler.pc) : Inv { before with scheduler := scheduler } := by
  have lines (prio : Prio) : line { before with scheduler := scheduler } prio =
      inHand before.scheduler.pc prio ++ before.scheduler.toHost prio ++
        (atLevel Prod.fst prio ((queueType, handle) :: before.scheduler.sending.eraseIdx index)).map Prod.snd ++
          if prio = .serial then before.writing else [] := by
    have split := atLevel_append Prod.fst prio [(queueType, handle)]
      (before.scheduler.sending.eraseIdx index)
    rw [List.singleton_append] at split
    rw [line, queue, sending, pc, put_pair, split, List.map_append]
    simp only [List.append_assoc]
  obtain ⟨inside, here⟩ := List.getElem?_eq_some_iff.mp found
  have whole : ((queueType, handle) :: before.scheduler.sending.eraseIdx index).Perm
      before.scheduler.sending := by
    have moved := List.getElem_cons_eraseIdx_perm inside
    rw [here] at moved
    exact moved
  have order : atLevel Prod.fst Prio.serial
      ((queueType, handle) :: before.scheduler.sending.eraseIdx index) =
        atLevel Prod.fst Prio.serial before.scheduler.sending :=
    perm_short (whole.filter _) inv.few
  refine inv_moved inv rfl rfl ?_ ?_ ?_
  · intro prio
    rw [lines prio, line]
    exact (((whole.filter _).map _).append_left _).append_right _
  · rw [lines .serial, order]
    rfl
  · rw [sending]
    exact Nat.le_trans ((List.eraseIdx_sublist _ _).filter _).length_le inv.few

theorem inv_take {queueType : Prio} {handle : Handle} {rest : List Handle} (inv : Inv before)
    (pc : before.scheduler.pc = .receiveItem queueType)
    (queued : before.scheduler.toHost queueType = handle :: rest)
    (queue : scheduler.toHost = Function.update before.scheduler.toHost queueType rest)
    (sending : scheduler.sending = before.scheduler.sending)
    (taken : scheduler.pc = .processTxPkt queueType handle) :
    Inv { before with scheduler := scheduler } := by
  refine inv_still inv rfl rfl ?_ sending
  intro prio
  rw [line, line, taken, queue, sending, pc]
  by_cases same : queueType = prio
  · subst same
    simp [inHand, queued]
  · simp [inHand, same, Function.update_of_ne (Ne.symm same)]

/-- `process_tx_pkt` reads a handle that is not freed yet, and frees what only it was to free. -/
theorem inv_process {queueType : Prio} {handle : Handle} (inv : Inv before)
    (pc : before.scheduler.pc = .processTxPkt queueType handle)
    (queue : scheduler.toHost = before.scheduler.toHost)
    (sending : scheduler.sending = before.scheduler.sending)
    (done : scheduler.pc = .lookDatapath) :
    Inv
      { before with
        scheduler := scheduler
        trace := before.trace ++ processTxPkt before.datapath handle } := by
  have lines (prio : Prio) : line before prio = (if queueType = prio then [handle] else []) ++
      line { before with
        scheduler := scheduler
        trace := before.trace ++ processTxPkt before.datapath handle } prio := by
    rw [line, line, pc, queue, sending, done]
    simp only [inHand, List.append_assoc, List.nil_append]
  have front : handle ∈ line before queueType := by
    rw [lines queueType, if_pos rfl]
    exact List.mem_append_left _ (List.mem_singleton_self _)
  obtain ⟨later, behind, frees, block⟩ := (inv.guards queueType).covered front
  have known : handle.block ∈ held before := mem_held.mpr ⟨queueType, later, behind, frees, block⟩
  have read : Holding (before.trace ++ if before.datapath then [(handle.block, .access)] else [])
      (held before) before.next := by
    split
    · exact inv.holding.access known
    · rw [List.append_nil]
      exact inv.holding
  have less := held_joined fun prio => List.Perm.of_eq (lines prio)
  refine ⟨?_, ?_, ?_, ?_⟩
  · rw [processTxPkt, ← List.append_assoc]
    rcases Bool.eq_false_or_eq_true handle.frees with mine | kept
    · rw [if_pos mine]
      simp only [freed, List.filter_cons_of_pos mine] at less
      exact (read.perm less).giveBack
    · rw [if_neg (Bool.eq_false_iff.mp kept), List.append_nil]
      simp only [freed, List.filter_cons_of_neg (Bool.eq_false_iff.mp kept)] at less
      exact read.perm less
  · intro prio other later member
    refine inv.single prio other later ?_
    rw [lines prio]
    exact List.mem_append_right _ member
  · have guarded := inv.guarded
    rw [lines .serial] at guarded
    split at guarded
    · exact guarded.2
    · exact guarded
  · rw [sending]
    exact inv.few

theorem schedule_quiet {act : SlaveScheduler.Act Handle}
    (taken : schedule config before act [] = some after) :
    ∃ scheduler, SlaveScheduler.Moves config before.scheduler act scheduler ∧
      after = { before with scheduler := scheduler } := by
  obtain ⟨scheduler, stepped, rfl⟩ := Option.map_eq_some_iff.mp taken
  exact ⟨scheduler, SlaveScheduler.step_moves stepped, by rw [List.append_nil]⟩

theorem inv_go (inv : Inv before)
    (taken : schedule config before .go (goUses before.datapath before.scheduler.pc) = some after) :
    Inv after := by
  obtain ⟨scheduler, stepped, rfl⟩ := Option.map_eq_some_iff.mp taken
  cases SlaveScheduler.step_moves stepped with
  | type queueType rest pc tokens =>
      refine inv_still inv ?_ rfl (fun prio => ?_) rfl
      · rw [pc, goUses, List.append_nil]
      · rw [line, line, pc]
        rfl
  | take queueType handle rest pc queued =>
      rw [pc, goUses, List.append_nil]
      exact inv_take inv pc queued rfl rfl rfl
  | process queueType handle pc =>
      rw [pc, goUses]
      exact inv_process inv pc rfl rfl rfl

theorem inv_step {act : Act} (inv : Inv before) (taken : step config before act = some after) :
    Inv after := by
  cases act with
  | datapath opens =>
      rw [← Option.some.inj taken]
      exact inv_still inv rfl rfl (fun _ => rfl) rfl
  | wlanRx buffer eb =>
      rw [← Option.some.inj taken]
      exact inv_wlanRx inv buffer eb
  | hostRcvPkt found =>
      rw [← Option.some.inj taken]
      exact inv_hostRcvPkt inv found
  | serialWriteData data => exact inv_serialWriteData inv taken
  | piece => exact inv_piece inv taken
  | sendItem index =>
      obtain ⟨scheduler, moves, rfl⟩ := schedule_quiet taken
      cases moves with
      | item _ queueType handle found room => exact inv_item inv found rfl rfl rfl
  | sendToken index =>
      obtain ⟨scheduler, moves, rfl⟩ := schedule_quiet taken
      cases moves with
      | token _ queueType found room => exact inv_still inv rfl rfl (fun _ => rfl) rfl
  | look =>
      obtain ⟨scheduler, moves, rfl⟩ := schedule_quiet taken
      cases moves with
      | look _ pc =>
          refine inv_still inv rfl rfl (fun prio => ?_) rfl
          rw [line, line, pc]
          cases before.datapath <;> rfl
  | go => exact inv_go inv taken

theorem inv_init : Inv init where
  holding := holding_nil
  single _ _ _ member := by
    rw [line] at member
    simp [init, SlaveScheduler.init, inHand, atLevel] at member
  guarded := trivial
  few := Nat.zero_le 1

end Steps

/-- Whatever the order in which the Wi-Fi driver, the Bluetooth controller, the pserial task and
`send_task` go on, and whenever the data path is opened and closed, every buffer is freed once,
and only when nothing on its way to the host points to it any more. -/
theorem tx_buffers_settled (config : Config) {state : State}
    (run : Run (step config) unguarded init state) : Settled state :=
  inv_settled (Run.invariant inv_init (fun _ _ _ _ inv _ taken => inv_step inv taken) run)

/-- `serial_write_data` has a message of two pieces. -/
def wrote : State where
  scheduler := SlaveScheduler.init
  datapath := false
  writing := [⟨0, false⟩, ⟨0, true⟩]
  next := 1
  trace := [(0, .take), (0, .access)]

/-- A packet of the station goes beside it, and the data path closes between its pieces. -/
def closing : List Act :=
  [.datapath true, .piece, .wlanRx true true, .sendItem 1, .sendItem 0, .sendToken 0, .sendToken 0,
    .look, .go, .go, .go, .datapath false, .piece, .sendItem 0, .sendToken 0, .datapath true,
    .look, .go, .go, .datapath false, .go]

theorem tx_buffers_settled_closing : ∃ state, Settled state ∧
    state.trace.count (0, .giveBack) = 1 := by
  have long : 1500 < (List.replicate 1501 (7 : UInt8)).length := by
    rw [List.length_replicate]
    decide
  have begins : step ⟨20, by decide⟩ init (.serialWriteData (List.replicate 1501 7)) = some wrote := by
    rw [step, serialWriteDataStep, if_neg (by decide), SerialFragments.pieces_long long,
      SerialFragments.pieces_short (by rw [List.length_drop, List.length_replicate]; decide)]
    rfl
  obtain ⟨state, result, freed⟩ : ∃ state ∈ exec (step ⟨20, by decide⟩) wrote closing,
      state.trace.count (0, .giveBack) = 1 := by decide
  exact ⟨state, tx_buffers_settled _ (exec_run_from closing (.next _ .refl trivial begins) result), freed⟩

end EspHosted.SlaveTxBuffers

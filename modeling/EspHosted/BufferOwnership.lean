import EspHosted.SpiDriver

/-!
Who frees the buffers that are handed to `esp_hosted_tx`. A buffer is held by the call, by a
queue, by the pass that took it out, and behind that by nobody: a rejected one is freed by
the call, a copied one inside `get_next_tx_buffer`, one that is sent as it is behind the
transaction.
-/

namespace EspHosted.BufferOwnership
open SpiFrames HostFrames SlaveFrames QueueBank SpiDriver GuardedRun

variable {config : Config} {before after : State}

/-- The frame has the buffer and a function to free it with. -/
def owns (wbuffer : Nat) (frame : TxFrame) : Bool :=
  frame.freeWbufFun && frame.wbuffer == some wbuffer

def weight (held : Bool) : Nat := if held = true then 1 else 0

/-- The buffer is in the hands of the pass. -/
def passOwns (wbuffer : Nat) : Pc → Bool
  | .formBuffer _ frame => owns wbuffer frame
  | .decide _ (some frame) | .transfer _ (some frame) | .freeTx _ (some frame) _ =>
      frame.buf.payloadZcopy && owns wbuffer frame
  | .decide _ none | .transfer _ none | .freeTx _ none _ => false
  | .getReadySem | .readHandshake | .readDataReady _ | .exchange _ | .getToSlaveSem _
  | .dequeue _ _ | .rearm _ _ | .repost _ _ => false

/-- How often the buffer is held. -/
def holders (state : State) (wbuffer : Nat) : Nat :=
  state.putting.countP (owns wbuffer) + count (owns wbuffer) state.toSlave +
    weight (passOwns wbuffer state.pc)

/-- Every buffer handed in was freed or is held, as often as it was handed in. -/
def Ledger (state : State) : Prop :=
  ∀ wbuffer, state.handedIn.count wbuffer = state.freed.count wbuffer + holders state wbuffer

/-- Frames on their way have a length `esp_hosted_tx` accepts. -/
structure LensAccepted (state : State) : Prop where
  putting : ∀ frame ∈ state.putting, lenAccepted frame.buf.payloadLen = true
  queued : ∀ prio, ∀ frame ∈ state.toSlave prio, lenAccepted frame.buf.payloadLen = true
  formed : ∀ pass frame, state.pc = .formBuffer pass frame →
    lenAccepted frame.buf.payloadLen = true

/-- A copied frame with nothing behind the byte that goes into the header. -/
def OneByteHci (buf : TxBuf) : Prop :=
  buf.ifType.toNat % 16 = espHciIf.toNat ∧ buf.payloadLen = 1 ∧ buf.payloadZcopy = false

/-- `get_next_tx_buffer` takes no copied HCI frame of one byte that is to be freed. -/
def PassLonger : Pc → Prop
  | .formBuffer _ frame => OneByteHci frame.buf → frame.free = []
  | .getReadySem | .readHandshake | .readDataReady _ | .exchange _ | .getToSlaveSem _
  | .dequeue _ _ | .decide _ _ | .transfer _ _ | .freeTx _ _ _ | .rearm _ _ | .repost _ _ => True

def Longer (state : State) : Act → Prop
  | .task _ => PassLonger state.pc
  | .call _ _ | .put _ _ | .postToSlave | .postReady | .handshakeIsr | .dataReadyIsr => True

instance (buf : TxBuf) : Decidable (OneByteHci buf) :=
  inferInstanceAs (Decidable (buf.ifType.toNat % 16 = espHciIf.toNat ∧ buf.payloadLen = 1 ∧
    buf.payloadZcopy = false))

instance : (pc : Pc) → Decidable (PassLonger pc)
  | .formBuffer _ frame => inferInstanceAs (Decidable (OneByteHci frame.buf → frame.free = []))
  | .getReadySem | .readHandshake | .readDataReady _ | .exchange _ | .getToSlaveSem _
  | .dequeue _ _ | .decide _ _ | .transfer _ _ | .freeTx _ _ _ | .rearm _ _ | .repost _ _ =>
      .isTrue trivial

instance (state : State) : (act : Act) → Decidable (Longer state act)
  | .task _ => inferInstanceAs (Decidable (PassLonger state.pc))
  | .call _ _ | .put _ _ | .postToSlave | .postReady | .handshakeIsr | .dataReadyIsr =>
      .isTrue trivial

section Frames
variable {frame : TxFrame} {wbuffer : Nat}

theorem free_count : frame.free.count wbuffer = weight (owns wbuffer frame) := by
  obtain ⟨buf, address, freeWbufFun⟩ := frame
  cases freeWbufFun with
  | false => simp [TxFrame.free, owns, weight]
  | true =>
      cases address with
      | none => simp [TxFrame.free, owns, weight]
      | some address =>
          by_cases same : address = wbuffer
          · simp [TxFrame.free, owns, weight, same]
          · simp [TxFrame.free, owns, weight, same]

theorem accepted_ne_zero {buf : TxBuf} (accepted : lenAccepted buf.payloadLen = true) :
    buf.payloadLen ≠ 0 := by
  intro zero
  simp [lenAccepted, zero] at accepted

/-- What makes `len` zero behind the frame is the step back of the HCI branch. -/
theorem endingLen_zero {buf : TxBuf} (some_bytes : buf.payloadLen ≠ 0) :
    endingLen buf = 0 ↔ OneByteHci buf := by
  unfold endingLen OneByteHci
  by_cases hci : buf.ifType.toNat % 16 = espHciIf.toNat
  · cases copied : buf.payloadZcopy with
    | true => simp [some_bytes]
    | false =>
        simp only [hci, some_bytes, ne_eq, not_false_eq_true, Bool.not_false, and_self, if_true,
          true_and, and_true]
        constructor
        · intro zero
          rw [← UInt16.sub_add_cancel buf.payloadLen 1, zero, UInt16.zero_add]
        · intro one
          rw [one, UInt16.sub_self]
  · simp [hci, some_bytes]

/-- The buffer is freed inside `get_next_tx_buffer` or goes on with the pass. -/
theorem formed_or_held (accepted : lenAccepted frame.buf.payloadLen = true)
    (longer : OneByteHci frame.buf → frame.free = []) :
    (formedFrees frame).count wbuffer +
        weight (frame.buf.payloadZcopy && owns wbuffer frame) = weight (owns wbuffer frame) := by
  have some_bytes := accepted_ne_zero accepted
  cases copied : frame.buf.payloadZcopy with
  | true => simp [formedFrees, copied, weight]
  | false =>
      by_cases short : OneByteHci frame.buf
      · have unowned : weight (owns wbuffer frame) = 0 := by
          rw [← free_count, longer short, List.count_nil]
        have ending := (endingLen_zero some_bytes).mpr short
        rw [unowned]
        simp [formedFrees, ending, weight]
      · have ending : endingLen frame.buf ≠ 0 := fun zero =>
          short ((endingLen_zero some_bytes).mp zero)
        simp only [formedFrees, ending, copied, ne_eq, not_false_eq_true, Bool.not_false, and_self,
          if_true, Bool.false_and]
        rw [free_count]
        rfl

end Frames

theorem transferred_count {tx : Option TxFrame} {wbuffer : Nat} (pass : Pass) (failed : Bool) :
    (transferredFrees tx).count wbuffer = weight (passOwns wbuffer (.freeTx pass tx failed)) := by
  cases tx with
  | none => rfl
  | some frame =>
      cases zcopy : frame.buf.payloadZcopy with
      | true => simp [transferredFrees, passOwns, zcopy, free_count]
      | false => simp [transferredFrees, passOwns, zcopy, weight]

/-- A step moves a buffer on or has it freed. -/
def Balanced (before after : State) : Prop :=
  ∀ wbuffer, after.handedIn.count wbuffer + (before.freed.count wbuffer + holders before wbuffer) =
    before.handedIn.count wbuffer + (after.freed.count wbuffer + holders after wbuffer)

theorem Balanced.ledger (balanced : Balanced before after) (ledger : Ledger before) :
    Ledger after := by
  intro wbuffer
  have moved := balanced wbuffer
  have held := ledger wbuffer
  omega

theorem balanced_call (state : State) (transportUp : Bool) (frame : TxFrame) :
    Balanced state (callStep state transportUp frame) := by
  intro wbuffer
  unfold callStep
  split
  · simp only [holders, List.count_append]
    omega
  · simp only [holders, List.count_append, List.countP_append, List.countP_singleton, free_count,
      weight]
    omega

theorem balanced_put {index : Nat} {ok : Bool} (taken : putStep config before index ok = some after) :
    Balanced before after := by
  intro wbuffer
  cases putStep_puts taken with
  | fails frame found =>
      have left := countP_eraseIdx found (owns wbuffer)
      simp only [holders, List.count_append, free_count, weight]
      omega
  | queues frame found =>
      have left := countP_eraseIdx found (owns wbuffer)
      simp only [holders, count_put]
      omega

/-- A step that hands no buffer to anybody. -/
theorem balanced_still (handedIn : after.handedIn = before.handedIn)
    (freed : after.freed = before.freed) (putting : after.putting = before.putting)
    (toSlave : after.toSlave = before.toSlave)
    (pass : ∀ wbuffer, passOwns wbuffer after.pc = passOwns wbuffer before.pc) :
    Balanced before after := by
  intro wbuffer
  simp only [holders, handedIn, freed, putting, toSlave, pass]

theorem balanced_dequeue (state : State) (pass : Pass) (prio : Prio)
    (pc : state.pc = .dequeue pass prio) : Balanced state (dequeueStep state pass prio) := by
  unfold dequeueStep
  split
  · rename_i frame rest queued
    intro wbuffer
    have queues : weight (passOwns wbuffer state.pc) = 0 := by
      rw [pc]
      rfl
    have takes : weight (passOwns wbuffer (.formBuffer pass frame)) =
      if owns wbuffer frame = true then 1 else 0 := rfl
    simp only [holders, count_get queued, queues, takes]
    omega
  · apply balanced_still
    case pass =>
      intro wbuffer
      cases prio <;> simp [pc, nextPrio, passOwns]
    all_goals rfl

theorem balanced_form (state : State) (pass : Pass) (frame : TxFrame)
    (pc : state.pc = .formBuffer pass frame) (accepted : lenAccepted frame.buf.payloadLen = true)
    (longer : OneByteHci frame.buf → frame.free = []) :
    Balanced state (formStep state pass frame) := by
  intro wbuffer
  have moved := @formed_or_held frame wbuffer accepted longer
  simp only [formStep, holders, pc, List.count_append, accepted_ne_zero accepted, if_false, passOwns]
  omega

theorem balanced_decide (state : State) (pass : Pass) (tx : Option TxFrame)
    (pc : state.pc = .decide pass tx) : Balanced state (decideStep state pass tx) := by
  unfold decideStep
  split
  all_goals
    apply balanced_still
    case pass =>
      intro wbuffer
      cases tx <;> simp [pc, passOwns]
    all_goals rfl

theorem balanced_transfer (state : State) (pass : Pass) (tx : Option TxFrame)
    (rxbuff : Option (List UInt8)) (put : Bool) (pc : state.pc = .transfer pass tx) :
    Balanced state (transferStep state pass tx rxbuff put) := by
  cases rxbuff with
  | none =>
      apply balanced_still
      case pass =>
        intro wbuffer
        cases tx <;> simp [pc, transferStep, passOwns]
      all_goals rfl
  | some rxbuff =>
      apply balanced_still
      case pass =>
        intro wbuffer
        cases tx <;> simp [pc, transferStep, passOwns]
      all_goals rfl

theorem balanced_task {act : TaskAct} (accepted : LensAccepted before)
    (longer : Longer before (.task act)) (taken : taskStep before act = some after) :
    Balanced before after := by
  cases taskStep_moves taken with
  | enter pc | handshake active pc | exchange rxDataReady pc | take pass pc | pass pass pc
  | repost handshake retry pc =>
      exact balanced_still rfl rfl rfl rfl fun _ => by rw [pc]; rfl
  | dataReady handshake active pc =>
      exact balanced_still rfl rfl rfl rfl fun _ => by cases handshake <;> rw [pc] <;> rfl
  | dequeue pass prio pc => exact balanced_dequeue before pass prio pc
  | form pass frame pc =>
      rw [Longer, pc] at longer
      exact balanced_form before pass frame pc (accepted.formed pass frame pc) longer
  | decide pass tx pc => exact balanced_decide before pass tx pc
  | transfer pass tx rxbuff put pc => exact balanced_transfer before pass tx rxbuff put pc
  | freeTx pass tx failed pc =>
      intro wbuffer
      have handed : weight (passOwns wbuffer (.rearm pass failed)) = 0 := rfl
      simp only [holders, pc, List.count_append, transferred_count pass failed, handed]
      omega
  | rearm pass failed pc =>
      unfold rearmStep
      split <;> exact balanced_still rfl rfl rfl rfl fun _ => by rw [pc]; rfl

/-- The frames on their way to a transaction have a property. -/
structure FramesAll (prop : TxFrame → Prop) (state : State) : Prop where
  putting : ∀ frame ∈ state.putting, prop frame
  queued : ∀ prio, ∀ frame ∈ state.toSlave prio, prop frame
  formed : ∀ pass frame, state.pc = .formBuffer pass frame → prop frame

section FramesAll
variable {prop : TxFrame → Prop}

theorem framesAll_call (inv : FramesAll prop before) (transportUp : Bool) (frame : TxFrame)
    (called : lenAccepted frame.buf.payloadLen = true → prop frame) :
    FramesAll prop (callStep before transportUp frame) := by
  unfold callStep
  split
  · exact ⟨inv.putting, inv.queued, inv.formed⟩
  · rename_i accepted
    simp only [not_or, not_not] at accepted
    refine ⟨?_, inv.queued, inv.formed⟩
    intro other member
    rcases List.mem_append.mp member with older | new
    · exact inv.putting other older
    · rw [List.mem_singleton.mp new]
      exact called accepted.2.1

theorem framesAll_put {index : Nat} {ok : Bool} (inv : FramesAll prop before)
    (taken : putStep config before index ok = some after) : FramesAll prop after := by
  have others : ∀ other ∈ before.putting.eraseIdx index, prop other := fun other member =>
    inv.putting other (List.mem_of_mem_eraseIdx member)
  cases putStep_puts taken with
  | fails frame found => exact ⟨others, inv.queued, inv.formed⟩
  | queues frame found =>
      refine ⟨others, ?_, inv.formed⟩
      intro prio other member
      rcases mem_put member with older | rfl
      · exact inv.queued prio other older
      · exact inv.putting other (List.mem_of_getElem? found)

/-- Frames only come into the hands of a pass out of a queue. -/
theorem framesAll_still (inv : FramesAll prop before) (putting : after.putting = before.putting)
    (toSlave : after.toSlave = before.toSlave)
    (formed : ∀ pass frame, after.pc = .formBuffer pass frame → prop frame) :
    FramesAll prop after where
  putting := by
    rw [putting]
    exact inv.putting
  queued := by
    rw [toSlave]
    exact inv.queued
  formed := formed

theorem framesAll_dequeue (inv : FramesAll prop before) (pass : Pass) (prio : Prio) :
    FramesAll prop (dequeueStep before pass prio) := by
  unfold dequeueStep
  split
  · rename_i frame rest queued
    refine ⟨inv.putting, ?_, ?_⟩
    · exact fun level other member => inv.queued level other (mem_get queued member)
    · intro _ other here
      cases here
      exact inv.queued prio frame (by rw [queued]; exact List.mem_cons_self)
  · refine framesAll_still inv rfl rfl ?_
    intro _ frame here
    cases prio <;> cases here

theorem framesAll_task {act : TaskAct} (inv : FramesAll prop before)
    (taken : taskStep before act = some after) : FramesAll prop after := by
  cases taskStep_moves taken with
  | enter | handshake | exchange | take | pass | form | freeTx | repost =>
      exact framesAll_still inv rfl rfl nofun
  | dataReady handshake =>
      refine framesAll_still inv rfl rfl ?_
      intro _ frame here
      cases handshake <;> cases here
  | dequeue pass prio => exact framesAll_dequeue inv pass prio
  | decide pass tx =>
      unfold decideStep
      split <;> exact framesAll_still inv rfl rfl nofun
  | transfer pass tx rxbuff put => cases rxbuff <;> exact framesAll_still inv rfl rfl nofun
  | rearm pass failed =>
      unfold rearmStep
      split <;> exact framesAll_still inv rfl rfl nofun

end FramesAll

/-- The counters and flags have nothing to do with who holds a buffer. -/
structure FramesKept (before after : State) : Prop where
  handedIn : after.handedIn = before.handedIn
  freed : after.freed = before.freed
  putting : after.putting = before.putting
  toSlave : after.toSlave = before.toSlave
  pc : after.pc = before.pc

theorem FramesKept.balanced (kept : FramesKept before after) : Balanced before after :=
  balanced_still kept.handedIn kept.freed kept.putting kept.toSlave fun _ => by rw [kept.pc]

theorem FramesKept.framesAll {prop : TxFrame → Prop} (kept : FramesKept before after)
    (inv : FramesAll prop before) : FramesAll prop after := by
  apply framesAll_still inv kept.putting kept.toSlave
  rw [kept.pc]
  exact inv.formed

theorem kept_postToSlave (taken : postToSlaveStep before = some after) : FramesKept before after := by
  obtain ⟨_, rfl⟩ := postToSlave_cases taken
  exact ⟨rfl, rfl, rfl, rfl, rfl⟩

theorem kept_postReady (taken : postReadyStep before = some after) : FramesKept before after := by
  obtain ⟨_, rfl⟩ := postReady_cases taken
  exact ⟨rfl, rfl, rfl, rfl, rfl⟩

/-- A property that every accepted frame has when it is handed in is kept. -/
theorem framesAll_step {prop : TxFrame → Prop} {act : Act} (inv : FramesAll prop before)
    (called : ∀ transportUp frame, act = .call transportUp frame →
      lenAccepted frame.buf.payloadLen = true → prop frame)
    (taken : step config before act = some after) : FramesAll prop after := by
  cases act with
  | call transportUp frame =>
      cases taken
      exact framesAll_call inv transportUp frame (called transportUp frame rfl)
  | put index ok => exact framesAll_put inv taken
  | postToSlave => exact (kept_postToSlave taken).framesAll inv
  | postReady => exact (kept_postReady taken).framesAll inv
  | handshakeIsr | dataReadyIsr =>
      cases taken
      exact framesAll_still inv rfl rfl inv.formed
  | task act => exact framesAll_task inv taken

theorem lens_step {act : Act} (inv : LensAccepted before) (taken : step config before act = some after) :
    LensAccepted after := by
  have all : FramesAll (fun frame => lenAccepted frame.buf.payloadLen = true) before :=
    ⟨inv.putting, inv.queued, inv.formed⟩
  have kept := framesAll_step all (fun _ _ _ accepted => accepted) taken
  exact ⟨kept.putting, kept.queued, kept.formed⟩

theorem lens_reached {state : State} (run : Run (step config) unguarded init state) :
    LensAccepted state := by
  apply run.invariant
  · exact ⟨nofun, fun _ => nofun, nofun⟩
  · intro before act after _ inv _ taken
    exact lens_step inv taken

theorem balanced_step {act : Act} (accepted : LensAccepted before) (longer : Longer before act)
    (taken : step config before act = some after) : Balanced before after := by
  cases act with
  | call transportUp frame =>
      cases taken
      exact balanced_call before transportUp frame
  | put index ok => exact balanced_put taken
  | postToSlave => exact (kept_postToSlave taken).balanced
  | postReady => exact (kept_postReady taken).balanced
  | handshakeIsr | dataReadyIsr =>
      cases taken
      exact balanced_still rfl rfl rfl rfl fun _ => rfl
  | task act => exact balanced_task accepted longer taken

/-- While no one-byte HCI frame is taken out of the queues to be copied, every buffer is freed
exactly as often as it was handed in, once nobody holds it any more. -/
theorem buffers_freed_once (config : Config) (state : State)
    (run : Run (step config) Longer init state) : Ledger state := by
  apply run.invariant
  · intro wbuffer
    simp [init, holders, count, passOwns, weight]
  · intro before act after prior ledger longer taken
    exact (balanced_step (lens_reached prior.forget) longer taken).ledger ledger

/-- The condition is exact: the first step that does not meet it loses a buffer. -/
theorem ledger_step_iff {act : Act} (accepted : LensAccepted before) (ledger : Ledger before)
    (taken : step config before act = some after) : Ledger after ↔ Longer before act := by
  constructor
  · intro kept
    cases act with
    | call _ _ | put _ _ | postToSlave | postReady | handshakeIsr | dataReadyIsr => trivial
    | task act =>
        rw [Longer]
        cases pc : before.pc with
        | formBuffer pass frame =>
            intro short
            have some_bytes := accepted_ne_zero (accepted.formed pass frame pc)
            have ending := (endingLen_zero some_bytes).mpr short
            have formed : after = formStep before pass frame := by
              cases act with
              | go => simpa [step, taskStep, pc] using taken.symm
              | sees active => simp [step, taskStep, pc] at taken
              | transfers rxbuff put => simp [step, taskStep, pc] at taken
            rw [List.eq_nil_iff_forall_not_mem]
            intro wbuffer member
            have owned := @free_count frame wbuffer
            have positive := List.count_pos_iff.mpr member
            have before_held := ledger wbuffer
            have after_held := kept wbuffer
            have none : weight false = 0 := rfl
            simp only [formed, formStep, formedFrees, ending, some_bytes, short.2.2, holders, pc,
              passOwns, ne_eq, not_true_eq_false, false_and, if_false, List.append_nil,
              Bool.false_and] at before_held after_held
            omega
        | getReadySem | readHandshake | readDataReady _ | exchange _ | getToSlaveSem _
        | dequeue _ _ | decide _ _ | transfer _ _ | freeTx _ _ _ | rearm _ _ | repost _ _ => trivial
  · intro longer
    exact (balanced_step accepted longer taken).ledger ledger

def networkFrame : TxFrame where
  buf :=
    { ifType := espApIf, ifNum := 0, payloadZcopy := true, payloadLen := 2
      payload := blankHeader ++ [5, 6] }
  wbuffer := some 40
  freeWbufFun := true

/-- The HCI packet type alone, in a buffer of its own. -/
def hciByte : TxFrame where
  buf := { ifType := espHciIf, ifNum := 0, payloadZcopy := false, payloadLen := 1, payload := [4] }
  wbuffer := some 41
  freeWbufFun := true

theorem buffers_freed_once_network : ∃ state, state.freed = [40] ∧ Ledger state := by
  obtain ⟨state, run, freed⟩ := admitted_reaches (step ⟨20, by decide⟩) Longer init
    (sent networkFrame ++ framePass 3 (dummyFrame false)) (fun state => state.freed = [40])
    (by decide) (by decide)
  exact ⟨state, freed, buffers_freed_once ⟨20, by decide⟩ state run⟩

/-- Nobody holds the buffer of the packet type any more, and it was not freed. -/
theorem buffers_freed_once_fails :
    ∃ state, Run (step ⟨20, by decide⟩) unguarded init state ∧ state.pc = .getReadySem ∧
      state.handedIn = [41] ∧ state.freed = [] ∧ holders state 41 = 0 := by
  exact exec_reaches (step ⟨20, by decide⟩) init (sent hciByte ++ framePass 2 (dummyFrame false))
    (fun state => state.pc = .getReadySem ∧ state.handedIn = [41] ∧ state.freed = [] ∧
      holders state 41 = 0) (by decide)

end EspHosted.BufferOwnership

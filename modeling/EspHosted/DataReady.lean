import EspHosted.GuardedRun
import EspHosted.SlaveDriver

/-!
The data-ready line of the slave. A writer queues its frame, gives `spi_tx_sem` and raises
the line; the transaction task lowers it after it found `spi_tx_sem` at zero. The test and
the lowering are two steps, so a writer may come in between.
-/

namespace EspHosted.DataReady
open SpiFrames SlaveFrames SlaveDriver GuardedRun

variable {config : Config} {before after : State}

/-- The task is inside `get_next_tx_buffer`. -/
def choosing : Pc → Bool
  | .takeTxSem | .receive _ | .lowerDataReady | .buildDummy => true
  | .awaitResult | .queueTrans _ | .processRx => false

/-- Neither `esp_spi_write` nor `get_next_tx_buffer` is in progress. -/
structure NoCall (state : State) : Prop where
  putting : state.putting = []
  giving : state.giving = 0
  raising : state.raising = 0
  choosing : choosing state.pc = false

/-- A writer will still raise the line. -/
def WillRaise (state : State) : Prop := 0 < state.giving ∨ 0 < state.raising

/-- The line is lowered only while there is no frame or a writer will still raise it. -/
def LoweredIdle (state : State) : Act → Prop
  | .task => state.pc = .lowerDataReady → state.txSem = 0 ∨ WillRaise state
  | .write _ | .put _ | .give | .raise | .transact _ | .recv => True

instance (state : State) : Decidable (WillRaise state) :=
  inferInstanceAs (Decidable (0 < state.giving ∨ 0 < state.raising))

instance (state : State) : (act : Act) → Decidable (LoweredIdle state act)
  | .task =>
      inferInstanceAs (Decidable (state.pc = .lowerDataReady → state.txSem = 0 ∨ WillRaise state))
  | .write _ | .put _ | .give | .raise | .transact _ | .recv => .isTrue trivial

/-- A frame that waits shows on the line, now or soon. -/
def LineInv (state : State) : Prop :=
  0 < state.txSem → state.dataReady = true ∨ WillRaise state

/-- Nothing about the line or the writers changes, and no frame is added. -/
structure LineKept (before after : State) : Prop where
  txSem : after.txSem ≤ before.txSem
  dataReady : after.dataReady = before.dataReady
  giving : after.giving = before.giving
  raising : after.raising = before.raising

theorem LineKept.inv (kept : LineKept before after) (inv : LineInv before) : LineInv after := by
  intro waiting
  rw [WillRaise, kept.dataReady, kept.giving, kept.raising]
  exact inv (Nat.lt_of_lt_of_le waiting kept.txSem)

theorem writeStep_kept (state : State) (buf : IfaceBuf) :
    LineKept state (writeStep config state buf) := by
  unfold writeStep
  split <;> exact ⟨Nat.le_refl _, rfl, rfl, rfl⟩

theorem receiveStep_kept (state : State) (prio : Prio) :
    LineKept state (receiveStep state prio) := by
  unfold receiveStep
  split <;> exact ⟨Nat.le_refl _, rfl, rfl, rfl⟩

/-- Of the steps of the task only the lowering matters. -/
theorem taskStep_inv (inv : LineInv before)
    (lowered : before.pc = .lowerDataReady → before.txSem = 0 ∨ WillRaise before)
    (taken : taskStep config before = some after) : LineInv after := by
  cases taskStep_moves taken with
  | takeResult | pass | buildDummy | queueTrans | dropRx | queueRx =>
      exact LineKept.inv ⟨Nat.le_refl _, rfl, rfl, rfl⟩ inv
  | take => exact LineKept.inv ⟨Nat.sub_le _ _, rfl, rfl, rfl⟩ inv
  | receive prio => exact (receiveStep_kept before prio).inv inv
  | lowerDataReady pc =>
      intro waiting
      rcases lowered pc with none | raises
      · exact absurd waiting (Nat.not_lt.mpr (Nat.le_of_eq none))
      · exact Or.inr raises

theorem lineInv_step {act : Act} (inv : LineInv before) (lowered : LoweredIdle before act)
    (taken : step config before act = some after) : LineInv after := by
  cases act with
  | write buf =>
      cases taken
      exact (writeStep_kept before buf).inv inv
  | put index =>
      obtain ⟨_, _, _, rfl⟩ := putStep_cases taken
      exact fun _ => Or.inr (Or.inl (Nat.succ_pos _))
  | give =>
      obtain ⟨_, rfl⟩ := giveStep_cases taken
      exact fun _ => Or.inr (Or.inr (Nat.succ_pos _))
  | raise =>
      obtain ⟨_, rfl⟩ := raiseStep_cases taken
      exact fun _ => Or.inl rfl
  | task => exact taskStep_inv inv lowered taken
  | transact rxBuffer =>
      obtain ⟨_, _, rfl⟩ := transactStep_cases taken
      exact LineKept.inv ⟨Nat.le_refl _, rfl, rfl, rfl⟩ inv
  | recv =>
      cases recvStep_recvs taken
      exact LineKept.inv ⟨Nat.le_refl _, rfl, rfl, rfl⟩ inv

theorem lineInv_reached {state : State} (run : Run (step config) LoweredIdle init state) :
    LineInv state := by
  apply run.invariant
  · exact fun waiting => absurd waiting (Nat.lt_irrefl 0)
  · intro before act after _ inv lowered taken
    exact lineInv_step inv lowered taken

/-- While the line is lowered over no frame but one whose writer will still raise it, a frame
that waits for the host shows on the line. -/
theorem data_ready_shows_frame (config : Config) (state : State)
    (run : Run (step config) LoweredIdle init state) (idle : NoCall state)
    (waiting : 0 < state.txSem) : state.dataReady = true := by
  rcases lineInv_reached run waiting with shown | giving | raising
  · exact shown
  · rw [idle.giving] at giving
    exact absurd giving (Nat.lt_irrefl 0)
  · rw [idle.raising] at raising
    exact absurd raising (Nat.lt_irrefl 0)

def smallConfig : Config where
  thresholds := ⟨80, 60⟩
  rxQueueSize := 10
  txQueueSize := 10

/-- An event is written while the task waits with a dummy armed. -/
def eventWaits : List Act :=
  [.task, .task, .task, .task, .task, .write slaveEvent, .put 0, .give, .raise]

/-- The same event, written between the test of `spi_tx_sem` and the lowering. -/
def eventLost : List Act :=
  [.task, .write slaveEvent, .put 0, .give, .raise, .task, .task, .task]

theorem data_ready_shows_event : ∃ state, NoCall state ∧ 0 < state.txSem ∧ state.dataReady = true := by
  obtain ⟨state, run, putting, giving, raising, pc, waiting⟩ :=
    admitted_reaches (step smallConfig) LoweredIdle init eventWaits
      (fun state => state.putting = [] ∧ state.giving = 0 ∧ state.raising = 0 ∧
        choosing state.pc = false ∧ 0 < state.txSem) (by decide) (by decide)
  have idle : NoCall state := ⟨putting, giving, raising, pc⟩
  exact ⟨state, idle, waiting, data_ready_shows_frame smallConfig state run idle waiting⟩

/-- The line goes down over the event, whose frame is stuck until another one comes. -/
theorem data_ready_lost : ∃ state, Run (step smallConfig) unguarded init state ∧
    NoCall state ∧ 0 < state.txSem ∧ state.dataReady = false := by
  obtain ⟨state, run, putting, giving, raising, pc, waiting, low⟩ :=
    exec_reaches (step smallConfig) init eventLost
      (fun state => state.putting = [] ∧ state.giving = 0 ∧ state.raising = 0 ∧
        choosing state.pc = false ∧ 0 < state.txSem ∧ state.dataReady = false) (by decide)
  exact ⟨state, run, ⟨putting, giving, raising, pc⟩, waiting, low⟩

end EspHosted.DataReady

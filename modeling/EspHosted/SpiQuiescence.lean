import EspHosted.HostWakeup

/-!
The host's driver left alone: nothing is submitted, no interrupt comes, the handshake is
active, the data-ready line is not, and every transaction brings the idle frame of the slave.
Its passes come to an end unless a latched edge of the data-ready line is left: the idle
frame is reported as an error, which latches the edge again.
-/

namespace EspHosted.SpiQuiescence
open SpiFrames HostFrames SlaveFrames QueueBank SpiDriver GuardedRun HostWakeup

variable {config : Config} {before after state : State}

/-- The frame of a slave that has nothing to say. -/
def Idle (rxbuff : List UInt8) : Prop :=
  (decodeHeader rxbuff).ifType = espMaxIf ∧ (decodeHeader rxbuff).len = 0

/-- What the lines and the bus bring while all is quiet. -/
def QuietTask : Pc → TaskAct → Prop
  | .readHandshake, .sees active => active = true
  | _, .sees active => active = false
  | _, .transfers rxbuff _ => ∃ idle, rxbuff = some idle ∧ Idle idle
  | _, .go => True

/-- No interrupt comes and no frame is submitted; calls that have submitted theirs go on. -/
def Quiet (state : State) : Act → Prop
  | .task act => QuietTask state.pc act
  | .postToSlave | .postReady => True
  | .call _ _ | .put _ _ | .handshakeIsr | .dataReadyIsr => False

/-- The pass has a latched edge, or saw the line active, and is not done with it. -/
def latchedIn : Pc → Bool
  | .exchange rxDataReady => rxDataReady
  | .getToSlaveSem pass | .dequeue pass _ | .formBuffer pass _ | .decide pass _
  | .transfer pass _ => pass.latched || pass.rxDataReady
  | .freeTx pass _ failed | .rearm pass failed => failed && (pass.latched || pass.rxDataReady)
  | .getReadySem | .readHandshake | .readDataReady _ | .repost _ _ => false

def rearms (state : State) : Bool := state.dataReadyPending || latchedIn state.pc

def dummies (state : State) : Bool := state.scheduleDummyTx || state.rx.scheduleDummyRx

/-- Nothing is left to be done and nothing lets another pass in. -/
structure Settled (state : State) : Prop where
  scheduleDummyTx : state.scheduleDummyTx = false
  scheduleDummyRx : state.rx.scheduleDummyRx = false
  dataReadyPending : state.dataReadyPending = false
  readySem : state.readySem = 0
  waits : state.pc = .getReadySem

/-- Left alone, the driver makes at most so many transactions; every run comes to an end, and
it ends settled. -/
structure Quiesces (config : Config) (most : Nat) (state : State) : Prop where
  transfers : ∀ later, Run (step config) Quiet state later →
    later.transfers ≤ state.transfers + most
  ends : ∃ steps, ∀ acts later, Admits (step config) Quiet state acts →
    exec (step config) state acts = some later → acts.length ≤ steps
  settled : ∀ later, Run (step config) Quiet state later →
    (∀ act, Quiet later act → step config later act = none) → Settled later

/-- A reachable state with empty queues. -/
structure Drained (config : Config) (state : State) : Prop where
  run : Run (step config) unguarded init state
  empty : ∀ prio, state.toSlave prio = []

section Drained
variable {act : Act}

theorem Drained.counts (drained : Drained config state) :
    state.semToSlave = 0 ∧ state.posting = 0 ∧ credit state.pc = 0 := by
  have frames := (queueInv_reached drained.run).frames
  rw [size_zero_iff.mpr drained.empty] at frames
  omega

theorem Drained.not_dequeue (drained : Drained config state) (pass : Pass) (prio : Prio) :
    state.pc ≠ .dequeue pass prio := by
  intro pc
  have counts := drained.counts.2.2
  rw [pc] at counts
  cases counts

theorem processRxbuff_idle {rxbuff : List UInt8} (idle : Idle rxbuff) (put : Bool) (rx : HostRx) :
    (processRxbuff put rx rxbuff).1.scheduleDummyRx = false ∧
      (processRxbuff put rx rxbuff).2 ≠ 0 := by
  simp [processRxbuff, idle.1, idle.2]

/-- A transaction goes with a frame or makes up for one that is to follow. -/
def DummyTx (state : State) : Prop :=
  ∀ pass tx, state.pc = .transfer pass tx → state.scheduleDummyTx = tx.isSome

theorem dummyTx_task {act : TaskAct} (taken : taskStep before act = some after) : DummyTx after := by
  cases taskStep_moves taken with
  | enter | handshake | exchange | take | pass | form | freeTx | repost => exact fun _ _ => nofun
  | dataReady handshake => cases handshake <;> exact fun _ _ => nofun
  | dequeue pass prio =>
      unfold dequeueStep
      split
      · exact fun _ _ => nofun
      · cases prio <;> exact fun _ _ => nofun
  | decide pass tx =>
      unfold decideStep
      split
      · intro _ sent here
        cases here
        rfl
      · exact fun _ _ => nofun
  | transfer pass tx rxbuff put => cases rxbuff <;> exact fun _ _ => nofun
  | rearm pass failed =>
      unfold rearmStep
      split <;> exact fun _ _ => nofun

theorem dummyTx_step (inv : DummyTx before) (taken : step config before act = some after) :
    DummyTx after := by
  cases act with
  | call transportUp frame =>
      cases taken
      unfold callStep
      split <;> exact inv
  | put index ok => cases putStep_puts taken <;> exact inv
  | postToSlave =>
      obtain ⟨_, rfl⟩ := postToSlave_cases taken
      exact inv
  | postReady =>
      obtain ⟨_, rfl⟩ := postReady_cases taken
      exact inv
  | handshakeIsr | dataReadyIsr =>
      cases taken
      exact inv
  | task act => exact dummyTx_task taken

theorem dummyTx_reached (run : Run (step config) unguarded init state) : DummyTx state := by
  apply run.invariant
  · exact fun _ _ => nofun
  · intro before act after _ inv _ taken
    exact dummyTx_step inv taken

theorem drained_task {act : TaskAct} (drained : Drained config before)
    (taken : taskStep before act = some after) (prio : Prio) : after.toSlave prio = [] := by
  have empty := drained.empty prio
  cases taskStep_moves taken with
  | enter | handshake | dataReady | exchange | take | pass | form | freeTx | repost => exact empty
  | dequeue pass level pc => exact absurd pc (drained.not_dequeue pass level)
  | decide pass tx =>
      unfold decideStep
      split <;> exact empty
  | transfer pass tx rxbuff put => cases rxbuff <;> exact empty
  | rearm pass failed =>
      unfold rearmStep
      split <;> exact empty

theorem Drained.next (drained : Drained config before) (quiet : Quiet before act)
    (taken : step config before act = some after) : Drained config after := by
  refine ⟨.next act drained.run trivial taken, ?_⟩
  cases act with
  | call _ _ | put _ _ | handshakeIsr | dataReadyIsr => exact absurd quiet id
  | postToSlave =>
      obtain ⟨_, rfl⟩ := postToSlave_cases taken
      exact drained.empty
  | postReady =>
      obtain ⟨_, rfl⟩ := postReady_cases taken
      exact drained.empty
  | task act => exact fun prio => drained_task drained taken prio

end Drained

/-- What is left of a pass. -/
def left : Pc → Nat
  | .getReadySem => 0
  | .repost _ _ => 1
  | .rearm _ _ => 2
  | .freeTx _ _ _ => 3
  | .transfer _ _ => 4
  | .decide _ _ => 5
  | .formBuffer _ _ => 6
  | .dequeue _ _ => 7
  | .getToSlaveSem _ => 8
  | .exchange _ => 9
  | .readDataReady _ => 10
  | .readHandshake => 11

/-- The posts of this pass that are to come: behind a frame goes one dummy transaction. -/
def owed (state : State) : Nat :=
  match state.pc with
  | .readDataReady false | .formBuffer _ _ | .decide _ (some _) | .transfer _ (some _) => 1
  | .freeTx _ _ _ | .rearm _ _ => (dummies state).toNat
  | .repost handshake retry => (!handshake || dummies state || retry).toNat
  | .getReadySem | .readHandshake | .readDataReady true | .exchange _ | .getToSlaveSem _
  | .dequeue _ _ | .decide _ none | .transfer _ none => 0

/-- The transactions that are to come. -/
def due (state : State) : Nat :=
  match state.pc with
  | .formBuffer _ _ | .decide _ (some _) | .transfer _ (some _) => 2
  | .transfer _ none => 1
  | .getReadySem | .readHandshake | .readDataReady _ | .exchange _ | .getToSlaveSem _
  | .dequeue _ _ | .decide _ none | .freeTx _ _ _ | .rearm _ _ | .repost _ _ =>
      (dummies state).toNat

def rank (state : State) : Nat :=
  16 * (state.readySem + owed state) + 17 * state.waking + left state.pc

/-- A quiet step brings the driver nearer to its end. -/
structure Nearer (before after : State) : Prop where
  rearms : rearms after = false
  rank : rank after < rank before
  transfers : after.transfers + due after ≤ before.transfers + due before

theorem postReadySem_le (readySem : Nat) : postReadySem readySem ≤ readySem + 1 := by
  unfold postReadySem post
  split <;> omega

theorem due_le (state : State) : due state ≤ 2 := by
  have flag := Bool.toNat_le (dummies state)
  unfold due
  split <;> omega

section Nearer
variable {act : TaskAct} {pass : Pass}

/-- The pass reads on with no frame in its hands. -/
theorem nearer_reads (latch : rearms after = false)
    (readySem : after.readySem = before.readySem) (waking : after.waking = before.waking)
    (owes : owed after ≤ owed before) (shorter : left after.pc < left before.pc)
    (transfers : after.transfers = before.transfers) (dues : due after ≤ due before) :
    Nearer before after where
  rearms := latch
  rank := by
    unfold rank
    rw [readySem, waking]
    omega
  transfers := by
    rw [transfers]
    omega

theorem nearer_enter (latch : rearms before = false) (pc : before.pc = .getReadySem)
    (positive : 0 < before.readySem) :
    Nearer before { before with readySem := before.readySem - 1, pc := .readHandshake } where
  rearms := by
    simpa [rearms, pc, latchedIn] using latch
  rank := by
    simp only [rank, owed, left, pc]
    omega
  transfers := by
    simp [due, pc, dummies]

theorem nearer_exchange {rxDataReady : Bool} (latch : rearms before = false)
    (pc : before.pc = .exchange rxDataReady) :
    Nearer before
      { before with
        dataReadyPending := false
        pc := .getToSlaveSem ⟨rxDataReady, before.dataReadyPending⟩ } := by
  simp only [rearms, pc, latchedIn, Bool.or_eq_false_iff] at latch
  apply nearer_reads
  case latch => simp [rearms, latchedIn, latch]
  case owes => simp [owed, pc]
  case shorter => simp [left, pc]
  case dues => simp [due, pc, dummies]
  all_goals rfl

theorem nearer_form {frame : TxFrame} (latch : rearms before = false)
    (pc : before.pc = .formBuffer pass frame) : Nearer before (formStep before pass frame) := by
  apply nearer_reads
  case latch => simpa [rearms, pc, formStep, latchedIn] using latch
  case owes =>
    by_cases empty : frame.buf.payloadLen = 0 <;> simp [owed, pc, formStep, empty]
  case shorter => simp [left, pc, formStep]
  case dues =>
    have most := due_le (formStep before pass frame)
    have here : due before = 2 := by simp [due, pc]
    omega
  all_goals rfl

theorem nearer_decide {tx : Option TxFrame} (latch : rearms before = false)
    (pc : before.pc = .decide pass tx) : Nearer before (decideStep before pass tx) := by
  simp only [rearms, pc, latchedIn, Bool.or_eq_false_iff] at latch
  obtain ⟨pending, latched, seen⟩ := latch
  cases tx with
  | some frame =>
      simp only [decideStep, Option.isSome_some, Bool.or_true, Bool.true_or, if_true]
      apply nearer_reads
      case latch => simp [rearms, latchedIn, pending, latched, seen]
      case owes => simp [owed, pc]
      case shorter => simp [left, pc]
      case dues => simp [due, pc]
      all_goals rfl
  | none =>
      cases flags : dummies before with
      | true =>
          have flags' := flags
          simp only [dummies] at flags'
          simp only [decideStep, latched, seen, Option.isSome_none, Bool.or_false, Bool.false_or,
            flags', if_true]
          apply nearer_reads
          case latch => simp [rearms, latchedIn, pending, latched, seen]
          case owes => simp [owed, pc]
          case shorter => simp [left, pc]
          case dues => simp [due, pc, flags]
          all_goals rfl
      | false =>
          have flags' := flags
          simp only [dummies] at flags'
          simp only [decideStep, latched, seen, Option.isSome_none, Bool.or_false, Bool.false_or,
            flags', Bool.false_eq_true, if_false]
          apply nearer_reads
          case latch => simp [rearms, latchedIn, pending, latched, seen]
          case owes => simp [owed, pc, dummies, flags']
          case shorter => simp [left, pc]
          case dues => simp [due, pc, dummies]
          all_goals rfl

/-- A transaction that fetches the idle frame leaves at most the dummy behind a frame. -/
theorem nearer_transfer {tx : Option TxFrame} {idle : List UInt8} {put : Bool}
    (dummyTx : DummyTx before) (latch : rearms before = false) (fetched : Idle idle)
    (pc : before.pc = .transfer pass tx) :
    Nearer before (transferStep before pass tx (some idle) put) := by
  obtain ⟨cleared, _⟩ := processRxbuff_idle fetched put before.rx
  have sent := dummyTx pass tx pc
  simp only [rearms, pc, latchedIn, Bool.or_eq_false_iff] at latch
  obtain ⟨pending, latched, seen⟩ := latch
  constructor
  case rearms => simp [rearms, transferStep, latchedIn, pending, latched, seen]
  case rank =>
    have waking : (transferStep before pass tx (some idle) put).waking = before.waking := rfl
    have readySem : (transferStep before pass tx (some idle) put).readySem = before.readySem := rfl
    have next : left (transferStep before pass tx (some idle) put).pc = 3 := rfl
    have here : left before.pc = 4 := by rw [pc, left]
    have owes : owed (transferStep before pass tx (some idle) put) ≤ owed before := by
      cases tx <;> simp [owed, transferStep, pc, dummies, cleared, sent]
    unfold rank
    rw [waking, readySem, next, here]
    omega
  case transfers =>
    cases tx <;> simp [due, transferStep, pc, dummies, cleared, sent]

theorem nearer_rearm {failed : Bool} (latch : rearms before = false)
    (pc : before.pc = .rearm pass failed) : Nearer before (rearmStep before pass failed) := by
  have latch' := latch
  simp only [rearms, pc, latchedIn, Bool.or_eq_false_iff] at latch'
  simp only [rearmStep, latch'.2, Bool.false_eq_true, if_false]
  apply nearer_reads
  case latch => simp [rearms, latchedIn, latch'.1]
  case owes => simp [owed, pc, dummies]
  case shorter => simp [left, pc]
  case dues => simp [due, pc, dummies]
  all_goals rfl

theorem nearer_repost {handshake retry : Bool} (latch : rearms before = false)
    (pc : before.pc = .repost handshake retry) :
    Nearer before (repostStep before handshake retry) := by
  have one := postReadySem_le before.readySem
  constructor
  case rearms => simpa [rearms, repostStep, pc, latchedIn] using latch
  case rank =>
    have same : (!handshake || before.scheduleDummyTx || before.rx.scheduleDummyRx || retry) =
        (!handshake || dummies before || retry) := by rw [dummies, Bool.or_assoc (!handshake)]
    simp only [rank, owed, left, pc, repostStep, same]
    cases again : (!handshake || dummies before || retry) with
    | true =>
        simp only [if_true, Bool.toNat_true]
        omega
    | false =>
        simp only [Bool.false_eq_true, if_false, Bool.toNat_false]
        omega
  case transfers => simp [due, repostStep, pc, dummies]

theorem nearer_task (drained : Drained config before) (latch : rearms before = false)
    (quiet : QuietTask before.pc act) (taken : taskStep before act = some after) :
    Nearer before after := by
  cases taskStep_moves taken with
  | enter pc positive => exact nearer_enter latch pc positive
  | handshake active pc =>
      rw [pc] at quiet
      have active : active = true := quiet
      subst active
      apply nearer_reads
      case latch => simpa [rearms, pc, latchedIn] using latch
      case owes => simp [owed, pc]
      case shorter => simp [left, pc]
      case dues => simp [due, pc, dummies]
      all_goals rfl
  | dataReady handshake active pc =>
      rw [pc] at quiet
      have active : active = false := quiet
      subst active
      apply nearer_reads
      case latch => cases handshake <;> simpa [rearms, pc, latchedIn] using latch
      case owes => cases handshake <;> simp [owed, pc]
      case shorter => cases handshake <;> simp [left, pc]
      case dues => cases handshake <;> simp [due, pc, dummies]
      all_goals rfl
  | exchange rxDataReady pc => exact nearer_exchange latch pc
  | take pass pc positive =>
      rw [drained.counts.1] at positive
      exact absurd positive (Nat.lt_irrefl 0)
  | pass pass pc =>
      apply nearer_reads
      case latch => simpa [rearms, pc, latchedIn] using latch
      case owes => simp [owed, pc]
      case shorter => simp [left, pc]
      case dues => simp [due, pc, dummies]
      all_goals rfl
  | dequeue pass prio pc => exact absurd pc (drained.not_dequeue pass prio)
  | form pass frame pc => exact nearer_form latch pc
  | decide pass tx pc => exact nearer_decide latch pc
  | transfer pass tx rxbuff put pc =>
      rw [pc] at quiet
      obtain ⟨idle, rfl, fetched⟩ := quiet
      exact nearer_transfer (dummyTx_reached drained.run) latch fetched pc
  | freeTx pass tx failed pc =>
      apply nearer_reads
      case latch => simpa [rearms, pc, latchedIn] using latch
      case owes => simp [owed, pc, dummies]
      case shorter => simp [left, pc]
      case dues => simp [due, pc, dummies]
      all_goals rfl
  | rearm pass failed pc => exact nearer_rearm latch pc
  | repost handshake retry pc => exact nearer_repost latch pc

theorem nearer_step {act : Act} (drained : Drained config before) (latch : rearms before = false)
    (quiet : Quiet before act) (taken : step config before act = some after) :
    Nearer before after := by
  cases act with
  | call _ _ | put _ _ | handshakeIsr | dataReadyIsr => exact absurd quiet id
  | postToSlave =>
      obtain ⟨positive, _⟩ := postToSlave_cases taken
      rw [drained.counts.2.1] at positive
      exact absurd positive (Nat.lt_irrefl 0)
  | postReady =>
      have one := postReadySem_le before.readySem
      obtain ⟨positive, rfl⟩ := postReady_cases taken
      refine ⟨latch, ?_, Nat.le_refl _⟩
      have owes : owed { before with
          readySem := postReadySem before.readySem
          waking := before.waking - 1 } = owed before := rfl
      unfold rank
      rw [owes]
      simp only
      omega
  | task act => exact nearer_task drained latch quiet taken

end Nearer

theorem idle_dummyFrame (throttling : Bool) : Idle (dummyFrame throttling) := by
  have read : decodeHeader (dummyFrame throttling) = dummyHeader throttling :=
    decodeHeader_encode _ _ (by cases throttling <;> decide) (by cases throttling <;> decide)
      (by cases throttling <;> decide)
  rw [Idle, read]
  exact ⟨rfl, rfl⟩

/-- Only the wait for `spi_trans_ready_sem` holds the task up. -/
theorem waits_of_stuck (stuck : ∀ act, Quiet state act → step config state act = none) :
    state.pc = .getReadySem ∧ state.readySem = 0 := by
  cases pc : state.pc with
  | getReadySem =>
      have none := stuck (.task .go) (by rw [Quiet, pc]; trivial)
      simp only [step, taskStep, pc] at none
      refine ⟨rfl, ?_⟩
      by_contra positive
      rw [if_pos (Nat.pos_of_ne_zero positive)] at none
      cases none
  | readHandshake =>
      have none := stuck (.task (.sees true)) (by rw [Quiet, pc]; rfl)
      simp [step, taskStep, pc] at none
  | readDataReady handshake =>
      have none := stuck (.task (.sees false)) (by rw [Quiet, pc]; rfl)
      simp [step, taskStep, pc] at none
  | transfer pass tx =>
      have none := stuck (.task (.transfers (some (dummyFrame false)) true))
        (by rw [Quiet, pc]; exact ⟨_, rfl, idle_dummyFrame false⟩)
      simp [step, taskStep, pc] at none
  | getToSlaveSem pass =>
      have none := stuck (.task .go) (by rw [Quiet, pc]; trivial)
      simp only [step, taskStep, pc] at none
      split at none <;> cases none
  | exchange _ | dequeue _ _ | formBuffer _ _ | decide _ _ | freeTx _ _ _ | rearm _ _
  | repost _ _ =>
      have none := stuck (.task .go) (by rw [Quiet, pc]; trivial)
      simp [step, taskStep, pc] at none

theorem settled_of_stuck (drained : Drained config state) (latch : rearms state = false)
    (stuck : ∀ act, Quiet state act → step config state act = none) : Settled state := by
  obtain ⟨waits, zero⟩ := waits_of_stuck stuck
  have inv := wakeInv_reached drained.run
  have flags : (state.scheduleDummyTx || state.rx.scheduleDummyRx) = false := by
    cases flags : state.scheduleDummyTx || state.rx.scheduleDummyRx with
    | false => rfl
    | true =>
        have positive := inv.dummy flags waits
        omega
  rw [Bool.or_eq_false_iff] at flags
  rw [rearms, Bool.or_eq_false_iff] at latch
  exact
    { scheduleDummyTx := flags.1, scheduleDummyRx := flags.2, dataReadyPending := latch.1
      readySem := zero, waits := waits }

/-- What a quiet run keeps while no edge is latched. -/
structure Unlatched (config : Config) (state : State) : Prop where
  drained : Drained config state
  latch : rearms state = false

theorem unlatched_run {later : State} (unlatched : Unlatched config state)
    (run : Run (step config) Quiet state later) :
    Unlatched config later ∧ later.transfers + due later ≤ state.transfers + due state := by
  apply run.invariant
  · exact ⟨unlatched, Nat.le_refl _⟩
  · intro before act after _ inv quiet taken
    obtain ⟨⟨drained, latch⟩, spent⟩ := inv
    have nearer := nearer_step drained latch quiet taken
    exact ⟨⟨drained.next quiet taken, nearer.rearms⟩, Nat.le_trans nearer.transfers spent⟩

/-- Without a latched edge the driver comes to rest, at most two transactions later. -/
theorem quiesces_two (unlatched : Unlatched config state) : Quiesces config 2 state where
  transfers later run := by
    have spent := (unlatched_run unlatched run).2
    have most := due_le state
    omega
  ends := by
    refine ⟨rank state, ?_⟩
    intro acts later admitted result
    have shorter := admitted_length rank (fun before act after inv quiet taken =>
      have nearer := nearer_step inv.drained inv.latch quiet taken
      ⟨⟨inv.drained.next quiet taken, nearer.rearms⟩, nearer.rank⟩)
      acts unlatched admitted result
    omega
  settled later run stuck := by
    obtain ⟨inv, _⟩ := unlatched_run unlatched run
    exact settled_of_stuck inv.drained inv.latch stuck

/-- The pass will make a transaction for the edge. -/
def sure : Pc → Nat
  | .readHandshake | .readDataReady true | .exchange _ => 1
  | .getToSlaveSem pass | .dequeue pass _ | .formBuffer pass _ | .decide pass _
  | .transfer pass _ => (pass.latched || pass.rxDataReady).toNat
  | .getReadySem | .readDataReady false | .freeTx _ _ _ | .rearm _ _ | .repost _ _ => 0

/-- A quiet step towards the next wait that keeps the edge latched. -/
structure Onward (config : Config) (before after : State) : Prop where
  step : ∃ act, Quiet before act ∧ step config before act = some after
  rearms : rearms after = true
  shorter : left after.pc < left before.pc
  transfers : before.transfers + sure before.pc ≤ after.transfers + sure after.pc

section Onward
variable {pass : Pass}

theorem quiet_go (state : State) : Quiet state (.task .go) := by
  unfold Quiet
  cases state.pc <;> exact trivial

theorem onward_go (taken : taskStep before .go = some after) (latch : rearms after = true)
    (shorter : left after.pc < left before.pc)
    (transfers : before.transfers + sure before.pc ≤ after.transfers + sure after.pc) :
    Onward config before after :=
  ⟨⟨.task .go, quiet_go before, taken⟩, latch, shorter, transfers⟩

theorem onward_sees {handshake : Bool} (latch : rearms before = true)
    (pc : before.pc = .readDataReady handshake) :
    Onward config before
      { before with pc := if handshake then .exchange false else .repost false false } where
  step := by
    refine ⟨.task (.sees false), ?_, by simp only [step, taskStep, pc]⟩
    simp only [Quiet, pc, QuietTask]
  rearms := by
    simp only [rearms, pc, latchedIn, Bool.or_false] at latch
    simp [rearms, latch]
  shorter := by
    cases handshake <;> simp [left, pc]
  transfers := by
    cases handshake <;> simp [sure, pc]

theorem onward_decide {tx : Option TxFrame} (latch : rearms before = true)
    (pc : before.pc = .decide pass tx) : Onward config before (decideStep before pass tx) where
  step := ⟨.task .go, quiet_go before, by simp only [step, taskStep, pc]⟩
  rearms := by
    rw [rearms, pc, latchedIn] at latch
    unfold decideStep
    split <;> simpa [rearms, latchedIn] using latch
  shorter := by
    unfold decideStep
    split <;> simp [left, pc]
  transfers := by
    unfold decideStep
    split
    · simp [pc, sure]
    · rename_i none
      simp only [Bool.or_eq_true, not_or, Bool.not_eq_true] at none
      simp [pc, sure, none]

theorem onward_transfer {tx : Option TxFrame} (latch : rearms before = true)
    (pc : before.pc = .transfer pass tx) :
    Onward config before (transferStep before pass tx (some (dummyFrame false)) true) where
  step := by
    refine ⟨.task (.transfers (some (dummyFrame false)) true), ?_, by simp only [step, taskStep, pc]⟩
    rw [Quiet, pc]
    exact ⟨_, rfl, idle_dummyFrame false⟩
  rearms := by
    have failed := (processRxbuff_idle (idle_dummyFrame false) true before.rx).2
    rw [rearms, pc, latchedIn] at latch
    simpa [rearms, transferStep, latchedIn, failed] using latch
  shorter := by simp [left, transferStep, pc]
  transfers := by
    have most := Bool.toNat_le (pass.latched || pass.rxDataReady)
    simp only [transferStep, pc, sure]
    omega

theorem onward_rearm {failed : Bool} (latch : rearms before = true)
    (pc : before.pc = .rearm pass failed) : Onward config before (rearmStep before pass failed) where
  step := ⟨.task .go, quiet_go before, by simp only [step, taskStep, pc]⟩
  rearms := by
    rw [rearms, pc, latchedIn] at latch
    unfold rearmStep
    split
    · rfl
    · rename_i done
      rw [Bool.not_eq_true] at done
      rw [done, Bool.or_false] at latch
      simpa [rearms, latchedIn] using latch
  shorter := by
    unfold rearmStep
    split <;> simp [left, pc]
  transfers := by
    unfold rearmStep
    split <;> simp [sure, pc]

theorem onward (drained : Drained config before) (latch : rearms before = true)
    (busy : before.pc ≠ .getReadySem) : ∃ after, Onward config before after := by
  cases pc : before.pc with
  | getReadySem => exact absurd pc busy
  | readHandshake =>
      refine ⟨{ before with pc := .readDataReady true }, ⟨.task (.sees true), ?_, ?_⟩, ?_, ?_, ?_⟩
      · rw [Quiet, pc]
        rfl
      · simp only [step, taskStep, pc]
      · simpa [rearms, pc, latchedIn] using latch
      · simp [left, pc]
      · simp [sure, pc]
  | readDataReady handshake => exact ⟨_, onward_sees latch pc⟩
  | exchange rxDataReady =>
      refine ⟨_, onward_go (by simp only [taskStep, pc]; rfl) ?_ ?_ ?_⟩
      · simpa [rearms, pc, latchedIn] using latch
      · simp [left, pc]
      · simp only [rearms, pc, latchedIn] at latch
        simp [sure, pc, latch]
  | getToSlaveSem pass =>
      have none : ¬ 0 < before.semToSlave := by
        rw [drained.counts.1]
        exact Nat.lt_irrefl 0
      refine ⟨_, onward_go (by simp only [taskStep, pc, none, if_false]; rfl) ?_ ?_ ?_⟩
      · simpa [rearms, pc, latchedIn] using latch
      · simp [left, pc]
      · simp [sure, pc]
  | dequeue pass prio => exact absurd pc (drained.not_dequeue pass prio)
  | formBuffer pass frame =>
      refine ⟨_, onward_go (by simp only [taskStep, pc]; rfl) ?_ ?_ ?_⟩
      · simpa [rearms, pc, formStep, latchedIn] using latch
      · simp [left, formStep, pc]
      · simp [sure, formStep, pc]
  | decide pass tx => exact ⟨_, onward_decide latch pc⟩
  | transfer pass tx => exact ⟨_, onward_transfer latch pc⟩
  | freeTx pass tx failed =>
      refine ⟨_, onward_go (by simp only [taskStep, pc]; rfl) ?_ ?_ ?_⟩
      · simpa [rearms, pc, latchedIn] using latch
      · simp [left, pc]
      · simp [sure, pc]
  | rearm pass failed => exact ⟨_, onward_rearm latch pc⟩
  | repost handshake retry =>
      refine ⟨_, onward_go (by simp only [taskStep, pc]; rfl) ?_ ?_ ?_⟩
      · simpa [rearms, pc, repostStep, latchedIn] using latch
      · simp [left, repostStep, pc]
      · simp [sure, repostStep, pc]

/-- Waiting with an edge latched, some transactions later. -/
structure StillLatched (config : Config) (start : State) (transfers : Nat) (later : State) :
    Prop where
  run : Run (step config) Quiet start later
  drained : Drained config later
  latch : rearms later = true
  waits : later.pc = .getReadySem
  transfers : transfers ≤ later.transfers

/-- The induction is on what is left of the pass. -/
theorem pass_ends (steps : Nat) (short : left state.pc ≤ steps) (drained : Drained config state)
    (latch : rearms state = true) :
    ∃ later, StillLatched config state (state.transfers + sure state.pc) later := by
  induction steps generalizing state with
  | zero =>
      have waits : state.pc = .getReadySem := by
        cases pc : state.pc <;> simp [pc, left] at short
        rfl
      exact ⟨state, .refl, drained, latch, waits, by rw [waits]; exact Nat.le_refl _⟩
  | succ steps ih =>
      by_cases waits : state.pc = .getReadySem
      · exact ⟨state, .refl, drained, latch, waits, by rw [waits]; exact Nat.le_refl _⟩
      · obtain ⟨next, ⟨act, quiet, taken⟩, still, shorter, made⟩ := onward drained latch waits
        obtain ⟨later, ends⟩ := ih (by omega) (drained.next quiet taken) still
        have first : Run (step config) Quiet state next := .next act .refl quiet taken
        exact ⟨later, first.trans ends.run, ends.drained, ends.latch, ends.waits,
          Nat.le_trans made ends.transfers⟩

/-- And every pass makes one more. -/
theorem passes_go_on (drained : Drained config state) (latch : rearms state = true) (more : Nat) :
    ∃ later, StillLatched config state (state.transfers + more) later := by
  induction more with
  | zero =>
      obtain ⟨later, ends⟩ := pass_ends (left state.pc) (Nat.le_refl _) drained latch
      exact ⟨later, { ends with transfers := Nat.le_trans (Nat.le_add_right _ _) ends.transfers }⟩
  | succ more ih =>
      obtain ⟨waiting, run, waiting_drained, waiting_latch, waits, made⟩ := ih
      have latched : waiting.dataReadyPending = true := by
        simpa [rearms, waits, latchedIn] using waiting_latch
      have positive : 0 < waiting.readySem := by
        rcases (wakeInv_reached waiting_drained.run).pending latched with there | looked
        · exact there
        · rw [waits] at looked
          cases looked
      have quiet : Quiet waiting (.task .go) := quiet_go waiting
      have entered : step config waiting (.task .go) =
          some { waiting with readySem := waiting.readySem - 1, pc := .readHandshake } := by
        simp only [step, taskStep, waits, positive, if_true]
      have next_latch : rearms
          { waiting with readySem := waiting.readySem - 1, pc := .readHandshake } = true := by
        simp [rearms, latched]
      obtain ⟨later, ends⟩ := pass_ends 11 (Nat.le_refl _)
        (waiting_drained.next quiet entered) next_latch
      refine ⟨later, (run.trans (.next _ .refl quiet entered)).trans ends.run, ends.drained,
        ends.latch, ends.waits, ?_⟩
      have one := ends.transfers
      simp only [sure] at one
      omega

theorem not_quiesces (drained : Drained config state) (latch : rearms state = true) (most : Nat) :
    ¬ Quiesces config most state := by
  intro quiesces
  obtain ⟨later, ends⟩ := passes_go_on drained latch (most + 1)
  have few := quiesces.transfers later ends.run
  have many := ends.transfers
  omega

end Onward

/-- Left alone with empty queues, the driver comes to rest just when no edge of the
data-ready line is latched and no pass is going to latch one again. -/
theorem quiesces_iff_unlatched (config : Config) (state : State)
    (reached : Run (step config) unguarded init state) (empty : ∀ prio, state.toSlave prio = []) :
    (∃ most, Quiesces config most state) ↔ rearms state = false := by
  have drained : Drained config state := ⟨reached, empty⟩
  constructor
  · rintro ⟨most, quiesces⟩
    cases latch : rearms state with
    | false => rfl
    | true => exact absurd quiesces (not_quiesces drained latch most)
  · intro latch
    exact ⟨2, quiesces_two ⟨drained, latch⟩⟩

/-- A datagram of the station, copied. -/
def datagram : TxFrame where
  buf :=
    { ifType := espStaIf, ifNum := 0, payloadZcopy := false, payloadLen := 60
      payload := List.replicate 60 1 }
  wbuffer := some 1
  freeWbufFun := true

/-- The pass behind the datagram is done, that with the dummy is to come. -/
def datagramSent : List Act := sent datagram ++ framePass 3 (dummyFrame false)

theorem quiesces_behind_datagram : ∃ state, state.scheduleDummyTx = true ∧
    ∃ most, Quiesces ⟨20, by decide⟩ most state := by
  obtain ⟨state, run, empty, dummy, latch⟩ := exec_reaches (step ⟨20, by decide⟩) init datagramSent
    (fun state => (∀ prio, state.toSlave prio = []) ∧ state.scheduleDummyTx = true ∧
      rearms state = false) (by decide)
  exact ⟨state, dummy, (quiesces_iff_unlatched ⟨20, by decide⟩ state run empty).mpr latch⟩

/-- The slave raises the data-ready line for an event while the pass is under way that
fetches it. -/
def eventFetched : List Act :=
  sent datagram ++ passBegin false 7 ++
    [.dataReadyIsr, .task (.transfers (espSpiWrite 0 slaveEvent) true)] ++
    List.replicate 3 (.task .go)

/-- The edge is left over, and every idle frame that is fetched for it latches it again. -/
theorem edge_never_ends : ∃ state, Run (step ⟨20, by decide⟩) unguarded init state ∧
    (∀ prio, state.toSlave prio = []) ∧ ¬ ∃ most, Quiesces ⟨20, by decide⟩ most state := by
  obtain ⟨state, run, empty, latch⟩ := exec_reaches (step ⟨20, by decide⟩) init eventFetched
    (fun state => (∀ prio, state.toSlave prio = []) ∧ rearms state = true) (by decide)
  refine ⟨state, run, empty, ?_⟩
  rintro ⟨most, quiesces⟩
  exact not_quiesces ⟨run, empty⟩ latch most quiesces

end EspHosted.SpiQuiescence

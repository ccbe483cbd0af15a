import EspHosted.BufferOwnership
import EspHosted.HostWakeup
import EspHosted.SpiLink

/-!
The slave lets a throttled host go on only in the header of a frame or dummy that it builds
with its receive queue drained, and the host fetches one only when it makes a transaction.
A throttled station makes none by itself. So a release may never reach the host: when the
queue is drained behind the last transaction, or that one brings a frame built before.
-/

namespace EspHosted.Throttling
open SpiFrames HostFrames SlaveFrames QueueBank GuardedRun SpiLink

variable {config : Config} {before after state : State}

/-- A frame `esp_spi_write` built. -/
def Written (frame : List UInt8) : Prop :=
  ∃ throttle buf, writable buf = true ∧ espSpiWrite throttle buf = some frame

/-- What the slave arms: a frame or a dummy. -/
def Built (frame : List UInt8) : Prop :=
  Written frame ∨ ∃ throttling, frame = dummyFrame throttling

/-- A frame with something in it for the host. -/
def Speaks (frame : List UInt8) : Prop := (decodeHeader frame).len ≠ 0

theorem len_of_dummy (throttling : Bool) : ¬ Speaks (dummyFrame throttling) := by
  cases throttling <;> exact not_not.mpr (by decide)

/-- What the host makes of a written frame. -/
structure Heard (rx : HostRx) (received : HostRx × Int) (frame : List UInt8) : Prop where
  speaks : Speaks frame
  ifType : (decodeHeader frame).ifType ≠ espMaxIf
  throttling : received.1.wifiTxThrottling = (decodeHeader frame).throttleCmd
  dummy : received.1.scheduleDummyRx =
    (rx.scheduleDummyRx || armsDummyRx (decodeHeader frame).ifType)
  ret : received.2 = 0

theorem written_heard {frame : List UInt8} (written : Written frame) (rx : HostRx) :
    Heard rx (processRxbuff true rx frame) frame := by
  obtain ⟨throttle, buf, may, wrote⟩ := written
  simp only [writable, Bool.and_eq_true, decide_eq_true_eq] at may
  obtain ⟨⟨filled, ifType⟩, ifNum⟩ := may
  obtain ⟨positive, fits⟩ := (espSpiWrite_isSome throttle buf).mp (by rw [wrote]; rfl)
  have small : buf.ifType.toNat < 16 := Nat.lt_trans ifType (by decide)
  obtain ⟨sent, got, sent_wrote, header, accepted, same⟩ :=
    espSpiWrite_received filled positive fits small ifNum
  have one : sent = frame := Option.some.inj (sent_wrote.symm.trans wrote)
  subst one
  have kind : (decodeHeader sent).ifType = got.ifType := by
    rw [header, same.ifType]
    rfl
  have other : got.ifType ≠ espMaxIf := by
    intro idle
    rw [← same.ifType, idle] at ifType
    exact Nat.lt_irrefl _ ifType
  obtain ⟨ret, _, _, throttling, dummy⟩ := @processRxbuff_accepted rx _ _ accepted other
  refine ⟨?_, ?_, throttling, ?_, ret⟩
  · intro zero
    rw [header] at zero
    rw [show buf.payloadLen = 0 from zero] at positive
    exact Nat.lt_irrefl 0 positive
  · rw [kind]
    exact other
  · rw [kind]
    exact dummy

/-- Whatever the slave arms, the host takes its throttle state. -/
theorem built_throttling {frame : List UInt8} (built : Built frame) (rx : HostRx) :
    (processRxbuff true rx frame).1.wifiTxThrottling = (decodeHeader frame).throttleCmd := by
  rcases built with written | ⟨throttling, rfl⟩
  · exact (written_heard written rx).throttling
  · have none := not_not.mp (len_of_dummy throttling)
    simp [processRxbuff, none]

/-- The slave's task has no buffer armed and none to look at while it gets the next one. -/
def arming : SlaveDriver.Pc → Bool
  | .takeTxSem | .receive _ | .lowerDataReady | .buildDummy | .queueTrans _ => true
  | .awaitResult | .processRx => false

structure Pipeline (slave : SlaveDriver.State) : Prop where
  putting : ∀ frame ∈ slave.putting, Written frame
  queued : ∀ prio, ∀ frame ∈ slave.txQueue prio, Written frame
  inHand : ∀ frame, slave.pc = .queueTrans frame → Built frame
  armed : ∀ frame, slave.armed = some frame → Built frame
  unarmed : arming slave.pc = true → slave.armed = none ∧ slave.ended = none
  ended : slave.ended.isSome = true → slave.armed = none

section Pipeline
variable {slave next : SlaveDriver.State} {slaveConfig : SlaveDriver.Config}

theorem Pipeline.not_arming {txBuffer : List UInt8} (inv : Pipeline slave)
    (armed : slave.armed = some txBuffer) : arming slave.pc = false := by
  cases gets : arming slave.pc with
  | false => rfl
  | true =>
      rw [(inv.unarmed gets).1] at armed
      cases armed

/-- A step of a writer or a reader, beside the task. -/
theorem pipeline_beside (inv : Pipeline slave) (putting : ∀ frame ∈ next.putting, Written frame)
    (queued : ∀ prio, ∀ frame ∈ next.txQueue prio, Written frame) (pc : next.pc = slave.pc)
    (armed : next.armed = slave.armed) (ended : next.ended = slave.ended) : Pipeline next where
  putting := putting
  queued := queued
  inHand := by
    rw [pc]
    exact inv.inHand
  armed := by
    rw [armed]
    exact inv.armed
  unarmed := by
    rw [pc, armed, ended]
    exact inv.unarmed
  ended := by
    rw [armed, ended]
    exact inv.ended

theorem pipeline_write {buf : IfaceBuf} (inv : Pipeline slave) (may : writable buf = true) :
    Pipeline (SlaveDriver.writeStep slaveConfig slave buf) := by
  unfold SlaveDriver.writeStep
  split
  · exact inv
  · rename_i frame wrote
    refine pipeline_beside inv ?_ inv.queued rfl rfl rfl
    intro other member
    rcases List.mem_append.mp member with older | new
    · exact inv.putting other older
    · rw [List.mem_singleton.mp new]
      exact ⟨_, buf, may, wrote⟩

theorem pipeline_put {index : Nat} (inv : Pipeline slave)
    (taken : SlaveDriver.putStep slaveConfig slave index = some next) : Pipeline next := by
  obtain ⟨frame, found, _, rfl⟩ := SlaveDriver.putStep_cases taken
  refine pipeline_beside inv ?_ ?_ rfl rfl rfl
  · exact fun other member => inv.putting other (List.mem_of_mem_eraseIdx member)
  · intro prio other member
    rcases mem_put member with older | rfl
    · exact inv.queued prio other older
    · exact inv.putting other (List.mem_of_getElem? found)

/-- A step of the task that neither takes a result nor arms a buffer. -/
theorem pipeline_goes (inv : Pipeline slave) (putting : next.putting = slave.putting)
    (queued : ∀ prio, ∀ frame ∈ next.txQueue prio, Written frame)
    (inHand : ∀ frame, next.pc = .queueTrans frame → Built frame)
    (armed : next.armed = slave.armed) (ended : next.ended = slave.ended)
    (pc : arming next.pc = true → arming slave.pc = true) : Pipeline next where
  putting := by
    rw [putting]
    exact inv.putting
  queued := queued
  inHand := inHand
  armed := by
    rw [armed]
    exact inv.armed
  unarmed gets := by
    rw [armed, ended]
    exact inv.unarmed (pc gets)
  ended := by
    rw [armed, ended]
    exact inv.ended

theorem pipeline_receive {prio : Prio} (inv : Pipeline slave) (pc : slave.pc = .receive prio) :
    Pipeline (SlaveDriver.receiveStep slave prio) := by
  have gets : arming slave.pc = true := by
    rw [pc]
    rfl
  unfold SlaveDriver.receiveStep
  split
  · rename_i frame rest queued
    apply pipeline_goes inv
    case queued => exact fun level other member => inv.queued level other (mem_get queued member)
    case inHand =>
      intro other here
      cases here
      exact Or.inl (inv.queued prio frame (by rw [queued]; exact List.mem_cons_self))
    case pc => exact fun _ => gets
    all_goals rfl
  · apply pipeline_goes inv
    case queued => exact inv.queued
    case inHand => cases prio <;> exact fun _ => nofun
    case pc => exact fun _ => gets
    all_goals rfl

theorem pipeline_task (inv : Pipeline slave)
    (taken : SlaveDriver.taskStep slaveConfig slave = some next) : Pipeline next := by
  cases SlaveDriver.taskStep_moves taken with
  | takeResult rxBuffer pc ended =>
      have armed : slave.armed = none := inv.ended (by rw [ended]; rfl)
      exact ⟨inv.putting, inv.queued, fun _ => nofun, inv.armed, fun _ => ⟨armed, rfl⟩, nofun⟩
  | take pc | pass pc | lowerDataReady pc =>
      exact pipeline_goes inv rfl inv.queued (fun _ => nofun) rfl rfl (fun _ => by rw [pc]; rfl)
  | receive prio pc => exact pipeline_receive inv pc
  | buildDummy pc =>
      refine pipeline_goes inv rfl inv.queued ?_ rfl rfl (fun _ => by rw [pc]; rfl)
      intro frame here
      cases here
      exact Or.inr ⟨_, rfl⟩
  | queueTrans txBuffer pc =>
      have ended : slave.ended = none := (inv.unarmed (by rw [pc]; rfl)).2
      refine ⟨inv.putting, inv.queued, fun _ => nofun, ?_, nofun, ?_⟩
      · intro frame armed
        cases armed
        exact inv.inHand txBuffer pc
      · rw [ended]
        exact nofun
  | dropRx pc | queueRx buf pc =>
      exact pipeline_goes inv rfl inv.queued (fun _ => nofun) rfl rfl nofun

theorem pipeline_step {act : SlaveDriver.Act} (inv : Pipeline slave) (may : slaveMay act = true)
    (taken : SlaveDriver.step slaveConfig slave act = some next) : Pipeline next := by
  cases act with
  | write buf =>
      cases taken
      exact pipeline_write inv may
  | put index => exact pipeline_put inv taken
  | give =>
      obtain ⟨_, rfl⟩ := SlaveDriver.giveStep_cases taken
      exact pipeline_beside inv inv.putting inv.queued rfl rfl rfl
  | raise =>
      obtain ⟨_, rfl⟩ := SlaveDriver.raiseStep_cases taken
      exact pipeline_beside inv inv.putting inv.queued rfl rfl rfl
  | task => exact pipeline_task inv taken
  | transact rxBuffer => cases may
  | recv =>
      cases SlaveDriver.recvStep_recvs taken
      exact pipeline_beside inv inv.putting inv.queued rfl rfl rfl

end Pipeline

theorem pipeline_reached {guard : State → Act → Prop} (run : Run (step config) guard init state) :
    Pipeline state.slave := by
  apply run.invariant
  · exact ⟨nofun, fun _ _ => nofun, fun _ => nofun, fun _ => nofun, fun _ => ⟨rfl, rfl⟩, nofun⟩
  · intro before act after _ inv _ taken
    cases act with
    | staTx transportUp buffer copyBuff =>
        cases taken
        exact inv
    | host act =>
        rw [(host_cases taken).2.1]
        exact inv
    | slave act =>
        obtain ⟨may, _, moved⟩ := slave_cases taken
        exact pipeline_step inv may moved
    | transfer =>
        obtain ⟨pass, tx, txBuffer, _, armed, _, slave⟩ := transfer_cases taken
        have waits := inv.not_arming armed
        rw [slave]
        refine ⟨inv.putting, inv.queued, inv.inHand, fun _ => nofun, ?_, fun _ => rfl⟩
        intro gets
        rw [waits] at gets
        cases gets

/-- The slave has a frame that is still to be armed. -/
def SlaveQueued (slave : SlaveDriver.State) : Prop :=
  (∃ prio, slave.txQueue prio ≠ []) ∨ slave.putting ≠ []

/-- The task of the slave has taken a frame. -/
def Carries : SlaveDriver.Pc → Prop
  | .queueTrans txBuffer => Speaks txBuffer
  | .awaitResult | .takeTxSem | .receive _ | .lowerDataReady | .buildDummy | .processRx => False

/-- The slave has a frame for the host. -/
def HasFrame (slave : SlaveDriver.State) : Prop :=
  SlaveQueued slave ∨ Carries slave.pc ∨ ∃ frame, slave.armed = some frame ∧ Speaks frame

section HasFrame
variable {slave next : SlaveDriver.State} {slaveConfig : SlaveDriver.Config}

theorem hasFrame_beside (held : HasFrame slave) (queued : SlaveQueued slave → SlaveQueued next)
    (pc : next.pc = slave.pc) (armed : next.armed = slave.armed) : HasFrame next := by
  rcases held with waits | carries | outside
  · exact Or.inl (queued waits)
  · exact Or.inr (Or.inl (by rw [pc]; exact carries))
  · exact Or.inr (Or.inr (by rw [armed]; exact outside))

theorem hasFrame_put {index : Nat} (held : HasFrame slave)
    (taken : SlaveDriver.putStep slaveConfig slave index = some next) : HasFrame next := by
  obtain ⟨frame, _, _, rfl⟩ := SlaveDriver.putStep_cases taken
  refine hasFrame_beside held ?_ rfl rfl
  exact fun _ => Or.inl ⟨SlaveDriver.framePrio frame, by simp [put]⟩

/-- A step of the task with no frame in its hands. -/
theorem hasFrame_goes (held : HasFrame slave) (queued : SlaveQueued slave → SlaveQueued next)
    (empty : ¬ Carries slave.pc) (armed : next.armed = slave.armed) : HasFrame next := by
  rcases held with waits | carries | outside
  · exact Or.inl (queued waits)
  · exact absurd carries empty
  · exact Or.inr (Or.inr (by rw [armed]; exact outside))

theorem hasFrame_receive {prio : Prio} (inv : Pipeline slave) (held : HasFrame slave)
    (pc : slave.pc = .receive prio) : HasFrame (SlaveDriver.receiveStep slave prio) := by
  have empty : ¬ Carries slave.pc := by
    rw [pc]
    exact id
  unfold SlaveDriver.receiveStep
  split
  · rename_i frame rest queued
    have written : Written frame := inv.queued prio frame (by rw [queued]; exact List.mem_cons_self)
    exact Or.inr (Or.inl (written_heard written idleHost).speaks)
  · exact hasFrame_goes held id empty rfl

theorem hasFrame_task (inv : Pipeline slave) (held : HasFrame slave)
    (taken : SlaveDriver.taskStep slaveConfig slave = some next) : HasFrame next := by
  cases SlaveDriver.taskStep_moves taken with
  | takeResult rxBuffer pc | take pc | pass pc | lowerDataReady pc | buildDummy pc | dropRx pc
  | queueRx buf pc =>
      exact hasFrame_goes held id (by rw [pc]; exact id) rfl
  | receive prio pc => exact hasFrame_receive inv held pc
  | queueTrans txBuffer pc =>
      have unarmed := (inv.unarmed (by rw [pc]; rfl)).1
      rcases held with waits | carries | ⟨frame, armed, _⟩
      · exact Or.inl waits
      · rw [pc] at carries
        exact Or.inr (Or.inr ⟨txBuffer, rfl, carries⟩)
      · rw [unarmed] at armed
        cases armed

/-- The slave loses no frame. -/
theorem hasFrame_step {act : SlaveDriver.Act} (inv : Pipeline slave) (held : HasFrame slave)
    (may : slaveMay act = true) (taken : SlaveDriver.step slaveConfig slave act = some next) :
    HasFrame next := by
  cases act with
  | write buf =>
      cases taken
      unfold SlaveDriver.writeStep
      split
      · exact held
      · refine hasFrame_beside held (fun _ => Or.inr ?_) rfl rfl
        simp
  | put index => exact hasFrame_put held taken
  | give =>
      obtain ⟨_, rfl⟩ := SlaveDriver.giveStep_cases taken
      exact hasFrame_beside held id rfl rfl
  | raise =>
      obtain ⟨_, rfl⟩ := SlaveDriver.raiseStep_cases taken
      exact hasFrame_beside held id rfl rfl
  | task => exact hasFrame_task inv held taken
  | transact rxBuffer => cases may
  | recv =>
      cases SlaveDriver.recvStep_recvs taken
      exact hasFrame_beside held id rfl rfl

/-- `recv_task` is about to take the last frame out of `PRIO_Q_OTHERS`. -/
structure LastDrained (slave : SlaveDriver.State) : Prop where
  serial : slave.rxQueue .serial = []
  bt : slave.rxQueue .bt = []
  others : (slave.rxQueue .others).length = 1

theorem drained_recv (taken : SlaveDriver.recvStep slave = some next)
    (empty : next.rxQueue .others = []) : slave.rxQueue .others = [] ∨ LastDrained slave := by
  obtain ⟨prio, buf, rest, queued, first⟩ := SlaveDriver.recvStep_recvs taken
  by_cases same : prio = .others
  · subst same
    simp only [Function.update_self] at empty
    obtain ⟨serial, bt⟩ := first rfl
    exact Or.inr ⟨serial, bt, by rw [queued, empty]; rfl⟩
  · simp only [Function.update_of_ne (Ne.symm same)] at empty
    exact Or.inl empty

theorem drained_task (taken : SlaveDriver.taskStep slaveConfig slave = some next)
    (empty : next.rxQueue .others = []) : slave.rxQueue .others = [] := by
  cases SlaveDriver.taskStep_moves taken with
  | takeResult | take | pass | lowerDataReady | buildDummy | queueTrans | dropRx => exact empty
  | receive prio =>
      unfold SlaveDriver.receiveStep at empty
      split at empty <;> exact empty
  | queueRx buf =>
      by_contra held
      exact put_ne_nil held empty

/-- Only `recv_task` drains the queue. -/
theorem drained_step {act : SlaveDriver.Act} (may : slaveMay act = true)
    (taken : SlaveDriver.step slaveConfig slave act = some next)
    (empty : next.rxQueue .others = []) :
    slave.rxQueue .others = [] ∨ act = .recv ∧ LastDrained slave := by
  cases act with
  | write buf =>
      cases taken
      unfold SlaveDriver.writeStep at empty
      split at empty <;> exact Or.inl empty
  | put index =>
      obtain ⟨_, _, _, rfl⟩ := SlaveDriver.putStep_cases taken
      exact Or.inl empty
  | give =>
      obtain ⟨_, rfl⟩ := SlaveDriver.giveStep_cases taken
      exact Or.inl empty
  | raise =>
      obtain ⟨_, rfl⟩ := SlaveDriver.raiseStep_cases taken
      exact Or.inl empty
  | task => exact Or.inl (drained_task taken empty)
  | transact rxBuffer => cases may
  | recv =>
      rcases drained_recv taken empty with before | last
      · exact Or.inl before
      · exact Or.inr ⟨rfl, last⟩

end HasFrame

/-- The pass has something to make a transaction for, or is going to latch its edge again. -/
def toTransact : SpiDriver.Pc → Bool
  | .exchange rxDataReady => rxDataReady
  | .getToSlaveSem pass | .dequeue pass _ => pass.latched || pass.rxDataReady
  | .formBuffer _ _ | .transfer _ _ => true
  | .decide pass tx => pass.latched || pass.rxDataReady || tx.isSome
  | .freeTx pass _ failed | .rearm pass failed => failed && (pass.latched || pass.rxDataReady)
  | .getReadySem | .readHandshake | .readDataReady _ | .repost _ _ => false

/-- The host has a frame that no pass has taken yet. -/
def HostQueued (host : SpiDriver.State) : Prop :=
  (∃ prio, host.toSlave prio ≠ []) ∨ host.putting ≠ []

/-- A transaction of the host is to come. -/
def Scheduled (host : SpiDriver.State) : Prop :=
  host.dataReadyPending = true ∨ host.scheduleDummyTx = true ∨ host.rx.scheduleDummyRx = true ∨
    toTransact host.pc = true ∨ HostQueued host

section Scheduled
variable {host next : SpiDriver.State} {hostConfig : SpiDriver.Config}

theorem Scheduled.ofPass (pass : toTransact host.pc = true) : Scheduled host :=
  Or.inr (Or.inr (Or.inr (Or.inl pass)))

theorem Scheduled.ofQueued (queued : HostQueued host) : Scheduled host :=
  Or.inr (Or.inr (Or.inr (Or.inr queued)))

/-- A step that leaves the flags alone. -/
theorem scheduled_still (held : Scheduled host)
    (pending : next.dataReadyPending = host.dataReadyPending)
    (dummyTx : next.scheduleDummyTx = host.scheduleDummyTx) (rx : next.rx = host.rx)
    (pass : toTransact host.pc = true → toTransact next.pc = true)
    (queued : HostQueued host → HostQueued next) : Scheduled next := by
  rcases held with latched | tx | dummyRx | transacts | waits
  · exact Or.inl (pending.trans latched)
  · exact Or.inr (Or.inl (dummyTx.trans tx))
  · exact Or.inr (Or.inr (Or.inl (by rw [rx]; exact dummyRx)))
  · exact .ofPass (pass transacts)
  · exact .ofQueued (queued waits)

theorem scheduled_exchange {rxDataReady : Bool} (held : Scheduled host)
    (pc : host.pc = .exchange rxDataReady) :
    Scheduled
      { host with
        dataReadyPending := false
        pc := .getToSlaveSem ⟨rxDataReady, host.dataReadyPending⟩ } := by
  rcases held with latched | tx | dummyRx | transacts | waits
  · exact .ofPass (by simp [toTransact, latched])
  · exact Or.inr (Or.inl tx)
  · exact Or.inr (Or.inr (Or.inl dummyRx))
  · rw [pc] at transacts
    exact .ofPass (by simpa [toTransact] using Or.inr transacts)
  · exact .ofQueued waits

theorem scheduled_dequeue {pass : SpiDriver.Pass} {prio : Prio} (held : Scheduled host)
    (pc : host.pc = .dequeue pass prio) : Scheduled (SpiDriver.dequeueStep host pass prio) := by
  unfold SpiDriver.dequeueStep
  split
  · exact .ofPass rfl
  · refine scheduled_still held rfl rfl rfl ?_ id
    rw [pc]
    cases prio <;> simp [toTransact, nextPrio]

theorem scheduled_decide {pass : SpiDriver.Pass} {tx : Option SpiDriver.TxFrame}
    (held : Scheduled host) (pc : host.pc = .decide pass tx) :
    Scheduled (SpiDriver.decideStep host pass tx) := by
  unfold SpiDriver.decideStep
  split
  · exact .ofPass rfl
  · rename_i nothing
    simp only [Bool.or_eq_true, not_or, Bool.not_eq_true] at nothing
    obtain ⟨⟨⟨⟨seen, latched⟩, none⟩, dummyTx⟩, dummyRx⟩ := nothing
    rcases held with pending | tx | rx | transacts | waits
    · exact Or.inl pending
    · rw [dummyTx] at tx
      cases tx
    · rw [dummyRx] at rx
      cases rx
    · rw [pc, toTransact, seen, latched, none] at transacts
      cases transacts
    · exact .ofQueued waits

theorem scheduled_rearm {pass : SpiDriver.Pass} {failed : Bool} (held : Scheduled host)
    (pc : host.pc = .rearm pass failed) : Scheduled (SpiDriver.rearmStep host pass failed) := by
  unfold SpiDriver.rearmStep
  split
  · exact Or.inl rfl
  · rename_i done
    refine scheduled_still held rfl rfl rfl ?_ id
    rw [pc]
    exact fun failed => absurd failed done

theorem scheduled_task {act : SpiDriver.TaskAct} (accepted : BufferOwnership.LensAccepted host)
    (held : Scheduled host) (own : ∀ rxbuff put, act ≠ .transfers rxbuff put)
    (taken : SpiDriver.taskStep host act = some next) : Scheduled next := by
  cases SpiDriver.taskStep_moves taken with
  | enter pc | handshake active pc | repost handshake retry pc =>
      refine scheduled_still held rfl rfl rfl ?_ id
      rw [pc]
      exact nofun
  | dataReady handshake active pc =>
      refine scheduled_still held rfl rfl rfl ?_ id
      rw [pc]
      exact nofun
  | exchange rxDataReady pc => exact scheduled_exchange held pc
  | take pass pc =>
      refine scheduled_still held rfl rfl rfl ?_ id
      rw [pc]
      exact id
  | pass pass pc =>
      refine scheduled_still held rfl rfl rfl ?_ id
      rw [pc]
      simp [toTransact]
  | dequeue pass prio pc => exact scheduled_dequeue held pc
  | form pass frame pc =>
      have some_bytes : frame.buf.payloadLen ≠ 0 := by
        intro none
        have accepted := accepted.formed pass frame pc
        rw [none] at accepted
        cases accepted
      exact .ofPass (by simp [SpiDriver.formStep, toTransact, some_bytes])
  | decide pass tx pc => exact scheduled_decide held pc
  | transfer pass tx rxbuff put => exact absurd rfl (own rxbuff put)
  | freeTx pass tx failed pc =>
      refine scheduled_still held rfl rfl rfl ?_ id
      rw [pc]
      exact id
  | rearm pass failed pc => exact scheduled_rearm held pc

theorem scheduled_call (held : Scheduled host) (transportUp : Bool) (frame : SpiDriver.TxFrame) :
    Scheduled (SpiDriver.callStep host transportUp frame) := by
  unfold SpiDriver.callStep
  split
  · exact held
  · exact .ofQueued (Or.inr (by simp))

/-- The host forgets nothing it is to make a transaction for. -/
theorem scheduled_step {act : SpiDriver.Act} (accepted : BufferOwnership.LensAccepted before.host)
    (held : Scheduled before.host) (may : hostMay before act = true)
    (taken : SpiDriver.step hostConfig before.host act = some next) : Scheduled next := by
  cases act with
  | call transportUp frame =>
      cases taken
      exact scheduled_call held transportUp frame
  | put index ok =>
      cases SpiDriver.putStep_puts taken with
      | fails => cases may
      | queues frame => exact .ofQueued (Or.inl ⟨prioOf frame.buf.ifType, by simp [put]⟩)
  | postToSlave =>
      obtain ⟨_, rfl⟩ := SpiDriver.postToSlave_cases taken
      exact held
  | postReady =>
      obtain ⟨_, rfl⟩ := SpiDriver.postReady_cases taken
      exact held
  | handshakeIsr =>
      cases taken
      exact held
  | dataReadyIsr =>
      cases taken
      exact Or.inl rfl
  | task act =>
      refine scheduled_task accepted held ?_ taken
      rintro rxbuff put rfl
      cases may

theorem rx_step {act : SpiDriver.Act} (may : hostMay before act = true)
    (taken : SpiDriver.step hostConfig before.host act = some next) : next.rx = before.host.rx := by
  cases act with
  | call transportUp frame =>
      cases taken
      unfold SpiDriver.callStep
      split <;> rfl
  | put index ok => cases SpiDriver.putStep_puts taken <;> rfl
  | postToSlave =>
      obtain ⟨_, rfl⟩ := SpiDriver.postToSlave_cases taken
      rfl
  | postReady =>
      obtain ⟨_, rfl⟩ := SpiDriver.postReady_cases taken
      rfl
  | handshakeIsr | dataReadyIsr =>
      cases taken
      rfl
  | task act =>
      cases SpiDriver.taskStep_moves taken with
      | enter | handshake | dataReady | exchange | take | pass | form | freeTx | repost => rfl
      | dequeue pass prio =>
          unfold SpiDriver.dequeueStep
          split <;> rfl
      | decide pass tx =>
          unfold SpiDriver.decideStep
          split <;> rfl
      | transfer => cases may
      | rearm pass failed =>
          unfold SpiDriver.rearmStep
          split <;> rfl

end Scheduled

/-- The station may not send, there is nothing left to receive, and neither side is going to
make a transaction that could tell the host so. -/
structure Wedged (state : State) : Prop where
  throttled : state.host.rx.wifiTxThrottling ≠ 0
  drained : state.slave.rxQueue .others = []
  silent : ¬ HasFrame state.slave
  waits : state.host.pc = .getReadySem
  readySem : state.host.readySem = 0
  scheduleDummyTx : state.host.scheduleDummyTx = false
  scheduleDummyRx : state.host.rx.scheduleDummyRx = false
  dataReadyPending : state.host.dataReadyPending = false
  toSlave : ∀ prio, state.host.toSlave prio = []
  calls : HostWakeup.NoCall state.host

/-- Behind this transaction comes another: the slave has more, or the host has a frame, a
dummy or an edge left, also for what comes in now. -/
def FollowedBy (state : State) (pass : SpiDriver.Pass) (txBuffer : List UInt8) : Prop :=
  SlaveQueued state.slave ∨ HostQueued state.host ∨ state.host.scheduleDummyTx = true ∨
    state.host.dataReadyPending = true ∨
    ¬ Speaks txBuffer ∧ (pass.latched || pass.rxDataReady) = true ∨
    (decodeHeader txBuffer).ifType ≠ espMaxIf ∧
      (state.host.rx.scheduleDummyRx || armsDummyRx (decodeHeader txBuffer).ifType) = true

/-- No transaction that brings a throttle command is the last one over a drained queue. -/
def TransferFollowed (state : State) : SpiDriver.Pc → Option (List UInt8) → Prop
  | .transfer pass _, some txBuffer =>
      state.slave.rxQueue .others = [] → (decodeHeader txBuffer).throttleCmd ≠ 0 →
        FollowedBy state pass txBuffer
  | .transfer _ _, none => True
  | .getReadySem, _ | .readHandshake, _ | .readDataReady _, _ | .exchange _, _
  | .getToSlaveSem _, _ | .dequeue _ _, _ | .formBuffer _ _, _ | .decide _ _, _
  | .freeTx _ _ _, _ | .rearm _ _, _ | .repost _ _, _ => True

/-- A throttled host's last frame is not drained behind the last transaction. -/
def DrainFollowed (state : State) : Prop :=
  LastDrained state.slave → state.host.rx.wifiTxThrottling ≠ 0 →
    Scheduled state.host ∨ HasFrame state.slave

def FollowedUp (state : State) : Act → Prop
  | .transfer => TransferFollowed state state.host.pc state.slave.armed
  | .slave .recv => DrainFollowed state
  | .staTx _ _ _ | .host _ | .slave _ => True

instance (frame : List UInt8) : Decidable (Speaks frame) := inferInstanceAs (Decidable (_ ≠ _))

instance (slave : SlaveDriver.State) : Decidable (SlaveQueued slave) :=
  inferInstanceAs (Decidable (_ ∨ _))

instance (host : SpiDriver.State) : Decidable (HostQueued host) := inferInstanceAs (Decidable (_ ∨ _))

instance (host : SpiDriver.State) : Decidable (Scheduled host) := inferInstanceAs (Decidable (_ ∨ _))

instance : (pc : SlaveDriver.Pc) → Decidable (Carries pc)
  | .queueTrans txBuffer => inferInstanceAs (Decidable (Speaks txBuffer))
  | .awaitResult | .takeTxSem | .receive _ | .lowerDataReady | .buildDummy | .processRx =>
      .isFalse id

instance : (armed : Option (List UInt8)) → Decidable (∃ frame, armed = some frame ∧ Speaks frame)
  | none => .isFalse nofun
  | some txBuffer =>
      decidable_of_iff (Speaks txBuffer)
        ⟨fun speaks => ⟨txBuffer, rfl, speaks⟩, fun ⟨_, same, speaks⟩ => by cases same; exact speaks⟩

instance (slave : SlaveDriver.State) : Decidable (HasFrame slave) := inferInstanceAs (Decidable (_ ∨ _))

instance (slave : SlaveDriver.State) : Decidable (LastDrained slave) :=
  decidable_of_iff
    (slave.rxQueue .serial = [] ∧ slave.rxQueue .bt = [] ∧ (slave.rxQueue .others).length = 1)
    ⟨fun ⟨serial, bt, others⟩ => ⟨serial, bt, others⟩, fun last => ⟨last.serial, last.bt, last.others⟩⟩

instance (state : State) (pass : SpiDriver.Pass) (txBuffer : List UInt8) :
    Decidable (FollowedBy state pass txBuffer) := inferInstanceAs (Decidable (_ ∨ _))

instance (state : State) :
    (pc : SpiDriver.Pc) → (armed : Option (List UInt8)) → Decidable (TransferFollowed state pc armed)
  | .transfer _ _, some _ => inferInstanceAs (Decidable (_ → _ → _))
  | .transfer _ _, none => .isTrue trivial
  | .getReadySem, _ | .readHandshake, _ | .readDataReady _, _ | .exchange _, _
  | .getToSlaveSem _, _ | .dequeue _ _, _ | .formBuffer _ _, _ | .decide _ _, _
  | .freeTx _ _ _, _ | .rearm _ _, _ | .repost _ _, _ => .isTrue trivial

instance (state : State) : (act : Act) → Decidable (FollowedUp state act)
  | .transfer =>
      inferInstanceAs (Decidable (TransferFollowed state state.host.pc state.slave.armed))
  | .slave .recv => inferInstanceAs (Decidable (_ → _ → _))
  | .slave (.write _) | .slave (.put _) | .slave .give | .slave .raise | .slave .task
  | .slave (.transact _) | .staTx _ _ _ | .host _ => .isTrue trivial

/-- A throttled host over a drained queue has a transaction to come, or the slave a frame. -/
def ReleaseDue (state : State) : Prop :=
  state.host.rx.wifiTxThrottling ≠ 0 → state.slave.rxQueue .others = [] →
    Scheduled state.host ∨ HasFrame state.slave

theorem releaseDue_slave {act : SlaveDriver.Act} (inv : Pipeline before.slave)
    (due : ReleaseDue before) (followed : FollowedUp before (.slave act))
    (taken : step config before (.slave act) = some after) : ReleaseDue after := by
  obtain ⟨may, host, moved⟩ := slave_cases taken
  intro throttled empty
  rw [host] at throttled ⊢
  have kept : Scheduled before.host ∨ HasFrame before.slave := by
    rcases drained_step may moved empty with before_empty | ⟨rfl, last⟩
    · exact due throttled before_empty
    · exact followed last throttled
  rcases kept with scheduled | held
  · exact Or.inl scheduled
  · exact Or.inr (hasFrame_step inv held may moved)

theorem releaseDue_host {act : SpiDriver.Act} (accepted : BufferOwnership.LensAccepted before.host)
    (due : ReleaseDue before) (taken : step config before (.host act) = some after) :
    ReleaseDue after := by
  obtain ⟨may, slave, moved⟩ := host_cases taken
  intro throttled empty
  rw [rx_step may moved] at throttled
  rw [slave] at empty ⊢
  rcases due throttled empty with scheduled | held
  · exact Or.inl (scheduled_step accepted scheduled may moved)
  · exact Or.inr held

theorem releaseDue_staTx {transportUp : Bool} {buffer : Option (List UInt8)} {copyBuff : Nat}
    (due : ReleaseDue before) :
    ReleaseDue { before with host := transportDrvStaTx before.host transportUp buffer copyBuff } := by
  rcases staTx_cases before.host transportUp buffer copyBuff with dropped | ⟨frame, called⟩
  · rw [dropped]
    exact due
  · rw [called]
    intro throttled empty
    have rx : (SpiDriver.callStep before.host transportUp frame).rx = before.host.rx := by
      unfold SpiDriver.callStep
      split <;> rfl
    simp only [rx] at throttled
    rcases due throttled empty with scheduled | held
    · exact Or.inl (scheduled_call scheduled transportUp frame)
    · exact Or.inr held

theorem releaseDue_transfer {pass : SpiDriver.Pass} {tx : Option SpiDriver.TxFrame}
    {txBuffer : List UInt8} (inv : Pipeline before.slave)
    (followed : TransferFollowed before before.host.pc before.slave.armed)
    (transferred : Transferred before after pass tx txBuffer) : ReleaseDue after := by
  obtain ⟨pc, armed, host, slave⟩ := transferred
  have built := inv.armed txBuffer armed
  intro throttled empty
  rw [host] at throttled ⊢
  rw [slave] at empty ⊢
  simp only [SpiDriver.transferStep, built_throttling built] at throttled
  rw [pc, armed] at followed
  rcases followed empty throttled with waits | queued | tx | pending | ⟨quiet, edge⟩ | ⟨kind, arms⟩
  · exact Or.inr (Or.inl waits)
  · exact Or.inl (.ofQueued queued)
  · exact Or.inl (Or.inr (Or.inl tx))
  · exact Or.inl (Or.inl pending)
  · refine Or.inl (.ofPass ?_)
    have none := not_not.mp quiet
    simp [SpiDriver.transferStep, toTransact, processRxbuff, none, edge]
  · refine Or.inl (Or.inr (Or.inr (Or.inl ?_)))
    rcases built with written | ⟨throttling, rfl⟩
    · exact (written_heard written before.host.rx).dummy.trans arms
    · exact absurd (by cases throttling <;> decide) kind

theorem releaseDue_reached (run : Run (step config) FollowedUp init state) : ReleaseDue state := by
  apply run.invariant
  · exact fun throttled => absurd rfl throttled
  · intro before act after prior due followed taken
    have inv := pipeline_reached prior
    have accepted := BufferOwnership.lens_reached (host_run prior)
    cases act with
    | staTx transportUp buffer copyBuff =>
        cases taken
        exact releaseDue_staTx due
    | host act => exact releaseDue_host accepted due taken
    | slave act => exact releaseDue_slave inv due followed taken
    | transfer =>
        obtain ⟨pass, tx, txBuffer, transferred⟩ := transfer_cases taken
        exact releaseDue_transfer inv followed transferred

theorem Wedged.unscheduled (wedged : Wedged state) : ¬ Scheduled state.host := by
  rintro (pending | tx | rx | transacts | ⟨prio, held⟩ | putting)
  · rw [wedged.dataReadyPending] at pending
    cases pending
  · rw [wedged.scheduleDummyTx] at tx
    cases tx
  · rw [wedged.scheduleDummyRx] at rx
    cases rx
  · rw [wedged.waits] at transacts
    cases transacts
  · exact held (wedged.toSlave prio)
  · exact putting wedged.calls.putting

/-- While every throttle command over a drained queue, and every draining under a throttled
host, is followed up, the release gets through. -/
theorem never_wedged (config : Config) (state : State)
    (run : Run (step config) FollowedUp init state) : ¬ Wedged state := by
  intro wedged
  rcases releaseDue_reached run wedged.throttled wedged.drained with scheduled | held
  · exact wedged.unscheduled scheduled
  · exact wedged.silent held

theorem drain_unfollowed (unfollowed : ¬ DrainFollowed state) :
    LastDrained state.slave ∧ state.host.rx.wifiTxThrottling ≠ 0 ∧ ¬ Scheduled state.host ∧
      ¬ HasFrame state.slave := by
  simp only [DrainFollowed, not_forall, not_or] at unfollowed
  obtain ⟨last, throttled, unscheduled, silent⟩ := unfollowed
  exact ⟨last, throttled, unscheduled, silent⟩

/-- What a host is like that has nothing scheduled and no call in progress. -/
theorem wedged_of_unscheduled (unscheduled : ¬ Scheduled state.host)
    (throttled : state.host.rx.wifiTxThrottling ≠ 0) (drained : state.slave.rxQueue .others = [])
    (silent : ¬ HasFrame state.slave) (waits : state.host.pc = .getReadySem)
    (readySem : state.host.readySem = 0) (posting : state.host.posting = 0)
    (waking : state.host.waking = 0) : Wedged state := by
  simp only [Scheduled, HostQueued, not_or, not_exists, not_not, Bool.not_eq_true] at unscheduled
  obtain ⟨pending, tx, rx, _, toSlave, putting⟩ := unscheduled
  exact
    { throttled := throttled, drained := drained, silent := silent, waits := waits,
      readySem := readySem, scheduleDummyTx := tx, scheduleDummyRx := rx,
      dataReadyPending := pending, toSlave := toSlave, calls := ⟨putting, posting, waking⟩ }

/-- With the host at rest, the draining the condition leaves out is the wedge. -/
theorem drain_wedges (waits : before.host.pc = .getReadySem) (readySem : before.host.readySem = 0)
    (posting : before.host.posting = 0) (waking : before.host.waking = 0)
    (unfollowed : ¬ DrainFollowed before) (taken : step config before (.slave .recv) = some after) :
    Wedged after := by
  obtain ⟨last, throttled, unscheduled, silent⟩ := drain_unfollowed unfollowed
  obtain ⟨_, host, moved⟩ := slave_cases taken
  obtain ⟨slave, same⟩ : ∃ slave, after.slave = slave := ⟨_, rfl⟩
  rw [same] at moved
  cases SlaveDriver.recvStep_recvs moved with
  | recv prio buf rest queued first =>
      have others : prio = .others := by
        cases prio with
        | serial =>
            rw [last.serial] at queued
            cases queued
        | bt =>
            rw [last.bt] at queued
            cases queued
        | others => rfl
      subst others
      have none_left : rest = [] := by
        have one := last.others
        rw [queued, List.length_cons] at one
        exact List.length_eq_zero_iff.mp (Nat.succ.inj one)
      apply wedged_of_unscheduled
      case drained =>
        rw [same]
        simp only [Function.update_self, none_left]
      case silent =>
        rw [same]
        exact silent
      all_goals rw [host]; assumption

/-- Nothing the host keeps or does next comes of a transaction that is not followed. -/
theorem received_unfollowed {pass : SpiDriver.Pass} {txBuffer : List UInt8}
    (built : Built txBuffer) (unfollowed : ¬ FollowedBy state pass txBuffer) :
    (processRxbuff true state.host.rx txBuffer).1.scheduleDummyRx = false ∧
      (decide ((processRxbuff true state.host.rx txBuffer).2 ≠ 0) &&
        (pass.latched || pass.rxDataReady)) = false := by
  simp only [FollowedBy, not_or] at unfollowed
  obtain ⟨_, _, _, _, edge, dummy⟩ := unfollowed
  rcases built with written | ⟨throttling, rfl⟩
  · have heard := written_heard written state.host.rx
    refine ⟨?_, by simp [heard.ret]⟩
    rw [heard.dummy]
    exact Bool.eq_false_iff.mpr fun arms => dummy ⟨heard.ifType, arms⟩
  · have none := not_not.mp (len_of_dummy throttling)
    have idle : (decodeHeader (dummyFrame throttling)).ifType = espMaxIf := by
      cases throttling <;> decide
    refine ⟨by simp [processRxbuff, none, idle], ?_⟩
    have unlatched : (pass.latched || pass.rxDataReady) = false :=
      Bool.eq_false_iff.mpr fun latched => edge ⟨len_of_dummy throttling, latched⟩
    rw [unlatched, Bool.and_false]

/-- The pass behind a transaction that leaves nothing to do. -/
def rested (host : SpiDriver.State) (tx : Option SpiDriver.TxFrame) (txBuffer : List UInt8) :
    SpiDriver.State :=
  { host with
    rx := (processRxbuff true host.rx txBuffer).1
    transfers := host.transfers + 1
    freed := host.freed ++ SpiDriver.transferredFrees tx
    handshakeInactive := false
    pc := .getReadySem }

theorem transfer_rests (hostConfig : SpiDriver.Config) {host : SpiDriver.State}
    {pass : SpiDriver.Pass} {txBuffer : List UInt8} (tx : Option SpiDriver.TxFrame)
    (dummyTx : host.scheduleDummyTx = false)
    (dummyRx : (processRxbuff true host.rx txBuffer).1.scheduleDummyRx = false)
    (done : (decide ((processRxbuff true host.rx txBuffer).2 ≠ 0) &&
      (pass.latched || pass.rxDataReady)) = false) :
    exec (SpiDriver.step hostConfig) (SpiDriver.transferStep host pass tx (some txBuffer) true)
      (List.replicate 3 (.task .go)) = some (rested host tx txBuffer) := by
  simp only [List.replicate, exec, SpiDriver.step, SpiDriver.taskStep, SpiDriver.transferStep,
    SpiDriver.rearmStep, SpiDriver.repostStep, rested, done, dummyRx, dummyTx, Option.bind_some,
    Bool.false_eq_true, if_false, Bool.not_true, Bool.or_false]

/-- With the semaphore at zero, a transaction the condition leaves out ends in the wedge: the
host finishes its pass and waits. -/
theorem transfer_wedges (inv : Pipeline before.slave) (readySem : before.host.readySem = 0)
    (posting : before.host.posting = 0) (waking : before.host.waking = 0)
    (unfollowed : ¬ TransferFollowed before before.host.pc before.slave.armed)
    (taken : transferStep before = some after) :
    ∃ later, exec (step config) after (List.replicate 3 (.host (.task .go))) = some later ∧
      Wedged later := by
  obtain ⟨pass, tx, txBuffer, pc, armed, host, slave⟩ := transfer_cases taken
  rw [pc, armed] at unfollowed
  simp only [TransferFollowed, not_forall] at unfollowed
  obtain ⟨drained, throttled, unfollowed⟩ := unfollowed
  have built := inv.armed txBuffer armed
  obtain ⟨dummyRx, done⟩ := received_unfollowed built unfollowed
  simp only [FollowedBy, not_or, Bool.not_eq_true] at unfollowed
  obtain ⟨emptied, unqueued, dummyTx, pending, _⟩ := unfollowed
  have silent : ¬ HasFrame after.slave := by
    rw [slave]
    rintro (queued | carries | ⟨frame, again, _⟩)
    · exact emptied queued
    · have waits := inv.not_arming armed
      cases here : before.slave.pc <;> simp [here, arming, Carries] at waits carries
    · cases again
  have rests := transfer_rests config.host tx dummyTx dummyRx done
  rw [← host] at rests
  refine ⟨⟨rested before.host tx txBuffer, after.slave⟩, host_goes 3 rests, ?_⟩
  apply wedged_of_unscheduled
  case unscheduled =>
    rintro (latched | flag | arms | transacts | queued)
    · exact Bool.false_ne_true (pending.symm.trans latched)
    · exact Bool.false_ne_true (dummyTx.symm.trans flag)
    · exact Bool.false_ne_true (dummyRx.symm.trans arms)
    · cases transacts
    · exact unqueued queued
  case throttled =>
    simp only [rested, built_throttling built]
    exact throttled
  case drained =>
    rw [slave]
    exact drained
  case silent => exact silent
  case waits => rfl
  all_goals assumption

def fewSlots : Config where
  host := ⟨20, by decide⟩
  slave := ⟨⟨5, 5⟩, 10, 10⟩

/-- The slave arms its next buffer, whose handshake interrupts the host. -/
def armsFirst : List Act := List.replicate 5 (.slave .task) ++ [.host .handshakeIsr]

def rearms : List Act := .slave .task :: armsFirst

def hostActs (acts : List SpiDriver.Act) : List Act := acts.map .host

/-- The host sends a packet of the station. -/
def staSent : List Act :=
  .staTx true (some [7]) 1 :: hostActs ([.put 0 true, .postToSlave, .postReady] ++
    SpiDriver.passBegin false 7) ++ .transfer :: hostActs (List.replicate 3 (.task .go))

/-- The dummy transaction behind it. -/
def dummySent : List Act :=
  hostActs (SpiDriver.passBegin false 3) ++ .transfer :: hostActs (List.replicate 3 (.task .go))

/-- The passes the handshake interrupts have let in find nothing to do. -/
def idlePasses (passes : Nat) : List Act :=
  (List.replicate passes (hostActs SpiDriver.idlePass)).flatten

def packetSent : List Act := staSent ++ rearms ++ dummySent ++ rearms ++ idlePasses 2

/-- The second packet is answered with a throttle command; the slave drains the first one. -/
def drainedEarly : List Act :=
  armsFirst ++ idlePasses 1 ++ packetSent ++ staSent ++ [.slave .recv]

theorem never_wedged_early : ∃ state, state.host.rx.wifiTxThrottling ≠ 0 ∧
    state.slave.rxQueue .others = [] ∧ ¬ Wedged state := by
  obtain ⟨state, run, throttled, empty⟩ := admitted_reaches (step fewSlots) FollowedUp init
    drainedEarly (fun state => state.host.rx.wifiTxThrottling ≠ 0 ∧
      state.slave.rxQueue .others = []) (by decide) (by decide)
  exact ⟨state, throttled, empty, never_wedged fewSlots state run⟩

/-- Both packets are sent, dummies and all, before the slave drains them. -/
def drainedLate : List Act :=
  armsFirst ++ idlePasses 1 ++ packetSent ++ packetSent ++ [.slave .recv, .slave .recv]

theorem drained_late_wedges : ∃ state, Run (step fewSlots) unguarded init state ∧ Wedged state := by
  obtain ⟨state, run, throttled, drained, silent, waits, readySem, flags, toSlave, calls⟩ :=
    exec_reaches (step fewSlots) init drainedLate
      (fun state => state.host.rx.wifiTxThrottling ≠ 0 ∧ state.slave.rxQueue .others = [] ∧
        ¬ HasFrame state.slave ∧ state.host.pc = .getReadySem ∧ state.host.readySem = 0 ∧
        (state.host.scheduleDummyTx = false ∧ state.host.rx.scheduleDummyRx = false ∧
          state.host.dataReadyPending = false) ∧ (∀ prio, state.host.toSlave prio = []) ∧
        state.host.putting = [] ∧ state.host.posting = 0 ∧ state.host.waking = 0) (by decide)
  exact ⟨state, run, throttled, drained, silent, waits, readySem, flags.1, flags.2.1, flags.2.2,
    toSlave, calls.1, calls.2.1, calls.2.2⟩

end EspHosted.Throttling

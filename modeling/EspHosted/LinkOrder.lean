import EspHosted.Throttling

/-!
What the link does to the frames of one class. A frame that `esp_hosted_tx` or `esp_spi_write`
has put into its queue goes from hand to hand until it is read behind the link. The history
beside a run has the frames that were put and those that were read.
-/

namespace EspHosted.LinkOrder
open SpiFrames HostFrames SlaveFrames QueueBank GuardedRun SpiLink Throttling

/-- What the slave gets of a frame of the host. -/
def arrival (frame : SpiDriver.TxFrame) : Option SlaveBuf :=
  processSpiRx (onBus (formTxBuffer frame.buf))

/-- What the host gets of a frame of the slave. -/
def accepted (frame : List UInt8) : Option IfaceBuf := (processSpiRxBuf frame).toOption

def txPrio (frame : SpiDriver.TxFrame) : Prio := prioOf frame.buf.ifType
def rxPrio (buf : SlaveBuf) : Prio := prioOf buf.ifType
def handlePrio (buf : IfaceBuf) : Prio := prioOf buf.ifType

/-- The frames put into a queue on either side, and those `recv_task` has read. The host keeps
all it has queued in `fromSlaveQueue`. -/
structure History where
  hostPut : Prio → List SpiDriver.TxFrame
  slaveRead : Prio → List SlaveBuf
  slavePut : Prio → List (List UInt8)

def fresh : History where
  hostPut _ := []
  slaveRead _ := []
  slavePut _ := []

/-- The frame that `recv_task` takes next. -/
def readNext (rxQueue : Prio → List SlaveBuf) : Option SlaveBuf :=
  (rxQueue .serial).head?.or ((rxQueue .bt).head?.or (rxQueue .others).head?)

def noteHostPut (host : SpiDriver.State) (index : Nat) (history : History) : History :=
  match host.putting[index]? with
  | none => history
  | some frame => { history with hostPut := put history.hostPut (txPrio frame) frame }

def noteSlavePut (slave : SlaveDriver.State) (index : Nat) (history : History) : History :=
  match slave.putting[index]? with
  | none => history
  | some frame =>
      { history with slavePut := put history.slavePut (SlaveDriver.framePrio frame) frame }

def noteRead (slave : SlaveDriver.State) (history : History) : History :=
  match readNext slave.rxQueue with
  | none => history
  | some buf => { history with slaveRead := put history.slaveRead (rxPrio buf) buf }

def note (state : State) : Act → History → History
  | .host (.put index _) => noteHostPut state.host index
  | .slave (.put index) => noteSlavePut state.slave index
  | .slave .recv => noteRead state.slave
  | .staTx _ _ _ | .host _ | .slave _ | .transfer => id

/-- The frames handed to the driver are such as its callers hand in. -/
def Handed (_ : State × History) : Act → Prop
  | .staTx _ (some bytes) _ => bytes.length ≤ maxPayloadSize
  | .host (.call _ frame) => Sendable frame.buf
  | .staTx _ none _ | .host _ | .slave _ | .transfer => True

instance (buf : TxBuf) : Decidable (Sendable buf) :=
  decidable_of_iff
    (buf.ifType.toNat < espMaxIf.toNat ∧ buf.ifNum.toNat < 16 ∧
      lenAccepted buf.payloadLen = true ∧ buf.bytes.length = buf.payloadLen.toNat ∧
      (buf.payloadZcopy = true → buf.payload.take payloadHeaderSize = blankHeader) ∧
      (buf.ifType = espHciIf → buf.payloadZcopy = false ∧ 2 ≤ buf.payloadLen.toNat))
    ⟨fun ⟨ifType, ifNum, accepted, filled, zeroed, hci⟩ =>
        ⟨ifType, ifNum, accepted, filled, zeroed, hci⟩,
      fun ⟨ifType, ifNum, accepted, filled, zeroed, hci⟩ =>
        ⟨ifType, ifNum, accepted, filled, zeroed, hci⟩⟩

instance (seen : State × History) : (act : Act) → Decidable (Handed seen act)
  | .staTx _ (some bytes) _ => inferInstanceAs (Decidable (bytes.length ≤ maxPayloadSize))
  | .host (.call _ frame) => inferInstanceAs (Decidable (Sendable frame.buf))
  | .staTx _ none _ | .host (.put _ _) | .host .postToSlave | .host .postReady
  | .host .handshakeIsr | .host .dataReadyIsr | .host (.task _) | .slave _ | .transfer =>
      .isTrue trivial

/-- The frame a pass of the host has taken out of its queue. -/
def inHand : SpiDriver.Pc → List SpiDriver.TxFrame
  | .formBuffer _ frame => [frame]
  | .decide _ tx | .transfer _ tx => tx.toList
  | .getReadySem | .readHandshake | .readDataReady _ | .exchange _ | .getToSlaveSem _
  | .dequeue _ _ | .freeTx _ _ _ | .rearm _ _ | .repost _ _ => []

/-- The frame the task of the slave has taken out of its queue. -/
def arms : SlaveDriver.Pc → Option (List UInt8)
  | .queueTrans txBuffer => some txBuffer
  | .awaitResult | .takeTxSem | .receive _ | .lowerDataReady | .buildDummy | .processRx => none

/-- What the slave has still to look at of a received buffer. -/
def heard (prio : Prio) (rxBuffer : Option (List UInt8)) : List SlaveBuf :=
  atLevel rxPrio prio (rxBuffer.bind processSpiRx).toList

/-- What the host will get of a buffer the slave holds. -/
def offered (prio : Prio) (txBuffer : Option (List UInt8)) : List IfaceBuf :=
  atLevel handlePrio prio (txBuffer.bind accepted).toList

/-- On the way to the slave, the oldest first. -/
def toSlave (state : State) (prio : Prio) : List SlaveBuf :=
  state.slave.rxQueue prio ++ heard prio state.slave.rxBuffer ++ heard prio state.slave.ended ++
    atLevel rxPrio prio ((inHand state.host.pc).filterMap arrival) ++
    (state.host.toSlave prio).filterMap arrival

/-- On the way to the host. -/
def toHost (state : State) (prio : Prio) : List IfaceBuf :=
  offered prio state.slave.armed ++ offered prio (arms state.slave.pc) ++
    (state.slave.txQueue prio).filterMap accepted

/-- The slave gets the frame as it was, and its consumer the bytes. -/
structure Reaches (frame : SpiDriver.TxFrame) (got : SlaveBuf) : Prop where
  arrives : arrival frame = some got
  ifType : got.ifType = frame.buf.ifType
  ifNum : got.ifNum = frame.buf.ifNum
  consumed : ∀ stationConnected softapStarted,
    processRxPkt stationConnected softapStarted got =
      (rxConsumer stationConnected softapStarted frame.buf.ifType).map fun consumer =>
        (consumer, frame.buf.bytes)

theorem sendable_reaches {frame : SpiDriver.TxFrame} (sendable : Sendable frame.buf) :
    ∃ got, Reaches frame got := by
  obtain ⟨positive, fits⟩ := sendable_len sendable
  have filled := sendable.filled
  by_cases hci : frame.buf.ifType = espHciIf
  · obtain ⟨first, rest, bytes, carries⟩ := form_hci sendable hci
    have length : rest.length + 1 = frame.buf.payloadLen.toNat := by
      rw [← filled, bytes, List.length_cons]
    have two := (sendable.hci hci).2
    have some_bytes : rest ≠ [] := by
      rintro rfl
      simp only [List.length_nil] at length
      omega
    obtain ⟨got, arrives, gotType, gotNum, delivered⟩ :=
      carried_delivered sendable carries some_bytes (by omega)
    refine ⟨got, arrives, gotType, gotNum, ?_⟩
    intro stationConnected softapStarted
    rw [delivered, hci, consumer_of_hci, bytes]
    rfl
  · have carries : Carries (formTxBuffer frame.buf)
        (sentHeader frame.buf frame.buf.payloadLen
          (frameChecksum frame.buf frame.buf.payloadLen 0 frame.buf.bytes)) 0 frame.buf.bytes := by
      cases copied : frame.buf.payloadZcopy with
      | true => exact form_zcopy sendable copied
      | false => exact form_copied sendable copied hci
    have some_bytes : frame.buf.bytes ≠ [] := by
      intro none
      rw [none, List.length_nil] at filled
      omega
    obtain ⟨got, arrives, gotType, gotNum, delivered⟩ :=
      carried_delivered sendable carries some_bytes (by omega)
    refine ⟨got, arrives, gotType, gotNum, ?_⟩
    intro stationConnected softapStarted
    rw [delivered]
    refine Option.map_congr fun consumer found => ?_
    have other : consumer ≠ .hci := by
      rintro rfl
      exact hci (consumer_hci found)
    rw [if_neg other]

theorem Reaches.prio {frame : SpiDriver.TxFrame} {got : SlaveBuf} (reaches : Reaches frame got) :
    rxPrio got = txPrio frame := by
  rw [rxPrio, txPrio, reaches.ifType]

/-- The host gets a frame the slave has written. -/
theorem written_accepted {frame : List UInt8} (written : Written frame) :
    ∃ throttle buf got, espSpiWrite throttle buf = some frame ∧ accepted frame = some got ∧
      SameFrame got buf ∧ handlePrio got = SlaveDriver.framePrio frame ∧ got.ifType ≠ espMaxIf := by
  obtain ⟨throttle, buf, may, wrote⟩ := written
  simp only [writable, Bool.and_eq_true, decide_eq_true_eq] at may
  obtain ⟨⟨filled, ifType⟩, ifNum⟩ := may
  obtain ⟨positive, fits⟩ := (espSpiWrite_isSome throttle buf).mp (by rw [wrote]; rfl)
  have small : buf.ifType.toNat < 16 := Nat.lt_trans ifType (by decide)
  obtain ⟨sent, got, sent_wrote, _, received, same⟩ :=
    espSpiWrite_received filled positive fits small ifNum
  have one : sent = frame := Option.some.inj (sent_wrote.symm.trans wrote)
  subst one
  refine ⟨throttle, buf, got, wrote, by rw [accepted, received]; rfl, same, ?_, ?_⟩
  · rw [handlePrio, SlaveDriver.framePrio, (accepted_len received).2.1]
  · intro idle
    rw [← same.ifType, idle] at ifType
    exact Nat.lt_irrefl _ ifType

/-- The frames the host holds may be sent, and each one is queued in its class. -/
structure HostHolds (host : SpiDriver.State) : Prop where
  putting : ∀ frame ∈ host.putting, Sendable frame.buf
  queued : ∀ prio, ∀ frame ∈ host.toSlave prio, Sendable frame.buf
  hand : ∀ frame ∈ inHand host.pc, Sendable frame.buf
  sorted : Sorted txPrio host.toSlave

section Host
variable {host next : SpiDriver.State} {config : SpiDriver.Config}

/-- A step that leaves the frames where they are. -/
theorem HostHolds.still (holds : HostHolds host) (putting : next.putting = host.putting)
    (toSlave : next.toSlave = host.toSlave) (same : ∀ frame ∈ inHand next.pc, frame ∈ inHand host.pc) :
    HostHolds next where
  putting := by
    rw [putting]
    exact holds.putting
  queued := by
    rw [toSlave]
    exact holds.queued
  hand frame member := holds.hand frame (same frame member)
  sorted := by
    rw [toSlave]
    exact holds.sorted

/-- A step behind which the pass has nothing in its hand. -/
theorem HostHolds.resting (holds : HostHolds host) (putting : next.putting = host.putting)
    (toSlave : next.toSlave = host.toSlave) (none : inHand next.pc = []) : HostHolds next := by
  refine holds.still putting toSlave ?_
  rw [none]
  exact fun _ member => absurd member List.not_mem_nil

theorem hostHolds_call {frame : SpiDriver.TxFrame} (holds : HostHolds host) (transportUp : Bool)
    (sendable : lenAccepted frame.buf.payloadLen = true → Sendable frame.buf) :
    HostHolds (SpiDriver.callStep host transportUp frame) := by
  unfold SpiDriver.callStep
  split
  · exact holds.still rfl rfl fun _ member => member
  · rename_i kept
    simp only [not_or, not_not] at kept
    refine ⟨?_, holds.queued, holds.hand, holds.sorted⟩
    intro other member
    rcases List.mem_append.mp member with older | new
    · exact holds.putting other older
    · rw [List.mem_singleton.mp new]
      exact sendable kept.2.1

theorem staFrame_payload (bytes : List UInt8) (copyBuff : Nat) :
    (staFrame bytes copyBuff).buf.payload =
      blankHeader ++ (bytes ++ (List.replicate maxPayloadSize 0).drop bytes.length) := by
  rw [staFrame, blank_buffer]
  exact @putAt_append blankHeader payloadHeaderSize rfl _ bytes

theorem staFrame_sendable {bytes : List UInt8} (copyBuff : Nat)
    (fits : bytes.length ≤ maxPayloadSize)
    (kept : lenAccepted (staFrame bytes copyBuff).buf.payloadLen = true) :
    Sendable (staFrame bytes copyBuff).buf where
  ifType := show espStaIf.toNat < espMaxIf.toNat by decide
  ifNum := show (0 : UInt8).toNat < 16 by decide
  accepted := kept
  filled := by
    have small : bytes.length < 65536 := Nat.lt_of_le_of_lt fits (by decide)
    have whole : (UInt16.ofNat bytes.length).toNat = bytes.length := by
      rw [UInt16.toNat_ofNat', Nat.mod_eq_of_lt small]
    show (((staFrame bytes copyBuff).buf.payload.drop payloadHeaderSize).take
      (UInt16.ofNat bytes.length).toNat).length = (UInt16.ofNat bytes.length).toNat
    rw [staFrame_payload, whole, List.drop_append_of_le_length (by decide)]
    simp [blankHeader]
  zeroed _ := by
    rw [staFrame_payload, List.take_append_of_le_length (by decide)]
    rfl
  hci := by
    intro hci
    exact absurd hci (show espStaIf ≠ espHciIf by decide)

theorem hostHolds_put {index : Nat} {ok : Bool} (holds : HostHolds host)
    (taken : SpiDriver.putStep config host index ok = some next) : HostHolds next := by
  have rest : ∀ frame ∈ host.putting.eraseIdx index, Sendable frame.buf :=
    fun frame member => holds.putting frame (List.mem_of_mem_eraseIdx member)
  cases SpiDriver.putStep_puts taken with
  | fails frame found => exact ⟨rest, holds.queued, holds.hand, holds.sorted⟩
  | queues frame found room =>
      refine ⟨rest, ?_, holds.hand, sorted_put holds.sorted frame⟩
      intro prio other member
      rcases mem_put member with older | rfl
      · exact holds.queued prio other older
      · exact holds.putting other (List.mem_of_getElem? found)

theorem hostHolds_dequeue {pass : SpiDriver.Pass} {prio : Prio} (holds : HostHolds host) :
    HostHolds (SpiDriver.dequeueStep host pass prio) := by
  unfold SpiDriver.dequeueStep
  split
  · rename_i frame rest queued
    refine ⟨holds.putting, fun level other member => holds.queued level other (mem_get queued member),
      ?_, sorted_get holds.sorted queued⟩
    intro other member
    rw [List.mem_singleton.mp member]
    exact holds.queued prio frame (by rw [queued]; exact List.mem_cons_self)
  · refine holds.resting rfl rfl ?_
    cases prio <;> rfl

theorem hostHolds_task {act : SpiDriver.TaskAct} (holds : HostHolds host)
    (taken : SpiDriver.taskStep host act = some next) : HostHolds next := by
  cases SpiDriver.taskStep_moves taken with
  | enter pc | handshake active pc | exchange rxDataReady pc | take pass pc | pass pass pc
  | freeTx pass tx failed pc | repost handshake retry pc =>
      exact holds.resting rfl rfl rfl
  | dataReady handshake active pc =>
      refine holds.resting rfl rfl ?_
      cases handshake <;> rfl
  | dequeue pass prio pc => exact hostHolds_dequeue holds
  | form pass frame pc =>
      refine holds.still rfl rfl ?_
      intro other member
      rw [pc]
      simp only [SpiDriver.formStep, inHand, Option.mem_toList] at member
      obtain ⟨_, here⟩ := Option.ite_none_left_eq_some.mp member
      rw [← Option.some.inj here]
      exact List.mem_singleton_self _
  | decide pass tx pc =>
      unfold SpiDriver.decideStep
      split
      · refine holds.still rfl rfl ?_
        rw [pc]
        exact fun _ member => member
      · exact holds.resting rfl rfl rfl
  | transfer pass tx rxbuff put pc =>
      unfold SpiDriver.transferStep
      split <;> exact holds.resting rfl rfl rfl
  | rearm pass failed pc =>
      unfold SpiDriver.rearmStep
      split <;> exact holds.resting rfl rfl rfl

end Host

/-- What the slave holds is queued in its class, and it looks at one received buffer at a time. -/
structure SlaveHolds (slave : SlaveDriver.State) : Prop where
  txSorted : Sorted SlaveDriver.framePrio slave.txQueue
  rxSorted : Sorted rxPrio slave.rxQueue
  looked : slave.pc = .awaitResult → slave.rxBuffer = none

section Slave
variable {slave next : SlaveDriver.State} {config : SlaveDriver.Config}

theorem readNext_recv (holds : SlaveHolds slave) (taken : SlaveDriver.recvStep slave = some next) :
    ∃ buf rest, readNext slave.rxQueue = some buf ∧ slave.rxQueue (rxPrio buf) = buf :: rest ∧
      next = { slave with rxQueue := Function.update slave.rxQueue (rxPrio buf) rest } := by
  have level : ∀ {prio : Prio} {buf : SlaveBuf} {rest : List SlaveBuf},
      slave.rxQueue prio = buf :: rest → rxPrio buf = prio := by
    intro prio buf rest queued
    exact holds.rxSorted prio buf (by rw [queued]; exact List.mem_cons_self)
  rcases Option.or_eq_some_iff.mp taken with serial | ⟨no_serial, later⟩
  · obtain ⟨buf, rest, queued, rfl⟩ := SlaveDriver.recvFrom_cases serial
    refine ⟨buf, rest, by simp [readNext, queued], ?_, ?_⟩ <;> rw [level queued]
    exact queued
  · have empty := SlaveDriver.recvFrom_none no_serial
    rcases Option.or_eq_some_iff.mp later with bt | ⟨no_bt, others⟩
    · obtain ⟨buf, rest, queued, rfl⟩ := SlaveDriver.recvFrom_cases bt
      refine ⟨buf, rest, by simp [readNext, empty, queued], ?_, ?_⟩ <;> rw [level queued]
      exact queued
    · obtain ⟨buf, rest, queued, rfl⟩ := SlaveDriver.recvFrom_cases others
      have none := SlaveDriver.recvFrom_none no_bt
      refine ⟨buf, rest, by simp [readNext, empty, none, queued], ?_, ?_⟩ <;> rw [level queued]
      exact queued

theorem slaveHolds_task (holds : SlaveHolds slave)
    (taken : SlaveDriver.taskStep config slave = some next) : SlaveHolds next := by
  cases SlaveDriver.taskStep_moves taken with
  | takeResult rxBuffer pc ended | take pc | pass pc | lowerDataReady pc | buildDummy pc
  | queueTrans txBuffer pc =>
      exact ⟨holds.txSorted, holds.rxSorted, nofun⟩
  | dropRx pc => exact ⟨holds.txSorted, holds.rxSorted, fun _ => rfl⟩
  | receive prio pc =>
      unfold SlaveDriver.receiveStep
      split
      · rename_i frame rest queued
        exact ⟨sorted_get holds.txSorted queued, holds.rxSorted, nofun⟩
      · refine ⟨holds.txSorted, holds.rxSorted, ?_⟩
        cases prio <;> nofun
  | queueRx buf pc valid room =>
      exact ⟨holds.txSorted, sorted_put holds.rxSorted buf, fun _ => rfl⟩

theorem slaveHolds_step {act : SlaveDriver.Act} (holds : SlaveHolds slave)
    (taken : SlaveDriver.step config slave act = some next) : SlaveHolds next := by
  cases act with
  | write buf =>
      cases taken
      unfold SlaveDriver.writeStep
      split
      · exact holds
      · exact ⟨holds.txSorted, holds.rxSorted, holds.looked⟩
  | put index =>
      obtain ⟨frame, found, room, rfl⟩ := SlaveDriver.putStep_cases taken
      exact ⟨sorted_put holds.txSorted frame, holds.rxSorted, holds.looked⟩
  | give =>
      obtain ⟨_, rfl⟩ := SlaveDriver.giveStep_cases taken
      exact ⟨holds.txSorted, holds.rxSorted, holds.looked⟩
  | raise =>
      obtain ⟨_, rfl⟩ := SlaveDriver.raiseStep_cases taken
      exact ⟨holds.txSorted, holds.rxSorted, holds.looked⟩
  | task => exact slaveHolds_task holds taken
  | transact rxBuffer =>
      obtain ⟨_, _, rfl⟩ := SlaveDriver.transactStep_cases taken
      exact ⟨holds.txSorted, holds.rxSorted, holds.looked⟩
  | recv =>
      obtain ⟨buf, rest, _, queued, rfl⟩ := readNext_recv holds taken
      exact ⟨holds.txSorted, sorted_get holds.rxSorted queued, holds.looked⟩

end Slave

section Buffers

theorem heard_none (prio : Prio) : heard prio none = [] := rfl

theorem offered_none (prio : Prio) : offered prio none = [] := rfl

/-- A frame that may be sent arrives in its class. -/
theorem arrival_atLevel {frame : SpiDriver.TxFrame} (sendable : Sendable frame.buf) (prio : Prio) :
    atLevel rxPrio prio (arrival frame).toList =
      if txPrio frame = prio then (arrival frame).toList else [] := by
  obtain ⟨got, reaches⟩ := sendable_reaches sendable
  rw [reaches.arrives, Option.toList_some, atLevel_single, reaches.prio]

/-- What comes over the bus is what the pass had in its hand; a dummy is nothing. -/
theorem heard_txBytes (prio : Prio) (tx : Option SpiDriver.TxFrame) :
    heard prio (some (txBytes tx)) = atLevel rxPrio prio (tx.toList.filterMap arrival) := by
  cases tx with
  | none => rfl
  | some frame =>
      rw [heard, Option.toList_some, List.filterMap_cons]
      cases here : arrival frame <;> simp_all [arrival, txBytes]

theorem offered_written {frame : List UInt8} (written : Written frame) (prio : Prio) :
    offered prio (some frame) =
      if SlaveDriver.framePrio frame = prio then (accepted frame).toList else [] := by
  obtain ⟨_, _, got, _, received, _, level, _⟩ := written_accepted written
  rw [offered, Option.bind_some, received, Option.toList_some, atLevel_single, level]

theorem offered_dummy (prio : Prio) (throttling : Bool) :
    offered prio (some (dummyFrame throttling)) = [] := by
  have silent := not_not.mp (len_of_dummy throttling)
  simp [offered, accepted, processSpiRxBuf, silent, Except.toOption, atLevel]

/-- The host queues what it accepts of a buffer the slave arms. -/
theorem built_queues {frame : List UInt8} (built : Built frame) (rx : HostRx) (prio : Prio) :
    (processRxbuff true rx frame).1.fromSlaveQueue prio =
      rx.fromSlaveQueue prio ++ offered prio (some frame) := by
  rcases built with written | ⟨throttling, rfl⟩
  · obtain ⟨_, _, got, _, received, _, level, other⟩ := written_accepted written
    have ok : processSpiRxBuf frame = .ok got := by
      rw [accepted] at received
      cases result : processSpiRxBuf frame with
      | error code => simp [result, Except.toOption] at received
      | ok buf => simpa [result, Except.toOption] using received
    rw [(@processRxbuff_accepted rx _ _ ok other).2.1, offered, Option.bind_some, received,
      Option.toList_some]
    exact put_atLevel handlePrio rx.fromSlaveQueue got prio
  · have silent := not_not.mp (len_of_dummy throttling)
    rw [offered_dummy, List.append_nil]
    simp only [processRxbuff, silent, if_true]
    split <;> rfl

end Buffers

structure Inv (seen : State × History) : Prop where
  host : HostHolds seen.1.host
  slave : SlaveHolds seen.1.slave
  handed : ∀ prio, ∀ frame ∈ seen.2.hostPut prio, Sendable frame.buf
  written : ∀ prio, ∀ frame ∈ seen.2.slavePut prio, Written frame
  toSlave : Accounts (fun prio => (seen.2.hostPut prio).filterMap arrival) seen.2.slaveRead
    (toSlave seen.1)
  toHost : Accounts (fun prio => (seen.2.slavePut prio).filterMap accepted)
    seen.1.host.rx.fromSlaveQueue (toHost seen.1)

section Steps
variable {config : Config} {before after state : State} {history : History}

theorem toSlave_host_put {index : Nat} {ok : Bool} {host : SpiDriver.State}
    (inv : Inv (before, history)) (ok_put : ok = true)
    (taken : SpiDriver.putStep config.host before.host index ok = some host) :
    Accounts (fun prio => ((noteHostPut before.host index history).hostPut prio).filterMap arrival)
      history.slaveRead (toSlave { before with host := host }) := by
  cases SpiDriver.putStep_puts taken with
  | fails => cases ok_put
  | queues frame found room =>
      rw [noteHostPut, found]
      refine accounts_shift inv.toSlave (filterMap_put arrival history.hostPut (txPrio frame) · frame)
        (fun _ => (List.append_nil _).symm) ?_
      intro prio
      have queue := filterMap_put arrival before.host.toSlave (txPrio frame) prio frame
      simp only [toSlave, List.nil_append, List.append_assoc]
      exact congrArg _ (congrArg _ (congrArg _ (congrArg _ queue.symm)))

theorem toSlave_dequeue {pass : SpiDriver.Pass} {prio level : Prio} (inv : Inv (before, history))
    (pc : before.host.pc = .dequeue pass prio) :
    toSlave { before with host := SpiDriver.dequeueStep before.host pass prio } level =
      toSlave before level := by
  unfold SpiDriver.dequeueStep
  split
  · rename_i frame rest queued
    have member : frame ∈ before.host.toSlave prio := by
      rw [queued]
      exact List.mem_cons_self
    have kind : txPrio frame = prio := inv.host.sorted prio frame member
    have came := arrival_atLevel (inv.host.queued prio frame member) level
    have got := filterMap_get arrival queued level
    rw [kind] at came
    simp only [toSlave, pc, inHand, List.filterMap_nil, List.append_assoc]
    rw [got, show [frame].filterMap arrival = (arrival frame).toList by
      cases here : arrival frame <;> simp [here], came]
    rfl
  · rename_i empty
    cases prio <;> simp [toSlave, pc, inHand, nextPrio]

/-- A step that leaves queues and hands alone, on the way to the slave. -/
theorem toSlave_still (hand : inHand after.host.pc = inHand before.host.pc)
    (queued : after.host.toSlave = before.host.toSlave) (ended : after.slave.ended = before.slave.ended)
    (rxBuffer : after.slave.rxBuffer = before.slave.rxBuffer)
    (rxQueue : after.slave.rxQueue = before.slave.rxQueue) : toSlave after = toSlave before := by
  funext prio
  simp only [toSlave, hand, queued, ended, rxBuffer, rxQueue]

theorem toHost_still (armed : after.slave.armed = before.slave.armed)
    (hand : arms after.slave.pc = arms before.slave.pc)
    (queued : after.slave.txQueue = before.slave.txQueue) : toHost after = toHost before := by
  funext prio
  simp only [toHost, armed, hand, queued]

theorem sendable_len_ne {frame : SpiDriver.TxFrame} (sendable : Sendable frame.buf) :
    frame.buf.payloadLen ≠ 0 := by
  intro zero
  have positive := (sendable_len sendable).1
  rw [zero] at positive
  exact Nat.lt_irrefl 0 positive

/-- Between two transfers a pass of the host keeps what is on the way to the slave. -/
theorem toSlave_task {act : SpiDriver.TaskAct} {host : SpiDriver.State}
    (inv : Inv (before, history)) (may : hostMay before (.task act) = true)
    (taken : SpiDriver.taskStep before.host act = some host) :
    toSlave { before with host := host } = toSlave before := by
  cases SpiDriver.taskStep_moves taken with
  | enter pc | handshake active pc | exchange rxDataReady pc | take pass pc | pass pass pc
  | freeTx pass tx failed pc | repost handshake retry pc =>
      exact toSlave_still (by rw [pc]; rfl) rfl rfl rfl rfl
  | dataReady handshake active pc =>
      refine toSlave_still ?_ rfl rfl rfl rfl
      rw [pc]
      cases handshake <;> rfl
  | dequeue pass prio pc => exact funext fun level => toSlave_dequeue inv pc
  | form pass frame pc =>
      refine toSlave_still ?_ rfl rfl rfl rfl
      have sendable := inv.host.hand frame (by rw [pc]; exact List.mem_singleton_self _)
      rw [pc]
      simp only [SpiDriver.formStep, inHand, if_neg (sendable_len_ne sendable), Option.toList_some]
  | decide pass tx pc =>
      refine toSlave_still ?_ ?_ rfl rfl rfl
      · rw [pc, SpiDriver.decideStep]
        split
        · rfl
        · rename_i idle
          cases tx with
          | none => rfl
          | some frame => simp at idle
      · rw [SpiDriver.decideStep]
        split <;> rfl
  | transfer pass tx rxbuff put pc => cases may
  | rearm pass failed pc =>
      refine toSlave_still ?_ ?_ rfl rfl rfl
      · rw [pc, SpiDriver.rearmStep]
        split <;> rfl
      · rw [SpiDriver.rearmStep]
        split <;> rfl

theorem toSlave_slaveTask {slave : SlaveDriver.State} (inv : Inv (before, history))
    (taken : SlaveDriver.taskStep config.slave before.slave = some slave) :
    toSlave { before with slave := slave } = toSlave before := by
  cases SlaveDriver.taskStep_moves taken with
  | takeResult rxBuffer pc ended =>
      have looked : before.slave.rxBuffer = none := inv.slave.looked pc
      funext prio
      simp only [toSlave, looked, ended, heard_none, List.append_nil, List.append_assoc]
  | take pc | pass pc | lowerDataReady pc | buildDummy pc | queueTrans txBuffer pc =>
      exact toSlave_still rfl rfl rfl rfl rfl
  | receive prio pc =>
      refine toSlave_still rfl rfl ?_ ?_ ?_ <;>
      · rw [SlaveDriver.receiveStep]
        split <;> rfl
  | dropRx pc invalid =>
      funext prio
      simp only [toSlave, heard, invalid, Option.bind_none]
  | queueRx buf pc valid room =>
      funext prio
      have queue := put_atLevel rxPrio before.slave.rxQueue buf prio
      simp only [toSlave, heard, valid, Option.bind_none, Option.toList_some]
      rw [show prioOf buf.ifType = rxPrio buf from rfl, queue]
      simp [atLevel]

theorem toHost_slaveTask {slave : SlaveDriver.State} (inv : Inv (before, history))
    (pipeline : Pipeline before.slave)
    (taken : SlaveDriver.taskStep config.slave before.slave = some slave) :
    toHost { before with slave := slave } = toHost before := by
  cases SlaveDriver.taskStep_moves taken with
  | takeResult rxBuffer pc ended | take pc | pass pc | lowerDataReady pc | dropRx pc
  | queueRx buf pc =>
      exact toHost_still rfl (by rw [pc]; rfl) rfl
  | buildDummy pc =>
      funext prio
      simp only [toHost, arms, pc, offered_dummy, offered_none]
  | queueTrans txBuffer pc =>
      have unarmed := (pipeline.unarmed (by rw [pc]; rfl)).1
      funext prio
      simp only [toHost, arms, pc, unarmed, offered_none, List.append_nil, List.nil_append]
  | receive level pc =>
      funext prio
      rw [SlaveDriver.receiveStep]
      split
      · rename_i frame rest queued
        have member : frame ∈ before.slave.txQueue level := by
          rw [queued]
          exact List.mem_cons_self
        have kind : SlaveDriver.framePrio frame = level := inv.slave.txSorted level frame member
        have got := filterMap_get accepted queued prio
        simp only [toHost, pc, arms, offered_none, List.append_nil, List.append_assoc]
        rw [got, offered_written (pipeline.queued level frame member), kind]
      · rename_i empty
        cases level <;> simp [toHost, pc, arms, nextPrio]

theorem rx_task {act : SpiDriver.TaskAct} {host : SpiDriver.State}
    (may : hostMay before (.task act) = true)
    (taken : SpiDriver.taskStep before.host act = some host) : host.rx = before.host.rx := by
  cases SpiDriver.taskStep_moves taken with
  | enter pc | handshake active pc | dataReady handshake active pc | exchange rxDataReady pc
  | take pass pc | pass pass pc | form pass frame pc | freeTx pass tx failed pc
  | repost handshake retry pc => rfl
  | dequeue pass prio pc =>
      unfold SpiDriver.dequeueStep
      split <;> rfl
  | decide pass tx pc =>
      unfold SpiDriver.decideStep
      split <;> rfl
  | transfer pass tx rxbuff put pc => cases may
  | rearm pass failed pc =>
      unfold SpiDriver.rearmStep
      split <;> rfl

theorem inv_init : Inv (init, fresh) where
  host := ⟨nofun, nofun, nofun, nofun⟩
  slave := ⟨nofun, nofun, nofun⟩
  handed := nofun
  written := nofun
  toSlave _ := rfl
  toHost _ := rfl

/-- The host goes on, nothing is put and nothing comes over the bus. -/
theorem inv_host {host : SpiDriver.State} (inv : Inv (before, history)) (holds : HostHolds host)
    (same : toSlave { before with host := host } = toSlave before) (rx : host.rx = before.host.rx) :
    Inv ({ before with host := host }, history) where
  host := holds
  slave := inv.slave
  handed := inv.handed
  written := inv.written
  toSlave := by
    rw [same]
    exact inv.toSlave
  toHost := by
    rw [rx]
    exact inv.toHost

theorem call_toSlave (frame : SpiDriver.TxFrame) (transportUp : Bool) :
    toSlave { before with host := SpiDriver.callStep before.host transportUp frame } =
        toSlave before ∧
      (SpiDriver.callStep before.host transportUp frame).rx = before.host.rx := by
  unfold SpiDriver.callStep
  split <;> exact ⟨rfl, rfl⟩

theorem inv_staTx {transportUp : Bool} {buffer : Option (List UInt8)} {copyBuff : Nat}
    (inv : Inv (before, history))
    (handed : Handed (before, history) (.staTx transportUp buffer copyBuff)) :
    Inv ({ before with host := transportDrvStaTx before.host transportUp buffer copyBuff },
      history) := by
  unfold transportDrvStaTx
  cases buffer with
  | none => exact inv
  | some bytes =>
      dsimp only
      split
      · exact inv
      · split
        · exact inv
        · obtain ⟨same, rx⟩ := @call_toSlave before (staFrame bytes copyBuff) transportUp
          exact inv_host inv
            (hostHolds_call inv.host transportUp (staFrame_sendable copyBuff handed)) same rx

theorem inv_hostPut {index : Nat} {ok : Bool} {host : SpiDriver.State} (inv : Inv (before, history))
    (may : ok = true) (taken : SpiDriver.putStep config.host before.host index ok = some host) :
    Inv ({ before with host := host }, noteHostPut before.host index history) := by
  have moved := toSlave_host_put inv may taken
  have holds := hostHolds_put inv.host taken
  cases SpiDriver.putStep_puts taken with
  | fails => cases may
  | queues frame found room =>
      have sendable := inv.host.putting frame (List.mem_of_getElem? found)
      rw [noteHostPut, found] at moved ⊢
      refine ⟨holds, inv.slave, ?_, inv.written, moved, inv.toHost⟩
      intro prio other member
      rcases mem_put member with older | rfl
      · exact inv.handed prio other older
      · exact sendable

theorem inv_hostStep {act : SpiDriver.Act} {host : SpiDriver.State} (inv : Inv (before, history))
    (may : hostMay before act = true) (handed : Handed (before, history) (.host act))
    (taken : SpiDriver.step config.host before.host act = some host) :
    Inv ({ before with host := host }, note before (.host act) history) := by
  cases act with
  | call transportUp frame =>
      cases taken
      obtain ⟨same, rx⟩ := @call_toSlave before frame transportUp
      exact inv_host inv (hostHolds_call inv.host transportUp fun _ => handed) same rx
  | put index ok => exact inv_hostPut inv may taken
  | postToSlave =>
      obtain ⟨_, rfl⟩ := SpiDriver.postToSlave_cases taken
      exact inv_host inv (inv.host.still rfl rfl fun _ member => member) rfl rfl
  | postReady =>
      obtain ⟨_, rfl⟩ := SpiDriver.postReady_cases taken
      exact inv_host inv (inv.host.still rfl rfl fun _ member => member) rfl rfl
  | handshakeIsr | dataReadyIsr =>
      cases taken
      exact inv_host inv (inv.host.still rfl rfl fun _ member => member) rfl rfl
  | task act =>
      exact inv_host inv (hostHolds_task inv.host taken) (toSlave_task inv may taken)
        (rx_task may taken)

/-- The slave goes on, nothing is put and nothing is read. -/
theorem inv_slave {slave : SlaveDriver.State} (inv : Inv (before, history)) (holds : SlaveHolds slave)
    (down : toSlave { before with slave := slave } = toSlave before)
    (up : toHost { before with slave := slave } = toHost before) :
    Inv ({ before with slave := slave }, history) where
  host := inv.host
  slave := holds
  handed := inv.handed
  written := inv.written
  toSlave := by
    rw [down]
    exact inv.toSlave
  toHost := by
    rw [up]
    exact inv.toHost

theorem inv_slavePut {index : Nat} {slave : SlaveDriver.State} (inv : Inv (before, history))
    (pipeline : Pipeline before.slave)
    (taken : SlaveDriver.step config.slave before.slave (.put index) = some slave) :
    Inv ({ before with slave := slave }, noteSlavePut before.slave index history) := by
  have holds := slaveHolds_step inv.slave taken
  obtain ⟨frame, found, room, rfl⟩ := SlaveDriver.putStep_cases taken
  rw [noteSlavePut, found]
  refine ⟨inv.host, holds, inv.handed, ?_, inv.toSlave, ?_⟩
  · intro prio other member
    rcases mem_put member with older | rfl
    · exact inv.written prio other older
    · exact pipeline.putting other (List.mem_of_getElem? found)
  · refine accounts_shift inv.toHost
      (filterMap_put accepted history.slavePut (SlaveDriver.framePrio frame) · frame)
      (fun _ => (List.append_nil _).symm) ?_
    intro prio
    have queue :=
      filterMap_put accepted before.slave.txQueue (SlaveDriver.framePrio frame) prio frame
    simp only [toHost, List.nil_append, List.append_assoc]
    exact congrArg _ (congrArg _ queue.symm)

theorem inv_recv {slave : SlaveDriver.State} (inv : Inv (before, history))
    (taken : SlaveDriver.step config.slave before.slave .recv = some slave) :
    Inv ({ before with slave := slave }, noteRead before.slave history) := by
  have holds := slaveHolds_step inv.slave taken
  obtain ⟨buf, rest, next, queued, rfl⟩ := readNext_recv inv.slave taken
  rw [noteRead, next]
  refine ⟨inv.host, holds, inv.handed, inv.written, ?_, inv.toHost⟩
  refine accounts_shift inv.toSlave (fun _ => (List.append_nil _).symm)
    (put_atLevel rxPrio history.slaveRead buf) ?_
  intro prio
  simp only [toSlave, List.append_nil, List.append_assoc]
  rw [get_atLevel queued prio, List.append_assoc]

theorem inv_slaveStep {act : SlaveDriver.Act} {slave : SlaveDriver.State}
    (inv : Inv (before, history)) (pipeline : Pipeline before.slave) (may : slaveMay act = true)
    (taken : SlaveDriver.step config.slave before.slave act = some slave) :
    Inv ({ before with slave := slave }, note before (.slave act) history) := by
  have holds := slaveHolds_step inv.slave taken
  cases act with
  | write buf =>
      cases taken
      refine inv_slave inv holds ?_ ?_ <;>
      · unfold SlaveDriver.writeStep
        split <;> rfl
  | put index => exact inv_slavePut inv pipeline taken
  | give =>
      obtain ⟨_, rfl⟩ := SlaveDriver.giveStep_cases taken
      exact inv_slave inv holds rfl rfl
  | raise =>
      obtain ⟨_, rfl⟩ := SlaveDriver.raiseStep_cases taken
      exact inv_slave inv holds rfl rfl
  | task =>
      exact inv_slave inv holds (toSlave_slaveTask inv taken) (toHost_slaveTask inv pipeline taken)
  | transact rxBuffer => cases may
  | recv => exact inv_recv inv taken

/-- Over the bus the frame of the pass goes to the slave, and the armed one to the host. -/
theorem inv_transfer (inv : Inv (before, history)) (pipeline : Pipeline before.slave)
    (taken : transferStep before = some after) : Inv (after, history) := by
  obtain ⟨pass, tx, txBuffer, moved⟩ := transfer_cases taken
  have idle : before.slave.ended = none := by
    cases ended : before.slave.ended with
    | none => rfl
    | some rxBuffer =>
        have unarmed := pipeline.ended (by rw [ended]; rfl)
        rw [moved.armed] at unarmed
        cases unarmed
  have awaits : arms before.slave.pc = none := by
    have settled := pipeline.not_arming moved.armed
    cases here : before.slave.pc <;> simp_all [arming, arms]
  obtain ⟨host, slave⟩ := after
  obtain ⟨pc, armed, rfl, rfl⟩ := moved
  have holds : HostHolds (SpiDriver.transferStep before.host pass tx (some txBuffer) true) :=
    inv.host.resting rfl rfl rfl
  refine ⟨holds, ⟨inv.slave.txSorted, inv.slave.rxSorted, inv.slave.looked⟩, inv.handed,
    inv.written, ?_, ?_⟩
  · refine accounts_shift inv.toSlave (fun _ => (List.append_nil _).symm)
      (fun _ => (List.append_nil _).symm) ?_
    intro prio
    simp only [toSlave, pc, idle, inHand, heard_none, heard_txBytes, SpiDriver.transferStep,
      List.append_nil, List.nil_append, List.filterMap_nil, atLevel_nil]
  · refine accounts_shift inv.toHost (fun _ => (List.append_nil _).symm)
      (built_queues (pipeline.armed txBuffer armed) before.host.rx) ?_
    intro prio
    simp only [toHost, armed, awaits, offered_none, List.append_nil, List.nil_append]

theorem inv_step {act : Act} {last : State × History} (inv : Inv (before, history))
    (pipeline : Pipeline before.slave) (handed : Handed (before, history) act)
    (taken : watched (step config) note (before, history) act = some last) : Inv last := by
  obtain ⟨stepped, noted⟩ := watched_cases taken
  obtain ⟨after, later⟩ := last
  simp only at stepped noted
  subst noted
  cases act with
  | staTx transportUp buffer copyBuff =>
      cases stepped
      exact inv_staTx inv handed
  | host act =>
      obtain ⟨may, slave, goes⟩ := host_cases stepped
      obtain ⟨host, same⟩ := after
      cases slave
      exact inv_hostStep inv may handed goes
  | slave act =>
      obtain ⟨may, host, goes⟩ := slave_cases stepped
      obtain ⟨same, slave⟩ := after
      cases host
      exact inv_slaveStep inv pipeline may goes
  | transfer => exact inv_transfer inv pipeline stepped

theorem inv_reached {seen : State × History}
    (run : Run (watched (step config) note) Handed (init, fresh) seen) : Inv seen := by
  apply run.invariant
  · exact inv_init
  · intro first act last earlier inv handed taken
    exact inv_step inv (pipeline_reached earlier.unwatched) handed taken

end Steps

/-- The host gets the frame as it was written. -/
structure Sent (frame : List UInt8) (got : IfaceBuf) : Prop where
  accepted : accepted frame = some got
  written : ∃ throttle buf, espSpiWrite throttle buf = some frame ∧ SameFrame got buf

/-- The frames of a class that were put have been read, one for one and in their order, but for
those that are still on their way. -/
structure Carried (state : State) (history : History) (prio : Prio) : Prop where
  toSlave : List.Forall₂ Reaches (history.hostPut prio)
    (history.slaveRead prio ++ toSlave state prio)
  toHost : List.Forall₂ Sent (history.slavePut prio)
    (state.host.rx.fromSlaveQueue prio ++ toHost state prio)

/-- However tasks, interrupts and transfers take turns, as long as no transfer and no put fails,
the link loses, doubles, changes and reorders no frame that has been put into a queue of either
side, within its class. A one-byte HCI frame is not among those the host is given. -/
theorem link_carries_in_order (config : Config) (state : State) (history : History)
    (run : Run (watched (step config) note) Handed (init, fresh) (state, history)) (prio : Prio) :
    Carried state history prio where
  toSlave := by
    have inv := inv_reached run
    rw [← inv.toSlave prio]
    refine forall₂_filterMap arrival _ ?_
    intro frame member
    obtain ⟨got, reaches⟩ := sendable_reaches (inv.handed prio frame member)
    exact ⟨got, reaches.arrives, reaches⟩
  toHost := by
    have inv := inv_reached run
    rw [← inv.toHost prio]
    refine forall₂_filterMap accepted _ ?_
    intro frame member
    obtain ⟨throttle, buf, got, wrote, received, same, _⟩ :=
      written_accepted (inv.written prio frame member)
    exact ⟨got, received, received, throttle, buf, wrote, same⟩

/-- An event of the slave and a packet of the station cross on the bus. -/
def crossing : List Act :=
  [.slave (.write slaveEvent), .slave (.put 0), .slave .give, .slave .raise] ++
    List.replicate 4 (.slave .task) ++ .staTx true (some [7]) 1 ::
    hostActs ([.put 0 true, .postToSlave, .postReady] ++ SpiDriver.passBegin true 7) ++
    .transfer :: List.replicate 6 (.slave .task) ++ [.slave .recv]

theorem link_carries_in_order_crossing : ∃ state history,
    (history.slaveRead .others).length = 1 ∧
      (state.host.rx.fromSlaveQueue .serial).length = 1 ∧ ∀ prio, Carried state history prio := by
  obtain ⟨⟨state, history⟩, run, read, received⟩ :=
    admitted_reaches (watched (step fewSlots) note) Handed (init, fresh) crossing
      (fun seen => (seen.2.slaveRead .others).length = 1 ∧
        (seen.1.host.rx.fromSlaveQueue .serial).length = 1) (by decide) (by decide)
  exact ⟨state, history, read, received, link_carries_in_order fewSlots state history run⟩

end EspHosted.LinkOrder

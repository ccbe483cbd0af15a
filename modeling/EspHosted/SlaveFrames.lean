import EspHosted.HostFrames
import Mathlib.Data.Fintype.Card

/-!
A frame from the slave to the host, with what travels along: every frame and every dummy
buffer carries the throttle state the slave computes when it builds it, and
`process_spi_rx_buf` takes it over into `wifi_tx_throttling`, arms or disarms the next
dummy transaction and queues the frame.
-/

namespace EspHosted.SlaveFrames
open SpiFrames HostFrames

/-- `slave_config_t`, in percent of the receive queue. -/
structure SlaveConfig where
  throttleHighThreshold : UInt8
  throttleLowThreshold : UInt8
  deriving DecidableEq

/-- `find_wifi_tx_throttling_to_be_set` for a queue with `queueLoad` messages of
`rxQueueSize`: its result and the new `current_throttling`, which is only ever set to 0 or 1. -/
def findWifiTxThrottlingToBeSet (rxQueueSize : Nat) (cfg : SlaveConfig) (current : Bool)
    (queueLoad : Nat) : Bool × Bool :=
  if cfg.throttleHighThreshold = 0 then (false, current)
  else
    let loadPercent := UInt8.ofNat (queueLoad * 100 / rxQueueSize)
    let current := if loadPercent > cfg.throttleHighThreshold then true else current
    let current := if loadPercent < cfg.throttleLowThreshold then false else current
    (current, current)

def throttleByte (throttling : Bool) : UInt8 := if throttling then 1 else 0

/-- The dummy buffer of the slave's `get_next_tx_buffer`. -/
def dummyHeader (throttling : Bool) : PayloadHeader where
  ifType := espMaxIf
  ifNum := 0xF
  flags := 0
  len := 0
  offset := 0
  checksum := 0
  seqNum := 0
  throttleCmd := throttleByte throttling

def dummyFrame (throttling : Bool) : List UInt8 :=
  (dummyHeader throttling).encode ++ List.replicate maxPayloadSize 0

inductive Prio where
  | serial
  | bt
  | others
  deriving DecidableEq

instance : Fintype Prio where
  elems := {.serial, .bt, .others}
  complete prio := by cases prio <;> decide

/-- The queue that is looked into when one is empty. -/
def nextPrio : Prio → Option Prio
  | .serial => some .bt
  | .bt => some .others
  | .others => none

/-- The queue of an interface, on either side of the link. -/
def prioOf (ifType : UInt8) : Prio :=
  if ifType = espSerialIf then .serial else if ifType = espHciIf then .bt else .others

/-- What `process_spi_rx_buf` changes. -/
structure HostRx where
  scheduleDummyRx : Bool
  wifiTxThrottling : UInt8
  fromSlaveQueue : Prio → List IfaceBuf
  semFromSlaveQueue : Nat

/-- A received serial or network frame is followed by a dummy transaction. -/
def armsDummyRx (ifType : UInt8) : Bool :=
  ifType = espSerialIf || ifType = espStaIf || ifType = espApIf

/-- `process_spi_rx_buf` with what it changes; `put` tells whether the queue takes the handle. -/
def processRxbuff (put : Bool) (rx : HostRx) (rxbuff : List UInt8) : HostRx × Int :=
  let header := decodeHeader rxbuff
  let rx := if header.ifType = espMaxIf then { rx with scheduleDummyRx := false } else rx
  if header.len = 0 then ({ rx with wifiTxThrottling := header.throttleCmd }, -5)
  else
    match processSpiRxBuf rxbuff with
    | .error code => (rx, code)
    | .ok buf =>
        let rx := { rx with wifiTxThrottling := header.throttleCmd }
        let rx := if armsDummyRx buf.ifType then { rx with scheduleDummyRx := true } else rx
        if put then
          let queue := rx.fromSlaveQueue (prioOf buf.ifType)
          ({ rx with
              fromSlaveQueue :=
                Function.update rx.fromSlaveQueue (prioOf buf.ifType) (queue ++ [buf])
              semFromSlaveQueue := rx.semFromSlaveQueue + 1 }, 0)
        else (rx, -3)

/-- What the host has after a frame it took: the frame, behind those of its queue, and the
throttle state that came with it. -/
structure Taken (rx next : HostRx) (throttle : UInt8) (sent got : IfaceBuf) : Prop where
  same : SameFrame got sent
  queued : next.fromSlaveQueue =
    Function.update rx.fromSlaveQueue (prioOf sent.ifType)
      (rx.fromSlaveQueue (prioOf sent.ifType) ++ [got])
  posted : next.semFromSlaveQueue = rx.semFromSlaveQueue + 1
  throttling : next.wifiTxThrottling = throttle
  dummy : next.scheduleDummyRx = (rx.scheduleDummyRx || armsDummyRx sent.ifType)

/-- A length some frame the host accepts has. -/
def HostAccepts (len : Nat) : Prop :=
  ∃ rxbuff got, processSpiRxBuf rxbuff = .ok got ∧ got.payloadLen.toNat = len

theorem accepted_len {rxbuff : List UInt8} {got : IfaceBuf}
    (accepted : processSpiRxBuf rxbuff = .ok got) :
    got.payloadLen = (decodeHeader rxbuff).len ∧ got.ifType = (decodeHeader rxbuff).ifType ∧
      0 < got.payloadLen.toNat ∧ got.payloadLen.toNat ≤ maxPayloadSize := by
  simp only [processSpiRxBuf] at accepted
  by_cases none : (decodeHeader rxbuff).len.toNat = 0
  · simp [none] at accepted
  · by_cases wrong : (decodeHeader rxbuff).len.toNat > maxPayloadSize ∨
        (decodeHeader rxbuff).offset.toNat ≠ payloadHeaderSize
    · simp [none, wrong] at accepted
    · rw [if_neg none, if_neg wrong] at accepted
      split at accepted
      · cases accepted
        have fits : ¬ (decodeHeader rxbuff).len.toNat > maxPayloadSize := fun large =>
          wrong (Or.inl large)
        exact ⟨rfl, rfl, Nat.pos_of_ne_zero none, Nat.le_of_not_lt fits⟩
      · cases accepted

theorem hostAccepts_bounds {len : Nat} (accepts : HostAccepts len) :
    1 ≤ len ∧ len ≤ maxPayloadSize := by
  obtain ⟨rxbuff, got, accepted, rfl⟩ := accepts
  exact (accepted_len accepted).2.2

theorem throttleByte_kept (throttling : Bool) :
    UInt8.ofNat ((throttleByte throttling).toNat % 4) = throttleByte throttling := by
  cases throttling <;> rfl

/-- The effects of a frame that passes the checks. -/
theorem processRxbuff_accepted {rx : HostRx} {rxbuff : List UInt8} {got : IfaceBuf}
    (accepted : processSpiRxBuf rxbuff = .ok got) (other : got.ifType ≠ espMaxIf) :
    (processRxbuff true rx rxbuff).2 = 0 ∧
      (processRxbuff true rx rxbuff).1.fromSlaveQueue =
        Function.update rx.fromSlaveQueue (prioOf got.ifType)
          (rx.fromSlaveQueue (prioOf got.ifType) ++ [got]) ∧
      (processRxbuff true rx rxbuff).1.semFromSlaveQueue = rx.semFromSlaveQueue + 1 ∧
      (processRxbuff true rx rxbuff).1.wifiTxThrottling = (decodeHeader rxbuff).throttleCmd ∧
      (processRxbuff true rx rxbuff).1.scheduleDummyRx =
        (rx.scheduleDummyRx || armsDummyRx got.ifType) := by
  obtain ⟨len, ifType, positive, _⟩ := accepted_len accepted
  have some_bytes : (decodeHeader rxbuff).len ≠ 0 := by
    intro zero
    rw [len, zero] at positive
    exact Nat.lt_irrefl 0 positive
  rw [ifType] at other
  simp only [processRxbuff, other, some_bytes, accepted, if_false, if_true]
  by_cases arms : armsDummyRx got.ifType = true
  · simp [arms]
  · simp [arms]

/-- What the slave writes, the host takes as it was, with the throttle state of the slave;
and the slave writes just the lengths the host accepts. -/
theorem slave_frame_round_trip (rxQueueSize : Nat) (cfg : SlaveConfig) (current : Bool)
    (queueLoad : Nat) (rx : HostRx) (buf : IfaceBuf) (filled : buf.Filled)
    (ifType : buf.ifType.toNat < espMaxIf.toNat) (ifNum : buf.ifNum.toNat < 16) :
    let throttle := throttleByte (findWifiTxThrottlingToBeSet rxQueueSize cfg current queueLoad).1
    (∀ rxbuff, espSpiWrite throttle buf = some rxbuff →
      (processRxbuff true rx rxbuff).2 = 0 ∧
      ∃ got, Taken rx (processRxbuff true rx rxbuff).1 throttle buf got) ∧
    ((espSpiWrite throttle buf).isSome ↔
      1 ≤ buf.payloadLen.toNat ∧ buf.payloadLen.toNat ≤ maxPayloadSize) ∧
    ((espSpiWrite throttle buf).isSome ↔ HostAccepts buf.payloadLen.toNat) := by
  intro throttle
  have bounds := espSpiWrite_isSome throttle buf
  have small : buf.ifType.toNat < 16 := Nat.lt_trans ifType (by decide)
  refine ⟨?_, bounds, ?_, ?_⟩
  · intro rxbuff wrote
    have written : (espSpiWrite throttle buf).isSome := by rw [wrote, Option.isSome_some]
    obtain ⟨positive, fits⟩ := bounds.mp written
    obtain ⟨sent, got, sent_wrote, header, accepted, same⟩ :=
      @espSpiWrite_received throttle buf filled positive fits small ifNum
    have one : sent = rxbuff := Option.some.inj (sent_wrote.symm.trans wrote)
    subst one
    have other : got.ifType ≠ espMaxIf := by
      intro idle
      rw [← same.ifType, idle] at ifType
      exact Nat.lt_irrefl _ ifType
    obtain ⟨zero, queued, posted, throttling, dummy⟩ := @processRxbuff_accepted rx _ _ accepted other
    refine ⟨zero, got, ?_⟩
    rw [same.ifType] at queued dummy
    rw [header] at throttling
    exact
      { same := same, queued := queued, posted := posted,
        throttling := throttling.trans (throttleByte_kept _), dummy := dummy }
  · intro written
    obtain ⟨positive, fits⟩ := bounds.mp written
    obtain ⟨sent, got, _, _, accepted, same⟩ :=
      @espSpiWrite_received throttle buf filled positive fits small ifNum
    exact ⟨sent, got, accepted, congrArg UInt16.toNat same.payloadLen⟩
  · intro accepts
    exact bounds.mpr (hostAccepts_bounds accepts)

def slaveEvent : IfaceBuf where
  ifType := espSerialIf
  ifNum := 0
  payload := [7, 8, 9]
  flag := 0
  payloadLen := 3
  seqNum := 258

theorem slaveEvent_filled : slaveEvent.Filled := Nat.le_refl 3

def idleHost : HostRx where
  scheduleDummyRx := false
  wifiTxThrottling := 0
  fromSlaveQueue _ := []
  semFromSlaveQueue := 0

theorem slave_frame_round_trip_event :
    ∃ rxbuff got, espSpiWrite 1 slaveEvent = some rxbuff ∧
      Taken idleHost (processRxbuff true idleHost rxbuff).1 1 slaveEvent got := by
  have busy : throttleByte (findWifiTxThrottlingToBeSet 10 ⟨80, 60⟩ false 9).1 = 1 := by decide
  obtain ⟨received, written, _⟩ :=
    slave_frame_round_trip 10 ⟨80, 60⟩ false 9 idleHost slaveEvent slaveEvent_filled (by decide)
      (by decide)
  rw [busy] at received written
  obtain ⟨rxbuff, wrote⟩ := Option.isSome_iff_exists.mp (written.mpr (by decide))
  obtain ⟨got, taken⟩ := (received rxbuff wrote).2
  exact ⟨rxbuff, got, wrote, taken⟩

end EspHosted.SlaveFrames

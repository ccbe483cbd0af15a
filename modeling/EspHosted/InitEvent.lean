import EspHosted.TlvWalk

/-!
The two events with which host and slave introduce themselves. The slave tells its chip and its
queues, the host answers with its thresholds; both events are TLV records behind a type and an
8-bit length that the reader takes on trust.
-/

namespace EspHosted.InitEvent
open TlvWalk

def espPrivEventInit : UInt8 := 0x22

def espPrivCapability : UInt8 := 0x11
def espPrivFirmwareChipId : UInt8 := 0x12
def espPrivTestRawTp : UInt8 := 0x13
def espPrivRxQSize : UInt8 := 0x14
def espPrivTxQSize : UInt8 := 0x15
def espPrivCapExt : UInt8 := 0x16

def hostCapabilities : UInt8 := 0x44
def rcvdEspFirmwareChipId : UInt8 := 0x45
def slvConfigTestRawTp : UInt8 := 0x46
def slvConfigThrottleHighThreshold : UInt8 := 0x47
def slvConfigThrottleLowThreshold : UInt8 := 0x48

/-- A record with a value of one byte. -/
def byteTlv (tag value : UInt8) : Tlv := { tag := tag, value := [value] }

/-- `struct esp_priv_event` with its data. -/
def privEvent (tlvs : List Tlv) : List UInt8 :=
  espPrivEventInit :: UInt8.ofNat (encode tlvs).length :: encode tlvs

/-- What comes of an event. A handler gives what it leaves of the data, the records it visited
and the state. -/
inductive Handled (σ : Type) where
  | overread
  | asserted
  | dropped
  | handled (rest : List UInt8) (visited : List Tlv) (state : σ)

/-- The loop the two handlers share, behind their assertion on the length. -/
def eventLoop {σ : Type} (decoder : Decoder σ) (state : σ) (evtBuf : List UInt8) (len : UInt16) :
    Handled σ :=
  if 64 < len.toNat then .asserted
  else
    match walk decoder evtBuf len.toUInt8 [] state with
    | .overread => .overread
    | .refused => .asserted
    | .ended rest visited state => .handled rest visited state

/-- `process_event` and `process_priv_pkt`, by their handler. -/
def dispatch {σ : Type} (handler : List UInt8 → UInt16 → Handled σ) : List UInt8 → Handled σ
  | [] => .dropped
  | [eventType] => if eventType = espPrivEventInit then .overread else .dropped
  | eventType :: eventLen :: eventData =>
      if eventType = espPrivEventInit then handler eventData eventLen.toUInt16 else .dropped

namespace Host

/-- The chip the host is built for, whether debug messages are, and what it tells the slave. -/
structure Config where
  expChipId : UInt8
  logDebug : Bool
  rawTpDir : UInt8
  lowThreshold : UInt8
  highThreshold : UInt8

structure State where
  chipType : UInt8
  extCap : UInt32
  /-- The event that goes to the slave. -/
  sent : Option (List UInt8)

def espPrivFirmwareChipUnrecognized : UInt8 := 0xff

/-- ESP32, S2, C3, S3, C2, C6 and C5. -/
def chips : List UInt8 := [0x0, 0x2, 0x5, 0x9, 0xC, 0xD, 0x17]

def processExtCapabilities (ptr : List UInt8) : UInt32 :=
  (ptr.getD 0 0).toUInt32 + ((ptr.getD 1 0).toUInt32 <<< 8) + ((ptr.getD 2 0).toUInt32 <<< 16) +
    ((ptr.getD 3 0).toUInt32 <<< 24)

variable (config : Config)

/-- The sizes of the queues are only read to be printed. -/
def valueReads (tag : UInt8) : Nat :=
  if tag = espPrivCapability ∨ tag = espPrivFirmwareChipId ∨ tag = espPrivTestRawTp then 1
  else if tag = espPrivCapExt then 4
  else if tag = espPrivRxQSize ∨ tag = espPrivTxQSize then if config.logDebug then 1 else 0
  else 0

/-- `verify_host_config_for_slave`. -/
def refuses (tag : UInt8) (value : List UInt8) : Bool :=
  tag = espPrivFirmwareChipId && value ≠ [config.expChipId]

def visit (tag : UInt8) (value : List UInt8) (state : State) : State :=
  if tag = espPrivCapExt then { state with extCap := processExtCapabilities value }
  else if tag = espPrivFirmwareChipId then { state with chipType := value.getD 0 0 }
  else state

def decoder : Decoder State where
  valueReads := valueReads config
  refuses := refuses config
  visit := visit

def sendSlaveConfig (hostCap firmwareChipId rawTpDirection lowThrThesh highThrThesh : UInt8) :
    List UInt8 :=
  privEvent
    [byteTlv hostCapabilities hostCap, byteTlv rcvdEspFirmwareChipId firmwareChipId,
      byteTlv slvConfigTestRawTp rawTpDirection,
      byteTlv slvConfigThrottleHighThreshold highThrThesh,
      byteTlv slvConfigThrottleLowThreshold lowThrThesh]

/-- The end of `process_init_event`: a chip it knows is answered. -/
def settleChip (state : State) : State :=
  if state.chipType ∈ chips then
    { state with
      sent := some (sendSlaveConfig 0 state.chipType config.rawTpDir config.lowThreshold
        config.highThreshold) }
  else { state with chipType := espPrivFirmwareChipUnrecognized }

def processInitEvent (state : State) (evtBuf : List UInt8) (len : UInt16) : Handled State :=
  match eventLoop (decoder config) { state with extCap := 0 } evtBuf len with
  | .overread => .overread
  | .asserted => .asserted
  | .dropped => .dropped
  | .handled rest visited state => .handled rest visited (settleChip config state)

def processEvent (state : State) (payload : List UInt8) : Handled State :=
  dispatch (processInitEvent config state) payload

end Host

namespace Slave

/-- What the slave is built with. -/
structure Config where
  firmwareChipId : UInt8
  rawTpCap : UInt8
  rxQueueSize : UInt8
  txQueueSize : UInt8

/-- `slv_cfg_g`. -/
structure SlvCfg where
  throttleHighThreshold : UInt8
  throttleLowThreshold : UInt8
  deriving DecidableEq

/-- Nothing is read of the capabilities of the host. -/
def valueReads (tag : UInt8) : Nat :=
  if tag = rcvdEspFirmwareChipId ∨ tag = slvConfigTestRawTp ∨
      tag = slvConfigThrottleHighThreshold ∨ tag = slvConfigThrottleLowThreshold then 1
  else 0

def visit (tag : UInt8) (value : List UInt8) (slvCfg : SlvCfg) : SlvCfg :=
  if tag = slvConfigThrottleHighThreshold then
    { slvCfg with throttleHighThreshold := value.getD 0 0 }
  else if tag = slvConfigThrottleLowThreshold then
    { slvCfg with throttleLowThreshold := value.getD 0 0 }
  else slvCfg

def decoder : Decoder SlvCfg where
  valueReads := valueReads
  refuses _ _ := false
  visit := visit

def hostToSlaveReconfig (slvCfg : SlvCfg) (evtBuf : List UInt8) (len : UInt16) : Handled SlvCfg :=
  eventLoop decoder slvCfg evtBuf len

def processPrivPkt (slvCfg : SlvCfg) (payload : List UInt8) : Handled SlvCfg :=
  dispatch (hostToSlaveReconfig slvCfg) payload

end Slave

section Loop
variable {σ : Type} {decoder : Decoder σ}

end Loop

section Handshake
variable {config : Host.Config} {tlvs : List Tlv}

end Handshake

/-- The event fits its own bytes: there is a length behind the type, and the assertion breaks
off or the records are tiled up to that length. -/
def InBounds {σ : Type} (decoder : Decoder σ) : List UInt8 → Prop
  | [] => True
  | [eventType] => eventType ≠ espPrivEventInit
  | eventType :: eventLen :: eventData =>
      eventType ≠ espPrivEventInit ∨ 64 < eventLen.toNat ∨ Tiled decoder eventData eventLen

section Bounds
variable {σ : Type} {decoder : Decoder σ}

theorem eventLoop_inside_iff (state : σ) (evtBuf : List UInt8) (len : UInt8) :
    eventLoop decoder state evtBuf len.toUInt16 ≠ .overread ↔
      64 < len.toNat ∨ Tiled decoder evtBuf len := by
  rw [eventLoop, UInt8.toNat_toUInt16, UInt8.toUInt8_toUInt16]
  split
  · rename_i long
    exact ⟨fun _ => Or.inl long, fun _ => nofun⟩
  · rename_i short
    rw [or_iff_right short, ← walk_inside_iff evtBuf len [] state]
    split
    · rename_i read
      rw [read]
      simp
    · rename_i refused
      rw [refused]
      simp
    · rename_i rest visited last ended
      rw [ended]
      simp

theorem dispatch_inside_iff (handler : List UInt8 → UInt16 → Handled σ)
    (inside : ∀ evtBuf (len : UInt8), handler evtBuf len.toUInt16 ≠ .overread ↔
      64 < len.toNat ∨ Tiled decoder evtBuf len) (payload : List UInt8) :
    dispatch handler payload ≠ .overread ↔ InBounds decoder payload := by
  rcases payload with _ | ⟨eventType, _ | ⟨eventLen, eventData⟩⟩
  · simp [dispatch, InBounds]
  · by_cases event : eventType = espPrivEventInit
    · simp [dispatch, InBounds, event]
    · simp [dispatch, InBounds, event]
  · rw [InBounds, dispatch]
    split
    · rename_i event
      rw [inside]
      simp [event]
    · rename_i other
      simp [other]

theorem processInitEvent_inside_iff (config : Host.Config) (state : Host.State)
    (evtBuf : List UInt8) (len : UInt8) :
    Host.processInitEvent config state evtBuf len.toUInt16 ≠ .overread ↔
      64 < len.toNat ∨ Tiled (Host.decoder config) evtBuf len := by
  rw [← eventLoop_inside_iff { state with extCap := 0 }, Host.processInitEvent]
  split
  · rename_i read
    rw [read]
  · rename_i asserted
    simp [asserted]
  · rename_i dropped
    simp [dropped]
  · rename_i rest visited last handled
    simp [handled]

/-- Host and slave read nothing outside an event exactly if its records are tiled. -/
theorem event_inside_iff (config : Host.Config) (state : Host.State) (slvCfg : Slave.SlvCfg)
    (payload : List UInt8) :
    (Host.processEvent config state payload ≠ .overread ↔
      InBounds (Host.decoder config) payload) ∧
    (Slave.processPrivPkt slvCfg payload ≠ .overread ↔ InBounds Slave.decoder payload) :=
  ⟨dispatch_inside_iff _ (processInitEvent_inside_iff config state) payload,
    dispatch_inside_iff _ (eventLoop_inside_iff slvCfg) payload⟩

/-- A record that is one byte longer than the event leaves 255 bytes to go on with. -/
theorem event_inside_fails :
    Host.processEvent
        { expChipId := 0xD, logDebug := false, rawTpDir := 0, lowThreshold := 60, highThreshold := 80 }
        { chipType := 0xff, extCap := 0, sent := none } [0x22, 3, 0x12, 2, 0xD] = .overread ∧
      Slave.processPrivPkt { throttleHighThreshold := 80, throttleLowThreshold := 60 }
        [0x22, 3, 0x47, 2, 80] = .overread := by
  constructor
  · simp [Host.processEvent, dispatch, espPrivEventInit, Host.processInitEvent, eventLoop, walk,
      Host.decoder, Host.valueReads, Host.refuses, espPrivCapability, espPrivFirmwareChipId]
  · simp [Slave.processPrivPkt, dispatch, espPrivEventInit, Slave.hostToSlaveReconfig, eventLoop,
      walk, Slave.decoder, Slave.valueReads, slvConfigThrottleHighThreshold, rcvdEspFirmwareChipId,
      slvConfigTestRawTp]

end Bounds

end EspHosted.InitEvent

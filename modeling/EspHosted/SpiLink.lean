import EspHosted.GuardedRun
import EspHosted.SlaveDriver
import EspHosted.SpiDriver

/-!
The drivers of host and slave on one SPI link. The handshake line is active while the slave
has a transaction armed; a bus transfer hands over both buffers at once. The bus does not
fail, and a put into a full queue waits.
-/

namespace EspHosted.SpiLink
open SpiFrames HostFrames SlaveFrames QueueBank GuardedRun

structure Config where
  host : SpiDriver.Config
  slave : SlaveDriver.Config

structure State where
  host : SpiDriver.State
  slave : SlaveDriver.State

def init : State where
  host := SpiDriver.init
  slave := SlaveDriver.init

/-- The frame `transport_drv_sta_tx` hands to `esp_hosted_tx`: a zeroed buffer out of the
pool, with the bytes behind the space for the header. -/
def staFrame (bytes : List UInt8) (copyBuff : Nat) : SpiDriver.TxFrame where
  buf :=
    { ifType := espStaIf, ifNum := 0, payloadZcopy := true
      payloadLen := UInt16.ofNat bytes.length
      payload := putAt (List.replicate maxSpiBufferSize 0) payloadHeaderSize bytes }
  wbuffer := some copyBuff
  freeWbufFun := true

def transportDrvStaTx (host : SpiDriver.State) (transportUp : Bool)
    (buffer : Option (List UInt8)) (copyBuff : Nat) : SpiDriver.State :=
  match buffer with
  | none => host
  | some bytes =>
      if bytes.length = 0 then host
      else if host.rx.wifiTxThrottling ≠ 0 then host
      else SpiDriver.callStep host transportUp (staFrame bytes copyBuff)

/-- What the host clocks out when it has no frame. -/
def hostDummy : List UInt8 :=
  PayloadHeader.encode
    { ifType := espMaxIf, ifNum := 0, flags := 0, len := 0, offset := 0, checksum := 0
      seqNum := 0, throttleCmd := 0 } ++ List.replicate maxPayloadSize 0

def txBytes : Option SpiDriver.TxFrame → List UInt8
  | some frame => onBus (formTxBuffer frame.buf)
  | none => hostDummy

inductive Act where
  | staTx (transportUp : Bool) (buffer : Option (List UInt8)) (copyBuff : Nat)
  | host (act : SpiDriver.Act)
  | slave (act : SlaveDriver.Act)
  | transfer

/-- The level of the line the host's pass is about to read. -/
def line (state : State) : Bool :=
  match state.host.pc with
  | .readHandshake => state.slave.armed.isSome
  | _ => state.slave.dataReady

/-- The host reads what is on the lines; the bus is not its own. -/
def hostMay (state : State) : SpiDriver.Act → Bool
  | .put _ ok => ok
  | .task (.sees active) => active == line state
  | .task (.transfers _ _) => false
  | .task .go | .call _ _ | .postToSlave | .postReady | .handshakeIsr | .dataReadyIsr => true

instance (buf : IfaceBuf) : Decidable buf.Filled := inferInstanceAs (Decidable (_ ≤ _))

/-- A frame some task of the slave may write: one of an interface, its payload there. -/
def writable (buf : IfaceBuf) : Bool :=
  buf.Filled && buf.ifType.toNat < espMaxIf.toNat && buf.ifNum.toNat < 16

def slaveMay : SlaveDriver.Act → Bool
  | .write buf => writable buf
  | .transact _ => false
  | .put _ | .give | .raise | .task | .recv => true

/-- A bus transfer, which ends a transaction of the slave. -/
def transferStep (state : State) : Option State :=
  match state.host.pc, state.slave.armed with
  | .transfer pass tx, some txBuffer =>
      (SlaveDriver.transactStep state.slave (txBytes tx)).map fun slave =>
        { host := SpiDriver.transferStep state.host pass tx (some txBuffer) true, slave := slave }
  | _, _ => none

variable (config : Config)

def step (state : State) : Act → Option State
  | .staTx transportUp buffer copyBuff =>
      some { state with host := transportDrvStaTx state.host transportUp buffer copyBuff }
  | .host act =>
      if hostMay state act then
        (SpiDriver.step config.host state.host act).map fun host => { state with host := host }
      else none
  | .slave act =>
      if slaveMay act then
        (SlaveDriver.step config.slave state.slave act).map fun slave => { state with slave := slave }
      else none
  | .transfer => transferStep state

variable {config : Config} {before after state : State}

theorem host_cases {act : SpiDriver.Act} (taken : step config before (.host act) = some after) :
    hostMay before act = true ∧ after.slave = before.slave ∧
      SpiDriver.step config.host before.host act = some after.host := by
  simp only [step] at taken
  split at taken
  · rename_i may
    obtain ⟨host, moved, rfl⟩ := Option.map_eq_some_iff.mp taken
    exact ⟨may, rfl, moved⟩
  · cases taken

theorem slave_cases {act : SlaveDriver.Act} (taken : step config before (.slave act) = some after) :
    slaveMay act = true ∧ after.host = before.host ∧
      SlaveDriver.step config.slave before.slave act = some after.slave := by
  simp only [step] at taken
  split at taken
  · rename_i may
    obtain ⟨slave, moved, rfl⟩ := Option.map_eq_some_iff.mp taken
    exact ⟨may, rfl, moved⟩
  · cases taken

/-- Both sides of a bus transfer. -/
structure Transferred (before after : State) (pass : SpiDriver.Pass)
    (tx : Option SpiDriver.TxFrame) (txBuffer : List UInt8) : Prop where
  pc : before.host.pc = .transfer pass tx
  armed : before.slave.armed = some txBuffer
  host : after.host = SpiDriver.transferStep before.host pass tx (some txBuffer) true
  slave : after.slave = { before.slave with armed := none, ended := some (txBytes tx) }

theorem transfer_cases (taken : transferStep before = some after) :
    ∃ pass tx txBuffer, Transferred before after pass tx txBuffer := by
  unfold transferStep at taken
  split at taken
  · rename_i pass tx txBuffer pc armed
    simp only [SlaveDriver.transactStep, armed, Option.map_some, Option.some.injEq] at taken
    subst taken
    exact ⟨pass, tx, txBuffer, pc, armed, rfl, rfl⟩
  · cases taken

theorem staTx_cases (host : SpiDriver.State) (transportUp : Bool) (buffer : Option (List UInt8))
    (copyBuff : Nat) :
    transportDrvStaTx host transportUp buffer copyBuff = host ∨
      ∃ frame, transportDrvStaTx host transportUp buffer copyBuff =
        SpiDriver.callStep host transportUp frame := by
  unfold transportDrvStaTx
  split
  · exact Or.inl rfl
  · split
    · exact Or.inl rfl
    · split
      · exact Or.inl rfl
      · exact Or.inr ⟨_, rfl⟩

/-- What the host's driver does on the link is a run of its own. -/
theorem host_run {guard : State → Act → Prop} (run : Run (step config) guard init state) :
    Run (SpiDriver.step config.host) unguarded SpiDriver.init state.host := by
  refine run.project State.host ?_
  intro before act after taken
  cases act with
  | staTx transportUp buffer copyBuff =>
      cases taken
      rcases staTx_cases before.host transportUp buffer copyBuff with dropped | ⟨frame, called⟩
      · exact Or.inl dropped
      · exact Or.inr ⟨.call transportUp frame, congrArg some called.symm⟩
  | host act => exact Or.inr ⟨act, (host_cases taken).2.2⟩
  | slave act => exact Or.inl (slave_cases taken).2.1
  | transfer =>
      obtain ⟨pass, tx, txBuffer, pc, armed, host, slave⟩ := transfer_cases taken
      refine Or.inr ⟨.task (.transfers (some txBuffer) true), ?_⟩
      simp only [SpiDriver.step, SpiDriver.taskStep, pc, host]

/-- The host goes on by itself. -/
theorem host_goes {host later : SpiDriver.State} {slave : SlaveDriver.State} (steps : Nat)
    (done : exec (SpiDriver.step config.host) host (List.replicate steps (.task .go)) = some later) :
    exec (step config) ⟨host, slave⟩ (List.replicate steps (.host (.task .go))) =
      some ⟨later, slave⟩ := by
  induction steps generalizing host with
  | zero =>
      cases done
      rfl
  | succ steps ih =>
      obtain ⟨next, moved, rest⟩ := Option.bind_eq_some_iff.mp done
      refine Option.bind_eq_some_iff.mpr ⟨⟨next, slave⟩, ?_, ih rest⟩
      simp only [step, hostMay, if_true, moved, Option.map_some]

end EspHosted.SpiLink

import EspHosted.GuardedRun
import EspHosted.WrapCount

/-!
Credits for sending to the slave over SDIO and over half-duplex SPI. The slave counts the
buffers it has loaded in a register that wraps; the host counts those it has used and keeps
what is left of its last look at the register in `buf_available`. The two drivers differ in
the width of the counters and in how often a write is tried.
-/

namespace EspHosted.WriteCredits
open GuardedRun WrapCount

def sizeofEspPayloadHeader : UInt32 := 12

/-- One of the two drivers: how it reads the register and counts what it sent. -/
structure Bus where
  modulus : Nat
  /-- What the register word says of the buffers loaded. -/
  loaded : UInt32 → Nat
  /-- `get_tx_buffer_num`, on the word it read and the buffers sent. -/
  txBufferNum : UInt32 → UInt32 → UInt32
  /-- The buffers sent behind a packet. -/
  counted : UInt32 → UInt32 → UInt32
  bufferSize : UInt32
  maxWriteBufRetries : Nat
  maxWriteRetries : Nat

namespace Sdio

def espTxBufferMask : UInt32 := 0xFFF
def espTxBufferMax : UInt32 := 0x1000

def txBufferNum (word txBufCount : UInt32) : UInt32 :=
  let len := (word >>> 16) &&& espTxBufferMask
  (len + espTxBufferMax - txBufCount) % espTxBufferMax

def bus : Bus where
  modulus := 4096
  loaded word := ((word >>> 16) &&& espTxBufferMask).toNat
  txBufferNum := txBufferNum
  counted txBufCount bufNeeded := (txBufCount + bufNeeded) % espTxBufferMax
  bufferSize := 1536
  maxWriteBufRetries := 50
  maxWriteRetries := 2

end Sdio

namespace SpiHd

def bus : Bus where
  modulus := 4294967296
  loaded := UInt32.toNat
  txBufferNum word txBufCount := word - txBufCount
  counted txBufCount bufNeeded := txBufCount + bufNeeded
  bufferSize := 1600
  maxWriteBufRetries := 25
  maxWriteRetries := 1

end SpiHd

/-- Where the write task is; `retry` and `retries` count as they do there. -/
inductive Pc where
  | idle
  | reading (bufNeeded : UInt32) (retry : Nat)
  | writing (bufNeeded : UInt32) (retries : Nat)
  deriving DecidableEq

structure State where
  /-- The buffers the slave has loaded, and those that packets were sent into. -/
  granted : Nat
  consumed : Nat
  txBufCount : UInt32
  bufAvailable : UInt32
  pc : Pc
  deriving DecidableEq

def init : State where
  granted := 0
  consumed := 0
  txBufCount := 0
  bufAvailable := 0
  pc := .idle

inductive Act where
  | grant (buffers : Nat)
  /-- A packet is taken out of the queues; `len` is its length without the header. -/
  | packet (len : UInt16)
  /-- The word the register gives, none when it cannot be read. -/
  | readReg (word : Option UInt32)
  | write (ok : Bool)

variable (bus : Bus)

def bufNeeded (len : UInt16) : UInt32 :=
  (len.toUInt32 + sizeofEspPayloadHeader + bus.bufferSize - 1) / bus.bufferSize

/-- The rest of `is_write_buffer_available` behind a look at the register. -/
def lookedAt (state : State) (needed : UInt32) (retry : Nat) (bufAvailable : UInt32) : State :=
  if bufAvailable < needed then
    if retry - 1 = 0 then { state with bufAvailable := bufAvailable, pc := .idle }
    else { state with bufAvailable := bufAvailable, pc := .reading needed (retry - 1) }
  else { state with bufAvailable := bufAvailable - needed, pc := .writing needed 0 }

def step (state : State) : Act → Option State
  | .grant buffers => some { state with granted := state.granted + buffers }
  | .packet len =>
      match state.pc with
      | .idle =>
          let needed := bufNeeded bus len
          if state.bufAvailable < needed then
            some { state with pc := .reading needed bus.maxWriteBufRetries }
          else
            some
              { state with
                bufAvailable := state.bufAvailable - needed
                pc := .writing needed 0 }
      | .reading _ _ | .writing _ _ => none
  | .readReg none =>
      match state.pc with
      | .reading needed retry => some (lookedAt state needed retry state.bufAvailable)
      | .idle | .writing _ _ => none
  | .readReg (some word) =>
      match state.pc with
      | .reading needed retry =>
          if bus.loaded word = state.granted % bus.modulus then
            some (lookedAt state needed retry (bus.txBufferNum word state.txBufCount))
          else none
      | .idle | .writing _ _ => none
  | .write ok =>
      match state.pc with
      | .writing needed retries =>
          if ok then
            some
              { state with
                consumed := state.consumed + needed.toNat
                txBufCount := bus.counted state.txBufCount needed
                pc := .idle }
          else if retries + 1 < bus.maxWriteRetries then
            some { state with pc := .writing needed (retries + 1) }
          else some { state with pc := .idle }
      | .idle | .reading _ _ => none

/-- The slave never has as many unused buffers as the register can tell apart. -/
def Fewer (state : State) : Act → Prop
  | .grant buffers => state.granted + buffers - state.consumed < bus.modulus
  | .packet _ | .readReg _ | .write _ => True

instance (state : State) : (act : Act) → Decidable (Fewer bus state act)
  | .grant buffers =>
      inferInstanceAs (Decidable (state.granted + buffers - state.consumed < bus.modulus))
  | .packet _ | .readReg _ | .write _ => .isTrue trivial

/-- What a driver has to get right about its counters. -/
structure Lawful : Prop where
  positive : 0 < bus.modulus
  txBufferNum : ∀ {word txBufCount : UInt32} {granted consumed : Nat},
    bus.loaded word = granted % bus.modulus → txBufCount.toNat = consumed % bus.modulus →
      consumed ≤ granted → granted - consumed < bus.modulus →
        (bus.txBufferNum word txBufCount).toNat = granted - consumed
  counted : ∀ {txBufCount : UInt32} {consumed : Nat} (needed : UInt32),
    txBufCount.toNat = consumed % bus.modulus →
      (bus.counted txBufCount needed).toNat = (consumed + needed.toNat) % bus.modulus

theorem sdio_lawful : Lawful Sdio.bus where
  positive := by decide
  txBufferNum := by
    intro word txBufCount granted consumed loaded counted grown near
    change ((word >>> 16) &&& Sdio.espTxBufferMask).toNat = granted % 4096 at loaded
    change txBufCount.toNat = consumed % 4096 at counted
    change granted - consumed < 4096 at near
    have max : Sdio.espTxBufferMax.toNat = 4096 := rfl
    have last : granted % 4096 < 4096 := Nat.mod_lt _ (by decide)
    have first : consumed % 4096 < 4096 := Nat.mod_lt _ (by decide)
    change ((((word >>> 16) &&& Sdio.espTxBufferMask) + Sdio.espTxBufferMax - txBufCount) %
      Sdio.espTxBufferMax).toNat = _
    rw [UInt32.toNat_mod, UInt32.toNat_sub, UInt32.toNat_add, loaded, counted, max,
      ← gap grown near]
    omega
  counted := by
    intro txBufCount consumed needed counted
    change ((txBufCount + needed) % Sdio.espTxBufferMax).toNat = (consumed + needed.toNat) % 4096
    rw [UInt32.toNat_mod]
    exact add_mod_word (by decide) counted needed

theorem spiHd_lawful : Lawful SpiHd.bus where
  positive := by decide
  txBufferNum loaded counted grown near := sub_word counted loaded grown near
  counted needed counted := add_word counted needed

/-- What the write task has set aside for the packet it is sending. -/
def setAside : Pc → Nat
  | .writing needed _ => needed.toNat
  | .idle | .reading _ _ => 0

structure Inv (state : State) : Prop where
  counted : state.txBufCount.toNat = state.consumed % bus.modulus
  /-- No more is promised than the slave has loaded. -/
  within : state.consumed + setAside state.pc + state.bufAvailable.toNat ≤ state.granted
  near : state.granted - state.consumed < bus.modulus

variable {bus} {before after : State}

theorem take_toNat {available needed : UInt32} (enough : ¬ available < needed) :
    needed.toNat + (available - needed).toNat = available.toNat := by
  have le : needed ≤ available := UInt32.not_lt.mp enough
  have natural : needed.toNat ≤ available.toNat := UInt32.le_iff_toNat_le.mp le
  rw [UInt32.toNat_sub_of_le _ _ le]
  omega

theorem inv_lookedAt {needed bufAvailable : UInt32} {retry : Nat} (inv : Inv bus before)
    (within : before.consumed + bufAvailable.toNat ≤ before.granted) :
    Inv bus (lookedAt before needed retry bufAvailable) := by
  unfold lookedAt
  split
  · split
    · exact ⟨inv.counted, within, inv.near⟩
    · exact ⟨inv.counted, within, inv.near⟩
  · rename_i enough
    refine ⟨inv.counted, ?_, inv.near⟩
    have taken := take_toNat enough
    simp only [setAside]
    omega

theorem inv_packet {len : UInt16} (inv : Inv bus before)
    (taken : step bus before (.packet len) = some after) : Inv bus after := by
  have within := inv.within
  simp only [step] at taken
  split at taken
  · rename_i idle
    rw [idle, setAside] at within
    split at taken
    · cases taken
      exact ⟨inv.counted, within, inv.near⟩
    · rename_i enough
      cases taken
      refine ⟨inv.counted, ?_, inv.near⟩
      have took := take_toNat enough
      simp only [setAside]
      omega
  all_goals cases taken

theorem inv_readReg (lawful : Lawful bus) {word : Option UInt32} (inv : Inv bus before)
    (taken : step bus before (.readReg word) = some after) : Inv bus after := by
  have within := inv.within
  cases word with
  | none =>
      simp only [step] at taken
      split at taken
      · rename_i needed retry reading
        cases taken
        rw [reading, setAside, Nat.add_zero] at within
        exact inv_lookedAt inv within
      all_goals cases taken
  | some word =>
      simp only [step] at taken
      split at taken
      · rename_i needed retry reading
        split at taken
        · rename_i loaded
          cases taken
          rw [reading, setAside, Nat.add_zero] at within
          have grown : before.consumed ≤ before.granted := Nat.le_trans (Nat.le_add_right _ _) within
          apply inv_lookedAt inv
          rw [lawful.txBufferNum loaded inv.counted grown inv.near]
          omega
        · cases taken
      all_goals cases taken

theorem inv_write (lawful : Lawful bus) {ok : Bool} (inv : Inv bus before)
    (taken : step bus before (.write ok) = some after) : Inv bus after := by
  have within := inv.within
  have near := inv.near
  simp only [step] at taken
  split at taken
  · rename_i needed retries writing
    rw [writing, setAside] at within
    split at taken
    · cases taken
      refine ⟨lawful.counted needed inv.counted, ?_, ?_⟩
      · simp only [setAside]
        omega
      · change before.granted - (before.consumed + needed.toNat) < bus.modulus
        omega
    · split at taken
      · cases taken
        exact ⟨inv.counted, within, near⟩
      · cases taken
        refine ⟨inv.counted, ?_, near⟩
        simp only [setAside]
        omega
  all_goals cases taken

theorem inv_step (lawful : Lawful bus) {act : Act} (inv : Inv bus before)
    (fewer : Fewer bus before act) (taken : step bus before act = some after) : Inv bus after := by
  cases act with
  | grant buffers =>
      cases taken
      exact ⟨inv.counted, Nat.le_trans inv.within (Nat.le_add_right _ _), fewer⟩
  | packet len => exact inv_packet inv taken
  | readReg word => exact inv_readReg lawful inv taken
  | write ok => exact inv_write lawful inv taken

theorem inv_reached (lawful : Lawful bus) {state : State}
    (run : Run (step bus) (Fewer bus) init state) : Inv bus state := by
  apply run.invariant
  · exact ⟨(Nat.zero_mod _).symm, Nat.le_refl 0, lawful.positive⟩
  · intro before act after _ inv fewer taken
    exact inv_step lawful inv fewer taken

theorem sent_within (lawful : Lawful bus) {state : State}
    (run : Run (step bus) (Fewer bus) init state) : state.consumed ≤ state.granted := by
  have within := (inv_reached lawful run).within
  omega

/-- On either bus the packets sent never take more buffers than the slave has loaded. -/
theorem sent_within_grants :
    (∀ state, Run (step Sdio.bus) (Fewer Sdio.bus) init state → state.consumed ≤ state.granted) ∧
      ∀ state, Run (step SpiHd.bus) (Fewer SpiHd.bus) init state →
        state.consumed ≤ state.granted :=
  ⟨fun _ run => sent_within sdio_lawful run, fun _ run => sent_within spiHd_lawful run⟩

/-- Two packets out of one look at the register, the second one tried twice in vain. -/
theorem sent_within_grants_retried :
    ∃ state : State, state.granted = 3 ∧ state.consumed = 1 ∧ state.bufAvailable = 1 ∧
      state.consumed ≤ state.granted := by
  obtain ⟨state, run, here⟩ := admitted_reaches (step Sdio.bus) (Fewer Sdio.bus) init
    [.grant 3, .packet 100, .readReg none, .readReg (some 0x00030000), .write true, .packet 200,
      .write false, .write false]
    (fun state => state.granted = 3 ∧ state.consumed = 1 ∧ state.bufAvailable = 1)
    (by decide) (by decide)
  exact ⟨state, here.1, here.2.1, here.2.2, sent_within_grants.1 state run⟩

end EspHosted.WriteCredits

import EspHosted.GuardedRun
import EspHosted.WrapCount

/-!
How much the host has to read from the slave. The slave counts the bytes it has loaded in a
register that wraps, the host those it has read. Over SDIO the register is the hardware's; over
half-duplex SPI the slave writes it, two interrupt bits share it, and CMD9 clears them.
-/

namespace EspHosted.ReadCounters
open GuardedRun WrapCount

/-- What the host is at with the register. `seen` is what was loaded when it looked. -/
inductive Pc where
  | idle
  | clearing (value : UInt32) (seen : Nat)
  | transferring (size : UInt32) (seen : Nat)
  deriving DecidableEq

namespace Sdio

inductive RxMode where
  | streaming
  | packet
  deriving DecidableEq

def espSlaveLenMask : UInt32 := 0xFFFFF
def espRxByteMax : UInt32 := 0x100000
def espRxBufferSize : UInt32 := 1536

/-- `sdio_get_len_from_slave`, on the word it has read. -/
def getLenFromSlave (mode : RxMode) (rxByteCount word : UInt32) : Option UInt32 :=
  let len := word &&& espSlaveLenMask
  let len :=
    if rxByteCount ≤ len then (len + espRxByteMax - rxByteCount) % espRxByteMax
    else espRxByteMax - rxByteCount + len
  if mode = .packet ∧ espRxBufferSize < len then none else some len

structure State where
  loaded : Nat
  read : Nat
  rxByteCount : UInt32
  pc : Pc
  deriving DecidableEq

def init : State where
  loaded := 0
  read := 0
  rxByteCount := 0
  pc := .idle

inductive Act where
  | load (bytes : Nat)
  /-- The word the register gives, none when it cannot be read. -/
  | look (word : Option UInt32)
  /-- Whether the transfer succeeds or fails, its bytes are counted as read. -/
  | readBlock

def Shows (loaded : Nat) (word : UInt32) : Prop := (word &&& espSlaveLenMask).toNat = loaded % 1048576

instance (loaded : Nat) (word : UInt32) : Decidable (Shows loaded word) :=
  inferInstanceAs (Decidable ((word &&& espSlaveLenMask).toNat = loaded % 1048576))

def step (mode : RxMode) (state : State) : Act → Option State
  | .load bytes => some { state with loaded := state.loaded + bytes }
  | .look none => if state.pc = .idle then some state else none
  | .look (some word) =>
      if state.pc = .idle ∧ Shows state.loaded word then
        match getLenFromSlave mode state.rxByteCount word with
        | none => some state
        | some len =>
            if len = 0 then some state
            else some { state with pc := .transferring len state.loaded }
      else none
  | .readBlock =>
      match state.pc with
      | .transferring len _ =>
          some
            { state with
              read := state.read + len.toNat
              rxByteCount := (state.rxByteCount + len) % espRxByteMax
              pc := .idle }
      | .idle | .clearing _ _ => none

variable {mode : RxMode} {before after state : State}

theorem mask_toNat (word : UInt32) : (word &&& espSlaveLenMask).toNat = word.toNat % 1048576 := by
  rw [UInt32.toNat_and]
  exact Nat.and_two_pow_sub_one_eq_mod word.toNat 20

/-- The length is what is loaded and not read, or too much for a packet. -/
theorem getLenFromSlave_eq {loaded read : Nat} {rxByteCount word : UInt32}
    (shows : Shows loaded word) (counted : rxByteCount.toNat = read % 1048576)
    (within : read ≤ loaded) (near : loaded - read < 1048576) :
    getLenFromSlave mode rxByteCount word =
      if mode = .packet ∧ 1536 < loaded - read then none else some (UInt32.ofNat (loaded - read)) := by
  have max : espRxByteMax.toNat = 1048576 := rfl
  have size : espRxBufferSize.toNat = 1536 := rfl
  have fits : (UInt32.ofNat (loaded - read)).toNat = loaded - read :=
    UInt32.toNat_ofNat_of_lt' (Nat.lt_trans near (by decide))
  have below : read % 1048576 < 1048576 := Nat.mod_lt _ (by decide)
  have also_below : loaded % 1048576 < 1048576 := Nat.mod_lt _ (by decide)
  have len : (if rxByteCount ≤ word &&& espSlaveLenMask then
      ((word &&& espSlaveLenMask) + espRxByteMax - rxByteCount) % espRxByteMax
      else espRxByteMax - rxByteCount + (word &&& espSlaveLenMask)) =
        UInt32.ofNat (loaded - read) := by
    apply UInt32.toNat_inj.mp
    have apart := gap_cases within near
    rw [fits, apart]
    split
    · rename_i ahead
      have natural := UInt32.le_iff_toNat_le.mp ahead
      rw [shows, counted] at natural
      rw [if_pos natural, UInt32.toNat_mod, UInt32.toNat_sub, UInt32.toNat_add, shows, counted, max]
      omega
    · rename_i behind
      have natural : ¬ read % 1048576 ≤ loaded % 1048576 := by
        rw [← shows, ← counted]
        exact fun le => behind (UInt32.le_iff_toNat_le.mpr le)
      rw [if_neg natural, UInt32.toNat_add, UInt32.toNat_sub, shows, counted, max]
      omega
  unfold getLenFromSlave
  dsimp only
  rw [len]
  simp only [UInt32.lt_iff_toNat_lt, fits, size]

/-- Less than a turn of the register is loaded and not read. -/
def Near (state : State) : Act → Prop
  | .load bytes => state.loaded + bytes - state.read < 1048576
  | .look _ | .readBlock => True

instance (state : State) : (act : Act) → Decidable (Near state act)
  | .load bytes => inferInstanceAs (Decidable (state.loaded + bytes - state.read < 1048576))
  | .look _ | .readBlock => .isTrue trivial

/-- The host counts what it has read, finds what it has not, and takes what it found. -/
structure Accounted (mode : RxMode) (state : State) : Prop where
  counted : state.rxByteCount.toNat = state.read % 1048576
  within : state.read ≤ state.loaded
  found : ∀ word, Shows state.loaded word → getLenFromSlave mode state.rxByteCount word =
    if mode = .packet ∧ 1536 < state.loaded - state.read then none
    else some (UInt32.ofNat (state.loaded - state.read))
  takes : ∀ len seen, state.pc = .transferring len seen →
    state.read + len.toNat = seen ∧ seen ≤ state.loaded

structure Inv (state : State) : Prop where
  counted : state.rxByteCount.toNat = state.read % 1048576
  within : state.read ≤ state.loaded
  near : state.loaded - state.read < 1048576
  takes : ∀ len seen, state.pc = .transferring len seen →
    state.read + len.toNat = seen ∧ seen ≤ state.loaded

theorem Inv.accounted (inv : Inv before) : Accounted mode before where
  counted := inv.counted
  within := inv.within
  found := fun _ shows => getLenFromSlave_eq shows inv.counted inv.within inv.near
  takes := inv.takes

theorem inv_look {word : UInt32} (inv : Inv before)
    (taken : step mode before (.look (some word)) = some after) : Inv after := by
  simp only [step] at taken
  split at taken
  · rename_i may
    have found := @getLenFromSlave_eq mode _ _ _ _ may.2 inv.counted inv.within inv.near
    split at taken
    · cases taken
      exact inv
    · rename_i len got
      split at taken
      · cases taken
        exact inv
      · cases taken
        refine ⟨inv.counted, inv.within, inv.near, ?_⟩
        intro _ seen same
        cases same
        rw [got] at found
        split at found
        · cases found
        · cases found
          have fits : (UInt32.ofNat (before.loaded - before.read)).toNat =
              before.loaded - before.read :=
            UInt32.toNat_ofNat_of_lt' (Nat.lt_trans inv.near (by decide))
          rw [fits]
          exact ⟨Nat.add_sub_cancel' inv.within, Nat.le_refl _⟩
  · cases taken

theorem inv_step {act : Act} (inv : Inv before) (near : Near before act)
    (taken : step mode before act = some after) : Inv after := by
  cases act with
  | load bytes =>
      cases taken
      refine ⟨inv.counted, Nat.le_trans inv.within (Nat.le_add_right _ _), near, ?_⟩
      intro len seen here
      obtain ⟨whole, before_now⟩ := inv.takes len seen here
      exact ⟨whole, Nat.le_trans before_now (Nat.le_add_right _ _)⟩
  | look word =>
      cases word with
      | none =>
          simp only [step] at taken
          split at taken
          · cases taken
            exact inv
          · cases taken
      | some word => exact inv_look inv taken
  | readBlock =>
      simp only [step] at taken
      split at taken
      · rename_i len seen here
        cases taken
        obtain ⟨whole, before_now⟩ := inv.takes len seen here
        have still := inv.near
        have max : espRxByteMax.toNat = 1048576 := rfl
        refine ⟨?_, ?_, ?_, nofun⟩
        · rw [UInt32.toNat_mod, max]
          exact add_mod_word (by decide) inv.counted len
        · change before.read + len.toNat ≤ before.loaded
          omega
        · change before.loaded - (before.read + len.toNat) < 1048576
          omega
      all_goals cases taken

theorem accounted_reached {state : State} (run : Run (step mode) Near init state) :
    Accounted mode state := by
  have inv : Inv state := by
    apply run.invariant
    · exact ⟨rfl, Nat.le_refl 0, by decide, nofun⟩
    · intro before act after _ inv near taken
      exact inv_step inv near taken
  exact inv.accounted

end Sdio

namespace SpiHd

def txBufLenMask : UInt32 := 0x00FFFFFF
def intStartThrottle : UInt32 := 0x01000000
def intStopThrottle : UInt32 := 0x02000000
def intMask : UInt32 := 0x03000000

structure State where
  /-- Of the slave; `register` is `SPI_HD_REG_TX_BUF_LEN`. -/
  loaded : Nat
  txReadyBufSize : UInt32
  register : UInt32
  dataReady : Bool
  cmd9s : Nat
  /-- Of the host. -/
  read : Nat
  rxByteCount : UInt32
  wifiTxThrottling : Bool
  pc : Pc
  deriving DecidableEq

def init : State where
  loaded := 0
  txReadyBufSize := 0
  register := 0
  dataReady := false
  cmd9s := 0
  read := 0
  rxByteCount := 0
  wifiTxThrottling := false
  pc := .idle

inductive Act where
  /-- `len` is that of the transaction that was loaded. -/
  | txReady (len : UInt32)
  /-- Some of the two interrupt bits are set in the register. -/
  | raise (bits : UInt32)
  | cmd9Recv
  | look (ok : Bool)
  | sendCmd9
  /-- As over SDIO, a transfer that fails counts as read. -/
  | readDma

/-- `cb_tx_ready` on `tx_ready_buf_size`. -/
def cbTxReady (txReadyBufSize len : UInt32) : UInt32 :=
  (((txReadyBufSize &&& txBufLenMask) + len) &&& txBufLenMask) ||| (txReadyBufSize &&& intMask)

/-- The size `spi_hd_read_task` finds. -/
def sizeToXfer (rxByteCount value : UInt32) : UInt32 :=
  ((value &&& txBufLenMask) - rxByteCount) &&& txBufLenMask

def throttled (before : Bool) (value : UInt32) : Bool :=
  if value &&& intMask &&& intStopThrottle ≠ 0 then false
  else if value &&& intMask &&& intStartThrottle ≠ 0 then true
  else before

def step (state : State) : Act → Option State
  | .txReady len =>
      some
        { state with
          loaded := state.loaded + len.toNat
          txReadyBufSize := cbTxReady state.txReadyBufSize len
          register := cbTxReady state.txReadyBufSize len
          dataReady := true }
  | .raise bits =>
      let txReadyBufSize := state.txReadyBufSize ||| (bits &&& intMask)
      some { state with txReadyBufSize := txReadyBufSize, register := txReadyBufSize }
  | .cmd9Recv =>
      if 0 < state.cmd9s then
        some
          { state with
            txReadyBufSize := state.txReadyBufSize &&& txBufLenMask
            dataReady := false
            cmd9s := state.cmd9s - 1 }
      else none
  | .look ok =>
      if state.pc = .idle then
        if ok then some { state with pc := .clearing state.register state.loaded } else some state
      else none
  | .sendCmd9 =>
      match state.pc with
      | .clearing value seen =>
          let size := sizeToXfer state.rxByteCount value
          some
            { state with
              cmd9s := state.cmd9s + 1
              wifiTxThrottling := throttled state.wifiTxThrottling value
              pc := if size = 0 then .idle else .transferring size seen }
      | .idle | .transferring _ _ => none
  | .readDma =>
      match state.pc with
      | .transferring size _ =>
          some
            { state with
              read := state.read + size.toNat
              rxByteCount := (state.rxByteCount + size) &&& txBufLenMask
              pc := .idle }
      | .idle | .clearing _ _ => none

theorem mask_toNat (word : UInt32) : (word &&& txBufLenMask).toNat = word.toNat % 16777216 := by
  rw [UInt32.toNat_and]
  exact Nat.and_two_pow_sub_one_eq_mod word.toNat 24

theorem masked_again (word : UInt32) :
    word &&& txBufLenMask &&& txBufLenMask = word &&& txBufLenMask := by
  rw [UInt32.and_assoc, UInt32.and_self]

/-- The interrupt bits lie outside the length. -/
theorem bits_masked (word bits : UInt32) :
    (word ||| (bits &&& intMask)) &&& txBufLenMask = word &&& txBufLenMask := by
  have apart : intMask &&& txBufLenMask = 0 := by decide
  have split : (word ||| (bits &&& intMask)) &&& txBufLenMask =
      (word &&& txBufLenMask) ||| (bits &&& intMask &&& txBufLenMask) :=
    UInt32.eq_of_toBitVec_eq BitVec.and_or_distrib_right
  rw [split, UInt32.and_assoc bits, apart, UInt32.and_zero, UInt32.or_zero]

/-- A load adds its length to the length in the word, whatever the interrupt bits are. -/
theorem cbTxReady_masked {loaded : Nat} {txReadyBufSize : UInt32} (len : UInt32)
    (counted : (txReadyBufSize &&& txBufLenMask).toNat = loaded % 16777216) :
    (cbTxReady txReadyBufSize len &&& txBufLenMask).toNat = (loaded + len.toNat) % 16777216 := by
  rw [cbTxReady, bits_masked, masked_again, mask_toNat]
  exact add_mod_word (by decide) counted len

theorem sizeToXfer_toNat {loaded read : Nat} {rxByteCount value : UInt32}
    (shows : (value &&& txBufLenMask).toNat = loaded % 16777216)
    (counted : rxByteCount.toNat = read % 16777216) (within : read ≤ loaded)
    (near : loaded - read < 16777216) : (sizeToXfer rxByteCount value).toNat = loaded - read := by
  have below : read % 16777216 < 16777216 := Nat.mod_lt _ (by decide)
  have also_below : loaded % 16777216 < 16777216 := Nat.mod_lt _ (by decide)
  rw [sizeToXfer, mask_toNat, UInt32.toNat_sub, shows, counted, ← gap within near]
  omega

/-- Less than a turn of the length in the register is loaded and not read. -/
def Near (state : State) : Act → Prop
  | .txReady len => state.loaded + len.toNat - state.read < 16777216
  | .raise _ | .cmd9Recv | .look _ | .sendCmd9 | .readDma => True

instance (state : State) : (act : Act) → Decidable (Near state act)
  | .txReady len => inferInstanceAs (Decidable (state.loaded + len.toNat - state.read < 16777216))
  | .raise _ | .cmd9Recv | .look _ | .sendCmd9 | .readDma => .isTrue trivial

structure Accounted (state : State) : Prop where
  counted : state.rxByteCount.toNat = state.read % 16777216
  within : state.read ≤ state.loaded
  found : (sizeToXfer state.rxByteCount state.register).toNat = state.loaded - state.read
  takes : ∀ size seen, state.pc = .transferring size seen →
    state.read + size.toNat = seen ∧ seen ≤ state.loaded

/-- Of a value of the register the host has looked at. -/
structure Seen (state : State) (value : UInt32) (seen : Nat) : Prop where
  shows : (value &&& txBufLenMask).toNat = seen % 16777216
  within : state.read ≤ seen
  loaded : seen ≤ state.loaded

structure Inv (state : State) : Prop where
  counted : state.rxByteCount.toNat = state.read % 16777216
  within : state.read ≤ state.loaded
  near : state.loaded - state.read < 16777216
  counting : (state.txReadyBufSize &&& txBufLenMask).toNat = state.loaded % 16777216
  register : (state.register &&& txBufLenMask).toNat = state.loaded % 16777216
  clearing : ∀ value seen, state.pc = .clearing value seen → Seen state value seen
  takes : ∀ size seen, state.pc = .transferring size seen →
    state.read + size.toNat = seen ∧ seen ≤ state.loaded

variable {before after : State}

/-- What was seen of the register stays so while more is loaded. -/
theorem Seen.later {value : UInt32} {seen : Nat} (looked : Seen before value seen)
    (read : after.read = before.read) (grown : before.loaded ≤ after.loaded) :
    Seen after value seen where
  shows := looked.shows
  within := read ▸ looked.within
  loaded := Nat.le_trans looked.loaded grown

theorem Inv.accounted (inv : Inv before) : Accounted before where
  counted := inv.counted
  within := inv.within
  found := sizeToXfer_toNat inv.register inv.counted inv.within inv.near
  takes := inv.takes

theorem inv_txReady (inv : Inv before) (len : UInt32)
    (near : before.loaded + len.toNat - before.read < 16777216)
    (taken : step before (.txReady len) = some after) : Inv after := by
  cases taken
  have loads := cbTxReady_masked len inv.counting
  refine ⟨inv.counted, Nat.le_trans inv.within (Nat.le_add_right _ _), near, loads, loads, ?_, ?_⟩
  · intro value seen here
    exact (inv.clearing value seen here).later rfl (Nat.le_add_right _ _)
  · intro size seen here
    obtain ⟨whole, loaded⟩ := inv.takes size seen here
    exact ⟨whole, Nat.le_trans loaded (Nat.le_add_right _ _)⟩

theorem inv_sendCmd9 (inv : Inv before) (taken : step before .sendCmd9 = some after) :
    Inv after := by
  simp only [step] at taken
  split at taken
  · rename_i value seen here
    cases taken
    obtain ⟨shows, within, loaded⟩ := inv.clearing value seen here
    have still := inv.near
    have size := sizeToXfer_toNat shows inv.counted within (by omega)
    refine ⟨inv.counted, inv.within, inv.near, inv.counting, inv.register, ?_, ?_⟩
    · intro _ _ same
      dsimp only at same
      split at same <;> cases same
    · intro _ _ same
      dsimp only at same
      split at same
      · cases same
      · cases same
        rw [size]
        exact ⟨Nat.add_sub_cancel' within, loaded⟩
  all_goals cases taken

theorem inv_readDma (inv : Inv before) (taken : step before .readDma = some after) :
    Inv after := by
  simp only [step] at taken
  split at taken
  · rename_i size seen here
    cases taken
    obtain ⟨whole, loaded⟩ := inv.takes size seen here
    have still := inv.near
    refine ⟨?_, ?_, ?_, inv.counting, inv.register, nofun, nofun⟩
    · rw [mask_toNat]
      exact add_mod_word (by decide) inv.counted size
    · change before.read + size.toNat ≤ before.loaded
      omega
    · change before.loaded - (before.read + size.toNat) < 16777216
      omega
  all_goals cases taken

theorem inv_step {act : Act} (inv : Inv before) (near : Near before act)
    (taken : step before act = some after) : Inv after := by
  cases act with
  | txReady len => exact inv_txReady inv len near taken
  | raise bits =>
      cases taken
      have same := (congrArg UInt32.toNat (bits_masked before.txReadyBufSize bits)).trans inv.counting
      refine ⟨inv.counted, inv.within, inv.near, same, same, ?_, inv.takes⟩
      intro value seen here
      exact (inv.clearing value seen here).later rfl (Nat.le_refl _)
  | cmd9Recv =>
      simp only [step] at taken
      split at taken
      · cases taken
        have same := (congrArg UInt32.toNat (masked_again before.txReadyBufSize)).trans inv.counting
        refine ⟨inv.counted, inv.within, inv.near, same, inv.register, ?_, inv.takes⟩
        intro value seen here
        exact (inv.clearing value seen here).later rfl (Nat.le_refl _)
      · cases taken
  | look ok =>
      simp only [step] at taken
      split at taken
      · split at taken
        · cases taken
          refine ⟨inv.counted, inv.within, inv.near, inv.counting, inv.register, ?_, nofun⟩
          intro value seen same
          cases same
          exact ⟨inv.register, inv.within, Nat.le_refl _⟩
        · cases taken
          exact inv
      · cases taken
  | sendCmd9 => exact inv_sendCmd9 inv taken
  | readDma => exact inv_readDma inv taken

theorem accounted_reached {state : State} (run : Run step Near init state) : Accounted state := by
  have inv : Inv state := by
    apply run.invariant
    · exact ⟨rfl, Nat.le_refl 0, by decide, rfl, rfl, nofun, nofun⟩
    · intro before act after _ inv near taken
      exact inv_step inv near taken
  exact inv.accounted

end SpiHd

/-- On either bus the counter of the host is what it has read, the size it finds is what is
loaded and not read, and what it takes is what it found. Over SDIO in packet mode more than one
buffer of it is refused. -/
theorem bytes_accounted :
    (∀ mode state, Run (Sdio.step mode) Sdio.Near Sdio.init state → Sdio.Accounted mode state) ∧
      ∀ state, Run SpiHd.step SpiHd.Near SpiHd.init state → SpiHd.Accounted state :=
  ⟨fun _ _ run => Sdio.accounted_reached run, fun _ run => SpiHd.accounted_reached run⟩

/-- A load with an interrupt bit raised beside it, and the read of it. -/
theorem bytes_accounted_raised :
    ∃ state : SpiHd.State, state.loaded = 140 ∧ state.read = 100 ∧
      state.register = 0x0100008C ∧ SpiHd.Accounted state := by
  obtain ⟨state, run, here⟩ := admitted_reaches SpiHd.step SpiHd.Near SpiHd.init
    [.txReady 100, .raise 0x01000000, .look true, .txReady 40, .sendCmd9, .cmd9Recv,
      .readDma]
    (fun state => state.loaded = 140 ∧ state.read = 100 ∧ state.register = 0x0100008C)
    (by decide) (by decide)
  exact ⟨state, here.1, here.2.1, here.2.2, bytes_accounted.2 state run⟩

/-- In packet mode two packets that are loaded before the first is read are never found. -/
theorem bytes_accounted_fails :
    ∃ state, Run (Sdio.step .packet) Sdio.Near Sdio.init state ∧
      state.loaded - state.read = 1600 ∧ Sdio.Shows state.loaded 1600 ∧
      Sdio.getLenFromSlave .packet state.rxByteCount 1600 = none := by
  exact admitted_reaches (Sdio.step .packet) Sdio.Near Sdio.init
    [.load 800, .load 800, .look (some 1600)]
    (fun state => state.loaded - state.read = 1600 ∧ Sdio.Shows state.loaded 1600 ∧
      Sdio.getLenFromSlave .packet state.rxByteCount 1600 = none) (by decide) (by decide)

end EspHosted.ReadCounters

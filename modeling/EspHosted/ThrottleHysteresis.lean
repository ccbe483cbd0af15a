import EspHosted.GuardedRun
import EspHosted.Hysteresis
import EspHosted.SlaveFrames

/-!
`find_wifi_tx_throttling_to_be_set` as a switch with two thresholds. `host_to_slave_reconfig`
stores whatever thresholds the host sends. Both comparisons are strict, so a low threshold of 0
never lets the throttling go, not even when the receive queue is empty.
-/

namespace EspHosted.ThrottleHysteresis
open GuardedRun SlaveFrames

variable (cfg : SlaveConfig) (rxQueueSize : Nat)

/-- What `uxQueueMessagesWaiting` may say of the queue. -/
abbrev QueueLoad := Fin (rxQueueSize + 1)

def loadPercent (queueLoad : QueueLoad rxQueueSize) : Nat := queueLoad.val * 100 / rxQueueSize

/-- A call with the load it sees, on `current_throttling`. -/
def call (current : Bool) (queueLoad : QueueLoad rxQueueSize) : Bool × Bool :=
  findWifiTxThrottlingToBeSet rxQueueSize cfg current queueLoad

def step (current : Bool) (queueLoad : QueueLoad rxQueueSize) : Option Bool :=
  some (call cfg rxQueueSize current queueLoad).2

def Empty (queueLoad : QueueLoad rxQueueSize) : Prop := queueLoad.val = 0

/-- What is returned is the state, and the state changes as it should. -/
structure CallLawful (current : Bool) (queueLoad : QueueLoad rxQueueSize) : Prop where
  returned : (call cfg rxQueueSize current queueLoad).1 = (call cfg rxQueueSize current queueLoad).2
  switched : Hysteresis.Lawful cfg.throttleLowThreshold.toNat cfg.throttleHighThreshold.toNat
    (Empty rxQueueSize queueLoad) current (loadPercent rxQueueSize queueLoad)
    (call cfg rxQueueSize current queueLoad).2

/-- No throttling at an empty queue unless the low threshold is above 0, and where the
thresholds are in the wrong order the throttling is as the call leaves it. -/
def CallSteady (current : Bool) (queueLoad : QueueLoad rxQueueSize) : Prop :=
  Hysteresis.Steady cfg.throttleLowThreshold.toNat cfg.throttleHighThreshold.toNat
    (Empty rxQueueSize queueLoad) current (loadPercent rxQueueSize queueLoad)

variable {cfg rxQueueSize} {current : Bool} {queueLoad : QueueLoad rxQueueSize}

theorem loadPercent_le : loadPercent rxQueueSize queueLoad ≤ 100 := by
  have within : queueLoad.val * 100 ≤ rxQueueSize * 100 :=
    Nat.mul_le_mul_right 100 (Nat.le_of_lt_succ queueLoad.isLt)
  exact Nat.div_le_of_le_mul within

theorem loadPercent_empty (empty : Empty rxQueueSize queueLoad) :
    loadPercent rxQueueSize queueLoad = 0 := by
  rw [loadPercent, empty, Nat.zero_mul, Nat.zero_div]

/-- The percentage fits `uint8_t`, and the two tests are those of the switch. -/
theorem call_switch (some_high : cfg.throttleHighThreshold ≠ 0) :
    call cfg rxQueueSize current queueLoad =
      (Hysteresis.switch cfg.throttleLowThreshold.toNat cfg.throttleHighThreshold.toNat current
          (loadPercent rxQueueSize queueLoad),
        Hysteresis.switch cfg.throttleLowThreshold.toNat cfg.throttleHighThreshold.toNat current
          (loadPercent rxQueueSize queueLoad)) := by
  have fits : (UInt8.ofNat (loadPercent rxQueueSize queueLoad)).toNat =
      loadPercent rxQueueSize queueLoad :=
    UInt8.toNat_ofNat_of_lt' (Nat.lt_of_le_of_lt loadPercent_le (by decide))
  rw [call, findWifiTxThrottlingToBeSet, if_neg some_high, ← loadPercent]
  simp only [Hysteresis.switch, GT.gt, UInt8.lt_iff_toNat_lt, fits]

theorem call_lawful_iff (some_high : cfg.throttleHighThreshold ≠ 0) :
    CallLawful cfg rxQueueSize current queueLoad ↔ CallSteady cfg rxQueueSize current queueLoad := by
  have bottom : Empty rxQueueSize queueLoad →
      ¬ cfg.throttleHighThreshold.toNat < loadPercent rxQueueSize queueLoad := by
    intro empty
    rw [loadPercent_empty empty]
    exact Nat.not_lt_zero _
  rw [CallSteady, ← Hysteresis.lawful_iff bottom]
  constructor
  · intro lawful
    have switched := lawful.switched
    rwa [call_switch some_high] at switched
  · intro switched
    constructor
    · rw [call_switch some_high]
    · rwa [call_switch some_high]

/-- A sequence of calls is lawful exactly if no call comes in an unsteady state. -/
theorem throttle_hysteresis_iff (cfg : SlaveConfig) (rxQueueSize : Nat)
    (some_high : cfg.throttleHighThreshold ≠ 0) (current : Bool)
    (loads : List (QueueLoad rxQueueSize)) :
    Admits (step cfg rxQueueSize) (CallLawful cfg rxQueueSize) current loads ↔
      Admits (step cfg rxQueueSize) (CallSteady cfg rxQueueSize) current loads :=
  admits_congr (fun _ _ => call_lawful_iff some_high) current loads

theorem throttle_hysteresis_iff_default :
    (90 : UInt8) ≠ 0 ∧
      (Admits (step ⟨90, 60⟩ 20) (CallLawful ⟨90, 60⟩ 20) false [20, 14, 0] ↔
        Admits (step ⟨90, 60⟩ 20) (CallSteady ⟨90, 60⟩ 20) false [20, 14, 0]) :=
  ⟨by decide, throttle_hysteresis_iff ⟨90, 60⟩ 20 (by decide) false [20, 14, 0]⟩

/-- A full queue, then an empty one, with a low threshold of 0. -/
theorem throttle_not_released :
    ¬ Admits (step ⟨90, 0⟩ 20) (CallLawful ⟨90, 0⟩ 20) false [20, 0] := by
  rintro ⟨_, released, _⟩
  exact Bool.noConfusion (released.switched.idleOff rfl)

/-- Thresholds in order above 0 make every sequence of calls lawful. -/
theorem ordered_lawful (positive : 0 < cfg.throttleLowThreshold.toNat)
    (order : cfg.throttleLowThreshold.toNat ≤ cfg.throttleHighThreshold.toNat) (current : Bool)
    (loads : List (QueueLoad rxQueueSize)) :
    Admits (step cfg rxQueueSize) (CallLawful cfg rxQueueSize) current loads := by
  have some_high : cfg.throttleHighThreshold ≠ 0 := by
    intro none
    rw [none] at order
    exact absurd (Nat.lt_of_lt_of_le positive order) (Nat.lt_irrefl 0)
  have always : ∀ current (queueLoad : QueueLoad rxQueueSize),
      CallLawful cfg rxQueueSize current queueLoad := by
    intro current queueLoad
    refine (call_lawful_iff some_high).mpr (Hysteresis.steady_of_ordered order fun empty => ?_)
    rw [loadPercent_empty empty]
    exact positive
  induction loads generalizing current with
  | nil => trivial
  | cons queueLoad rest ih => exact ⟨always current queueLoad, ih _⟩

/-- With a low threshold of 0 throttling that was switched on stays on. -/
theorem never_released (some_high : cfg.throttleHighThreshold ≠ 0)
    (none : cfg.throttleLowThreshold = 0) (loads : List (QueueLoad rxQueueSize)) :
    exec (step cfg rxQueueSize) true loads = some true := by
  induction loads with
  | nil => rfl
  | cons queueLoad rest ih =>
      have stays : step cfg rxQueueSize true queueLoad = some true := by
        have zero : (0 : UInt8).toNat = 0 := rfl
        rw [step, call_switch some_high, none, zero]
        by_cases above : cfg.throttleHighThreshold.toNat < loadPercent rxQueueSize queueLoad
        · rw [Hysteresis.switch_above (Nat.not_lt_zero _) above]
        · rw [Hysteresis.switch_kept (Nat.not_lt_zero _) above]
      rw [exec, stays]
      exact ih

end EspHosted.ThrottleHysteresis

import Mathlib.Algebra.Order.Ring.Int
import Mathlib.Data.Int.Basic

/-!
Seconds to ticks. `hosted_timeout_to_ticks` converts its seconds as if they were milliseconds,
rounds up to ticks, and multiplies the ticks by 1000, where multiplying the seconds was meant;
`hosted_timer_start` does the same. What comes out is handed to the kernel.
-/

namespace EspHosted.TimeoutTicks

def rtWaitingForever : UInt32 := 4294967295
def defaultRpcRspTimeout : Int32 := 5

/-- `rt_tick_from_millisecond` of a kernel with `rate` ticks a second, which rounds up. -/
structure Kernel (rate : Nat) where
  rtTickFromMillisecond : Int32 → UInt32
  rounded : ∀ ms : Int32, 0 ≤ ms.toInt → ms.toInt * rate < 4294967296 →
    ((rtTickFromMillisecond ms).toNat : Int) = (ms.toInt * rate + 999) / 1000

/-- A kernel call with the ticks it is given. The timeout of a wait is a `rt_int32_t`, and a
negative one waits forever; that of a timer is a `rt_tick_t`. -/
inductive KernelCall where
  | rtSemTake (timeout : Int32)
  | rtMqSendWait (timeout : Int32)
  | rtMqRecv (timeout : Int32)
  | rtMutexTake (timeout : Int32)
  | rtTimerCreate (time : UInt32)

def KernelCall.ticks : KernelCall → Int
  | .rtSemTake timeout | .rtMqSendWait timeout | .rtMqRecv timeout | .rtMutexTake timeout =>
      timeout.toInt
  | .rtTimerCreate time => time.toNat

section Wrappers
variable {rate : Nat} (kernel : Kernel rate)

def hostedTimeoutToTicks (timeout : Int32) : UInt32 :=
  if timeout.toInt < 0 then rtWaitingForever else kernel.rtTickFromMillisecond timeout * 1000

def hostedGetSemaphore (timeout : Int32) : KernelCall :=
  .rtSemTake (hostedTimeoutToTicks kernel timeout).toInt32

def hostedQueueItem (timeout : Int32) : KernelCall :=
  .rtMqSendWait (hostedTimeoutToTicks kernel timeout).toInt32

def hostedDequeueItem (timeout : Int32) : KernelCall :=
  .rtMqRecv (hostedTimeoutToTicks kernel timeout).toInt32

def hostedLockMutex (timeout : Int32) : KernelCall :=
  .rtMutexTake (hostedTimeoutToTicks kernel timeout).toInt32

/-- A negative duration is not looked at. -/
def hostedTimerStart (duration : Int32) : KernelCall :=
  .rtTimerCreate (kernel.rtTickFromMillisecond duration * 1000)

inductive Wrapper where
  | getSemaphore
  | queueItem
  | dequeueItem
  | lockMutex
  | timerStart

def Wrapper.call (timeout : Int32) : Wrapper → KernelCall
  | .getSemaphore => hostedGetSemaphore kernel timeout
  | .queueItem => hostedQueueItem kernel timeout
  | .dequeueItem => hostedDequeueItem kernel timeout
  | .lockMutex => hostedLockMutex kernel timeout
  | .timerStart => hostedTimerStart kernel timeout

/-- `wait_for_sync_response` takes the semaphore of the request with the timeout of the
request, or the default. -/
def waitForSyncResponse (rspTimeoutSec : Int32) : KernelCall :=
  hostedGetSemaphore kernel (if rspTimeoutSec = 0 then defaultRpcRspTimeout else rspTimeoutSec)

/-- The largest number of ticks the parameter of the kernel can hold. -/
def Wrapper.limit : Wrapper → Int
  | .timerStart => 4294967295
  | .getSemaphore | .queueItem | .dequeueItem | .lockMutex => 2147483647

/-- The ticks of so many seconds. -/
def secondsOf (rate : Nat) (timeout : Int32) : Int := timeout.toInt * rate

variable {timeout : Int32}

/-- The product of `rt_tick_from_millisecond` and 1000, in 32 bits. -/
theorem product_toNat (nonneg : 0 ≤ timeout.toInt) (fits : secondsOf rate timeout < 4294967296) :
    ((kernel.rtTickFromMillisecond timeout * 1000).toNat : Int) =
      (secondsOf rate timeout + 999) / 1000 * 1000 % 4294967296 := by
  have rounded := kernel.rounded timeout nonneg fits
  rw [UInt32.toNat_mul, Int.natCast_emod, Int.natCast_mul, rounded]
  rfl

/-- Rounding up before multiplying is exact for whole multiples only, wrapped or not. -/
theorem product_exact_iff {ticks : Int} (nonneg : 0 ≤ ticks) (fits : ticks < 4294967296) :
    (ticks + 999) / 1000 * 1000 % 4294967296 = ticks ↔ 1000 ∣ ticks := by
  omega

theorem toInt32_toInt (ticks : UInt32) :
    ticks.toInt32.toInt =
      if ticks.toNat < 2147483648 then (ticks.toNat : Int) else (ticks.toNat : Int) - 4294967296 := by
  have cond := BitVec.toInt_eq_toNat_cond ticks.toBitVec
  have bits : ticks.toBitVec.toNat = ticks.toNat := rfl
  change ticks.toBitVec.toInt = _
  rw [cond, bits]
  split <;> split <;> omega

theorem ticks_nonneg (nonneg : 0 ≤ timeout.toInt) : 0 ≤ secondsOf rate timeout :=
  Int.mul_nonneg nonneg (Int.natCast_nonneg rate)

theorem timeoutToTicks_nonneg (nonneg : 0 ≤ timeout.toInt) :
    hostedTimeoutToTicks kernel timeout = kernel.rtTickFromMillisecond timeout * 1000 := by
  rw [hostedTimeoutToTicks, if_neg (Int.not_lt_of_ge nonneg)]

theorem wait_exact_iff (nonneg : 0 ≤ timeout.toInt) (fits : secondsOf rate timeout < 4294967296) :
    (hostedTimeoutToTicks kernel timeout).toInt32.toInt = secondsOf rate timeout ↔
      1000 ∣ secondsOf rate timeout ∧ secondsOf rate timeout ≤ 2147483647 := by
  have product := product_toNat kernel nonneg fits
  have exact_iff := product_exact_iff (ticks_nonneg nonneg) fits
  have ticks := @ticks_nonneg rate timeout nonneg
  rw [timeoutToTicks_nonneg kernel nonneg, toInt32_toInt]
  split <;> omega

theorem timer_exact_iff (nonneg : 0 ≤ timeout.toInt) (fits : secondsOf rate timeout < 4294967296) :
    ((kernel.rtTickFromMillisecond timeout * 1000).toNat : Int) = secondsOf rate timeout ↔
      1000 ∣ secondsOf rate timeout ∧ secondsOf rate timeout ≤ 4294967295 := by
  rw [product_toNat kernel nonneg fits, product_exact_iff (ticks_nonneg nonneg) fits]
  omega

end Wrappers

/-- A wait or a timer has the ticks of its seconds just when they are a multiple of 1000 that
the kernel's parameter can hold. -/
theorem timeout_exact_iff {rate : Nat} (kernel : Kernel rate) (wrapper : Wrapper) (timeout : Int32)
    (nonneg : 0 ≤ timeout.toInt) (fits : secondsOf rate timeout < 4294967296) :
    (wrapper.call kernel timeout).ticks = secondsOf rate timeout ↔
      1000 ∣ secondsOf rate timeout ∧ secondsOf rate timeout ≤ wrapper.limit := by
  cases wrapper with
  | getSemaphore | queueItem | dequeueItem | lockMutex =>
      exact wait_exact_iff kernel nonneg fits
  | timerStart => exact timer_exact_iff kernel nonneg fits

/-- The wait for a response has the ticks of its seconds under the same condition. -/
theorem response_wait_exact_iff {rate : Nat} (kernel : Kernel rate) {rspTimeoutSec : Int32}
    (given : 0 < rspTimeoutSec.toInt) (fits : secondsOf rate rspTimeoutSec < 4294967296) :
    (waitForSyncResponse kernel rspTimeoutSec).ticks = secondsOf rate rspTimeoutSec ↔
      1000 ∣ secondsOf rate rspTimeoutSec ∧ secondsOf rate rspTimeoutSec ≤ 2147483647 := by
  have own : rspTimeoutSec ≠ 0 := by
    rintro rfl
    exact absurd given (by decide)
  rw [waitForSyncResponse, if_neg own]
  exact wait_exact_iff kernel (Int.le_of_lt given) fits

/-- Every wait is exact at the rates that are multiples of 1000, and at no other. -/
theorem rate_exact_iff {rate : Nat} (kernel : Kernel rate) (small : rate ≤ 2147483647) :
    (∀ timeout : Int32, 0 ≤ timeout.toInt → secondsOf rate timeout ≤ 2147483647 →
      (hostedGetSemaphore kernel timeout).ticks = secondsOf rate timeout) ↔ 1000 ∣ rate := by
  constructor
  · intro exact
    have one : secondsOf rate 1 = rate := Int.one_mul _
    have seconds := exact 1 (by decide) (by omega)
    have whole := (wait_exact_iff kernel (by decide) (by omega)).mp seconds
    omega
  · intro whole timeout nonneg held
    refine (wait_exact_iff kernel nonneg (by omega)).mpr ⟨?_, held⟩
    exact Int.dvd_mul_of_dvd_right (Int.ofNat_dvd.mpr whole)

/-- A kernel that computes the quotient at once. -/
def roundingUp (rate : Nat) : Kernel rate where
  rtTickFromMillisecond ms :=
    if ms.toInt < 0 then rtWaitingForever else .ofNat ((ms.toInt.toNat * rate + 999) / 1000)
  rounded ms nonneg fits := by
    rw [if_neg (Int.not_lt_of_ge nonneg)]
    obtain ⟨count, same⟩ := Int.eq_ofNat_of_zero_le nonneg
    rw [same] at fits ⊢
    rw [← Int.natCast_mul] at fits ⊢
    have small : (count * rate + 999) / 1000 < 4294967296 := by omega
    rw [Int.toNat_natCast, UInt32.toNat_ofNat_of_lt' small]
    omega

theorem timeout_exact_default :
    (Wrapper.getSemaphore.call (roundingUp 1000) defaultRpcRspTimeout).ticks =
        secondsOf 1000 defaultRpcRspTimeout ↔
      1000 ∣ secondsOf 1000 defaultRpcRspTimeout ∧
        secondsOf 1000 defaultRpcRspTimeout ≤ Wrapper.getSemaphore.limit :=
  timeout_exact_iff (roundingUp 1000) .getSemaphore defaultRpcRspTimeout (by decide) (by decide)

/-- At 100 ticks a second the 5 seconds of a response are 1000 ticks. -/
theorem timeout_stretched :
    ¬ ∀ (rate : Nat) (kernel : Kernel rate) (wrapper : Wrapper) (timeout : Int32), 0 < rate →
      0 ≤ timeout.toInt → secondsOf rate timeout < 4294967296 →
      (wrapper.call kernel timeout).ticks = secondsOf rate timeout := by
  intro always
  have wrong := always 100 (roundingUp 100) .getSemaphore 5 (by decide) (by decide) (by decide)
  exact absurd wrong (by decide)

end EspHosted.TimeoutTicks

import EspHosted.RxOwnership

/-!
No receive buffer is left behind. The semaphore is posted after a put, so it counts every
queued handle but the one that is about to be posted and the one the task is looking for;
and a handle that comes into a queue the task has already looked into has a post of its own.
Once no more buffers are allocated, the two tasks come to rest, and then the queues are empty.
-/

namespace EspHosted.RxDraining
open SpiFrames HostFrames SlaveFrames QueueBank SerialReassembly ResourceTrace RxBuffers
open RxOwnership GuardedRun
open SpiDriver (Config semValueMax)

variable {config : Config} {before after state : State}

def posting : SpiPc → Nat
  | .post => 1
  | .idle | .transfer _ | .put _ _ => 0

/-- The task may have taken the semaphore for a handle it has not found yet. -/
def credit : RxPc → Nat
  | .dequeue _ => 1
  | .getSem | .consume _ | .free _ | .halted _ => 0

/-- The queues a round has looked into before this one. -/
def lookedInto : Prio → List Prio
  | .serial => []
  | .bt => [.serial]
  | .others => [.serial, .bt]

def queued (fromSlave : Prio → List RxHandle) : List Prio → Nat
  | [] => 0
  | level :: rest => (fromSlave level).length + queued fromSlave rest

structure WakeInv (config : Config) (state : State) : Prop where
  bounded : ∀ prio, (state.fromSlave prio).length ≤ config.toSlaveQueueSize
  counted : size state.fromSlave ≤ state.semFromSlave + posting state.spi + credit state.rx
  passed : ∀ prio, state.rx = .dequeue prio →
    queued state.fromSlave (lookedInto prio) ≤ state.semFromSlave + posting state.spi

theorem size_levels (fromSlave : Prio → List RxHandle) :
    size fromSlave = queued fromSlave [.serial, .bt, .others] := by
  have levels : (Finset.univ : Finset Prio) = {.serial, .bt, .others} := rfl
  rw [size, count, levels, Finset.sum_insert (by decide), Finset.sum_insert (by decide),
    Finset.sum_singleton]
  simp [queued]

theorem queued_le_size (fromSlave : Prio → List RxHandle) (prio : Prio) :
    queued fromSlave (lookedInto prio) ≤ size fromSlave := by
  rw [size_levels]
  cases prio with
  | serial | bt | others =>
      simp only [queued, lookedInto]
      omega

theorem WakeInv.few (inv : WakeInv config state) : size state.fromSlave ≤ semValueMax :=
  Nat.le_of_lt (SpiDriver.few_queued inv.bounded)

/-- One put adds at most one handle to what a round has passed. -/
theorem queued_put (fromSlave : Prio → List RxHandle) (level prio : Prio) (handle : RxHandle) :
    queued (put fromSlave level handle) (lookedInto prio) ≤
      queued fromSlave (lookedInto prio) + 1 := by
  cases prio with
  | serial => exact Nat.zero_le _
  | bt =>
      simp only [queued, lookedInto, length_put]
      split <;> omega
  | others =>
      simp only [queued, lookedInto, length_put]
      cases level with
      | serial | bt | others =>
          simp only [reduceCtorEq, if_true, if_false]
          omega

/-- Steps that put nothing, post nothing and leave the round where it is. -/
theorem WakeInv.still (inv : WakeInv config before) (fromSlave : after.fromSlave = before.fromSlave)
    (semFromSlave : after.semFromSlave = before.semFromSlave)
    (spi : posting after.spi = posting before.spi) (held : credit after.rx = credit before.rx)
    (rx : ∀ prio, after.rx = .dequeue prio → before.rx = .dequeue prio) : WakeInv config after where
  bounded := by
    rw [fromSlave]
    exact inv.bounded
  counted := by
    rw [fromSlave, semFromSlave, spi, held]
    exact inv.counted
  passed prio same := by
    rw [fromSlave, semFromSlave, spi]
    exact inv.passed prio (rx prio same)

theorem wakeInv_queued {rxbuff : Nat} {buf : IfaceBuf} (inv : WakeInv config before)
    (spi : before.spi = .put rxbuff buf)
    (room : (before.fromSlave (prioOf buf.ifType)).length < config.toSlaveQueueSize) :
    WakeInv config
      { before with
        fromSlave := put before.fromSlave (prioOf buf.ifType) (formHandle rxbuff buf)
        spi := .post } := by
  have none : posting before.spi = 0 := by rw [spi]; rfl
  have one : posting .post = 1 := rfl
  refine ⟨?_, ?_, ?_⟩
  · intro prio
    have here := inv.bounded prio
    simp only [length_put]
    split
    next same =>
      subst same
      omega
    next apart => omega
  · have counted := inv.counted
    simp only [size_put, one]
    omega
  · intro prio rx
    have passed := inv.passed prio rx
    have more := queued_put before.fromSlave (prioOf buf.ifType) prio (formHandle rxbuff buf)
    simp only [one]
    omega

theorem wakeInv_post (inv : WakeInv config before) (spi : before.spi = .post) :
    WakeInv config
      { before with semFromSlave := post semValueMax before.semFromSlave, spi := .idle } := by
  have one : posting before.spi = 1 := by rw [spi]; rfl
  have none : posting .idle = 0 := rfl
  have few := inv.few
  refine ⟨inv.bounded, ?_, ?_⟩
  · have counted := inv.counted
    have kept := @lt_post semValueMax before.semFromSlave
      (size before.fromSlave - credit before.rx) (by omega) (by omega)
    simp only [none]
    omega
  · intro prio rx
    have passed := inv.passed prio rx
    have small := queued_le_size before.fromSlave prio
    simp only [none, Nat.add_zero]
    exact lt_post (by omega) (by omega)

/-- A round that ends without a handle leaves only such behind as will be posted. -/
theorem wakeInv_dequeue {prio : Prio} (inv : WakeInv config before)
    (rx : before.rx = .dequeue prio) : WakeInv config (dequeueStep before prio) := by
  have one : credit before.rx = 1 := by rw [rx]; rfl
  have counted := inv.counted
  have passed := inv.passed prio rx
  unfold dequeueStep
  split
  next handle rest queued =>
    refine ⟨?_, ?_, ?_⟩
    · intro level
      have here := inv.bounded level
      rw [@length_get _ _ _ before.fromSlave prio level handle rest queued] at here
      exact Nat.le_trans (Nat.le_add_right _ _) here
    · have less := size_get queued
      simp only [credit]
      omega
    · intro level wrong
      cases wrong
  next empty =>
    cases prio with
    | serial =>
        refine ⟨inv.bounded, counted.trans (Nat.le_of_eq (by rw [one]; rfl)), ?_⟩
        intro level same
        cases same
        simp [queued, lookedInto, empty]
    | bt =>
        refine ⟨inv.bounded, counted.trans (Nat.le_of_eq (by rw [one]; rfl)), ?_⟩
        intro level same
        cases same
        simpa [queued, lookedInto, empty] using passed
    | others =>
        have ends : credit ((nextPrio .others).elim .getSem .dequeue) = 0 := rfl
        refine ⟨inv.bounded, ?_, ?_⟩
        · rw [size_levels]
          simpa [queued, lookedInto, empty, ends] using passed
        · intro level wrong
          cases wrong

theorem wakeInv_step {act : Act} (inv : WakeInv config before)
    (taken : step config before act = some after) : WakeInv config after := by
  cases step_moves taken with
  | alloc idle => exact inv.still rfl rfl (by rw [idle]; rfl) rfl fun _ same => same
  | dropped rxbuff content accesses spi only =>
      exact inv.still rfl rfl (by rw [spi]; rfl) rfl fun _ same => same
  | received rxbuff content accesses buf spi only =>
      exact inv.still rfl rfl (by rw [spi]; rfl) rfl fun _ same => same
  | refused rxbuff buf spi => exact inv.still rfl rfl (by rw [spi]; rfl) rfl fun _ same => same
  | queued rxbuff buf spi room => exact wakeInv_queued inv spi room
  | post spi => exact wakeInv_post inv spi
  | woken rx positive =>
      have counted := inv.counted
      rw [rx] at counted
      refine ⟨inv.bounded, ?_, ?_⟩
      · simp only [credit] at counted ⊢
        omega
      · rintro prio same
        cases same
        exact Nat.zero_le _
  | spurious rx =>
      have counted := inv.counted
      rw [rx] at counted
      refine ⟨inv.bounded, Nat.le_succ_of_le counted, ?_⟩
      rintro prio same
      cases same
      exact Nat.zero_le _
  | dequeue prio rx => exact wakeInv_dequeue inv rx
  | consume handle outcome rx =>
      have none : credit before.rx = 0 := by rw [rx]; rfl
      unfold consumeStep
      split
      · exact inv.still rfl rfl rfl none.symm fun _ wrong => by cases wrong
      · exact inv.still rfl rfl rfl none.symm fun _ wrong => by cases wrong
  | free handle rx => exact inv.still rfl rfl rfl (by rw [rx]; rfl) fun _ wrong => by cases wrong

/-- The steps of the two tasks, but no new buffers, and no waking up without the semaphore. -/
def Draining : Act → Prop
  | .alloc | .getSem false => False
  | .transfer _ | .put _ | .post | .getSem true | .dequeue | .consume _ | .free => True

def draining (_ : State) (act : Act) : Prop := Draining act

/-- `assert(copy_payload)` has stopped the task. -/
def Halted (state : State) : Prop := ∃ handle, state.rx = .halted handle

/-- A consumer that finds neither a channel nor an open serial interface. -/
def closed : Outcome where
  registered := false
  copyAlloc := false
  host := { r := { len := 0, data := .null }, interfaceHandle := fun _ => none }
  env := { dataAlloc := false, msgAlloc := false, queueItem := false, stale := fun _ => 0 }
  misused := stmFail

end EspHosted.RxDraining

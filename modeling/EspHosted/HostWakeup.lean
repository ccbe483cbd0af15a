import EspHosted.SpiDriver

/-!
The host's task waits on one semaphore for three producers: the interrupt handlers, the
callers of `esp_hosted_tx`, and itself. Nothing that is to be done may be left behind while
the semaphore is at zero.
-/

namespace EspHosted.HostWakeup
open SlaveFrames QueueBank SpiDriver GuardedRun

variable {config : Config} {before after state : State}

/-- The pass has taken `sem_to_slave_queue` for a frame it has not found yet. -/
def credit : Pc → Nat
  | .dequeue _ _ => 1
  | .getReadySem | .readHandshake | .readDataReady _ | .exchange _ | .getToSlaveSem _
  | .formBuffer _ _ | .decide _ _ | .transfer _ _ | .freeTx _ _ _ | .rearm _ _ | .repost _ _ => 0

/-- The queues a pass still looks into. -/
def lookedInto : Prio → List Prio
  | .serial => [.serial, .bt, .others]
  | .bt => [.bt, .others]
  | .others => [.others]

/-- A frame waits in a queue the pass still looks into. -/
def Reach (toSlave : Prio → List TxFrame) : Pc → Prop
  | .dequeue _ prio => ∃ level ∈ lookedInto prio, toSlave level ≠ []
  | .getReadySem | .readHandshake | .readDataReady _ | .exchange _ | .getToSlaveSem _
  | .formBuffer _ _ | .decide _ _ | .transfer _ _ | .freeTx _ _ _ | .rearm _ _ | .repost _ _ => True

/-- `sem_to_slave_queue` counts the queued frames, but for calls that have yet to post it. -/
structure QueueInv (config : Config) (state : State) : Prop where
  bounded : ∀ prio, (state.toSlave prio).length ≤ config.toSlaveQueueSize
  frames : size state.toSlave = state.semToSlave + state.posting + credit state.pc
  reach : Reach state.toSlave state.pc

theorem QueueInv.few (inv : QueueInv config state) : size state.toSlave < semValueMax :=
  few_queued inv.bounded

theorem queueInv_still (inv : QueueInv config before) (toSlave : after.toSlave = before.toSlave)
    (semToSlave : after.semToSlave = before.semToSlave) (posting : after.posting = before.posting)
    (held : credit after.pc = credit before.pc) (reach : Reach after.toSlave after.pc) :
    QueueInv config after where
  bounded := by
    rw [toSlave]
    exact inv.bounded
  frames := by
    rw [toSlave, semToSlave, posting, held]
    exact inv.frames
  reach := reach

theorem queueInv_put {index : Nat} {ok : Bool} (inv : QueueInv config before)
    (taken : putStep config before index ok = some after) : QueueInv config after := by
  cases putStep_puts taken with
  | fails => exact ⟨inv.bounded, inv.frames, inv.reach⟩
  | queues frame _ room =>
      refine ⟨?_, ?_, ?_⟩
      · intro prio
        by_cases same : prio = prioOf frame.buf.ifType
        · subst same
          simpa [put] using Nat.succ_le_of_lt room
        · simpa [put, Function.update_of_ne same] using inv.bounded prio
      · have frames := inv.frames
        simp only [size_put]
        omega
      · have reach := inv.reach
        cases pc : before.pc with
        | dequeue pass prio =>
            rw [pc] at reach
            obtain ⟨level, later, held⟩ := reach
            exact ⟨level, later, put_ne_nil held⟩
        | getReadySem | readHandshake | readDataReady _ | exchange _ | getToSlaveSem _
        | formBuffer _ _ | decide _ _ | transfer _ _ | freeTx _ _ _ | rearm _ _ | repost _ _ =>
            trivial

theorem queueInv_postToSlave (inv : QueueInv config before)
    (taken : postToSlaveStep before = some after) : QueueInv config after := by
  have few := inv.few
  have frames := inv.frames
  obtain ⟨_, rfl⟩ := postToSlave_cases taken
  refine ⟨inv.bounded, ?_, inv.reach⟩
  simp only [post, show before.semToSlave < semValueMax by omega, if_true]
  omega

/-- A pass that has taken the semaphore finds its frame. -/
theorem queueInv_dequeue {pass : Pass} {prio : Prio} (inv : QueueInv config before)
    (pc : before.pc = .dequeue pass prio) : QueueInv config (dequeueStep before pass prio) := by
  obtain ⟨bounded, frames, reach⟩ := inv
  rw [pc] at frames reach
  unfold dequeueStep
  split
  · rename_i frame rest queued
    refine ⟨?_, ?_, trivial⟩
    · intro level
      by_cases same : level = prio
      · subst same
        have here := bounded level
        rw [queued, List.length_cons] at here
        simp only [Function.update_self]
        omega
      · simpa [Function.update_of_ne same] using bounded level
    · rw [size_get queued, credit] at frames
      simp only [credit]
      omega
  · rename_i empty
    obtain ⟨level, later, held⟩ := reach
    cases prio with
    | serial =>
        refine ⟨bounded, frames, ?_⟩
        simp only [lookedInto, List.mem_cons, List.not_mem_nil, or_false] at later
        rcases later with rfl | rfl | rfl
        · exact absurd empty held
        · exact ⟨.bt, by decide, held⟩
        · exact ⟨.others, by decide, held⟩
    | bt =>
        refine ⟨bounded, frames, ?_⟩
        simp only [lookedInto, List.mem_cons, List.not_mem_nil, or_false] at later
        rcases later with rfl | rfl
        · exact absurd empty held
        · exact ⟨.others, by decide, held⟩
    | others =>
        simp only [lookedInto, List.mem_cons, List.not_mem_nil, or_false] at later
        subst later
        exact absurd empty held

theorem queueInv_take {pass : Pass} (inv : QueueInv config before)
    (pc : before.pc = .getToSlaveSem pass) (positive : 0 < before.semToSlave) :
    QueueInv config
      { before with semToSlave := before.semToSlave - 1, pc := .dequeue pass .serial } := by
  obtain ⟨bounded, frames, _⟩ := inv
  rw [pc, credit] at frames
  refine ⟨bounded, ?_, ?_⟩
  · simp only [credit]
    omega
  · have some_frame : size before.toSlave ≠ 0 := by omega
    rw [ne_eq, size_zero_iff, not_forall] at some_frame
    obtain ⟨level, held⟩ := some_frame
    exact ⟨level, by cases level <;> decide, held⟩

theorem queueInv_task {act : TaskAct} (inv : QueueInv config before)
    (taken : taskStep before act = some after) : QueueInv config after := by
  cases taskStep_moves taken with
  | enter pc | handshake active pc | exchange rxDataReady pc | pass pass pc | form pass frame pc
  | freeTx pass tx failed pc | repost handshake retry pc =>
      exact queueInv_still inv rfl rfl rfl (by rw [pc]; rfl) trivial
  | dataReady handshake active pc =>
      cases handshake <;> exact queueInv_still inv rfl rfl rfl (by rw [pc]; rfl) trivial
  | take pass pc positive => exact queueInv_take inv pc positive
  | dequeue pass prio pc => exact queueInv_dequeue inv pc
  | decide pass tx pc =>
      unfold decideStep
      split <;> exact queueInv_still inv rfl rfl rfl (by rw [pc]; rfl) trivial
  | transfer pass tx rxbuff put pc =>
      cases rxbuff <;> exact queueInv_still inv rfl rfl rfl (by rw [pc]; rfl) trivial
  | rearm pass failed pc =>
      unfold rearmStep
      split <;> exact queueInv_still inv rfl rfl rfl (by rw [pc]; rfl) trivial

theorem queueInv_step {act : Act} (inv : QueueInv config before)
    (taken : step config before act = some after) : QueueInv config after := by
  cases act with
  | call transportUp frame =>
      cases taken
      unfold callStep
      split <;> exact ⟨inv.bounded, inv.frames, inv.reach⟩
  | put index ok => exact queueInv_put inv taken
  | postToSlave => exact queueInv_postToSlave inv taken
  | postReady =>
      obtain ⟨_, rfl⟩ := postReady_cases taken
      exact ⟨inv.bounded, inv.frames, inv.reach⟩
  | handshakeIsr | dataReadyIsr =>
      cases taken
      exact ⟨inv.bounded, inv.frames, inv.reach⟩
  | task act => exact queueInv_task inv taken

theorem queueInv_reached (run : Run (step config) unguarded init state) : QueueInv config state := by
  apply run.invariant
  · exact ⟨fun _ => Nat.zero_le _, by simp [init, size, count, credit], trivial⟩
  · intro before act after _ inv _ taken
    exact queueInv_step inv taken

/-- The pass was let in for a frame it has not taken yet, or will let itself in again. -/
def toTake : Pc → Nat
  | .readHandshake | .readDataReady _ | .exchange _ | .getToSlaveSem _ | .repost false _ => 1
  | .getReadySem | .dequeue _ _ | .formBuffer _ _ | .decide _ _ | .transfer _ _ | .freeTx _ _ _
  | .rearm _ _ | .repost true _ => 0

/-- The pass has yet to look at the latch, or will let itself in again. -/
def latchLooked : Pc → Bool
  | .readHandshake | .readDataReady _ | .exchange _ | .repost false _ | .repost _ true => true
  | .getReadySem | .getToSlaveSem _ | .dequeue _ _ | .formBuffer _ _ | .decide _ _
  | .transfer _ _ | .freeTx _ _ _ | .rearm _ _ | .repost true false => false

/-- A post of `spi_trans_ready_sem` is there, or to come, for everything that is to be done. -/
structure WakeInv (state : State) : Prop where
  wakes : state.semToSlave ≤ state.readySem + state.waking + toTake state.pc
  pending : state.dataReadyPending = true →
    0 < state.readySem ∨ latchLooked state.pc = true
  dummy : (state.scheduleDummyTx || state.rx.scheduleDummyRx) = true → state.pc = .getReadySem →
    0 < state.readySem
  missed : state.handshakeInactive = true → state.pc = .getReadySem → 0 < state.readySem

/-- Posts only add to what is there. -/
structure Posted (before after : State) : Prop where
  readySem : before.readySem ≤ after.readySem
  wakes : after.semToSlave ≤ after.readySem + after.waking + toTake after.pc
  scheduleDummyTx : after.scheduleDummyTx = before.scheduleDummyTx
  rx : after.rx = before.rx
  handshakeInactive : after.handshakeInactive = before.handshakeInactive
  pc : after.pc = before.pc

theorem wakeInv_posted (inv : WakeInv before) (posted : Posted before after)
    (pending : after.dataReadyPending = true →
      before.dataReadyPending = true ∨ 0 < after.readySem) : WakeInv after where
  wakes := posted.wakes
  pending latched := by
    rcases pending latched with older | new
    · rw [posted.pc]
      rcases inv.pending older with there | looked
      · exact Or.inl (Nat.lt_of_lt_of_le there posted.readySem)
      · exact Or.inr looked
    · exact Or.inl new
  dummy := by
    rw [posted.scheduleDummyTx, posted.rx, posted.pc]
    exact fun flags waits => Nat.lt_of_lt_of_le (inv.dummy flags waits) posted.readySem
  missed := by
    rw [posted.handshakeInactive, posted.pc]
    exact fun missed waits => Nat.lt_of_lt_of_le (inv.missed missed waits) posted.readySem

theorem postReadySem_pos (readySem : Nat) : 0 < postReadySem readySem := post_pos (by decide) readySem

theorem le_postReadySem (readySem : Nat) : readySem ≤ postReadySem readySem :=
  le_post semValueMax readySem

/-- A post is either counted or not needed. -/
theorem postReadySem_covers {readySem owed : Nat} (short : owed ≤ readySem + 1)
    (few : owed < semValueMax) : owed ≤ postReadySem readySem :=
  lt_post short (Nat.le_of_lt few)

theorem QueueInv.semToSlave_lt (inv : QueueInv config state) : state.semToSlave < semValueMax := by
  have few := inv.few
  have frames := inv.frames
  omega

theorem wakeInv_call (inv : WakeInv before) (transportUp : Bool) (frame : TxFrame) :
    WakeInv (callStep before transportUp frame) := by
  unfold callStep
  split <;> exact ⟨inv.wakes, inv.pending, inv.dummy, inv.missed⟩

theorem wakeInv_put {index : Nat} {ok : Bool} (inv : WakeInv before)
    (taken : putStep config before index ok = some after) : WakeInv after := by
  cases putStep_puts taken <;> exact ⟨inv.wakes, inv.pending, inv.dummy, inv.missed⟩

theorem wakeInv_postToSlave (inv : WakeInv before) (taken : postToSlaveStep before = some after) :
    WakeInv after := by
  have wakes := inv.wakes
  obtain ⟨_, rfl⟩ := postToSlave_cases taken
  apply wakeInv_posted inv
  · refine ⟨Nat.le_refl _, ?_, rfl, rfl, rfl, rfl⟩
    have counted : post semValueMax before.semToSlave ≤ before.semToSlave + 1 := by
      unfold post
      split <;> omega
    simp only
    omega
  · exact Or.inl

theorem wakeInv_postReady (inv : WakeInv before) (few : before.semToSlave < semValueMax)
    (taken : postReadyStep before = some after) : WakeInv after := by
  have wakes := inv.wakes
  obtain ⟨posts, rfl⟩ := postReady_cases taken
  have covered : before.semToSlave - (before.waking - 1) - toTake before.pc ≤
      postReadySem before.readySem := postReadySem_covers (by omega) (by omega)
  apply wakeInv_posted inv
  · refine ⟨le_postReadySem _, ?_, rfl, rfl, rfl, rfl⟩
    simp only
    omega
  · exact fun _ => Or.inr (postReadySem_pos _)

theorem wakeInv_isr (inv : WakeInv before) (latched : Bool) :
    WakeInv
      { before with
        dataReadyPending := latched
        readySem := postReadySem before.readySem } := by
  have wakes := inv.wakes
  have more := le_postReadySem before.readySem
  apply wakeInv_posted inv
  · refine ⟨more, ?_, rfl, rfl, rfl, rfl⟩
    simp only
    omega
  · exact fun _ => Or.inr (postReadySem_pos _)

/-- A step of the pass that neither waits nor posts. -/
theorem wakeInv_pass (inv : WakeInv before) (readySem : after.readySem = before.readySem)
    (waking : after.waking = before.waking)
    (wakes : after.semToSlave + toTake before.pc ≤ before.semToSlave + toTake after.pc)
    (latch : after.dataReadyPending = true →
      latchLooked after.pc = true ∨
        before.dataReadyPending = true ∧ latchLooked before.pc = false)
    (busy : after.pc ≠ .getReadySem) : WakeInv after where
  wakes := by
    have before_wakes := inv.wakes
    rw [readySem, waking]
    omega
  pending latched := by
    rw [readySem]
    rcases latch latched with looked | ⟨older, unlooked⟩
    · exact Or.inr looked
    · rcases inv.pending older with there | looked
      · exact Or.inl there
      · rw [unlooked] at looked
        cases looked
  dummy _ waits := absurd waits busy
  missed _ waits := absurd waits busy

/-- Such a step behind the look at the latch. -/
theorem wakeInv_behind (inv : WakeInv before) (readySem : after.readySem = before.readySem)
    (waking : after.waking = before.waking)
    (wakes : after.semToSlave + toTake before.pc ≤ before.semToSlave + toTake after.pc)
    (pending : after.dataReadyPending = before.dataReadyPending)
    (looked : latchLooked before.pc = false) (busy : after.pc ≠ .getReadySem) : WakeInv after := by
  refine wakeInv_pass inv readySem waking wakes ?_ busy
  intro latched
  exact Or.inr ⟨pending.symm.trans latched, looked⟩

theorem wakeInv_enter (inv : WakeInv before) (pc : before.pc = .getReadySem)
    (positive : 0 < before.readySem) :
    WakeInv { before with readySem := before.readySem - 1, pc := .readHandshake } where
  wakes := by
    have wakes := inv.wakes
    rw [pc] at wakes
    simp only [toTake] at wakes ⊢
    omega
  pending _ := Or.inr rfl
  dummy _ := nofun
  missed _ := nofun

/-- The end of a pass: whatever is left to do lets the next one in. -/
theorem wakeInv_repost {handshake retry : Bool} (inv : WakeInv before)
    (few : before.semToSlave < semValueMax) (pc : before.pc = .repost handshake retry) :
    WakeInv (repostStep before handshake retry) := by
  have wakes := inv.wakes
  have pending := inv.pending
  rw [pc] at wakes pending
  unfold repostStep
  by_cases again : (!handshake || before.scheduleDummyTx || before.rx.scheduleDummyRx || retry) = true
  · simp only [again, if_true]
    refine ⟨?_, fun _ => Or.inl (postReadySem_pos _), fun _ _ => postReadySem_pos _,
      fun _ _ => postReadySem_pos _⟩
    have most : toTake (.repost handshake retry) ≤ 1 := by cases handshake <;> simp [toTake]
    have covered : before.semToSlave - before.waking ≤ postReadySem before.readySem :=
      postReadySem_covers (by omega) (by omega)
    simp only [toTake]
    omega
  · simp only [Bool.or_eq_true, Bool.not_eq_true', not_or, Bool.not_eq_false, Bool.not_eq_true]
      at again
    obtain ⟨⟨⟨rfl, tx⟩, rx⟩, rfl⟩ := again
    simp only [tx, rx, Bool.not_true, Bool.or_self, Bool.false_eq_true, if_false]
    refine ⟨wakes, ?_, ?_, nofun⟩
    · intro latched
      rcases pending latched with there | looked
      · exact Or.inl there
      · cases looked
    · intro flags
      simp [rx] at flags

theorem wakeInv_task {act : TaskAct} (inv : WakeInv before) (few : before.semToSlave < semValueMax)
    (taken : taskStep before act = some after) : WakeInv after := by
  cases taskStep_moves taken with
  | enter pc positive => exact wakeInv_enter inv pc positive
  | handshake active pc =>
      refine wakeInv_pass inv rfl rfl ?_ (fun _ => Or.inl rfl) nofun
      simp [pc, toTake]
  | dataReady handshake active pc =>
      cases handshake with
      | false =>
          refine wakeInv_pass inv rfl rfl ?_ (fun _ => Or.inl rfl) nofun
          simp [pc, toTake]
      | true =>
          refine wakeInv_pass inv rfl rfl ?_ (fun _ => Or.inl rfl) nofun
          simp [pc, toTake]
  | exchange rxDataReady pc =>
      refine wakeInv_pass inv rfl rfl ?_ nofun nofun
      simp [pc, toTake]
  | take pass pc positive =>
      refine wakeInv_behind inv rfl rfl ?_ rfl (by rw [pc]; rfl) nofun
      simp only [pc, toTake]
      omega
  | pass pass pc none =>
      -- the post that let the pass in was not for a frame
      refine ⟨?_, ?_, nofun, nofun⟩
      · simp only
        omega
      · intro latched
        rcases inv.pending latched with there | looked
        · exact Or.inl there
        · rw [pc] at looked
          cases looked
  | dequeue pass prio pc =>
      unfold dequeueStep
      split
      · refine wakeInv_behind inv rfl rfl ?_ rfl (by rw [pc]; rfl) nofun
        simp [pc, toTake]
      · cases prio <;>
          refine wakeInv_behind inv rfl rfl ?_ rfl (by rw [pc]; rfl) nofun
        all_goals simp [pc, nextPrio, toTake]
  | form pass frame pc =>
      refine wakeInv_behind inv rfl rfl ?_ rfl (by rw [pc]; rfl) nofun
      simp [pc, formStep, toTake]
  | decide pass tx pc =>
      unfold decideStep
      split <;>
        refine wakeInv_behind inv rfl rfl ?_ rfl (by rw [pc]; rfl) nofun
      all_goals simp [pc, toTake]
  | transfer pass tx rxbuff put pc =>
      cases rxbuff <;>
        refine wakeInv_behind inv rfl rfl ?_ rfl (by rw [pc]; rfl) nofun
      all_goals simp [pc, transferStep, toTake]
  | freeTx pass tx failed pc =>
      refine wakeInv_behind inv rfl rfl ?_ rfl (by rw [pc]; rfl) nofun
      simp [pc, toTake]
  | rearm pass failed pc =>
      unfold rearmStep
      split
      · refine wakeInv_pass inv rfl rfl ?_ (fun _ => Or.inl rfl) nofun
        simp [pc, toTake]
      · refine wakeInv_behind inv rfl rfl ?_ rfl (by rw [pc]; rfl) nofun
        simp [pc, toTake]
  | repost handshake retry pc => exact wakeInv_repost inv few pc

theorem wakeInv_step {act : Act} (inv : WakeInv before) (few : before.semToSlave < semValueMax)
    (taken : step config before act = some after) : WakeInv after := by
  cases act with
  | call transportUp frame =>
      cases taken
      exact wakeInv_call inv transportUp frame
  | put index ok => exact wakeInv_put inv taken
  | postToSlave => exact wakeInv_postToSlave inv taken
  | postReady => exact wakeInv_postReady inv few taken
  | handshakeIsr =>
      cases taken
      exact wakeInv_isr inv before.dataReadyPending
  | dataReadyIsr =>
      cases taken
      exact wakeInv_isr inv true
  | task act => exact wakeInv_task inv few taken

theorem wakeInv_reached (run : Run (step config) unguarded init state) : WakeInv state := by
  apply run.invariant
  · exact ⟨Nat.zero_le _, nofun, nofun, nofun⟩
  · intro before act after prior inv _ taken
    exact wakeInv_step inv (queueInv_reached prior).semToSlave_lt taken

/-- No thread is in `esp_hosted_tx`. -/
structure NoCall (state : State) : Prop where
  putting : state.putting = []
  posting : state.posting = 0
  waking : state.waking = 0

/-- There is something for the task to do. -/
def Todo (state : State) : Prop :=
  state.dataReadyPending = true ∨ state.rx.scheduleDummyRx = true ∨
    state.scheduleDummyTx = true ∨ state.handshakeInactive = true ∨
    NoCall state ∧ ∃ prio, state.toSlave prio ≠ []

/-- Whenever the task is about to wait while there is something to do, it will not wait. -/
theorem wake_up_kept (config : Config) (state : State)
    (run : Run (step config) unguarded init state) (waits : state.pc = .getReadySem)
    (todo : Todo state) : 0 < state.readySem := by
  have inv := wakeInv_reached run
  rcases todo with latched | rx | tx | missed | ⟨idle, prio, held⟩
  · rcases inv.pending latched with there | looked
    · exact there
    · rw [waits] at looked
      cases looked
  · exact inv.dummy (by simp [rx]) waits
  · exact inv.dummy (by simp [tx]) waits
  · exact inv.missed missed waits
  · have frames := (queueInv_reached run).frames
    have wakes := inv.wakes
    have positive := size_pos held
    rw [waits] at frames wakes
    rw [idle.posting] at frames
    rw [idle.waking] at wakes
    simp only [credit, toTake] at frames wakes
    omega

/-- A frame of the slave is announced, and the transaction that was to fetch it fails. -/
def failedFetch : List Act :=
  .dataReadyIsr :: passBegin true 3 ++ .task (.transfers none true) :: List.replicate 3 (.task .go)

theorem wake_up_kept_fetch : ∃ state, Todo state ∧ 0 < state.readySem := by
  obtain ⟨state, run, waits, latched⟩ := exec_reaches (step ⟨20, by decide⟩) init failedFetch
    (fun state => state.pc = .getReadySem ∧ state.dataReadyPending = true) (by decide)
  have todo : Todo state := Or.inl latched
  exact ⟨state, todo, wake_up_kept ⟨20, by decide⟩ state run waits todo⟩

end EspHosted.HostWakeup

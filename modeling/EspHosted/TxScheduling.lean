import EspHosted.BufferOwnership
import EspHosted.HostWakeup

/-!
What the host's callers of `esp_hosted_tx` put into the three queues, and what
`get_next_tx_buffer` takes out of them. The history beside the driver records both, and the
calls of `get_next_tx_buffer`; a call begins behind the look at the latch and returns with a
frame in its hands or at the first thing it does not find.
-/

namespace EspHosted.TxScheduling
open SpiFrames HostFrames SlaveFrames QueueBank SpiDriver BufferOwnership HostWakeup GuardedRun

/-- `offered` is what the queues held when the last call began, and `stalled` are the calls
that returned without a frame while a call of `esp_hosted_tx` had put its frame and not yet
posted the semaphore. -/
structure History where
  queued : Prio → List TxFrame
  emitted : Prio → List TxFrame
  offered : Prio → List TxFrame
  returned : Nat
  stalled : Nat

def blank : History where
  queued _ := []
  emitted _ := []
  offered _ := []
  returned := 0
  stalled := 0

def notePut (state : State) (index : Nat) (history : History) : History :=
  match state.putting[index]? with
  | some frame =>
      { history with queued := put history.queued (prioOf frame.buf.ifType) frame }
  | none => history

def noteTask (state : State) (history : History) : History :=
  match state.pc with
  | .exchange _ => { history with offered := state.toSlave }
  | .getToSlaveSem _ =>
      if 0 < state.semToSlave then history
      else
        { history with
          returned := history.returned + 1
          stalled := history.stalled + if 0 < state.posting then 1 else 0 }
  | .dequeue _ prio =>
      if state.toSlave prio = [] ∧ nextPrio prio = none then
        { history with returned := history.returned + 1 }
      else history
  | .formBuffer _ frame =>
      { history with
        returned := history.returned + 1
        emitted :=
          if frame.buf.payloadLen = 0 then history.emitted
          else put history.emitted (prioOf frame.buf.ifType) frame }
  | .getReadySem | .readHandshake | .readDataReady _ | .decide _ _ | .transfer _ _
  | .freeTx _ _ _ | .rearm _ _ | .repost _ _ => history

def note (state : State) (act : Act) (history : History) : History :=
  match act with
  | .put index true => notePut state index history
  | .task _ => noteTask state history
  | .put _ false | .call _ _ | .postToSlave | .postReady | .handshakeIsr | .dataReadyIsr =>
      history

abbrev Seen := State × History

def seenStep (config : Config) : Seen → Act → Option Seen := watched (step config) note

/-- The frame a call has taken and not yet put into a buffer. -/
def inHand : Pc → Prio → List TxFrame
  | .formBuffer _ frame, prio => if prioOf frame.buf.ifType = prio then [frame] else []
  | .getReadySem, _ | .readHandshake, _ | .readDataReady _, _ | .exchange _, _
  | .getToSlaveSem _, _ | .dequeue _ _, _ | .decide _ _, _ | .transfer _ _, _
  | .freeTx _ _ _, _ | .rearm _ _, _ | .repost _ _, _ => []

def pending (state : State) (prio : Prio) : List TxFrame :=
  inHand state.pc prio ++ state.toSlave prio

/-- Nothing is lost, doubled or overtaken within a queue. -/
structure Ordered (seen : Seen) : Prop where
  sorted : Sorted (fun frame => prioOf frame.buf.ifType) seen.1.toSlave
  accounts : Accounts seen.2.queued seen.2.emitted (pending seen.1)

/-- A call passes by no queue that offered it something. -/
def Urgent (offered toSlave : Prio → List TxFrame) : Pc → Prop
  | .getToSlaveSem _ => ∀ level, offered level ≠ [] → toSlave level ≠ []
  | .dequeue _ prio => ∀ level, offered level ≠ [] → level ∈ lookedInto prio ∧ toSlave level ≠ []
  | .formBuffer _ frame => ∀ level, offered level ≠ [] → level ∈ lookedInto (prioOf frame.buf.ifType)
  | .getReadySem | .readHandshake | .readDataReady _ | .exchange _ | .decide _ _
  | .transfer _ _ | .freeTx _ _ _ | .rearm _ _ | .repost _ _ => True

variable {config : Config} {before after seen : Seen}

theorem seen_cases {act : Act} (taken : seenStep config before act = some after) :
    step config before.1 act = some after.1 ∧ after.2 = note before.1 act before.2 :=
  watched_cases taken

/-- A step that touches neither queue nor history leaves the order. -/
theorem ordered_still (ordered : Ordered before) (toSlave : after.1.toSlave = before.1.toSlave)
    (hand : inHand after.1.pc = inHand before.1.pc) (queued : after.2.queued = before.2.queued)
    (emitted : after.2.emitted = before.2.emitted) : Ordered after where
  sorted := by
    rw [toSlave]
    exact ordered.sorted
  accounts := by
    intro prio
    rw [queued, emitted, pending, hand, toSlave]
    exact ordered.accounts prio

theorem ordered_put {index : Nat} {ok : Bool} (ordered : Ordered before)
    (taken : putStep config before.1 index ok = some after.1)
    (noted : after.2 = note before.1 (.put index ok) before.2) : Ordered after := by
  obtain ⟨state, history⟩ := after
  dsimp only at taken noted
  subst noted
  cases putStep_puts taken with
  | fails => exact ordered_still ordered rfl rfl rfl rfl
  | queues frame found =>
      rw [note, notePut, found]
      refine ⟨?_, ?_⟩
      · exact sorted_put ordered.sorted frame
      · have accounts := @accounts_put _ _ _ _ _ _ (prioOf frame.buf.ifType) frame ordered.accounts
        intro prio
        refine (accounts prio).trans (congrArg (before.2.emitted prio ++ ·) ?_)
        by_cases same : prio = prioOf frame.buf.ifType
        · subst same
          simp [pending, put]
        · simp [pending, put, Function.update_of_ne same]

theorem ordered_dequeue {pass : Pass} {prio : Prio} (ordered : Ordered before)
    (pc : before.1.pc = .dequeue pass prio) (history : History)
    (queued : history.queued = before.2.queued) (emitted : history.emitted = before.2.emitted) :
    Ordered (dequeueStep before.1 pass prio, history) := by
  unfold dequeueStep
  split
  · rename_i frame rest held
    have level := ordered.sorted prio frame (by rw [held]; exact List.mem_cons_self)
    refine ⟨?_, ?_⟩
    · exact sorted_get ordered.sorted held
    · intro other
      dsimp only
      rw [queued, emitted, ordered.accounts other]
      by_cases same : other = prio
      · subst same
        simp [pending, pc, inHand, held, level]
      · simp [pending, pc, inHand, level, Function.update_of_ne same, Ne.symm same]
  · refine ordered_still ordered rfl ?_ queued emitted
    rw [pc]
    cases prio <;> rfl

theorem ordered_form {pass : Pass} {frame : TxFrame} (ordered : Ordered before)
    (pc : before.1.pc = .formBuffer pass frame) (filled : frame.buf.payloadLen ≠ 0) :
    Ordered (formStep before.1 pass frame, noteTask before.1 before.2) where
  sorted := ordered.sorted
  accounts := by
    have held : pending before.1 (prioOf frame.buf.ifType) =
        frame :: before.1.toSlave (prioOf frame.buf.ifType) := by
      simp [pending, pc, inHand]
    have accounts := accounts_get ordered.accounts held
    intro prio
    simp only [noteTask, pc, filled, if_false]
    rw [accounts prio]
    by_cases same : prio = prioOf frame.buf.ifType
    · subst same
      simp [pending, formStep, inHand]
    · simp [pending, formStep, pc, inHand, Function.update_of_ne same, Ne.symm same]

theorem noteTask_queued (state : State) (history : History) :
    (noteTask state history).queued = history.queued := by
  unfold noteTask
  split <;> try split
  all_goals rfl

/-- Only the end of a call emits something. -/
theorem noteTask_emitted {state : State} (history : History) (hand : inHand state.pc = fun _ => []) :
    (noteTask state history).emitted = history.emitted := by
  unfold noteTask
  split
  case h_4 frame pc =>
    have here := congrFun hand (prioOf frame.buf.ifType)
    simp [pc, inHand] at here
  all_goals try split
  all_goals rfl

/-- A step of the task with nothing in hand before and behind it. -/
theorem ordered_empty {state : State} {pc : Pc} (ordered : Ordered before)
    (here : before.1.pc = pc) (was : inHand pc = fun _ => [])
    (toSlave : state.toSlave = before.1.toSlave) (hand : inHand state.pc = fun _ => []) :
    Ordered (state, noteTask before.1 before.2) := by
  rw [← here] at was
  exact ordered_still ordered toSlave (hand.trans was.symm) (noteTask_queued _ _)
    (noteTask_emitted _ was)

theorem ordered_task {act : TaskAct} (ordered : Ordered before)
    (accepted : LensAccepted before.1) (taken : taskStep before.1 act = some after.1)
    (noted : after.2 = noteTask before.1 before.2) : Ordered after := by
  obtain ⟨state, history⟩ := after
  dsimp only at taken noted
  subst noted
  cases taskStep_moves taken with
  | enter pc | handshake active pc | exchange rxDataReady pc | take pass pc | pass pass pc
  | freeTx pass tx failed pc | repost handshake retry pc =>
      exact ordered_empty ordered pc rfl rfl rfl
  | dataReady handshake active pc => cases handshake <;> exact ordered_empty ordered pc rfl rfl rfl
  | dequeue pass prio pc =>
      refine ordered_dequeue ordered pc _ (noteTask_queued _ _) (noteTask_emitted _ ?_)
      rw [pc]
      rfl
  | form pass frame pc =>
      exact ordered_form ordered pc (accepted_ne_zero (accepted.formed pass frame pc))
  | decide pass tx pc =>
      unfold decideStep
      split <;> exact ordered_empty ordered pc rfl rfl rfl
  | transfer pass tx rxbuff put pc =>
      cases rxbuff <;> exact ordered_empty ordered pc rfl rfl rfl
  | rearm pass failed pc =>
      unfold rearmStep
      split <;> exact ordered_empty ordered pc rfl rfl rfl

/-- Whatever is neither a put nor a step of the task leaves the queues and the task alone. -/
structure Beside (before after : Seen) : Prop where
  toSlave : after.1.toSlave = before.1.toSlave
  pc : after.1.pc = before.1.pc
  history : after.2 = before.2

theorem beside_call {transportUp : Bool} {frame : TxFrame}
    (taken : seenStep config before (.call transportUp frame) = some after) :
    Beside before after := by
  obtain ⟨moved, noted⟩ := seen_cases taken
  rw [step, Option.some.injEq, callStep] at moved
  split at moved
  · exact ⟨by rw [← moved], by rw [← moved], noted⟩
  · exact ⟨by rw [← moved], by rw [← moved], noted⟩

theorem beside_postToSlave (taken : seenStep config before .postToSlave = some after) :
    Beside before after := by
  obtain ⟨moved, noted⟩ := seen_cases taken
  obtain ⟨_, posted⟩ := postToSlave_cases moved
  exact ⟨by rw [posted], by rw [posted], noted⟩

theorem beside_postReady (taken : seenStep config before .postReady = some after) :
    Beside before after := by
  obtain ⟨moved, noted⟩ := seen_cases taken
  obtain ⟨_, posted⟩ := postReady_cases moved
  exact ⟨by rw [posted], by rw [posted], noted⟩

theorem beside_handshakeIsr (taken : seenStep config before .handshakeIsr = some after) :
    Beside before after := by
  obtain ⟨moved, noted⟩ := seen_cases taken
  rw [step, Option.some.injEq] at moved
  exact ⟨by rw [← moved], by rw [← moved], noted⟩

theorem beside_dataReadyIsr (taken : seenStep config before .dataReadyIsr = some after) :
    Beside before after := by
  obtain ⟨moved, noted⟩ := seen_cases taken
  rw [step, Option.some.injEq] at moved
  exact ⟨by rw [← moved], by rw [← moved], noted⟩

/-- What a step is to the queues: nothing, a put, or a step of the task. -/
theorem seen_kinds {act : Act} (taken : seenStep config before act = some after) :
    Beside before after ∨
    (∃ index ok, act = .put index ok ∧ putStep config before.1 index ok = some after.1) ∨
    ∃ own, act = .task own ∧ taskStep before.1 own = some after.1 := by
  cases act with
  | call transportUp frame => exact Or.inl (beside_call taken)
  | put index ok => exact Or.inr (Or.inl ⟨index, ok, rfl, (seen_cases taken).1⟩)
  | postToSlave => exact Or.inl (beside_postToSlave taken)
  | postReady => exact Or.inl (beside_postReady taken)
  | handshakeIsr => exact Or.inl (beside_handshakeIsr taken)
  | dataReadyIsr => exact Or.inl (beside_dataReadyIsr taken)
  | task own => exact Or.inr (Or.inr ⟨own, rfl, (seen_cases taken).1⟩)

theorem ordered_step {act : Act} (ordered : Ordered before) (accepted : LensAccepted before.1)
    (taken : seenStep config before act = some after) : Ordered after := by
  have noted := (seen_cases taken).2
  rcases seen_kinds taken with beside | ⟨index, ok, rfl, moved⟩ | ⟨own, rfl, moved⟩
  · refine ordered_still ordered beside.toSlave ?_ ?_ ?_
    · rw [beside.pc]
    · rw [beside.history]
    · rw [beside.history]
  · exact ordered_put ordered moved noted
  · exact ordered_task ordered accepted moved noted

/-- The queues only grow while a call is on its way, but for what it takes itself. -/
theorem urgent_grows {offered toSlave more : Prio → List TxFrame} {pc : Pc}
    (urgent : Urgent offered toSlave pc) (grows : ∀ level, toSlave level ≠ [] → more level ≠ []) :
    Urgent offered more pc := by
  cases pc with
  | getToSlaveSem pass => exact fun level held => grows level (urgent level held)
  | dequeue pass prio =>
      exact fun level held => ⟨(urgent level held).1, grows level (urgent level held).2⟩
  | formBuffer pass frame => exact urgent
  | getReadySem | readHandshake | readDataReady _ | exchange _ | decide _ _ | transfer _ _
  | freeTx _ _ _ | rearm _ _ | repost _ _ => trivial

theorem noteTask_offered {state : State} (history : History)
    (called : ∀ rxDataReady, state.pc ≠ .exchange rxDataReady) :
    (noteTask state history).offered = history.offered := by
  unfold noteTask
  split
  case h_1 rxDataReady pc => exact absurd pc (called rxDataReady)
  all_goals try split
  all_goals rfl

theorem urgent_dequeue {pass : Pass} {prio : Prio} (ordered : Ordered before)
    (urgent : Urgent before.2.offered before.1.toSlave (.dequeue pass prio)) :
    Urgent before.2.offered (dequeueStep before.1 pass prio).toSlave
      (dequeueStep before.1 pass prio).pc := by
  unfold dequeueStep
  split
  · rename_i frame rest held
    have level := ordered.sorted prio frame (by rw [held]; exact List.mem_cons_self)
    intro other offered
    rw [show prioOf frame.buf.ifType = prio from level]
    exact (urgent other offered).1
  · rename_i empty
    cases prio with
    | others => trivial
    | serial =>
        intro other offered
        refine ⟨?_, (urgent other offered).2⟩
        cases other with
        | serial => exact absurd empty (urgent .serial offered).2
        | bt | others => decide
    | bt =>
        intro other offered
        refine ⟨?_, (urgent other offered).2⟩
        have looked := (urgent other offered).1
        cases other with
        | serial => exact absurd looked (by decide)
        | bt => exact absurd empty (urgent .bt offered).2
        | others => decide

def Called (seen : Seen) : Prop := Urgent seen.2.offered seen.1.toSlave seen.1.pc

theorem called_task {act : TaskAct} (ordered : Ordered before) (called : Called before)
    (taken : taskStep before.1 act = some after.1)
    (noted : after.2 = noteTask before.1 before.2) : Called after := by
  obtain ⟨state, history⟩ := after
  dsimp only at taken noted
  subst noted
  unfold Called at called ⊢
  cases taskStep_moves taken with
  | enter | handshake | pass | form | freeTx | repost => trivial
  | dataReady handshake => cases handshake <;> trivial
  | exchange rxDataReady pc =>
      simp only [noteTask, pc]
      exact fun _ held => held
  | take pass pc =>
      rw [pc] at called
      rw [noteTask_offered _ (by simp [pc])]
      exact fun level held => ⟨by cases level <;> decide, called level held⟩
  | dequeue pass prio pc =>
      rw [pc] at called
      rw [noteTask_offered _ (by simp [pc])]
      exact urgent_dequeue ordered called
  | decide pass tx =>
      unfold decideStep
      split <;> trivial
  | transfer pass tx rxbuff put => cases rxbuff <;> trivial
  | rearm pass failed =>
      unfold rearmStep
      split <;> trivial

theorem called_step {act : Act} (ordered : Ordered before) (called : Called before)
    (taken : seenStep config before act = some after) : Called after := by
  have noted := (seen_cases taken).2
  rcases seen_kinds taken with beside | ⟨index, ok, rfl, moved⟩ | ⟨own, rfl, moved⟩
  · rw [Called, beside.history, beside.toSlave, beside.pc]
    exact called
  · obtain ⟨state, history⟩ := after
    dsimp only at moved noted
    subst noted
    cases putStep_puts moved with
    | fails => exact called
    | queues frame found =>
        rw [note, notePut, found]
        exact urgent_grows called fun _ => put_ne_nil
  · exact called_task ordered called moved noted

/-- What is to be said of the calls at any moment. `urgent` is about a call that has just
taken a frame, `found` about one that has just taken the semaphore. -/
structure Scheduled (seen : Seen) : Prop where
  order : ∀ prio, seen.2.queued prio =
    seen.2.emitted prio ++ (inHand seen.1.pc prio ++ seen.1.toSlave prio)
  urgent : ∀ pass frame, seen.1.pc = .formBuffer pass frame → ∀ level,
    seen.2.offered level ≠ [] → level ∈ lookedInto (prioOf frame.buf.ifType)
  tokens : seen.1.semToSlave ≤ size seen.1.toSlave
  found : ∀ pass prio, seen.1.pc = .dequeue pass prio →
    ∃ level ∈ lookedInto prio, seen.1.toSlave level ≠ []

theorem reached (run : Run (seenStep config) unguarded (init, blank) seen) :
    Ordered seen ∧ Called seen := by
  apply run.invariant
  · exact ⟨⟨nofun, fun _ => rfl⟩, trivial⟩
  · intro before act after prior inv _ taken
    have accepted := lens_reached prior.unwatched
    exact ⟨ordered_step inv.1 accepted taken, called_step inv.1 inv.2 taken⟩

theorem scheduled_reached (run : Run (seenStep config) unguarded (init, blank) seen) :
    Scheduled seen := by
  obtain ⟨ordered, called⟩ := reached run
  have inv := queueInv_reached run.unwatched
  refine ⟨ordered.accounts, ?_, ?_, ?_⟩
  · intro pass frame pc
    rw [Called, pc] at called
    exact called
  · have frames := inv.frames
    omega
  · intro pass prio pc
    have reach := inv.reach
    rw [pc] at reach
    exact reach

/-- Since `seen`: as long as a frame that was there is still to be emitted, a call that returns
has emitted one or began while some other call was between its put and its post. -/
structure Progress (seen later : Seen) : Prop where
  queued : ∀ prio, seen.2.queued prio <+: later.2.queued prio
  progress : (∀ prio, seen.2.queued prio <+: later.2.emitted prio) ∨
    later.2.returned + size seen.2.emitted + seen.2.stalled ≤
      size later.2.emitted + later.2.stalled + seen.2.returned

theorem progress_still (progress : Progress seen before) (queued : after.2.queued = before.2.queued)
    (emitted : after.2.emitted = before.2.emitted) (returned : after.2.returned = before.2.returned)
    (stalled : after.2.stalled = before.2.stalled) : Progress seen after where
  queued := by
    rw [queued]
    exact progress.queued
  progress := by
    rw [emitted, returned, stalled]
    exact progress.progress

/-- A call that finds the semaphore at zero. -/
theorem progress_refused {pass : Pass} (progress : Progress seen before) (ordered : Ordered before)
    (inv : QueueInv config before.1) (pc : before.1.pc = .getToSlaveSem pass)
    (none : ¬ 0 < before.1.semToSlave) (state : State) :
    Progress seen (state, noteTask before.1 before.2) := by
  have frames := inv.frames
  rw [pc, credit] at frames
  refine ⟨?_, ?_⟩
  · intro prio
    rw [noteTask_queued]
    exact progress.queued prio
  · simp only [noteTask, pc, none, if_false]
    by_cases waits : 0 < before.1.posting
    · rw [if_pos waits]
      rcases progress.progress with all | counted
      · exact Or.inl all
      · exact Or.inr (by omega)
    · -- nobody is between put and post, so that the queues are empty
      have empty : size before.1.toSlave = 0 := by omega
      refine Or.inl fun prio => ?_
      have nothing : pending before.1 prio = [] := by
        simp [pending, pc, inHand, size_zero_iff.mp empty prio]
      have all := ordered.accounts prio
      rw [nothing, List.append_nil] at all
      rw [← all]
      exact progress.queued prio

theorem progress_emits {pass : Pass} {frame : TxFrame} (progress : Progress seen before)
    (pc : before.1.pc = .formBuffer pass frame) (filled : frame.buf.payloadLen ≠ 0)
    (state : State) : Progress seen (state, noteTask before.1 before.2) := by
  refine ⟨?_, ?_⟩
  · intro prio
    rw [noteTask_queued]
    exact progress.queued prio
  · simp only [noteTask, pc, filled, if_false]
    rcases progress.progress with all | counted
    · exact Or.inl fun prio => (all prio).trans (prefix_put _ _ _ _)
    · rw [size_put]
      exact Or.inr (by omega)

theorem progress_task {act : TaskAct} (progress : Progress seen before) (ordered : Ordered before)
    (inv : QueueInv config before.1) (accepted : LensAccepted before.1)
    (taken : taskStep before.1 act = some after.1)
    (noted : after.2 = noteTask before.1 before.2) : Progress seen after := by
  obtain ⟨state, history⟩ := after
  dsimp only at taken noted
  subst noted
  cases taskStep_moves taken with
  | enter pc | handshake active pc | exchange rxDataReady pc | freeTx pass tx failed pc
  | repost handshake retry pc | dataReady handshake active pc | decide pass tx pc
  | transfer pass tx rxbuff put pc | rearm pass failed pc =>
      apply progress_still progress <;> simp only [noteTask, pc]
  | take pass pc positive =>
      apply progress_still progress <;> simp only [noteTask, pc, positive, if_true]
  | pass pass pc none => exact progress_refused progress ordered inv pc none _
  | dequeue pass prio pc =>
      have busy : ¬ (before.1.toSlave prio = [] ∧ nextPrio prio = none) := by
        rintro ⟨empty, last⟩
        have reach := inv.reach
        rw [pc] at reach
        obtain ⟨level, later, held⟩ := reach
        cases prio with
        | serial | bt => cases last
        | others =>
            rw [List.mem_singleton.mp later] at held
            exact held empty
      apply progress_still progress <;> simp only [noteTask, pc, busy, if_false]
  | form pass frame pc =>
      exact progress_emits progress pc (accepted_ne_zero (accepted.formed pass frame pc)) _

theorem progress_step {act : Act} (progress : Progress seen before) (ordered : Ordered before)
    (inv : QueueInv config before.1) (accepted : LensAccepted before.1)
    (taken : seenStep config before act = some after) : Progress seen after := by
  have noted := (seen_cases taken).2
  rcases seen_kinds taken with beside | ⟨index, ok, rfl, moved⟩ | ⟨own, rfl, moved⟩
  · apply progress_still progress <;> rw [beside.history]
  · cases ok with
    | false => apply progress_still progress <;> rw [noted] <;> rfl
    | true =>
        rw [note, notePut] at noted
        split at noted
        · refine ⟨fun prio => ?_, ?_⟩
          · rw [noted]
            exact (progress.queued prio).trans (prefix_put _ _ _ _)
          · rw [noted]
            exact progress.progress
        · apply progress_still progress <;> rw [noted]
  · exact progress_task progress ordered inv accepted moved noted

theorem progress_reached (run : Run (seenStep config) unguarded (init, blank) seen)
    (onward : Run (seenStep config) unguarded seen after) : Progress seen after := by
  apply onward.invariant
  · exact ⟨fun _ => List.prefix_refl _, Or.inr (by omega)⟩
  · intro before act after prior progress _ taken
    have whole := run.trans prior
    exact progress_step progress (reached whole).1 (queueInv_reached whole.unwatched)
      (lens_reached whole.unwatched) taken

/-- The calls returned since `seen`, without the stalled ones, are as many as the frames that
were still to be emitted then and those queued since. -/
def EnoughCalls (seen later : Seen) : Prop :=
  size later.2.queued + later.2.stalled + seen.2.returned ≤
    later.2.returned + size seen.2.emitted + seen.2.stalled

/-- At any moment each queue's frames are, in the order they were queued, those emitted, the
one in hand and those waiting; no call passes by a queue that had a frame when it began, nor
finds the semaphore and no frame; and after enough calls everything is emitted. -/
theorem tx_scheduled (config : Config) (seen later : Seen)
    (run : Run (seenStep config) unguarded (init, blank) seen)
    (onward : Run (seenStep config) unguarded seen later) :
    Scheduled later ∧
      (EnoughCalls seen later → ∀ prio, seen.2.queued prio <+: later.2.emitted prio) := by
  have whole := run.trans onward
  refine ⟨scheduled_reached whole, fun enough => ?_⟩
  have progress := progress_reached run onward
  rcases progress.progress with all | counted
  · exact all
  · have accounts := (reached whole).1.accounts
    have total := size_accounts accounts
    have empty : size (pending later.1) = 0 := by
      rw [EnoughCalls] at enough
      omega
    intro prio
    have all := accounts prio
    rw [size_zero_iff.mp empty prio, List.append_nil] at all
    rw [← all]
    exact progress.queued prio

def serialFrame : TxFrame where
  buf := { ifType := espSerialIf, ifNum := 0, payloadZcopy := false, payloadLen := 1, payload := [9] }
  wbuffer := some 42
  freeWbufFun := true

instance (seen later : Seen) : Decidable (EnoughCalls seen later) :=
  inferInstanceAs (Decidable (_ ≤ _))

theorem tx_scheduled_serial : ∃ seen later : Seen, seen.2.queued .serial = [serialFrame] ∧
    Scheduled later ∧ ∀ prio, seen.2.queued prio <+: later.2.emitted prio := by
  obtain ⟨seen, run, queued, reaches⟩ := exec_reaches (seenStep ⟨20, by decide⟩) (init, blank)
    (sent serialFrame)
    (fun seen => seen.2.queued .serial = [serialFrame] ∧
      ∃ later ∈ exec (seenStep ⟨20, by decide⟩) seen (framePass 1 (dummyFrame false)),
        EnoughCalls seen later) (by decide)
  obtain ⟨later, onward, enough⟩ := exec_reaches _ seen _ (EnoughCalls seen) reaches
  obtain ⟨scheduled, all⟩ := tx_scheduled ⟨20, by decide⟩ seen later run onward
  exact ⟨seen, later, queued, scheduled, all enough⟩

/-- Nothing to do for the task, and a call is between its put and its post. -/
structure Stuck (state : State) : Prop where
  pc : state.pc = .getReadySem
  semToSlave : state.semToSlave = 0
  readySem : state.readySem = 0
  posting : state.posting = 1
  pending : state.dataReadyPending = false
  dummyTx : state.scheduleDummyTx = false
  dummyRx : state.rx.scheduleDummyRx = false

instance (state : State) : Decidable (Stuck state) :=
  decidable_of_iff (state.pc = .getReadySem ∧ state.semToSlave = 0 ∧ state.readySem = 0 ∧
      state.posting = 1 ∧ state.dataReadyPending = false ∧ state.scheduleDummyTx = false ∧
      state.rx.scheduleDummyRx = false)
    ⟨fun ⟨pc, sem, ready, posting, pending, tx, rx⟩ => ⟨pc, sem, ready, posting, pending, tx, rx⟩,
      fun stuck => ⟨stuck.pc, stuck.semToSlave, stuck.readySem, stuck.posting, stuck.pending,
        stuck.dummyTx, stuck.dummyRx⟩⟩

/-- The handshake comes, the task looks, and finds no semaphore. -/
theorem stuck_round {state : State} (stuck : Stuck state) (history : History) :
    exec (seenStep config) (state, history) (.handshakeIsr :: idlePass) =
      some ({ state with handshakeInactive := false },
        { history with
          offered := state.toSlave
          returned := history.returned + 1
          stalled := history.stalled + 1 }) := by
  obtain ⟨toSlave, _, _, _, _, ⟨dummyRx, _, _, _⟩, putting, _, waking, _, _, handedIn, freed,
    transfers⟩ := state
  obtain ⟨rfl, rfl, rfl, rfl, rfl, rfl, rfl⟩ := stuck
  -- the idle transaction frees nothing
  conv_rhs => rw [← List.append_nil freed]
  rfl

/-- However many calls are made. -/
theorem stuck_rounds (calls : Nat) {seen : Seen} (stuck : Stuck seen.1) :
    ∃ later, Run (seenStep config) unguarded seen later ∧ Stuck later.1 ∧
      later.2.returned = seen.2.returned + calls ∧ later.2.emitted = seen.2.emitted := by
  induction calls with
  | zero => exact ⟨seen, .refl, stuck, rfl, rfl⟩
  | succ calls ih =>
      obtain ⟨later, run, still, returned, emitted⟩ := ih
      refine ⟨_, exec_run_from _ run (stuck_round still later.2), ?_, ?_, emitted⟩
      · exact ⟨still.pc, still.semToSlave, still.readySem, still.posting, still.pending,
          still.dummyTx, still.dummyRx⟩
      · rw [returned]
        rfl

/-- A serial frame that comes in while a call is on its way goes before the Bluetooth frame that
was there when the call began. And while a call of `esp_hosted_tx` has put its frame and not
yet posted the semaphore, the frame of a call that has returned `STM_OK` stays where it is,
however often `get_next_tx_buffer` is called. -/
theorem tx_not_scheduled :
    (∃ seen pass, Run (seenStep ⟨20, by decide⟩) unguarded (init, blank) seen ∧
      seen.2.offered .serial = [] ∧ seen.2.offered .bt = [hciByte] ∧
      seen.1.pc = .formBuffer pass serialFrame) ∧
    ∃ seen, Run (seenStep ⟨20, by decide⟩) unguarded (init, blank) seen ∧
      seen.2.queued .others = [networkFrame] ∧ seen.1.putting = [] ∧ seen.1.waking = 0 ∧
      ∀ calls, ∃ later, Run (seenStep ⟨20, by decide⟩) unguarded seen later ∧
        seen.2.returned + calls ≤ later.2.returned ∧ later.2.emitted .others = [] := by
  constructor
  · obtain ⟨seen, run, offered, queued, pc⟩ := exec_reaches (seenStep ⟨20, by decide⟩)
      (init, blank)
      (sent hciByte ++ passBegin false 1 ++ [.call true serialFrame, .put 0 true, .task .go,
        .task .go])
      (fun seen => seen.2.offered .serial = [] ∧ seen.2.offered .bt = [hciByte] ∧
        seen.1.pc = .formBuffer ⟨false, false⟩ serialFrame) (by decide)
    exact ⟨seen, _, run, offered, queued, pc⟩
  · obtain ⟨seen, run, queued, putting, waking, emitted, stuck⟩ := exec_reaches
      (seenStep ⟨20, by decide⟩) (init, blank)
      (sent networkFrame ++ [.call true serialFrame, .put 0 true] ++
        framePass 1 (dummyFrame false) ++ passBegin false 3 ++
        .task (.transfers (some (dummyFrame false)) true) :: List.replicate 3 (.task .go))
      (fun seen => seen.2.queued .others = [networkFrame] ∧ seen.1.putting = [] ∧
        seen.1.waking = 0 ∧ seen.2.emitted .others = [] ∧ Stuck seen.1) (by decide)
    refine ⟨seen, run, queued, putting, waking, fun calls => ?_⟩
    obtain ⟨later, onward, _, returned, same⟩ := stuck_rounds calls stuck
    exact ⟨later, onward, Nat.le_of_eq returned.symm, by rw [same, emitted]⟩

end EspHosted.TxScheduling

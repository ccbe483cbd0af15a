import EspHosted.GuardedRun
import EspHosted.QueueBank
import EspHosted.SlaveFrames

/-!
The queues of the slave towards the host. `send_to_host_queue` puts an item into the queue of
its class and then a token of the class into `meta_to_host_queue`, in front if it is a serial
one; `send_task` receives a token and then the item. Any number of tasks are in
`send_to_host_queue`, and a queue operation waits until it succeeds.
-/

namespace EspHosted.SlaveScheduler
open SlaveFrames QueueBank GuardedRun

/-- `TO_HOST_QUEUE_SIZE`. -/
structure Config where
  toHostQueueSize : Nat
  positive : 0 < toHostQueueSize

variable {Item : Type}

/-- Where `send_task` is. -/
inductive Pc (Item : Type) where
  | lookDatapath
  | receiveType
  | receiveItem (queueType : Prio)
  | processTxPkt (queueType : Prio) (bufHandle : Item)

structure State (Item : Type) where
  metaToHost : List Prio
  toHost : Prio → List Item
  /-- The calls that are about to send their item, and the classes of those that are about to
  send their token. -/
  sending : List (Prio × Item)
  announcing : List Prio
  pc : Pc Item
  /-- The items sent into a queue, and those that went through `process_tx_pkt`. -/
  accepted : Prio → List Item
  processed : Prio → List Item

def init : State Item where
  metaToHost := []
  toHost _ := []
  sending := []
  announcing := []
  pc := .lookDatapath
  accepted _ := []
  processed _ := []

inductive Act (Item : Type) where
  | call (queueType : Prio) (bufHandle : Item)
  | sendItem (index : Nat)
  | sendToken (index : Nat)
  /-- `send_task` looks at `datapath`, or goes on. -/
  | look (datapath : Bool)
  | go

variable (config : Config)

def metaQueueSize : Nat := config.toHostQueueSize * 3

def sendItemStep (state : State Item) (index : Nat) : Option (State Item) :=
  match state.sending[index]? with
  | none => none
  | some (queueType, bufHandle) =>
      if (state.toHost queueType).length < config.toHostQueueSize then
        some
          { state with
            toHost := put state.toHost queueType bufHandle
            sending := state.sending.eraseIdx index
            announcing := state.announcing ++ [queueType]
            accepted := put state.accepted queueType bufHandle }
      else none

/-- `xQueueSendToFront` for a serial token, else `xQueueSend`. -/
def sendType (queueType : Prio) (tokens : List Prio) : List Prio :=
  if queueType = .serial then queueType :: tokens else tokens ++ [queueType]

def sendTokenStep (state : State Item) (index : Nat) : Option (State Item) :=
  match state.announcing[index]? with
  | none => none
  | some queueType =>
      if state.metaToHost.length < metaQueueSize config then
        some
          { state with
            metaToHost := sendType queueType state.metaToHost
            announcing := state.announcing.eraseIdx index }
      else none

def goStep (state : State Item) : Option (State Item) :=
  match state.pc with
  | .lookDatapath => none
  | .receiveType =>
      match state.metaToHost with
      | [] => none
      | queueType :: rest => some { state with metaToHost := rest, pc := .receiveItem queueType }
  | .receiveItem queueType =>
      match state.toHost queueType with
      | [] => none
      | bufHandle :: rest =>
          some
            { state with
              toHost := Function.update state.toHost queueType rest
              pc := .processTxPkt queueType bufHandle }
  | .processTxPkt queueType bufHandle =>
      some
        { state with
          processed := put state.processed queueType bufHandle
          pc := .lookDatapath }

def lookStep (state : State Item) (datapath : Bool) : Option (State Item) :=
  match state.pc with
  | .lookDatapath => some { state with pc := if datapath then .receiveType else .lookDatapath }
  | .receiveType | .receiveItem _ | .processTxPkt _ _ => none

def step (state : State Item) : Act Item → Option (State Item)
  | .call queueType bufHandle =>
      some { state with sending := state.sending ++ [(queueType, bufHandle)] }
  | .sendItem index => sendItemStep config state index
  | .sendToken index => sendTokenStep config state index
  | .look datapath => lookStep state datapath
  | .go => goStep state

/-- What a step can be. -/
inductive Moves (before : State Item) : Act Item → State Item → Prop where
  | call (queueType : Prio) (bufHandle : Item) :
      Moves before (.call queueType bufHandle)
        { before with sending := before.sending ++ [(queueType, bufHandle)] }
  | item (index : Nat) (queueType : Prio) (bufHandle : Item)
      (found : before.sending[index]? = some (queueType, bufHandle))
      (room : (before.toHost queueType).length < config.toHostQueueSize) :
      Moves before (.sendItem index)
        { before with
          toHost := put before.toHost queueType bufHandle
          sending := before.sending.eraseIdx index
          announcing := before.announcing ++ [queueType]
          accepted := put before.accepted queueType bufHandle }
  | token (index : Nat) (queueType : Prio) (found : before.announcing[index]? = some queueType)
      (room : before.metaToHost.length < metaQueueSize config) :
      Moves before (.sendToken index)
        { before with
          metaToHost := sendType queueType before.metaToHost
          announcing := before.announcing.eraseIdx index }
  | look (datapath : Bool) (pc : before.pc = .lookDatapath) :
      Moves before (.look datapath)
        { before with pc := if datapath then .receiveType else .lookDatapath }
  | type (queueType : Prio) (rest : List Prio) (pc : before.pc = .receiveType)
      (tokens : before.metaToHost = queueType :: rest) :
      Moves before .go { before with metaToHost := rest, pc := .receiveItem queueType }
  | take (queueType : Prio) (bufHandle : Item) (rest : List Item)
      (pc : before.pc = .receiveItem queueType) (queued : before.toHost queueType = bufHandle :: rest) :
      Moves before .go
        { before with
          toHost := Function.update before.toHost queueType rest
          pc := .processTxPkt queueType bufHandle }
  | process (queueType : Prio) (bufHandle : Item) (pc : before.pc = .processTxPkt queueType bufHandle) :
      Moves before .go
        { before with
          processed := put before.processed queueType bufHandle
          pc := .lookDatapath }

section Steps
variable {config} {before after state : State Item}

theorem step_moves {act : Act Item} (taken : step config before act = some after) :
    Moves config before act after := by
  cases act with
  | call queueType bufHandle =>
      cases taken
      exact .call queueType bufHandle
  | sendItem index =>
      rw [step, sendItemStep] at taken
      split at taken
      · cases taken
      · rename_i queueType bufHandle found
        split at taken
        · rename_i room
          cases taken
          exact .item index queueType bufHandle found room
        · cases taken
  | sendToken index =>
      rw [step, sendTokenStep] at taken
      split at taken
      · cases taken
      · rename_i queueType found
        split at taken
        · rename_i room
          cases taken
          exact .token index queueType found room
        · cases taken
  | look datapath =>
      rw [step, lookStep] at taken
      split at taken
      · rename_i pc
        cases taken
        exact .look datapath pc
      all_goals cases taken
  | go =>
      rw [step, goStep] at taken
      split at taken
      · cases taken
      · rename_i pc
        split at taken
        · cases taken
        · rename_i queueType rest tokens
          cases taken
          exact .type queueType rest pc tokens
      · rename_i queueType pc
        split at taken
        · cases taken
        · rename_i bufHandle rest queued
          cases taken
          exact .take queueType bufHandle rest pc queued
      · rename_i queueType bufHandle pc
        cases taken
        exact .process queueType bufHandle pc

/-- The class `send_task` has a token of and no item yet. -/
def tokenHeld : Pc Item → Prio → Nat
  | .receiveItem queueType, prio => if queueType = prio then 1 else 0
  | .lookDatapath, _ | .receiveType, _ | .processTxPkt _ _, _ => 0

def inHand : Pc Item → Prio → List Item
  | .processTxPkt queueType bufHandle, prio => if queueType = prio then [bufHandle] else []
  | .lookDatapath, _ | .receiveType, _ | .receiveItem _, _ => []

def pending (state : State Item) (prio : Prio) : List Item :=
  inHand state.pc prio ++ state.toHost prio

/-- Each item has its token in the queue, in the hands of `send_task`, or with the call that
has yet to send it. -/
structure Inv (state : State Item) : Prop where
  tokens : ∀ prio, (state.toHost prio).length =
    state.metaToHost.count prio + state.announcing.count prio + tokenHeld state.pc prio
  order : Accounts state.accepted state.processed (pending state)

theorem count_sendType (queueType prio : Prio) (tokens : List Prio) :
    (sendType queueType tokens).count prio =
      tokens.count prio + if queueType = prio then 1 else 0 := by
  rw [sendType]
  split
  · rw [List.count_cons]
    simp
  · rw [List.count_append, List.count_singleton]
    simp

theorem tokens_step {act : Act Item} (inv : Inv before) (moves : Moves config before act after)
    (prio : Prio) : (after.toHost prio).length =
      after.metaToHost.count prio + after.announcing.count prio + tokenHeld after.pc prio := by
  have tokens := inv.tokens prio
  cases moves with
  | call queueType bufHandle => exact tokens
  | item index queueType bufHandle found room =>
      simp only [length_put, List.count_append, List.count_singleton, beq_iff_eq]
      omega
  | token index queueType found room =>
      have erased := countP_eraseIdx found (· == prio)
      simp only [← List.count_eq_countP, beq_iff_eq] at erased
      simp only [count_sendType]
      omega
  | look datapath pc =>
      rw [pc] at tokens
      cases datapath <;> exact tokens
  | type queueType rest pc held =>
      rw [pc, held, List.count_cons] at tokens
      simp only [tokenHeld, beq_iff_eq] at tokens ⊢
      omega
  | take queueType bufHandle rest pc queued =>
      have shorter := @length_get _ _ _ _ _ prio _ _ queued
      rw [pc] at tokens
      simp only [tokenHeld] at tokens ⊢
      omega
  | process queueType bufHandle pc =>
      rw [pc] at tokens
      exact tokens

theorem order_step {act : Act Item} (inv : Inv before) (moves : Moves config before act after) :
    Accounts after.accepted after.processed (pending after) := by
  have order := inv.order
  cases moves with
  | call | token => exact order
  | item index queueType bufHandle =>
      intro prio
      refine (accounts_put order prio).trans (congrArg (before.processed prio ++ ·) ?_)
      by_cases same : prio = queueType
      · subst same
        simp [pending, put]
      · simp [pending, put, Function.update_of_ne same]
  | look datapath pc =>
      intro prio
      refine (order prio).trans (congrArg (before.processed prio ++ ·) ?_)
      cases datapath <;> simp [pending, pc, inHand]
  | type queueType rest pc =>
      intro prio
      refine (order prio).trans (congrArg (before.processed prio ++ ·) ?_)
      simp [pending, pc, inHand]
  | take queueType bufHandle rest pc queued =>
      intro prio
      refine (order prio).trans (congrArg (before.processed prio ++ ·) ?_)
      by_cases same : prio = queueType
      · subst same
        simp [pending, pc, inHand, queued]
      · simp [pending, pc, inHand, Function.update_of_ne same, Ne.symm same]
  | process queueType bufHandle pc =>
      have held : pending before queueType = bufHandle :: before.toHost queueType := by
        simp [pending, pc, inHand]
      intro prio
      refine (accounts_get order held prio).trans (congrArg (_ ++ ·) ?_)
      by_cases same : prio = queueType
      · subst same
        simp [pending, inHand]
      · simp [pending, pc, inHand, Function.update_of_ne same, Ne.symm same]

theorem inv_reached (run : Run (step config) unguarded init state) : Inv state := by
  apply run.invariant
  · exact ⟨fun prio => rfl, fun prio => rfl⟩
  · intro before act after _ inv _ taken
    have moves := step_moves taken
    exact ⟨tokens_step inv moves, order_step inv moves⟩

/-- Neither a new call nor a look at a closed data path. -/
def Onward (_ : State Item) : Act Item → Prop
  | .call _ _ | .look false => False
  | .sendItem _ | .sendToken _ | .look true | .go => True

/-- How many steps are left to do. -/
def work (state : State Item) : Nat :=
  6 * state.sending.length + 5 * state.announcing.length + 4 * state.metaToHost.length +
    match state.pc with
    | .lookDatapath => 1
    | .receiveType => 0
    | .receiveItem _ => 3
    | .processTxPkt _ _ => 2

theorem work_decreases {act : Act Item} (onward : Onward before act)
    (moves : Moves config before act after) : work after < work before := by
  cases moves with
  | call => exact onward.elim
  | item index queueType bufHandle found =>
      have shorter := List.length_eraseIdx_of_lt (List.getElem?_eq_some_iff.mp found).1
      have some_call := (List.getElem?_eq_some_iff.mp found).1
      simp only [work, List.length_append, List.length_singleton]
      omega
  | token index queueType found =>
      have shorter := List.length_eraseIdx_of_lt (List.getElem?_eq_some_iff.mp found).1
      have some_call := (List.getElem?_eq_some_iff.mp found).1
      have longer : (sendType queueType before.metaToHost).length = before.metaToHost.length + 1 := by
        rw [sendType]
        split <;> simp
      simp only [work]
      omega
  | look datapath pc =>
      cases datapath with
      | false => exact onward.elim
      | true =>
          simp only [work, pc, if_true]
          omega
  | type queueType rest pc held =>
      simp only [work, pc, held, List.length_cons]
      omega
  | take queueType bufHandle rest pc =>
      simp only [work, pc]
      omega
  | process queueType bufHandle pc =>
      simp only [work, pc]
      omega

/-- No step is left but a new call or a look at a closed data path. -/
def Halted (config : Config) (state : State Item) : Prop :=
  ∀ act, Onward state act → step config state act = none

/-- Once nothing can go on, every call has returned and everything is processed. -/
theorem halted_done (inv : Inv state) (halted : Halted config state) :
    state.sending = [] ∧ state.announcing = [] ∧
      ∀ prio, state.processed prio = state.accepted prio := by
  have waits : state.pc = .receiveType ∧ state.metaToHost = [] := by
    have look := halted (.look true) trivial
    have go := halted .go trivial
    cases pc : state.pc with
    | lookDatapath => simp [step, lookStep, pc] at look
    | receiveType =>
        cases tokens : state.metaToHost with
        | nil => exact ⟨rfl, rfl⟩
        | cons queueType rest => simp [step, goStep, pc, tokens] at go
    | receiveItem queueType =>
        have tokens := inv.tokens queueType
        cases queued : state.toHost queueType with
        | nil => simp [pc, tokenHeld, queued] at tokens
        | cons bufHandle rest => simp [step, goStep, pc, queued] at go
    | processTxPkt queueType bufHandle => simp [step, goStep, pc] at go
  have positive := config.positive
  have announcing : state.announcing = [] := by
    cases classes : state.announcing with
    | nil => rfl
    | cons queueType rest =>
        have sends := halted (.sendToken 0) trivial
        have room : 0 < metaQueueSize config := Nat.mul_pos positive (by decide)
        simp [step, sendTokenStep, classes, waits.2, room] at sends
  have empty : ∀ prio, state.toHost prio = [] := by
    intro prio
    have tokens := inv.tokens prio
    rw [waits.1, waits.2, announcing] at tokens
    exact List.length_eq_zero_iff.mp tokens
  refine ⟨?_, announcing, fun prio => ?_⟩
  · cases calls : state.sending with
    | nil => rfl
    | cons call rest =>
        have sends := halted (.sendItem 0) trivial
        simp [step, sendItemStep, calls, empty, positive] at sends
  · have order := inv.order prio
    simp only [pending, waits.1, inHand, empty prio, List.append_nil] at order
    exact order.symm

/-- What is to be said of the queues at any moment. -/
structure Scheduled (config : Config) (state : State Item) : Prop where
  tokens : ∀ prio, state.metaToHost.count prio ≤ (state.toHost prio).length
  found : ∀ queueType, state.pc = .receiveItem queueType → state.toHost queueType ≠ []
  order : ∀ prio, state.accepted prio =
    state.processed prio ++ (inHand state.pc prio ++ state.toHost prio)
  drains : ∀ acts later, Admits (step config) Onward state acts →
    exec (step config) state acts = some later → acts.length ≤ work state ∧
      (Halted config later → later.sending = [] ∧ later.announcing = [] ∧
        ∀ prio, later.processed prio = later.accepted prio)

end Steps

/-- A class never has more tokens than items, `send_task` finds the item of each token, the
items of a class are processed once each and in their order, and without new calls all calls
return and all items are processed after at most `work` steps, whatever their order. -/
theorem slave_scheduled (config : Config) (state : State Item)
    (run : Run (step config) unguarded init state) : Scheduled config state := by
  have inv := inv_reached run
  refine ⟨?_, ?_, inv.order, ?_⟩
  · intro prio
    have tokens := inv.tokens prio
    omega
  · intro queueType pc empty
    have tokens := inv.tokens queueType
    simp [pc, tokenHeld, empty] at tokens
  · intro acts later admitted result
    have short := admitted_length work
      (fun before act after (_ : True) onward taken =>
        ⟨trivial, work_decreases onward (step_moves taken)⟩) acts trivial admitted result
    have reached := inv_reached (exec_run_from acts run result)
    exact ⟨by omega, halted_done reached⟩

/-- A serial and a Bluetooth item, from their calls to the end of the first. -/
theorem slave_scheduled_two : ∃ state : State Nat, state.processed .serial = [7] ∧
    state.processed .bt = [] ∧ Scheduled ⟨20, by decide⟩ state := by
  obtain ⟨state, run, serial, bt⟩ := exec_reaches (step ⟨20, by decide⟩) (init : State Nat)
    [.call .bt 5, .call .serial 7, .sendItem 0, .sendToken 0, .sendItem 0, .sendToken 0,
      .look true, .go, .go, .go]
    (fun state => state.processed .serial = [7] ∧ state.processed .bt = []) (by decide)
  exact ⟨state, serial, bt, slave_scheduled ⟨20, by decide⟩ state run⟩

end EspHosted.SlaveScheduler

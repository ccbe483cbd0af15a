import EspHosted.GuardedRun

/-!
Transmit credits of the slave over half-duplex SPI. `mempool_tx_sem` counts the transactions the
driver has room for: `esp_spi_hd_write` takes a credit before it allocates a buffer and queues
it, and `spi_hd_tx_done_task` gives it back when the transaction is done.
-/

namespace EspHosted.SlaveCredits
open GuardedRun

inductive InterfaceState where
  | deinit
  | init
  | active
  | deactive
  deriving DecidableEq

/-- `interface_buffer_handle_t`; `payload` says whether it points anywhere. -/
structure BufHandle where
  payload : Bool
  payloadLen : UInt16
  wifiFlowCtrlEn : UInt8

/-- The arguments of a call, none where a pointer is NULL. -/
structure Write where
  handle : Option InterfaceState
  bufHandle : Option BufHandle

def sizeofEspPayloadHeader : Nat := 12

/-- The checks at the head of `esp_spi_hd_write`, and `total_len` behind them. -/
def Write.totalLen (write : Write) : Option Nat :=
  match write.handle, write.bufHandle with
  | some handle, some buf =>
      if handle ≠ .active then none
      else if buf.wifiFlowCtrlEn = 0 ∧ (buf.payloadLen = 0 ∨ buf.payload = false) then none
      else some (buf.payloadLen.toNat + sizeofEspPayloadHeader)
  | _, _ => none

/-- Calls and transactions go by their `total_len`. -/
structure State where
  mempoolTxSem : Nat
  /-- Calls that wait for a credit, that have one, and that have filled a transaction. -/
  waiting : List Nat
  holding : List Nat
  filled : List Nat
  /-- Transactions with the driver. -/
  queued : List Nat
  /-- A transaction that could not be allocated was written to. -/
  crashed : Bool
  deriving DecidableEq

inductive Act where
  | call (write : Write)
  | take (index : Nat)
  /-- Whether the buffer and the transaction can be allocated. -/
  | fill (index : Nat) (buffer trx : Bool)
  | queueTrans (index : Nat) (ok : Bool)
  | txDone (ok : Bool)

/-- `size` is `SPI_HD_QUEUE_SIZE`. -/
def init (size : Nat) : State where
  mempoolTxSem := size
  waiting := []
  holding := []
  filled := []
  queued := []
  crashed := false

/-- `xSemaphoreGive`: the count does not pass its maximum. -/
def give (size sem : Nat) : Nat := if sem < size then sem + 1 else sem

def enabled (size : Nat) (state : State) : Act → Option State
  | .call write =>
      match write.totalLen with
      | none => some state
      | some len => some { state with waiting := state.waiting ++ [len] }
  | .take index =>
      match state.waiting[index]? with
      | none => none
      | some len =>
          if state.mempoolTxSem = 0 then none
          else
            some
              { state with
                mempoolTxSem := state.mempoolTxSem - 1
                waiting := state.waiting.eraseIdx index
                holding := state.holding ++ [len] }
  | .fill index buffer trx =>
      match state.holding[index]? with
      | none => none
      | some len =>
          -- Out of buffers the call returns; the credit it has taken stays taken.
          if buffer = false then some { state with holding := state.holding.eraseIdx index }
          else if trx = false then some { state with crashed := true }
          else
            some
              { state with
                holding := state.holding.eraseIdx index
                filled := state.filled ++ [len] }
  | .queueTrans index ok =>
      match state.filled[index]? with
      | none => none
      | some len =>
          if ok then
            some
              { state with
                filled := state.filled.eraseIdx index
                queued := state.queued ++ [len] }
          else some { state with filled := state.filled.eraseIdx index }
  | .txDone ok =>
      if ok then
        match state.queued with
        | [] => none
        | _ :: rest =>
            some { state with mempoolTxSem := give size state.mempoolTxSem, queued := rest }
      else some state

def step (size : Nat) (state : State) (act : Act) : Option State :=
  if state.crashed then none else enabled size state act

def State.calls (state : State) : Nat :=
  state.waiting.length + state.holding.length + state.filled.length

/-- The credits there are, in the semaphore, with a call or with the driver. -/
def State.worth (state : State) : Nat :=
  state.mempoolTxSem + state.holding.length + state.filled.length + state.queued.length

/-- The step neither runs out of buffers nor is refused by the driver. -/
def Succeeds : Act → Prop
  | .fill _ buffer _ => buffer = true
  | .queueTrans _ ok => ok = true
  | .call _ | .take _ | .txDone _ => True

/-- What a step loses of the credits. -/
def cost : Act → Nat
  | .fill _ buffer _ => if buffer then 0 else 1
  | .queueTrans _ ok => if ok then 0 else 1
  | .call _ | .take _ | .txDone _ => 0

theorem cost_eq_zero (act : Act) : cost act = 0 ↔ Succeeds act := by
  cases act with
  | fill _ buffer _ => cases buffer <;> simp [cost, Succeeds]
  | queueTrans _ ok => cases ok <;> simp [cost, Succeeds]
  | call _ => simp [cost, Succeeds]
  | take _ => simp [cost, Succeeds]
  | txDone _ => simp [cost, Succeeds]

theorem nothing_lost (acts : List Act) :
    costs cost acts = 0 ↔ ∀ act ∈ acts, Succeeds act := by
  rw [costs_eq_zero]
  exact forall₂_congr fun act _ => cost_eq_zero act

variable {size : Nat} {before after : State}

theorem length_eraseIdx_add {list : List Nat} {index len : Nat} (here : list[index]? = some len) :
    (list.eraseIdx index).length + 1 = list.length := by
  obtain ⟨below, _⟩ := List.getElem?_eq_some_iff.mp here
  rw [List.length_eraseIdx_of_lt below]
  omega

theorem length_append_one (list : List Nat) (len : Nat) :
    (list ++ [len]).length = list.length + 1 := by
  rw [List.length_append, List.length_singleton]

theorem take_spends {index : Nat} (taken : enabled size before (.take index) = some after) :
    after.worth = before.worth := by
  simp only [enabled] at taken
  split at taken
  · cases taken
  · rename_i len here
    split at taken
    · cases taken
    · rename_i positive
      cases taken
      simp only [State.worth, length_append_one]
      omega

theorem fill_spends {index : Nat} {buffer trx : Bool}
    (taken : enabled size before (.fill index buffer trx) = some after) :
    after.worth + cost (.fill index buffer trx) = before.worth := by
  simp only [enabled] at taken
  split at taken
  · cases taken
  · rename_i len here
    have removed := length_eraseIdx_add here
    split at taken
    · rename_i refused
      cases taken
      have lost : cost (.fill index buffer trx) = 1 := if_neg (Bool.not_eq_true _ ▸ refused)
      rw [lost]
      simp only [State.worth]
      omega
    · rename_i got
      have paid : cost (.fill index buffer trx) = 0 := if_pos (Bool.not_eq_false _ ▸ got)
      rw [paid, Nat.add_zero]
      split at taken
      · cases taken
        rfl
      · cases taken
        simp only [State.worth, length_append_one]
        omega

theorem queueTrans_spends {index : Nat} {ok : Bool}
    (taken : enabled size before (.queueTrans index ok) = some after) :
    after.worth + cost (.queueTrans index ok) = before.worth := by
  simp only [enabled] at taken
  split at taken
  · cases taken
  · rename_i len here
    have removed := length_eraseIdx_add here
    split at taken
    · rename_i queued
      cases taken
      simp only [State.worth, cost, queued, if_true, length_append_one]
      omega
    · rename_i refused
      cases taken
      have lost : cost (.queueTrans index ok) = 1 := if_neg refused
      rw [lost]
      simp only [State.worth]
      omega

theorem txDone_spends {ok : Bool} (within : before.worth ≤ size)
    (taken : enabled size before (.txDone ok) = some after) : after.worth = before.worth := by
  simp only [enabled] at taken
  split at taken
  · split at taken
    · cases taken
    · rename_i first rest queued
      cases taken
      -- A transaction with the driver holds a credit, so that the semaphore is not full.
      simp only [State.worth, queued, List.length_cons] at within ⊢
      rw [give, if_pos (by omega)]
      omega
  · cases taken
    rfl

theorem step_spends (act : Act) (within : before.worth ≤ size)
    (taken : step size before act = some after) : after.worth + cost act = before.worth := by
  unfold step at taken
  split at taken
  · cases taken
  · cases act with
    | call write =>
        simp only [enabled] at taken
        split at taken <;> cases taken <;> rfl
    | take index => exact take_spends taken
    | fill index buffer trx => exact fill_spends taken
    | queueTrans index ok => exact queueTrans_spends taken
    | txDone ok => exact txDone_spends within taken

/-- The credits there are and those that were lost are the size of the queue. -/
theorem ledger (acts : List Act) (result : exec (step size) (init size) acts = some after) :
    after.worth + costs cost acts = size := by
  have start : (init size).worth = size := rfl
  have spent := exec_spends State.worth cost size
    (fun _ act _ within taken => step_spends act within taken) acts (Nat.le_of_eq start) result
  rw [spent, start]

/-- When no call is in progress the credits are whole exactly if no call has failed for want of
a buffer or at the driver; while none has, a writer that finds no credit waits for one that a
call or the driver has. -/
theorem credits_kept (size : Nat) (acts : List Act) (state : State)
    (result : exec (step size) (init size) acts = some state) :
    (state.calls = 0 →
      (state.mempoolTxSem + state.queued.length = size ↔ ∀ act ∈ acts, Succeeds act)) ∧
      ((∀ act ∈ acts, Succeeds act) → 0 < size → state.mempoolTxSem = 0 →
        0 < state.holding.length + state.filled.length + state.queued.length) := by
  have total := ledger acts result
  simp only [State.worth] at total
  rw [← nothing_lost]
  refine ⟨?_, ?_⟩
  · intro quiet
    simp only [State.calls] at quiet
    constructor
    · intro whole
      omega
    · intro kept
      omega
  · intro kept positive none_left
    omega

def aWrite : Write where
  handle := some .active
  bufHandle := some ⟨true, 100, 0⟩

def written : List Act :=
  [.call aWrite, .take 0, .call aWrite, .fill 0 true true, .take 0, .queueTrans 0 true,
    .fill 0 true true, .queueTrans 0 true, .txDone true, .txDone false]

instance : (act : Act) → Decidable (Succeeds act)
  | .fill _ buffer _ => inferInstanceAs (Decidable (buffer = true))
  | .queueTrans _ ok => inferInstanceAs (Decidable (ok = true))
  | .call _ | .take _ | .txDone _ => .isTrue trivial

/-- Two writes, one of them done and one with the driver. -/
theorem credits_kept_written :
    ∃ state, exec (step 10) (init 10) written = some state ∧ state.queued = [112] ∧
      state.mempoolTxSem + state.queued.length = 10 :=
  ⟨_, rfl, rfl, ((credits_kept 10 written _ rfl).1 rfl).mpr (by decide)⟩

/-- A semaphore without a credit, and none with a call or with the driver. -/
structure Starved (state : State) : Prop where
  sem : state.mempoolTxSem = 0
  holding : state.holding = []
  filled : state.filled = []
  queued : state.queued = []

theorem starved_step {act : Act} (starved : Starved before)
    (taken : step size before act = some after) : Starved after := by
  obtain ⟨sem, holding, filled, queued⟩ := starved
  unfold step at taken
  split at taken
  · cases taken
  · cases act with
    | call write =>
        simp only [enabled] at taken
        split at taken <;> cases taken <;> exact ⟨sem, holding, filled, queued⟩
    | take index =>
        simp only [enabled, sem, if_true] at taken
        split at taken <;> cases taken
    | fill index buffer trx =>
        simp only [enabled, holding, List.getElem?_nil] at taken
        cases taken
    | queueTrans index ok =>
        simp only [enabled, filled, List.getElem?_nil] at taken
        cases taken
    | txDone ok =>
        simp only [enabled, queued] at taken
        split at taken <;> cases taken
        exact ⟨sem, holding, filled, queued⟩

/-- No writer gets past the semaphore again. -/
theorem starved_run {guard : State → Act → Prop} (starved : Starved before)
    (run : Run (step size) guard before after) : Starved after :=
  run.invariant starved fun _ _ _ _ starved _ taken => starved_step starved taken

/-- A write that takes a credit and finds no buffer. -/
def failing : List Act := [.call aWrite, .take 0, .fill 0 false true]

theorem failing_spends (left : Nat) :
    exec (step size) (init (left + 1)) failing = some (init left) := rfl

/-- As many failing writes as there are credits. -/
theorem failing_starves (size left : Nat) :
    exec (step size) (init left) (List.replicate left failing).flatten = some (init 0) := by
  induction left with
  | zero => rfl
  | succ left ih =>
      rw [List.replicate_succ, List.flatten_cons, exec_append, failing_spends]
      exact ih

/-- With a queue of 20, twenty writes that find no buffer leave no credit; no writer ever gets
one from there. -/
theorem credits_kept_fails :
    ∃ state, exec (step 20) (init 20) (List.replicate 20 failing).flatten = some state ∧
      state.calls = 0 ∧ state.mempoolTxSem + state.queued.length = 0 ∧
      ∀ guard later, Run (step 20) guard state later →
        later.mempoolTxSem = 0 ∧ later.holding = [] := by
  refine ⟨init 0, failing_starves 20 20, rfl, rfl, ?_⟩
  intro guard later run
  have starved : Starved (init 0) := ⟨rfl, rfl, rfl, rfl⟩
  have still := starved_run starved run
  exact ⟨still.sem, still.holding⟩

end EspHosted.SlaveCredits

import EspHosted.GuardedRun
import EspHosted.HostWakeup
import EspHosted.TxFrames

/-!
The write tasks of the UART, SDIO and SPI-HD drivers beside the calls of `esp_hosted_tx`. A call
posts the semaphore even when its put failed, so that the task may wake up and find the three
queues empty. Its `len`, `buf_handle` and `tx_needed` live on from one iteration to the next, and
nothing sets `tx_needed` again.
-/

namespace EspHosted.WriteTasks
open SpiFrames HostFrames SlaveFrames RxPackets QueueBank TxFrames GuardedRun
open SpiDriver (TxFrame endingLen)
open HostWakeup (lookedInto)

def espBlockSize : Nat := 512

/-- One of the drivers. With `credits` it looks for room at the slave before it writes;
`blockOnly` is `H_SDIO_TX_BLOCK_ONLY_XFER`; `semMax` is what the semaphore counts to. -/
structure Driver where
  config : RxConfig
  credits : Bool
  maxWriteRetries : Nat
  blockOnly : Bool
  semMax : Nat

def uart (checksum : Bool) (semMax : Nat) : Driver :=
  ⟨uartConfig checksum, false, 1, false, semMax⟩
def sdio (checksum blockOnly : Bool) (semMax : Nat) : Driver :=
  ⟨sdioConfig checksum, true, 2, blockOnly, semMax⟩
def spiHd (checksum : Bool) (semMax : Nat) : Driver :=
  ⟨spiHdConfig checksum, true, 1, false, semMax⟩

/-- What an iteration meets: room at the slave or none, and how each write turns out. -/
structure Bus where
  available : Bool
  writes : Nat → Bool

/-- A write: what the bus is given, and the length of the frame in it. -/
structure Attempt where
  bytes : List UInt8
  dataLeft : Nat
  ok : Bool

/-- With `blockOnly` the transfer is extended to whole blocks; the slave reads `dataLeft`. -/
def transferLen (driver : Driver) (dataLeft : Nat) : Nat :=
  if driver.blockOnly then (dataLeft + espBlockSize - 1) / espBlockSize * espBlockSize else dataLeft

def attempt (driver : Driver) (formed : Formed) (ok : Bool) : Attempt :=
  let dataLeft := payloadHeaderSize + formed.len.toNat
  ⟨formed.sendbuf.take (transferLen driver dataLeft), dataLeft, ok⟩

def writeLoop (driver : Driver) (formed : Formed) (writes : Nat → Bool) : Nat → List Attempt
  | 0 => []
  | retriesLeft + 1 =>
      if writes retriesLeft then [attempt driver formed true]
      else attempt driver formed false :: writeLoop driver formed writes retriesLeft

def write (driver : Driver) (formed : Formed) (bus : Bus) : List Attempt :=
  if driver.credits && !bus.available then []
  else writeLoop driver formed bus.writes driver.maxWriteRetries

/-- The locals that live across iterations. -/
structure Locals where
  len : UInt16
  txNeeded : Bool
  bufHandle : TxFrame

def emptyHandle : TxFrame where
  buf := { ifType := 0, ifNum := 0, payloadZcopy := false, payloadLen := 0, payload := [] }
  wbuffer := none
  freeWbufFun := false

/-- What an iteration does behind its looks into the queues. -/
structure Turn where
  locals : Locals
  attempts : List Attempt
  freed : List Nat

/-- `H_FREE_PTR_WITH_FUNC` clears the pointer, and not the function. -/
def released (handle : TxFrame) : TxFrame :=
  if handle.freeWbufFun then { handle with wbuffer := none } else handle

/-- The label `done`. Without a copy, `sendbuf` is the payload, and the handle keeps it. -/
def done (locals : Locals) (attempts : List Attempt) : Turn :=
  if locals.bufHandle.buf.payloadZcopy then ⟨locals, attempts, locals.bufHandle.free⟩
  else if locals.len = 0 then ⟨locals, attempts, []⟩
  else ⟨{ locals with bufHandle := released locals.bufHandle }, attempts, locals.bufHandle.free⟩

/-- `memory` is what stands where `buf_handle.payload` points. -/
def turn (driver : Driver) (before : Locals) (bus : Bus) (memory : List UInt8) : Turn :=
  let handle := before.bufHandle
  let len := if before.txNeeded then handle.buf.payloadLen else before.len
  let locals := { before with len := len }
  -- Empty len
  if len = 0 then ⟨locals, [], []⟩
  -- no sendbuf
  else if handle.buf.payloadZcopy ∧ handle.wbuffer = none then ⟨locals, [], []⟩
  else if handle.buf.payloadLen.toNat > driver.config.bufferSize - payloadHeaderSize then
    done locals []
  else
    let formed := formFrame driver.config handle.buf len memory
    done { locals with len := formed.len } (write driver formed bus)

/-- A message with its number among those that were queued. -/
structure Numbered (config : RxConfig) where
  number : Nat
  message : Message config

/-- An iteration: what it found in the queues, and what it wrote. `behind` follows the payload of
a message in memory. -/
structure Round (config : RxConfig) where
  found : Option (Numbered config)
  bus : Bus
  behind : List UInt8
  attempts : List Attempt

inductive Pc (config : RxConfig) where
  | idle
  | dequeue (prio : Prio)
  | send (found : Option (Numbered config))

/-- `posting` are the calls between their put and their post. `queued` and `rounds` record the
run. -/
structure State (driver : Driver) where
  toSlave : Prio → List (Numbered driver.config)
  semToSlave : Nat
  posting : Nat
  pc : Pc driver.config
  locals : Locals
  freed : List Nat
  queued : List (Message driver.config)
  rounds : List (Round driver.config)

def init (driver : Driver) : State driver where
  toSlave _ := []
  semToSlave := 0
  posting := 0
  pc := .idle
  locals := { len := 0, txNeeded := true, bufHandle := emptyHandle }
  freed := []
  queued := []
  rounds := []

/-- The payload of a message has not been freed; behind it, and where the handle is an old one,
`memory` is anything. -/
inductive Act where
  | call (request : Request) (transportUp put : Bool)
  | post
  | wake
  | dequeue
  | send (bus : Bus) (memory : List UInt8)

variable {driver : Driver}

def callStep (state : State driver) (request : Request) (transportUp ok : Bool) : State driver :=
  match espHostedTx driver.config transportUp request with
  | none => { state with freed := state.freed ++ request.frame.free }
  | some message =>
      -- the result of the put is not looked at
      if ok then
        { state with
          toSlave :=
            put state.toSlave (prioOf message.frame.buf.ifType) ⟨state.queued.length, message⟩
          queued := state.queued ++ [message]
          posting := state.posting + 1 }
      else { state with posting := state.posting + 1 }

def postStep (state : State driver) : Option (State driver) :=
  if 0 < state.posting then
    some
      { state with
        semToSlave := post driver.semMax state.semToSlave
        posting := state.posting - 1 }
  else none

def wakeStep (state : State driver) : Option (State driver) :=
  match state.pc with
  | .idle =>
      if 0 < state.semToSlave then
        some { state with semToSlave := state.semToSlave - 1, pc := .dequeue .serial }
      else none
  | .dequeue _ | .send _ => none

def dequeueStep (state : State driver) : Option (State driver) :=
  match state.pc with
  | .dequeue prio =>
      match state.toSlave prio with
      | item :: rest =>
          some
            { state with
              toSlave := Function.update state.toSlave prio rest
              locals := { state.locals with bufHandle := item.message.frame }
              pc := .send (some item) }
      | [] =>
          match nextPrio prio with
          | some next => some { state with pc := .dequeue next }
          -- No Tx msg
          | none =>
              some { state with locals := { state.locals with txNeeded := false }, pc := .send none }
  | .idle | .send _ => none

def memoryAt (found : Option (Numbered driver.config)) (memory : List UInt8) : List UInt8 :=
  match found with
  | some item => item.message.frame.buf.payload ++ memory
  | none => memory

def sendStep (state : State driver) (bus : Bus) (memory : List UInt8) : Option (State driver) :=
  match state.pc with
  | .send found =>
      let turn := turn driver state.locals bus (memoryAt found memory)
      some
        { state with
          locals := turn.locals
          freed := state.freed ++ turn.freed
          rounds := state.rounds ++ [⟨found, bus, memory, turn.attempts⟩]
          pc := .idle }
  | .idle | .dequeue _ => none

def step (state : State driver) : Act → Option (State driver)
  | .call request transportUp put => some (callStep state request transportUp put)
  | .post => postStep state
  | .wake => wakeStep state
  | .dequeue => dequeueStep state
  | .send bus memory => sendStep state bus memory

/-! What the tasks are to do. -/

/-- The numbers of the messages an iteration wrote. -/
def Round.sends {config : RxConfig} (round : Round config) : List Nat :=
  match round.found with
  | none => []
  | some item => (round.attempts.filter Attempt.ok).map fun _ => item.number

/-- What a task that has just started writes of a message. -/
def startedAttempts (driver : Driver) (message : Message driver.config) (bus : Bus)
    (behind : List UInt8) : List Attempt :=
  (turn driver { len := 0, txNeeded := true, bufHandle := message.frame } bus
    (message.frame.buf.payload ++ behind)).attempts

/-- The attempt carries the bytes and the length of the message. -/
structure Carries (message : Message driver.config) (attempt : Attempt) : Prop where
  framed : Framed message.frame.buf attempt.bytes
  dataLeft : attempt.dataLeft = payloadHeaderSize + (endingLen message.frame.buf).toNat

/-- Every write is of the message that the iteration found, and a message is written once, though
a write that failed may be tried again; an iteration that finds nothing writes nothing, and what is
written of a message depends on nothing that was before. -/
structure Recovers (state : State driver) : Prop where
  carried : ∀ round ∈ state.rounds, ∀ attempt ∈ round.attempts, ∃ item,
    round.found = some item ∧ state.queued[item.number]? = some item.message ∧
      Carries item.message attempt
  once : ∀ number, (state.rounds.flatMap Round.sends).count number ≤ 1
  idle : ∀ round ∈ state.rounds, round.found = none → round.attempts = []
  unaffected : ∀ round ∈ state.rounds, ∀ item, round.found = some item →
    round.attempts = startedAttempts driver item.message round.bus round.behind

/-- When the task comes to the last queue, there is a message in it. -/
def Stocked (state : State driver) : Prop :=
  match state.pc with
  | .dequeue .others => state.toSlave .others ≠ []
  | .idle | .dequeue .serial | .dequeue .bt | .send _ => True

/-- No wake-up finds the three queues empty. -/
def Served (state : State driver) : Act → Prop
  | .dequeue => Stocked state
  | .call _ _ _ | .post | .wake | .send _ _ => True

section Turns
variable {formed : Formed} {bus : Bus} {locals : Locals} {memory : List UInt8}

theorem transferLen_le (driver : Driver) (dataLeft : Nat) :
    dataLeft ≤ transferLen driver dataLeft := by
  unfold transferLen espBlockSize
  split <;> omega

theorem writeLoop_mem {writes : Nat → Bool} {written : Attempt} (retries : Nat)
    (member : written ∈ writeLoop driver formed writes retries) :
    ∃ ok, written = attempt driver formed ok := by
  induction retries with
  | zero => exact absurd member List.not_mem_nil
  | succ retriesLeft ih =>
      rw [writeLoop] at member
      split at member
      · exact ⟨true, List.mem_singleton.mp member⟩
      · rcases List.mem_cons.mp member with rfl | later
        · exact ⟨false, rfl⟩
        · exact ih later

theorem writeLoop_once (writes : Nat → Bool) (retries : Nat) :
    ((writeLoop driver formed writes retries).filter Attempt.ok).length ≤ 1 := by
  induction retries with
  | zero => exact Nat.zero_le 1
  | succ retriesLeft ih =>
      rw [writeLoop]
      split
      · exact Nat.le_refl 1
      · exact ih

theorem done_attempts (attempts : List Attempt) : (done locals attempts).attempts = attempts := by
  unfold done
  split <;> try split
  all_goals rfl

theorem done_txNeeded (attempts : List Attempt) :
    (done locals attempts).locals.txNeeded = locals.txNeeded := by
  unfold done
  split <;> try split
  all_goals rfl

theorem turn_txNeeded (locals : Locals) (bus : Bus) (memory : List UInt8) :
    (turn driver locals bus memory).locals.txNeeded = locals.txNeeded := by
  dsimp only [turn]
  generalize (if locals.txNeeded then locals.bufHandle.buf.payloadLen else locals.len) = len
  split
  · rfl
  · split
    · rfl
    · split
      · rw [done_txNeeded]
      · rw [done_txNeeded]

/-- The length an earlier iteration left plays no part for a message that was found. -/
theorem turn_message (message : Message driver.config) (needed : locals.txNeeded = true)
    (handle : locals.bufHandle = message.frame) :
    (turn driver locals bus memory).attempts =
      write driver (formFrame driver.config message.frame.buf message.frame.buf.payloadLen memory)
        bus := by
  have held : ¬ (message.frame.buf.payloadZcopy = true ∧ message.frame.wbuffer = none) := by
    rintro ⟨_, null⟩
    have pointer := message.accepted.1
    rw [null] at pointer
    exact Bool.false_ne_true pointer
  have fits : ¬ message.frame.buf.payloadLen.toNat > driver.config.bufferSize - payloadHeaderSize := by
    have most := message.fits
    have room := driver.config.room
    omega
  simp only [turn, needed, handle, if_true, message.positive, if_false, held, fits, done_attempts]

theorem started_written (message : Message driver.config) (bus : Bus) (behind : List UInt8) :
    startedAttempts driver message bus behind =
      write driver (formFrame driver.config message.frame.buf message.frame.buf.payloadLen
        (message.frame.buf.payload ++ behind)) bus :=
  turn_message message rfl rfl

theorem started_carried (message : Message driver.config) (bus : Bus) (behind : List UInt8) :
    ∀ written ∈ startedAttempts driver message bus behind, Carries message written := by
  intro attempted member
  have frame := frame_written message behind
  rw [started_written, write] at member
  split at member
  · exact absurd member List.not_mem_nil
  · obtain ⟨ok, rfl⟩ := writeLoop_mem _ member
    refine ⟨frame.framed message.request.filled (transferLen_le _ _), ?_⟩
    rw [← frame.len, attempt]

theorem started_once (message : Message driver.config) (bus : Bus) (behind : List UInt8) :
    ((startedAttempts driver message bus behind).filter Attempt.ok).length ≤ 1 := by
  rw [started_written, write]
  split
  · exact Nat.zero_le 1
  · exact writeLoop_once _ _

end Turns

/-! What a step does. -/

variable {before after state : State driver}

theorem post_cases (taken : postStep before = some after) :
    0 < before.posting ∧
      after =
        { before with
          semToSlave := post driver.semMax before.semToSlave
          posting := before.posting - 1 } := by
  unfold postStep at taken
  split at taken
  · rename_i positive
    exact ⟨positive, (Option.some.inj taken).symm⟩
  · cases taken

theorem wake_cases (taken : wakeStep before = some after) :
    before.pc = .idle ∧ 0 < before.semToSlave ∧
      after = { before with semToSlave := before.semToSlave - 1, pc := .dequeue .serial } := by
  unfold wakeStep at taken
  split at taken
  · rename_i pc
    split at taken
    · rename_i positive
      exact ⟨pc, positive, (Option.some.inj taken).symm⟩
    · cases taken
  all_goals cases taken

inductive Dequeues (before : State driver) : State driver → Prop where
  | finds (prio : Prio) (item : Numbered driver.config) (rest : List (Numbered driver.config))
      (pc : before.pc = .dequeue prio) (held : before.toSlave prio = item :: rest) :
      Dequeues before
        { before with
          toSlave := Function.update before.toSlave prio rest
          locals := { before.locals with bufHandle := item.message.frame }
          pc := .send (some item) }
  | passes (prio next : Prio) (pc : before.pc = .dequeue prio) (empty : before.toSlave prio = [])
      (follows : nextPrio prio = some next) : Dequeues before { before with pc := .dequeue next }
  | misses (pc : before.pc = .dequeue .others) (empty : before.toSlave .others = []) :
      Dequeues before
        { before with locals := { before.locals with txNeeded := false }, pc := .send none }

theorem dequeue_cases (taken : dequeueStep before = some after) : Dequeues before after := by
  unfold dequeueStep at taken
  split at taken
  · rename_i prio pc
    split at taken
    · rename_i item rest held
      cases taken
      exact .finds prio item rest pc held
    · rename_i empty
      split at taken
      · rename_i next follows
        cases taken
        exact .passes prio next pc empty follows
      · rename_i last
        cases taken
        cases prio with
        | serial | bt => cases last
        | others => exact .misses pc empty
  all_goals cases taken

theorem send_cases {bus : Bus} {memory : List UInt8} (taken : sendStep before bus memory = some after) :
    ∃ found, before.pc = .send found ∧
      after =
        { before with
          locals := (turn driver before.locals bus (memoryAt found memory)).locals
          freed := before.freed ++ (turn driver before.locals bus (memoryAt found memory)).freed
          rounds := before.rounds ++
            [⟨found, bus, memory,
              (turn driver before.locals bus (memoryAt found memory)).attempts⟩]
          pc := .idle } := by
  unfold sendStep at taken
  split at taken
  · rename_i found pc
    exact ⟨found, pc, (Option.some.inj taken).symm⟩
  all_goals cases taken

/-! Messages are numbered as they are queued. -/

def numberIs {config : RxConfig} (number : Nat) (item : Numbered config) : Bool :=
  item.number == number

/-- What the iteration under way has found. -/
def handed {config : RxConfig} : Pc config → List (Numbered config)
  | .send found => found.toList
  | .idle | .dequeue _ => []

/-- The item is one of the messages that were queued. -/
def Listed {config : RxConfig} (queued : List (Message config)) (item : Numbered config) : Prop :=
  queued[item.number]? = some item.message

/-- How often a number is in the queues, in hand and among the iterations so far. -/
def occurrences (state : State driver) (number : Nat) : Nat :=
  count (numberIs number) state.toSlave +
    (handed state.pc ++ state.rounds.filterMap Round.found).countP (numberIs number)

/-- The iteration under way has found a message, and its handle is that of the message. -/
def HandleHeld (state : State driver) : Prop :=
  ∀ found, state.pc = .send found →
    ∃ item, found = some item ∧ Listed state.queued item ∧ state.locals.bufHandle = item.message.frame

/-- The iteration found a message, and did with it what a task does that has just started. -/
def Plain (queued : List (Message driver.config)) (round : Round driver.config) : Prop :=
  ∃ item, round.found = some item ∧ Listed queued item ∧
    round.attempts = startedAttempts driver item.message round.bus round.behind

structure Inv (state : State driver) : Prop where
  needed : state.locals.txNeeded = true
  listed : ∀ prio, ∀ item ∈ state.toSlave prio, Listed state.queued item
  held : HandleHeld state
  plain : ∀ round ∈ state.rounds, Plain state.queued round
  numbered : ∀ number,
    occurrences state number = if number < state.queued.length then 1 else 0

theorem inv_init (driver : Driver) : Inv (init driver) where
  needed := rfl
  listed _ _ none := absurd none List.not_mem_nil
  held _ pc := nomatch pc
  plain _ none := absurd none List.not_mem_nil
  numbered number := by simp [occurrences, init, handed, count]

/-- A step that touches neither the queues nor the record. -/
theorem inv_still (inv : Inv before) (locals : after.locals = before.locals)
    (toSlave : after.toSlave = before.toSlave) (queued : after.queued = before.queued)
    (rounds : after.rounds = before.rounds) (was : handed before.pc = handed after.pc)
    (held : HandleHeld after) : Inv after where
  needed := by rw [locals, inv.needed]
  listed prio item member := by
    rw [toSlave] at member
    rw [queued]
    exact inv.listed prio item member
  held := held
  plain round member := by
    rw [rounds] at member
    rw [queued]
    exact inv.plain round member
  numbered number := by rw [occurrences, toSlave, rounds, queued, ← was, ← inv.numbered, occurrences]

theorem listed_more {queued : List (Message driver.config)} {item : Numbered driver.config}
    (listed : Listed queued item) (message : Message driver.config) :
    Listed (queued ++ [message]) item := by
  have inside := (List.getElem?_eq_some_iff.mp listed).1
  rw [Listed, List.getElem?_append_left inside]
  exact listed

theorem inv_queue {message : Message driver.config} {prio : Prio} (inv : Inv before) :
    Inv
      { before with
        toSlave := put before.toSlave prio ⟨before.queued.length, message⟩
        queued := before.queued ++ [message]
        posting := before.posting + 1 } where
  needed := inv.needed
  listed level item member := by
    rcases mem_put member with older | rfl
    · exact listed_more (inv.listed level item older) message
    · exact List.getElem?_concat_length
  held found pc := by
    obtain ⟨item, same, listed, handle⟩ := inv.held found pc
    exact ⟨item, same, listed_more listed message, handle⟩
  plain round member := by
    obtain ⟨item, found, listed, attempts⟩ := inv.plain round member
    exact ⟨item, found, listed_more listed message, attempts⟩
  numbered number := by
    have numbered := inv.numbered number
    simp only [occurrences, count_put, numberIs, beq_iff_eq, List.length_append,
      List.length_singleton] at numbered ⊢
    split at numbered <;> split <;> split <;> omega

theorem inv_call {request : Request} {transportUp ok : Bool} (inv : Inv before) :
    Inv (callStep before request transportUp ok) := by
  unfold callStep
  split
  · exact inv_still inv rfl rfl rfl rfl rfl inv.held
  · split
    · exact inv_queue inv
    · exact inv_still inv rfl rfl rfl rfl rfl inv.held

theorem inv_dequeue (inv : Inv before) (stocked : Stocked before)
    (taken : dequeueStep before = some after) : Inv after := by
  cases dequeue_cases taken with
  | finds prio item rest pc held =>
      have listed : Listed before.queued item := by
        refine inv.listed prio item ?_
        rw [held]
        exact List.mem_cons_self
      refine ⟨inv.needed, fun level other member => inv.listed level other (mem_get held member),
        ?_, inv.plain, fun number => ?_⟩
      · rintro found same
        cases same
        exact ⟨item, rfl, listed, rfl⟩
      · have numbered := inv.numbered number
        rw [occurrences, count_get held, pc] at numbered
        simp only [occurrences, handed, Option.toList, List.countP_append, List.countP_singleton,
          List.countP_nil] at numbered ⊢
        omega
  | passes prio next pc empty follows =>
      refine inv_still inv rfl rfl rfl rfl ?_ nofun
      rw [pc]
      rfl
  | misses pc empty =>
      rw [Stocked, pc] at stocked
      exact absurd empty stocked

theorem inv_send {bus : Bus} {memory : List UInt8} (inv : Inv before)
    (taken : sendStep before bus memory = some after) : Inv after := by
  obtain ⟨found, pc, rfl⟩ := send_cases taken
  obtain ⟨item, rfl, listed, handle⟩ := inv.held found pc
  refine ⟨?_, inv.listed, nofun, fun round member => ?_, fun number => ?_⟩
  · rw [turn_txNeeded]
    exact inv.needed
  · rcases List.mem_append.mp member with earlier | last
    · exact inv.plain round earlier
    · rw [List.mem_singleton.mp last]
      refine ⟨item, rfl, listed, ?_⟩
      dsimp only
      rw [turn_message item.message inv.needed handle, started_written, memoryAt]
  · have numbered := inv.numbered number
    rw [occurrences, pc] at numbered
    simp only [occurrences, handed, Option.toList_some, List.countP_append, List.filterMap_append,
      List.filterMap_cons, List.filterMap_nil, List.countP_nil] at numbered ⊢
    omega

theorem inv_step {act : Act} (inv : Inv before) (served : Served before act)
    (taken : step before act = some after) : Inv after := by
  cases act with
  | call request transportUp ok =>
      cases taken
      exact inv_call inv
  | post =>
      obtain ⟨_, rfl⟩ := post_cases taken
      exact inv_still inv rfl rfl rfl rfl rfl inv.held
  | wake =>
      obtain ⟨pc, _, rfl⟩ := wake_cases taken
      refine inv_still inv rfl rfl rfl rfl ?_ nofun
      rw [pc]
      rfl
  | dequeue => exact inv_dequeue inv served taken
  | send bus memory => exact inv_send inv taken

/-- Every number that was written was found by an iteration, once for each write. -/
theorem sends_le {rounds : List (Round driver.config)}
    (single : ∀ round ∈ rounds, (round.attempts.filter Attempt.ok).length ≤ 1) (number : Nat) :
    (rounds.flatMap Round.sends).count number ≤
      (rounds.filterMap Round.found).countP (numberIs number) := by
  induction rounds with
  | nil => exact Nat.le_refl 0
  | cons round rest ih =>
      have later := ih fun other member => single other (List.mem_cons_of_mem _ member)
      have here := single round List.mem_cons_self
      rw [List.flatMap_cons, List.count_append]
      cases found : round.found with
      | none =>
          rw [List.filterMap_cons_none found, Round.sends, found, List.count_nil, Nat.zero_add]
          exact later
      | some item =>
          rw [List.filterMap_cons_some found, List.countP_cons, Round.sends, found]
          have mine : ((round.attempts.filter Attempt.ok).map fun _ => item.number).count number ≤
              if numberIs number item = true then 1 else 0 := by
            rw [List.map_const', List.count_replicate]
            by_cases same : item.number = number
            · simpa [numberIs, same] using here
            · simp [numberIs, same]
          dsimp only
          omega

theorem inv_recovers (inv : Inv state) : Recovers state where
  carried round member attempted written := by
    obtain ⟨item, found, listed, attempts⟩ := inv.plain round member
    rw [attempts] at written
    exact ⟨item, found, listed, started_carried item.message _ _ attempted written⟩
  once number := by
    have single : ∀ round ∈ state.rounds, (round.attempts.filter Attempt.ok).length ≤ 1 := by
      intro round member
      obtain ⟨item, _, _, attempts⟩ := inv.plain round member
      rw [attempts]
      exact started_once item.message _ _
    have numbered := inv.numbered number
    have sent := sends_le single number
    rw [occurrences, List.countP_append] at numbered
    split at numbered <;> omega
  idle round member none := by
    obtain ⟨item, found, _⟩ := inv.plain round member
    rw [none] at found
    cases found
  unaffected round member item found := by
    obtain ⟨other, same, _, attempts⟩ := inv.plain round member
    rw [found, Option.some.injEq] at same
    rw [attempts, same]

/-- As long as no wake-up finds the three queues empty, the tasks do what they are to do. -/
theorem write_task_recovers (driver : Driver) {state : State driver}
    (run : Run step Served (init driver) state) : Recovers state :=
  inv_recovers (run.invariant (inv_init driver) fun _ _ _ _ inv served taken =>
    inv_step inv served taken)

def greeting : Request where
  frame :=
    { buf :=
        { ifType := espSerialIf, ifNum := 0, payloadZcopy := false, payloadLen := 3,
          payload := [1, 2, 3] }
      wbuffer := some 0
      freeWbufFun := true }
  filled := rfl

def reply : Request where
  frame :=
    { buf :=
        { ifType := espSerialIf, ifNum := 0, payloadZcopy := false, payloadLen := 5,
          payload := [4, 5, 6, 7, 8] }
      wbuffer := some 1
      freeWbufFun := true }
  filled := rfl

def openBus : Bus := { available := true, writes := fun _ => true }

/-- A message is queued, found and written. -/
def oneMessage : List Act :=
  [.call greeting true true, .post, .wake, .dequeue, .send openBus []]

theorem write_task_recovers_one :
    ∃ state, exec step (init (uart false 15)) oneMessage = some state ∧ Recovers state := by
  obtain ⟨state, result⟩ : ∃ state, exec step (init (uart false 15)) oneMessage = some state :=
    Option.isSome_iff_exists.mp rfl
  have admitted : Admits step Served (init (uart false 15)) oneMessage :=
    ⟨trivial, trivial, trivial, trivial, trivial, trivial⟩
  exact ⟨state, result, write_task_recovers _ (admitted_run oneMessage admitted result)⟩

/-- Behind the message a put fails, and the wake-up finds nothing; another message follows. -/
def spuriousWake : List Act :=
  oneMessage ++
    [.call greeting true false, .post, .wake, .dequeue, .dequeue, .dequeue, .send openBus [],
      .call reply true true, .post, .wake, .dequeue, .send openBus []]

/-- The first message is written again, out of a buffer that was freed, and the second one goes
out with the length of the first. -/
theorem spurious_rounds :
    (exec step (init (uart false 15)) spuriousWake).map (fun state =>
        state.rounds.map fun round =>
          (round.found.map Numbered.number, round.attempts.map Attempt.dataLeft)) =
      some [(some 0, [15]), (none, [15]), (some 1, [15])] := rfl

theorem spurious_wake_writes :
    ¬ ∀ state, Run step unguarded (init (uart false 15)) state → Recovers state := by
  intro recovers
  obtain ⟨state, result, rounds⟩ := Option.map_eq_some_iff.mp spurious_rounds
  have recovered := recovers state (exec_run spuriousWake result)
  obtain ⟨round, member, same⟩ : ∃ round ∈ state.rounds,
      (round.found.map Numbered.number, round.attempts.map Attempt.dataLeft) = (none, [15]) := by
    refine List.mem_map.mp ?_
    rw [rounds]
    exact List.mem_cons_of_mem _ List.mem_cons_self
  obtain ⟨found, attempts⟩ := Prod.mk.inj same
  rw [recovered.idle round member (Option.map_eq_none_iff.mp found)] at attempts
  cases attempts

/-! When every put succeeds, every wake-up finds a message. -/

/-- The wake-up has taken the semaphore for a message it has not found yet. -/
def waiting {config : RxConfig} : Pc config → Nat
  | .dequeue _ => 1
  | .idle | .send _ => 0

def PutsSucceed (_ : State driver) : Act → Prop
  | .call _ _ ok => ok = true
  | .post | .wake | .dequeue | .send _ _ => True

structure Supplied (state : State driver) : Prop where
  enough : state.semToSlave + state.posting + waiting state.pc ≤ size state.toSlave
  reach : ∀ prio, state.pc = .dequeue prio → ∃ level ∈ lookedInto prio, state.toSlave level ≠ []

theorem lookedInto_next {prio next level : Prio} (follows : nextPrio prio = some next)
    (later : level ∈ lookedInto prio) (other : level ≠ prio) : level ∈ lookedInto next := by
  cases prio with
  | serial =>
      cases follows
      simpa [lookedInto, other] using later
  | bt =>
      cases follows
      simpa [lookedInto, other] using later
  | others => cases follows

theorem supplied_call {request : Request} {transportUp : Bool} (supplied : Supplied before) :
    Supplied (callStep before request transportUp true) := by
  unfold callStep
  split
  · exact ⟨supplied.enough, supplied.reach⟩
  · rw [if_pos rfl]
    refine ⟨?_, fun prio pc => ?_⟩
    · have enough := supplied.enough
      simp only [size_put]
      omega
    · obtain ⟨level, later, held⟩ := supplied.reach prio pc
      exact ⟨level, later, put_ne_nil held⟩

theorem supplied_dequeue (supplied : Supplied before) (taken : dequeueStep before = some after) :
    Supplied after := by
  have enough := supplied.enough
  cases dequeue_cases taken with
  | finds prio item rest pc held =>
      refine ⟨?_, nofun⟩
      rw [pc, size_get held] at enough
      simp only [waiting] at enough ⊢
      omega
  | passes prio next pc empty follows =>
      obtain ⟨level, later, held⟩ := supplied.reach prio pc
      refine ⟨?_, ?_⟩
      · rwa [pc] at enough
      · rintro _ same
        cases same
        refine ⟨level, lookedInto_next follows later ?_, held⟩
        rintro rfl
        exact held empty
  | misses pc empty =>
      obtain ⟨level, later, held⟩ := supplied.reach _ pc
      rw [List.mem_singleton.mp later] at held
      exact absurd empty held

theorem supplied_step {act : Act} (supplied : Supplied before) (puts : PutsSucceed before act)
    (taken : step before act = some after) : Supplied after := by
  cases act with
  | call request transportUp ok =>
      cases taken
      rw [show ok = true from puts]
      exact supplied_call supplied
  | post =>
      obtain ⟨positive, rfl⟩ := post_cases taken
      have enough := supplied.enough
      refine ⟨?_, supplied.reach⟩
      simp only [post]
      split <;> omega
  | wake =>
      obtain ⟨pc, positive, rfl⟩ := wake_cases taken
      have enough := supplied.enough
      rw [pc] at enough
      refine ⟨?_, ?_⟩
      · simp only [waiting] at enough ⊢
        omega
      · rintro _ same
        cases same
        have some_message : ¬ ∀ level, before.toSlave level = [] := by
          intro empty
          have none := size_zero_iff.mpr empty
          omega
        obtain ⟨level, held⟩ := not_forall.mp some_message
        exact ⟨level, by cases level <;> decide, held⟩
  | dequeue => exact supplied_dequeue supplied taken
  | send bus memory =>
      obtain ⟨found, pc, rfl⟩ := send_cases taken
      refine ⟨?_, fun _ same => by cases same⟩
      have enough := supplied.enough
      rwa [pc] at enough

theorem puts_served (run : Run step PutsSucceed (init driver) state) :
    Run step Served (init driver) state := by
  have start : Supplied (init driver) := ⟨Nat.zero_le _, nofun⟩
  have supplied : ∀ reached, Run step PutsSucceed (init driver) reached → Supplied reached :=
    fun reached reaching => reaching.invariant start fun _ _ _ _ supplied puts taken =>
      supplied_step supplied puts taken
  refine run.admit fun reached act reaching _ => ?_
  cases act with
  | call _ _ _ | post | wake | send _ _ => trivial
  | dequeue =>
      change Stocked reached
      unfold Stocked
      split
      · rename_i pc
        obtain ⟨level, later, held⟩ := (supplied reached reaching).reach _ pc
        rwa [List.mem_singleton.mp later] at held
      all_goals trivial

/-! A wake-up that finds nothing is never made good. -/

/-- The task sends nothing any more. -/
structure Silent (written : List Attempt) (state : State driver) : Prop where
  txNeeded : state.locals.txNeeded = false
  len : state.locals.len = 0
  written : state.rounds.flatMap Round.attempts = written

theorem turn_silent {locals : Locals} (txNeeded : locals.txNeeded = false) (len : locals.len = 0)
    (bus : Bus) (memory : List UInt8) : turn driver locals bus memory = ⟨locals, [], []⟩ := by
  obtain ⟨_, _, bufHandle⟩ := locals
  dsimp only at txNeeded len
  subst txNeeded len
  rfl

/-- When the first wake-up finds nothing, no message is written in what follows. -/
theorem silent_run {written : List Attempt} (silent : Silent written before)
    (run : Run step unguarded before after) : Silent written after := by
  refine run.invariant silent fun _ act _ _ silent _ taken => ?_
  obtain ⟨txNeeded, len, same⟩ := silent
  cases act with
  | call request transportUp ok =>
      cases taken
      unfold callStep
      split
      · exact ⟨txNeeded, len, same⟩
      · split <;> exact ⟨txNeeded, len, same⟩
  | post =>
      obtain ⟨_, rfl⟩ := post_cases taken
      exact ⟨txNeeded, len, same⟩
  | wake =>
      obtain ⟨_, _, rfl⟩ := wake_cases taken
      exact ⟨txNeeded, len, same⟩
  | dequeue =>
      cases dequeue_cases taken with
      | finds _ _ _ _ _ => exact ⟨txNeeded, len, same⟩
      | passes _ _ _ _ _ => exact ⟨txNeeded, len, same⟩
      | misses _ _ => exact ⟨rfl, len, same⟩
  | send bus memory =>
      obtain ⟨found, _, rfl⟩ := send_cases taken
      rw [turn_silent txNeeded len]
      refine ⟨txNeeded, len, ?_⟩
      rw [List.flatMap_append, same]
      exact List.append_nil written

end EspHosted.WriteTasks

import EspHosted.GuardedRun
import EspHosted.HostFrames
import EspHosted.RxPackets
import Mathlib.Logic.Function.Basic

/-!
`sdio_read_task` fills one buffer of `double_buf` while `sdio_data_to_rx_buf_task` drains the
other. The reader hands a chunk over only while `read_index` is -1; a chunk that is complete
while the drainer is not done is logged and dropped. The tasks interleave step by step. In
packet mode a buffer comes from the pool for every chunk, and `trace` has what becomes of it.
-/

namespace EspHosted.SdioDoubleBuffer
open GuardedRun HostFrames RxPackets

structure Config where
  streaming : Bool
  blockOnly : Bool
  checksum : Bool

def espBlockSize : Nat := 512

/-- What becomes of a buffer of the pool. -/
inductive Fate where
  | taken
  | poolFreed
  | heapFreed
  | queued
  deriving DecidableEq

/-- `buf_info_t`; a pointer is the number of a buffer. -/
structure BufInfo where
  buf : Option Nat := none
  bufSize : Nat := 0

/-- `filling` from `sdio_rx_get_buffer` to the end of the block read, then the test of
`read_index` and the four statements behind it. -/
inductive ReaderPc where
  | idle
  | filling (rxbuff len : Nat)
  | check (rxbuff len : Nat)
  | setLen (len : Nat)
  | flip
  | post
  deriving DecidableEq

inductive DrainerPc where
  | wait
  | look
  | fetch
  | fetchLen (buf : Nat)
  | push (buf len : Nat)
  | reset
  deriving DecidableEq

/-- `readIndex` is none for -1. Of the ghosts, `counted` has the chunks that were read and
counted, `records` those that came to the test of `read_index` with its outcome, and `passed`
those that `sdio_push_data_to_queue` was called with. -/
structure State where
  reader : ReaderPc := .idle
  drainer : DrainerPc := .wait
  buffer : Bool → BufInfo := fun _ => {}
  readIndex : Option Bool := none
  readDataLen : Nat := 0
  writeIndex : Bool := false
  sem : Nat := 0
  next : Nat := 0
  content : Nat → List UInt8 := fun _ => []
  trace : List (Nat × Fate) := []
  counted : List (List UInt8) := []
  records : List (List UInt8 × Bool) := []
  passed : List (List UInt8) := []

def init : State := {}

/-- The chunk of this length at the front of a buffer. -/
def State.chunk (state : State) (buf len : Nat) : List UInt8 := (state.content buf).take len

/-- A new buffer of this size for the index that is written. -/
def State.alloc (state : State) (size bufSize : Nat) : State :=
  { state with
    buffer := Function.update state.buffer state.writeIndex ⟨some state.next, bufSize⟩
    content := Function.update state.content state.next (List.replicate size 0)
    next := state.next + 1 }

/-- Block only transfers need room for the padded data. -/
def streamSize (config : Config) (len : Nat) : Nat :=
  if config.blockOnly then (len + espBlockSize - 1) / espBlockSize * espBlockSize else len

/-- `sdio_rx_get_buffer`: the pointer, and the state behind the call. -/
def sdioRxGetBuffer (config : Config) (state : State) (len : Nat) : Nat × State :=
  if config.streaming then
    let size := streamSize config len
    match (state.buffer state.writeIndex).buf with
    | some buf =>
        if size > (state.buffer state.writeIndex).bufSize then (state.next, state.alloc size size)
        else (buf, state)
    -- NULL has the size 0, and len is not 0
    | none => (state.next, state.alloc size size)
  else
    (state.next,
      { state with trace := state.trace ++ [(state.next, Fate.taken)] }.alloc
        (sdioConfig config.checksum).bufferSize len)

def sdioRxFreeBuffer (config : Config) (buf : Nat) : List (Nat × Fate) :=
  if config.streaming then [] else [(buf, .poolFreed)]

/-- `sdio_push_data_to_queue`: in packet mode the buffer is queued or, with `HOSTED_FREE`,
dropped; in streaming mode it stays where it is. -/
def pushFate (config : Config) (content : List UInt8) (buf : Nat) : List (Nat × Fate) :=
  if config.streaming then []
  else if (isValidRxPacket (sdioConfig config.checksum) content).found.isSome then [(buf, .queued)]
  else [(buf, .heapFreed)]

/-- An interrupt with so many bytes, the result of the block read, or a step of a task. -/
inductive Act where
  | begin (len : Nat)
  | readBlock (data : List UInt8) (ok : Bool)
  | reader
  | drainer
  deriving DecidableEq

def readBlock (config : Config) (state : State) (rxbuff len : Nat) (data : List UInt8)
    (ok : Bool) : State :=
  let state := { state with
    content := Function.update state.content rxbuff (putAt (state.content rxbuff) 0 data) }
  if ok then
    { state with
      reader := .check rxbuff len, counted := state.counted ++ [state.chunk rxbuff len] }
  else { state with reader := .idle, trace := state.trace ++ sdioRxFreeBuffer config rxbuff }

/-- `if (double_buf.read_index < 0)` in the reader. -/
def checkIndex (state : State) (rxbuff len : Nat) : State :=
  match state.readIndex with
  | none =>
      { state with
        reader := .setLen len, readIndex := some state.writeIndex,
        records := state.records ++ [(state.chunk rxbuff len, true)] }
  | some _ =>
      -- task still writing Rx data to queue!
      { state with
        reader := .idle, records := state.records ++ [(state.chunk rxbuff len, false)] }

def readerStep (state : State) : Option State :=
  match state.reader with
  | .idle | .filling .. => none
  | .check rxbuff len => some (checkIndex state rxbuff len)
  | .setLen len => some { state with reader := .flip, readDataLen := len }
  | .flip => some { state with reader := .post, writeIndex := !state.writeIndex }
  | .post => some { state with reader := .idle, sem := state.sem + 1 }

def drainerStep (config : Config) (state : State) : Option State :=
  match state.drainer with
  | .wait => if state.sem = 0 then none else some { state with drainer := .look, sem := state.sem - 1 }
  | .look =>
      match state.readIndex with
      | none => some { state with drainer := .wait }
      | some _ => some { state with drainer := .fetch }
  | .fetch =>
      state.readIndex.bind fun index => (state.buffer index).buf.map fun buf =>
        { state with drainer := .fetchLen buf }
  | .fetchLen buf => some { state with drainer := .push buf state.readDataLen }
  | .push buf len =>
      some
        { state with
          drainer := .reset, passed := state.passed ++ [state.chunk buf len],
          trace := state.trace ++ pushFate config (state.content buf) buf }
  | .reset => some { state with drainer := .wait, readIndex := none }

def step (config : Config) (state : State) : Act → Option State
  | .begin len =>
      if state.reader = .idle ∧ len ≠ 0 then
        let got := sdioRxGetBuffer config state len
        some { got.2 with reader := .filling got.1 len }
      else none
  | .readBlock data ok =>
      match state.reader with
      | .filling rxbuff len =>
          -- a read that succeeds has brought all that was asked for
          if ok = true ∧ data.length < len then none
          else some (readBlock config state rxbuff len data ok)
      | .idle | .check .. | .setLen .. | .flip | .post => none
  | .reader => readerStep state
  | .drainer => drainerStep config state

/-- The chunks that were complete while nothing was being drained. -/
def State.due (state : State) : List (List UInt8) :=
  (state.records.filter Prod.snd).map Prod.fst

/-- What the drainer works on. -/
def State.draining (state : State) : Option Nat :=
  match state.drainer with
  | .fetchLen buf | .push buf _ => some buf
  | .wait | .look | .fetch | .reset => none

/-- Nothing is on its way. -/
def State.Quiet (state : State) : Prop :=
  state.reader = .idle ∧ state.drainer = .wait ∧ state.sem = 0

/-! The invariant. -/

/-- The chunk whose test of `read_index` is still to come. -/
def State.inFlight (state : State) : List (List UInt8) :=
  match state.reader with
  | .check rxbuff len => [state.chunk rxbuff len]
  | .idle | .filling .. | .setLen .. | .flip | .post => []

/-- The two buffers are different ones, and the reader works on the one that is written. -/
structure Apart (state : State) : Prop where
  fresh : ∀ index buf, (state.buffer index).buf = some buf → buf < state.next
  apart : ∀ index buf, (state.buffer index).buf = some buf → (state.buffer !index).buf ≠ some buf
  filling : ∀ rxbuff len, state.reader = .filling rxbuff len →
    (state.buffer state.writeIndex).buf = some rxbuff
  checking : ∀ rxbuff len, state.reader = .check rxbuff len →
    (state.buffer state.writeIndex).buf = some rxbuff
  counted : state.counted = state.records.map Prod.fst ++ state.inFlight

/-- The reader is not between the test of `read_index` and the semaphore. -/
def ReaderPc.Outside : ReaderPc → Prop
  | .idle | .filling .. | .check .. => True
  | .setLen .. | .flip | .post => False

/-- How far the reader is with handing over the buffer of this index. -/
def HandingOver (state : State) (index : Bool) (len : Nat) : Prop :=
  match state.reader with
  | .setLen held => held = len ∧ state.writeIndex = index
  | .flip => state.readDataLen = len ∧ state.writeIndex = index
  | .post => state.readDataLen = len ∧ state.writeIndex = !index
  | .idle | .filling .. | .check .. => False

/-- How far the drainer is before it has passed the chunk. -/
def Draining (state : State) (buf len : Nat) : Prop :=
  (state.drainer = .wait ∧ state.sem = 1) ∨
    (state.sem = 0 ∧ (state.drainer = .look ∨ state.drainer = .fetch ∨
      state.drainer = .fetchLen buf ∨ state.drainer = .push buf len))

/-- Where the one chunk is that was handed over. -/
inductive Phase (state : State) : Prop where
  | free (index : state.readIndex = none) (sem : state.sem = 0) (drainer : state.drainer = .wait)
      (reader : state.reader.Outside) (due : state.due = state.passed)
  | handing (index : Bool) (buf len : Nat) (readIndex : state.readIndex = some index)
      (holds : (state.buffer index).buf = some buf) (sem : state.sem = 0)
      (drainer : state.drainer = .wait) (handOver : HandingOver state index len)
      (due : state.due = state.passed ++ [state.chunk buf len])
  | handed (index : Bool) (buf len : Nat) (readIndex : state.readIndex = some index)
      (holds : (state.buffer index).buf = some buf) (writeIndex : state.writeIndex = !index)
      (dataLen : state.readDataLen = len) (reader : state.reader.Outside)
      (drainer : Draining state buf len) (due : state.due = state.passed ++ [state.chunk buf len])
  | done (index : Bool) (readIndex : state.readIndex = some index)
      (writeIndex : state.writeIndex = !index) (sem : state.sem = 0)
      (drainer : state.drainer = .reset) (reader : state.reader.Outside)
      (due : state.due = state.passed)

structure Inv (state : State) : Prop extends Apart state where
  phase : Phase state

variable {config : Config} {state before after : State}

/-! What a step does. -/

theorem readBlock_cases {data : List UInt8} {ok : Bool}
    (taken : step config before (.readBlock data ok) = some after) :
    ∃ rxbuff len, before.reader = .filling rxbuff len ∧
      after = readBlock config before rxbuff len data ok := by
  simp only [step] at taken
  cases reader : before.reader with
  | filling rxbuff len =>
      rw [reader] at taken
      simp only [Option.ite_none_left_eq_some, Option.some.injEq] at taken
      exact ⟨rxbuff, len, rfl, taken.2.symm⟩
  | idle | check _ _ | setLen _ | flip | post => simp [reader] at taken

inductive Read (before : State) : State → Prop where
  | checks (rxbuff len : Nat) (reader : before.reader = .check rxbuff len) :
      Read before (checkIndex before rxbuff len)
  | setsLen (len : Nat) (reader : before.reader = .setLen len) :
      Read before { before with reader := .flip, readDataLen := len }
  | flips (reader : before.reader = .flip) :
      Read before { before with reader := .post, writeIndex := !before.writeIndex }
  | posts (reader : before.reader = .post) :
      Read before { before with reader := .idle, sem := before.sem + 1 }

theorem reader_cases (taken : step config before .reader = some after) : Read before after := by
  simp only [step, readerStep] at taken
  cases reader : before.reader with
  | idle | filling _ _ => simp [reader] at taken
  | check rxbuff len =>
      rw [reader] at taken
      obtain rfl := Option.some.inj taken
      exact .checks rxbuff len reader
  | setLen len =>
      rw [reader] at taken
      obtain rfl := Option.some.inj taken
      exact .setsLen len reader
  | flip =>
      rw [reader] at taken
      obtain rfl := Option.some.inj taken
      exact .flips reader
  | post =>
      rw [reader] at taken
      obtain rfl := Option.some.inj taken
      exact .posts reader

/-- The drainer goes on to its next statement, or it pushes a chunk, or takes `read_index` back. -/
inductive Drained (config : Config) (before : State) : State → Prop where
  | moves (pc : DrainerPc) (sem : Nat) (was : before.drainer ≠ .reset) (is : pc ≠ .reset) :
      Drained config before { before with drainer := pc, sem := sem }
  | pushes (buf len : Nat) (drainer : before.drainer = .push buf len) :
      Drained config before
        { before with
          drainer := .reset, passed := before.passed ++ [before.chunk buf len],
          trace := before.trace ++ pushFate config (before.content buf) buf }
  | resets (drainer : before.drainer = .reset) :
      Drained config before { before with drainer := .wait, readIndex := none }

theorem drainer_cases (taken : step config before .drainer = some after) :
    Drained config before after := by
  simp only [step, drainerStep] at taken
  cases drainer : before.drainer with
  | wait =>
      rw [drainer] at taken
      simp only [Option.ite_none_left_eq_some, Option.some.injEq] at taken
      obtain ⟨_, rfl⟩ := taken
      exact .moves .look _ (by simp [drainer]) (by simp)
  | look =>
      rw [drainer] at taken
      cases index : before.readIndex with
      | none =>
          simp only [index, Option.some.injEq] at taken
          subst taken
          rw [← index]
          exact .moves .wait before.sem (by simp [drainer]) (by simp)
      | some held =>
          simp only [index, Option.some.injEq] at taken
          subst taken
          rw [← index]
          exact .moves .fetch before.sem (by simp [drainer]) (by simp)
  | fetch =>
      rw [drainer] at taken
      simp only [Option.bind_eq_some_iff, Option.map_eq_some_iff] at taken
      obtain ⟨_, _, buf, _, rfl⟩ := taken
      exact .moves (.fetchLen buf) before.sem (by simp [drainer]) (by simp)
  | fetchLen buf =>
      rw [drainer] at taken
      obtain rfl := Option.some.inj taken
      exact .moves (.push buf before.readDataLen) before.sem (by simp [drainer]) (by simp)
  | push buf len =>
      rw [drainer] at taken
      obtain rfl := Option.some.inj taken
      exact .pushes buf len drainer
  | reset =>
      rw [drainer] at taken
      obtain rfl := Option.some.inj taken
      exact .resets drainer

theorem inv_init : Inv init where
  fresh := fun _ _ held => absurd held (by simp [init])
  apart := fun _ _ held => absurd held (by simp [init])
  filling := fun _ _ reader => absurd reader (by simp [init])
  checking := fun _ _ reader => absurd reader (by simp [init])
  counted := rfl
  phase := .free rfl rfl rfl trivial rfl

/-- The buffer stays, or a new one is put in its place. -/
theorem getBuffer_cases (config : Config) (state : State) (len : Nat) :
    ((sdioRxGetBuffer config state len).2 = state ∧
        (state.buffer state.writeIndex).buf = some (sdioRxGetBuffer config state len).1) ∨
      ∃ trace size bufSize, sdioRxGetBuffer config state len =
        (state.next, { state with trace := trace }.alloc size bufSize) := by
  rw [sdioRxGetBuffer]
  split
  · dsimp only
    split
    next buf held =>
      split
      · exact .inr ⟨_, _, _, rfl⟩
      · exact .inl ⟨rfl, held⟩
    next => exact .inr ⟨_, _, _, rfl⟩
  · exact .inr ⟨_, _, _, rfl⟩

theorem alloc_held (state : State) (size bufSize : Nat) :
    ((state.alloc size bufSize).buffer state.writeIndex).buf = some state.next := by
  have same : (state.alloc size bufSize).buffer state.writeIndex = ⟨some state.next, bufSize⟩ :=
    Function.update_self ..
  rw [same]

theorem alloc_other (state : State) {index : Bool} (other : index ≠ state.writeIndex)
    (size bufSize : Nat) : (state.alloc size bufSize).buffer index = state.buffer index :=
  Function.update_of_ne other _ _

theorem alloc_chunk (state : State) {buf : Nat} (old : buf < state.next) (size bufSize len : Nat) :
    (state.alloc size bufSize).chunk buf len = state.chunk buf len :=
  congrArg (List.take len) (Function.update_of_ne (Nat.ne_of_lt old) _ _)

/-- The reader works on its own buffer: the other one keeps its pointer and its chunk. -/
structure Beside (before after : State) : Prop where
  outside : before.reader.Outside
  reader : after.reader.Outside
  readIndex : after.readIndex = before.readIndex
  sem : after.sem = before.sem
  drainer : after.drainer = before.drainer
  due : after.due = before.due
  passed : after.passed = before.passed
  writeIndex : after.writeIndex = before.writeIndex
  dataLen : after.readDataLen = before.readDataLen
  kept : ∀ buf len, (before.buffer !before.writeIndex).buf = some buf →
    (after.buffer !before.writeIndex).buf = some buf ∧ after.chunk buf len = before.chunk buf len

theorem Phase.beside (phase : Phase before) (beside : Beside before after) : Phase after := by
  cases phase with
  | free index sem drainer reader due =>
      exact .free (beside.readIndex.trans index) (beside.sem.trans sem)
        (beside.drainer.trans drainer) beside.reader (by rw [beside.due, beside.passed, due])
  | handing index buf len readIndex holds sem drainer handOver due =>
      have outside := beside.outside
      rw [HandingOver] at handOver
      cases reader : before.reader <;> simp_all [ReaderPc.Outside]
  | handed index buf len readIndex holds writeIndex dataLen reader drainer due =>
      have other : index = !before.writeIndex := by rw [writeIndex, Bool.not_not]
      obtain ⟨held, chunk⟩ := beside.kept buf len (other ▸ holds)
      refine .handed index buf len (beside.readIndex.trans readIndex) (other ▸ held)
        (beside.writeIndex.trans writeIndex) (beside.dataLen.trans dataLen) beside.reader ?_ ?_
      · rw [Draining, beside.drainer, beside.sem]
        exact drainer
      · rw [beside.due, beside.passed, chunk, due]
  | done index readIndex writeIndex sem drainer reader due =>
      exact .done index (beside.readIndex.trans readIndex) (beside.writeIndex.trans writeIndex)
        (beside.sem.trans sem) (beside.drainer.trans drainer) beside.reader
        (by rw [beside.due, beside.passed, due])

theorem not_self (index : Bool) : (!index) ≠ index := by
  cases index <;> decide

theorem apart_alloc {size bufSize : Nat} (inv : Apart before) :
    (∀ index buf, ((before.alloc size bufSize).buffer index).buf = some buf →
        buf < before.next + 1) ∧
      ∀ index buf, ((before.alloc size bufSize).buffer index).buf = some buf →
        ((before.alloc size bufSize).buffer !index).buf ≠ some buf := by
  have held := alloc_held before size bufSize
  constructor
  · intro index buf holds
    by_cases written : index = before.writeIndex
    · rw [written, held, Option.some.injEq] at holds
      omega
    · rw [alloc_other before written] at holds
      exact Nat.lt_succ_of_lt (inv.fresh index buf holds)
  · intro index buf holds both
    by_cases written : index = before.writeIndex
    · rw [written, held, Option.some.injEq] at holds
      rw [written, alloc_other before (not_self _)] at both
      exact absurd (inv.fresh _ _ both) (by omega)
    · have other : (!index) = before.writeIndex := by
        cases index <;> cases write : before.writeIndex <;> simp_all
      rw [alloc_other before written] at holds
      rw [other, held, Option.some.injEq] at both
      exact absurd (inv.fresh _ _ holds) (by omega)

theorem inv_begin {len : Nat} (inv : Inv before) (taken : step config before (.begin len) = some after) :
    Inv after := by
  simp only [step, Option.ite_none_right_eq_some, Option.some.injEq] at taken
  obtain ⟨⟨idle, _⟩, rfl⟩ := taken
  have outside : before.reader.Outside := by
    rw [idle]
    trivial
  have counted : before.counted = before.records.map Prod.fst := by
    have all := inv.counted
    rw [State.inFlight, idle, List.append_nil] at all
    exact all
  rcases getBuffer_cases config before len with ⟨same, held⟩ | ⟨trace, size, bufSize, got⟩
  · rw [same]
    refine ⟨⟨inv.fresh, inv.apart, ?_, ?_, ?_⟩, ?_⟩
    · rintro _ _ ⟨rfl, rfl⟩
      exact held
    · rintro _ _ reader
      exact absurd reader (by simp)
    · exact counted.trans (List.append_nil _).symm
    · exact inv.phase.beside ⟨outside, trivial, rfl, rfl, rfl, rfl, rfl, rfl, rfl,
        fun _ _ held => ⟨held, rfl⟩⟩
  · rw [got]
    have noted : Apart { before with trace := trace } :=
      ⟨inv.fresh, inv.apart, inv.filling, inv.checking, inv.counted⟩
    obtain ⟨fresh, apart⟩ := @apart_alloc _ size bufSize noted
    refine ⟨⟨fresh, apart, ?_, ?_, ?_⟩, ?_⟩
    · rintro _ _ ⟨rfl, rfl⟩
      exact alloc_held { before with trace := trace } size bufSize
    · rintro _ _ reader
      exact absurd reader (by simp)
    · exact counted.trans (List.append_nil _).symm
    · refine inv.phase.beside ⟨outside, trivial, rfl, rfl, rfl, rfl, rfl, rfl, rfl, ?_⟩
      intro buf len held
      refine ⟨?_, alloc_chunk { before with trace := trace } (inv.fresh _ _ held) size bufSize len⟩
      show (({ before with trace := trace }.alloc size bufSize).buffer !before.writeIndex).buf = _
      rw [alloc_other { before with trace := trace } (not_self _)]
      exact held

/-- The other buffer does not have what is written to this one. -/
theorem other_chunk {rxbuff buf len : Nat} {bytes : List UInt8} (inv : Apart before)
    (written : (before.buffer before.writeIndex).buf = some rxbuff)
    (held : (before.buffer !before.writeIndex).buf = some buf) :
    { before with content := Function.update before.content rxbuff bytes }.chunk buf len =
      before.chunk buf len := by
  have apart : buf ≠ rxbuff := by
    rintro rfl
    exact inv.apart _ _ written held
  exact congrArg (List.take len) (Function.update_of_ne apart _ _)

theorem inv_readBlock {data : List UInt8} {ok : Bool} (inv : Inv before)
    (taken : step config before (.readBlock data ok) = some after) : Inv after := by
  obtain ⟨rxbuff, len, reader, rfl⟩ := readBlock_cases taken
  have held := inv.filling rxbuff len reader
  have outside : before.reader.Outside := by
    rw [reader]
    trivial
  have counted : before.counted = before.records.map Prod.fst := by
    have all := inv.counted
    rw [State.inFlight, reader, List.append_nil] at all
    exact all
  cases ok with
  | true =>
      refine ⟨⟨inv.fresh, inv.apart, ?_, ?_, ?_⟩, ?_⟩
      · rintro _ _ reader
        exact absurd reader (by simp [readBlock])
      · rintro _ _ ⟨rfl, rfl⟩
        exact held
      · show before.counted ++ _ = before.records.map Prod.fst ++ _
        rw [counted]
        rfl
      · exact inv.phase.beside ⟨outside, trivial, rfl, rfl, rfl, rfl, rfl, rfl, rfl,
          fun buf len other => ⟨other, other_chunk inv.toApart held other⟩⟩
  | false =>
      refine ⟨⟨inv.fresh, inv.apart, ?_, ?_, ?_⟩, ?_⟩
      · rintro _ _ reader
        exact absurd reader (by simp [readBlock])
      · rintro _ _ reader
        exact absurd reader (by simp [readBlock])
      · exact counted.trans (List.append_nil _).symm
      · exact inv.phase.beside ⟨outside, trivial, rfl, rfl, rfl, rfl, rfl, rfl, rfl,
          fun buf len other => ⟨other, other_chunk inv.toApart held other⟩⟩

/-- The test of `read_index`: the chunk is handed over, or left behind. -/
theorem inv_check {rxbuff len : Nat} (inv : Inv before) (reader : before.reader = .check rxbuff len) :
    Inv (checkIndex before rxbuff len) := by
  have held := inv.checking rxbuff len reader
  have outside : before.reader.Outside := by
    rw [reader]
    trivial
  have counted : before.counted = before.records.map Prod.fst ++ [before.chunk rxbuff len] := by
    have all := inv.counted
    rw [State.inFlight, reader] at all
    exact all
  have noted (outcome : Bool) :
      before.counted = (before.records ++ [(before.chunk rxbuff len, outcome)]).map Prod.fst ++ [] := by
    rw [counted, List.map_append, List.append_nil]
    rfl
  rw [checkIndex]
  cases busy : before.readIndex with
  | none =>
      refine ⟨⟨inv.fresh, inv.apart, ?_, ?_, noted true⟩, ?_⟩
      · rintro _ _ reader
        exact absurd reader (by simp)
      · rintro _ _ reader
        exact absurd reader (by simp)
      · cases inv.phase with
        | free index sem drainer _ due =>
            refine .handing before.writeIndex rxbuff len rfl held sem drainer ⟨rfl, rfl⟩ ?_
            show ((before.records ++ [(before.chunk rxbuff len, true)]).filter Prod.snd).map
              Prod.fst = before.passed ++ [before.chunk rxbuff len]
            rw [← due, List.filter_append, List.map_append]
            rfl
        | handing index buf len readIndex => exact absurd (busy.symm.trans readIndex) (by simp)
        | handed index buf len readIndex => exact absurd (busy.symm.trans readIndex) (by simp)
        | done index readIndex => exact absurd (busy.symm.trans readIndex) (by simp)
  | some other =>
      refine ⟨⟨inv.fresh, inv.apart, ?_, ?_, noted false⟩, ?_⟩
      · rintro _ _ reader
        exact absurd reader (by simp)
      · rintro _ _ reader
        exact absurd reader (by simp)
      · refine inv.phase.beside ⟨outside, trivial, busy.symm, rfl, rfl, ?_, rfl, rfl, rfl,
          fun _ _ held => ⟨held, rfl⟩⟩
        show ((before.records ++ [(before.chunk rxbuff len, false)]).filter Prod.snd).map Prod.fst = _
        rw [List.filter_append]
        simp [State.due]

/-- Between the test and the semaphore, the chunk is being handed over. -/
structure Handing (state : State) (index : Bool) (buf len : Nat) : Prop where
  readIndex : state.readIndex = some index
  holds : (state.buffer index).buf = some buf
  sem : state.sem = 0
  drainer : state.drainer = .wait
  handOver : HandingOver state index len
  due : state.due = state.passed ++ [state.chunk buf len]

theorem Phase.handing_of (phase : Phase state) (inside : ¬ state.reader.Outside) :
    ∃ index buf len, Handing state index buf len := by
  cases phase with
  | free _ _ _ reader => exact absurd reader inside
  | handing index buf len readIndex holds sem drainer handOver due =>
      exact ⟨index, buf, len, readIndex, holds, sem, drainer, handOver, due⟩
  | handed _ _ _ _ _ _ _ reader => exact absurd reader inside
  | done _ _ _ _ _ reader => exact absurd reader inside

/-- The reader has gone on by a statement that leaves the buffers as they are. -/
theorem apart_handing (inv : Apart before) (inside : ¬ before.reader.Outside)
    (reader : ReaderPc) (quiet : reader = .flip ∨ reader = .post ∨ reader = .idle)
    (dataLen : Nat) (writeIndex : Bool) (sem : Nat) :
    Apart { before with
      reader := reader, readDataLen := dataLen, writeIndex := writeIndex, sem := sem } := by
  have none : before.inFlight = [] := by
    rw [State.inFlight]
    cases pc : before.reader <;> simp_all [ReaderPc.Outside]
  have counted := inv.counted
  rw [none] at counted
  rcases quiet with rfl | rfl | rfl
  · exact ⟨inv.fresh, inv.apart, fun _ _ pc => absurd pc (by simp), fun _ _ pc => absurd pc (by simp),
      counted⟩
  · exact ⟨inv.fresh, inv.apart, fun _ _ pc => absurd pc (by simp), fun _ _ pc => absurd pc (by simp),
      counted⟩
  · exact ⟨inv.fresh, inv.apart, fun _ _ pc => absurd pc (by simp), fun _ _ pc => absurd pc (by simp),
      counted⟩

theorem inv_reader (inv : Inv before) (taken : step config before .reader = some after) :
    Inv after := by
  cases reader_cases taken with
  | checks rxbuff len reader => exact inv_check inv reader
  | setsLen held reader =>
      have inside : ¬ before.reader.Outside := by simp [reader, ReaderPc.Outside]
      obtain ⟨index, buf, len, handing⟩ := inv.phase.handing_of inside
      have handOver := handing.handOver
      rw [HandingOver, reader] at handOver
      exact ⟨apart_handing inv.toApart inside .flip (.inl rfl) held before.writeIndex before.sem,
        .handing index buf len handing.readIndex handing.holds handing.sem handing.drainer handOver
          handing.due⟩
  | flips reader =>
      have inside : ¬ before.reader.Outside := by simp [reader, ReaderPc.Outside]
      obtain ⟨index, buf, len, handing⟩ := inv.phase.handing_of inside
      have handOver := handing.handOver
      rw [HandingOver, reader] at handOver
      exact ⟨apart_handing inv.toApart inside .post (.inr (.inl rfl)) before.readDataLen
          (!before.writeIndex) before.sem,
        .handing index buf len handing.readIndex handing.holds handing.sem handing.drainer
          ⟨handOver.1, congrArg not handOver.2⟩ handing.due⟩
  | posts reader =>
      have inside : ¬ before.reader.Outside := by simp [reader, ReaderPc.Outside]
      obtain ⟨index, buf, len, handing⟩ := inv.phase.handing_of inside
      have handOver := handing.handOver
      rw [HandingOver, reader] at handOver
      exact ⟨apart_handing inv.toApart inside .idle (.inr (.inr rfl)) before.readDataLen
          before.writeIndex (before.sem + 1),
        .handed index buf len handing.readIndex handing.holds handOver.2 handOver.1 trivial
          (.inl ⟨handing.drainer, congrArg (· + 1) handing.sem⟩) handing.due⟩

/-- The drainer leaves the buffers and the reader as they are. -/
theorem apart_drained (inv : Apart before) (drainer : DrainerPc) (readIndex : Option Bool)
    (sem : Nat) (passed : List (List UInt8)) (trace : List (Nat × Fate)) :
    Apart { before with
      drainer := drainer, readIndex := readIndex, sem := sem, passed := passed, trace := trace } :=
  ⟨inv.fresh, inv.apart, inv.filling, inv.checking, inv.counted⟩

theorem inv_drainer (inv : Inv before) (taken : step config before .drainer = some after) :
    Inv after := by
  simp only [step, drainerStep] at taken
  cases inv.phase with
  | free index sem drainer reader due =>
      simp [drainer, sem] at taken
  | handing index buf len readIndex holds sem drainer handOver due =>
      simp [drainer, sem] at taken
  | handed index buf len readIndex holds writeIndex dataLen reader drainer due =>
      rcases drainer with ⟨drainer, sem⟩ | ⟨sem, drainer | drainer | drainer | drainer⟩
      · rw [drainer] at taken
        simp only [sem, Nat.one_ne_zero, if_false] at taken
        obtain rfl := Option.some.inj taken
        exact ⟨apart_drained inv.toApart .look before.readIndex (1 - 1) before.passed before.trace,
          .handed index buf len readIndex holds writeIndex dataLen reader
            (.inr ⟨rfl, .inl rfl⟩) due⟩
      · rw [drainer] at taken
        simp only [readIndex] at taken
        obtain rfl := Option.some.inj taken
        exact ⟨apart_drained inv.toApart .fetch _ before.sem before.passed before.trace,
          .handed index buf len rfl holds writeIndex dataLen reader
            (.inr ⟨sem, .inr (.inl rfl)⟩) due⟩
      · rw [drainer] at taken
        simp only [readIndex, Option.bind_some, holds, Option.map_some] at taken
        obtain rfl := Option.some.inj taken
        exact ⟨apart_drained inv.toApart (.fetchLen buf) _ before.sem before.passed before.trace,
          .handed index buf len rfl holds writeIndex dataLen reader
            (.inr ⟨sem, .inr (.inr (.inl rfl))⟩) due⟩
      · rw [drainer] at taken
        obtain rfl := Option.some.inj taken
        exact ⟨apart_drained inv.toApart (.push buf before.readDataLen) before.readIndex before.sem
            before.passed before.trace,
          .handed index buf len readIndex holds writeIndex dataLen reader
            (.inr ⟨sem, .inr (.inr (.inr (congrArg (DrainerPc.push buf) dataLen)))⟩) due⟩
      · rw [drainer] at taken
        obtain rfl := Option.some.inj taken
        exact ⟨apart_drained inv.toApart .reset before.readIndex before.sem _ _,
          .done index readIndex writeIndex sem rfl reader due⟩
  | done index readIndex writeIndex sem drainer reader due =>
      rw [drainer] at taken
      obtain rfl := Option.some.inj taken
      exact ⟨apart_drained inv.toApart .wait none before.sem before.passed before.trace,
        .free rfl sem rfl reader due⟩

theorem inv_step {act : Act} (inv : Inv before) (taken : step config before act = some after) :
    Inv after := by
  cases act with
  | begin len => exact inv_begin inv taken
  | readBlock data ok => exact inv_readBlock inv taken
  | reader => exact inv_reader inv taken
  | drainer => exact inv_drainer inv taken

theorem inv_reached {guard : State → Act → Prop} (run : Run (step config) guard init state) :
    Inv state :=
  run.invariant inv_init fun _ _ _ _ inv _ taken => inv_step inv taken

/-! What is passed on. -/

/-- The buffer that is filled is never the one that is drained. -/
theorem Inv.exclusive (inv : Inv state) {rxbuff len buf : Nat}
    (filling : state.reader = .filling rxbuff len) (draining : state.draining = some buf) :
    rxbuff ≠ buf := by
  have written := inv.filling rxbuff len filling
  rw [State.draining] at draining
  cases inv.phase with
  | free _ _ drainer => simp [drainer] at draining
  | handing index held size _ _ _ drainer => simp [drainer] at draining
  | done _ _ _ _ drainer => simp [drainer] at draining
  | handed index held size readIndex holds writeIndex dataLen reader drainer due =>
      have same : held = buf := by
        rcases drainer with ⟨drainer, _⟩ | ⟨_, drainer | drainer | drainer | drainer⟩
        · simp [drainer] at draining
        · simp [drainer] at draining
        · simp [drainer] at draining
        · simpa [drainer] using draining
        · simpa [drainer] using draining
      rintro rfl
      rw [same] at holds
      rw [writeIndex] at written
      exact inv.apart index rxbuff holds written

/-- At most one chunk that was handed over has not been passed yet. -/
theorem Inv.pending (inv : Inv state) :
    ∃ pending, state.due = state.passed ++ pending ∧ pending.length ≤ 1 ∧
      (state.Quiet → pending = []) := by
  cases inv.phase with
  | free _ _ _ _ due => exact ⟨[], by rw [due, List.append_nil], by simp, fun _ => rfl⟩
  | done _ _ _ _ drainer _ due => exact ⟨[], by rw [due, List.append_nil], by simp, fun _ => rfl⟩
  | handing index buf len _ _ _ _ handOver due =>
      refine ⟨_, due, by simp, fun quiet => ?_⟩
      rw [HandingOver, quiet.1] at handOver
      exact handOver.elim
  | handed index buf len _ _ _ _ _ drainer due =>
      refine ⟨_, due, by simp, fun quiet => ?_⟩
      have sem := quiet.2.2
      have wait := quiet.2.1
      rcases drainer with ⟨_, one⟩ | ⟨_, drainer | drainer | drainer | drainer⟩
      · omega
      all_goals simp [wait] at drainer

def DrainerPc.rank : DrainerPc → Nat
  | .wait => 5
  | .look => 4
  | .fetch => 3
  | .fetchLen _ => 2
  | .push .. => 1
  | .reset => 0

/-- How many statements are left until the chunk that was handed over is passed. -/
def State.rank (state : State) : Nat :=
  match state.reader with
  | .setLen _ => 8
  | .flip => 7
  | .post => 6
  | .idle | .filling .. | .check .. => state.drainer.rank

/-- A step of one of the tasks by themselves. -/
def Act.Internal (act : Act) : Prop := act = .reader ∨ act = .drainer

theorem rank_outside (reader : state.reader.Outside) : state.rank = state.drainer.rank := by
  rw [State.rank]
  cases pc : state.reader <;> simp_all [ReaderPc.Outside]

theorem due_progress (config : Config) (inv : Inv state) (waiting : state.due ≠ state.passed) :
    ∃ act after, act.Internal ∧ step config state act = some after ∧ after.due = state.due ∧
      after.rank < state.rank := by
  cases inv.phase with
  | free _ _ _ _ due => exact absurd due waiting
  | done _ _ _ _ _ _ due => exact absurd due waiting
  | handing index buf len readIndex holds sem drainer handOver due =>
      rw [HandingOver] at handOver
      cases reader : state.reader with
      | idle => simp [reader] at handOver
      | filling rxbuff size => simp [reader] at handOver
      | check rxbuff size => simp [reader] at handOver
      | setLen size =>
          refine ⟨.reader, { state with reader := .flip, readDataLen := size }, .inl rfl, ?_, rfl, ?_⟩
          · simp only [step, readerStep, reader]
          · simp only [State.rank, reader]
            decide
      | flip =>
          refine ⟨.reader, { state with reader := .post, writeIndex := !state.writeIndex },
            .inl rfl, ?_, rfl, ?_⟩
          · simp only [step, readerStep, reader]
          · simp only [State.rank, reader]
            decide
      | post =>
          refine ⟨.reader, { state with reader := .idle, sem := state.sem + 1 },
            .inl rfl, ?_, rfl, ?_⟩
          · simp only [step, readerStep, reader]
          · simp only [State.rank, reader, drainer]
            decide
  | handed index buf len readIndex holds writeIndex dataLen reader drainer due =>
      have rank := rank_outside reader
      rcases drainer with ⟨drainer, sem⟩ | ⟨sem, drainer | drainer | drainer | drainer⟩
      · refine ⟨.drainer, { state with drainer := .look, sem := state.sem - 1 }, .inr rfl, ?_, rfl, ?_⟩
        · simp only [step, drainerStep, drainer, sem, Nat.one_ne_zero, if_false]
        · rw [rank, drainer, rank_outside (by exact reader)]
          exact Nat.lt_succ_self 4
      · refine ⟨.drainer, { state with drainer := .fetch }, .inr rfl, ?_, rfl, ?_⟩
        · simp only [step, drainerStep, drainer, readIndex]
        · rw [rank, drainer, rank_outside (by exact reader)]
          exact Nat.lt_succ_self 3
      · refine ⟨.drainer, { state with drainer := .fetchLen buf }, .inr rfl, ?_, rfl, ?_⟩
        · simp only [step, drainerStep, drainer, readIndex, Option.bind_some, holds, Option.map_some]
        · rw [rank, drainer, rank_outside (by exact reader)]
          exact Nat.lt_succ_self 2
      · refine ⟨.drainer, { state with drainer := .push buf state.readDataLen }, .inr rfl, ?_, rfl, ?_⟩
        · simp only [step, drainerStep, drainer]
        · rw [rank, drainer, rank_outside (by exact reader)]
          exact Nat.lt_succ_self 1
      · refine ⟨.drainer, { state with
          drainer := .reset, passed := state.passed ++ [state.chunk buf len],
          trace := state.trace ++ pushFate config (state.content buf) buf }, .inr rfl, ?_, rfl, ?_⟩
        · simp only [step, drainerStep, drainer]
        · rw [rank, drainer, rank_outside (by exact reader)]
          exact Nat.lt_succ_self 0

/-- What was handed over is passed by the tasks themselves, whatever the bus does. -/
theorem due_passed (config : Config) (inv : Inv state) :
    ∃ acts after, (∀ act ∈ acts, act.Internal) ∧ exec (step config) state acts = some after ∧
      after.passed = state.due := by
  induction rank : state.rank using Nat.strong_induction_on generalizing state with
  | _ rank ih =>
    by_cases waiting : state.due = state.passed
    · exact ⟨[], state, fun _ none => absurd none List.not_mem_nil, rfl, waiting.symm⟩
    · obtain ⟨act, next, internal, taken, due, less⟩ := due_progress config inv waiting
      obtain ⟨acts, after, all, came, passed⟩ :=
        ih next.rank (by omega) (inv_step inv taken) rfl
      refine ⟨act :: acts, after, List.forall_mem_cons.mpr ⟨internal, all⟩, ?_, passed.trans due⟩
      rw [exec, taken]
      exact came

/-- The buffers are kept apart. The chunks that were read come to the test of `read_index` one
after the other, and those that find it -1 are passed exactly once and in their order: at most
one of them is not passed yet, none when nothing is on its way, and the tasks pass it by
themselves. -/
theorem double_buffer (config : Config) (run : Run (step config) unguarded init state) :
    (∀ rxbuff len buf, state.reader = .filling rxbuff len → state.draining = some buf →
        rxbuff ≠ buf) ∧
      state.counted = state.records.map Prod.fst ++ state.inFlight ∧
      (∃ pending, state.due = state.passed ++ pending ∧ pending.length ≤ 1 ∧
        (state.Quiet → pending = [])) ∧
      ∃ acts after, (∀ act ∈ acts, act.Internal) ∧ exec (step config) state acts = some after ∧
        after.passed = state.due := by
  have inv := inv_reached run
  exact ⟨fun _ _ _ => inv.exclusive, inv.counted, inv.pending, due_passed config inv⟩

/-- Two chunks of one byte; the drainer has not run when the second one is complete. -/
def lateDrainer : List Act :=
  [.begin 1, .readBlock [1] true, .reader, .reader, .reader, .reader, .begin 1,
    .readBlock [2] true, .reader, .drainer, .drainer, .drainer, .drainer, .drainer, .drainer]

theorem double_buffer_late :
    ∃ state, Run (step ⟨true, false, true⟩) unguarded init state ∧
      (∃ pending, state.due = state.passed ++ pending ∧ pending.length ≤ 1 ∧
        (state.Quiet → pending = [])) := by
  obtain ⟨state, came⟩ : ∃ state, exec (step ⟨true, false, true⟩) init lateDrainer = some state :=
    Option.isSome_iff_exists.mp (by decide)
  have run := exec_run lateDrainer came
  exact ⟨state, run, (double_buffer ⟨true, false, true⟩ run).2.2.1⟩

/-- Both chunks were read and counted, nothing is on its way, and the second one was not passed. -/
theorem late_chunk_dropped :
    ∃ state, Run (step ⟨true, false, true⟩) unguarded init state ∧ state.Quiet ∧
      state.counted = [[1], [2]] ∧ state.passed = [[1]] := by
  obtain ⟨state, came⟩ : ∃ state, exec (step ⟨true, false, true⟩) init lateDrainer = some state :=
    Option.isSome_iff_exists.mp (by decide)
  have ended : (exec (step ⟨true, false, true⟩) init lateDrainer).map
      (fun state => (state.reader, state.drainer, state.sem, state.counted, state.passed)) =
      some (.idle, .wait, 0, [[1], [2]], [[1]]) := rfl
  rw [came, Option.map_some, Option.some.injEq] at ended
  simp only [Prod.mk.injEq] at ended
  obtain ⟨reader, drainer, sem, counted, passed⟩ := ended
  exact ⟨state, exec_run lateDrainer came, ⟨reader, drainer, sem⟩, counted, passed⟩

end EspHosted.SdioDoubleBuffer

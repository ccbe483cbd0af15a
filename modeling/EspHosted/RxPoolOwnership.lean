import EspHosted.ReadCounters
import EspHosted.ResourceTrace
import EspHosted.SdioDoubleBuffer

/-!
What becomes of the receive buffers that `spi_hd_read_task`, and in packet mode
`sdio_read_task`, take from the pool of the driver. A valid packet is queued and a failed SDIO
block read gives its buffer back. A packet that is not queued is dropped with `HOSTED_FREE`,
which is not the free function of the pool; a failed SPI-HD transfer, and an SDIO chunk that
comes while the drainer is busy, leave the buffer to nobody.
-/

namespace EspHosted.RxPoolOwnership
open SpiFrames HostFrames RxPackets GuardedRun ResourceTrace
open ReadCounters.SpiHd (sizeToXfer txBufLenMask)
open SdioDoubleBuffer (Fate State Act Inv Phase ReaderPc DrainerPc Draining HandingOver step init
  pushFate readBlock checkIndex)

/-- Once given back through the pool or queued, and nothing else. -/
structure Settled (fates : List Fate) : Prop where
  once : fates.count .poolFreed + fates.count .queued = 1
  heap : .heapFreed ∉ fates

instance (fates : List Fate) : Decidable (Settled fates) :=
  decidable_of_iff (fates.count .poolFreed + fates.count .queued = 1 ∧ .heapFreed ∉ fates)
    ⟨fun both => ⟨both.1, both.2⟩, fun settled => ⟨settled.once, settled.heap⟩⟩

/-! SPI-HD. -/

/-- A round of `spi_hd_read_task`: the register, none when it cannot be read, what the DMA
brings, and whether it succeeds. -/
structure Transfer where
  value : Option UInt32
  data : List UInt8
  dmaOk : Bool

/-- The zeroed buffer behind the transfer. -/
def Transfer.rxbuff (transfer : Transfer) (config : RxConfig) : List UInt8 :=
  putAt (List.replicate config.bufferSize 0) 0 transfer.data

/-- `update_flow_ctrl`: the packet was only a throttle command. -/
def updateFlowCtrl (rxbuff : List UInt8) : Bool := (decodeHeader rxbuff).throttleCmd ≠ 0

def spiHdPushDataToQueue (config : RxConfig) (buf : List UInt8) : Fate :=
  if updateFlowCtrl buf then .heapFreed
  else if (isValidRxPacket config buf).found.isSome then .queued
  else .heapFreed

/-- `spi_hd_rx_byte_count` behind the round, and what became of its buffer, if it took one. -/
def spiHdReadRound (config : RxConfig) (rxByteCount : UInt32) (transfer : Transfer) :
    UInt32 × Option (List Fate) :=
  match transfer.value with
  | none => (rxByteCount, none)
  | some value =>
      let size := sizeToXfer rxByteCount value
      if size = 0 then (rxByteCount, none)
      else
        ((rxByteCount + size) &&& txBufLenMask,
          -- error reading data: continue
          if !transfer.dmaOk then some [.taken]
          else some [.taken, spiHdPushDataToQueue config (transfer.rxbuff config)])

/-- One list of fates for each buffer. -/
def spiHdReadTask (config : RxConfig) : UInt32 → List Transfer → List (List Fate)
  | _, [] => []
  | rxByteCount, transfer :: rest =>
      let round := spiHdReadRound config rxByteCount transfer
      round.2.toList ++ spiHdReadTask config round.1 rest

/-- The register says that there is something to read. -/
def Transfer.Reads (transfer : Transfer) (rxByteCount : UInt32) : Prop :=
  ∃ value, transfer.value = some value ∧ sizeToXfer rxByteCount value ≠ 0

/-- The DMA succeeds and brings a valid packet that is no flow control. -/
structure Transfer.Kept (transfer : Transfer) (config : RxConfig) : Prop where
  dmaOk : transfer.dmaOk = true
  noFlowCtrl : updateFlowCtrl (transfer.rxbuff config) = false
  valid : (isValidRxPacket config (transfer.rxbuff config)).found.isSome = true

def AllKept (config : RxConfig) : UInt32 → List Transfer → Prop
  | _, [] => True
  | rxByteCount, transfer :: rest =>
      (transfer.Reads rxByteCount → transfer.Kept config) ∧
        AllKept config (spiHdReadRound config rxByteCount transfer).1 rest

variable {config : RxConfig}

theorem round_settled_iff (rxByteCount : UInt32) (transfer : Transfer) :
    (∀ fates ∈ (spiHdReadRound config rxByteCount transfer).2, Settled fates) ↔
      (transfer.Reads rxByteCount → transfer.Kept config) := by
  rw [spiHdReadRound]
  cases register : transfer.value with
  | none =>
      refine iff_of_true (fun _ none => absurd none (by simp)) ?_
      rintro ⟨value, same, _⟩
      rw [register] at same
      exact absurd same (by simp)
  | some value =>
      dsimp only
      by_cases nothing : sizeToXfer rxByteCount value = 0
      · rw [if_pos nothing]
        refine iff_of_true (fun _ none => absurd none (by simp)) ?_
        rintro ⟨again, same, some_size⟩
        rw [register, Option.some.injEq] at same
        exact absurd (same ▸ nothing) some_size
      · rw [if_neg nothing]
        have reads : transfer.Reads rxByteCount := ⟨value, register, nothing⟩
        rw [forall_prop_of_true reads]
        cases dma : transfer.dmaOk with
        | false =>
            refine iff_of_false (fun settled => ?_) fun kept => absurd kept.dmaOk (by simp [dma])
            exact absurd (settled [.taken] rfl) (by decide)
        | true =>
            simp only [Bool.not_true, Bool.false_eq_true, if_false, Option.mem_def,
              Option.some.injEq, forall_eq', spiHdPushDataToQueue]
            cases flow : updateFlowCtrl (transfer.rxbuff config) with
            | true =>
                rw [if_pos rfl]
                exact iff_of_false (by decide) fun kept => absurd kept.noFlowCtrl (by simp [flow])
            | false =>
                rw [if_neg Bool.false_ne_true]
                cases valid : (isValidRxPacket config (transfer.rxbuff config)).found.isSome with
                | true => exact iff_of_true (by decide) ⟨dma, flow, valid⟩
                | false => exact iff_of_false (by decide) fun kept => absurd kept.valid (by simp [valid])

theorem spiHd_settled_iff (rxByteCount : UInt32) (transfers : List Transfer) :
    (∀ fates ∈ spiHdReadTask config rxByteCount transfers, Settled fates) ↔
      AllKept config rxByteCount transfers := by
  induction transfers generalizing rxByteCount with
  | nil => exact iff_of_true (fun _ none => absurd none List.not_mem_nil) trivial
  | cons transfer rest ih =>
      rw [spiHdReadTask, AllKept, ← ih, ← round_settled_iff, List.forall_mem_append]
      simp only [Option.mem_toList, Option.mem_def]

/-! SDIO in packet mode. -/

/-- What became of a buffer. -/
def fatesOf (id : Nat) (trace : List (Nat × Fate)) : List Fate :=
  (trace.filter fun event => event.1 = id).map Prod.snd

/-- Going back through the pool and going into a queue both end the part of the read task. -/
def useOf : Nat × Fate → Option (Nat × Use)
  | (id, .taken) => some (id, .take)
  | (id, .poolFreed) | (id, .queued) => some (id, .giveBack)
  | (_, .heapFreed) => none

def readerHolds : ReaderPc → List Nat
  | .filling rxbuff _ | .check rxbuff _ => [rxbuff]
  | .idle | .setLen _ | .flip | .post => []

/-- The buffer that was handed over, until it is pushed. -/
def handedHolds (state : State) : List Nat :=
  match state.readIndex with
  | none => []
  | some index => if state.drainer = .reset then [] else (state.buffer index).buf.toList

/-- The buffers that are on their way. -/
def held (state : State) : List Nat := readerHolds state.reader ++ handedHolds state

/-- No chunk finds the drainer busy, and what is pushed is a valid packet. -/
def Kept (config : SdioDoubleBuffer.Config) (state : State) (act : Act) : Prop :=
  (act = .reader → ∀ rxbuff len, state.reader = .check rxbuff len → state.readIndex = none) ∧
    (act = .drainer → ∀ buf len, state.drainer = .push buf len →
      (isValidRxPacket (sdioConfig config.checksum) (state.content buf)).found.isSome = true)

/-- Every buffer on its way is held once, the others are settled, and none went to the heap. -/
structure PoolInv (state : State) : Prop where
  holding : Holding (state.trace.filterMap useOf) (held state) state.next
  heap : ∀ id, (id, Fate.heapFreed) ∉ state.trace

variable {mode : SdioDoubleBuffer.Config} {state before after : State}

theorem poolInv_init : PoolInv init := ⟨holding_nil, fun _ none => absurd none List.not_mem_nil⟩

theorem pool_take (inv : PoolInv before) (same : after.trace = before.trace ++ [(before.next, .taken)])
    (next : after.next = before.next + 1) (more : (before.next :: held before).Perm (held after)) :
    PoolInv after := by
  refine ⟨?_, fun id freed => ?_⟩
  · rw [same, next, List.filterMap_append]
    exact inv.holding.take.perm more
  · rw [same] at freed
    rcases List.mem_append.mp freed with old | new
    · exact inv.heap id old
    · exact absurd new (by simp)

theorem pool_giveBack {id : Nat} {fate : Fate} (inv : PoolInv before)
    (fair : fate = .poolFreed ∨ fate = .queued)
    (same : after.trace = before.trace ++ [(id, fate)]) (next : after.next = before.next)
    (less : (held before).Perm (id :: held after)) : PoolInv after := by
  have use : useOf (id, fate) = some (id, .giveBack) := by
    rcases fair with rfl | rfl <;> rfl
  refine ⟨?_, fun other freed => ?_⟩
  · have one : [(id, fate)].filterMap useOf = [(id, .giveBack)] := by
      rw [List.filterMap_cons_some use]
      rfl
    rw [same, next, List.filterMap_append, one]
    exact (inv.holding.perm less).giveBack
  · rw [same] at freed
    rcases List.mem_append.mp freed with old | new
    · exact inv.heap other old
    · rcases fair with rfl | rfl <;> exact absurd new (by simp)

theorem pool_same (inv : PoolInv before) (same : after.trace = before.trace)
    (next : after.next = before.next) (moved : (held before).Perm (held after)) : PoolInv after := by
  refine ⟨?_, ?_⟩
  · rw [same, next]
    exact inv.holding.perm moved
  · rw [same]
    exact inv.heap

/-- The index that is read is not written, except in the hand-over. -/
theorem read_apart {index : Bool} (phase : Phase state) (outside : state.reader.Outside)
    (reading : state.readIndex = some index) : state.writeIndex = !index := by
  cases phase with
  | free none => exact absurd (none.symm.trans reading) (by simp)
  | handing held buf len readIndex holds sem drainer handOver due =>
      rw [HandingOver] at handOver
      cases reader : state.reader <;> simp_all [ReaderPc.Outside]
  | handed held buf len readIndex holds writeIndex =>
      rw [readIndex, Option.some.injEq] at reading
      exact reading ▸ writeIndex
  | done held readIndex writeIndex =>
      rw [readIndex, Option.some.injEq] at reading
      exact reading ▸ writeIndex

theorem handed_same (readIndex : after.readIndex = before.readIndex)
    (drainer : after.drainer = .reset ↔ before.drainer = .reset)
    (buffer : ∀ index, before.readIndex = some index →
      (after.buffer index).buf = (before.buffer index).buf) : handedHolds after = handedHolds before := by
  rw [handedHolds, handedHolds, readIndex]
  cases index : before.readIndex with
  | none => rfl
  | some index =>
      dsimp only
      rw [buffer _ index]
      simp only [drainer]

theorem pool_begin {len : Nat} (packet : mode.streaming = false) (inv : PoolInv before)
    (phase : Inv before) (taken : step mode before (.begin len) = some after) : PoolInv after := by
  simp only [step, SdioDoubleBuffer.sdioRxGetBuffer, packet, Option.ite_none_right_eq_some,
    Option.some.injEq, Bool.false_eq_true, if_false] at taken
  obtain ⟨⟨idle, _⟩, same⟩ := taken
  have outside : before.reader.Outside := by
    rw [idle]
    trivial
  have reader : after.reader = .filling before.next len := by rw [← same]
  have handed : handedHolds after = handedHolds before := by
    apply handed_same
    · rw [← same]
      rfl
    · rw [← same]
      exact Iff.rfl
    · intro index reading
      have unwritten : index ≠ before.writeIndex := by
        rw [read_apart phase.phase outside reading]
        exact (SdioDoubleBuffer.not_self index).symm
      rw [← same]
      exact congrArg SdioDoubleBuffer.BufInfo.buf (Function.update_of_ne unwritten _ _)
  refine pool_take inv ?_ ?_ ?_
  · rw [← same]
    rfl
  · rw [← same]
    rfl
  · rw [held, held, reader, handed, idle]
    exact List.Perm.refl _

theorem pool_readBlock {data : List UInt8} {ok : Bool} (packet : mode.streaming = false)
    (inv : PoolInv before) (taken : step mode before (.readBlock data ok) = some after) :
    PoolInv after := by
  obtain ⟨rxbuff, len, reader, rfl⟩ := SdioDoubleBuffer.readBlock_cases taken
  cases ok with
  | true =>
      refine pool_same inv rfl rfl ?_
      rw [held, reader]
      exact List.Perm.refl _
  | false =>
      refine @pool_giveBack before _ rxbuff .poolFreed inv (.inl rfl) ?_ rfl ?_
      · show before.trace ++ SdioDoubleBuffer.sdioRxFreeBuffer mode rxbuff = _
        rw [SdioDoubleBuffer.sdioRxFreeBuffer, packet, if_neg Bool.false_ne_true]
      · rw [held, reader]
        exact List.Perm.refl _

theorem pool_reader (inv : PoolInv before) (phase : Inv before)
    (kept : ∀ rxbuff len, before.reader = .check rxbuff len → before.readIndex = none)
    (taken : step mode before .reader = some after) : PoolInv after := by
  cases SdioDoubleBuffer.reader_cases taken with
  | checks rxbuff len reader =>
      have idle := kept rxbuff len reader
      have holds := phase.checking rxbuff len reader
      have waiting : before.drainer ≠ .reset := by
        cases phase.phase with
        | free _ _ drainer => simp [drainer]
        | handing _ _ _ readIndex => exact absurd (idle.symm.trans readIndex) (by simp)
        | handed _ _ _ readIndex => exact absurd (idle.symm.trans readIndex) (by simp)
        | done _ readIndex => exact absurd (idle.symm.trans readIndex) (by simp)
      rw [checkIndex, idle]
      refine pool_same inv rfl rfl ?_
      rw [held, held, handedHolds, handedHolds, reader, idle]
      dsimp only
      rw [if_neg waiting, holds]
      exact List.Perm.refl _
  | setsLen _ reader | flips reader | posts reader =>
      refine pool_same inv rfl rfl ?_
      rw [held, reader]
      exact List.Perm.refl _

theorem pushed_holds {buf len : Nat} (phase : Phase state) (drainer : state.drainer = .push buf len) :
    handedHolds state = [buf] := by
  cases phase with
  | free _ _ waiting => exact absurd (waiting.symm.trans drainer) (by simp)
  | handing _ _ _ _ _ _ waiting => exact absurd (waiting.symm.trans drainer) (by simp)
  | done _ _ _ _ reset => exact absurd (reset.symm.trans drainer) (by simp)
  | handed index own size readIndex holds writeIndex dataLen reader draining =>
      have pushes : state.sem = 0 ∧ buf = own ∧ len = size := by
        simpa [Draining, drainer] using draining
      have same : own = buf := pushes.2.1.symm
      rw [handedHolds, readIndex, drainer]
      dsimp only
      rw [if_neg (by simp), holds, same]
      rfl

theorem pool_drainer (packet : mode.streaming = false) (inv : PoolInv before) (phase : Inv before)
    (kept : ∀ buf len, before.drainer = .push buf len →
      (isValidRxPacket (sdioConfig mode.checksum) (before.content buf)).found.isSome = true)
    (taken : step mode before .drainer = some after) : PoolInv after := by
  cases SdioDoubleBuffer.drainer_cases taken with
  | moves pc sem was is =>
      refine pool_same inv rfl rfl ?_
      rw [held, held, @handed_same before { before with drainer := pc, sem := sem } rfl
        (iff_of_false is was) fun _ _ => rfl]
  | pushes buf len drainer =>
      have fate : pushFate mode (before.content buf) buf = [(buf, .queued)] := by
        rw [pushFate, packet, if_neg Bool.false_ne_true, if_pos (kept buf len drainer)]
      refine @pool_giveBack before _ buf .queued inv (.inr rfl) ?_ rfl ?_
      · show before.trace ++ pushFate mode (before.content buf) buf = _
        rw [fate]
      · have pushed : handedHolds before = [buf] := pushed_holds phase.phase drainer
        have gone : handedHolds { before with
            drainer := .reset, passed := before.passed ++ [before.chunk buf len],
            trace := before.trace ++ pushFate mode (before.content buf) buf } = [] := by
          rw [handedHolds]
          cases before.readIndex <;> rfl
        rw [held, held, pushed, gone, List.append_nil]
        exact List.perm_append_singleton buf _
  | resets drainer =>
      have gone : handedHolds before = [] := by
        rw [handedHolds, drainer]
        cases before.readIndex <;> rfl
      refine pool_same inv rfl rfl ?_
      rw [held, held, gone]
      exact List.Perm.refl _

theorem poolInv_reached (packet : mode.streaming = false)
    (run : Run (step mode) (Kept mode) init state) : PoolInv state := by
  refine run.invariant poolInv_init ?_
  intro before act after prior inv kept taken
  have phase := SdioDoubleBuffer.inv_reached prior
  cases act with
  | begin len => exact pool_begin packet inv phase taken
  | readBlock data ok => exact pool_readBlock packet inv taken
  | reader => exact pool_reader inv phase (kept.1 rfl) taken
  | drainer => exact pool_drainer packet inv phase (kept.2 rfl) taken

theorem fatesOf_count (id : Nat) (fate : Fate) (trace : List (Nat × Fate)) :
    (fatesOf id trace).count fate = trace.count (id, fate) := by
  induction trace with
  | nil => rfl
  | cons event rest ih =>
      obtain ⟨other, done⟩ := event
      rw [fatesOf] at ih ⊢
      by_cases same : other = id
      · subst same
        simp [List.count_cons, ih]
      · simp [same, ih]

theorem uses_count (id : Nat) (trace : List (Nat × Fate)) :
    (trace.filterMap useOf).count (id, .giveBack) =
      trace.count (id, .poolFreed) + trace.count (id, .queued) := by
  induction trace with
  | nil => rfl
  | cons event rest ih =>
      obtain ⟨other, fate⟩ := event
      cases fate with
      | taken => simp [useOf, ih]
      | heapFreed =>
          rw [List.filterMap_cons_none rfl, ih]
          simp
      | poolFreed =>
          simp only [useOf, List.filterMap_cons, List.count_cons, ih]
          by_cases same : other = id <;> simp [same]
          omega
      | queued =>
          simp only [useOf, List.filterMap_cons, List.count_cons, ih]
          by_cases same : other = id <;> simp [same]
          omega

theorem uses_taken {id : Nat} {trace : List (Nat × Fate)} (taken : (id, Fate.taken) ∈ trace) :
    (id, Use.take) ∈ trace.filterMap useOf :=
  List.mem_filterMap.mpr ⟨_, taken, rfl⟩

/-- A buffer that was taken and is on its way no more is settled. -/
theorem PoolInv.settled (inv : PoolInv state) {id : Nat} (taken : (id, Fate.taken) ∈ state.trace)
    (done : id ∉ held state) : Settled (fatesOf id state.trace) := by
  have once := inv.holding.settled (List.count_eq_zero.mpr done) (uses_taken taken)
  rw [uses_count] at once
  refine ⟨?_, fun freed => ?_⟩
  · rw [fatesOf_count, fatesOf_count, once]
  · have positive := List.count_pos_iff.mpr freed
    rw [fatesOf_count] at positive
    exact inv.heap id (List.count_pos_iff.mp positive)

theorem quiet_holds (phase : Phase state) (quiet : state.Quiet) : held state = [] := by
  obtain ⟨reader, wait, sem⟩ := quiet
  rw [held, reader]
  cases phase with
  | free index =>
      rw [handedHolds, index]
      rfl
  | handing _ _ _ _ _ _ _ handOver =>
      rw [HandingOver, reader] at handOver
      exact handOver.elim
  | handed _ _ _ _ _ _ _ _ draining =>
      simp [Draining, wait, sem] at draining
  | done _ _ _ _ reset => exact absurd (wait.symm.trans reset) (by simp)

/-- SPI-HD settles its buffers exactly on the rounds whose transfers succeed and bring valid
packets; SDIO, in packet mode, settles them as long as no chunk finds the drainer busy and
every packet is valid: those that are not on their way, and all when nothing is. -/
theorem rx_buffers_settled (checksum blockOnly : Bool) :
    (∀ rxByteCount transfers,
        (∀ fates ∈ spiHdReadTask (spiHdConfig checksum) rxByteCount transfers, Settled fates) ↔
          AllKept (spiHdConfig checksum) rxByteCount transfers) ∧
      ∀ state, Run (step ⟨false, blockOnly, checksum⟩) (Kept ⟨false, blockOnly, checksum⟩) init state →
        (∀ id, (id, Fate.taken) ∈ state.trace → id ∉ held state →
          Settled (fatesOf id state.trace)) ∧ (state.Quiet → held state = []) := by
  refine ⟨spiHd_settled_iff, fun state run => ?_⟩
  have inv := poolInv_reached rfl run
  exact ⟨fun id => inv.settled, quiet_holds (SdioDoubleBuffer.inv_reached run).phase⟩

/-- Whether a step is one of those of `Kept`. -/
def keeps (config : SdioDoubleBuffer.Config) (state : State) : Act → Bool
  | .reader =>
      match state.reader with
      | .check _ _ => state.readIndex.isNone
      | .idle | .filling .. | .setLen _ | .flip | .post => true
  | .drainer =>
      match state.drainer with
      | .push buf _ =>
          (isValidRxPacket (sdioConfig config.checksum) (state.content buf)).found.isSome
      | .wait | .look | .fetch | .fetchLen _ | .reset => true
  | .begin _ | .readBlock _ _ => true

theorem kept_of_keeps {config : SdioDoubleBuffer.Config} {state : State} {act : Act}
    (keeps : keeps config state act = true) : Kept config state act := by
  constructor
  · rintro rfl rxbuff len reader
    rw [RxPoolOwnership.keeps, reader] at keeps
    exact Option.isNone_iff_eq_none.mp keeps
  · rintro rfl buf len drainer
    rw [RxPoolOwnership.keeps, drainer] at keeps
    exact keeps

/-- One packet comes over SDIO and is drained, after a read that fails. -/
def drainedPacket : List Act :=
  [.begin 13, .readBlock [] false, .begin 13,
    .readBlock [0, 0, 1, 0, 12, 0, 20, 0, 0, 0, 0, 0, 7] true, .reader, .reader, .reader, .reader,
    .drainer, .drainer, .drainer, .drainer, .drainer, .drainer]

theorem rx_buffers_settled_queued :
    ∃ state, Run (step ⟨false, false, true⟩) (Kept ⟨false, false, true⟩) init state ∧
      state.trace = [(0, .taken), (0, .poolFreed), (1, .taken), (1, .queued)] ∧
      Settled (fatesOf 0 state.trace) ∧ Settled (fatesOf 1 state.trace) := by
  obtain ⟨state, run, reader, drainer, sem, trace⟩ := admitted_reaches
    (step ⟨false, false, true⟩) (fun state act => keeps ⟨false, false, true⟩ state act = true) init
    drainedPacket (fun state => state.reader = .idle ∧ state.drainer = .wait ∧ state.sem = 0 ∧
      state.trace = [(0, .taken), (0, .poolFreed), (1, .taken), (1, .queued)])
    (by decide) (by decide)
  have kept := run.weaken fun _ _ => kept_of_keeps
  obtain ⟨settled, quiet⟩ := (rx_buffers_settled true false).2 state kept
  have nothing : held state = [] := quiet ⟨reader, drainer, sem⟩
  refine ⟨state, kept, trace, settled 0 ?_ ?_, settled 1 ?_ ?_⟩
  · simp [trace]
  · simp [nothing]
  · simp [trace]
  · simp [nothing]

/-- One byte that is no packet comes over SDIO and is drained. -/
def invalidPacket : List Act :=
  [.begin 1, .readBlock [0] true, .reader, .reader, .reader, .reader, .drainer, .drainer, .drainer,
    .drainer, .drainer, .drainer]

/-- A flow-control packet over SPI-HD and an invalid one over SDIO go to the heap. -/
theorem rx_buffers_unsettled :
    (∃ fates ∈ spiHdReadTask (spiHdConfig true) 0
        [⟨some 12, [0, 0, 0, 0, 12, 0, 0, 0, 0, 0, 1, 0], true⟩], ¬ Settled fates) ∧
      ∃ state, Run (step ⟨false, false, true⟩) unguarded init state ∧ state.Quiet ∧
        (0, Fate.taken) ∈ state.trace ∧ ¬ Settled (fatesOf 0 state.trace) := by
  refine ⟨⟨[.taken, .heapFreed], by decide, by decide⟩, ?_⟩
  obtain ⟨state, came⟩ :
      ∃ state, exec (step ⟨false, false, true⟩) init invalidPacket = some state :=
    Option.isSome_iff_exists.mp rfl
  have ended : (exec (step ⟨false, false, true⟩) init invalidPacket).map
      (fun state => (state.reader, state.drainer, state.sem, state.trace)) =
      some (.idle, .wait, 0, [(0, .taken), (0, .heapFreed)]) := rfl
  rw [came, Option.map_some, Option.some.injEq] at ended
  simp only [Prod.mk.injEq] at ended
  obtain ⟨reader, drainer, sem, trace⟩ := ended
  refine ⟨state, exec_run invalidPacket came, ⟨reader, drainer, sem⟩, ?_, ?_⟩
  · rw [trace]
    exact List.mem_cons_self
  · rw [trace]
    decide

end EspHosted.RxPoolOwnership

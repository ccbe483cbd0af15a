import EspHosted.SerialSend

/-!
The length of a request on its way out. `process_rpc_tx_msg` packs it with a length of 32 bits
and passes that to `transport_pserial_send` as one of 16, which cuts the message short; and with
the twelve bytes in front of it the size of `write_buf` can wrap once more.
-/

namespace EspHosted.OutgoingLength
open SpiFrames HostFrames SpiDriver SerialReassembly ByteCursor SerialTlv SerialSend

/-- How the statements of `process_rpc_tx_msg` in front of the send turn out. -/
structure Steps where
  composed : Bool
  txData : Bool
  rpcRspCb : Bool
  callbackSet : Bool
  timerStarted : Bool

def notSent : Sent := { ret := failure, freed := [], queued := none }

/-- `process_rpc_tx_msg` up to the send; `packed` is what `rpc__pack` writes. -/
def processRpcTxMsg (steps : Steps) (path : Path) (wbuffer : Nat) (packed : List UInt8) :
    Option Sent :=
  let txLen := UInt32.ofNat packed.length
  if !steps.composed then some notSent
  else if txLen = 0 then some notSent
  else if !steps.txData then some notSent
  else if steps.rpcRspCb && !steps.callbackSet then some notSent
  else if steps.rpcRspCb && !steps.timerStarted then some notSent
  else transportPserialSend path wbuffer packed

/-- Nothing is sent and the call fails, or the message is sent in whole. A write outside
`write_buf` is neither. -/
def WholeOrNothing (packed : List UInt8) : Option Sent → Prop
  | none => False
  | some sent =>
      sent.ret ≠ success ∧ sent.queued = none ∨
        sent.ret = success ∧ ∃ frame, sent.queued = some frame ∧
          frame.buf.bytes = enveloped rpcEpNameRsp packed

/-- The send comes to compose the records. -/
def Composes (steps : Steps) (path : Path) (packed : List UInt8) : Prop :=
  steps.composed = true ∧ packed ≠ [] ∧ steps.txData = true ∧
    (steps.rpcRspCb = true → steps.callbackSet = true ∧ steps.timerStarted = true) ∧
      path.calloc = true ∧ path.serialHandle = true

/-- The layers below take a frame of this length. -/
def Takes (path : Path) (wlen : Nat) : Prop :=
  path.serialLlIf = true ∧ path.state = .active ∧ wlen ≤ maxPayloadSize ∧
    path.transportUp = true ∧ path.queueItem = true

/-- The size of `write_buf` does not wrap, and a length that was cut is not taken. -/
def LengthKept (path : Path) (txLen : Nat) : Prop :=
  txLen % 65536 ≤ 65523 ∧ (Takes path (12 + txLen % 65536) → txLen < 65536)

section Layers
variable {path : Path} {wbuffer : Nat} {buf packed : List UInt8} {wlen : UInt16}

theorem serialDrvWrite_taken (opened : path.serialHandle = true) (some_bytes : wlen ≠ 0)
    (takes : Takes path wlen.toNat) :
    serialDrvWrite path wbuffer buf wlen =
      { ret := retOk, freed := [], queued := some (serialFrame path wbuffer buf wlen) } := by
  obtain ⟨present, active, short, up, room⟩ := takes
  have sent : serialLlWrite path wbuffer buf wlen =
      { ret := stmOk, freed := [], queued := some (serialFrame path wbuffer buf wlen) } := by
    rw [serialLlWrite, if_neg (not_not.mpr active), espHostedTx_frees some_bytes,
      if_pos ⟨short, up, room⟩]
  simp [serialDrvWrite, opened, some_bytes, present, sent, stmOk, retOk]

theorem serialDrvWrite_refused (some_bytes : wlen ≠ 0) (refused : ¬ Takes path wlen.toNat) :
    (serialDrvWrite path wbuffer buf wlen).ret ≠ success := by
  have invalid : retInvalid ≠ success := by decide
  have failed : retFail ≠ success := by decide
  have stm : stmFail ≠ retOk := by decide
  unfold serialDrvWrite
  split_ifs with closed absent
  · exact invalid
  · exact invalid
  · have present : path.serialLlIf = true := by simpa using absent
    have fails : (serialLlWrite path wbuffer buf wlen).ret = stmFail := by
      unfold serialLlWrite
      split_ifs with inactive
      · rfl
      · rw [espHostedTx_frees some_bytes, if_neg]
        rintro ⟨short, up, room⟩
        exact refused ⟨present, not_not.mp inactive, short, up, room⟩
    simp only [fails, stm, ne_eq, not_false_eq_true, if_true]
    exact failed

end Layers

section Messages
variable {path : Path} {wbuffer : Nat} {packed : List UInt8}

/-- The bytes of the frame for a message of which so much is left. -/
theorem serialFrame_bytes (path : Path) (wbuffer : Nat) {buf : List UInt8} {wlen : UInt16}
    (whole : buf.length = wlen.toNat) : (serialFrame path wbuffer buf wlen).buf.bytes = buf := by
  change buf.take wlen.toNat = buf
  rw [← whole, List.take_length]

theorem enveloped_cut_iff :
    enveloped rpcEpNameRsp (packed.take (packed.length % 65536)) = enveloped rpcEpNameRsp packed ↔
      packed.length < 65536 := by
  constructor
  · intro same
    have lengths := congrArg List.length same
    rw [length_enveloped, length_enveloped, List.length_take] at lengths
    omega
  · intro short
    rw [Nat.mod_eq_of_lt short, List.take_length]

/-- What goes out once the records are composed: a frame with the bytes that are left. -/
theorem transportPserialSend_cases (granted : path.calloc = true)
    (opened : path.serialHandle = true) (short : packed.length % 65536 ≤ 65523) :
    ∃ sent, transportPserialSend path wbuffer packed = some sent ∧
      ((Takes path (12 + packed.length % 65536) ∧ sent.ret = success ∧
          ∃ frame, sent.queued = some frame ∧
            frame.buf.bytes = enveloped rpcEpNameRsp (packed.take (packed.length % 65536))) ∨
        ¬ Takes path (12 + packed.length % 65536) ∧ sent.ret ≠ success ∧ sent.queued = none) := by
  have length : (UInt16.ofNat packed.length).toNat = packed.length % 65536 := UInt16.toNat_ofNat'
  have enough : (UInt16.ofNat packed.length).toNat ≤ packed.length := length ▸ Nat.mod_le _ _
  obtain ⟨filled, ran, buf, count⟩ := composeTlv_cut enough (length ▸ short)
  rw [length] at buf count
  have some_bytes : filled.count ≠ 0 := by
    intro zero
    rw [zero, UInt16.toNat_zero] at count
    omega
  unfold transportPserialSend
  simp only [granted, opened, Bool.not_true, Bool.false_eq_true, if_false, ran, Option.map_some,
    some_bytes]
  refine ⟨_, rfl, ?_⟩
  by_cases takes : Takes path (12 + packed.length % 65536)
  · left
    rw [← count] at takes
    rw [serialDrvWrite_taken opened some_bytes takes]
    have whole : filled.buf.length = filled.count.toNat := by
      rw [buf, count, length_enveloped, List.length_take, Nat.min_eq_left (Nat.mod_le _ _)]
      exact Nat.add_right_comm _ _ _
    exact ⟨count ▸ takes, rfl, _, rfl, (serialFrame_bytes path wbuffer whole).trans buf⟩
  · right
    have fails : (serialDrvWrite path wbuffer filled.buf filled.count).ret ≠ success :=
      serialDrvWrite_refused some_bytes (count ▸ takes)
    have failed : failure ≠ success := by decide
    rw [if_pos fails]
    exact ⟨takes, failed, rfl⟩

theorem transportPserialSend_overflows (granted : path.calloc = true)
    (opened : path.serialHandle = true) (long : ¬ packed.length % 65536 ≤ 65523) :
    transportPserialSend path wbuffer packed = none := by
  have length : (UInt16.ofNat packed.length).toNat = packed.length % 65536 := UInt16.toNat_ofNat'
  unfold transportPserialSend
  simp only [granted, opened, Bool.not_true, Bool.false_eq_true, if_false]
  rw [composeTlv_overflows (length ▸ long)]
  rfl

theorem transportPserialSend_iff (granted : path.calloc = true)
    (opened : path.serialHandle = true) :
    WholeOrNothing packed (transportPserialSend path wbuffer packed) ↔
      LengthKept path packed.length := by
  by_cases short : packed.length % 65536 ≤ 65523
  · obtain ⟨sent, sends, cases⟩ :=
      @transportPserialSend_cases path wbuffer packed granted opened short
    rw [sends]
    rcases cases with ⟨takes, succeeds, frame, queued, bytes⟩ | ⟨refused, fails, none_queued⟩
    · have kept : LengthKept path packed.length ↔ packed.length < 65536 :=
        ⟨fun kept => kept.2 takes, fun small => ⟨short, fun _ => small⟩⟩
      rw [kept, ← enveloped_cut_iff, ← bytes]
      constructor
      · rintro (⟨fails, _⟩ | ⟨_, other, same, whole⟩)
        · exact absurd succeeds fails
        · rw [queued] at same
          cases same
          exact whole
      · intro whole
        exact Or.inr ⟨succeeds, frame, queued, whole⟩
    · exact iff_of_true (Or.inl ⟨fails, none_queued⟩) ⟨short, fun takes => absurd takes refused⟩
  · rw [transportPserialSend_overflows granted opened short]
    exact iff_of_false id fun kept => short kept.1

end Messages

section Request
variable {steps : Steps} {path : Path} {packed : List UInt8}

theorem txLen_zero (fits : packed.length < 4294967296) :
    UInt32.ofNat packed.length = 0 ↔ packed = [] := by
  rw [← UInt32.toNat_inj, UInt32.toNat_ofNat_of_lt' fits, UInt32.toNat_zero]
  exact List.length_eq_zero_iff

theorem processRpcTxMsg_composes (wbuffer : Nat) (fits : packed.length < 4294967296)
    (composes : Composes steps path packed) :
    processRpcTxMsg steps path wbuffer packed = transportPserialSend path wbuffer packed := by
  obtain ⟨composed, some_bytes, txData, async, _, _⟩ := composes
  have some_length : UInt32.ofNat packed.length ≠ 0 := mt (txLen_zero fits).mp some_bytes
  unfold processRpcTxMsg
  simp only [composed, txData, some_length, Bool.not_true, Bool.false_eq_true, if_false]
  cases callback : steps.rpcRspCb with
  | false => rfl
  | true =>
      obtain ⟨set, started⟩ := async callback
      rw [set, started]
      rfl

/-- A send that is stopped before it composes the records sends nothing and fails. -/
theorem processRpcTxMsg_stopped (wbuffer : Nat) (fits : packed.length < 4294967296)
    (stopped : ¬ Composes steps path packed) :
    WholeOrNothing packed (processRpcTxMsg steps path wbuffer packed) := by
  have failed : failure ≠ success := by decide
  have nothing : WholeOrNothing packed (some notSent) := Or.inl ⟨failed, rfl⟩
  unfold processRpcTxMsg
  dsimp only
  split_ifs with composed empty txData unset unstarted
  · exact nothing
  · exact nothing
  · exact nothing
  · exact nothing
  · exact nothing
  · unfold transportPserialSend
    dsimp only
    split_ifs with refused closed
    · exact nothing
    · exact Or.inl ⟨failed, rfl⟩
    · have composes : Composes steps path packed :=
        ⟨by simpa using composed, mt (txLen_zero fits).mpr empty, by simpa using txData,
          fun callback => ⟨by simpa [callback] using unset, by simpa [callback] using unstarted⟩,
          by simpa using refused, by simpa using closed⟩
      exact absurd composes stopped

end Request

/-- For every packed size a request is sent in whole, or not at all and the call fails, exactly
if the send is stopped before it composes the records, or the length keeps: modulo 65536 it is at
most 65523, and one that was cut is not taken by the layers below. -/
theorem outgoing_length_iff (steps : Steps) (path : Path) (wbuffer : Nat) (packed : List UInt8)
    (fits : packed.length < 4294967296) :
    WholeOrNothing packed (processRpcTxMsg steps path wbuffer packed) ↔
      (Composes steps path packed → LengthKept path packed.length) := by
  constructor
  · intro whole composes
    obtain ⟨_, _, _, _, granted, opened⟩ := id composes
    rw [processRpcTxMsg_composes wbuffer fits composes] at whole
    exact (transportPserialSend_iff granted opened).mp whole
  · intro kept
    by_cases composes : Composes steps path packed
    · obtain ⟨_, _, _, _, granted, opened⟩ := id composes
      rw [processRpcTxMsg_composes wbuffer fits composes]
      exact (transportPserialSend_iff granted opened).mpr (kept composes)
    · exact processRpcTxMsg_stopped wbuffer fits composes

/-- Nothing fails on the way. -/
def goodSteps : Steps := ⟨true, true, false, true, true⟩

def openPath : Path where
  calloc := true
  serialHandle := true
  serialLlIf := true
  state := .active
  ifNum := 0
  transportUp := true
  queueItem := true

theorem outgoing_length_iff_three :
    WholeOrNothing [1, 2, 3] (processRpcTxMsg goodSteps openPath 40 [1, 2, 3]) :=
  (outgoing_length_iff goodSteps openPath 40 [1, 2, 3] (by decide)).mpr
    fun _ => ⟨by decide, fun _ => by decide⟩

theorem composes_long {count : Nat} (positive : count ≠ 0) :
    Composes goodSteps openPath (List.replicate count 7) :=
  ⟨rfl, mt (List.replicate_eq_nil_iff 7).mp positive, rfl, nofun, rfl, rfl⟩

/-- Of a request of 65537 bytes one byte is sent, and the call succeeds; one of 65530 bytes is
written outside `write_buf`. -/
theorem outgoing_length_fails :
    (∃ sent frame, processRpcTxMsg goodSteps openPath 40 (List.replicate 65537 7) = some sent ∧
      sent.ret = success ∧ sent.queued = some frame ∧
      frame.buf.bytes = enveloped rpcEpNameRsp [7]) ∧
    processRpcTxMsg goodSteps openPath 40 (List.replicate 65530 7) = none := by
  have cut : (List.replicate 65537 (7 : UInt8)).length % 65536 = 1 := by
    rw [List.length_replicate]
  have wraps : ¬ (List.replicate 65530 (7 : UInt8)).length % 65536 ≤ 65523 := by
    rw [List.length_replicate]
    decide
  have takes : Takes openPath (12 + 1) := ⟨rfl, rfl, by decide, rfl, rfl⟩
  have one : (List.replicate 65537 (7 : UInt8)).take 1 = [7] := by
    rw [List.take_replicate]
    rfl
  constructor
  · rw [processRpcTxMsg_composes 40 (by rw [List.length_replicate]; decide) (composes_long (by decide))]
    obtain ⟨sent, sends, cases⟩ := @transportPserialSend_cases openPath 40
      (List.replicate 65537 7) rfl rfl (by rw [cut]; decide)
    rw [cut, one] at cases
    rcases cases with ⟨_, succeeds, frame, queued, bytes⟩ | ⟨refused, _⟩
    · exact ⟨sent, frame, sends, succeeds, queued, bytes⟩
    · exact absurd takes refused
  · rw [processRpcTxMsg_composes 40 (by rw [List.length_replicate]; decide) (composes_long (by decide))]
    exact transportPserialSend_overflows rfl rfl wraps

end EspHosted.OutgoingLength

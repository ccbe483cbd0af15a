import EspHosted.BufferOwnership
import EspHosted.SerialReassembly
import EspHosted.SerialTlv
import Mathlib.Tactic.IntervalCases

/-!
The way of a message from `transport_pserial_send` down to `esp_hosted_tx`, and who frees the
buffer on it. A layer that fails says so to the one above, which frees the buffer; but
`esp_hosted_tx` has freed it already when it fails.
-/

namespace EspHosted.SerialSend
open SpiFrames HostFrames SlaveFrames SpiDriver BufferOwnership SerialReassembly ByteCursor SerialTlv

def retOk : Int := 0
def retFail : Int := -1
def retInvalid : Int := -2
def success : Int := 0
def failure : Int := -1

/-- How the layers are set up, and how their calls turn out. -/
structure Path where
  calloc : Bool
  serialHandle : Bool
  /-- `serial_ll_if_g` with its `fops` and their `write`. -/
  serialLlIf : Bool
  state : SerialLlState
  ifNum : UInt8
  transportUp : Bool
  queueItem : Bool

/-- What a layer returns, the buffers it has freed by then, and the frame on its way. -/
structure Sent where
  ret : Int
  freed : List Nat
  queued : Option TxFrame

def espHostedTx (path : Path) (frame : TxFrame) : Sent :=
  if frame.wbuffer.isNone ∨ ¬ lenAccepted frame.buf.payloadLen ∨ ¬ path.transportUp then
    { ret := stmFail, freed := frame.free, queued := none }
  else if ¬ path.queueItem then { ret := stmFail, freed := frame.free, queued := none }
  else { ret := stmOk, freed := [], queued := some frame }

/-- The call of `serial_ll_write`: no zero copy, and the default function to free with. -/
def serialFrame (path : Path) (wbuffer : Nat) (buf : List UInt8) (wlen : UInt16) : TxFrame where
  buf :=
    { ifType := espSerialIf, ifNum := path.ifNum, payloadZcopy := false, payloadLen := wlen
      payload := buf }
  wbuffer := some wbuffer
  freeWbufFun := true

def serialLlWrite (path : Path) (wbuffer : Nat) (buf : List UInt8) (wlen : UInt16) : Sent :=
  if path.state ≠ .active then { ret := stmFail, freed := [], queued := none }
  else espHostedTx path (serialFrame path wbuffer buf wlen)

def serialDrvWrite (path : Path) (wbuffer : Nat) (buf : List UInt8) (inCount : UInt16) : Sent :=
  if !path.serialHandle ∨ inCount = 0 then { ret := retInvalid, freed := [], queued := none }
  else if !path.serialLlIf then { ret := retInvalid, freed := [], queued := none }
  else
    let sent := serialLlWrite path wbuffer buf inCount
    if sent.ret ≠ retOk then { sent with ret := retFail } else { sent with ret := retOk }

def freeBufs (wbuffer : Nat) (freed : List Nat) : Sent :=
  { ret := failure, freed := freed ++ [wbuffer], queued := none }

/-- `transport_pserial_send`, with the address of `write_buf`; `none` where `compose_tlv`
writes outside it. The length is cut to 16 bits by the call. -/
def transportPserialSend (path : Path) (wbuffer : Nat) (data : List UInt8) : Option Sent :=
  let dataLength := UInt16.ofNat data.length
  if !path.calloc then some { ret := failure, freed := [], queued := none }
  else if !path.serialHandle then some (freeBufs wbuffer [])
  else
    (Host.composeTlv data dataLength (blank (Host.bufLen dataLength).toNat)).map fun filled =>
      if filled.count = 0 then freeBufs wbuffer []
      else
        let sent := serialDrvWrite path wbuffer filled.buf filled.count
        if sent.ret ≠ success then freeBufs wbuffer sent.freed else { sent with ret := success }

def transactionFrees (queued : Option TxFrame) : List Nat :=
  match queued with
  | none => []
  | some frame =>
      formedFrees frame ++ transferredFrees (if frame.buf.payloadLen = 0 then none else some frame)

/-- A buffer that was allocated is freed once, the frees of the later transaction included. -/
def FreedOnce (path : Path) (wbuffer : Nat) (data : List UInt8) : Prop :=
  match transportPserialSend path wbuffer data with
  | none => False
  | some sent =>
      path.calloc = true → (sent.freed ++ transactionFrees sent.queued).count wbuffer = 1

/-- Where the message comes down to `esp_hosted_tx`, that takes it. -/
def TxTakes (path : Path) (dataLength : UInt16) : Prop :=
  path.serialLlIf = true → path.state = .active →
    12 + dataLength.toNat ≤ maxPayloadSize ∧ path.transportUp = true ∧ path.queueItem = true

/-- With the interface open, the buffer has not been counted over its 16 bits, and
`esp_hosted_tx` does not fail. -/
def Taken (path : Path) (dataLength : UInt16) : Prop :=
  path.calloc = true → path.serialHandle = true →
    dataLength.toNat ≤ 65523 ∧ TxTakes path dataLength

theorem callStep_freed (state : State) (path : Path) (frame : TxFrame)
    (room : path.queueItem = true) :
    (callStep state path.transportUp frame).freed = state.freed ++ (espHostedTx path frame).freed ∧
    (callStep state path.transportUp frame).putting =
      state.putting ++ (espHostedTx path frame).queued.toList := by
  by_cases rejected : frame.wbuffer.isNone ∨ ¬ lenAccepted frame.buf.payloadLen ∨ ¬ path.transportUp
  · simp only [callStep, espHostedTx, if_pos rejected, Option.toList_none, List.append_nil, and_self]
  · simp only [callStep, espHostedTx, if_neg rejected, room, not_true, if_false,
      Option.toList_some, List.append_nil, and_self]

theorem lenAccepted_iff (wlen : UInt16) :
    lenAccepted wlen = true ↔ wlen ≠ 0 ∧ wlen.toNat ≤ maxPayloadSize := by
  simp [lenAccepted]

section Layers
variable {path : Path} {wbuffer : Nat} {buf : List UInt8} {wlen : UInt16}

/-- The frees down to the driver and behind it: one, unless the call is the one to fail. -/
theorem espHostedTx_frees (some_bytes : wlen ≠ 0) :
    espHostedTx path (serialFrame path wbuffer buf wlen) =
      if wlen.toNat ≤ maxPayloadSize ∧ path.transportUp = true ∧ path.queueItem = true then
        { ret := stmOk, freed := [], queued := some (serialFrame path wbuffer buf wlen) }
      else { ret := stmFail, freed := [wbuffer], queued := none } := by
  have accepted := lenAccepted_iff wlen
  have frees : (serialFrame path wbuffer buf wlen).free = [wbuffer] := rfl
  rw [espHostedTx, frees]
  by_cases short : wlen.toNat ≤ maxPayloadSize
  · have takes : lenAccepted wlen = true := accepted.mpr ⟨some_bytes, short⟩
    cases path.transportUp <;> cases path.queueItem <;> simp [serialFrame, takes, short]
  · have rejects : lenAccepted wlen = false := by
      rw [← Bool.not_eq_true, accepted]
      exact fun both => short both.2
    simp [serialFrame, rejects, short]

theorem transaction_frees (some_bytes : wlen ≠ 0) :
    transactionFrees (some (serialFrame path wbuffer buf wlen)) = [wbuffer] := by
  have ending : endingLen (serialFrame path wbuffer buf wlen).buf = wlen := by
    simp [endingLen, serialFrame, espSerialIf, espHciIf]
  rw [transactionFrees, formedFrees, ending]
  simp [some_bytes, serialFrame, transferredFrees, TxFrame.free]

/-- From the handle on: the buffer is freed below if the call succeeds or is refused before
`esp_hosted_tx`. -/
theorem serialDrvWrite_once (opened : path.serialHandle = true) (some_bytes : wlen ≠ 0) :
    (let sent := serialDrvWrite path wbuffer buf wlen
     if sent.ret ≠ success then (freeBufs wbuffer sent.freed).freed.count wbuffer = 1
     else (sent.freed ++ transactionFrees sent.queued).count wbuffer = 1) ↔
      (path.serialLlIf = true → path.state = .active →
        wlen.toNat ≤ maxPayloadSize ∧ path.transportUp = true ∧ path.queueItem = true) := by
  have invalid : retInvalid ≠ success := by decide
  have failed : retFail ≠ success := by decide
  have refused : stmFail ≠ retOk := by decide
  rw [serialDrvWrite, opened]
  simp only [Bool.not_true, Bool.false_eq_true, some_bytes, or_self, if_false]
  cases path.serialLlIf with
  | false => simp [invalid, freeBufs]
  | true =>
      by_cases active : path.state = .active
      · rw [serialLlWrite, if_neg (not_not.mpr active), espHostedTx_frees some_bytes]
        by_cases takes : wlen.toNat ≤ maxPayloadSize ∧ path.transportUp = true ∧
            path.queueItem = true
        · simp [takes, active, stmOk, retOk, success, transaction_frees some_bytes]
        · simp [takes, active, refused, failed, freeBufs]
      · simp [serialLlWrite, active, refused, failed, freeBufs]

end Layers

section Composing
variable {data : List UInt8} {dataLength : UInt16}

theorem composeTlv_cut (enough : dataLength.toNat ≤ data.length)
    (short : dataLength.toNat ≤ 65523) :
    ∃ filled, Host.composeTlv data dataLength (blank (Host.bufLen dataLength).toNat) = some filled ∧
      filled.buf = enveloped rpcEpNameRsp (data.take dataLength.toNat) ∧
      filled.count.toNat = 12 + dataLength.toNat := by
  have length : (data.take dataLength.toNat).length = dataLength.toNat := by
    rw [List.length_take, Nat.min_eq_left enough]
  have same : Host.composeTlv (data.take dataLength.toNat) dataLength =
      Host.composeTlv data dataLength := by
    rw [Host.composeTlv, Host.composeTlv, List.take_take, Nat.min_self]
  obtain ⟨filled, ran, buf, count⟩ := Host.composeTlv_fills (length ▸ short)
  rw [length, UInt16.ofNat_toNat, same] at ran
  exact ⟨filled, ran, buf, length ▸ count⟩

/-- A longer message wraps the size of the buffer, which is left behind by the first record. -/
theorem composeTlv_overflows (long : ¬ dataLength.toNat ≤ 65523) :
    Host.composeTlv data dataLength (blank (Host.bufLen dataLength).toNat) = none := by
  have wraps : (Host.bufLen dataLength).toNat < 12 := by
    have bound := dataLength.toNat_lt
    have twelve : (UInt16.ofNat (sizeOfType + sizeOfLength + rpcEpNameRsp.length + sizeOfType +
        sizeOfLength)).toNat = 12 := rfl
    rw [Host.bufLen, UInt16.toNat_add, twelve]
    omega
  generalize (Host.bufLen dataLength).toNat = size at wraps
  interval_cases size <;> rfl

end Composing

/-- The buffer of a message is freed exactly once unless `esp_hosted_tx` is reached and fails,
or the message wraps the size of the buffer. -/
theorem send_buffer_freed_once_iff (path : Path) (wbuffer : Nat) (data : List UInt8) :
    FreedOnce path wbuffer data ↔ Taken path (UInt16.ofNat data.length) := by
  rw [FreedOnce, Taken, transportPserialSend]
  cases granted : path.calloc with
  | false => simp
  | true =>
      cases opened : path.serialHandle with
      | false => simp [freeBufs, transactionFrees]
      | true =>
          simp only [Bool.not_true, Bool.false_eq_true, if_false, true_implies]
          by_cases short : (UInt16.ofNat data.length).toNat ≤ 65523
          · have enough : (UInt16.ofNat data.length).toNat ≤ data.length := by
              rw [UInt16.toNat_ofNat']
              exact Nat.mod_le _ _
            obtain ⟨filled, ran, _, count⟩ := composeTlv_cut enough short
            have some_bytes : filled.count ≠ 0 := by
              intro zero
              rw [zero, UInt16.toNat_zero] at count
              omega
            have once := @serialDrvWrite_once path wbuffer filled.buf filled.count opened some_bytes
            rw [count] at once
            rw [ran, TxTakes, ← once]
            simp only [Option.map_some, if_neg some_bytes, short, true_and]
            split
            · simp [freeBufs, transactionFrees]
            · exact Iff.rfl
          · rw [composeTlv_overflows short]
            exact iff_of_false id fun both => short both.1

def downPath : Path where
  calloc := true
  serialHandle := true
  serialLlIf := true
  state := .active
  ifNum := 0
  transportUp := false
  queueItem := true

theorem send_buffer_freed_twice : ¬ FreedOnce downPath 40 [1] := by
  have twice : transportPserialSend downPath 40 [1] =
      some { ret := failure, freed := [40, 40], queued := none } := rfl
  rw [FreedOnce, twice]
  exact fun once => absurd (once rfl) (by decide)

end EspHosted.SerialSend

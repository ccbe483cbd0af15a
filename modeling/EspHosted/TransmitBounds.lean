import EspHosted.MempoolBlocks
import EspHosted.SerialSend
import EspHosted.TransportChannels

/-!
The three ways a packet of any `size_t` length comes to `esp_hosted_tx`: through the station
and access point channels, which copy it behind the header space of a block of `mempool_alloc`, and
through `rt_vhci_write`, which copies it to a block of its own length. The length is looked at
behind the copy, in `esp_hosted_tx`, where it has 16 bits. `size_t` is 32 bits wide.
-/

namespace EspHosted.TransmitBounds
open SpiFrames HostFrames SpiDriver SerialSend
open SerialReassembly (stmOk stmFail)
open MempoolBlocks (mempoolAligned)

def espOk : Int := 0
/-- `ESP_ERR_ESP_NETIF_NO_MEM`; there is no `ESP_ERR_ESP_NETIF_TX_FAILED`. -/
def espErrEspNetifNoMem : Int := 0x5006
def rtError : Int := 1

/-- The bytes that `mempool_alloc` asks for when it is called for a transport buffer: without
CONFIG_USE_MEMPOOL the aligned request, with it the aligned size of the blocks of the pool, which
`mempool_create` has aligned before. -/
def blockBytes (useMempool : Bool) : UInt32 :=
  let aligned := mempoolAligned (UInt32.ofNat maxSpiBufferSize)
  if useMempool then mempoolAligned aligned else aligned

/-- What such a block has behind the header space. -/
def copyRoom (useMempool : Bool) : Nat := (blockBytes useMempool).toNat - payloadHeaderSize

theorem payload_fits (useMempool : Bool) :
    maxPayloadSize ≤ copyRoom useMempool ∧ copyRoom useMempool < 65536 := by
  cases useMempool <;> decide

/-- How a call finds the driver. Of `path` it is `transportUp` and `queueItem` that count. -/
structure Setting where
  /-- Whether the host is built with CONFIG_USE_MEMPOOL; the repository's build is not. -/
  useMempool : Bool
  /-- `h && h == chan_arr[..]->api_chan`. -/
  handle : Bool
  alloc : Bool
  wifiTxThrottling : UInt8
  path : Path

/-- A copy of `count` bytes to where a block has `room` left. -/
structure Copy where
  room : Nat
  count : Nat

/-- `ret` is none where an assertion stops the call. -/
structure Tx where
  copied : Option Copy
  ret : Option Int
  queued : Option TxFrame

/-- What lies behind a pointer. -/
abbrev Memory := Nat → UInt8

def bytesAt (memory : Memory) (len : UInt32) : List UInt8 := (List.range len.toNat).map memory

def returned (code : Int) : Tx := { copied := none, ret := some code, queued := none }

def stopped : Tx := { copied := none, ret := none, queued := none }

/-- The part the two channels share. -/
def networkTx (setting : Setting) (ifType : UInt8) (memory : Memory) (len : UInt32) : Tx :=
  if !setting.handle then stopped
  else if !setting.alloc then stopped
  else
    let sent := espHostedTx setting.path
      (TransportChannels.networkFrame ifType 0 (bytesAt memory len))
    { copied := some { room := copyRoom setting.useMempool, count := len.toNat }
      ret := some sent.ret
      queued := sent.queued }

def transportDrvStaTx (setting : Setting) (buffer : Option Memory) (len : UInt32) : Tx :=
  match buffer with
  | none => returned espOk
  | some memory =>
      if len = 0 then returned espOk
      else if setting.wifiTxThrottling ≠ 0 then returned espErrEspNetifNoMem
      else networkTx setting espStaIf memory len

def transportDrvApTx (setting : Setting) (buffer : Option Memory) (len : UInt32) : Tx :=
  match buffer with
  | none => returned espOk
  | some memory =>
      if len = 0 then returned espOk else networkTx setting espApIf memory len

def vhciFrame (bytes : List UInt8) (wlen : UInt16) : TxFrame where
  buf := { ifType := espHciIf, ifNum := 0, payloadZcopy := false, payloadLen := wlen
           payload := bytes }
  wbuffer := some 0
  freeWbufFun := true

/-- `rt_ssize_t` of a size. -/
def rtSsize (size : UInt32) : Int := if size.toNat < 2147483648 then size.toNat
  else size.toNat - 4294967296

def rtVhciWrite (setting : Setting) (memory : Memory) (size : UInt32) : Tx :=
  if !setting.alloc then returned (-rtError)
  else
    let sent := espHostedTx setting.path (vhciFrame (bytesAt memory size) size.toUInt16)
    let copy : Copy := { room := size.toNat, count := size.toNat }
    { copied := some copy
      ret := some (if sent.ret ≠ espOk then -rtError else rtSsize size)
      queued := sent.queued }

/-- What is asked of a call with these bytes: the copy fits, success means that just they were
queued (or that there were none), and what is too long is refused. -/
structure Bounded (success : Int → Prop) (bytes : List UInt8) (len : UInt32) (tx : Tx) : Prop where
  inside : ∀ copy, tx.copied = some copy → copy.count ≤ copy.room
  exact : ∀ code, tx.ret = some code → success code → (bytes = [] ∧ tx.queued = none) ∨
    ∃ frame, tx.queued = some frame ∧ frame.buf.payloadLen.toNat = len.toNat ∧
      frame.buf.bytes = bytes
  refused : maxPayloadSize < len.toNat → ∃ code, tx.ret = some code ∧ ¬ success code

/-- The bytes a caller of a channel wants to have sent; there are none behind NULL. -/
def givenBytes (buffer : Option Memory) (len : UInt32) : List UInt8 :=
  match buffer with
  | none => []
  | some memory => bytesAt memory len

/-- Success on a channel, and of a write. -/
def NetOk (code : Int) : Prop := code = espOk
def WriteOk (code : Int) : Prop := 0 ≤ code

section Frames
variable {memory : Memory} {len : UInt32} {ifType : UInt8} {path : Path}

theorem bytesAt_length (memory : Memory) (len : UInt32) :
    (bytesAt memory len).length = len.toNat := by
  rw [bytesAt, List.length_map, List.length_range]

/-- A length that fits into a frame fits into 16 bits. -/
theorem narrowed (short : len.toNat ≤ maxPayloadSize) :
    len.toUInt16.toNat = len.toNat ∧ (UInt16.ofNat len.toNat).toNat = len.toNat := by
  have bound : len.toNat < 65536 := Nat.lt_of_le_of_lt short (by decide)
  rw [UInt32.toNat_toUInt16, UInt16.toNat_ofNat']
  exact ⟨Nat.mod_eq_of_lt bound, Nat.mod_eq_of_lt bound⟩

theorem networkFrame_exact (short : len.toNat ≤ maxPayloadSize) :
    (TransportChannels.networkFrame ifType 0 (bytesAt memory len)).buf.payloadLen.toNat = len.toNat ∧
      (TransportChannels.networkFrame ifType 0 (bytesAt memory len)).buf.bytes =
        bytesAt memory len := by
  have length := bytesAt_length memory len
  have header : ((List.replicate maxSpiBufferSize (0 : UInt8)).take payloadHeaderSize).length =
      payloadHeaderSize := by
    rw [List.length_take, List.length_replicate]
    rfl
  simp only [TransportChannels.networkFrame, TxBuf.bytes, if_true, length, (narrowed short).2,
    putAt, List.append_assoc, true_and]
  rw [List.drop_left' header]
  exact List.take_left' length

theorem vhciFrame_exact (short : len.toNat ≤ maxPayloadSize) :
    (vhciFrame (bytesAt memory len) len.toUInt16).buf.payloadLen.toNat = len.toNat ∧
      (vhciFrame (bytesAt memory len) len.toUInt16).buf.bytes = bytesAt memory len := by
  have length := bytesAt_length memory len
  refine ⟨(narrowed short).1, ?_⟩
  simp only [vhciFrame, TxBuf.bytes, Bool.false_eq_true, if_false, (narrowed short).1]
  rw [← length, List.take_length]

/-- Either the frame goes to its queue, or the call fails and nothing does. -/
theorem espHostedTx_cases (path : Path) (frame : TxFrame) :
    (espHostedTx path frame).ret = stmFail ∧ (espHostedTx path frame).queued = none ∨
      (espHostedTx path frame).ret = stmOk ∧ (espHostedTx path frame).queued = some frame := by
  unfold espHostedTx
  split
  · exact Or.inl ⟨rfl, rfl⟩
  · split
    · exact Or.inl ⟨rfl, rfl⟩
    · exact Or.inr ⟨rfl, rfl⟩

end Frames

section Calls
variable {setting : Setting} {memory : Memory} {buffer : Option Memory} {len : UInt32}
variable {ifType : UInt8} {bytes : List UInt8}

theorem netOk_fails {code : Int} (failed : code = stmFail) : ¬ NetOk code := by
  rw [failed]
  unfold NetOk
  decide

/-- A call that sends nothing keeps what is asked, unless it succeeds with too much. -/
theorem returned_bounded {success : Int → Prop} {code : Int}
    (empty : success code → bytes = [] ∧ len.toNat ≤ maxPayloadSize) :
    Bounded success bytes len (returned code) where
  inside copy wrong := by cases wrong
  exact code' same succeeded := by
    cases same
    exact Or.inl ⟨(empty succeeded).1, rfl⟩
  refused long := ⟨code, rfl, fun succeeded => Nat.not_lt_of_le (empty succeeded).2 long⟩

/-- A call that stops at an assertion copies and reports nothing. -/
theorem stopped_bounded {success : Int → Prop} {bytes : List UInt8}
    (short : len.toNat ≤ maxPayloadSize) : Bounded success bytes len stopped where
  inside _ wrong := by cases wrong
  exact _ wrong := by cases wrong
  refused long := absurd long (Nat.not_lt_of_le short)

theorem networkTx_fits (short : len.toNat ≤ maxPayloadSize) :
    Bounded NetOk (bytesAt memory len) len (networkTx setting ifType memory len) := by
  unfold networkTx
  split
  · exact stopped_bounded short
  split
  · exact stopped_bounded short
  refine
    { inside := ?_, exact := ?_, refused := fun long => absurd long (Nat.not_lt_of_le short) }
  · intro copy same
    cases same
    exact Nat.le_trans short (payload_fits _).1
  · intro code same succeeded
    cases same
    rcases espHostedTx_cases setting.path
        (TransportChannels.networkFrame ifType 0 (bytesAt memory len)) with
      ⟨failed, _⟩ | ⟨_, queued⟩
    · exact absurd succeeded (netOk_fails failed)
    · exact Or.inr ⟨_, queued, networkFrame_exact short⟩

/-- The call gets as far as the copy, and the block takes it. -/
def CopyFits (setting : Setting) (len : UInt32) : Prop :=
  setting.handle = true ∧ setting.alloc = true ∧ len.toNat ≤ copyRoom setting.useMempool

/-- A packet between the two bounds is copied and then refused. -/
theorem networkTx_refuses (fits : CopyFits setting len) (long : maxPayloadSize < len.toNat) :
    Bounded NetOk (bytesAt memory len) len (networkTx setting ifType memory len) := by
  obtain ⟨handle, alloc, room⟩ := fits
  have narrow : (UInt16.ofNat len.toNat).toNat = len.toNat := by
    rw [UInt16.toNat_ofNat']
    exact Nat.mod_eq_of_lt (Nat.lt_of_le_of_lt room (payload_fits _).2)
  have rejected : (espHostedTx setting.path
      (TransportChannels.networkFrame ifType 0 (bytesAt memory len))).ret = stmFail := by
    have refused : lenAccepted (TransportChannels.networkFrame ifType 0
        (bytesAt memory len)).buf.payloadLen = false := by
      simp only [TransportChannels.networkFrame, bytesAt_length, lenAccepted, narrow,
        Bool.and_eq_false_iff, decide_eq_false_iff_not, Nat.not_le]
      exact Or.inr long
    simp [espHostedTx, refused]
  have sent : networkTx setting ifType memory len =
      { copied := some { room := copyRoom setting.useMempool, count := len.toNat }
        ret := some stmFail
        queued := (espHostedTx setting.path
          (TransportChannels.networkFrame ifType 0 (bytesAt memory len))).queued } := by
    simp [networkTx, handle, alloc, rejected]
  rw [sent]
  refine { inside := ?_, exact := ?_, refused := fun _ => ⟨stmFail, rfl, netOk_fails rfl⟩ }
  · intro copy same
    cases same
    exact room
  · intro code same succeeded
    cases same
    exact absurd succeeded (netOk_fails rfl)

/-- A packet that is longer than the block is copied over its end, if the call gets that far. -/
theorem networkTx_bounded (setting : Setting) (ifType : UInt8) (memory : Memory) (len : UInt32) :
    Bounded NetOk (bytesAt memory len) len (networkTx setting ifType memory len) ↔
      len.toNat ≤ maxPayloadSize ∨ CopyFits setting len := by
  constructor
  · intro bounded
    by_contra other
    rw [not_or] at other
    obtain ⟨code, ret, _⟩ := bounded.refused (Nat.lt_of_not_le other.1)
    have inside := bounded.inside
    unfold networkTx at ret inside
    split at ret
    · cases ret
    next handle =>
      split at ret
      · cases ret
      next alloc =>
        rw [if_neg handle, if_neg alloc] at inside
        exact other.2 ⟨by simpa using handle, by simpa using alloc, inside _ rfl⟩
  · rintro (short | fits)
    · exact networkTx_fits short
    · by_cases short : len.toNat ≤ maxPayloadSize
      · exact networkTx_fits short
      · exact networkTx_refuses fits (Nat.lt_of_not_le short)

/-- Of a length whose low 16 bits are accepted, these are what the frame goes out with. -/
theorem networkTx_narrows (handle : setting.handle = true) (alloc : setting.alloc = true)
    (up : setting.path.transportUp = true) (room : setting.path.queueItem = true)
    (accepted : lenAccepted len.toUInt16 = true) :
    (networkTx setting ifType memory len).ret = some espOk ∧
      (networkTx setting ifType memory len).queued.map (fun frame => frame.buf.payloadLen) =
        some len.toUInt16 := by
  have length := bytesAt_length memory len
  have takes : ¬ ((TransportChannels.networkFrame ifType 0 (bytesAt memory len)).wbuffer.isNone ∨
      ¬ lenAccepted (TransportChannels.networkFrame ifType 0
        (bytesAt memory len)).buf.payloadLen ∨ ¬ setting.path.transportUp) := by
    simp [TransportChannels.networkFrame, length, accepted, up]
  have sent : espHostedTx setting.path
      (TransportChannels.networkFrame ifType 0 (bytesAt memory len)) =
        { ret := stmOk, freed := [],
          queued := some (TransportChannels.networkFrame ifType 0 (bytesAt memory len)) } := by
    rw [espHostedTx, if_neg takes, if_neg (not_not_intro room)]
  simp only [networkTx, handle, alloc, sent]
  refine ⟨rfl, ?_⟩
  simp [TransportChannels.networkFrame, length]

theorem sta_bounded (setting : Setting) (buffer : Option Memory) (len : UInt32) :
    Bounded NetOk (givenBytes buffer len) len (transportDrvStaTx setting buffer len) ↔
      len.toNat ≤ maxPayloadSize ∨
        (buffer.isSome = true ∧ (setting.wifiTxThrottling ≠ 0 ∨ CopyFits setting len)) := by
  cases buffer with
  | none =>
      constructor
      · intro bounded
        by_contra other
        obtain ⟨code, ret, failed⟩ := bounded.refused (Nat.lt_of_not_le fun short => other (Or.inl short))
        cases ret
        exact failed rfl
      · rintro (short | ⟨wrong, _⟩)
        · exact returned_bounded fun _ => ⟨rfl, short⟩
        · cases wrong
  | some memory =>
      simp only [transportDrvStaTx, givenBytes]
      by_cases zero : len = 0
      · subst zero
        have short : (0 : UInt32).toNat ≤ maxPayloadSize := Nat.zero_le _
        rw [if_pos rfl]
        exact ⟨fun _ => Or.inl short, fun _ => returned_bounded fun _ => ⟨rfl, short⟩⟩
      · rw [if_neg zero]
        by_cases throttled : setting.wifiTxThrottling ≠ 0
        · rw [if_pos throttled]
          have failed : ¬ NetOk espErrEspNetifNoMem := by
            unfold NetOk
            decide
          exact ⟨fun _ => Or.inr ⟨rfl, Or.inl throttled⟩,
            fun _ => returned_bounded fun wrong => absurd wrong failed⟩
        · rw [if_neg throttled, networkTx_bounded]
          constructor
          · rintro (short | fits)
            · exact Or.inl short
            · exact Or.inr ⟨rfl, Or.inr fits⟩
          · rintro (short | ⟨_, wrong | fits⟩)
            · exact Or.inl short
            · exact absurd wrong throttled
            · exact Or.inr fits

theorem ap_bounded (setting : Setting) (buffer : Option Memory) (len : UInt32) :
    Bounded NetOk (givenBytes buffer len) len (transportDrvApTx setting buffer len) ↔
      len.toNat ≤ maxPayloadSize ∨ (buffer.isSome = true ∧ CopyFits setting len) := by
  cases buffer with
  | none =>
      constructor
      · intro bounded
        by_contra other
        obtain ⟨code, ret, failed⟩ := bounded.refused (Nat.lt_of_not_le fun short => other (Or.inl short))
        cases ret
        exact failed rfl
      · rintro (short | ⟨wrong, _⟩)
        · exact returned_bounded fun _ => ⟨rfl, short⟩
        · cases wrong
  | some memory =>
      simp only [transportDrvApTx, givenBytes]
      by_cases zero : len = 0
      · subst zero
        have short : (0 : UInt32).toNat ≤ maxPayloadSize := Nat.zero_le _
        rw [if_pos rfl]
        exact ⟨fun _ => Or.inl short, fun _ => returned_bounded fun _ => ⟨rfl, short⟩⟩
      · rw [if_neg zero, networkTx_bounded]
        constructor
        · rintro (short | fits)
          · exact Or.inl short
          · exact Or.inr ⟨rfl, fits⟩
        · rintro (short | ⟨_, fits⟩)
          · exact Or.inl short
          · exact Or.inr fits

/-- The write fails: no memory, a length whose low 16 bits are refused, or no way to the slave. -/
def WriteFails (setting : Setting) (size : UInt32) : Prop :=
  setting.alloc = false ∨ lenAccepted size.toUInt16 = false ∨
    setting.path.transportUp = false ∨ setting.path.queueItem = false

theorem vhci_sends (sends : ¬ WriteFails setting len) :
    setting.alloc = true ∧
      espHostedTx setting.path (vhciFrame (bytesAt memory len) len.toUInt16) =
        { ret := stmOk, freed := [], queued := some (vhciFrame (bytesAt memory len) len.toUInt16) } := by
  unfold WriteFails at sends
  simp only [not_or, Bool.not_eq_false] at sends
  obtain ⟨alloc, accepted, up, room⟩ := sends
  have takes : lenAccepted (vhciFrame (bytesAt memory len) len.toUInt16).buf.payloadLen = true :=
    accepted
  refine ⟨alloc, ?_⟩
  simp [espHostedTx, vhciFrame] at takes ⊢
  simp [takes, up, room]

theorem vhci_fails (fails : WriteFails setting len) :
    (rtVhciWrite setting memory len).ret = some (-rtError) := by
  have failed : stmFail ≠ espOk := by decide
  unfold rtVhciWrite
  by_cases alloc : setting.alloc = true
  · have rejected : (espHostedTx setting.path
        (vhciFrame (bytesAt memory len) len.toUInt16)).ret = stmFail := by
      rcases fails with wrong | refused | down | full
      · rw [alloc] at wrong
        cases wrong
      · simp [espHostedTx, vhciFrame, refused]
      · simp [espHostedTx, down]
      · simp only [espHostedTx, full, Bool.false_eq_true, not_false_eq_true, if_true]
        split <;> rfl
    simp [alloc, rejected, failed]
  · simp [alloc, returned]

/-- Where no success is returned nothing more is asked than that the copy fits. -/
theorem refused_bounded {success : Int → Prop} {tx : Tx} {code : Int}
    (inside : ∀ copy, tx.copied = some copy → copy.count ≤ copy.room)
    (ret : tx.ret = some code) (failed : ¬ success code) : Bounded success bytes len tx where
  inside := inside
  exact other same succeeded := by
    rw [ret] at same
    cases same
    exact absurd succeeded failed
  refused _ := ⟨code, ret, failed⟩

theorem vhci_inside (copy : Copy) (copied : (rtVhciWrite setting memory len).copied = some copy) :
    copy.count ≤ copy.room := by
  unfold rtVhciWrite at copied
  split at copied
  · cases copied
  · cases copied
    exact Nat.le_refl _

theorem vhci_bounded (setting : Setting) (memory : Memory) (size : UInt32) :
    Bounded WriteOk (bytesAt memory size) size (rtVhciWrite setting memory size) ↔
      size.toNat ≤ maxPayloadSize ∨ 2147483648 ≤ size.toNat ∨ WriteFails setting size := by
  have error : ¬ WriteOk (-rtError) := by
    unfold WriteOk
    decide
  by_cases fails : WriteFails setting size
  · refine ⟨fun _ => Or.inr (Or.inr fails), fun _ => ?_⟩
    exact refused_bounded vhci_inside (vhci_fails fails) error
  · obtain ⟨alloc, sent⟩ := @vhci_sends setting memory size fails
    have written : rtVhciWrite setting memory size =
        { copied := some { room := size.toNat, count := size.toNat }
          ret := some (rtSsize size)
          queued := some (vhciFrame (bytesAt memory size) size.toUInt16) } := by
      simp only [rtVhciWrite, alloc, sent]
      rfl
    rw [written]
    by_cases huge : 2147483648 ≤ size.toNat
    · refine ⟨fun _ => Or.inr (Or.inl huge), fun _ => refused_bounded ?_ rfl ?_⟩
      · intro copy same
        cases same
        exact Nat.le_refl _
      · have bound := size.toNat_lt
        unfold WriteOk rtSsize
        rw [if_neg (Nat.not_lt_of_le huge)]
        omega
    · have positive : WriteOk (rtSsize size) := by
        unfold WriteOk rtSsize
        rw [if_pos (Nat.lt_of_not_le huge)]
        omega
      constructor
      · intro bounded
        by_contra other
        obtain ⟨code, ret, failed⟩ :=
          bounded.refused (Nat.lt_of_not_le fun short => other (Or.inl short))
        cases ret
        exact failed positive
      · rintro (short | wrong | wrong)
        · refine { inside := ?_, exact := ?_, refused := fun long => absurd long (Nat.not_lt_of_le short) }
          · intro copy same
            cases same
            exact Nat.le_refl _
          · intro code _ _
            exact Or.inr ⟨_, rfl, vhciFrame_exact short⟩
        · exact absurd wrong huge
        · exact absurd wrong fails

/-- Which calls keep to the bounds: on the channels the packets that may be sent and, where the
call gets as far as the copy, those that the block takes as well (and those the station does not
even look at while throttled), at the vhci device also those that fail. -/
theorem transmit_bounds_iff (setting : Setting) (buffer : Option Memory) (memory : Memory)
    (len : UInt32) :
    (Bounded NetOk (givenBytes buffer len) len (transportDrvStaTx setting buffer len) ↔
      len.toNat ≤ maxPayloadSize ∨
        (buffer.isSome = true ∧ (setting.wifiTxThrottling ≠ 0 ∨ CopyFits setting len))) ∧
    (Bounded NetOk (givenBytes buffer len) len (transportDrvApTx setting buffer len) ↔
      len.toNat ≤ maxPayloadSize ∨ (buffer.isSome = true ∧ CopyFits setting len)) ∧
    (Bounded WriteOk (bytesAt memory len) len (rtVhciWrite setting memory len) ↔
      len.toNat ≤ maxPayloadSize ∨ 2147483648 ≤ len.toNat ∨ WriteFails setting len) :=
  ⟨sta_bounded setting buffer len, ap_bounded setting buffer len, vhci_bounded setting memory len⟩

/-- Everything is up and works, in the repository's build. -/
def readySetting : Setting where
  useMempool := false
  handle := true
  alloc := true
  wifiTxThrottling := 0
  path :=
    { calloc := true, serialHandle := true, serialLlIf := true, state := .active, ifNum := 0,
      transportUp := true, queueItem := true }

/-- In the repository's build a block takes 1652 bytes. -/
theorem over_the_end : ¬ CopyFits readySetting 1653 := by
  rintro ⟨-, -, room⟩
  exact absurd room (by decide)

/-- A packet of 1653 bytes is copied over the end of the block, and one of 65541 bytes goes out
with 5 on all three ways. -/
theorem transmit_bounds_fail :
    (¬ ∀ setting buffer len,
      Bounded NetOk (givenBytes buffer len) len (transportDrvStaTx setting buffer len)) ∧
    (¬ ∀ setting buffer len,
      Bounded NetOk (givenBytes buffer len) len (transportDrvApTx setting buffer len)) ∧
    (¬ ∀ setting memory len,
      Bounded WriteOk (bytesAt memory len) len (rtVhciWrite setting memory len)) ∧
    (transportDrvStaTx readySetting (some fun _ => 7) 65541).ret = some espOk ∧
    ((transportDrvStaTx readySetting (some fun _ => 7) 65541).queued.map fun frame =>
      frame.buf.payloadLen) = some 5 := by
  have sends : transportDrvStaTx readySetting (some fun _ => 7) 65541 =
      networkTx readySetting espStaIf (fun _ => 7) 65541 := by
    have some_bytes : ¬ (65541 : UInt32) = 0 := by decide
    have free : ¬ readySetting.wifiTxThrottling ≠ 0 := by decide
    simp only [transportDrvStaTx, some_bytes, free, if_false]
  have short : (65541 : UInt32).toUInt16 = 5 := by decide
  have accepted : lenAccepted (65541 : UInt32).toUInt16 = true := by decide
  obtain ⟨ret, queued⟩ :=
    @networkTx_narrows readySetting (fun _ => 7) 65541 espStaIf rfl rfl rfl rfl accepted
  refine ⟨fun bounded => ?_, fun bounded => ?_, fun bounded => ?_, ?_, ?_⟩
  · have within := (sta_bounded _ _ _).mp (bounded readySetting (some fun _ => 7) 1653)
    rcases within with wrong | ⟨-, wrong | wrong⟩
    · exact absurd wrong (by decide)
    · exact absurd wrong (by decide)
    · exact over_the_end wrong
  · have within := (ap_bounded _ _ _).mp (bounded readySetting (some fun _ => 7) 1653)
    rcases within with wrong | ⟨-, wrong⟩
    · exact absurd wrong (by decide)
    · exact over_the_end wrong
  · have within := (vhci_bounded _ _ _).mp (bounded readySetting (fun _ => 7) 65541)
    rcases within with wrong | wrong | wrong | wrong | wrong | wrong
    all_goals exact absurd wrong (by decide)
  · rw [sends]
    exact ret
  · rw [sends, queued, short]

end Calls

end EspHosted.TransmitBounds

import EspHosted.SpiFrames
import Mathlib.Order.Basic

/-!
The slave's side of the serial interface: `serial_write_data` cuts a message into
frames, numbers them and marks all but the last. The frames then cross the SPI link,
which drops some and delivers the others unchanged and in order.
-/

namespace EspHosted.SerialFragments
open SpiFrames

def espOk : Int := 0
def espFail : Int := -1

/-- The loop of `serial_write_data`. `left` is what `pos` points at, `refused` tells for
which fragments `send_to_host_queue` fails. The result is the frames that were queued,
the static `seq_num` and the return value. -/
def serialWriteData (refused : Nat → Bool) (seqNum : UInt16) (left : List UInt8) :
    List IfaceBuf × UInt16 × Int :=
  let seqNum := seqNum + 1
  if ethDataLen < left.length then
    let buf : IfaceBuf :=
      { ifType := espSerialIf, ifNum := 0, payload := left, flag := moreFragment,
        payloadLen := UInt16.ofNat ethDataLen, seqNum := seqNum }
    -- a refused fragment ends the loop; the ones before it are on their way
    if refused 0 then ([], seqNum, espFail)
    else
      let rest := serialWriteData (fun index => refused (index + 1)) seqNum (left.drop ethDataLen)
      (buf :: rest.1, rest.2)
  else
    let buf : IfaceBuf :=
      { ifType := espSerialIf, ifNum := 0, payload := left, flag := 0,
        payloadLen := UInt16.ofNat left.length, seqNum := seqNum }
    if refused 0 then ([], seqNum, espFail) else ([buf], seqNum, espOk)
termination_by left.length
decreasing_by
  simp only [List.length_drop, ethDataLen] at *
  omega

/-- The frames of one message when every one is queued. -/
def fragments (seqNum : UInt16) (message : List UInt8) : List IfaceBuf :=
  (serialWriteData (fun _ => false) seqNum message).1

def fragCount (len : Nat) : Nat := (len - 1) / ethDataLen + 1

/-- What the receiver looks at: whether `MORE_FRAGMENT` is clear, and the bytes. -/
structure Piece where
  last : Bool
  bytes : List UInt8

def piece (buf : IfaceBuf) : Piece where
  last := buf.flag &&& moreFragment = 0
  bytes := buf.bytes

/-- The pieces of a message. They do not depend on where `seq_num` stands. -/
def pieces (message : List UInt8) : List Piece := (fragments 0 message).map piece

theorem write_short {seqNum : UInt16} {left : List UInt8} (short : left.length ≤ ethDataLen) :
    serialWriteData (fun _ => false) seqNum left =
      ([{ ifType := espSerialIf, ifNum := 0, payload := left, flag := 0,
          payloadLen := UInt16.ofNat left.length, seqNum := seqNum + 1 }], seqNum + 1, espOk) := by
  rw [serialWriteData]
  simp [Nat.not_lt.mpr short]

theorem write_long {seqNum : UInt16} {left : List UInt8} (long : ethDataLen < left.length) :
    serialWriteData (fun _ => false) seqNum left =
      ({ ifType := espSerialIf, ifNum := 0, payload := left, flag := moreFragment,
         payloadLen := UInt16.ofNat ethDataLen, seqNum := seqNum + 1 } ::
        (serialWriteData (fun _ => false) (seqNum + 1) (left.drop ethDataLen)).1,
        (serialWriteData (fun _ => false) (seqNum + 1) (left.drop ethDataLen)).2) := by
  rw [serialWriteData]
  simp [long]

/-- Induction along the cut of a message. -/
theorem cut_induction {motive : List UInt8 → Prop}
    (short : ∀ left : List UInt8, left.length ≤ ethDataLen → motive left)
    (long : ∀ left : List UInt8, ethDataLen < left.length → motive (left.drop ethDataLen) →
      motive left) (message : List UInt8) : motive message := by
  induction size : message.length using Nat.strong_induction_on generalizing message with
  | _ size ih =>
      by_cases fits : message.length ≤ ethDataLen
      · exact short message fits
      · have exceeds : ethDataLen < message.length := Nat.lt_of_not_le fits
        refine long message exceeds (ih (message.drop ethDataLen).length ?_ _ rfl)
        rw [List.length_drop, ← size]
        simp only [ethDataLen] at *
        omega

theorem fragments_pieces (seqNum : UInt16) (message : List UInt8) :
    (fragments seqNum message).map piece = pieces message := by
  unfold pieces
  generalize (0 : UInt16) = other
  induction message using cut_induction generalizing seqNum other with
  | short left fits => simp only [fragments, write_short fits, List.map_cons, piece, IfaceBuf.bytes]
  | long left exceeds ih =>
      simp only [fragments, write_long exceeds, List.map_cons, piece, IfaceBuf.bytes] at ih ⊢
      rw [ih (seqNum + 1) (other + 1)]

theorem pieces_short {left : List UInt8} (short : left.length ≤ ethDataLen) :
    pieces left = [{ last := true, bytes := left }] := by
  have len : (UInt16.ofNat left.length).toNat = left.length := by
    simp only [ethDataLen, UInt16.toNat_ofNat'] at *
    omega
  simp only [pieces, fragments, write_short short, List.map_cons, List.map_nil, piece, IfaceBuf.bytes,
    len, List.take_length]
  simp

theorem pieces_long {left : List UInt8} (long : ethDataLen < left.length) :
    pieces left = { last := false, bytes := left.take ethDataLen } :: pieces (left.drop ethDataLen) := by
  rw [← fragments_pieces (0 + 1) (left.drop ethDataLen)]
  simp [pieces, fragments, write_long long, piece, IfaceBuf.bytes, moreFragment, ethDataLen]

/-- All pieces but the last ask for more. -/
theorem pieces_shape (message : List UInt8) : ∃ init final, pieces message = init ++ [final] ∧
    (∀ piece ∈ init, piece.last = false) ∧ final.last = true := by
  induction message using cut_induction with
  | short left fits => exact ⟨[], _, pieces_short fits, by simp, rfl⟩
  | long left exceeds ih =>
      obtain ⟨init, final, rest, more, last⟩ := ih
      refine ⟨_ :: init, final, by rw [pieces_long exceeds, rest]; rfl, ?_, last⟩
      intro piece member
      rcases List.mem_cons.mp member with same | later
      · rw [same]
      · exact more piece later

theorem pieces_flatten (message : List UInt8) :
    ((pieces message).map Piece.bytes).flatten = message := by
  induction message using cut_induction with
  | short left fits => simp [pieces_short fits]
  | long left exceeds ih => simp [pieces_long exceeds, ih]

theorem pieces_nonempty (message : List UInt8) (some_bytes : message ≠ []) :
    ∀ piece ∈ pieces message, piece.bytes ≠ [] := by
  induction message using cut_induction with
  | short left fits => simpa [pieces_short fits] using some_bytes
  | long left exceeds ih =>
      have left_over : left.drop ethDataLen ≠ [] := by
        rw [Ne, List.drop_eq_nil_iff]
        omega
      rw [pieces_long exceeds]
      intro piece member
      rcases List.mem_cons.mp member with same | later
      · simpa [same, ethDataLen] using some_bytes
      · exact ih left_over piece later

theorem pieces_length (message : List UInt8) :
    (pieces message).length = fragCount message.length := by
  induction message using cut_induction with
  | short left fits =>
      simp only [pieces_short fits, fragCount, ethDataLen, List.length_singleton] at *
      omega
  | long left exceeds ih =>
      simp only [pieces_long exceeds, List.length_cons, fragCount, ethDataLen, List.length_drop] at *
      omega

/-- The frames are numbered one after the other, whatever the message and wherever
`seq_num` stood, and `seq_num` is left at the last number. -/
theorem fragments_numbered (seqNum : UInt16) (message : List UInt8) :
    (fragments seqNum message).map IfaceBuf.seqNum =
        (List.range (fragments seqNum message).length).map
          (fun index => seqNum + 1 + UInt16.ofNat index) ∧
      (serialWriteData (fun _ => false) seqNum message).2 =
        (seqNum + UInt16.ofNat (fragments seqNum message).length, espOk) := by
  induction message using cut_induction generalizing seqNum with
  | short left fits => simp [fragments, write_short fits]
  | long left exceeds ih =>
      obtain ⟨numbers, next⟩ := ih (seqNum + 1)
      simp only [fragments, write_long exceeds, List.map_cons, List.length_cons] at numbers next ⊢
      rw [numbers, next, List.range_succ_eq_map]
      constructor
      · simp only [List.map_cons, List.map_map, List.cons.injEq]
        refine ⟨by simp, List.map_congr_left fun index _ => ?_⟩
        show seqNum + 1 + 1 + UInt16.ofNat index = seqNum + 1 + UInt16.ofNat (index + 1)
        rw [UInt16.ofNat_add, UInt16.add_assoc (seqNum + 1), UInt16.add_comm 1]
        rfl
      · simp [UInt16.add_assoc, UInt16.add_comm 1]

/-! The link. -/

/-- One frame on its way. It is dropped when the data path is closed or its checksum is
damaged; `throttle` is what the slave puts into `throttle_cmd`. -/
def carry (throttle : IfaceBuf → UInt8) (dropped : Bool) (buf : IfaceBuf) : Option IfaceBuf :=
  if dropped then none
  else (espSpiWrite (throttle buf) buf).bind fun rxbuff => (processSpiRxBuf rxbuff).toOption

/-- What `lost` leaves of a list; `lost index` tells whether that element is lost. -/
def survivors {Item : Type} : (Nat → Bool) → List Item → List Item
  | _, [] => []
  | lost, item :: rest =>
      (if lost 0 then [] else [item]) ++ survivors (fun index => lost (index + 1)) rest

def arrivals (throttle : IfaceBuf → UInt8) : (Nat → Bool) → List IfaceBuf → List IfaceBuf
  | _, [] => []
  | lost, buf :: rest =>
      (carry throttle (lost 0) buf).toList ++ arrivals throttle (fun index => lost (index + 1)) rest

/-- The slave sends messages one after the other; `lost number index` tells whether
fragment `index` of message `number` is dropped. -/
def transmit (throttle : IfaceBuf → UInt8) :
    (Nat → Nat → Bool) → UInt16 → List (List UInt8) → List IfaceBuf
  | _, _, [] => []
  | lost, seqNum, message :: rest =>
      arrivals throttle (lost 0) (fragments seqNum message) ++
        transmit throttle (fun number => lost (number + 1))
          (serialWriteData (fun _ => false) seqNum message).2.1 rest

/-- What is left of the pieces of every message. -/
def stream : (Nat → Nat → Bool) → List (List UInt8) → List Piece
  | _, [] => []
  | lost, message :: rest =>
      survivors (lost 0) (pieces message) ++ stream (fun number => lost (number + 1)) rest

/-- A frame that the serial interface can work with. -/
structure Sound (buf : IfaceBuf) : Prop where
  filled : buf.Filled
  ifNum : buf.ifNum = 0
  positive : buf.payloadLen.toNat ≠ 0

theorem fragments_sound (seqNum : UInt16) (message : List UInt8) (some_bytes : message ≠ []) :
    ∀ buf ∈ fragments seqNum message, Sound buf ∧ buf.payloadLen.toNat ≤ ethDataLen ∧
      buf.ifType = espSerialIf := by
  induction message using cut_induction generalizing seqNum with
  | short left fits =>
      have len : (UInt16.ofNat left.length).toNat = left.length := by
        simp only [ethDataLen, UInt16.toNat_ofNat'] at *
        omega
      simp only [fragments, write_short fits, List.mem_singleton, forall_eq, and_true]
      refine ⟨⟨?_, rfl, ?_⟩, ?_⟩
      · simp [IfaceBuf.Filled, len]
      · simpa [len] using some_bytes
      · simpa [len] using fits
  | long left exceeds ih =>
      have left_over : left.drop ethDataLen ≠ [] := by
        rw [Ne, List.drop_eq_nil_iff]
        omega
      have later := ih (seqNum + 1) left_over
      simp only [fragments, write_long exceeds, List.forall_mem_cons, and_true] at later ⊢
      refine ⟨⟨⟨?_, rfl, ?_⟩, ?_⟩, later⟩
      · simp only [IfaceBuf.Filled, ethDataLen] at *
        exact Nat.le_of_lt exceeds
      · simp [ethDataLen]
      · simp [ethDataLen]

theorem carry_kept {throttle : IfaceBuf → UInt8} {buf : IfaceBuf} (sound : Sound buf)
    (fits : buf.payloadLen.toNat ≤ ethDataLen) (serial : buf.ifType = espSerialIf) :
    ∃ got, carry throttle false buf = some got ∧ SameFrame got buf := by
  have number : buf.ifNum.toNat < 16 := by simp [sound.ifNum]
  have kind : buf.ifType.toNat < 16 := by simp [serial, espSerialIf]
  obtain ⟨rxbuff, got, written, accepted, same⟩ :=
    @espSpiWrite_accepted (throttle buf) buf sound.filled sound.positive fits kind number
  exact ⟨got, by simp [carry, written, accepted, Except.toOption], same⟩

theorem same_sound {got sent : IfaceBuf} (same : SameFrame got sent) (sound : Sound sent) :
    Sound got where
  filled := same.filled
  ifNum := by rw [same.ifNum, sound.ifNum]
  positive := by
    rw [same.payloadLen]
    exact sound.positive

theorem same_piece {got sent : IfaceBuf} (same : SameFrame got sent) :
    piece got = piece sent := by
  simp [piece, same.flag, same.bytes]

/-- The link delivers what it does not lose, in order. -/
theorem arrivals_pieces (throttle : IfaceBuf → UInt8) (lost : Nat → Bool) (frames : List IfaceBuf)
    (sound : ∀ buf ∈ frames, Sound buf ∧ buf.payloadLen.toNat ≤ ethDataLen ∧ buf.ifType = espSerialIf) :
    (arrivals throttle lost frames).map piece = survivors lost (frames.map piece) ∧
      ∀ buf ∈ arrivals throttle lost frames, Sound buf := by
  induction frames generalizing lost with
  | nil => simp [arrivals, survivors]
  | cons buf rest ih =>
      obtain ⟨⟨good, fits, serial⟩, later⟩ := List.forall_mem_cons.mp sound
      obtain ⟨same_rest, sound_rest⟩ := ih (fun index => lost (index + 1)) later
      cases dropped : lost 0 with
      | true => simpa [arrivals, survivors, dropped, carry, same_rest] using sound_rest
      | false =>
          obtain ⟨got, arrives, same⟩ := @carry_kept throttle buf good fits serial
          simpa [arrivals, survivors, dropped, arrives, same_rest, same_piece same] using
            ⟨same_sound same good, sound_rest⟩

theorem transmit_pieces (throttle : IfaceBuf → UInt8) (lost : Nat → Nat → Bool) (seqNum : UInt16)
    (messages : List (List UInt8)) (some_bytes : ∀ message ∈ messages, message ≠ []) :
    (transmit throttle lost seqNum messages).map piece = stream lost messages ∧
      ∀ buf ∈ transmit throttle lost seqNum messages, Sound buf := by
  induction messages generalizing lost seqNum with
  | nil => simp [transmit, stream]
  | cons message rest ih =>
      obtain ⟨here, later⟩ := List.forall_mem_cons.mp some_bytes
      obtain ⟨same, sound⟩ := arrivals_pieces throttle (lost 0) _ (fragments_sound seqNum message here)
      obtain ⟨same_rest, sound_rest⟩ := ih (fun number => lost (number + 1))
        (serialWriteData (fun _ => false) seqNum message).2.1 later
      constructor
      · simp [transmit, stream, same, same_rest, fragments_pieces]
      · simp only [transmit, List.forall_mem_append]
        exact ⟨sound, sound_rest⟩

end EspHosted.SerialFragments

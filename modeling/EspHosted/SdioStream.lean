import EspHosted.HostFrames
import EspHosted.RxPackets
import Mathlib.Data.List.Forall2

/-!
`sdio_push_data_to_queue` in streaming mode: packets that stand one behind the other in a buffer
are copied to buffers of their own and queued. The check looks at a packet before its size is
compared with what is left, so it may read what lies behind the buffer, and the buffer for the
copy is allocated before that test. A put waits for room in the queue.
-/

namespace EspHosted.SdioStream
open SpiFrames HostFrames RxPackets

/-- A read of the stream: how far it goes from where the loop stands, and what is left there. -/
structure Look where
  reach : Nat
  left : Nat

/-- `allocated` and `freed` count packet buffers; `ok` is ESP_OK. -/
structure Pushed where
  looks : List Look
  allocated : Nat := 0
  freed : Nat := 0
  queued : List Received := []
  ok : Bool

def Pushed.after (next : Pushed) (looks : List Look) (received : Received) : Pushed where
  looks := looks ++ next.looks
  allocated := 1 + next.allocated
  freed := next.freed
  queued := received :: next.queued
  ok := next.ok

/-- `stream` are the `buf_len` bytes from `buf` on, `behind` what lies behind them. -/
def sdioPushDataToQueue (config : RxConfig) (stream behind : List UInt8) : Pushed :=
  let check := isValidRxPacket config (stream ++ behind)
  let look := { reach := validReach config (stream ++ behind), left := stream.length }
  match _found : check.found with
  | none => { looks := [look], ok := false }
  | some (len, offset) =>
      let packetSize := len.toNat + offset.toNat
      if _small : packetSize > stream.length then { looks := [look], allocated := 1, ok := false }
      else
        let copied := { reach := packetSize, left := stream.length }
        let pktRxbuff := putAt (List.replicate config.bufferSize 0) 0 (check.rxbuff.take packetSize)
        let received := pushPktToQueue pktRxbuff len offset
        let rest := (check.rxbuff.take stream.length).drop packetSize
        if rest.length = 0 then
          { looks := [look, copied], allocated := 1, queued := [received], ok := true }
        else
          (sdioPushDataToQueue config rest (check.rxbuff.drop stream.length)).after [look, copied]
            received
termination_by stream.length
decreasing_by
  obtain ⟨fits, same, _⟩ := found_some _found
  have positive : 0 < len.toNat := same ▸ ((headerFits_iff _).mp fits).1
  have taken : (check.rxbuff.take stream.length).length ≤ stream.length := List.length_take_le ..
  show ((check.rxbuff.take stream.length).drop (len.toNat + offset.toNat)).length < stream.length
  rw [List.length_drop]
  omega

/-- Every read is inside; the queue has packets that stand complete and valid at the front of the
stream, in their order; every buffer is queued or free again; a stream of valid packets is queued
as it is. -/
structure Correct (config : RxConfig) (stream behind : List UInt8) : Prop where
  inside : ∀ look ∈ (sdioPushDataToQueue config stream behind).looks, look.reach ≤ look.left
  front : ∃ packets : List (Packet config), (∀ packet ∈ packets, packet.valid = true) ∧
    packets.flatMap Packet.bytes <+: stream ∧
    List.Forall₂ Carries (sdioPushDataToQueue config stream behind).queued packets
  settled : (sdioPushDataToQueue config stream behind).allocated =
    (sdioPushDataToQueue config stream behind).queued.length +
      (sdioPushDataToQueue config stream behind).freed
  all : ∀ packets : List (Packet config), (∀ packet ∈ packets, packet.valid = true) →
    stream = packets.flatMap Packet.bytes →
    List.Forall₂ Carries (sdioPushDataToQueue config stream behind).queued packets

/-- Wherever the loop comes behind valid packets, the front of a header is left, and all of the
packet if the header fits. -/
def Framed (config : RxConfig) (stream : List UInt8) : Prop :=
  ∀ (packets : List (Packet config)) (rest : List UInt8),
    (∀ packet ∈ packets, packet.valid = true) → stream = packets.flatMap Packet.bytes ++ rest →
    (packets = [] ∨ rest ≠ []) →
    6 ≤ rest.length ∧
      (headerFits config rest = true →
        (decodeHeader rest).len.toNat + payloadHeaderSize ≤ rest.length)

variable {config : RxConfig} {stream behind : List UInt8}

/-! A round of the loop. -/

/-- A read of the check, and what it leaves when nothing is found. -/
theorem push_none (missed : (isValidRxPacket config (stream ++ behind)).found = none) :
    sdioPushDataToQueue config stream behind =
      { looks := [⟨validReach config (stream ++ behind), stream.length⟩], ok := false } := by
  rw [sdioPushDataToQueue]
  split
  next => rfl
  next found =>
    rw [missed] at found
    exact absurd found (by simp)

theorem push_some {len offset : UInt16}
    (found : (isValidRxPacket config (stream ++ behind)).found = some (len, offset)) :
    sdioPushDataToQueue config stream behind =
      if len.toNat + offset.toNat > stream.length then
        { looks := [⟨validReach config (stream ++ behind), stream.length⟩], allocated := 1,
          ok := false }
      else
        let rxbuff := (isValidRxPacket config (stream ++ behind)).rxbuff
        let looks := [⟨validReach config (stream ++ behind), stream.length⟩,
          ⟨len.toNat + offset.toNat, stream.length⟩]
        let received := pushPktToQueue (putAt (List.replicate config.bufferSize 0) 0
          (rxbuff.take (len.toNat + offset.toNat))) len offset
        let rest := (rxbuff.take stream.length).drop (len.toNat + offset.toNat)
        if rest.length = 0 then
          { looks := looks, allocated := 1, queued := [received], ok := true }
        else
          (sdioPushDataToQueue config rest (rxbuff.drop stream.length)).after looks received := by
  rw [sdioPushDataToQueue]
  split
  next missed =>
    rw [found] at missed
    exact absurd missed (by simp)
  next len_found offset_found again =>
    rw [found, Option.some.injEq, Prod.mk.injEq] at again
    obtain ⟨rfl, rfl⟩ := again
    rfl

/-- The check of a packet looks no further than its end. -/
theorem packet_reach (packet : Packet config) (rest : List UInt8) :
    validReach config (packet.bytes ++ rest) ≤ packet.bytes.length := by
  have length := bytes_length packet
  have offset : (decodeHeader packet.header).offset.toNat = 12 := packet.offset
  rw [validReach, bytes_decode]
  split <;> omega

theorem push_valid (packet : Packet config) (valid : packet.valid = true)
    (rest behind : List UInt8) :
    ∃ received looks, Carries received packet ∧ (∀ look ∈ looks, look.reach ≤ look.left) ∧
      sdioPushDataToQueue config (packet.bytes ++ rest) behind =
        if rest.length = 0 then
          { looks := looks, allocated := 1, queued := [received], ok := true }
        else (sdioPushDataToQueue config rest behind).after looks received := by
  have check := check_packet packet (rest ++ behind)
  have whole : packet.bytes ++ (rest ++ behind) = packet.bytes ++ rest ++ behind :=
    (List.append_assoc _ _ _).symm
  rw [valid, if_pos rfl, whole] at check
  have length := bytes_length packet
  have total : (packet.bytes ++ rest).length = packet.bytes.length + rest.length :=
    List.length_append
  have reach := packet_reach packet (rest ++ behind)
  rw [whole] at reach
  have fits : ¬ (decodeHeader packet.header).len.toNat + (decodeHeader packet.header).offset.toNat >
      (packet.bytes ++ rest).length := by omega
  have checked : (packet.checkedHeader ++ packet.payload).length = packet.bytes.length := by
    rw [Packet.bytes, List.length_append, List.length_append, checkedHeader_length,
      packet.headerLength]
  have memory : packet.checkedHeader ++ (packet.payload ++ (rest ++ behind)) =
      packet.checkedHeader ++ packet.payload ++ rest ++ behind := by
    simp only [List.append_assoc]
  have front : (packet.checkedHeader ++ packet.payload ++ rest ++ behind).take
      packet.bytes.length = packet.checkedHeader ++ packet.payload := by
    rw [List.append_assoc]
    exact List.take_left' checked
  have left : (packet.checkedHeader ++ packet.payload ++ rest ++ behind).take
      (packet.bytes ++ rest).length = packet.checkedHeader ++ packet.payload ++ rest :=
    List.take_left' (by rw [List.length_append, checked, total])
  have beyond : (packet.checkedHeader ++ packet.payload ++ rest ++ behind).drop
      (packet.bytes ++ rest).length = behind :=
    List.drop_left' (by rw [List.length_append, checked, total])
  have tail : (packet.checkedHeader ++ packet.payload ++ rest).drop packet.bytes.length = rest :=
    List.drop_left' checked
  rw [push_some (congrArg Check.found check), if_neg fits, check, ← length, memory]
  dsimp only
  rw [front, left, beyond, tail]
  refine ⟨_, _, ?_, ?_, rfl⟩
  · rw [putAt_zero, List.append_assoc]
    exact pushed_carries packet _
  · simp only [List.forall_mem_cons]
    exact ⟨by omega, by omega, fun _ none => absurd none List.not_mem_nil⟩

theorem push_invalid (packet : Packet config) (invalid : packet.valid = false)
    (rest behind : List UInt8) :
    ∃ looks, (∀ look ∈ looks, look.reach ≤ look.left) ∧
      sdioPushDataToQueue config (packet.bytes ++ rest) behind = { looks := looks, ok := false } := by
  have check := check_packet packet (rest ++ behind)
  have reach := packet_reach packet (rest ++ behind)
  rw [invalid, if_neg Bool.false_ne_true] at check
  rw [← List.append_assoc] at check reach
  refine ⟨_, ?_, push_none (congrArg Check.found check)⟩
  intro look inside
  rw [List.mem_singleton.mp inside, List.length_append]
  exact Nat.le_trans reach (Nat.le_add_right _ _)

theorem push_nothing (misfit : headerFits config (stream ++ behind) = false) :
    sdioPushDataToQueue config stream behind =
      { looks := [⟨6, stream.length⟩], ok := false } := by
  have missed : (isValidRxPacket config (stream ++ behind)).found = none := by
    rw [isValidRxPacket, misfit, if_neg Bool.false_ne_true]
  have reach : validReach config (stream ++ behind) = 6 := by
    rw [validReach, misfit, if_neg (by simp)]
  rw [push_none missed, reach]

/-- The header fits and the packet does not: it is read over the end, or a buffer is lost. -/
theorem push_cut (fits : headerFits config (stream ++ behind) = true)
    (cut : stream.length < (decodeHeader (stream ++ behind)).len.toNat + payloadHeaderSize) :
    (sdioPushDataToQueue config stream behind).queued = [] ∧
      ((∃ look ∈ (sdioPushDataToQueue config stream behind).looks, look.left < look.reach) ∨
        (sdioPushDataToQueue config stream behind).allocated = 1 ∧
          (sdioPushDataToQueue config stream behind).freed = 0) := by
  have offset := ((headerFits_iff _).mp fits).2.2
  cases checksum : config.checksum with
  | true =>
      have reach : stream.length < validReach config (stream ++ behind) := by
        rw [validReach, if_pos ⟨fits, checksum⟩, offset]
        exact cut
      cases found : (isValidRxPacket config (stream ++ behind)).found with
      | none =>
          rw [push_none found]
          exact ⟨rfl, .inl ⟨_, List.mem_cons_self, reach⟩⟩
      | some header =>
          obtain ⟨_, len, again⟩ := found_some found
          rw [push_some found, if_pos (by rw [len, again, offset]; exact cut)]
          exact ⟨rfl, .inl ⟨_, List.mem_cons_self, reach⟩⟩
  | false =>
      have found : (isValidRxPacket config (stream ++ behind)).found =
          some ((decodeHeader (stream ++ behind)).len, (decodeHeader (stream ++ behind)).offset) := by
        rw [isValidRxPacket, fits, if_pos rfl, checksum, if_neg Bool.false_ne_true]
      rw [push_some found, if_pos (by rw [offset]; exact cut)]
      exact ⟨rfl, .inr ⟨rfl, rfl⟩⟩

/-! The whole stream. -/

/-- What stands at the front of the stream. -/
theorem stream_cases (config : RxConfig) (stream behind : List UInt8) :
    headerFits config (stream ++ behind) = false ∨
      (headerFits config (stream ++ behind) = true ∧
        stream.length < (decodeHeader (stream ++ behind)).len.toNat + payloadHeaderSize) ∨
      ∃ packet : Packet config, ∃ rest, stream = packet.bytes ++ rest := by
  cases fits : headerFits config (stream ++ behind) with
  | false => exact .inl rfl
  | true =>
      by_cases cut : stream.length <
          (decodeHeader (stream ++ behind)).len.toNat + payloadHeaderSize
      · exact .inr (.inl ⟨rfl, cut⟩)
      · have whole : (decodeHeader (stream ++ behind)).len.toNat + payloadHeaderSize ≤
            (stream ++ behind).length := by
          rw [List.length_append]
          omega
        obtain ⟨packet, rest, split⟩ := packet_of_fits fits whole
        have length := bytes_length packet
        rw [split, bytes_decode] at cut
        rw [packet.offset] at length
        have inside : packet.bytes <+: stream :=
          List.prefix_of_prefix_length_le ⟨rest, split.symm⟩ (List.prefix_append stream behind)
            (by omega)
        exact .inr (.inr ⟨packet, inside.choose, inside.choose_spec.symm⟩)

theorem bytes_unique {packet other : Packet config} {rest left : List UInt8}
    (same : packet.bytes ++ rest = other.bytes ++ left) : packet = other ∧ rest = left := by
  have header : packet.header = other.header := by
    rw [Packet.bytes, Packet.bytes, List.append_assoc, List.append_assoc] at same
    exact (List.append_inj same (packet.headerLength.trans other.headerLength.symm)).1
  have length : packet.bytes.length = other.bytes.length := by
    rw [RxPackets.bytes_length, RxPackets.bytes_length, header]
  obtain ⟨bytes, behind⟩ := List.append_inj same length
  have payload : packet.payload = other.payload := by
    rw [Packet.bytes, Packet.bytes, header] at bytes
    exact List.append_cancel_left bytes
  refine ⟨?_, behind⟩
  cases packet
  cases other
  cases header
  cases payload
  rfl

/-- The check reads nothing behind the sixth byte before it knows that the header fits. -/
theorem header_known (enough : 6 ≤ stream.length) (behind : List UInt8) :
    headerFits config (stream ++ behind) = headerFits config stream ∧
      (decodeHeader (stream ++ behind)).len = (decodeHeader stream).len := by
  have same (index : Nat) (inside : index < 6) :
      (stream ++ behind).getD index 0 = stream.getD index 0 := by
    rw [List.getD_eq_getElem?_getD, List.getD_eq_getElem?_getD,
      List.getElem?_append_left (by omega)]
  have len : (decodeHeader (stream ++ behind)).len = (decodeHeader stream).len :=
    congrArg₂ le16 (same 2 (by decide)) (same 3 (by decide))
  have offset : (decodeHeader (stream ++ behind)).offset = (decodeHeader stream).offset :=
    congrArg₂ le16 (same 4 (by decide)) (same 5 (by decide))
  rw [headerFits, headerFits, len, offset]
  exact ⟨rfl, rfl⟩

/-- Where a packet stands, the front of its header and all of it are left. -/
theorem packet_front (packet : Packet config) (rest : List UInt8) :
    6 ≤ (packet.bytes ++ rest).length ∧
      (headerFits config (packet.bytes ++ rest) = true →
        (decodeHeader (packet.bytes ++ rest)).len.toNat + payloadHeaderSize ≤
          (packet.bytes ++ rest).length) := by
  have length := bytes_length packet
  have offset : (decodeHeader packet.header).offset.toNat = 12 := packet.offset
  rw [bytes_decode, List.length_append]
  exact ⟨by omega, fun _ => by rw [packet.offset] at length; omega⟩

/-- Behind a packet less is left, so the loop over the packets ends. -/
theorem rest_shorter (packet : Packet config) (rest : List UInt8) :
    rest.length < (packet.bytes ++ rest).length := by
  have positive := packet.positive
  have bytes : packet.bytes.length = packet.header.length + packet.payload.length :=
    List.length_append
  rw [List.length_append]
  omega

theorem framed_packet (packet : Packet config) (valid : packet.valid = true) (rest : List UInt8) :
    Framed config (packet.bytes ++ rest) ↔ rest = [] ∨ Framed config rest := by
  constructor
  · intro framed
    by_cases none : rest = []
    · exact .inl none
    · refine .inr fun packets left valids split reached => ?_
      refine framed (packet :: packets) left (List.forall_mem_cons.mpr ⟨valid, valids⟩) ?_ ?_
      · rw [split, List.flatMap_cons, List.append_assoc]
      · refine .inr fun ended => ?_
        rcases reached with none_yet | more
        · rw [none_yet, ended] at split
          exact none split
        · exact more ended
  · intro framed packets left valids split reached
    cases packets with
    | nil =>
        have whole : packet.bytes ++ rest = left := split
        rw [← whole]
        exact packet_front packet rest
    | cons other packets =>
        rw [List.flatMap_cons, List.append_assoc] at split
        obtain ⟨rfl, behind⟩ := bytes_unique split
        have more : left ≠ [] := reached.resolve_left (List.cons_ne_nil _ _)
        rcases framed with none | framed
        · rw [none] at behind
          exact absurd (List.append_eq_nil_iff.mp behind.symm).2 more
        · exact framed packets left (List.forall_mem_cons.mp valids).2 behind (.inr more)

theorem framed_invalid (packet : Packet config) (invalid : packet.valid = false)
    (rest : List UInt8) : Framed config (packet.bytes ++ rest) := by
  intro packets left valids split _
  cases packets with
  | nil =>
      have whole : packet.bytes ++ rest = left := split
      rw [← whole]
      exact packet_front packet rest
  | cons other packets =>
      rw [List.flatMap_cons, List.append_assoc] at split
      obtain ⟨rfl, _⟩ := bytes_unique split
      have valid := valids packet List.mem_cons_self
      rw [invalid] at valid
      exact absurd valid Bool.false_ne_true

theorem framed_nothing (misfit : headerFits config (stream ++ behind) = false) :
    Framed config stream ↔ 6 ≤ stream.length := by
  constructor
  · intro framed
    exact (framed [] stream (fun _ none => absurd none List.not_mem_nil) rfl (.inl rfl)).1
  · intro enough packets left valids split _
    cases packets with
    | nil =>
        have whole : stream = left := split
        rw [← whole]
        refine ⟨enough, fun fits => ?_⟩
        rw [(header_known enough behind).1, fits] at misfit
        exact absurd misfit (by decide)
    | cons packet packets =>
        rw [List.flatMap_cons, List.append_assoc] at split
        rw [split, List.append_assoc, bytes_fit] at misfit
        exact absurd misfit (by decide)

theorem framed_cut (fits : headerFits config (stream ++ behind) = true)
    (cut : stream.length < (decodeHeader (stream ++ behind)).len.toNat + payloadHeaderSize) :
    ¬ Framed config stream := by
  intro framed
  obtain ⟨enough, whole⟩ :=
    framed [] stream (fun _ none => absurd none List.not_mem_nil) rfl (.inl rfl)
  obtain ⟨same, len⟩ := @header_known config stream enough behind
  rw [same] at fits
  rw [len] at cut
  have := whole fits
  omega

/-- Reads stay inside and no buffer is lost exactly on the streams that are framed. -/
theorem safe_iff (stream behind : List UInt8) :
    ((∀ look ∈ (sdioPushDataToQueue config stream behind).looks, look.reach ≤ look.left) ∧
      (sdioPushDataToQueue config stream behind).allocated =
        (sdioPushDataToQueue config stream behind).queued.length +
          (sdioPushDataToQueue config stream behind).freed) ↔ Framed config stream := by
  induction length : stream.length using Nat.strong_induction_on generalizing stream behind with
  | _ size ih =>
    rcases stream_cases config stream behind with misfit | ⟨fits, cut⟩ | ⟨packet, rest, rfl⟩
    · rw [push_nothing misfit, framed_nothing misfit]
      simp
    · obtain ⟨none, outside | lost⟩ := push_cut fits cut
      · obtain ⟨look, inside, beyond⟩ := outside
        refine iff_of_false (fun safe => ?_) (framed_cut fits cut)
        have := safe.1 look inside
        omega
      · refine iff_of_false (fun safe => ?_) (framed_cut fits cut)
        have settled := safe.2
        rw [none, lost.1, lost.2] at settled
        exact absurd settled (by decide)
    · have shorter := length ▸ rest_shorter packet rest
      cases valid : packet.valid with
      | false =>
          obtain ⟨looks, inside, pushed⟩ := push_invalid packet valid rest behind
          rw [pushed]
          exact iff_of_true ⟨inside, rfl⟩ (framed_invalid packet valid rest)
      | true =>
          obtain ⟨received, looks, _, inside, pushed⟩ := push_valid packet valid rest behind
          rw [pushed, framed_packet packet valid]
          by_cases ended : rest = []
          · rw [if_pos (List.length_eq_zero_iff.mpr ended)]
            exact iff_of_true ⟨inside, rfl⟩ (.inl ended)
          · rw [if_neg (mt List.length_eq_zero_iff.mp ended), or_iff_right ended,
              ← ih rest.length shorter rest behind rfl]
            simp only [Pushed.after, List.mem_append, or_imp, forall_and, List.length_cons]
            constructor
            · rintro ⟨⟨_, others⟩, settled⟩
              exact ⟨others, by omega⟩
            · rintro ⟨others, settled⟩
              exact ⟨⟨inside, others⟩, by omega⟩

/-- The queue has packets from the front of the stream. -/
def FromFront (config : RxConfig) (stream : List UInt8) (queued : List Received) : Prop :=
  ∃ packets : List (Packet config), (∀ packet ∈ packets, packet.valid = true) ∧
    packets.flatMap Packet.bytes <+: stream ∧ List.Forall₂ Carries queued packets

theorem none_fromFront (stream : List UInt8) : FromFront config stream [] :=
  ⟨[], fun _ none => absurd none List.not_mem_nil, List.nil_prefix, .nil⟩

theorem next_fromFront {packet : Packet config} {received : Received} {rest : List UInt8}
    {queued : List Received} (valid : packet.valid = true) (carries : Carries received packet)
    (others : FromFront config rest queued) :
    FromFront config (packet.bytes ++ rest) (received :: queued) := by
  obtain ⟨packets, valids, front, carried⟩ := others
  refine ⟨packet :: packets, List.forall_mem_cons.mpr ⟨valid, valids⟩, ?_, .cons carries carried⟩
  rw [List.flatMap_cons]
  exact (List.prefix_append_right_inj packet.bytes).mpr front

theorem queued_front (stream behind : List UInt8) :
    FromFront config stream (sdioPushDataToQueue config stream behind).queued := by
  induction length : stream.length using Nat.strong_induction_on generalizing stream behind with
  | _ size ih =>
    rcases stream_cases config stream behind with misfit | ⟨fits, cut⟩ | ⟨packet, rest, rfl⟩
    · rw [push_nothing misfit]
      exact none_fromFront stream
    · rw [(push_cut fits cut).1]
      exact none_fromFront stream
    · have shorter := length ▸ rest_shorter packet rest
      cases valid : packet.valid with
      | false =>
          obtain ⟨looks, _, pushed⟩ := push_invalid packet valid rest behind
          rw [pushed]
          exact none_fromFront _
      | true =>
          obtain ⟨received, looks, carries, _, pushed⟩ := push_valid packet valid rest behind
          rw [pushed]
          by_cases ended : rest.length = 0
          · rw [if_pos ended]
            exact next_fromFront valid carries (none_fromFront rest)
          · rw [if_neg ended]
            exact next_fromFront valid carries (ih rest.length shorter rest behind rfl)

theorem no_bytes {packets : List (Packet config)} (none : packets.flatMap Packet.bytes = []) :
    packets = [] := by
  cases packets with
  | nil => rfl
  | cons packet packets =>
      have positive := packet.positive
      rw [List.flatMap_cons, Packet.bytes, List.append_assoc] at none
      have payload := (List.append_eq_nil_iff.mp (List.append_eq_nil_iff.mp none).2).1
      rw [payload] at positive
      exact absurd positive (Nat.lt_irrefl 0)

theorem queued_all (packets : List (Packet config)) (valids : ∀ packet ∈ packets, packet.valid = true)
    (behind : List UInt8) :
    List.Forall₂ Carries
      (sdioPushDataToQueue config (packets.flatMap Packet.bytes) behind).queued packets := by
  induction packets with
  | nil =>
      obtain ⟨found, _, front, carried⟩ := @queued_front config [] behind
      rw [no_bytes (List.prefix_nil.mp front)] at carried
      exact carried
  | cons packet packets ih =>
      obtain ⟨valid, others⟩ := List.forall_mem_cons.mp valids
      obtain ⟨received, looks, carries, _, pushed⟩ :=
        push_valid packet valid (packets.flatMap Packet.bytes) behind
      rw [List.flatMap_cons, pushed]
      by_cases ended : (packets.flatMap Packet.bytes).length = 0
      · rw [if_pos ended, no_bytes (List.length_eq_zero_iff.mp ended)]
        exact .cons carries .nil
      · rw [if_neg ended]
        exact .cons carries (ih others)

/-- The stream is split correctly exactly if the loop never stands in front of less than a header
or of the beginning of a packet. -/
theorem stream_split_iff (config : RxConfig) (stream behind : List UInt8) :
    Correct config stream behind ↔ Framed config stream := by
  rw [← safe_iff stream behind]
  constructor
  · intro correct
    exact ⟨correct.inside, correct.settled⟩
  · rintro ⟨inside, settled⟩
    refine ⟨inside, queued_front stream behind, settled, ?_⟩
    rintro packets valids rfl
    exact queued_all packets valids behind

/-- A packet of which only the header and one byte came: it is read to its announced end. -/
theorem stream_overread :
    ¬ Correct (sdioConfig true) [0, 0, 2, 0, 12, 0, 0, 0, 0, 0, 0, 0, 0] [0xFF] := by
  intro correct
  have framed := (safe_iff _ _).mp ⟨correct.inside, correct.settled⟩
  have whole := (framed [] _ (fun _ none => absurd none List.not_mem_nil) rfl (.inl rfl)).2
    (by decide)
  exact absurd whole (by decide)

end EspHosted.SdioStream

import EspHosted.SerialReassembly
import Mathlib.Data.List.Flatten

/-!
The serial interface on a link that loses frames. The receiver never looks at
`seq_num`, so a lost fragment goes unnoticed: without its last fragment a message
runs into the next one, without another one it is queued short. `Whole` says for
which losses that cannot happen, whatever the messages contain.
-/

namespace EspHosted.SerialLoss
open SpiFrames SerialFragments SerialReassembly Segments

/-- The message gets through complete and its length fits `payload_len`, or nothing of
it gets through. -/
def Clean (lost : Nat → Bool) (len : Nat) : Prop :=
  (∀ index < fragCount len, lost index = false) ∧ len ≤ 65535 ∨
    ∀ index < fragCount len, lost index = true

/-- The last fragment of some message gets through. -/
def Completes (lens : List Nat) (lost : Nat → Nat → Bool) : Prop :=
  ∃ number, ∃ len ∈ lens[number]?, lost number (fragCount len - 1) = false

/-- Up to the last message whose last fragment gets through, every message is clean. -/
def Whole (lens : List Nat) (lost : Nat → Nat → Bool) : Prop :=
  ∀ number, ∀ len ∈ lens[number]?, lost number (fragCount len - 1) = false →
    ∀ earlier ≤ number, ∀ size ∈ lens[earlier]?, Clean (lost earlier) size

variable {Item : Type} {lost : Nat → Bool} {items : List Item}

theorem survivors_sublist : (survivors lost items).Sublist items := by
  induction items generalizing lost with
  | nil => exact .slnil
  | cons item rest ih =>
      cases here : lost 0 with
      | true => simpa [survivors, here] using ih.cons item
      | false => simpa [survivors, here] using ih

theorem survivors_kept (kept : ∀ index < items.length, lost index = false) :
    survivors lost items = items := by
  induction items generalizing lost with
  | nil => rfl
  | cons item rest ih =>
      have here := kept 0 (by simp)
      have later := @ih (fun index => lost (index + 1)) fun index inside =>
        kept (index + 1) (by simpa using inside)
      simp [survivors, here, later]

theorem survivors_gone (gone : ∀ index < items.length, lost index = true) :
    survivors lost items = [] := by
  induction items generalizing lost with
  | nil => rfl
  | cons item rest ih =>
      have here := gone 0 (by simp)
      have later := @ih (fun index => lost (index + 1)) fun index inside =>
        gone (index + 1) (by simpa using inside)
      simp [survivors, here, later]

theorem mem_survivors {item : Item} :
    item ∈ survivors lost items ↔ ∃ index, items[index]? = some item ∧ lost index = false := by
  induction items generalizing lost with
  | nil => simp [survivors]
  | cons head rest ih =>
      simp only [survivors, List.mem_append, ih]
      constructor
      · rintro (here | ⟨index, found, kept⟩)
        · cases gone : lost 0 with
          | true => simp [gone] at here
          | false =>
              have is : item = head := by simpa [gone] using here
              exact ⟨0, by simp [is], gone⟩
        · exact ⟨index + 1, by simpa using found, kept⟩
      · rintro ⟨index, found, kept⟩
        cases index with
        | zero =>
            have is : head = item := by simpa using found
            exact Or.inl (by simp [kept, is])
        | succ index => exact Or.inr ⟨index, by simpa using found, kept⟩

/-- Only the last piece of a message is marked. -/
theorem pieces_last {bytes : List UInt8} {index : Nat} {piece : Piece}
    (found : (pieces bytes)[index]? = some piece) :
    piece.last = true ↔ index = fragCount bytes.length - 1 := by
  obtain ⟨init, final, shape, more, last⟩ := pieces_shape bytes
  have count : init.length + 1 = fragCount bytes.length := by
    rw [← pieces_length, shape]
    simp
  rw [shape] at found
  have bound : index < (init ++ [final]).length := (List.getElem?_eq_some_iff.mp found).1
  by_cases inside : index < init.length
  · rw [List.getElem?_append_left inside] at found
    have unmarked := more piece (List.mem_of_getElem? found)
    rw [unmarked]
    constructor
    · intro marked
      cases marked
    · omega
  · have final_index : index = init.length := by
      simp only [List.length_append, List.length_singleton] at bound
      omega
    have is : final = piece := by simpa [final_index] using found
    rw [← is, last]
    simp only [true_iff]
    omega

theorem message_completes {bytes : List UInt8} :
    (∃ piece ∈ survivors lost (pieces bytes), piece.last = true) ↔
      lost (fragCount bytes.length - 1) = false := by
  constructor
  · rintro ⟨piece, member, marked⟩
    obtain ⟨index, found, kept⟩ := mem_survivors.mp member
    rw [← (pieces_last found).mp marked]
    exact kept
  · intro kept
    have inside : fragCount bytes.length - 1 < (pieces bytes).length := by
      rw [pieces_length]
      simp [fragCount]
    have found := List.getElem?_eq_getElem inside
    exact ⟨_, mem_survivors.mpr ⟨_, found, kept⟩, (pieces_last found).mpr rfl⟩

-- Both conditions are read off message by message, along the induction on the messages.
theorem completes_cons {len : Nat} {rest : List Nat} {lost : Nat → Nat → Bool} :
    Completes (len :: rest) lost ↔ lost 0 (fragCount len - 1) = false ∨
      Completes rest fun number => lost (number + 1) := by
  constructor
  · rintro ⟨number, size, found, kept⟩
    cases number with
    | zero =>
        have is : len = size := by simpa using found
        exact Or.inl (is ▸ kept)
    | succ number => exact Or.inr ⟨number, size, by simpa using found, kept⟩
  · rintro (kept | ⟨number, size, found, kept⟩)
    · exact ⟨0, len, by simp, kept⟩
    · exact ⟨number + 1, size, by simpa using found, kept⟩

theorem whole_cons {len : Nat} {rest : List Nat} {lost : Nat → Nat → Bool} :
    Whole (len :: rest) lost ↔ (Completes (len :: rest) lost → Clean (lost 0) len) ∧
      Whole rest fun number => lost (number + 1) := by
  constructor
  · intro whole
    constructor
    · rintro ⟨number, size, found, kept⟩
      exact whole number size found kept 0 (Nat.zero_le _) len (by simp)
    · intro number size found kept earlier before other there
      exact whole (number + 1) size (by simpa using found) kept (earlier + 1) (by omega) other
        (by simpa using there)
  · rintro ⟨head, tail⟩ number size found kept earlier before other there
    cases earlier with
    | zero =>
        have is : len = other := by simpa using there
        exact is ▸ head ⟨number, size, found, kept⟩
    | succ earlier =>
        cases number with
        | zero => omega
        | succ number =>
            exact tail number size (by simpa using found) kept earlier (by omega) other
              (by simpa using there)

theorem stream_completes {messages : List (List UInt8)} {lost : Nat → Nat → Bool} :
    (∃ piece ∈ stream lost messages, piece.last = true) ↔
      Completes (messages.map List.length) lost := by
  induction messages generalizing lost with
  | nil => simp [stream, Completes]
  | cons bytes rest ih =>
      rw [List.map_cons, completes_cons, ← message_completes, ← ih]
      simp only [stream, List.mem_append, or_and_right, exists_or]

/-- The message as its reader sees it: `payload_len` bytes of the payload. -/
def shown (segment : List Piece) : List UInt8 := (message segment).buf.bytes

/-- The messages the host queues. -/
def queued (lost : Nat → Nat → Bool) (messages : List (List UInt8)) : List (List UInt8) :=
  (segments Piece.last [] (stream lost messages)).map shown

theorem shown_eq (segment : List Piece) :
    shown segment = (joined segment).take ((joined segment).length % 65536) := by
  simp [shown, message, IfaceBuf.bytes]

theorem shown_pieces {bytes : List UInt8} (fits : bytes.length ≤ 65535) :
    shown (pieces bytes) = bytes := by
  have whole : joined (pieces bytes) = bytes := pieces_flatten bytes
  rw [shown_eq, whole, Nat.mod_eq_of_lt (by omega), List.take_length]

theorem queued_incomplete {lost : Nat → Nat → Bool} {messages : List (List UInt8)}
    (never : ¬ Completes (messages.map List.length) lost) : queued lost messages = [] := by
  have unmarked : ∀ piece ∈ stream lost messages, piece.last = false := by
    intro piece member
    by_contra marked
    exact never (stream_completes.mp ⟨piece, member, by simpa using marked⟩)
  rw [queued, (segments_open unmarked).1]
  rfl

theorem queued_kept {lost : Nat → Nat → Bool} {bytes : List UInt8} {rest : List (List UInt8)}
    (kept : ∀ index < fragCount bytes.length, lost 0 index = false) :
    queued lost (bytes :: rest) =
      shown (pieces bytes) :: queued (fun number => lost (number + 1)) rest := by
  obtain ⟨init, final, shape, more, last⟩ := pieces_shape bytes
  obtain ⟨whole, clear⟩ := @segments_whole Piece Piece.last [] init final more last
  rw [← shape] at whole clear
  rw [queued, stream, survivors_kept (by rwa [pieces_length]), segments_append, whole, clear, shape]
  rfl

theorem queued_gone {lost : Nat → Nat → Bool} {bytes : List UInt8} {rest : List (List UInt8)}
    (gone : ∀ index < fragCount bytes.length, lost 0 index = true) :
    queued lost (bytes :: rest) = queued (fun number => lost (number + 1)) rest := by
  rw [queued, stream, survivors_gone (by rwa [pieces_length])]
  rfl

/-- Clean losses splice nothing. -/
theorem whole_sublist {lost : Nat → Nat → Bool} {messages : List (List UInt8)}
    (whole : Whole (messages.map List.length) lost) : (queued lost messages).Sublist messages := by
  induction messages generalizing lost with
  | nil => exact .slnil
  | cons bytes rest ih =>
      rw [List.map_cons, whole_cons] at whole
      obtain ⟨head, tail⟩ := whole
      -- what is never completed is never queued, however it was cut up
      by_cases completes : Completes ((bytes :: rest).map List.length) lost
      · rcases head completes with ⟨kept, fits⟩ | gone
        · rw [queued_kept kept, shown_pieces fits]
          exact (ih tail).cons_cons bytes
        · rw [queued_gone gone]
          exact (ih tail).cons bytes
      · rw [queued_incomplete completes]
        exact List.nil_sublist _

theorem joined_sublist {some_pieces all : List Piece} (part : some_pieces.Sublist all) :
    (joined some_pieces).Sublist (joined all) :=
  (part.map Piece.bytes).flatten

/-- A loss shows in the number of bytes. -/
theorem survivors_shorter {lost : Nat → Bool} {items : List Piece}
    (some_bytes : ∀ piece ∈ items, piece.bytes ≠ [])
    (same : (joined items).length ≤ (joined (survivors lost items)).length) :
    ∀ index < items.length, lost index = false := by
  induction items generalizing lost with
  | nil => simp
  | cons piece rest ih =>
      obtain ⟨here, later⟩ := List.forall_mem_cons.mp some_bytes
      have positive : 0 < piece.bytes.length := List.length_pos_iff.mpr here
      have fewer := (joined_sublist (@survivors_sublist Piece (fun index => lost (index + 1)) rest)).length_le
      -- a piece has at least one byte, so a lost one leaves too few
      cases dropped : lost 0 with
      | true =>
          simp only [survivors, dropped, joined, if_true, List.nil_append, List.map_cons,
            List.flatten_cons, List.length_append] at same fewer
          omega
      | false =>
          have rest_same : (joined rest).length ≤
              (joined (survivors (fun index => lost (index + 1)) rest)).length := by
            simpa [survivors, dropped, joined] using same
          intro index inside
          cases index with
          | zero => exact dropped
          | succ index => exact ih later rest_same index (by simpa using inside)

theorem mem_joined_stream {lost : Nat → Nat → Bool} {messages : List (List UInt8)} {byte : UInt8}
    (member : byte ∈ joined (stream lost messages)) : ∃ bytes ∈ messages, byte ∈ bytes := by
  induction messages generalizing lost with
  | nil => simp [stream, joined] at member
  | cons bytes rest ih =>
      simp only [stream, joined, List.map_append, List.flatten_append, List.mem_append] at member
      rcases member with here | later
      · have inside := (joined_sublist (@survivors_sublist Piece (lost 0) (pieces bytes))).subset here
        rw [joined, pieces_flatten] at inside
        exact ⟨bytes, by simp, inside⟩
      · obtain ⟨other, there, inside⟩ := ih later
        exact ⟨other, by simp [there], inside⟩

/-! Contents that show a splice: the first message is all ones, the others all zeros. -/

def zeros (lens : List Nat) : List (List UInt8) := lens.map fun len => List.replicate len 0

theorem zeros_lengths (lens : List Nat) : (zeros lens).map List.length = lens := by
  simp [zeros, Function.comp_def]

/-- The first segment is cut from the ones that survive and zeros behind them. -/
theorem first_shown {lost : Nat → Nat → Bool} {len : Nat} {lens : List Nat}
    {first : List UInt8} {others : List (List UInt8)}
    (cut : queued lost (List.replicate len 1 :: zeros lens) = first :: others) :
    ∃ behind, first <+: List.replicate
      (joined (survivors (lost 0) (pieces (List.replicate len 1)))).length 1 ++
        List.replicate behind 0 ∧ first.length < 65536 := by
  obtain ⟨segment, more, found, is, -⟩ := List.map_eq_cons_iff.mp cut
  have initial := (segments_head found).1
  rw [List.nil_append, stream] at initial
  have ones : joined (survivors (lost 0) (pieces (List.replicate len 1))) = List.replicate
      (joined (survivors (lost 0) (pieces (List.replicate len 1)))).length 1 := by
    refine List.eq_replicate_iff.mpr ⟨rfl, fun byte member => ?_⟩
    have inside := (joined_sublist survivors_sublist).subset member
    rw [joined, pieces_flatten] at inside
    exact List.eq_of_mem_replicate inside
  have behind : joined (stream (fun number => lost (number + 1)) (zeros lens)) = List.replicate
      (joined (stream (fun number => lost (number + 1)) (zeros lens))).length 0 := by
    refine List.eq_replicate_iff.mpr ⟨rfl, fun byte member => ?_⟩
    obtain ⟨bytes, there, inside⟩ := mem_joined_stream member
    obtain ⟨size, -, rfl⟩ := List.mem_map.mp there
    exact List.eq_of_mem_replicate inside
  obtain ⟨after, whole⟩ := initial
  refine ⟨(joined (stream (fun number => lost (number + 1)) (zeros lens))).length, ?_, ?_⟩
  · rw [← ones, ← behind, ← is, shown_eq]
    refine ( List.take_prefix _ _).trans ⟨joined after, ?_⟩
    simp only [joined, ← List.flatten_append, ← List.map_append, whole]
  · rw [← is, shown_eq, List.length_take]
    have small := Nat.mod_lt (joined segment).length (show 0 < 65536 by decide)
    omega

theorem ones_fit {size ones zeros : Nat}
    (initial : List.replicate size (1 : UInt8) <+: List.replicate ones 1 ++ List.replicate zeros 0) :
    size ≤ ones := by
  have counted := initial.sublist.count_le (1 : UInt8)
  simpa [List.count_replicate] using counted

theorem zeros_misfit {size ones zeros : Nat} (size_pos : 0 < size) (ones_pos : 0 < ones)
    (initial : List.replicate size (0 : UInt8) <+: List.replicate ones 1 ++ List.replicate zeros 0) :
    False := by
  obtain ⟨size, rfl⟩ := Nat.exists_eq_succ_of_ne_zero (Nat.pos_iff_ne_zero.mp size_pos)
  obtain ⟨ones, rfl⟩ := Nat.exists_eq_succ_of_ne_zero (Nat.pos_iff_ne_zero.mp ones_pos)
  simp [List.replicate_succ] at initial

theorem queued_completes {lost : Nat → Nat → Bool} {messages : List (List UInt8)}
    (completes : Completes (messages.map List.length) lost) : queued lost messages ≠ [] := by
  obtain ⟨piece, member, marked⟩ := stream_completes.mpr completes
  simpa [queued] using segments_ne_nil member marked

/-- Something of a message that is not lost altogether arrives. -/
theorem survivors_bytes {lost : Nat → Bool} {items : List Piece}
    (some_bytes : ∀ piece ∈ items, piece.bytes ≠ [])
    (kept : ¬ ∀ index < items.length, lost index = true) : 0 < (joined (survivors lost items)).length := by
  refine List.length_pos_iff.mpr fun empty => kept fun index inside => ?_
  by_contra arrives
  have member : items[index] ∈ survivors lost items :=
    mem_survivors.mpr ⟨index, List.getElem?_eq_getElem inside, by simpa using arrives⟩
  exact some_bytes _ (List.getElem_mem inside)
    (List.flatten_eq_nil_iff.mp empty _ (List.mem_map_of_mem member))

/-- A first message that is not clean spoils the first message that is queued. -/
theorem spoilt_head {lost : Nat → Nat → Bool} {len : Nat} {lens : List Nat} (len_pos : 0 < len)
    (lens_pos : ∀ size ∈ lens, 0 < size) (completes : Completes (len :: lens) lost)
    (safe : (queued lost (List.replicate len 1 :: zeros lens)).Sublist
      (List.replicate len 1 :: zeros lens)) : Clean (lost 0) len := by
  by_contra unclean
  have count : (pieces (List.replicate len 1)).length = fragCount len := by
    rw [pieces_length, List.length_replicate]
  have some_bytes := pieces_nonempty (List.replicate len 1) (by simp; omega)
  have arrives := @survivors_bytes (lost 0) _ some_bytes fun gone => unclean (Or.inr (count ▸ gone))
  have lengths : (List.replicate len 1 :: zeros lens).map List.length = len :: lens := by
    simp [zeros_lengths]
  obtain ⟨first, others, cut⟩ := List.exists_cons_of_ne_nil (queued_completes (lengths ▸ completes))
  obtain ⟨behind, initial, small⟩ := first_shown cut
  have sent : first ∈ List.replicate len 1 :: zeros lens := safe.subset (by simp [cut])
  rcases List.mem_cons.mp sent with own | other
  · -- the queued message would be the first one, so all of it has arrived
    rw [own, List.length_replicate] at small
    rw [own] at initial
    have kept := survivors_shorter some_bytes (by
      rw [joined, pieces_flatten, List.length_replicate]
      exact ones_fit initial)
    exact unclean (Or.inl ⟨count ▸ kept, by omega⟩)
  · obtain ⟨size, member, rfl⟩ := List.mem_map.mp other
    exact zeros_misfit (lens_pos size member) arrives initial

/-- A message that is lost altogether does not account for anything in the queue. -/
theorem sublist_drop_first {len : Nat} (len_pos : 0 < len) {got sent : List (List UInt8)}
    (safe : ∀ first : List UInt8, first.length = len → got.Sublist (first :: sent)) :
    got.Sublist sent := by
  cases got with
  | nil => exact List.nil_sublist sent
  | cons head tail =>
      have differ : List.replicate len (0 : UInt8) ≠ List.replicate len 1 := by
        intro same
        have bytes := List.replicate_inj.mp same
        simp [Nat.ne_of_gt len_pos] at bytes
      -- a queued message cannot equal both contents the lost one may have had
      by_cases zero : head = List.replicate len 0
      · rcases safe (List.replicate len 1) List.length_replicate with _ | later
        · assumption
        · exact absurd zero.symm differ
      · rcases safe (List.replicate len 0) List.length_replicate with _ | later
        · assumption
        · exact absurd rfl zero

/-- Where no contents are spliced, the losses are clean. -/
theorem sublist_whole {lost : Nat → Nat → Bool} {lens : List Nat} (positive : ∀ len ∈ lens, 0 < len)
    (safe : ∀ messages : List (List UInt8), messages.map List.length = lens →
      (queued lost messages).Sublist messages) : Whole lens lost := by
  induction lens generalizing lost with
  | nil =>
      intro number len found
      simp at found
  | cons len rest ih =>
      obtain ⟨here, later⟩ := List.forall_mem_cons.mp positive
      have head : Completes (len :: rest) lost → Clean (lost 0) len := fun completes =>
        spoilt_head here later completes (safe _ (by simp [zeros_lengths]))
      refine whole_cons.mpr ⟨head, ih later fun messages lengths => ?_⟩
      by_cases completes : Completes (len :: rest) lost
      -- a clean first message either accounts for its own bytes or for none
      · rcases head completes with ⟨kept, fits⟩ | gone
        · have both := safe (List.replicate len 0 :: messages) (by simp [lengths])
          rw [queued_kept (by simpa using kept), shown_pieces (by simpa using fits)] at both
          exact List.cons_sublist_cons.mp both
        · refine sublist_drop_first here fun first length => ?_
          rw [← queued_gone (by rwa [length])]
          exact safe (first :: messages) (by simp [lengths, length])
      · have never : ¬ Completes (messages.map List.length) fun number => lost (number + 1) := by
          rw [lengths]
          exact fun tail => completes (completes_cons.mpr (Or.inr tail))
        rw [queued_incomplete never]
        exact List.nil_sublist messages

/-- What the host queues is what was computed from the pieces. -/
theorem receive_queued {throttle : IfaceBuf → UInt8} {lost : Nat → Nat → Bool} {seqNum : UInt16}
    {envs : Nat → Env} {host : Host} {queue : List Queued} {messages : List (List UInt8)}
    (some_bytes : ∀ bytes ∈ messages, bytes ≠ []) (succeeds : ∀ call, (envs call).Succeeds)
    (opened : Opened host queue) (clean : host.r = { len := 0, data := .null }) :
    ∃ after put, receive envs host (transmit throttle lost seqNum messages) = some after ∧
      Opened after (queue ++ put) ∧ put.map (fun item => item.buf.bytes) = queued lost messages := by
  obtain ⟨same, sound⟩ := transmit_pieces throttle lost seqNum messages some_bytes
  have holds : Holds host.r [] := by simp [clean, Holds, joined]
  obtain ⟨after, ran, put, -⟩ := receive_segments succeeds sound opened holds
  rw [same] at put
  exact ⟨after, _, ran, put, by simp [queued, shown, Function.comp_def]⟩

/-- Whatever the messages contain, the host queues a subsequence of them, exactly for the
losses that leave every message clean up to the last one that is completed. -/
theorem reassembly_under_loss_iff {throttle : IfaceBuf → UInt8} {lost : Nat → Nat → Bool}
    {seqNum : UInt16} {envs : Nat → Env} {host : Host} {queue : List Queued} {lens : List Nat}
    (positive : ∀ len ∈ lens, 0 < len) (succeeds : ∀ call, (envs call).Succeeds)
    (opened : Opened host queue) (clean : host.r = { len := 0, data := .null }) :
    (∀ messages : List (List UInt8), messages.map List.length = lens →
      ∃ after put, receive envs host (transmit throttle lost seqNum messages) = some after ∧
        Opened after (queue ++ put) ∧
        (put.map fun item => item.buf.bytes).Sublist messages) ↔ Whole lens lost := by
  have some_bytes : ∀ messages : List (List UInt8), messages.map List.length = lens →
      ∀ bytes ∈ messages, bytes ≠ [] := by
    rintro messages rfl bytes member rfl
    exact absurd (positive 0 (List.mem_map.mpr ⟨[], member, rfl⟩)) (by decide)
  constructor
  · intro safe
    refine sublist_whole positive fun messages lengths => ?_
    obtain ⟨after, put, ran, opened_after, part⟩ := safe messages lengths
    obtain ⟨other, computed, also_ran, also_opened, same⟩ :=
      @receive_queued throttle lost seqNum envs host queue messages (some_bytes messages lengths)
        succeeds opened clean
    have is : after = other := Option.some.inj (ran.symm.trans also_ran)
    rw [← is, Opened, opened_after] at also_opened
    simp only [Option.some.injEq, SerialLlHandle.mk.injEq, true_and,
      List.append_cancel_left_eq] at also_opened
    rw [← same, ← also_opened]
    exact part
  · intro whole messages lengths
    obtain ⟨after, put, ran, opened_after, same⟩ :=
      @receive_queued throttle lost seqNum envs host queue messages (some_bytes messages lengths)
        succeeds opened clean
    exact ⟨after, put, ran, opened_after, same ▸ whole_sublist (lengths ▸ whole)⟩

/-- The second of three messages is lost altogether, the others get through. -/
def secondLost (number _index : Nat) : Bool := number == 1

theorem reassembly_under_loss_three : ∃ after put,
    receive (fun _ => plenty) openHost
        (transmit (fun _ => 0) secondLost 7 [[1], twoFull, [2]]) = some after ∧
      Opened after put ∧ (put.map fun item => item.buf.bytes).Sublist [[1], twoFull, [2]] := by
  have whole : Whole [1, 3000, 1] secondLost := by
    refine whole_cons.mpr ⟨fun _ => Or.inl ⟨by simp [secondLost], by decide⟩, ?_⟩
    refine whole_cons.mpr ⟨fun _ => Or.inr (by simp [secondLost]), ?_⟩
    refine whole_cons.mpr ⟨fun _ => Or.inl ⟨by simp [secondLost], by decide⟩, ?_⟩
    intro number len found
    simp at found
  have length : twoFull.length = 3000 := List.length_replicate
  exact (@reassembly_under_loss_iff (fun _ => 0) secondLost 7 (fun _ => plenty) openHost []
    [1, 3000, 1] (by decide) (fun _ => ⟨rfl, rfl, rfl⟩) rfl rfl).mpr whole _ (by simp [length])

def full : List UInt8 := List.replicate ethDataLen 1

theorem full_length : full.length = ethDataLen := List.length_replicate

/-- A message with one byte more than a fragment. -/
def oneMore : List UInt8 := full ++ [3]

theorem pieces_oneMore : pieces oneMore =
    [{ last := false, bytes := full }, { last := true, bytes := [3] }] := by
  have length : oneMore.length = ethDataLen + 1 := by simp [oneMore, full_length]
  have head : oneMore.take ethDataLen = full := List.take_left' full_length
  have tail : oneMore.drop ethDataLen = [3] := List.drop_left' full_length
  rw [pieces_long (by omega), head, tail, pieces_short (by decide)]

/-- Without its last fragment a message runs into the next one; without its first, the
rest of it is queued. -/
theorem reassembly_splices :
    (∃ after put, receive (fun _ => plenty) openHost (transmit (fun _ => 0)
        (fun number index => number == 0 && index == 1) 7 [oneMore, [2]]) = some after ∧
      Opened after put ∧ (put.map fun item => item.buf.bytes) = [full ++ [2]] ∧
      ¬ (put.map fun item => item.buf.bytes).Sublist [oneMore, [2]]) ∧
    ∃ after put, receive (fun _ => plenty) openHost (transmit (fun _ => 0)
        (fun _ index => index == 0) 7 [oneMore]) = some after ∧
      Opened after put ∧ (put.map fun item => item.buf.bytes) = [[3]] ∧
      ¬ (put.map fun item => item.buf.bytes).Sublist [oneMore] := by
  have short : pieces [2] = [{ last := true, bytes := [2] }] := pieces_short (by decide)
  have differ : full ≠ [] := List.ne_nil_of_length_pos (by rw [full_length]; decide)
  constructor
  · have some_bytes : ∀ bytes ∈ [oneMore, [2]], bytes ≠ [] := by simp [oneMore]
    obtain ⟨after, put, ran, opened, same⟩ := @receive_queued (fun _ => 0)
      (fun number index => number == 0 && index == 1) 7 (fun _ => plenty) openHost [] _ some_bytes
      (fun _ => ⟨rfl, rfl, rfl⟩) rfl rfl
    have mixed : joined [{ last := false, bytes := full }, { last := true, bytes := [2] }] =
        full ++ [2] := by simp [joined]
    have read : shown [{ last := false, bytes := full }, { last := true, bytes := [2] }] =
        full ++ [2] := by
      have length : (full ++ [2]).length = 1501 := by simp [full_length, ethDataLen]
      rw [shown_eq, mixed, Nat.mod_eq_of_lt (by omega), List.take_length]
    have splice : queued (fun number index => number == 0 && index == 1) [oneMore, [2]] =
        [full ++ [2]] := by
      simp [queued, stream, survivors, pieces_oneMore, short, segments, read]
    rw [splice] at same
    refine ⟨after, put, ran, opened, same, ?_⟩
    rw [same]
    simp [oneMore, differ]
  · have some_bytes : ∀ bytes ∈ [oneMore], bytes ≠ [] := by simp [oneMore]
    obtain ⟨after, put, ran, opened, same⟩ := @receive_queued (fun _ => 0)
      (fun _ index => index == 0) 7 (fun _ => plenty) openHost [] _ some_bytes
      (fun _ => ⟨rfl, rfl, rfl⟩) rfl rfl
    have cut : queued (fun _ index => index == 0) [oneMore] = [[3]] := by
      simp [queued, stream, survivors, pieces_oneMore, segments, shown_eq, joined]
    rw [cut] at same
    refine ⟨after, put, ran, opened, same, ?_⟩
    rw [same]
    simp [oneMore, differ]

end EspHosted.SerialLoss

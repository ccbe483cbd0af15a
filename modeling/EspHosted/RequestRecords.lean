import EspHosted.SerialTlv

/-!
The loop of `rpc_req_handler` on bytes that nobody has composed. It takes the lengths in its
input on trust, and a length that reaches over the end makes the count of the bytes left wrap, so
that the loop goes on behind the input. `Complete` says which inputs keep it inside.
-/

namespace EspHosted.RequestRecords
open SpiFrames SerialTlv Slave

/-- The handler returns on a record with this type and length. -/
def Refuses (type : UInt8) (len : UInt16) : Prop :=
  type = protoPserTlvTEpname ∧ epnameMax - 1 ≤ len.toNat ∨
    type ≠ protoPserTlvTEpname ∧ type ≠ protoPserTlvTData

instance (type : UInt8) (len : UInt16) : Decidable (Refuses type len) :=
  inferInstanceAs (Decidable (_ ∨ _))

/-- Records with all of their bytes, up to the end or to a record that is refused. -/
inductive Complete : List UInt8 → Prop where
  | nothing : Complete []
  | refused (type low high : UInt8) (rest : List UInt8) (refuses : Refuses type (le16 low high)) :
      Complete (type :: low :: high :: rest)
  | record (type low high : UInt8) (value rest : List UInt8)
      (whole : value.length = (le16 low high).toNat) (takes : ¬ Refuses type (le16 low high))
      (tail : Complete rest) : Complete (type :: low :: high :: (value ++ rest))

/-- The loop of `rpc_req_handler` after some rounds: what it is at, and what it has found. -/
inductive Iterates (input : List UInt8) : Nat → List UInt8 → UInt32 → Parsed → Prop where
  | start : Iterates input 0 input (UInt32.ofNat input.length) fresh
  | next {rounds : Nat} {buf : List UInt8} {totalLen : UInt32} {parsed next : Parsed}
      {record : Record} (prior : Iterates input rounds buf totalLen parsed)
      (parses : parseTlv buf totalLen = .record record)
      (takes : takeRecord record parsed = .taken next) :
      Iterates input (rounds + 1) record.buf record.totalLen next

/-- What the handler owes for an input. -/
structure Contained (input : List UInt8) : Prop where
  /-- No byte outside of it is read, also not by `protocomm_req_handle`. -/
  inside : rpcReqHandler input ≠ .overread
  range : ∀ epname data, rpcReqHandler input = .request epname data → data <:+: input
  /-- The loop ends, as each round takes three bytes at least. -/
  ends : ∀ rounds buf totalLen parsed, Iterates input rounds buf totalLen parsed →
    3 * rounds + buf.length ≤ input.length
  /-- The name is written over in its sixteen bytes, the last two of which stay zero. -/
  name : ∀ rounds buf totalLen parsed, Iterates input rounds buf totalLen parsed →
    parsed.epname.length = epnameMax ∧ parsed.epname.drop 14 = [0, 0]

section Rounds
variable {input buf : List UInt8} {totalLen : UInt32} {parsed next : Parsed} {record : Record}
variable {rounds : Nat}

/-- The record that begins with these three bytes. -/
def recordAt (type low high : UInt8) (rest : List UInt8) (totalLen : UInt32) : Record where
  type := type
  len := le16 low high
  ptr := rest
  buf := rest.drop (le16 low high).toNat
  totalLen := totalLen - ((le16 low high).toUInt32 + UInt32.ofNat (sizeOfType + sizeOfLength))

theorem parseTlv_cases (parses : parseTlv buf totalLen = .record record) :
    ∃ type low high rest, buf = type :: low :: high :: rest ∧
      record = recordAt type low high rest totalLen := by
  unfold parseTlv at parses
  split at parses
  · cases parses
  · rcases buf with _ | ⟨type, _ | ⟨low, _ | ⟨high, rest⟩⟩⟩
    · cases parses
    · cases parses
    · cases parses
    · cases parses
      exact ⟨type, low, high, rest, rfl, rfl⟩

theorem parseTlv_cons (type low high : UInt8) (rest : List UInt8) (some_left : totalLen ≠ 0) :
    parseTlv (type :: low :: high :: rest) totalLen =
      .record (recordAt type low high rest totalLen) := if_neg some_left

/-- What a record does to the locals. -/
theorem takeRecord_cases (takes : takeRecord record parsed = .taken next) :
    (record.len.toNat < 15 ∧ record.len.toNat ≤ record.ptr.length ∧
      next = { parsed with
        epname := record.ptr.take record.len.toNat ++ parsed.epname.drop record.len.toNat }) ∨
    next = { parsed with data := some record.ptr, dataLen := record.len } := by
  unfold takeRecord at takes
  split_ifs at takes with name long short data
  · cases takes
    exact Or.inl ⟨Nat.lt_of_not_le long, Nat.le_of_not_lt short, rfl⟩
  · cases takes
    exact Or.inr rfl

theorem iterates_ends (here : Iterates input rounds buf totalLen parsed) :
    3 * rounds + buf.length ≤ input.length := by
  induction here with
  | start => exact Nat.le_of_eq (Nat.zero_add _)
  | next prior parses takes ih =>
      obtain ⟨type, low, high, rest, rfl, rfl⟩ := parseTlv_cases parses
      simp only [recordAt, List.length_drop]
      simp only [List.length_cons] at ih
      omega

theorem iterates_name (here : Iterates input rounds buf totalLen parsed) :
    parsed.epname.length = epnameMax ∧ parsed.epname.drop 14 = [0, 0] := by
  induction here with
  | start => exact ⟨rfl, rfl⟩
  | next prior parses takes ih =>
      rcases takeRecord_cases takes with ⟨small, short, rfl⟩ | rfl
      · obtain ⟨length, zeros⟩ := ih
        have copied := List.length_take_of_le short
        have size : epnameMax = 16 := rfl
        refine ⟨?_, ?_⟩
        · rw [List.length_append, copied, List.length_drop, length]
          omega
        · rw [List.drop_append, List.drop_of_length_le (by omega), copied, List.drop_drop,
            List.nil_append, Nat.add_sub_cancel' (by omega), zeros]
      · exact ih

/-- The data lie at the end of the input, wherever the loop is. -/
theorem iterates_data (here : Iterates input rounds buf totalLen parsed) :
    buf <:+ input ∧ ∀ data, parsed.data = some data → data <:+ input := by
  induction here with
  | start => exact ⟨List.suffix_refl _, nofun⟩
  | next prior parses takes ih =>
      obtain ⟨behind, kept⟩ := ih
      obtain ⟨type, low, high, rest, rfl, rfl⟩ := parseTlv_cases parses
      have rest_behind : rest <:+ input :=
        ((List.suffix_cons _ _).trans ((List.suffix_cons _ _).trans (List.suffix_cons _ _))).trans
          behind
      refine ⟨(List.drop_suffix _ _).trans rest_behind, ?_⟩
      intro data found
      rcases takeRecord_cases takes with ⟨_, _, rfl⟩ | rfl
      · exact kept data found
      · cases found
        exact rest_behind

theorem parseLoop_ends (here : Iterates input rounds buf totalLen parsed) {left : UInt32}
    {last : Parsed} (ended : parseLoop buf totalLen parsed = .ended last left) :
    ∃ rounds buf, Iterates input rounds buf left last := by
  fun_induction parseLoop buf totalLen parsed generalizing rounds with
  | case1 => cases ended
  | case2 => 
      cases ended
      exact ⟨_, _, here⟩
  | case3 => cases ended
  | case4 => cases ended
  | case5 buf totalLen parsed record parses next takes ih => exact ih (here.next parses takes) ended

end Rounds

section Bounds
variable {buf rest : List UInt8} {type low high : UInt8} {parsed : Parsed}

/-- The count of the bytes left is what is behind a record that ends inside. -/
theorem left_inside {len : UInt16} (inside : len.toNat ≤ rest.length)
    (fits : rest.length + 3 < 4294967296) :
    UInt32.ofNat (rest.length + 3) - (len.toUInt32 + UInt32.ofNat (sizeOfType + sizeOfLength)) =
      UInt32.ofNat (rest.length - len.toNat) := by
  have three : (UInt32.ofNat (sizeOfType + sizeOfLength)).toNat = 3 := rfl
  apply UInt32.toNat_inj.mp
  rw [UInt32.toNat_sub, UInt32.toNat_add, UInt16.toNat_toUInt32, three,
    UInt32.toNat_ofNat_of_lt' fits, UInt32.toNat_ofNat_of_lt' (by change _ < 4294967296; omega)]
  omega

/-- Behind one that reaches over the end it has wrapped. -/
theorem left_outside {len : UInt16} (outside : rest.length < len.toNat) :
    UInt32.ofNat (rest.length + 3) - (len.toUInt32 + UInt32.ofNat (sizeOfType + sizeOfLength)) ≠
      0 := by
  have small := len.toNat_lt
  have three : (UInt32.ofNat (sizeOfType + sizeOfLength)).toNat = 3 := rfl
  have fits : rest.length + 3 < 4294967296 := by omega
  intro zero
  have natural := congrArg UInt32.toNat zero
  rw [UInt32.toNat_sub, UInt32.toNat_add, UInt16.toNat_toUInt32, three,
    UInt32.toNat_ofNat_of_lt' fits, UInt32.toNat_zero] at natural
  omega

theorem some_left (fits : rest.length + 3 < 4294967296) :
    UInt32.ofNat (rest.length + 3) ≠ 0 := by
  intro zero
  have natural := congrArg UInt32.toNat zero
  rw [UInt32.toNat_ofNat_of_lt' fits, UInt32.toNat_zero] at natural
  omega

/-- The data that were found have all of their bytes. -/
def Whole (parsed : Parsed) : Prop :=
  ∀ data, parsed.data = some data → parsed.dataLen.toNat ≤ data.length

theorem takeRecord_refused {record : Record} (refused : takeRecord record parsed = .refused) :
    Refuses record.type record.len := by
  unfold takeRecord at refused
  split_ifs at refused with name long short data
  · exact Or.inl ⟨name, long⟩
  · exact Or.inr ⟨name, data⟩

theorem takeRecord_refuses {record : Record} (refuses : Refuses record.type record.len) :
    takeRecord record parsed = .refused := by
  unfold takeRecord
  rcases refuses with ⟨name, long⟩ | ⟨no_name, no_data⟩
  · rw [if_pos name, if_pos long]
  · rw [if_neg no_name, if_neg no_data]

/-- A record with all of its bytes is taken. -/
theorem takeRecord_whole {record : Record} (takes : ¬ Refuses record.type record.len)
    (inside : record.len.toNat ≤ record.ptr.length) (whole : Whole parsed) :
    ∃ next, takeRecord record parsed = .taken next ∧ Whole next := by
  unfold takeRecord
  split_ifs with name long short data
  · exact absurd (Or.inl ⟨name, long⟩) takes
  · exact absurd short (Nat.not_lt_of_le inside)
  · exact ⟨_, rfl, whole⟩
  · refine ⟨_, rfl, ?_⟩
    intro data found
    cases found
    exact inside
  · exact absurd (Or.inr ⟨name, data⟩) takes

theorem parseLoop_refused {totalLen : UInt32} {record : Record}
    (parses : parseTlv buf totalLen = .record record)
    (refused : takeRecord record parsed = .refused) : parseLoop buf totalLen parsed = .refused := by
  rw [parseLoop_onward parses, refused, onward]

/-- On complete records the loop stays inside, and with it the data it has found. -/
theorem parseLoop_complete (complete : Complete buf) (fits : buf.length < 4294967296)
    (whole : Whole parsed) :
    parseLoop buf (UInt32.ofNat buf.length) parsed = .refused ∨
      ∃ last, parseLoop buf (UInt32.ofNat buf.length) parsed = .ended last 0 ∧ Whole last := by
  induction complete generalizing parsed with
  | nothing => exact Or.inr ⟨parsed, parseLoop_ended parsed, whole⟩
  | refused type low high rest refuses =>
      exact Or.inl (parseLoop_refused (parseTlv_cons type low high rest (some_left fits))
        (takeRecord_refuses refuses))
  | record type low high value rest sized takes tail ih =>
      have parses := parseTlv_cons type low high (value ++ rest) (some_left fits)
      have length : (value ++ rest).length = (le16 low high).toNat + rest.length := by
        rw [List.length_append, sized]
      have inside : (le16 low high).toNat ≤ (value ++ rest).length := by omega
      obtain ⟨next, taken, still⟩ := @takeRecord_whole parsed
        (recordAt type low high (value ++ rest) (UInt32.ofNat ((value ++ rest).length + 3)))
        takes inside whole
      have behind : (value ++ rest).drop (le16 low high).toNat = rest := List.drop_left' sized
      have left := left_inside inside fits
      rw [length, Nat.add_sub_cancel_left, ← length] at left
      have goes_on := parseLoop_record parses taken
      simp only [recordAt, behind, left] at goes_on
      rw [List.length_cons, List.length_cons, List.length_cons, goes_on]
      rw [List.length_cons, List.length_cons, List.length_cons] at fits
      exact ih (by omega) still

theorem parseTlv_fail {totalLen : UInt32} (fails : parseTlv buf totalLen = .fail) :
    totalLen = 0 := by
  unfold parseTlv at fails
  split at fails
  · assumption
  · split at fails <;> cases fails

theorem parseLoop_behind {totalLen : UInt32} (counts : totalLen ≠ 0) :
    parseLoop [] totalLen parsed = .overread := by
  have reads : parseTlv [] totalLen = .overread := if_neg counts
  rw [parseLoop]
  split
  · rfl
  · rename_i same
    rw [reads] at same
    cases same
  · rename_i same
    rw [reads] at same
    cases same

/-- Where it stays inside the records are complete. -/
theorem complete_of_inside {totalLen : UInt32} (counted : totalLen = UInt32.ofNat buf.length)
    (fits : buf.length < 4294967296) (inside : parseLoop buf totalLen parsed ≠ .overread) :
    Complete buf := by
  fun_induction parseLoop buf totalLen parsed with
  | case1 => exact absurd rfl inside
  | case2 buf totalLen parsed fails =>
      have empty := congrArg UInt32.toNat (counted.symm.trans (parseTlv_fail fails))
      rw [UInt32.toNat_ofNat_of_lt' fits, UInt32.toNat_zero] at empty
      rw [List.eq_nil_of_length_eq_zero empty]
      exact .nothing
  | case3 => exact absurd rfl inside
  | case4 buf totalLen parsed record parses refused =>
      obtain ⟨type, low, high, rest, rfl, rfl⟩ := parseTlv_cases parses
      exact .refused type low high rest (takeRecord_refused refused)
  | case5 buf totalLen parsed record parses next taken ih =>
      obtain ⟨type, low, high, rest, rfl, rfl⟩ := parseTlv_cases parses
      subst counted
      have takes : ¬ Refuses type (le16 low high) := by
        intro refuses
        rw [@takeRecord_refuses parsed (recordAt type low high rest _) refuses] at taken
        cases taken
      simp only [recordAt, List.length_cons] at ih inside
      rw [List.length_cons, List.length_cons, List.length_cons] at fits
      by_cases ends : (le16 low high).toNat ≤ rest.length
      · have tail := ih (by rw [List.length_drop]; exact left_inside ends fits)
          (by rw [List.length_drop]; omega) inside
        have whole := Complete.record type low high (rest.take (le16 low high).toNat) _
          (List.length_take_of_le ends) takes tail
        rwa [List.take_append_drop] at whole
      · have outside := Nat.lt_of_not_le ends
        rw [List.drop_of_length_le (Nat.le_of_lt outside),
          parseLoop_behind (left_outside outside)] at inside
        exact absurd rfl inside

end Bounds

section Input
variable {input epname data : List UInt8}

theorem requested_whole {parsed : Parsed} (whole : Whole parsed) :
    requested parsed ≠ .overread := by
  unfold requested
  split
  · exact nofun
  · rename_i data found
    dsimp only
    split_ifs with incomplete short
    · exact nofun
    · exact absurd (whole data found) (Nat.not_le_of_lt short)
    · exact nofun

theorem rpcReqHandler_inside (fits : input.length < 4294967296) :
    rpcReqHandler input ≠ .overread ↔ Complete input := by
  unfold rpcReqHandler
  constructor
  · intro inside
    apply @complete_of_inside input fresh _ rfl fits
    intro outside
    rw [outside] at inside
    exact inside rfl
  · intro complete
    have start : Whole fresh := nofun
    rcases parseLoop_complete complete fits start with refused | ⟨last, ended, whole⟩
    · rw [refused]
      exact nofun
    · rw [ended]
      exact requested_whole whole

/-- The data of a request are bytes of the input. -/
theorem request_range (request : rpcReqHandler input = .request epname data) :
    data <:+: input := by
  unfold rpcReqHandler at request
  split at request
  · cases request
  · cases request
  · rename_i parsed left ended
    obtain ⟨rounds, buf, here⟩ := parseLoop_ends .start ended
    have behind := (iterates_data here).2
    unfold requested at request
    split at request
    · cases request
    · rename_i found
      dsimp only at request
      split_ifs at request
      cases request
      exact (List.take_prefix _ _).isInfix.trans (behind _ found).isInfix

end Input

/-- The handler stays inside its input, with the data it passes on, exactly if the input is made
of complete records up to its end or to one that is refused. -/
theorem request_inside_iff (input : List UInt8) (fits : input.length < 4294967296) :
    Contained input ↔ Complete input := by
  constructor
  · intro contained
    exact (rpcReqHandler_inside fits).mp contained.inside
  · intro complete
    exact
      { inside := (rpcReqHandler_inside fits).mpr complete
        range := fun _ _ request => request_range request
        ends := fun _ _ _ _ here => iterates_ends here
        name := fun _ _ _ _ here => iterates_name here }

/-- A name and two bytes of data, the way a host sends them. -/
def aRequest : List UInt8 := [1, 6, 0, 82, 80, 67, 82, 115, 112, 2, 2, 0, 7, 8]

theorem request_inside_iff_two : Contained aRequest :=
  (request_inside_iff aRequest (by decide)).mpr
    (.record 1 6 0 [82, 80, 67, 82, 115, 112] [2, 2, 0, 7, 8] rfl (by decide)
      (.record 2 2 0 [7, 8] [] rfl (by decide) .nothing))

/-- Data of five bytes are announced, and one is there. -/
def overlong : List UInt8 := [2, 5, 0, 7]

theorem request_inside_fails : rpcReqHandler overlong = .overread ∧ ¬ Contained overlong := by
  have outside : rpcReqHandler overlong = .overread := by
    have goes_on := @parseLoop_record overlong 4 fresh _ _ rfl rfl
    have behind : parseLoop overlong (UInt32.ofNat overlong.length) fresh = .overread :=
      goes_on.trans (parseLoop_behind (by decide))
    unfold rpcReqHandler
    rw [behind]
  exact ⟨outside, fun contained => contained.inside outside⟩

end EspHosted.RequestRecords

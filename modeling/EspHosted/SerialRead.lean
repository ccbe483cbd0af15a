import EspHosted.SerialTlv

/-!
`serial_drv_read` with what it does to the memory. It takes a buffer off the serial queue, copies
the twelve bytes in front of the message, parses the copy, and copies the message out. A read
outside the received bytes, or outside the copy that is parsed, is none.
-/

namespace EspHosted.SerialRead
open SpiFrames SerialTlv

/-- An element of the serial queue: a payload, none for NULL, with `payload_len` bytes at least. -/
structure Element where
  payload : Option (List UInt8)
  payloadLen : UInt16
  inside : ∀ bytes, payload = some bytes → payloadLen.toNat ≤ bytes.length

/-- `serial_ll_read`: the bytes that may be read behind the pointer, and `rlen`. -/
def serialLlRead (active : Bool) (item : Option Element) : Option (List UInt8) × UInt16 :=
  if !active then (none, 0)
  else
    match item with
    | none => (none, 0)
    | some element =>
        match element.payload with
        | none => (none, 0)
        | some bytes =>
            if element.payloadLen = 0 then (none, 0)
            else (some (bytes.take element.payloadLen.toNat), element.payloadLen)

/-- A copy of `count` bytes. -/
def copied (source : List UInt8) (offset count : Nat) : Option (List UInt8) :=
  if offset + count ≤ source.length then some ((source.drop offset).take count) else none

/-- `strncmp` with a name, over its length; it stops at the first byte that differs. -/
def strncmp : List UInt8 → List UInt8 → Option Bool
  | _, [] => some true
  | [], _ :: _ => none
  | byte :: bytes, char :: name => if byte = char then strncmp bytes name else some false

/-- The string that starts here, none when no zero ends it. -/
def cString : List UInt8 → Option (List UInt8)
  | [] => none
  | byte :: bytes => if byte = 0 then some [] else (cString bytes).map (byte :: ·)

/-- Why `parse_tlv` fails, with what it logs. -/
inductive Refusal where
  | epType (recvd : UInt8)
  | epLength (recvd : UInt16)
  /-- The name is logged with `%s`, out of a copy that nothing terminates. -/
  | epName (recvd : Option (List UInt8))
  | dataType (recvd : UInt8)

/-- Either of the two names is fine. -/
def nameKnown (bytes : List UInt8) : Option Bool := do
  if ← strncmp bytes rpcEpNameRsp then some true else strncmp bytes rpcEpNameEvt

/-- `parse_tlv` of the host, byte by byte. -/
def parseTlv (data : List UInt8) : Option (Except Refusal UInt32) := do
  let epType ← data[0]?
  if epType = protoPserTlvTEpname then
    let valLen := le16 (← data[1]?) (← data[2]?)
    if valLen.toNat = rpcEpNameRsp.length then
      if ← nameKnown (data.drop 3) then
        let dataType ← data[9]?
        if dataType = protoPserTlvTData then
          return .ok (le16 (← data[10]?) (← data[11]?)).toUInt32
        else return .error (.dataType dataType)
      else return .error (.epName (cString (data.drop 3)))
    else return .error (.epLength valLen)
  else return .error (.epType epType)

/-- The locals of `serial_drv_read`: two pointers, and what was freed and allocated for them. -/
structure Locals where
  readBuf : Option (List UInt8)
  buf : Option (List UInt8)
  readBufFrees : Nat
  bufAllocs : Nat
  bufFrees : Nat

def Locals.received (bytes : List UInt8) : Locals where
  readBuf := some bytes
  buf := none
  readBufFrees := 0
  bufAllocs := 0
  bufFrees := 0

def Locals.calloc (locals : Locals) (filled : List UInt8) : Locals :=
  { locals with buf := some filled, bufAllocs := locals.bufAllocs + 1 }

/-- `HOSTED_FREE(read_buf)`. -/
def Locals.freeReadBuf (locals : Locals) : Locals :=
  match locals.readBuf with
  | none => locals
  | some _ => { locals with readBuf := none, readBufFrees := locals.readBufFrees + 1 }

/-- `HOSTED_FREE(buf)`. -/
def Locals.freeBuf (locals : Locals) : Locals :=
  match locals.buf with
  | none => locals
  | some _ => { locals with buf := none, bufFrees := locals.bufFrees + 1 }

/-- The label `free_bufs`. -/
def Locals.freeBufs (locals : Locals) : Locals := locals.freeReadBuf.freeBuf

/-- How a call ends; `outNbyte` is none where nothing is stored in it. -/
structure Ended where
  returned : Option (List UInt8)
  outNbyte : Option UInt32
  readBufFrees : Nat
  bufAllocs : Nat
  bufFrees : Nat
  deriving DecidableEq

def Locals.ended (locals : Locals) (returned : Option (List UInt8)) (outNbyte : UInt32) : Ended where
  returned := returned
  outNbyte := some outNbyte
  readBufFrees := locals.readBufFrees
  bufAllocs := locals.bufAllocs
  bufFrees := locals.bufFrees

/-- `serial_drv_read` from the buffer on that the interface has read. -/
def readReceived (reader : Host.Reader) (received : List UInt8) (rxBufLen : UInt16) :
    Option Ended :=
  let locals := Locals.received received
  if rxBufLen.toNat < Host.initReadLen then some (locals.freeReadBuf.ended none 0)
  else if !reader.calloc 0 then some (locals.freeBufs.ended none 0)
  else do
    let front ← copied received 0 Host.initReadLen
    let locals := locals.calloc front
    match ← parseTlv front with
    | .error _ => return locals.freeBuf.freeBufs.ended none 0
    | .ok bufLen =>
        if bufLen = 0 then return locals.freeBuf.freeBufs.ended none 0
        else if rxBufLen.toUInt32 < UInt32.ofNat Host.initReadLen + bufLen then
          return locals.freeBuf.freeBufs.ended none 0
        else if !reader.calloc 1 then return locals.freeBuf.freeBufs.ended none 0
        else
          let data ← copied received Host.initReadLen bufLen.toNat
          let locals := locals.freeBuf.calloc data
          return locals.freeReadBuf.ended (some data) bufLen

/-- A call that has not got a buffer. -/
def nothing (outNbyte : Option UInt32) : Ended where
  returned := none
  outNbyte := outNbyte
  readBufFrees := 0
  bufAllocs := 0
  bufFrees := 0

/-- `serial_drv_read`; `active` is the state of the interface. -/
def serialDrvRead (reader : Host.Reader) (active : Bool) (item : Option Element) : Option Ended :=
  if !reader.handle then some (nothing none)
  else if !reader.readSemaphore then some (nothing (some 0))
  else if !reader.fops then some (nothing (some 0))
  else
    match serialLlRead active item with
    | (none, _) => some (nothing (some 0))
    | (some readBuf, rxBufLen) =>
        if rxBufLen = 0 then some (nothing (some 0)) else readReceived reader readBuf rxBufLen

/-- The format: both records in front of the message, and the message in whole. -/
def Formed (bytes : List UInt8) (length : UInt16) : Prop :=
  ∃ name low high rest, (name = rpcEpNameRsp ∨ name = rpcEpNameEvt) ∧
    bytes = [1, 6, 0] ++ name ++ [2, low, high] ++ rest ∧ length = le16 low high ∧
      1 ≤ length.toNat ∧ length.toNat ≤ rest.length

theorem strncmp_eq {bytes name : List UInt8} (long : name.length ≤ bytes.length) :
    strncmp bytes name = some (decide (bytes.take name.length = name)) := by
  induction name generalizing bytes with
  | nil => simp [strncmp]
  | cons char name ih =>
      cases bytes with
      | nil => cases long
      | cons byte bytes =>
          rw [strncmp]
          by_cases same : byte = char
          · rw [if_pos same, ih (Nat.le_of_succ_le_succ long)]
            simp [same]
          · rw [if_neg same]
            simp [same]

/-- The string is found in the bytes exactly if one of them is zero. -/
theorem cString_isSome (bytes : List UInt8) : (cString bytes).isSome ↔ 0 ∈ bytes := by
  induction bytes with
  | nil => simp [cString]
  | cons byte bytes ih =>
      by_cases zero : byte = 0
      · simp [cString, zero]
      · have other : ¬ 0 = byte := fun same => zero same.symm
        simp [cString, zero, other, ih]

theorem three_front {bytes : List UInt8} (long : 3 ≤ bytes.length) :
    ∃ first second third rest, bytes = [first, second, third] ++ rest := by
  rcases bytes with _ | ⟨first, _ | ⟨second, _ | ⟨third, rest⟩⟩⟩
  · cases long
  · simp at long
  · simp at long
  · exact ⟨first, second, third, rest, rfl⟩

/-- The twelve bytes that are parsed. -/
structure Front where
  epType : UInt8
  epLow : UInt8
  epHigh : UInt8
  name : List UInt8
  dataType : UInt8
  low : UInt8
  high : UInt8
  six : name.length = 6

def Front.bytes (front : Front) : List UInt8 :=
  [front.epType, front.epLow, front.epHigh] ++ front.name ++
    [front.dataType, front.low, front.high]

theorem front_of_length {bytes : List UInt8} (twelve : bytes.length = 12) :
    ∃ front : Front, bytes = front.bytes := by
  obtain ⟨epType, epLow, epHigh, rest, rfl⟩ := @three_front bytes (by omega)
  have nine : rest.length = 9 := by simpa using twelve
  obtain ⟨dataType, low, high, tail, split⟩ := @three_front (rest.drop 6) (by simp [nine])
  have none_left : tail = [] := by
    have length := congrArg List.length split
    simp only [List.length_drop, List.length_append, List.length_cons, List.length_nil] at length
    exact List.eq_nil_of_length_eq_zero (by omega)
  rw [none_left, List.append_nil] at split
  refine ⟨⟨epType, epLow, epHigh, rest.take 6, dataType, low, high, by simp [nine]⟩, ?_⟩
  rw [Front.bytes, List.append_assoc, ← split, List.take_append_drop]

/-- What `parse_tlv` makes of them. -/
def Front.parsed (front : Front) : Except Refusal UInt32 :=
  if front.epType ≠ protoPserTlvTEpname then .error (.epType front.epType)
  else if (le16 front.epLow front.epHigh).toNat ≠ rpcEpNameRsp.length then
    .error (.epLength (le16 front.epLow front.epHigh))
  else if front.name ≠ rpcEpNameRsp ∧ front.name ≠ rpcEpNameEvt then
    .error (.epName (cString (front.name ++ [front.dataType, front.low, front.high])))
  else if front.dataType ≠ protoPserTlvTData then .error (.dataType front.dataType)
  else .ok (le16 front.low front.high).toUInt32

theorem nameKnown_eq {name rest : List UInt8} (six : name.length = 6) :
    nameKnown (name ++ rest) = some (decide (name = rpcEpNameRsp ∨ name = rpcEpNameEvt)) := by
  have compares : ∀ known : List UInt8, known.length = 6 →
      strncmp (name ++ rest) known = some (decide (name = known)) := by
    intro known length
    rw [strncmp_eq (by simp [six, length]), length, List.take_left' six]
  rw [nameKnown, compares rpcEpNameRsp rfl, compares rpcEpNameEvt rfl]
  by_cases response : name = rpcEpNameRsp
  · simp [response]
  · simp [response]

theorem parseTlv_front (front : Front) : parseTlv front.bytes = some front.parsed := by
  obtain ⟨epType, epLow, epHigh, name, dataType, low, high, six⟩ := front
  have behind : ([epType, epLow, epHigh] ++ name ++ [dataType, low, high]).drop 3 =
      name ++ [dataType, low, high] := rfl
  have at_nine : ∀ index, (name ++ [dataType, low, high])[6 + index]? =
      [dataType, low, high][index]? := by
    intro index
    rw [List.getElem?_append_right (by rw [six]; omega), six, Nat.add_sub_cancel_left]
  have nine : (name ++ [dataType, low, high])[6]? = some dataType := at_nine 0
  have ten : (name ++ [dataType, low, high])[7]? = some low := at_nine 1
  have eleven : (name ++ [dataType, low, high])[8]? = some high := at_nine 2
  unfold parseTlv
  simp only [Front.bytes, behind, nameKnown_eq six, Front.parsed]
  by_cases type : epType = protoPserTlvTEpname
  · by_cases length : (le16 epLow epHigh).toNat = rpcEpNameRsp.length
    · by_cases known : name = rpcEpNameRsp ∨ name = rpcEpNameEvt
      · have not_other : ¬ (name ≠ rpcEpNameRsp ∧ name ≠ rpcEpNameEvt) := by tauto
        by_cases data : dataType = protoPserTlvTData
        · subst data
          simp [type, length, known, not_other, nine, ten, eleven]
        · simp [type, length, known, not_other, data, nine]
      · have other := not_or.mp known
        simp [type, length, other]
    · simp [type, length]
  · simp [type]

/-- The other reading of `parse_tlv`, which has the length alone. -/
theorem parsed_toOption (front : Front) :
    front.parsed.toOption = Host.parseTlv front.bytes := by
  obtain ⟨epType, epLow, epHigh, name, dataType, low, high, six⟩ := front
  have name_at : (([epType, epLow, epHigh] ++ name ++ [dataType, low, high]).drop 3).take 6 =
      name := List.take_left' six
  have behind : ([epType, epLow, epHigh] ++ name ++ [dataType, low, high]).drop 9 =
      [dataType, low, high] := List.drop_left' (by simp [six])
  have length : rpcEpNameRsp.length = 6 := rfl
  have three : sizeOfType + sizeOfLength = 3 := rfl
  unfold Host.parseTlv
  simp only [Front.bytes, Front.parsed, apply_ite Except.toOption, length, three, Nat.reduceAdd,
    name_at, behind]
  rfl

theorem le16_toNat (low high : UInt8) : (le16 low high).toNat = low.toNat + 256 * high.toNat := by
  have := low.toNat_lt
  have := high.toNat_lt
  have small : low.toNat + 256 * high.toNat < 65536 := by omega
  rw [le16, UInt16.toNat_ofNat_of_lt' small]

theorem le16_six {low high : UInt8} (six : (le16 low high).toNat = 6) : low = 6 ∧ high = 0 := by
  rw [le16_toNat] at six
  constructor
  · apply UInt8.toNat_inj.mp
    change low.toNat = 6
    omega
  · apply UInt8.toNat_inj.mp
    change high.toNat = 0
    omega

/-- What a front looks like that gives a length. -/
structure Front.Gives (front : Front) (length : UInt16) : Prop where
  epType : front.epType = 1
  epLow : front.epLow = 6
  epHigh : front.epHigh = 0
  name : front.name = rpcEpNameRsp ∨ front.name = rpcEpNameEvt
  dataType : front.dataType = 2
  length : le16 front.low front.high = length

theorem toUInt32_inj {left right : UInt16} (same : left.toUInt32 = right.toUInt32) :
    left = right := by
  have natural := congrArg UInt32.toNat same
  rw [UInt16.toNat_toUInt32, UInt16.toNat_toUInt32] at natural
  exact UInt16.toNat_inj.mp natural

theorem parsed_ok {front : Front} {bufLen : UInt32} (parsed : front.parsed = .ok bufLen) :
    ∃ length : UInt16, bufLen = length.toUInt32 ∧ front.Gives length := by
  unfold Front.parsed at parsed
  split_ifs at parsed with type length unknown data
  cases parsed
  obtain ⟨epLow, epHigh⟩ := le16_six (not_not.mp length)
  exact ⟨_, rfl, not_not.mp type, epLow, epHigh, by tauto, not_not.mp data, rfl⟩

theorem gives_parsed {front : Front} {length : UInt16} (gives : front.Gives length) :
    front.parsed = .ok length.toUInt32 := by
  obtain ⟨epType, epLow, epHigh, name, dataType, rfl⟩ := gives
  unfold Front.parsed
  rw [epType, epLow, epHigh, dataType]
  have known : ¬ (front.name ≠ rpcEpNameRsp ∧ front.name ≠ rpcEpNameEvt) := by tauto
  rw [if_neg known]
  rfl

/-- The bytes are formed if their front gives the length, and so many follow. -/
theorem formed_iff {bytes : List UInt8} {front : Front} (here : bytes.take 12 = front.bytes)
    (length : UInt16) :
    Formed bytes length ↔ front.parsed = .ok length.toUInt32 ∧ 1 ≤ length.toNat ∧
      12 + length.toNat ≤ bytes.length := by
  constructor
  · rintro ⟨name, low, high, rest, known, rfl, rfl, positive, enough⟩
    have six := name_length known
    let formed : Front := ⟨1, 6, 0, name, 2, low, high, six⟩
    have twelve : formed.bytes.length = 12 := by simp [formed, Front.bytes, six]
    have same : formed.bytes = front.bytes := by
      rw [← here]
      exact (List.take_left' twelve).symm
    have parses := parseTlv_front front
    rw [← same, parseTlv_front formed] at parses
    refine ⟨?_, positive, ?_⟩
    · rw [← Option.some.inj parses]
      exact gives_parsed ⟨rfl, rfl, rfl, known, rfl, rfl⟩
    · change _ ≤ (formed.bytes ++ rest).length
      rw [List.length_append, twelve]
      omega
  · rintro ⟨parsed, positive, enough⟩
    obtain ⟨given, same, gives⟩ := parsed_ok parsed
    cases toUInt32_inj same
    obtain ⟨epType, epLow, epHigh, known, dataType, rfl⟩ := gives
    refine ⟨front.name, front.low, front.high, bytes.drop 12, known, ?_, rfl, positive, ?_⟩
    · have split := (List.take_append_drop 12 bytes).symm
      rw [here, Front.bytes, epType, epLow, epHigh, dataType] at split
      exact split
    · rw [List.length_drop]
      omega

/-- A call that has taken a buffer and frees it, and of its copies keeps what it returns. -/
def finished (returned : Option (List UInt8)) (copies : Nat) : Ended where
  returned := returned
  outNbyte := some (UInt32.ofNat (returned.getD []).length)
  readBufFrees := 1
  bufAllocs := copies + returned.toList.length
  bufFrees := copies

variable {reader : Host.Reader} {received : List UInt8} {rxBufLen : UInt16}

theorem ofNat_toNat (length : UInt16) : UInt32.ofNat length.toNat = length.toUInt32 := by
  apply UInt32.toNat_inj.mp
  rw [UInt16.toNat_toUInt32, UInt32.toNat_ofNat_of_lt' (Nat.lt_trans length.toNat_lt (by decide))]

theorem empty_iff (length : UInt16) : length.toUInt32 = 0 ↔ length.toNat = 0 := by
  rw [← UInt32.toNat_inj, UInt16.toNat_toUInt32, UInt32.toNat_zero]

theorem missing_iff (length : UInt16) :
    rxBufLen.toUInt32 < UInt32.ofNat Host.initReadLen + length.toUInt32 ↔
      rxBufLen.toNat < Host.initReadLen + length.toNat := by
  have small := length.toNat_lt
  have twelve : (UInt32.ofNat Host.initReadLen).toNat = Host.initReadLen := rfl
  have bound : Host.initReadLen = 12 := rfl
  rw [UInt32.lt_iff_toNat_lt, UInt32.toNat_add, UInt16.toNat_toUInt32, UInt16.toNat_toUInt32,
    twelve]
  omega

theorem received_front (long : Host.initReadLen ≤ received.length) :
    ∃ front : Front, received.take Host.initReadLen = front.bytes :=
  front_of_length (List.length_take_of_le long)

/-- The call returns what the other reading of it returns, whatever becomes of the memory. -/
theorem readReceived_eq (ready : reader.handle ∧ reader.readSemaphore ∧ reader.fops)
    (whole : received.length = rxBufLen.toNat) (positive : rxBufLen ≠ 0) :
    ∃ copies, readReceived reader received rxBufLen =
      some (finished (Host.serialDrvRead reader (some received)) copies) := by
  have word : UInt16.ofNat received.length = rxBufLen := by rw [whole, UInt16.ofNat_toNat]
  unfold readReceived Host.serialDrvRead
  dsimp only
  rw [word]
  simp only [ready.1, ready.2.1, ready.2.2, Bool.not_true, Bool.false_eq_true, if_false, positive]
  by_cases short : rxBufLen.toNat < Host.initReadLen
  · rw [if_pos short, if_pos short]
    exact ⟨0, rfl⟩
  · have long : Host.initReadLen ≤ received.length := whole ▸ Nat.le_of_not_lt short
    rw [if_neg short, if_neg short]
    cases reader.calloc 0 with
    | false => exact ⟨0, rfl⟩
    | true =>
        obtain ⟨front, here⟩ := received_front long
        have copy : copied received 0 Host.initReadLen = some front.bytes := by
          rw [copied, if_pos (by omega), List.drop_zero, here]
        simp only [Bool.not_true, Bool.false_eq_true, if_false, copy, Option.bind_eq_bind,
          Option.bind_some, parseTlv_front, here, ← parsed_toOption]
        cases parsed : front.parsed with
        | error refusal => exact ⟨1, rfl⟩
        | ok bufLen =>
            obtain ⟨length, rfl, _⟩ := parsed_ok parsed
            simp only [Except.toOption]
            by_cases empty : length.toUInt32 = 0
            · rw [if_pos empty, if_pos empty]
              exact ⟨1, rfl⟩
            · rw [if_neg empty, if_neg empty]
              by_cases missing : rxBufLen.toUInt32 < UInt32.ofNat Host.initReadLen + length.toUInt32
              · rw [if_pos missing, if_pos missing]
                exact ⟨1, rfl⟩
              · rw [if_neg missing, if_neg missing]
                cases reader.calloc 1 with
                | false => exact ⟨1, rfl⟩
                | true =>
                    have enough := Nat.le_of_not_lt (mt (missing_iff length).mpr missing)
                    rw [← whole] at enough
                    refine ⟨1, ?_⟩
                    rw [if_neg (by decide), if_neg (by decide), copied, UInt16.toNat_toUInt32,
                      if_pos enough, Option.bind_some]
                    have returned : ((received.drop Host.initReadLen).take length.toNat).length =
                        length.toNat := List.length_take_of_le (by rw [List.length_drop]; omega)
                    simp only [finished, Option.getD_some, returned, ofNat_toNat]
                    rfl

theorem formed_long {length : UInt16} (formed : Formed received length) :
    Host.initReadLen ≤ received.length := by
  obtain ⟨name, low, high, rest, known, rfl, _⟩ := formed
  have six := name_length known
  have twelve : Host.initReadLen = 12 := rfl
  simp only [List.length_append, List.length_cons, List.length_nil, six, twelve]
  omega

/-- What is read is the message of a buffer that is formed, if both copies can be made. -/
theorem serialDrvRead_formed (ready : reader.handle ∧ reader.readSemaphore ∧ reader.fops)
    (whole : received.length = rxBufLen.toNat) (positive : rxBufLen ≠ 0) (data : List UInt8) :
    Host.serialDrvRead reader (some received) = some data ↔
      (reader.calloc 0 ∧ reader.calloc 1) ∧ ∃ length, Formed received length ∧
        data = (received.drop Host.initReadLen).take length.toNat := by
  have word : UInt16.ofNat received.length = rxBufLen := by rw [whole, UInt16.ofNat_toNat]
  unfold Host.serialDrvRead
  dsimp only
  rw [word]
  simp only [ready.1, ready.2.1, ready.2.2, Bool.not_true, Bool.false_eq_true, if_false, positive]
  by_cases short : rxBufLen.toNat < Host.initReadLen
  · rw [if_pos short]
    constructor
    · intro wrong
      cases wrong
    · rintro ⟨_, length, formed, _⟩
      have long := formed_long formed
      omega
  · have long : Host.initReadLen ≤ received.length := whole ▸ Nat.le_of_not_lt short
    obtain ⟨front, here⟩ := received_front long
    have formed := formed_iff here
    rw [if_neg short, here, ← parsed_toOption]
    cases parsed : front.parsed with
    | error refusal =>
        constructor
        · intro wrong
          split at wrong <;> cases wrong
        · rintro ⟨_, length, wrong, _⟩
          have same := ((formed length).mp wrong).1
          rw [parsed] at same
          cases same
    | ok bufLen =>
        obtain ⟨given, rfl, _⟩ := parsed_ok parsed
        have twelve : Host.initReadLen = 12 := rfl
        simp only [Except.toOption, empty_iff, missing_iff, UInt16.toNat_toUInt32]
        constructor
        · intro read
          split_ifs at read with first empty missing second
          cases read
          refine ⟨⟨by simpa using first, by simpa using second⟩, given, ?_, rfl⟩
          exact (formed given).mpr ⟨parsed, by omega, by omega⟩
        · rintro ⟨⟨first, second⟩, length, all, rfl⟩
          obtain ⟨same, some_bytes, enough⟩ := (formed length).mp all
          rw [parsed] at same
          cases toUInt32_inj (Except.ok.inj same)
          rw [first, second, if_neg (by decide), if_neg (by omega), if_neg (by omega),
            if_neg (by decide)]

/-- What a call owes for the bytes it has taken off the queue. -/
structure Settled (reader : Host.Reader) (received : List UInt8) (ended : Ended) : Prop where
  /-- The message of a buffer that is formed, and nothing else. -/
  returned : ∀ data, ended.returned = some data ↔
    (reader.calloc 0 ∧ reader.calloc 1) ∧ ∃ length, Formed received length ∧
      data = (received.drop Host.initReadLen).take length.toNat
  counted : ∀ data, ended.returned = some data → ended.outNbyte = some (UInt32.ofNat data.length)
  null : ended.returned = none → ended.outNbyte = some 0
  once : ended.readBufFrees = 1
  /-- Of the copies it keeps the one it returns. -/
  copies : ended.bufAllocs = ended.bufFrees + ended.returned.toList.length

theorem finished_settled (ready : reader.handle ∧ reader.readSemaphore ∧ reader.fops)
    (whole : received.length = rxBufLen.toNat) (positive : rxBufLen ≠ 0) (copies : Nat) :
    Settled reader received (finished (Host.serialDrvRead reader (some received)) copies) where
  returned := serialDrvRead_formed ready whole positive
  counted := by
    intro data read
    change Host.serialDrvRead reader (some received) = some data at read
    rw [finished, read]
    rfl
  null := by
    intro read
    change Host.serialDrvRead reader (some received) = none at read
    rw [finished, read]
    rfl
  once := rfl
  copies := rfl

theorem read_finished {element : Element} {bytes : List UInt8}
    (ready : reader.handle ∧ reader.readSemaphore ∧ reader.fops)
    (delivered : element.payload = some bytes) (positive : element.payloadLen ≠ 0) :
    ∃ copies, serialDrvRead reader true (some element) =
      some (finished
        (Host.serialDrvRead reader (some (bytes.take element.payloadLen.toNat))) copies) := by
  have whole : (bytes.take element.payloadLen.toNat).length = element.payloadLen.toNat :=
    List.length_take_of_le (element.inside bytes delivered)
  obtain ⟨copies, reads⟩ := readReceived_eq ready whole positive
  refine ⟨copies, ?_⟩
  simp only [serialDrvRead, serialLlRead, ready.1, ready.2.1, ready.2.2, delivered, positive,
    Bool.not_true, Bool.false_eq_true, if_false]
  exact reads

/-- From every buffer the queue delivers, with any bytes and any length, the message is read
exactly if the buffer is formed and the copies can be made; no byte outside of it is read, it is
freed once, and without a message `out_nbyte` is 0. -/
theorem serial_read_exact (reader : Host.Reader) (element : Element) (bytes : List UInt8)
    (ready : reader.handle ∧ reader.readSemaphore ∧ reader.fops)
    (delivered : element.payload = some bytes) (positive : element.payloadLen ≠ 0) :
    ∃ ended, serialDrvRead reader true (some element) = some ended ∧
      Settled reader (bytes.take element.payloadLen.toNat) ended := by
  have whole : (bytes.take element.payloadLen.toNat).length = element.payloadLen.toNat :=
    List.length_take_of_le (element.inside bytes delivered)
  obtain ⟨copies, read⟩ := read_finished ready delivered positive
  exact ⟨_, read, finished_settled ready whole positive copies⟩

def openReader : Host.Reader where
  handle := true
  readSemaphore := true
  fops := true
  calloc _ := true

/-- `01 06 00 RPCEvt 02 02 00`, a message of two bytes, and a byte too many. -/
def anElement : Element where
  payload := some [1, 6, 0, 82, 80, 67, 69, 118, 116, 2, 2, 0, 7, 8, 9]
  payloadLen := 15
  inside := by
    intro bytes same
    cases same
    decide

theorem serial_read_exact_two :
    ∃ ended, serialDrvRead openReader true (some anElement) = some ended ∧
      ended.returned = some [7, 8] ∧ ended.outNbyte = some 2 ∧ ended.readBufFrees = 1 := by
  obtain ⟨ended, read, settled⟩ :=
    serial_read_exact openReader anElement _ ⟨rfl, rfl, rfl⟩ rfl (by decide)
  have formed : Formed ([1, 6, 0, 82, 80, 67, 69, 118, 116, 2, 2, 0, 7, 8, 9].take 15) 2 :=
    ⟨rpcEpNameEvt, 2, 0, [7, 8, 9], Or.inr rfl, rfl, rfl, by decide, by decide⟩
  have returned := (settled.returned [7, 8]).mpr ⟨⟨rfl, rfl⟩, 2, formed, rfl⟩
  exact ⟨ended, read, returned, settled.counted _ returned, settled.once⟩

/-- Without memory for the message a buffer that is formed is dropped. -/
theorem serial_read_exact_fails :
    ∃ reader ended, serialDrvRead reader true (some anElement) = some ended ∧
      Formed ([1, 6, 0, 82, 80, 67, 69, 118, 116, 2, 2, 0, 7, 8, 9].take 15) 2 ∧
      ended.returned = none ∧ ended.outNbyte = some 0 :=
  ⟨{ openReader with calloc := fun number => number = 0 }, _, rfl,
    ⟨rpcEpNameEvt, 2, 0, [7, 8, 9], Or.inr rfl, rfl, rfl, by decide, by decide⟩, rfl, rfl⟩

/-- The element for a buffer handle on the queue. -/
def Element.ofBuf (buf : IfaceBuf) (filled : buf.Filled) : Element where
  payload := some buf.payload
  payloadLen := buf.payloadLen
  inside := by
    intro bytes same
    cases same
    exact filled

/-- A buffer that comes with a length of 0 is taken off the queue and never freed. -/
theorem zero_length_kept {bytes : List UInt8} {element : Element}
    (delivered : element.payload = some bytes) (zero : element.payloadLen = 0) :
    serialDrvRead openReader true (some element) = some (nothing (some 0)) := by
  simp only [serialDrvRead, serialLlRead, openReader, delivered, zero, Bool.not_true,
    Bool.false_eq_true, if_false, if_true]

/-- A name that is refused is logged from inside the copy exactly if a zero stands in it or
behind it. -/
theorem refused_name_log {front : Front} {recvd : Option (List UInt8)}
    (refused : front.parsed = .error (.epName recvd)) :
    recvd.isSome ↔ 0 ∈ front.name ++ [front.dataType, front.low, front.high] := by
  unfold Front.parsed at refused
  split_ifs at refused <;> cases refused
  exact cString_isSome _

end EspHosted.SerialRead

import EspHosted.ByteCursor
import EspHosted.SpiFrames

/-!
The two TLV records around a message on the serial interface: the name of the endpoint, then
the bytes. Host and slave each have a `compose_tlv` and a `parse_tlv` of their own.
-/

namespace EspHosted.SerialTlv
open SpiFrames ByteCursor

def protoPserTlvTEpname : UInt8 := 1
def protoPserTlvTData : UInt8 := 2
def sizeOfType : Nat := 1
def sizeOfLength : Nat := 2
def epnameMax : Nat := 16

/-- `RPC_EP_NAME_RSP`, `"RPCRsp"`. -/
def rpcEpNameRsp : List UInt8 := [82, 80, 67, 82, 115, 112]

/-- `RPC_EP_NAME_EVT`, `"RPCEvt"`. -/
def rpcEpNameEvt : List UInt8 := [82, 80, 67, 69, 118, 116]

namespace Host

/-- `compose_tlv` of the host, into `buf` at its beginning. -/
def composeTlv (data : List UInt8) (dataLength : UInt16) : Writer :=
  let epLength := UInt16.ofNat rpcEpNameRsp.length
  write protoPserTlvTEpname >=> write (lowByte epLength) >=> write (highByte epLength) >=>
    writeEach rpcEpNameRsp >=>
    write protoPserTlvTData >=> write (lowByte dataLength) >=> write (highByte dataLength) >=>
    copy (data.take dataLength.toNat)

/-- The size of `write_buf` in `transport_pserial_send`. -/
def bufLen (dataLength : UInt16) : UInt16 :=
  UInt16.ofNat (sizeOfType + sizeOfLength + rpcEpNameRsp.length + sizeOfType + sizeOfLength) +
    dataLength

/-- What `transport_pserial_send` hands on: the first `count` bytes of `write_buf`. -/
def composed (data : List UInt8) (dataLength : UInt16) : Option (List UInt8) :=
  (composeTlv data dataLength (blank (bufLen dataLength).toNat)).map fun filled =>
    filled.buf.take filled.count.toNat

/-- `parse_tlv` of the host, on the bytes in front of the message: its length. -/
def parseTlv (data : List UInt8) : Option UInt32 :=
  let epLength := rpcEpNameRsp.length
  let epName := (data.drop (sizeOfType + sizeOfLength)).take epLength
  let second := data.drop (sizeOfType + sizeOfLength + epLength)
  if data.getD 0 0 ≠ protoPserTlvTEpname then none
  else if (le16 (data.getD 1 0) (data.getD 2 0)).toNat ≠ epLength then none
  else if epName ≠ rpcEpNameRsp ∧ epName ≠ rpcEpNameEvt then none
  else if second.getD 0 0 ≠ protoPserTlvTData then none
  else some (le16 (second.getD 1 0) (second.getD 2 0)).toUInt32

/-- What `serial_drv_read` finds: its handle and `out_nbyte`, the semaphore, the interface,
and the answers of the allocator. -/
structure Reader where
  handle : Bool
  readSemaphore : Bool
  fops : Bool
  calloc : Nat → Bool

def initReadLen : Nat :=
  sizeOfType + sizeOfLength + rpcEpNameRsp.length + sizeOfType + sizeOfLength

/-- `serial_drv_read`, with the buffer the interface reads. -/
def serialDrvRead (reader : Reader) (readBuf : Option (List UInt8)) : Option (List UInt8) :=
  if !reader.handle then none
  else if !reader.readSemaphore then none
  else if !reader.fops then none
  else
    match readBuf with
    | none => none
    | some readBuf =>
        let rxBufLen := UInt16.ofNat readBuf.length
        if rxBufLen = 0 then none
        else if rxBufLen.toNat < initReadLen then none
        else if !reader.calloc 0 then none
        else
          match parseTlv (readBuf.take initReadLen) with
          | none => none
          | some bufLen =>
              if bufLen = 0 then none
              else if rxBufLen.toUInt32 < UInt32.ofNat initReadLen + bufLen then none
              else if !reader.calloc 1 then none
              else some ((readBuf.drop initReadLen).take bufLen.toNat)

end Host

namespace Slave

structure Composed where
  out : List UInt8
  outlen : UInt32

/-- `compose_tlv` of the slave. Lengths are `size_t`, which has 32 bits there. -/
def composeTlv (calloc : Bool) (epname out : List UInt8) : Option Composed :=
  let epLen := UInt16.ofNat epname.length
  let outlen := UInt32.ofNat out.length
  let bufLen := UInt32.ofNat (sizeOfType + sizeOfLength) + epLen.toUInt32 +
    UInt32.ofNat (sizeOfType + sizeOfLength) + outlen
  if !calloc then none
  else do
    let head ← (write protoPserTlvTEpname >=> write (lowByte epLen) >=> write (highByte epLen) >=>
      copy epname >=>
      write protoPserTlvTData >=> write (lowByte outlen.toUInt16) >=>
      write (highByte outlen.toUInt16)) (blank bufLen.toNat)
    let whole ← copy out head
    some { out := whole.buf, outlen := head.count.toUInt32 + outlen }

/-- What `parse_tlv` gives: the record, then what it leaves of the buffer and of its length.
`ptr` points at the rest of the memory from the value on. -/
structure Record where
  type : UInt8
  len : UInt16
  ptr : List UInt8
  buf : List UInt8
  totalLen : UInt32

inductive Parse where
  | overread
  | fail
  | record (record : Record)

/-- `parse_tlv` of the slave. -/
def parseTlv (buf : List UInt8) (totalLen : UInt32) : Parse :=
  if totalLen = 0 then .fail
  else
    match buf with
    | type :: low :: high :: rest =>
        let len := le16 low high
        .record
          { type := type
            len := len
            ptr := rest
            buf := rest.drop len.toNat
            totalLen := totalLen - (len.toUInt32 + UInt32.ofNat (sizeOfType + sizeOfLength)) }
    | _ => .overread

theorem parseTlv_shorter {buf : List UInt8} {totalLen : UInt32} {record : Record}
    (step : parseTlv buf totalLen = .record record) : record.buf.length < buf.length := by
  unfold parseTlv at step
  split at step
  · cases step
  · rcases buf with _ | ⟨type, _ | ⟨low, _ | ⟨high, rest⟩⟩⟩
    · cases step
    · cases step
    · cases step
    · cases step
      simp only [List.length_drop, List.length_cons]
      omega

/-- The locals of `rpc_req_handler`: `epname` has 16 bytes, `data` points into the buffer. -/
structure Parsed where
  epname : List UInt8
  data : Option (List UInt8)
  dataLen : UInt16

def fresh : Parsed := { epname := List.replicate epnameMax 0, data := none, dataLen := 0 }

inductive Taken where
  | overread
  | refused
  | taken (parsed : Parsed)

/-- The `switch` over the type. -/
def takeRecord (record : Record) (parsed : Parsed) : Taken :=
  if record.type = protoPserTlvTEpname then
    if epnameMax - 1 ≤ record.len.toNat then .refused
    else if record.ptr.length < record.len.toNat then .overread
    else .taken
      { parsed with
        epname := record.ptr.take record.len.toNat ++ parsed.epname.drop record.len.toNat }
  else if record.type = protoPserTlvTData then
    .taken { parsed with data := some record.ptr, dataLen := record.len }
  else .refused

inductive Looped where
  | overread
  | refused
  | ended (parsed : Parsed) (totalLen : UInt32)

/-- The loop of `rpc_req_handler`. -/
def parseLoop (buf : List UInt8) (totalLen : UInt32) (parsed : Parsed) : Looped :=
  match _step : parseTlv buf totalLen with
  | .overread => .overread
  | .fail => .ended parsed totalLen
  | .record record =>
      match takeRecord record parsed with
      | .overread => .overread
      | .refused => .refused
      | .taken next => parseLoop record.buf record.totalLen next
termination_by buf.length
decreasing_by exact parseTlv_shorter _step

inductive Requested where
  | overread
  | refused
  /-- What `protocomm_req_handle` is called with. -/
  | request (epname data : List UInt8)
  deriving DecidableEq

/-- `rpc_req_handler` up to the call of `protocomm_req_handle`. -/
def requested (parsed : Parsed) : Requested :=
  match parsed.data with
  | none => .refused
  | some data =>
      let epname := parsed.epname.takeWhile (· ≠ 0)
      if parsed.dataLen = 0 ∨ epname.length = 0 then .refused
      else if data.length < parsed.dataLen.toNat then .overread
      else .request epname (data.take parsed.dataLen.toNat)

def rpcReqHandler (input : List UInt8) : Requested :=
  match parseLoop input (UInt32.ofNat input.length) fresh with
  | .overread => .overread
  | .refused => .refused
  | .ended parsed _ => requested parsed

end Slave

/-- A record: type, length, value. -/
def tlv (type : UInt8) (value : List UInt8) : List UInt8 :=
  [type, lowByte (UInt16.ofNat value.length), highByte (UInt16.ofNat value.length)] ++ value

/-- What travels for a message. -/
def enveloped (epname data : List UInt8) : List UInt8 :=
  tlv protoPserTlvTEpname epname ++ tlv protoPserTlvTData data

theorem length_enveloped (epname data : List UInt8) :
    (enveloped epname data).length = epname.length + data.length + 6 := by
  simp only [enveloped, tlv, List.length_append, List.length_cons, List.length_nil]
  omega

section Records
variable {epname data : List UInt8}

theorem writes_header (type low high : UInt8) {rest : Writer} {bytes : List UInt8}
    (writes : Writes rest bytes) :
    Writes (write type >=> write low >=> write high >=> rest) ([type, low, high] ++ bytes) := by
  have each := writes_then (writes_write type)
    (writes_then (writes_write low) (writes_then (writes_write high) writes))
  exact each

/-- The writer of the host writes the two records. -/
theorem Host.composeTlv_writes (short : data.length < 65536) :
    Writes (Host.composeTlv data (UInt16.ofNat data.length)) (enveloped rpcEpNameRsp data) := by
  have whole : data.take (UInt16.ofNat data.length).toNat = data := by
    rw [UInt16.toNat_ofNat_of_lt' short, List.take_length]
  rw [Host.composeTlv, whole, enveloped, tlv, tlv, List.append_assoc]
  exact writes_header _ _ _ (writes_then (writes_each rpcEpNameRsp)
    (writes_header _ _ _ (writes_copy data)))

theorem enveloped_small (six : epname.length = 6) (short : data.length ≤ 65523) :
    (enveloped epname data).length = 12 + data.length ∧
      (enveloped epname data).length < 65536 := by
  rw [length_enveloped]
  omega

/-- The buffer of the host is just large enough. -/
theorem Host.composeTlv_fills (short : data.length ≤ 65523) :
    ∃ filled, Host.composeTlv data (UInt16.ofNat data.length)
        (blank (Host.bufLen (UInt16.ofNat data.length)).toNat) = some filled ∧
      filled.buf = enveloped rpcEpNameRsp data ∧ filled.count.toNat = 12 + data.length := by
  obtain ⟨length, small⟩ := @enveloped_small rpcEpNameRsp data rfl short
  have size : (Host.bufLen (UInt16.ofNat data.length)).toNat =
      (enveloped rpcEpNameRsp data).length := by
    have twelve : (UInt16.ofNat (sizeOfType + sizeOfLength + rpcEpNameRsp.length + sizeOfType +
        sizeOfLength)).toNat = 12 := rfl
    rw [length, Host.bufLen, UInt16.toNat_add, twelve, UInt16.toNat_ofNat']
    omega
  obtain ⟨filled, ran, buf, count⟩ := writes_blank (Host.composeTlv_writes (by omega)) small
  refine ⟨filled, size ▸ ran, buf, ?_⟩
  rw [count, UInt16.toNat_ofNat_of_lt' small, length]

theorem Host.composed_eq (short : data.length ≤ 65523) :
    Host.composed data (UInt16.ofNat data.length) = some (enveloped rpcEpNameRsp data) := by
  obtain ⟨filled, ran, buf, count⟩ := Host.composeTlv_fills short
  have length := (@enveloped_small rpcEpNameRsp data rfl short).1
  rw [Host.composed, ran, Option.map_some, buf, count, ← length, List.take_length]

/-- So is the buffer of the slave. -/
theorem Slave.composeTlv_eq (six : epname.length = 6) (short : data.length ≤ 65523) :
    Slave.composeTlv true epname data =
      some { out := enveloped epname data, outlen := UInt32.ofNat (12 + data.length) } := by
  obtain ⟨length, small⟩ := @enveloped_small epname data six short
  have size : (UInt32.ofNat (sizeOfType + sizeOfLength) + (UInt16.ofNat epname.length).toUInt32 +
      UInt32.ofNat (sizeOfType + sizeOfLength) + UInt32.ofNat data.length).toNat =
        12 + data.length := by
    have twelve : (UInt32.ofNat (sizeOfType + sizeOfLength) + (UInt16.ofNat 6).toUInt32 +
      UInt32.ofNat (sizeOfType + sizeOfLength)).toNat = 12 := rfl
    rw [six, UInt32.toNat_add, twelve, UInt32.toNat_ofNat']
    omega
  have word : (UInt32.ofNat data.length).toUInt16 = UInt16.ofNat data.length := by
    simp
  have heads := writes_header protoPserTlvTEpname (lowByte (UInt16.ofNat epname.length))
    (highByte (UInt16.ofNat epname.length)) (writes_then (writes_copy epname)
      (writes_then (writes_write protoPserTlvTData)
        (writes_then (writes_write (lowByte (UInt16.ofNat data.length)))
          (writes_write (highByte (UInt16.ofNat data.length))))))
  have start : At (blank (12 + data.length)) [] (12 + data.length) := at_blank (length ▸ small)
  obtain ⟨head, ran, here⟩ := heads _ [] data.length (by simpa [six] using start)
  obtain ⟨whole, copied, done⟩ := writes_copy data head _ 0 here
  have twelve : head.count = 12 := by
    apply UInt16.toNat_inj.mp
    rw [here.count]
    simp [six]
  have filled : whole.buf = enveloped epname data := by
    rw [done.full]
    simp [enveloped, tlv]
  rw [Slave.composeTlv, Bool.not_true, if_neg Bool.false_ne_true, size, word, ran]
  simp only [Option.bind_eq_bind, Option.bind_some, copied, filled, twelve, UInt32.ofNat_add]
  rfl

theorem Slave.parseTlv_front (type : UInt8) {value : List UInt8} (rest : List UInt8)
    {totalLen : UInt32} (some_left : totalLen ≠ 0) (short : value.length < 65536) :
    Slave.parseTlv (tlv type value ++ rest) totalLen =
      .record
        { type := type
          len := UInt16.ofNat value.length
          ptr := value ++ rest
          buf := rest
          totalLen := totalLen - ((UInt16.ofNat value.length).toUInt32 +
            UInt32.ofNat (sizeOfType + sizeOfLength)) } := by
  unfold Slave.parseTlv
  rw [if_neg some_left]
  simp only [tlv, List.cons_append, List.nil_append, le16_bytes,
    UInt16.toNat_ofNat_of_lt' short, List.drop_left']

/-- The slave takes a record off the front, whatever follows it. -/
theorem Slave.parseTlv_tlv (type : UInt8) {value rest : List UInt8}
    (small : (tlv type value ++ rest).length < 65536) :
    Slave.parseTlv (tlv type value ++ rest) (UInt32.ofNat (tlv type value ++ rest).length) =
      .record
        { type := type
          len := UInt16.ofNat value.length
          ptr := value ++ rest
          buf := rest
          totalLen := UInt32.ofNat rest.length } := by
  have length : (tlv type value ++ rest).length = rest.length + (value.length + 3) := by
    simp only [tlv, List.length_append, List.length_cons, List.length_nil]
    omega
  have short : value.length < 65536 := by omega
  have word : ∀ number : Nat, number < 65536 → (UInt32.ofNat number).toNat = number :=
    fun number inside => UInt32.toNat_ofNat_of_lt' (Nat.lt_trans inside (by decide))
  have some_left : UInt32.ofNat (tlv type value ++ rest).length ≠ 0 := by
    intro zero
    have none := word _ small
    rw [zero, UInt32.toNat_zero] at none
    omega
  have record : (UInt16.ofNat value.length).toUInt32 = UInt32.ofNat value.length := by
    apply UInt32.toNat_inj.mp
    rw [UInt16.toNat_toUInt32, UInt16.toNat_ofNat_of_lt' short, word _ short]
  have left : UInt32.ofNat (tlv type value ++ rest).length -
      ((UInt16.ofNat value.length).toUInt32 + UInt32.ofNat (sizeOfType + sizeOfLength)) =
        UInt32.ofNat rest.length := by
    rw [length, record, UInt32.ofNat_add, UInt32.ofNat_add]
    exact UInt32.add_sub_cancel _ _
  rw [Slave.parseTlv_front type rest some_left short, left]

theorem Slave.parseLoop_ended (parsed : Slave.Parsed) :
    Slave.parseLoop [] 0 parsed = .ended parsed 0 := by
  rw [Slave.parseLoop]
  rfl

/-- The loop behind the `switch` over a record. -/
def Slave.onward (record : Slave.Record) : Slave.Taken → Slave.Looped
  | .overread => .overread
  | .refused => .refused
  | .taken next => Slave.parseLoop record.buf record.totalLen next

theorem Slave.parseLoop_onward {buf : List UInt8} {totalLen : UInt32} {parsed : Slave.Parsed}
    {record : Slave.Record} (parses : Slave.parseTlv buf totalLen = .record record) :
    Slave.parseLoop buf totalLen parsed = Slave.onward record (Slave.takeRecord record parsed) := by
  rw [Slave.parseLoop]
  split
  · rename_i same
    rw [parses] at same
    cases same
  · rename_i same
    rw [parses] at same
    cases same
  · rename_i other same
    rw [parses] at same
    cases same
    cases Slave.takeRecord record parsed <;> rfl

theorem Slave.parseLoop_record {buf : List UInt8} {totalLen : UInt32}
    {parsed next : Slave.Parsed} {record : Slave.Record}
    (parses : Slave.parseTlv buf totalLen = .record record)
    (takes : Slave.takeRecord record parsed = .taken next) :
    Slave.parseLoop buf totalLen parsed = Slave.parseLoop record.buf record.totalLen next := by
  rw [Slave.parseLoop_onward parses, takes, Slave.onward]

/-- The loop goes through both records and ends with nothing left. -/
theorem Slave.parseLoop_enveloped (six : epname.length = 6) (short : data.length ≤ 65523) :
    Slave.parseLoop (enveloped epname data) (UInt32.ofNat (enveloped epname data).length)
        Slave.fresh =
      .ended
        { epname := epname ++ List.replicate 10 0
          data := some data
          dataLen := UInt16.ofNat data.length } 0 := by
  obtain ⟨length, small⟩ := @enveloped_small epname data six short
  have second_length : (tlv protoPserTlvTData data).length = data.length + 3 := by
    simp [tlv]
  have first : Slave.parseTlv (enveloped epname data)
      (UInt32.ofNat (enveloped epname data).length) = _ := Slave.parseTlv_tlv _ small
  have second := @Slave.parseTlv_tlv protoPserTlvTData data []
    (by rw [List.append_nil, second_length]; omega)
  rw [List.append_nil] at second
  have name : Slave.takeRecord
      { type := protoPserTlvTEpname, len := UInt16.ofNat epname.length
        ptr := epname ++ tlv protoPserTlvTData data, buf := tlv protoPserTlvTData data
        totalLen := UInt32.ofNat (tlv protoPserTlvTData data).length } Slave.fresh =
      .taken { epname := epname ++ List.replicate 10 0, data := none, dataLen := 0 } := by
    simp [Slave.takeRecord, six, epnameMax, Slave.fresh, List.take_left', List.replicate]
  rw [Slave.parseLoop_record first name, Slave.parseLoop_record second rfl, List.append_nil]
  exact Slave.parseLoop_ended _

/-- What the host sends reaches `protocomm_req_handle` as it was. -/
theorem Slave.requested_enveloped (some_bytes : 1 ≤ data.length) (short : data.length ≤ 65523) :
    Slave.requested
      { epname := rpcEpNameRsp ++ List.replicate 10 0
        data := some data
        dataLen := UInt16.ofNat data.length } = .request rpcEpNameRsp data := by
  have length : (UInt16.ofNat data.length).toNat = data.length :=
    UInt16.toNat_ofNat_of_lt' (Nat.lt_of_le_of_lt short (by decide))
  have filled : UInt16.ofNat data.length ≠ 0 := by
    intro zero
    rw [zero, UInt16.toNat_zero] at length
    omega
  have name : (rpcEpNameRsp ++ List.replicate 10 0).takeWhile (· ≠ 0) = rpcEpNameRsp := by decide
  have named : ¬ (UInt16.ofNat data.length = 0 ∨ rpcEpNameRsp.length = 0) := by
    simpa [rpcEpNameRsp] using filled
  unfold Slave.requested
  dsimp only
  rw [name, if_neg named, length, if_neg (Nat.lt_irrefl _), List.take_length]

/-- The bytes the host looks at first. -/
theorem take_enveloped (six : epname.length = 6) :
    (enveloped epname data).take Host.initReadLen =
      tlv protoPserTlvTEpname epname ++
        [protoPserTlvTData, lowByte (UInt16.ofNat data.length), highByte (UInt16.ofNat data.length)] ∧
    (enveloped epname data).drop Host.initReadLen = data := by
  have twelve : Host.initReadLen = (tlv protoPserTlvTEpname epname ++ [protoPserTlvTData,
      lowByte (UInt16.ofNat data.length), highByte (UInt16.ofNat data.length)]).length := by
    simp [tlv, six, Host.initReadLen, sizeOfType, sizeOfLength, rpcEpNameRsp]
  have split : enveloped epname data = (tlv protoPserTlvTEpname epname ++ [protoPserTlvTData,
      lowByte (UInt16.ofNat data.length), highByte (UInt16.ofNat data.length)]) ++ data := by
    simp [enveloped, tlv]
  rw [split, twelve]
  exact ⟨List.take_left' rfl, List.drop_left' rfl⟩

theorem Host.parseTlv_front (known : epname = rpcEpNameRsp ∨ epname = rpcEpNameEvt)
    (length : UInt16) :
    Host.parseTlv (tlv protoPserTlvTEpname epname ++
      [protoPserTlvTData, lowByte length, highByte length]) = some length.toUInt32 := by
  rcases known with rfl | rfl
  · simp [Host.parseTlv, tlv, rpcEpNameRsp, sizeOfType, sizeOfLength, le16_bytes]
  · simp [Host.parseTlv, tlv, rpcEpNameRsp, rpcEpNameEvt, sizeOfType, sizeOfLength, le16_bytes]

theorem name_length (known : epname = rpcEpNameRsp ∨ epname = rpcEpNameEvt) :
    epname.length = 6 := by
  rcases known with rfl | rfl <;> rfl

end Records

/-- Nothing stands in the way of a read. -/
def Host.Reader.ready (reader : Host.Reader) : Bool :=
  reader.handle && reader.readSemaphore && reader.fops && reader.calloc 0 && reader.calloc 1

/-- What the slave sends is read as it was, by a reader that can read at all. -/
theorem Host.serialDrvRead_enveloped {epname data : List UInt8}
    (known : epname = rpcEpNameRsp ∨ epname = rpcEpNameEvt) (some_bytes : 1 ≤ data.length)
    (short : data.length ≤ 65523) (reader : Host.Reader) :
    Host.serialDrvRead reader (some (enveloped epname data)) =
      if reader.ready then some data else none := by
  obtain ⟨length, small⟩ := @enveloped_small epname data (name_length known) short
  obtain ⟨front, behind⟩ := @take_enveloped epname data (name_length known)
  have twelve : Host.initReadLen = 12 := rfl
  have total : (UInt16.ofNat (enveloped epname data).length).toNat = 12 + data.length := by
    rw [UInt16.toNat_ofNat_of_lt' small, length]
  have whole : (UInt16.ofNat data.length).toNat = data.length :=
    UInt16.toNat_ofNat_of_lt' (Nat.lt_of_le_of_lt short (by decide))
  have some_total : UInt16.ofNat (enveloped epname data).length ≠ 0 := by
    intro zero
    rw [zero, UInt16.toNat_zero] at total
    omega
  have some_length : (UInt16.ofNat data.length).toUInt32 ≠ 0 := by
    intro zero
    have none := congrArg UInt32.toNat zero
    rw [UInt16.toNat_toUInt32, whole, UInt32.toNat_zero] at none
    omega
  have complete : ¬ (UInt16.ofNat (enveloped epname data).length).toUInt32 <
      UInt32.ofNat Host.initReadLen + (UInt16.ofNat data.length).toUInt32 := by
    rw [UInt32.lt_iff_toNat_lt, UInt32.toNat_add, UInt16.toNat_toUInt32, UInt16.toNat_toUInt32,
      total, whole, twelve]
    simp
    omega
  have long_enough : ¬ 12 + data.length < Host.initReadLen := by omega
  unfold Host.serialDrvRead Host.Reader.ready
  dsimp only
  rw [front, behind, Host.parseTlv_front known, total]
  simp only [if_neg some_total, if_neg some_length, if_neg complete, if_neg long_enough]
  rw [UInt16.toNat_toUInt32, whole, List.take_length]
  cases reader.handle with
  | false => rfl
  | true =>
      cases reader.readSemaphore with
      | false => rfl
      | true =>
          cases reader.fops with
          | false => rfl
          | true => cases reader.calloc 0 <;> cases reader.calloc 1 <;> rfl

/-- Every message of 1 to 65523 bytes comes through in both directions: from the host into the
request of the slave, with the loop at its end, and from the slave to the reader on the host,
which fails only for want of its interface or of memory. -/
theorem serial_tlv_round_trip (data : List UInt8) (some_bytes : 1 ≤ data.length)
    (short : data.length ≤ 65523) :
    (∃ buf, Host.composed data (UInt16.ofNat data.length) = some buf ∧
      Slave.rpcReqHandler buf = .request rpcEpNameRsp data ∧
      ∃ parsed, Slave.parseLoop buf (UInt32.ofNat buf.length) Slave.fresh = .ended parsed 0) ∧
    ∀ epname, epname = rpcEpNameRsp ∨ epname = rpcEpNameEvt →
      ∃ sent, Slave.composeTlv true epname data = some sent ∧
        sent.outlen.toNat = sent.out.length ∧
        ∀ reader : Host.Reader, Host.serialDrvRead reader (some sent.out) =
          if reader.ready then some data else none := by
  constructor
  · have looped := @Slave.parseLoop_enveloped rpcEpNameRsp data rfl short
    refine ⟨enveloped rpcEpNameRsp data, Host.composed_eq short, ?_, _, looped⟩
    rw [Slave.rpcReqHandler, looped]
    exact Slave.requested_enveloped some_bytes short
  · intro epname known
    refine ⟨_, Slave.composeTlv_eq (name_length known) short, ?_,
      Host.serialDrvRead_enveloped known some_bytes short⟩
    rw [(enveloped_small (name_length known) short).1]
    exact UInt32.toNat_ofNat_of_lt' (Nat.lt_of_le_of_lt (Nat.add_le_add_left short 12) (by decide))

theorem serial_tlv_round_trip_three :
    (∃ buf, Host.composed [1, 2, 3] 3 = some buf ∧
      Slave.rpcReqHandler buf = .request rpcEpNameRsp [1, 2, 3]) ∧
    ∃ sent, Slave.composeTlv true rpcEpNameEvt [1, 2, 3] = some sent ∧
      ∀ reader : Host.Reader, Host.serialDrvRead reader (some sent.out) =
        if reader.ready then some [1, 2, 3] else none := by
  obtain ⟨⟨buf, composed, request, _⟩, back⟩ :=
    serial_tlv_round_trip [1, 2, 3] (by decide) (by decide)
  obtain ⟨sent, composed_back, _, read⟩ := back rpcEpNameEvt (Or.inr rfl)
  exact ⟨⟨buf, composed, request⟩, sent, composed_back, read⟩

end EspHosted.SerialTlv

import EspHosted.ApRecords
import EspHosted.RpcResponses

/-!
The records of a scan on their way to `send_ap_record_to_wlan`. Four numbers have to do with
each other: the capacity the caller passes in `*number`, the `number` of the response, the
records in it, and `*number` afterwards, over which the caller loops.
`rpc_wifi_scan_get_ap_records` copies as many records as the response counts into memory for
as many as the caller asked for, and never assigns `*number`.
-/

namespace EspHosted.ScanFetch
open ApRecords
open RpcResponses (success espFail AppResp rpcRspCallback)

def failure : Int := -1

/-- What comes back for the request. -/
inductive Reply where
  | missing
  /-- A response without its payload. -/
  | bare
  | payload (msg : WifiScanGetApRecordsResp)

/-- The parsed response: its status and `wifi_scan_ap_list_t`. -/
structure ScanList where
  status : Int
  number : Int
  outList : Option (List ApRecord)

/-- A response that `rpc_parse_rsp` left at its label, in a `ctrl_cmd_t` of zeros. -/
def untouched : ScanList := { status := success, number := 0, outList := none }

/-- `rpc_parse_rsp`; `none` where it follows what is not there, or where its 16-bit counter
never comes to `number`. -/
def rpcParseScan (calloc : Bool) (msg : WifiScanGetApRecordsResp) : Option ScanList :=
  if msg.resp ≠ 0 then some { untouched with status := msg.resp.toInt }
  else if msg.number = 0 then some untouched
  else if msg.apRecords = [] ∨ !calloc then some { untouched with number := msg.number.toInt }
  else if 65536 ≤ msg.number.toInt then none
  else
    (parseRecords msg.number.toNatClampNeg msg.apRecords).map fun list =>
      { status := success, number := msg.number.toInt, outList := some list }

/-- What `wifi_scan_get_ap_records` returns, NULL without a response. -/
def wifiScanGetApRecords (calloc : Bool) : Reply → Option (Option ScanList)
  | .missing => some none
  | .bare => some (some untouched)
  | .payload msg => (rpcParseScan calloc msg).map some

def rspCallback (list : ScanList) : Int :=
  rpcRspCallback
    { msgId := 545, uid := 0, respEventStatus := list.status, number := list.number,
      outList := list.outList.isSome }

/-- `records` is what `ap_records` holds afterwards, `copied` counts the bytes that
`hosted_memcpy` wrote to it, and `valid` the records of the response among them. -/
structure Fetch where
  ret : Int
  number : UInt16
  records : List ApRecord
  copied : Nat
  valid : Nat

def zeroRecord : ApRecord where
  bssid := Vector.replicate _ 0
  ssid := Vector.replicate _ 0
  primary := 0
  second := 0
  rssi := 0
  authmode := 0
  pairwiseCipher := 0
  groupCipher := 0
  ant := 0
  phy11b := false
  phy11g := false
  phy11n := false
  phyLr := false
  phy11a := false
  phy11ac := false
  phy11ax := false
  wps := false
  ftmResponder := false
  ftmInitiator := false
  reserved := 0
  country := { cc := Vector.replicate _ 0, schan := 0, nchan := 0, maxTxPower := 0, policy := 0 }
  heAp := { bssColor := 0, partialBssColor := false, bssColorDisabled := false, bssidIndex := 0 }
  bandwidth := 0
  vhtChFreq1 := 0
  vhtChFreq2 := 0

def zeroed (capacity : UInt16) : List ApRecord := List.replicate capacity.toNat zeroRecord

/-- Records over zeroed ones; what does not fit is written behind them. -/
def overwrite (capacity : UInt16) (list : List ApRecord) : List ApRecord :=
  list.take capacity.toNat ++ List.replicate (capacity.toNat - list.length) zeroRecord

/-- An `int` times a `size_t`. -/
def sizeT (count : Int) (recordSize : Nat) : Nat := ((count * recordSize) % 4294967296).toNat

/-- `recordSize` is the size of `wifi_ap_record_t`. `none` where the response is not parsed to
its end, or where `hosted_memcpy` stops at a NULL source. -/
def rpcWifiScanGetApRecords (recordSize : Nat) (calloc : Bool) (capacity : UInt16)
    (apRecords : Bool) (reply : Reply) : Option Fetch :=
  if capacity = 0 ∨ !apRecords then
    some { ret := failure, number := capacity, records := [], copied := 0, valid := 0 }
  else
    (wifiScanGetApRecords calloc reply).bind fun resp =>
      match resp with
      | none =>
          some { ret := espFail, number := capacity, records := zeroed capacity, copied := 0,
                 valid := 0 }
      | some list =>
          if list.status ≠ success ∨ list.number = 0 then
            some { ret := rspCallback list, number := capacity, records := zeroed capacity,
                   copied := 0, valid := 0 }
          else
            list.outList.map fun records =>
              { ret := rspCallback list, number := capacity, records := overwrite capacity records,
                copied := sizeT list.number recordSize, valid := records.length }

/-- The records `send_ap_record_to_wlan` reports, after one `rt_calloc` for the number of the
event. -/
def sendApRecordToWlan (fetch : Fetch) : List ApRecord :=
  if fetch.ret = success then fetch.records.take fetch.number.toNat else []

/-- The records of the slave. -/
def Reply.records : Reply → List WifiApRecord
  | .missing | .bare => []
  | .payload msg => msg.apRecords

/-- What the caller may rely on. -/
structure Exact (recordSize : Nat) (capacity : UInt16) (reply : Reply) (fetch : Fetch) : Prop where
  bounded : fetch.copied ≤ capacity.toNat * recordSize
  counted : fetch.ret = success → fetch.number.toNat = fetch.valid
  reported : fetch.ret = success →
    List.Forall₂ (fun got msg => parseRecord msg = some got) (sendApRecordToWlan fetch)
      reply.records

/-- Every part of the record is there. -/
def Whole (msg : WifiApRecord) : Prop := msg.country.isSome = true ∧ msg.heAp.isSome = true

/-- The response fails, or it counts as many records as were asked for, and just these are
there. -/
def Matches (calloc : Bool) (capacity : UInt16) (msg : WifiScanGetApRecordsResp) : Prop :=
  msg.resp ≠ 0 ∨ (calloc = true ∧ msg.number.toInt = capacity.toNat ∧
    msg.apRecords.length = capacity.toNat ∧ ∀ record ∈ msg.apRecords, Whole record)

def Expected (calloc : Bool) (capacity : UInt16) (apRecords : Bool) (reply : Reply) : Prop :=
  capacity = 0 ∨ apRecords = false ∨ reply = .missing ∨
    ∃ msg, reply = .payload msg ∧ Matches calloc capacity msg

section Parsing
variable {number : Nat} {msgs : List WifiApRecord} {list : List ApRecord}

theorem parseRecord_some {msg : WifiApRecord} (whole : Whole msg) :
    ∃ record, parseRecord msg = some record := by
  obtain ⟨country, has_country⟩ := Option.isSome_iff_exists.mp whole.1
  obtain ⟨heAp, has_heAp⟩ := Option.isSome_iff_exists.mp whole.2
  refine ⟨parseFields msg country heAp, ?_⟩
  rw [parseRecord, has_country, has_heAp]

theorem whole_of_parsed {msg : WifiApRecord} {record : ApRecord}
    (parsed : parseRecord msg = some record) : Whole msg := by
  unfold parseRecord at parsed
  split at parsed
  next country heAp has_country has_heAp =>
    rw [Whole, has_country, has_heAp]
    exact ⟨rfl, rfl⟩
  next => cases parsed

theorem whole_of_reported
    (reported : List.Forall₂ (fun got msg => parseRecord msg = some got) list msgs) :
    ∀ msg ∈ msgs, Whole msg := by
  induction reported with
  | nil => exact fun _ member => absurd member List.not_mem_nil
  | cons first _ ih => exact List.forall_mem_cons.mpr ⟨whole_of_parsed first, ih⟩

theorem parseRecords_some (parsed : parseRecords number msgs = some list) :
    list.length = number ∧
      List.Forall₂ (fun got msg => parseRecord msg = some got) list (msgs.take number) := by
  induction number generalizing msgs list with
  | zero =>
      cases parsed
      exact ⟨rfl, List.Forall₂.nil⟩
  | succ number ih =>
      cases msgs with
      | nil => cases parsed
      | cons msg rest =>
          simp only [parseRecords] at parsed
          split at parsed
          next record records first later =>
            cases parsed
            obtain ⟨length, same⟩ := ih later
            exact ⟨congrArg (· + 1) length, List.Forall₂.cons first same⟩
          next => cases parsed

theorem parseRecords_whole (whole : ∀ msg ∈ msgs, Whole msg) :
    ∃ list, parseRecords msgs.length msgs = some list := by
  induction msgs with
  | nil => exact ⟨[], rfl⟩
  | cons msg rest ih =>
      obtain ⟨head, tail⟩ := List.forall_mem_cons.mp whole
      obtain ⟨record, first⟩ := parseRecord_some head
      obtain ⟨records, later⟩ := ih tail
      refine ⟨record :: records, ?_⟩
      simp only [List.length_cons, parseRecords, first, later]

/-- With memory, and a count the loop can reach, the list is the one of `ApRecords`. -/
theorem rpcParseScan_list {msg : WifiScanGetApRecordsResp} (few : msg.number.toInt < 65536) :
    (rpcParseScan true msg).map (fun parsed => parsed.outList.getD []) = parseScanRecords msg := by
  unfold rpcParseScan parseScanRecords
  by_cases failed : msg.resp ≠ 0
  · rw [if_pos failed, if_pos (Or.inl failed)]
    rfl
  by_cases none : msg.number = 0
  · rw [if_neg failed, if_pos none, if_pos (Or.inr (Or.inl none))]
    rfl
  by_cases empty : msg.apRecords = []
  · rw [if_neg failed, if_neg none, if_pos (Or.inl empty), if_pos (Or.inr (Or.inr empty))]
    rfl
  · have there : ¬ (msg.apRecords = [] ∨ (!true) = true) := by
      rintro (wrong | wrong)
      · exact empty wrong
      · cases wrong
    have read : ¬ (msg.resp ≠ 0 ∨ msg.number = 0 ∨ msg.apRecords = []) := by
      rintro (wrong | wrong | wrong)
      · exact failed wrong
      · exact none wrong
      · exact empty wrong
    rw [if_neg failed, if_neg none, if_neg there, if_neg (Int.not_le_of_gt few), if_neg read]
    cases parseRecords msg.number.toNatClampNeg msg.apRecords <;> rfl

end Parsing

section Fetching
variable {recordSize : Nat} {calloc apRecords : Bool} {capacity : UInt16} {reply : Reply}
variable {msg : WifiScanGetApRecordsResp} {list : ScanList}

theorem rspCallback_failed (failed : list.status ≠ success) : rspCallback list = list.status := by
  have inside : ¬ (((545 : UInt16).toNat : Int) ≤ RpcTables.rpcIdRespBase ∨
      RpcTables.rpcIdRespMax ≤ ((545 : UInt16).toNat : Int)) := by decide
  simp only [rspCallback, rpcRspCallback]
  rw [if_neg inside, if_pos failed]

/-- No records is a success, and so are records with a list. -/
theorem rspCallback_success (ok : list.status = success)
    (there : list.number = 0 ∨ list.outList.isSome = true) : rspCallback list = success := by
  have inside : ¬ (((545 : UInt16).toNat : Int) ≤ RpcTables.rpcIdRespBase ∨
      RpcTables.rpcIdRespMax ≤ ((545 : UInt16).toNat : Int)) := by decide
  have kind : RpcResponses.RespKind.ofId (545 : UInt16).toNat = some .wifiScanGetApRecords := by
    decide
  simp only [rspCallback, rpcRspCallback, kind]
  rw [if_neg inside, if_neg (not_not_intro ok)]
  by_cases none : list.number = 0
  · rw [if_pos none]
    exact ok
  · rcases there with wrong | has_list
    · exact absurd wrong none
    · rw [if_neg none, if_pos has_list]
      exact ok

/-- Where nothing is copied and an error is returned, all is well. -/
theorem failed_exact {fetch : Fetch} (nothing : fetch.copied = 0) (failed : fetch.ret ≠ success) :
    Exact recordSize capacity reply fetch where
  bounded := by
    rw [nothing]
    exact Nat.zero_le _
  counted ok := absurd ok failed
  reported ok := absurd ok failed

/-- Success without a record leaves `*number` as it was. -/
theorem empty_inexact {fetch : Fetch} (some_asked : capacity ≠ 0) (ok : fetch.ret = success)
    (kept : fetch.number = capacity) (none : fetch.valid = 0) :
    ¬ Exact recordSize capacity reply fetch := by
  intro exact
  have counted := exact.counted ok
  rw [kept, none] at counted
  exact some_asked (UInt16.toNat_inj.mp counted)

/-- A list of as many records as were asked for is copied and reported as it is. -/
theorem whole_exact {records : List ApRecord} {number : Int} {ret : Int}
    (counted : number = capacity.toNat) (length : records.length = capacity.toNat)
    (parsed : List.Forall₂ (fun got msg => parseRecord msg = some got) records reply.records) :
    Exact recordSize capacity reply
      { ret := ret, number := capacity, records := overwrite capacity records,
        copied := sizeT number recordSize, valid := records.length } where
  bounded := by
    have product : (number * recordSize : Int) = (capacity.toNat * recordSize : Nat) := by
      rw [counted, Nat.cast_mul]
    have copied : sizeT number recordSize ≤ capacity.toNat * recordSize := by
      rw [sizeT, product]
      omega
    exact copied
  counted _ := length.symm
  reported ok := by
    have all : overwrite capacity records = records := by
      rw [overwrite, ← length, List.take_length, Nat.sub_self, List.replicate_zero, List.append_nil]
    simp only [sendApRecordToWlan, all]
    rw [if_pos ok, ← length, List.take_length]
    exact parsed

theorem asked_for (some_asked : capacity ≠ 0) : ¬ (capacity = 0 ∨ (!true) = true) := by
  rintro (wrong | wrong)
  · exact some_asked wrong
  · cases wrong

/-- A successful list that counts records is copied from. -/
theorem copied_from (ok : list.status = success) (counted : list.number ≠ 0) :
    ¬ (list.status ≠ success ∨ list.number = 0) := by
  rintro (wrong | wrong)
  · exact wrong ok
  · exact counted wrong

theorem fetch_stopped (some_asked : capacity ≠ 0)
    (stopped : wifiScanGetApRecords calloc reply = none) :
    rpcWifiScanGetApRecords recordSize calloc capacity true reply = none := by
  rw [rpcWifiScanGetApRecords, if_neg (asked_for some_asked), stopped]
  rfl

theorem fetch_missing (some_asked : capacity ≠ 0) :
    rpcWifiScanGetApRecords recordSize calloc capacity true .missing =
      some { ret := espFail, number := capacity, records := zeroed capacity, copied := 0,
             valid := 0 } := by
  rw [rpcWifiScanGetApRecords, if_neg (asked_for some_asked)]
  rfl

theorem fetch_list (some_asked : capacity ≠ 0)
    (came : wifiScanGetApRecords calloc reply = some (some list)) :
    rpcWifiScanGetApRecords recordSize calloc capacity true reply =
      if list.status ≠ success ∨ list.number = 0 then
        some { ret := rspCallback list, number := capacity, records := zeroed capacity,
               copied := 0, valid := 0 }
      else
        list.outList.map fun records =>
          { ret := rspCallback list, number := capacity, records := overwrite capacity records,
            copied := sizeT list.number recordSize, valid := records.length } := by
  rw [rpcWifiScanGetApRecords, if_neg (asked_for some_asked), came]
  rfl

/-- A parsed response with a list of records. -/
theorem list_exact_iff {records : List ApRecord} (some_asked : capacity ≠ 0)
    (parsed : parseRecords msg.number.toNatClampNeg msg.apRecords = some records) :
    Exact recordSize capacity (.payload msg)
        { ret := success, number := capacity, records := overwrite capacity records,
          copied := sizeT msg.number.toInt recordSize, valid := records.length } ↔
      msg.number.toInt = capacity.toNat ∧ msg.apRecords.length = capacity.toNat ∧
        ∀ record ∈ msg.apRecords, Whole record := by
  obtain ⟨length, same⟩ := parseRecords_some parsed
  have clamp : msg.number.toNatClampNeg = msg.number.toInt.toNat := rfl
  have positive : capacity.toNat ≠ 0 := fun zero => some_asked (UInt16.toNat_inj.mp zero)
  constructor
  · intro exact
    have counted : capacity.toNat = records.length := exact.counted rfl
    have number : msg.number.toInt = capacity.toNat := by omega
    have reported := exact.reported rfl
    have all : overwrite capacity records = records := by
      rw [overwrite, counted, List.take_length, Nat.sub_self, List.replicate_zero, List.append_nil]
    simp only [sendApRecordToWlan, all, if_true] at reported
    rw [counted, List.take_length] at reported
    refine ⟨number, ?_, ?_⟩
    · exact reported.length_eq.symm.trans counted.symm
    · exact whole_of_reported reported
  · rintro ⟨number, enough, _⟩
    apply whole_exact number
    · omega
    · rw [show msg.number.toNatClampNeg = msg.apRecords.length by omega, List.take_length] at same
      exact same

/-- What a reply has to be for the caller to be served exactly. -/
abbrev Served (recordSize : Nat) (calloc : Bool) (capacity : UInt16) (apRecords : Bool)
    (reply : Reply) : Prop :=
  ∃ fetch, rpcWifiScanGetApRecords recordSize calloc capacity apRecords reply = some fetch ∧
    Exact recordSize capacity reply fetch

theorem stopped_unserved (some_asked : capacity ≠ 0)
    (stopped : wifiScanGetApRecords calloc reply = none) :
    ¬ Served recordSize calloc capacity true reply := by
  rintro ⟨fetch, returned, _⟩
  rw [fetch_stopped some_asked stopped] at returned
  cases returned

/-- A list without records serves nobody: it is reported with `*number` as it was. -/
theorem empty_unserved (some_asked : capacity ≠ 0) (ok : list.status = success)
    (none : list.number = 0) (came : wifiScanGetApRecords calloc reply = some (some list)) :
    ¬ Served recordSize calloc capacity true reply := by
  rintro ⟨fetch, returned, exact⟩
  rw [fetch_list some_asked came, if_pos (Or.inr none)] at returned
  cases returned
  exact empty_inexact some_asked (rspCallback_success ok (Or.inl none)) rfl rfl exact

/-- A count without a list stops in `hosted_memcpy`. -/
theorem listless_unserved (some_asked : capacity ≠ 0) (ok : list.status = success)
    (counted : list.number ≠ 0) (listless : list.outList = none)
    (came : wifiScanGetApRecords calloc reply = some (some list)) :
    ¬ Served recordSize calloc capacity true reply := by
  rintro ⟨fetch, returned, _⟩
  rw [fetch_list some_asked came, if_neg (copied_from ok counted), listless] at returned
  cases returned

theorem failed_served (some_asked : capacity ≠ 0) (failed : list.status ≠ success)
    (came : wifiScanGetApRecords calloc reply = some (some list)) :
    Served recordSize calloc capacity true reply := by
  refine ⟨_, (fetch_list some_asked came).trans (if_pos (Or.inl failed)), ?_⟩
  apply failed_exact rfl
  rw [rspCallback_failed failed]
  exact failed

end Fetching

section Served
variable {recordSize : Nat} {calloc : Bool} {capacity : UInt16} {msg : WifiScanGetApRecordsResp}

theorem resp_ne {resp : Int32} (failed : resp ≠ 0) : resp.toInt ≠ success :=
  fun zero => failed (Int32.toInt_inj.mp zero)

theorem number_ne {number : Int32} (found : number ≠ 0) : number.toInt ≠ 0 :=
  fun zero => found (Int32.toInt_inj.mp zero)

/-- A response with status 0 that counts records. -/
theorem counted_served (some_asked : capacity ≠ 0) (ok : ¬ msg.resp ≠ 0)
    (found : msg.number ≠ 0) :
    Served recordSize calloc capacity true (.payload msg) ↔
      calloc = true ∧ msg.number.toInt = capacity.toNat ∧
        msg.apRecords.length = capacity.toNat ∧ ∀ record ∈ msg.apRecords, Whole record := by
  have positive : capacity.toNat ≠ 0 := fun zero => some_asked (UInt16.toNat_inj.mp zero)
  by_cases listless : msg.apRecords = [] ∨ (!calloc) = true
  · have came : wifiScanGetApRecords calloc (.payload msg) =
        some (some { untouched with number := msg.number.toInt }) := by
      simp only [wifiScanGetApRecords, rpcParseScan]
      rw [if_neg ok, if_neg found, if_pos listless]
      rfl
    refine iff_of_false (listless_unserved some_asked rfl (number_ne found) rfl came) ?_
    rintro ⟨memory, _, length, _⟩
    rcases listless with empty | refused
    · rw [empty] at length
      exact positive length.symm
    · rw [memory] at refused
      cases refused
  have memory : calloc = true := by
    cases calloc
    · exact absurd (Or.inr rfl) listless
    · rfl
  by_cases many : 65536 ≤ msg.number.toInt
  · have stopped : wifiScanGetApRecords calloc (.payload msg) = none := by
      simp only [wifiScanGetApRecords, rpcParseScan]
      rw [if_neg ok, if_neg found, if_neg listless, if_pos many]
      rfl
    refine iff_of_false (stopped_unserved some_asked stopped) ?_
    rintro ⟨_, number, _⟩
    have small := capacity.toNat_lt
    omega
  have parse : wifiScanGetApRecords calloc (.payload msg) =
      ((parseRecords msg.number.toNatClampNeg msg.apRecords).map fun list =>
        { status := success, number := msg.number.toInt, outList := some list }).map some := by
    simp only [wifiScanGetApRecords, rpcParseScan]
    rw [if_neg ok, if_neg found, if_neg listless, if_neg many]
  cases parsed : parseRecords msg.number.toNatClampNeg msg.apRecords with
  | none =>
      rw [parsed] at parse
      refine iff_of_false (stopped_unserved some_asked parse) ?_
      rintro ⟨_, number, length, whole⟩
      obtain ⟨list, complete⟩ := parseRecords_whole whole
      have clamp : msg.number.toNatClampNeg = msg.number.toInt.toNat := rfl
      rw [show msg.number.toNatClampNeg = msg.apRecords.length by omega, complete] at parsed
      cases parsed
  | some records =>
      rw [parsed] at parse
      have returned := (@fetch_list recordSize _ _ _ _ some_asked parse).trans
        (if_neg (copied_from rfl (number_ne found)))
      have found_iff := @list_exact_iff recordSize _ _ _ some_asked parsed
      rw [rspCallback_success rfl (Or.inr rfl)] at returned
      constructor
      · rintro ⟨fetch, came, exact⟩
        rw [returned] at came
        cases came
        exact ⟨memory, found_iff.mp exact⟩
      · rintro ⟨_, same⟩
        exact ⟨_, returned, found_iff.mpr same⟩

/-- A response that came. -/
theorem payload_served (some_asked : capacity ≠ 0) :
    Served recordSize calloc capacity true (.payload msg) ↔ Matches calloc capacity msg := by
  by_cases failed : msg.resp ≠ 0
  · have came : wifiScanGetApRecords calloc (.payload msg) =
        some (some { untouched with status := msg.resp.toInt }) := by
      simp only [wifiScanGetApRecords, rpcParseScan]
      rw [if_pos failed]
      rfl
    exact iff_of_true (failed_served some_asked (resp_ne failed) came) (Or.inl failed)
  by_cases none : msg.number = 0
  · have came : wifiScanGetApRecords calloc (.payload msg) = some (some untouched) := by
      simp only [wifiScanGetApRecords, rpcParseScan]
      rw [if_neg failed, if_pos none]
      rfl
    refine iff_of_false (empty_unserved some_asked rfl rfl came) ?_
    rintro (wrong | ⟨_, number, _⟩)
    · exact failed wrong
    · rw [none] at number
      exact some_asked (UInt16.toNat_inj.mp (Int.ofNat.inj number.symm))
  · rw [counted_served some_asked failed none]
    exact ⟨Or.inr, fun right => right.resolve_left failed⟩

end Served

/-- The caller gets what it may rely on just when nothing was asked for, the exchange failed, or
the slave answers with as many whole records as were asked for. -/
theorem scan_fetch_iff (recordSize : Nat) (calloc : Bool) (capacity : UInt16) (apRecords : Bool)
    (reply : Reply) :
    (∃ fetch, rpcWifiScanGetApRecords recordSize calloc capacity apRecords reply = some fetch ∧
      Exact recordSize capacity reply fetch) ↔
    Expected calloc capacity apRecords reply := by
  have error : failure ≠ success := by decide
  have missing_error : espFail ≠ success := by decide
  by_cases nothing : capacity = 0
  · refine iff_of_true ⟨_, if_pos (Or.inl nothing), failed_exact rfl error⟩ (Or.inl nothing)
  cases apRecords with
  | false =>
      refine iff_of_true ⟨_, if_pos (Or.inr rfl), failed_exact rfl error⟩ ?_
      exact Or.inr (Or.inl rfl)
  | true =>
      cases reply with
      | missing =>
          refine iff_of_true ⟨_, fetch_missing nothing, failed_exact rfl missing_error⟩ ?_
          exact Or.inr (Or.inr (Or.inl rfl))
      | bare =>
          refine iff_of_false (empty_unserved nothing rfl rfl rfl) ?_
          rintro (wrong | wrong | wrong | ⟨msg, wrong, _⟩)
          · exact nothing wrong
          · cases wrong
          · cases wrong
          · cases wrong
      | payload msg =>
          refine (payload_served nothing).trans ⟨fun right => ?_, ?_⟩
          · exact Or.inr (Or.inr (Or.inr ⟨msg, rfl, right⟩))
          · rintro (wrong | wrong | wrong | ⟨_, same, right⟩)
            · exact absurd wrong nothing
            · cases wrong
            · cases wrong
            · cases same
              exact right

/-- The slave answers so when its driver finds as many records as were asked for. -/
theorem slave_matches (driver : ScanDriver) {capacity : UInt16} (some_asked : capacity ≠ 0) :
    Matches true capacity (reqWifiScanGetApRecords driver capacity) ↔
      driver.espWifiScanGetApNum.1 = 0 ∧ driver.espWifiScanGetApNum.2 ≠ 0 ∧
        (driver.espWifiScanGetApRecords capacity).1 = 0 ∧
        (driver.espWifiScanGetApRecords capacity).2.length = capacity.toNat := by
  have positive : capacity.toNat ≠ 0 := fun zero => some_asked (UInt16.toNat_inj.mp zero)
  have nothing_found : ¬ Matches true capacity noRecords := by
    rintro (wrong | ⟨_, _, length, _⟩)
    · exact wrong rfl
    · exact positive length.symm
  unfold reqWifiScanGetApRecords
  by_cases no_number : driver.espWifiScanGetApNum.1 ≠ 0 ∨ driver.espWifiScanGetApNum.2 = 0
  · rw [if_pos no_number]
    refine iff_of_false nothing_found ?_
    rintro ⟨ok, found, _⟩
    exact no_number.elim (fun failed => failed ok) found
  by_cases failed : (driver.espWifiScanGetApRecords capacity).1 ≠ 0
  · rw [if_neg no_number, if_pos failed]
    exact iff_of_false nothing_found fun right => failed right.2.2.1
  rw [if_neg no_number, if_neg failed]
  obtain ⟨ok, found⟩ := not_or.mp no_number
  have few := driver.bounded capacity
  have small := capacity.toNat_lt
  constructor
  · rintro (wrong | ⟨_, _, length, _⟩)
    · exact absurd rfl wrong
    · rw [List.length_map] at length
      exact ⟨not_not.mp ok, found, not_not.mp failed, length⟩
  · rintro ⟨_, _, _, length⟩
    refine Or.inr ⟨rfl, ?_, ?_, ?_⟩
    · rw [Int32.toInt_ofNat_of_lt (by omega), length]
    · rw [List.length_map, length]
    · intro record member
      obtain ⟨found, _, rfl⟩ := List.mem_map.mp member
      exact ⟨rfl, rfl⟩

/-- Two records asked for, none found. -/
theorem scan_fetch_fails :
    ¬ ∀ (recordSize : Nat) (calloc : Bool) (capacity : UInt16) (apRecords : Bool) (reply : Reply),
      ∃ fetch, rpcWifiScanGetApRecords recordSize calloc capacity apRecords reply = some fetch ∧
        Exact recordSize capacity reply fetch := by
  intro always
  have some_asked : (2 : UInt16) ≠ 0 := by decide
  exact empty_unserved some_asked rfl rfl rfl
    (always 80 true 2 true (.payload { resp := 0, number := 0, apRecords := [] }))

end EspHosted.ScanFetch

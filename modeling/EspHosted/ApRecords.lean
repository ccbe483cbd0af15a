import EspHosted.ConfigReadback
import Mathlib.Data.List.Forall2
import Mathlib.Data.List.TakeDrop

/-!
`WifiScanGetApRecords`: `req_wifi_scan_get_ap_records` encodes the records the slave's driver
found, one message each with a country and an HE part inside, and `rpc_parse_rsp` builds the
host's list from them. `compute_max_rate_from_ap_record` of the WLAN driver reads the result.
Every allocation succeeds, and packing and unpacking of the message lose nothing.
-/

namespace EspHosted.ApRecords
open BitWords StationConfig ConfigReadback

def recSsidSize : Nat := 33

def recPhy11bBit : Nat := 0
def recPhy11gBit : Nat := 1
def recPhy11nBit : Nat := 2
def recPhyLrBit : Nat := 3
def recPhy11axBit : Nat := 4
def recWpsBit : Nat := 5
def recFtmResponderBit : Nat := 6
def recFtmInitiatorBit : Nat := 7
def recMaxUsedBit : Nat := 8
def scanApReservedBitmask : BitVec 32 := 0xFF00

def partialBssColorBit : Nat := 6
def bssColorDisabledBit : Nat := 7
def bssColorBits : BitVec 32 := 0x3F

/-- `wifi_country_t`. -/
structure Country where
  cc : Vector UInt8 3
  schan : UInt8
  nchan : UInt8
  maxTxPower : Int8
  policy : Int32
  deriving DecidableEq

/-- `wifi_he_ap_info_t`. -/
structure HeApInfo where
  bssColor : BitVec 6
  partialBssColor : Bool
  bssColorDisabled : Bool
  bssidIndex : UInt8
  deriving DecidableEq

/-- `wifi_ap_record_t`. An enumeration is its 32-bit value. -/
structure ApRecord where
  bssid : Vector UInt8 bssidBytesSize
  ssid : Vector UInt8 recSsidSize
  primary : UInt8
  second : Int32
  rssi : Int8
  authmode : Int32
  pairwiseCipher : Int32
  groupCipher : Int32
  ant : Int32
  phy11b : Bool
  phy11g : Bool
  phy11n : Bool
  phyLr : Bool
  phy11a : Bool
  phy11ac : Bool
  phy11ax : Bool
  wps : Bool
  ftmResponder : Bool
  ftmInitiator : Bool
  reserved : BitVec 22
  country : Country
  heAp : HeApInfo
  bandwidth : Int32
  vhtChFreq1 : UInt8
  vhtChFreq2 : UInt8
  deriving DecidableEq

structure WifiCountry where
  cc : List UInt8
  schan : UInt32
  nchan : UInt32
  maxTxPower : Int32
  policy : Int32

structure WifiHeApInfo where
  bitmask : BitVec 32
  bssidIndex : UInt32

/-- The protobuf message of one record. -/
structure WifiApRecord where
  bssid : List UInt8
  ssid : List UInt8
  primary : UInt32
  second : Int32
  rssi : Int32
  authmode : Int32
  pairwiseCipher : Int32
  groupCipher : Int32
  ant : Int32
  bitmask : BitVec 32
  country : Option WifiCountry
  heAp : Option WifiHeApInfo
  bandwidth : UInt32
  vhtChFreq1 : UInt32
  vhtChFreq2 : UInt32

structure WifiScanGetApRecordsResp where
  resp : Int32
  number : Int32
  apRecords : List WifiApRecord

/-- The Wi-Fi driver of the slave: return value and count of `esp_wifi_scan_get_ap_num`,
return value and records of `esp_wifi_scan_get_ap_records`, which writes at most as many as
it is asked for. -/
structure ScanDriver where
  espWifiScanGetApNum : Int32 × UInt16
  espWifiScanGetApRecords : UInt16 → Int32 × List ApRecord
  bounded : ∀ number, (espWifiScanGetApRecords number).2.length ≤ number.toNat

def apBitmask (record : ApRecord) : BitVec 32 :=
  let bitmask := setBitIf record.phy11b recPhy11bBit 0#32
  let bitmask := setBitIf record.phy11g recPhy11gBit bitmask
  let bitmask := setBitIf record.phy11n recPhy11nBit bitmask
  let bitmask := setBitIf record.phyLr recPhyLrBit bitmask
  let bitmask := setBitIf record.phy11ax recPhy11axBit bitmask
  let bitmask := setBitIf record.wps recWpsBit bitmask
  let bitmask := setBitIf record.ftmResponder recFtmResponderBit bitmask
  let bitmask := setBitIf record.ftmInitiator recFtmInitiatorBit bitmask
  setField record.reserved recMaxUsedBit bitmask

def heBitmask (heAp : HeApInfo) : BitVec 32 :=
  let bitmask := heAp.bssColor.setWidth 32 &&& bssColorBits
  let bitmask := setBitIf heAp.partialBssColor partialBssColorBit bitmask
  setBitIf heAp.bssColorDisabled bssColorDisabledBit bitmask

def encodeCountry (country : Country) : WifiCountry where
  cc := country.cc.toList
  schan := country.schan.toUInt32
  nchan := country.nchan.toUInt32
  maxTxPower := country.maxTxPower.toInt32
  policy := country.policy

def encodeHeAp (heAp : HeApInfo) : WifiHeApInfo where
  bitmask := heBitmask heAp
  bssidIndex := heAp.bssidIndex.toUInt32

/-- One round of the loop of `req_wifi_scan_get_ap_records`. -/
def encodeRecord (record : ApRecord) : WifiApRecord where
  bssid := record.bssid.toList
  ssid := respCopyStr record.ssid.toList ssidLength
  primary := record.primary.toUInt32
  second := record.second
  rssi := record.rssi.toInt32
  authmode := record.authmode
  pairwiseCipher := record.pairwiseCipher
  groupCipher := record.groupCipher
  ant := record.ant
  bitmask := apBitmask record
  country := some (encodeCountry record.country)
  heAp := some (encodeHeAp record.heAp)
  bandwidth := record.bandwidth.toUInt32
  vhtChFreq1 := record.vhtChFreq1.toUInt32
  vhtChFreq2 := record.vhtChFreq2.toUInt32

def noRecords : WifiScanGetApRecordsResp := { resp := 0, number := 0, apRecords := [] }

/-- A driver call that fails leaves the response empty but successful. -/
def reqWifiScanGetApRecords (driver : ScanDriver) (number : UInt16) : WifiScanGetApRecordsResp :=
  if driver.espWifiScanGetApNum.1 ≠ 0 ∨ driver.espWifiScanGetApNum.2 = 0 then noRecords
  else if (driver.espWifiScanGetApRecords number).1 ≠ 0 then noRecords
  else
    { resp := 0
      number := .ofNat (driver.espWifiScanGetApRecords number).2.length
      apRecords := (driver.espWifiScanGetApRecords number).2.map encodeRecord }

/-- One round of the loop of `rpc_parse_rsp`, over an element of zeros: `phy_11a`, `phy_11ac`
and `bssid_index` are not assigned. -/
def parseFields (msg : WifiApRecord) (country : WifiCountry) (heAp : WifiHeApInfo) : ApRecord where
  bssid := rspCopyBytes bssidBytesSize msg.bssid
  ssid := rspCopyBytes recSsidSize msg.ssid
  primary := msg.primary.toUInt8
  second := msg.second
  rssi := msg.rssi.toInt8
  authmode := msg.authmode
  pairwiseCipher := msg.pairwiseCipher
  groupCipher := msg.groupCipher
  ant := msg.ant
  phy11b := getBit recPhy11bBit msg.bitmask
  phy11g := getBit recPhy11gBit msg.bitmask
  phy11n := getBit recPhy11nBit msg.bitmask
  phyLr := getBit recPhyLrBit msg.bitmask
  phy11a := false
  phy11ac := false
  phy11ax := getBit recPhy11axBit msg.bitmask
  wps := getBit recWpsBit msg.bitmask
  ftmResponder := getBit recFtmResponderBit msg.bitmask
  ftmInitiator := getBit recFtmInitiatorBit msg.bitmask
  reserved := getField 22 scanApReservedBitmask recMaxUsedBit msg.bitmask
  country :=
    { cc := rspCopyBytes 3 country.cc
      schan := country.schan.toUInt8
      nchan := country.nchan.toUInt8
      maxTxPower := country.maxTxPower.toInt8
      policy := country.policy }
  heAp :=
    { bssColor := (heAp.bitmask &&& 0x3F#32).setWidth 6
      partialBssColor := getBit partialBssColorBit heAp.bitmask
      bssColorDisabled := getBit bssColorDisabledBit heAp.bitmask
      bssidIndex := 0 }
  bandwidth := msg.bandwidth.toInt32
  vhtChFreq1 := msg.vhtChFreq1.toUInt8
  vhtChFreq2 := msg.vhtChFreq2.toUInt8

/-- `none` where a missing part is followed. -/
def parseRecord (msg : WifiApRecord) : Option ApRecord :=
  match msg.country, msg.heAp with
  | some country, some heAp => some (parseFields msg country heAp)
  | _, _ => none

/-- The loop over `p_c_list`, `number` rounds. -/
def parseRecords : Nat → List WifiApRecord → Option (List ApRecord)
  | 0, _ => some []
  | _ + 1, [] => none
  | number + 1, msg :: rest =>
      match parseRecord msg, parseRecords number rest with
      | some record, some records => some (record :: records)
      | _, _ => none

/-- `rpc_parse_rsp` for `RPC_ID__Resp_WifiScanGetApRecords`: the list behind `out_list`, empty
when none is built. -/
def parseScanRecords (msg : WifiScanGetApRecordsResp) : Option (List ApRecord) :=
  if msg.resp ≠ 0 ∨ msg.number = 0 ∨ msg.apRecords = [] then some []
  else parseRecords msg.number.toNatClampNeg msg.apRecords

def wifiProtocol11b : UInt8 := 0x1
def wifiProtocol11g : UInt8 := 0x2
def wifiProtocol11n : UInt8 := 0x4
def wifiProtocolLr : UInt8 := 0x8
def wifiProtocol11a : UInt8 := 0x10
def wifiProtocol11ac : UInt8 := 0x20
def wifiProtocol11ax : UInt8 := 0x40

/-- `compute_max_rate`, in Kbps. -/
def computeMaxRate (protocolBitMap : UInt8) (bandwidth : Int32) : Nat :=
  if protocolBitMap &&& (wifiProtocol11ac ||| wifiProtocol11ax ||| wifiProtocol11n) ≠ 0 then
    if protocolBitMap &&& wifiProtocol11ax ≠ 0 then
      match bandwidth.toInt with
      | 1 => 143400
      | 2 => 286800
      | 3 => 600500
      | 4 => 1201800
      | 5 => 1201800
      | _ => 0
    else if protocolBitMap &&& wifiProtocol11ac ≠ 0 then
      match bandwidth.toInt with
      | 1 => 86700
      | 2 => 200000
      | 3 => 433300
      | 4 => 866000
      | 5 => 866000
      | _ => 0
    else
      match bandwidth.toInt with
      | 1 => 72200
      | 2 => 150000
      | _ => 0
  else if protocolBitMap &&& (wifiProtocol11a ||| wifiProtocol11g) ≠ 0 then 54000
  else if protocolBitMap &&& wifiProtocol11b ≠ 0 then 11000
  else if protocolBitMap &&& wifiProtocolLr ≠ 0 then 2000
  else 0

def computeMaxRateFromApRecord (apInfo : ApRecord) : Nat :=
  let protocolBitMap := (if apInfo.phy11b then wifiProtocol11b else 0) |||
    (if apInfo.phy11g then wifiProtocol11g else 0) |||
    (if apInfo.phy11n then wifiProtocol11n else 0) |||
    (if apInfo.phyLr then wifiProtocolLr else 0) |||
    (if apInfo.phy11a then wifiProtocol11a else 0) |||
    (if apInfo.phy11ac then wifiProtocol11ac else 0) |||
    (if apInfo.phy11ax then wifiProtocol11ax else 0)
  computeMaxRate protocolBitMap apInfo.bandwidth

/-- The records the driver returns: none when one of its calls fails or it counts none. -/
def ScanDriver.returned (driver : ScanDriver) (number : UInt16) : List ApRecord :=
  if driver.espWifiScanGetApNum.1 ≠ 0 ∨ driver.espWifiScanGetApNum.2 = 0 then []
  else if (driver.espWifiScanGetApRecords number).1 ≠ 0 then []
  else (driver.espWifiScanGetApRecords number).2

/-- Equal in every field, the SSID as a string. -/
structure SameRecord (got found : ApRecord) : Prop where
  bssid : got.bssid = found.bssid
  ssid : text got.ssid = text found.ssid
  primary : got.primary = found.primary
  second : got.second = found.second
  rssi : got.rssi = found.rssi
  authmode : got.authmode = found.authmode
  pairwiseCipher : got.pairwiseCipher = found.pairwiseCipher
  groupCipher : got.groupCipher = found.groupCipher
  ant : got.ant = found.ant
  phy11b : got.phy11b = found.phy11b
  phy11g : got.phy11g = found.phy11g
  phy11n : got.phy11n = found.phy11n
  phyLr : got.phyLr = found.phyLr
  phy11a : got.phy11a = found.phy11a
  phy11ac : got.phy11ac = found.phy11ac
  phy11ax : got.phy11ax = found.phy11ax
  wps : got.wps = found.wps
  ftmResponder : got.ftmResponder = found.ftmResponder
  ftmInitiator : got.ftmInitiator = found.ftmInitiator
  reserved : got.reserved = found.reserved
  country : got.country = found.country
  heAp : got.heAp = found.heAp
  bandwidth : got.bandwidth = found.bandwidth
  vhtChFreq1 : got.vhtChFreq1 = found.vhtChFreq1
  vhtChFreq2 : got.vhtChFreq2 = found.vhtChFreq2

/-- The record uses none of what a message leaves out. -/
structure Covered (record : ApRecord) : Prop where
  ssid : (text record.ssid).length ≤ ssidLength
  phy11a : record.phy11a = false
  phy11ac : record.phy11ac = false
  reserved : record.reserved.toNat < 2 ^ 8
  bssidIndex : record.heAp.bssidIndex = 0

/-- The host's list is the driver's, record by record. -/
def Carried (host : Option (List ApRecord)) (found : List ApRecord) : Prop :=
  ∃ list, host = some list ∧ List.Forall₂ SameRecord list found

def readRecord (record : ApRecord) : ApRecord :=
  parseFields (encodeRecord record) (encodeCountry record.country) (encodeHeAp record.heAp)

theorem parseRecords_encoded (found : List ApRecord) :
    parseRecords found.length (found.map encodeRecord) = some (found.map readRecord) := by
  induction found with
  | nil => rfl
  | cons record rest ih =>
      have first : parseRecord (encodeRecord record) = some (readRecord record) := rfl
      simp only [List.length_cons, List.map_cons, parseRecords, first, ih]

/-- The host's list has a record for each the driver returns, in the same order. -/
theorem host_list (driver : ScanDriver) (number : UInt16) :
    parseScanRecords (reqWifiScanGetApRecords driver number) =
      some ((driver.returned number).map readRecord) := by
  rw [reqWifiScanGetApRecords, ScanDriver.returned]
  by_cases failed : driver.espWifiScanGetApNum.1 ≠ 0 ∨ driver.espWifiScanGetApNum.2 = 0
  · rw [if_pos failed, if_pos failed]
    rfl
  · rw [if_neg failed, if_neg failed]
    by_cases unread : (driver.espWifiScanGetApRecords number).1 ≠ 0
    · rw [if_pos unread, if_pos unread]
      rfl
    · rw [if_neg unread, if_neg unread]
      have few : (driver.espWifiScanGetApRecords number).2.length < 2 ^ 31 :=
        Nat.lt_of_le_of_lt (driver.bounded number) (Nat.lt_trans number.toNat_lt (by decide))
      generalize (driver.espWifiScanGetApRecords number).2 = found at few
      cases found with
      | nil => rfl
      | cons record rest =>
          have count := Int32.toNatClampNeg_ofNat_of_lt few
          have some_found : Int32.ofNat (record :: rest).length ≠ 0 := by
            intro none
            rw [none] at count
            cases count
          have asked : ¬ ((0 : Int32) ≠ 0 ∨ Int32.ofNat (record :: rest).length = 0 ∨
              (record :: rest).map encodeRecord = []) := by
            rintro (refused | none | unsent)
            · exact refused rfl
            · exact some_found none
            · cases unsent
          rw [parseScanRecords]
          simp only [if_neg asked, count]
          exact parseRecords_encoded (record :: rest)

theorem apBitmask_feature (record : ApRecord) {pos : Nat} (low : pos < recMaxUsedBit) :
    getBit pos (apBitmask record) =
      (record.phy11b && decide (pos = 0) || record.phy11g && decide (pos = 1) ||
        record.phy11n && decide (pos = 2) || record.phyLr && decide (pos = 3) ||
        record.phy11ax && decide (pos = 4) || record.wps && decide (pos = 5) ||
        record.ftmResponder && decide (pos = 6) || record.ftmInitiator && decide (pos = 7)) := by
  have inside : pos < 32 := Nat.lt_trans low (by decide)
  have below : ¬ recMaxUsedBit ≤ pos := by omega
  simp [getBit_eq inside, apBitmask, setField_bit inside, setBitIf_bit inside, below,
    recPhy11bBit, recPhy11gBit, recPhy11nBit, recPhyLrBit, recPhy11axBit, recWpsBit,
    recFtmResponderBit, recFtmInitiatorBit]

theorem apBitmask_reserved (record : ApRecord) {index : Nat} (inside : recMaxUsedBit + index < 32) :
    (apBitmask record).getLsbD (recMaxUsedBit + index) = record.reserved.getLsbD index := by
  have beyond : ∀ pos < recMaxUsedBit, recMaxUsedBit + index ≠ pos := by omega
  simp [apBitmask, setField_bit inside, setBitIf_bit inside,
    beyond recPhy11bBit (by decide), beyond recPhy11gBit (by decide),
    beyond recPhy11nBit (by decide), beyond recPhyLrBit (by decide),
    beyond recPhy11axBit (by decide), beyond recWpsBit (by decide),
    beyond recFtmResponderBit (by decide), beyond recFtmInitiatorBit (by decide)]

theorem scanApReserved_mask : ∀ index < 22,
    scanApReservedBitmask.getLsbD (recMaxUsedBit + index) = decide (index < 8) := by decide

theorem readRecord_features (record : ApRecord) :
    (readRecord record).phy11b = record.phy11b ∧ (readRecord record).phy11g = record.phy11g ∧
      (readRecord record).phy11n = record.phy11n ∧ (readRecord record).phyLr = record.phyLr ∧
      (readRecord record).phy11ax = record.phy11ax ∧ (readRecord record).wps = record.wps ∧
      (readRecord record).ftmResponder = record.ftmResponder ∧
      (readRecord record).ftmInitiator = record.ftmInitiator := by
  have read := fun pos (low : pos < recMaxUsedBit) => apBitmask_feature record low
  refine ⟨(read 0 (by decide)).trans ?_, (read 1 (by decide)).trans ?_,
    (read 2 (by decide)).trans ?_, (read 3 (by decide)).trans ?_, (read 4 (by decide)).trans ?_,
    (read 5 (by decide)).trans ?_, (read 6 (by decide)).trans ?_, (read 7 (by decide)).trans ?_⟩
  all_goals simp

theorem readRecord_reserved_iff (record : ApRecord) :
    (readRecord record).reserved = record.reserved ↔ record.reserved.toNat < 2 ^ 8 := by
  have parsed : (readRecord record).reserved =
      getField 22 scanApReservedBitmask recMaxUsedBit (apBitmask record) := rfl
  rw [parsed]
  apply getField_eq_iff
  · intro index inside
    have here : recMaxUsedBit + index < 32 := by simp only [recMaxUsedBit]; omega
    exact apBitmask_reserved record here
  · exact scanApReserved_mask

theorem heBitmask_bit (heAp : HeApInfo) {pos : Nat} (inside : pos < 32) :
    (heBitmask heAp).getLsbD pos =
      (heAp.bssColor.getLsbD pos && bssColorBits.getLsbD pos ||
        heAp.partialBssColor && decide (pos = 6) ||
        heAp.bssColorDisabled && decide (pos = 7)) := by
  rw [heBitmask, setBitIf_bit inside, setBitIf_bit inside, BitVec.getLsbD_and,
    BitVec.getLsbD_setWidth, partialBssColorBit, bssColorDisabledBit]
  simp only [inside, decide_true, Bool.true_and]

theorem bssColor_mask : ∀ index < 6, bssColorBits.getLsbD index = true := by decide

theorem readRecord_bssColor (record : ApRecord) :
    (readRecord record).heAp.bssColor = record.heAp.bssColor := by
  apply BitVec.eq_of_getLsbD_eq
  intro index inside
  have here : index < 32 := Nat.lt_trans inside (by decide)
  have below : index ≠ 6 ∧ index ≠ 7 := by omega
  have parsed : (readRecord record).heAp.bssColor.getLsbD index =
      ((heBitmask record.heAp &&& bssColorBits).setWidth 6).getLsbD index := rfl
  rw [parsed, BitVec.getLsbD_setWidth, BitVec.getLsbD_and, heBitmask_bit record.heAp here,
    bssColor_mask index inside]
  simp [inside, below]

theorem readRecord_heFlags (record : ApRecord) :
    (readRecord record).heAp.partialBssColor = record.heAp.partialBssColor ∧
      (readRecord record).heAp.bssColorDisabled = record.heAp.bssColorDisabled := by
  have read := fun pos (inside : pos < 32) =>
    (getBit_eq inside).trans (heBitmask_bit record.heAp inside)
  refine ⟨(read 6 (by decide)).trans ?_, (read 7 (by decide)).trans ?_⟩
  all_goals simp

/-- The HE part comes back whole when its BSSID index is the one nobody reads. -/
theorem readRecord_heAp_iff (record : ApRecord) :
    (readRecord record).heAp = record.heAp ↔ record.heAp.bssidIndex = 0 := by
  constructor
  · intro same
    rw [← same]
    rfl
  · intro zero
    obtain ⟨partialColor, disabled⟩ := readRecord_heFlags record
    have color := readRecord_bssColor record
    have index : (readRecord record).heAp.bssidIndex = record.heAp.bssidIndex := zero.symm
    cases parts : (readRecord record).heAp
    cases found : record.heAp
    simp_all

theorem readRecord_country (record : ApRecord) : (readRecord record).country = record.country := by
  have code : rspCopyBytes 3 record.country.cc.toList = record.country.cc := by
    rw [rspCopyBytes_eq, copyIn_whole]
  simp [readRecord, parseFields, encodeCountry, code]

theorem readRecord_ssid_iff (record : ApRecord) :
    text (readRecord record).ssid = text record.ssid ↔ (text record.ssid).length ≤ ssidLength := by
  have parsed : text (readRecord record).ssid = (text record.ssid).take ssidLength :=
    text_parsed record.ssid.toList (by decide)
  rw [parsed, List.take_eq_self_iff]

theorem readRecord_bssid (record : ApRecord) : (readRecord record).bssid = record.bssid := by
  have sent : (readRecord record).bssid = rspCopyBytes bssidBytesSize record.bssid.toList := rfl
  rw [sent, rspCopyBytes_eq, copyIn_whole]

theorem readRecord_copies (record : ApRecord) :
    (readRecord record).second = record.second ∧ (readRecord record).authmode = record.authmode ∧
      (readRecord record).pairwiseCipher = record.pairwiseCipher ∧
      (readRecord record).groupCipher = record.groupCipher ∧
      (readRecord record).ant = record.ant := by
  simp only [readRecord, parseFields, encodeRecord, and_self]

theorem readRecord_numbers (record : ApRecord) :
    (readRecord record).primary = record.primary ∧ (readRecord record).rssi = record.rssi ∧
      (readRecord record).bandwidth = record.bandwidth ∧
      (readRecord record).vhtChFreq1 = record.vhtChFreq1 ∧
      (readRecord record).vhtChFreq2 = record.vhtChFreq2 := by
  simp [readRecord, parseFields, encodeRecord]

theorem readRecord_same_iff (record : ApRecord) :
    SameRecord (readRecord record) record ↔ Covered record := by
  constructor
  · intro same
    exact
      { ssid := (readRecord_ssid_iff record).mp same.ssid
        phy11a := same.phy11a.symm
        phy11ac := same.phy11ac.symm
        reserved := (readRecord_reserved_iff record).mp same.reserved
        bssidIndex := (readRecord_heAp_iff record).mp same.heAp }
  · intro covered
    obtain ⟨phy11b, phy11g, phy11n, phyLr, phy11ax, wps, responder, initiator⟩ :=
      readRecord_features record
    obtain ⟨second, authmode, pairwise, group, ant⟩ := readRecord_copies record
    obtain ⟨primary, rssi, bandwidth, freq1, freq2⟩ := readRecord_numbers record
    exact
      { bssid := readRecord_bssid record
        ssid := (readRecord_ssid_iff record).mpr covered.ssid
        primary := primary
        second := second
        rssi := rssi
        authmode := authmode
        pairwiseCipher := pairwise
        groupCipher := group
        ant := ant
        phy11b := phy11b
        phy11g := phy11g
        phy11n := phy11n
        phyLr := phyLr
        phy11a := covered.phy11a.symm
        phy11ac := covered.phy11ac.symm
        phy11ax := phy11ax
        wps := wps
        ftmResponder := responder
        ftmInitiator := initiator
        reserved := (readRecord_reserved_iff record).mpr covered.reserved
        country := readRecord_country record
        heAp := (readRecord_heAp_iff record).mpr covered.bssidIndex
        bandwidth := bandwidth
        vhtChFreq1 := freq1
        vhtChFreq2 := freq2 }

/-- Length and order always come through; the records do exactly when they use nothing the
message leaves out. -/
theorem ap_records_round_trip_iff (driver : ScanDriver) (number : UInt16) :
    Carried (parseScanRecords (reqWifiScanGetApRecords driver number)) (driver.returned number) ↔
      ∀ record ∈ driver.returned number, Covered record := by
  rw [host_list]
  have listwise : List.Forall₂ SameRecord ((driver.returned number).map readRecord)
      (driver.returned number) ↔ ∀ record ∈ driver.returned number, Covered record := by
    rw [List.forall₂_map_left_iff, List.forall₂_same]
    simp only [readRecord_same_iff]
  rw [← listwise]
  constructor
  · rintro ⟨list, built, same⟩
    rwa [Option.some.inj built]
  · intro same
    exact ⟨_, rfl, same⟩

/-- An access point that offers 11ac on 80 MHz, and what it is besides. -/
def acRecord : ApRecord where
  bssid := .replicate _ 0
  ssid := .replicate _ 0
  primary := 36
  second := 0
  rssi := -40
  authmode := 3
  pairwiseCipher := 4
  groupCipher := 4
  ant := 0
  phy11b := false
  phy11g := false
  phy11n := true
  phyLr := false
  phy11a := true
  phy11ac := true
  phy11ax := false
  wps := false
  ftmResponder := false
  ftmInitiator := false
  reserved := 0
  country := { cc := .replicate _ 0, schan := 1, nchan := 13, maxTxPower := 20, policy := 0 }
  heAp := { bssColor := 0, partialBssColor := false, bssColorDisabled := true, bssidIndex := 0 }
  bandwidth := 3
  vhtChFreq1 := 42
  vhtChFreq2 := 0

example : computeMaxRateFromApRecord acRecord = 433300 ∧
    computeMaxRateFromApRecord (readRecord acRecord) = 0 := by decide

def acDriver : ScanDriver where
  espWifiScanGetApNum := (0, 1)
  espWifiScanGetApRecords := fun number => (0, [acRecord].take number.toNat)
  bounded := fun number => List.length_take_le number.toNat [acRecord]

/-- Its 11a and 11ac bits do not reach the host. -/
theorem ap_records_garbled :
    ¬ ∀ (driver : ScanDriver) (number : UInt16),
      Carried (parseScanRecords (reqWifiScanGetApRecords driver number))
        (driver.returned number) := by
  intro claimed
  obtain ⟨list, built, same⟩ := claimed acDriver 1
  have returned : acDriver.returned 1 = [acRecord] := rfl
  rw [host_list, returned] at built
  rw [returned, ← Option.some.inj built] at same
  obtain ⟨first, _⟩ := List.forall₂_cons.mp same
  have lost := first.phy11ac
  cases lost

end EspHosted.ApRecords

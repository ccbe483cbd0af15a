import EspHosted.StationConfig

/-!
`WifiGetConfig`: `req_wifi_get_config` puts the configuration the slave's driver holds into
a response and `rpc_parse_rsp` takes it out again for `rpc_wifi_get_config`. What can be set
with `WifiSetConfig` is the measure of what should come back. Every allocation succeeds, and
packing and unpacking of the message lose nothing.
-/

namespace EspHosted.ConfigReadback
open BitWords StationConfig

/-- The Wi-Fi driver of the slave: what `esp_wifi_get_config` returns for an interface, and
the configurations it writes. -/
structure WifiDriver where
  espWifiGetConfig : Int32 → Int32
  sta : StaConfig
  ap : ApConfig

structure WifiGetConfigResp where
  resp : Int32
  iface : Int32
  cfg : Option WifiConfig

def strndup (field : List UInt8) (maxLen : Nat) : List UInt8 :=
  (field.take maxLen).takeWhile (· ≠ 0) ++ [0]

/-- `RPC_RESP_COPY_STR` of the slave: `data` is the duplicate and `len` may be shorter. -/
def respCopyStr (field : List UInt8) (maxLen : Nat) : List UInt8 :=
  (strndup field maxLen).take (min maxLen (strlen field + 1))

/-- `RPC_RSP_COPY_BYTES` of the host, into a field of zeros. It copies `len` bytes, which
`respCopyStr_fits` keeps inside the field. -/
def rspCopyBytes (size : Nat) (src : List UInt8) : Vector UInt8 size :=
  copyIn size src.length src

theorem rspCopyBytes_eq (size : Nat) (src : List UInt8) :
    rspCopyBytes size src = copyIn size size src := by
  simp [rspCopyBytes, copyIn]

theorem respCopyStr_fits (field : List UInt8) (maxLen : Nat) :
    (respCopyStr field maxLen).length ≤ maxLen := by
  rw [respCopyStr, List.length_take]
  omega

/-- A field of zeros holds what was copied into it, read as a string. -/
theorem text_copyIn {size : Nat} {src : List UInt8} (fits : src.length ≤ size) :
    text (copyIn size size src) = src.takeWhile (· ≠ 0) := by
  rw [text, copyIn_toList fits, List.takeWhile_append]
  split
  · rename_i whole
    have zeros : (List.replicate (size - src.length) (0 : UInt8)).takeWhile (· ≠ 0) = [] := by
      cases size - src.length <;> simp [List.replicate_succ]
    have all : (src.takeWhile (· ≠ 0)).length = src.length := by simpa using whole
    rw [zeros, List.append_nil]
    exact ((List.takeWhile_prefix _).eq_of_length all).symm
  · rfl

/-- The duplicate is cut behind the text or at the length, whichever comes first. -/
theorem text_respCopyStr (field : List UInt8) (maxLen : Nat) :
    (respCopyStr field maxLen).takeWhile (· ≠ 0) = (field.takeWhile (· ≠ 0)).take maxLen := by
  have cut : (strndup field maxLen).takeWhile (· ≠ 0) =
      (field.takeWhile (· ≠ 0)).take maxLen := by
    rw [strndup, ← List.take_takeWhile, List.takeWhile_append_of_pos]
    · simp
    · intro byte member
      exact List.all_eq_true.mp List.all_takeWhile byte (List.mem_of_mem_take member)
  rw [respCopyStr, ← List.take_takeWhile, cut, List.take_take]
  by_cases short : maxLen ≤ strlen field + 1
  · rw [Nat.min_eq_left short, Nat.min_self]
  · have inside : (field.takeWhile (· ≠ 0)).length ≤ min (min maxLen (strlen field + 1)) maxLen := by
      rw [← strlen]
      omega
    have within : (field.takeWhile (· ≠ 0)).length ≤ maxLen := by
      rw [← strlen]
      omega
    rw [List.take_of_length_le inside, List.take_of_length_le within]

theorem text_parsed {size maxLen : Nat} (field : List UInt8) (fits : maxLen ≤ size) :
    text (rspCopyBytes size (respCopyStr field maxLen)) =
      (field.takeWhile (· ≠ 0)).take maxLen := by
  rw [rspCopyBytes_eq, text_copyIn (Nat.le_trans (respCopyStr_fits field maxLen) fits),
    text_respCopyStr]

theorem text_length {size : Nat} (field : Vector UInt8 size) : (text field).length ≤ size := by
  have shorter := (List.takeWhile_prefix (· ≠ 0) (l := field.toList)).length_le
  simpa [text] using shorter

theorem text_read_back {size : Nat} (field : Vector UInt8 size) :
    text (rspCopyBytes size (respCopyStr field.toList size)) = text field := by
  rw [text_parsed field.toList (Nat.le_refl size)]
  exact List.take_of_length_le (text_length field)

/-- The station's part of `req_wifi_get_config`. The bits are set as the host sets them in a
request; `he_bitmask` and `sae_h2e_identifier` stay as `wifi_sta_config__init` leaves them. -/
def encodeSta (sta : StaConfig) : WifiStaConfig where
  ssid := respCopyStr sta.ssid.toList ssidLength
  password := respCopyStr sta.password.toList passwordLength
  scanMethod := sta.scanMethod
  bssidSet := sta.bssidSet
  bssid := if sta.bssidSet then sta.bssid.toList else []
  channel := sta.channel.toUInt32
  listenInterval := sta.listenInterval.toUInt32
  sortMethod := sta.sortMethod
  threshold := some { rssi := sta.thresholdRssi.toInt32, authmode := sta.thresholdAuthmode }
  pmfCfg := some { capable := sta.pmfCapable, required := sta.pmfRequired }
  bitmask := staBitmask sta
  saePweH2e := sta.saePweH2e
  failureRetryCnt := sta.failureRetryCnt.toUInt32
  heBitmask := 0
  saeH2eIdentifier := []

/-- The access point's part. The SSID goes along only with a length. -/
def encodeAp (ap : ApConfig) : WifiApConfig where
  ssid := if ap.ssidLen ≠ 0 then respCopyStr ap.ssid.toList ssidLength else []
  password := respCopyStr ap.password.toList passwordLength
  ssidLen := ap.ssidLen.toUInt32
  channel := ap.channel.toUInt32
  authmode := ap.authmode
  ssidHidden := ap.ssidHidden.toUInt32
  maxConnection := ap.maxConnection.toUInt32
  beaconInterval := ap.beaconInterval.toUInt32
  pairwiseCipher := ap.pairwiseCipher
  ftmResponder := ap.ftmResponder
  pmfCfg := some { capable := ap.pmfCapable, required := ap.pmfRequired }
  saePweH2e := ap.saePweH2e

/-- `wifi_interface_t` has no negative values and is compared unsigned. -/
def reqWifiGetConfig (driver : WifiDriver) (iface : Int32) : WifiGetConfigResp :=
  if wifiIfAp.toUInt32 < iface.toUInt32 then { resp := 1, iface := iface, cfg := none }
  else if driver.espWifiGetConfig iface ≠ 0 then
    { resp := driver.espWifiGetConfig iface, iface := iface, cfg := none }
  else if iface = wifiIfSta then
    { resp := 0, iface := iface, cfg := some { sta := some (encodeSta driver.sta), ap := none } }
  else
    { resp := 0, iface := iface, cfg := some { sta := none, ap := some (encodeAp driver.ap) } }

/-- What `rpc_wifi_get_config` finds in the union of `app_resp`. -/
inductive GetConfig where
  | sta (cfg : StaConfig)
  | ap (cfg : ApConfig)
  | untouched
  | nullDeref
  deriving DecidableEq

def blankAp : ApConfig where
  ssid := .replicate _ 0
  password := .replicate _ 0
  ssidLen := 0
  channel := 0
  authmode := 0
  ssidHidden := 0
  maxConnection := 0
  beaconInterval := 0
  pairwiseCipher := 0
  ftmResponder := false
  pmfCapable := false
  pmfRequired := false
  saePweH2e := 0

/-- The access point's configuration as the slave sets it. -/
def heldAp (ap : ApConfig) : ApConfig :=
  takeAp (composeAp ap) { capable := ap.pmfCapable, required := ap.pmfRequired }

/-- The station's fields in `rpc_parse_rsp`, over the zeros `app_resp` is allocated with. -/
def parseSta (sta : WifiStaConfig) (threshold : WifiScanThreshold) (pmfCfg : WifiPmfConfig) :
    StaConfig :=
  { blankSta with
    ssid := rspCopyBytes ssidLength sta.ssid
    password := rspCopyBytes passwordLength sta.password
    scanMethod := sta.scanMethod
    bssidSet := sta.bssidSet
    bssid := rspCopyBytes bssidBytesSize (if sta.bssidSet then sta.bssid else [])
    channel := sta.channel.toUInt8
    listenInterval := sta.listenInterval.toUInt16
    sortMethod := sta.sortMethod
    thresholdRssi := threshold.rssi.toInt8
    thresholdAuthmode := threshold.authmode
    pmfCapable := pmfCfg.capable
    pmfRequired := pmfCfg.required
    rmEnabled := getBit staRmEnabledBit sta.bitmask
    btmEnabled := getBit staBtmEnabledBit sta.bitmask
    mboEnabled := getBit staMboEnabledBit sta.bitmask
    ftEnabled := getBit staFtEnabledBit sta.bitmask
    oweEnabled := getBit staOweEnabledBit sta.bitmask
    transitionDisable := getBit staTransitionDisabledBit sta.bitmask
    reserved := getField 26 staReservedBitmask staMaxUsedBit sta.bitmask
    saePweH2e := sta.saePweH2e
    failureRetryCnt := sta.failureRetryCnt.toUInt8 }

def parseAp (ap : WifiApConfig) (pmfCfg : WifiPmfConfig) : ApConfig :=
  { blankAp with
    ssid := rspCopyBytes ssidLength ap.ssid
    password := rspCopyBytes passwordLength ap.password
    ssidLen := ap.ssidLen.toUInt8
    channel := ap.channel.toUInt8
    authmode := ap.authmode
    ssidHidden := ap.ssidHidden.toUInt8
    maxConnection := ap.maxConnection.toUInt8
    beaconInterval := ap.beaconInterval.toUInt16
    pairwiseCipher := ap.pairwiseCipher
    ftmResponder := ap.ftmResponder
    pmfCapable := pmfCfg.capable
    pmfRequired := pmfCfg.required }

/-- `rpc_parse_rsp` for `RPC_ID__Resp_WifiGetConfig`. It tests `resp` through the member of
the union for `WifiSetConfig`, which lies where this message has its own. -/
def parseWifiGetConfig (msg : WifiGetConfigResp) : GetConfig :=
  if msg.resp ≠ 0 then .untouched
  else if msg.iface = wifiIfSta then
    match msg.cfg.bind (·.sta) with
    | none => .nullDeref
    | some sta =>
        match sta.threshold, sta.pmfCfg with
        | some threshold, some pmfCfg => .sta (parseSta sta threshold pmfCfg)
        | _, _ => .nullDeref
  else if msg.iface = wifiIfAp then
    match msg.cfg.bind (·.ap) with
    | none => .nullDeref
    | some ap =>
        match ap.pmfCfg with
        | some pmfCfg => .ap (parseAp ap pmfCfg)
        | none => .nullDeref
  else .untouched

/-- What the host reads of the configuration the slave's driver holds. -/
def readBack (driver : WifiDriver) (iface : Int32) : GetConfig :=
  parseWifiGetConfig (reqWifiGetConfig driver iface)

/-- `SameSta` with the identifier, too, taken as a string. -/
structure SameStaText (got held : StaConfig) : Prop where
  saeH2eIdentifier : text got.saeH2eIdentifier = text held.saeH2eIdentifier
  others : SameSta { got with saeH2eIdentifier := held.saeH2eIdentifier } held

/-- Equal in every field a request can set; the host never fills in `sae_pwe_h2e`. -/
structure SameAp (got held : ApConfig) : Prop where
  ssid : text got.ssid = text held.ssid
  password : text got.password = text held.password
  ssidLen : got.ssidLen = held.ssidLen
  channel : got.channel = held.channel
  authmode : got.authmode = held.authmode
  ssidHidden : got.ssidHidden = held.ssidHidden
  maxConnection : got.maxConnection = held.maxConnection
  beaconInterval : got.beaconInterval = held.beaconInterval
  pairwiseCipher : got.pairwiseCipher = held.pairwiseCipher
  ftmResponder : got.ftmResponder = held.ftmResponder
  pmfCapable : got.pmfCapable = held.pmfCapable
  pmfRequired : got.pmfRequired = held.pmfRequired

/-- The host has the configuration of the interface it asked for. -/
def Agrees (driver : WifiDriver) (iface : Int32) : GetConfig → Prop
  | .sta got => iface = wifiIfSta ∧ SameStaText got driver.sta
  | .ap got => iface = wifiIfAp ∧ SameAp got driver.ap
  | .untouched => False
  | .nullDeref => False

/-- The station uses none of what a response leaves out. -/
structure StaCovered (sta : StaConfig) : Prop where
  reserved : sta.reserved.toNat < 2 ^ 10
  heDcmSet : sta.heDcmSet = false
  heDcmMaxConstellationTx : sta.heDcmMaxConstellationTx = 0
  heDcmMaxConstellationRx : sta.heDcmMaxConstellationRx = 0
  heMcs9Enabled : sta.heMcs9Enabled = false
  heSuBeamformeeDisabled : sta.heSuBeamformeeDisabled = false
  heTrigSuBmformingFeedbackDisabled : sta.heTrigSuBmformingFeedbackDisabled = false
  heTrigMuBmformingPartialFeedbackDisabled : sta.heTrigMuBmformingPartialFeedbackDisabled = false
  heTrigCqiFeedbackDisabled : sta.heTrigCqiFeedbackDisabled = false
  heReserved : sta.heReserved = 0
  saeH2eIdentifier : text sta.saeH2eIdentifier = []

def ApCovered (ap : ApConfig) : Prop := ap.ssidLen ≠ 0 ∨ text ap.ssid = []

def Covered (driver : WifiDriver) (iface : Int32) : Prop :=
  (iface = wifiIfSta → StaCovered driver.sta) ∧ (iface = wifiIfAp → ApCovered driver.ap)

/-- The station the host reads when the driver holds `sta`. -/
def readSta (sta : StaConfig) : StaConfig :=
  parseSta (encodeSta sta)
    { rssi := sta.thresholdRssi.toInt32, authmode := sta.thresholdAuthmode }
    { capable := sta.pmfCapable, required := sta.pmfRequired }

def readAp (ap : ApConfig) : ApConfig :=
  parseAp (encodeAp ap) { capable := ap.pmfCapable, required := ap.pmfRequired }

theorem readBack_sta {driver : WifiDriver} (returns : driver.espWifiGetConfig wifiIfSta = 0) :
    readBack driver wifiIfSta = .sta (readSta driver.sta) := by
  have inside : ¬ wifiIfAp.toUInt32 < wifiIfSta.toUInt32 := by decide
  simp [readBack, reqWifiGetConfig, inside, returns, parseWifiGetConfig, encodeSta, readSta]

theorem readBack_ap {driver : WifiDriver} (returns : driver.espWifiGetConfig wifiIfAp = 0) :
    readBack driver wifiIfAp = .ap (readAp driver.ap) := by
  have inside : ¬ wifiIfAp.toUInt32 < wifiIfAp.toUInt32 := by decide
  have other : ¬ wifiIfAp = wifiIfSta := by decide
  simp [readBack, reqWifiGetConfig, inside, returns, other, parseWifiGetConfig, encodeAp, readAp]

theorem readSta_text (sta : StaConfig) :
    text (readSta sta).ssid = text sta.ssid ∧ text (readSta sta).password = text sta.password :=
  ⟨text_read_back sta.ssid, text_read_back sta.password⟩

theorem readSta_bssid {sta : StaConfig} (set : sta.bssidSet = true) :
    (readSta sta).bssid = sta.bssid := by
  have sent : (readSta sta).bssid = rspCopyBytes bssidBytesSize sta.bssid.toList := by
    simp [readSta, parseSta, encodeSta, set]
  rw [sent, rspCopyBytes_eq, copyIn_whole]

/-- The fields of the feature word come back as a request would set them. -/
theorem readSta_features (sta : StaConfig) :
    (readSta sta).rmEnabled = sta.rmEnabled ∧ (readSta sta).btmEnabled = sta.btmEnabled ∧
      (readSta sta).mboEnabled = sta.mboEnabled ∧ (readSta sta).ftEnabled = sta.ftEnabled ∧
      (readSta sta).oweEnabled = sta.oweEnabled ∧
      (readSta sta).transitionDisable = sta.transitionDisable :=
  arrived_features sta

theorem readSta_reserved_iff (sta : StaConfig) :
    (readSta sta).reserved = sta.reserved ↔ sta.reserved.toNat < 2 ^ 10 :=
  reserved_round_trip_iff sta

theorem readSta_copies (sta : StaConfig) :
    (readSta sta).scanMethod = sta.scanMethod ∧ (readSta sta).bssidSet = sta.bssidSet ∧
      (readSta sta).sortMethod = sta.sortMethod ∧
      (readSta sta).thresholdAuthmode = sta.thresholdAuthmode ∧
      (readSta sta).pmfCapable = sta.pmfCapable ∧ (readSta sta).pmfRequired = sta.pmfRequired ∧
      (readSta sta).saePweH2e = sta.saePweH2e := by
  simp only [readSta, parseSta, encodeSta, and_self]

theorem readSta_numbers (sta : StaConfig) :
    (readSta sta).channel = sta.channel ∧ (readSta sta).listenInterval = sta.listenInterval ∧
      (readSta sta).thresholdRssi = sta.thresholdRssi ∧
      (readSta sta).failureRetryCnt = sta.failureRetryCnt := by
  simp [readSta, parseSta, encodeSta]

theorem readSta_identifier (sta : StaConfig) : text (readSta sta).saeH2eIdentifier = [] := by
  have blank : (readSta sta).saeH2eIdentifier = blankSta.saeH2eIdentifier := rfl
  rw [blank]
  decide

theorem readSta_covered {sta : StaConfig} (covered : StaCovered sta) :
    SameStaText (readSta sta) sta := by
  obtain ⟨ssid, password⟩ := readSta_text sta
  obtain ⟨rm, btm, mbo, ft, owe, transition⟩ := readSta_features sta
  obtain ⟨scan, bssidSet, sort, authmode, capable, required, pwe⟩ := readSta_copies sta
  obtain ⟨channel, listen, rssi, retry⟩ := readSta_numbers sta
  refine ⟨(readSta_identifier sta).trans covered.saeH2eIdentifier.symm, ?_⟩
  exact
    { ssid := ssid
      password := password
      scanMethod := scan
      bssidSet := bssidSet
      bssid := readSta_bssid
      channel := channel
      listenInterval := listen
      sortMethod := sort
      thresholdRssi := rssi
      thresholdAuthmode := authmode
      pmfCapable := capable
      pmfRequired := required
      rmEnabled := rm
      btmEnabled := btm
      mboEnabled := mbo
      ftEnabled := ft
      oweEnabled := owe
      transitionDisable := transition
      reserved := (readSta_reserved_iff sta).mpr covered.reserved
      saePweH2e := pwe
      failureRetryCnt := retry
      heDcmSet := covered.heDcmSet.symm
      heDcmMaxConstellationTx := covered.heDcmMaxConstellationTx.symm
      heDcmMaxConstellationRx := covered.heDcmMaxConstellationRx.symm
      heMcs9Enabled := covered.heMcs9Enabled.symm
      heSuBeamformeeDisabled := covered.heSuBeamformeeDisabled.symm
      heTrigSuBmformingFeedbackDisabled := covered.heTrigSuBmformingFeedbackDisabled.symm
      heTrigMuBmformingPartialFeedbackDisabled :=
        covered.heTrigMuBmformingPartialFeedbackDisabled.symm
      heTrigCqiFeedbackDisabled := covered.heTrigCqiFeedbackDisabled.symm
      heReserved := covered.heReserved.symm
      saeH2eIdentifier := rfl }

/-- A field the response leaves out is read as 0, so an agreeing driver holds 0 there. -/
theorem same_covered {sta : StaConfig} (same : SameStaText (readSta sta) sta) :
    StaCovered sta where
  reserved := (readSta_reserved_iff sta).mp same.others.reserved
  heDcmSet := same.others.heDcmSet.symm
  heDcmMaxConstellationTx := same.others.heDcmMaxConstellationTx.symm
  heDcmMaxConstellationRx := same.others.heDcmMaxConstellationRx.symm
  heMcs9Enabled := same.others.heMcs9Enabled.symm
  heSuBeamformeeDisabled := same.others.heSuBeamformeeDisabled.symm
  heTrigSuBmformingFeedbackDisabled := same.others.heTrigSuBmformingFeedbackDisabled.symm
  heTrigMuBmformingPartialFeedbackDisabled :=
    same.others.heTrigMuBmformingPartialFeedbackDisabled.symm
  heTrigCqiFeedbackDisabled := same.others.heTrigCqiFeedbackDisabled.symm
  heReserved := same.others.heReserved.symm
  saeH2eIdentifier := same.saeH2eIdentifier.symm.trans (readSta_identifier sta)

theorem readSta_same_iff (sta : StaConfig) : SameStaText (readSta sta) sta ↔ StaCovered sta :=
  ⟨same_covered, readSta_covered⟩

theorem readAp_numbers (ap : ApConfig) :
    (readAp ap).ssidLen = ap.ssidLen ∧ (readAp ap).channel = ap.channel ∧
      (readAp ap).ssidHidden = ap.ssidHidden ∧ (readAp ap).maxConnection = ap.maxConnection ∧
      (readAp ap).beaconInterval = ap.beaconInterval := by
  simp [readAp, parseAp, encodeAp]

theorem readAp_copies (ap : ApConfig) :
    (readAp ap).authmode = ap.authmode ∧ (readAp ap).pairwiseCipher = ap.pairwiseCipher ∧
      (readAp ap).ftmResponder = ap.ftmResponder ∧ (readAp ap).pmfCapable = ap.pmfCapable ∧
      (readAp ap).pmfRequired = ap.pmfRequired := by
  simp only [readAp, parseAp, encodeAp, and_self]

theorem readAp_ssid_iff (ap : ApConfig) : text (readAp ap).ssid = text ap.ssid ↔ ApCovered ap := by
  have parsed : (readAp ap).ssid = rspCopyBytes ssidLength (encodeAp ap).ssid := rfl
  rw [parsed, ApCovered]
  by_cases none : ap.ssidLen = 0
  · have empty : text (rspCopyBytes ssidLength []) = [] := by decide
    simp only [encodeAp, none, ne_eq, not_true, if_false, empty, false_or]
    exact eq_comm
  · simp only [encodeAp, none, ne_eq, not_false_eq_true, if_true, true_or, iff_true]
    exact text_read_back ap.ssid

theorem readAp_same_iff (ap : ApConfig) : SameAp (readAp ap) ap ↔ ApCovered ap := by
  rw [← readAp_ssid_iff]
  constructor
  · exact SameAp.ssid
  · intro ssid
    obtain ⟨ssidLen, channel, hidden, connections, beacon⟩ := readAp_numbers ap
    obtain ⟨authmode, cipher, responder, capable, required⟩ := readAp_copies ap
    exact
      { ssid := ssid
        password := text_read_back ap.password
        ssidLen := ssidLen
        channel := channel
        authmode := authmode
        ssidHidden := hidden
        maxConnection := connections
        beaconInterval := beacon
        pairwiseCipher := cipher
        ftmResponder := responder
        pmfCapable := capable
        pmfRequired := required }

/-- The host has the driver's configuration exactly when the driver uses none of the fields
the response leaves out: the HE bits and the identifier of a station, reserved bits beyond
the mask, and the SSID of an access point that comes without a length. -/
theorem config_read_back_iff {driver : WifiDriver} {iface : Int32}
    (known : iface = wifiIfSta ∨ iface = wifiIfAp) (returns : driver.espWifiGetConfig iface = 0) :
    Agrees driver iface (readBack driver iface) ↔ Covered driver iface := by
  have differ : wifiIfSta ≠ wifiIfAp := by decide
  rcases known with station | access
  · subst station
    rw [readBack_sta returns, Covered]
    simp only [Agrees, true_and, true_implies, differ, false_implies, and_true]
    exact readSta_same_iff driver.sta
  · subst access
    rw [readBack_ap returns, Covered]
    simp only [Agrees, true_and, true_implies, differ.symm, false_implies]
    exact readAp_same_iff driver.ap

/-- An access point named by a string: the letter A, no length. -/
def namedAp : ApConfig := { blankAp with ssid := copyIn ssidLength ssidLength [65] }

def heldConfigs : WifiDriver where
  espWifiGetConfig := fun _ => 0
  sta := { blankSta with reserved := 0x3FF, rmEnabled := true }
  ap := namedAp

theorem config_read_back_station :
    (wifiIfSta = wifiIfSta ∨ wifiIfSta = wifiIfAp) ∧ heldConfigs.espWifiGetConfig wifiIfSta = 0 ∧
      Agrees heldConfigs wifiIfSta (readBack heldConfigs wifiIfSta) := by
  refine ⟨Or.inl rfl, rfl, (config_read_back_iff (Or.inl rfl) rfl).mpr ⟨?_, ?_⟩⟩
  · intro _
    constructor <;> decide
  · intro access
    exact absurd access (by decide)

/-- The name of `namedAp` does not come back, and neither does an HE bit of a station. -/
theorem config_not_read_back :
    ¬ (∀ driver : WifiDriver, driver.espWifiGetConfig wifiIfAp = 0 →
      Agrees driver wifiIfAp (readBack driver wifiIfAp)) ∧
    ¬ (∀ driver : WifiDriver, driver.espWifiGetConfig wifiIfSta = 0 →
      Agrees driver wifiIfSta (readBack driver wifiIfSta)) := by
  constructor
  · intro claimed
    have agrees := claimed heldConfigs rfl
    rw [readBack_ap rfl] at agrees
    have covered := (readAp_ssid_iff namedAp).mp agrees.2.ssid
    revert covered
    unfold ApCovered
    decide
  · intro claimed
    have agrees := claimed { heldConfigs with sta := trigSuSta } rfl
    rw [readBack_sta rfl] at agrees
    have lost := agrees.2.others.heTrigSuBmformingFeedbackDisabled
    cases lost

end EspHosted.ConfigReadback

import EspHosted.BitWords
import Mathlib.Data.List.Basic
import Mathlib.Tactic.IntervalCases

/-!
`WifiSetConfig`: `compose_rpc_req` puts `wifi_sta_config_t` or `wifi_ap_config_t` into a
protobuf message and `req_wifi_set_config` takes it out again on the slave. The bit-fields
of the station travel in two words, `bitmask` and `he_bitmask`. Packing and unpacking of
the message itself is taken to lose nothing.
-/

namespace EspHosted.StationConfig
open BitWords

def ssidLength : Nat := 32
def passwordLength : Nat := 64
def bssidBytesSize : Nat := 6
def saeH2eIdentifierLen : Nat := 32

def wifiIfSta : Int32 := 0
def wifiIfAp : Int32 := 1

def staRmEnabledBit : Nat := 0
def staBtmEnabledBit : Nat := 1
def staMboEnabledBit : Nat := 2
def staFtEnabledBit : Nat := 3
def staOweEnabledBit : Nat := 4
def staTransitionDisabledBit : Nat := 5
def staMaxUsedBit : Nat := 6
def staReservedBitmask : BitVec 32 := 0xFFC0

def heDcmSetBit : Nat := 0
def heDcmMaxConstellationTxBits : Nat := 1
def heDcmMaxConstellationRxBits : Nat := 3
def heMcs9EnabledBit : Nat := 5
def heSuBeamformeeDisabledBit : Nat := 6
def heTrigSuBmformingFeedbackDisabledBit : Nat := 7
def heTrigMuBmformingPartialFeedbackDisabledBit : Nat := 8
def heTrigCqiFeedbackDisabledBit : Nat := 9
def heMaxUsedBit : Nat := 10
def heReservedBitmask : BitVec 32 := 0xFC00

/-- `wifi_sta_config_t`, the fields that are sent. An enumeration is its 32-bit value. -/
structure StaConfig where
  ssid : Vector UInt8 ssidLength
  password : Vector UInt8 passwordLength
  scanMethod : Int32
  bssidSet : Bool
  bssid : Vector UInt8 bssidBytesSize
  channel : UInt8
  listenInterval : UInt16
  sortMethod : Int32
  thresholdRssi : Int8
  thresholdAuthmode : Int32
  pmfCapable : Bool
  pmfRequired : Bool
  rmEnabled : Bool
  btmEnabled : Bool
  mboEnabled : Bool
  ftEnabled : Bool
  oweEnabled : Bool
  transitionDisable : Bool
  reserved : BitVec 26
  saePweH2e : Int32
  failureRetryCnt : UInt8
  heDcmSet : Bool
  heDcmMaxConstellationTx : BitVec 2
  heDcmMaxConstellationRx : BitVec 2
  heMcs9Enabled : Bool
  heSuBeamformeeDisabled : Bool
  heTrigSuBmformingFeedbackDisabled : Bool
  heTrigMuBmformingPartialFeedbackDisabled : Bool
  heTrigCqiFeedbackDisabled : Bool
  heReserved : BitVec 22
  saeH2eIdentifier : Vector UInt8 saeH2eIdentifierLen
  deriving DecidableEq

/-- `wifi_ap_config_t`, the fields that are sent or read. -/
structure ApConfig where
  ssid : Vector UInt8 ssidLength
  password : Vector UInt8 passwordLength
  ssidLen : UInt8
  channel : UInt8
  authmode : Int32
  ssidHidden : UInt8
  maxConnection : UInt8
  beaconInterval : UInt16
  pairwiseCipher : Int32
  ftmResponder : Bool
  pmfCapable : Bool
  pmfRequired : Bool
  saePweH2e : Int32
  deriving DecidableEq

/-- `wifi_cfg_t`: the interface and the part of the union that goes with it. -/
inductive WifiCfg where
  | sta (cfg : StaConfig)
  | ap (cfg : ApConfig)
  | unexpected (iface : Int32)

structure WifiScanThreshold where
  rssi : Int32
  authmode : Int32

structure WifiPmfConfig where
  capable : Bool
  required : Bool

/-- The protobuf message. A field of bytes that is not assigned is empty. -/
structure WifiStaConfig where
  ssid : List UInt8
  password : List UInt8
  scanMethod : Int32
  bssidSet : Bool
  bssid : List UInt8
  channel : UInt32
  listenInterval : UInt32
  sortMethod : Int32
  threshold : Option WifiScanThreshold
  pmfCfg : Option WifiPmfConfig
  bitmask : BitVec 32
  saePweH2e : Int32
  failureRetryCnt : UInt32
  heBitmask : BitVec 32
  saeH2eIdentifier : List UInt8

structure WifiApConfig where
  ssid : List UInt8
  password : List UInt8
  ssidLen : UInt32
  channel : UInt32
  authmode : Int32
  ssidHidden : UInt32
  maxConnection : UInt32
  beaconInterval : UInt32
  pairwiseCipher : Int32
  ftmResponder : Bool
  pmfCfg : Option WifiPmfConfig
  saePweH2e : Int32

/-- `WifiConfig`, the pointers of its union one by one. -/
structure WifiConfig where
  sta : Option WifiStaConfig
  ap : Option WifiApConfig

structure WifiSetConfigReq where
  iface : Int32
  cfg : Option WifiConfig

/-- `strlen`, as far as `RPC_REQ_COPY_STR` looks at it: from a field without a
terminator on it counts more bytes, all above the length it is cut to. -/
def strlen (field : List UInt8) : Nat := (field.takeWhile (· ≠ 0)).length

/-- `RPC_REQ_COPY_STR` of the host. -/
def reqCopyStr (field : List UInt8) (maxSize : Nat) : List UInt8 :=
  field.take (min (strlen field + 1) maxSize)

/-- `RPC_REQ_COPY_BYTES` of the slave, into a field of zeros. -/
def copyIn (size numBytes : Nat) (src : List UInt8) : Vector UInt8 size :=
  Vector.ofFn fun index => (src.take (min (min size numBytes) src.length)).getD index 0

def staBitmask (sta : StaConfig) : BitVec 32 :=
  let bitmask := setBitIf sta.rmEnabled staRmEnabledBit 0#32
  let bitmask := setBitIf sta.btmEnabled staBtmEnabledBit bitmask
  let bitmask := setBitIf sta.mboEnabled staMboEnabledBit bitmask
  let bitmask := setBitIf sta.ftEnabled staFtEnabledBit bitmask
  let bitmask := setBitIf sta.oweEnabled staOweEnabledBit bitmask
  let bitmask := setBitIf sta.transitionDisable staTransitionDisabledBit bitmask
  setField sta.reserved staMaxUsedBit bitmask

def staHeBitmask (sta : StaConfig) : BitVec 32 :=
  let bitmask := setBitIf sta.heDcmSet heDcmSetBit 0#32
  let bitmask := setFieldIf sta.heDcmMaxConstellationTx heDcmMaxConstellationTxBits bitmask
  let bitmask := setFieldIf sta.heDcmMaxConstellationRx heDcmMaxConstellationRxBits bitmask
  let bitmask := setBitIf sta.heMcs9Enabled heMcs9EnabledBit bitmask
  let bitmask := setBitIf sta.heSuBeamformeeDisabled heSuBeamformeeDisabledBit bitmask
  let bitmask := setBitIf sta.heTrigSuBmformingFeedbackDisabled
    heTrigSuBmformingFeedbackDisabledBit bitmask
  let bitmask := setBitIf sta.heTrigMuBmformingPartialFeedbackDisabled
    heTrigMuBmformingPartialFeedbackDisabledBit bitmask
  let bitmask := setBitIf sta.heTrigCqiFeedbackDisabled heTrigCqiFeedbackDisabledBit bitmask
  setField sta.heReserved heMaxUsedBit bitmask

def composeSta (sta : StaConfig) : WifiStaConfig where
  ssid := reqCopyStr sta.ssid.toList ssidLength
  password := reqCopyStr sta.password.toList passwordLength
  scanMethod := sta.scanMethod
  bssidSet := sta.bssidSet
  bssid := if sta.bssidSet then sta.bssid.toList else []
  channel := sta.channel.toUInt32
  listenInterval := sta.listenInterval.toUInt32
  sortMethod := sta.sortMethod
  threshold := some { rssi := sta.thresholdRssi.toInt32, authmode := sta.thresholdAuthmode }
  pmfCfg := some { capable := sta.pmfCapable, required := sta.pmfRequired }
  bitmask := staBitmask sta
  saePweH2e := sta.saePweH2e
  failureRetryCnt := sta.failureRetryCnt.toUInt32
  heBitmask := staHeBitmask sta
  saeH2eIdentifier := sta.saeH2eIdentifier.toList

def composeAp (ap : ApConfig) : WifiApConfig where
  ssid := reqCopyStr ap.ssid.toList ssidLength
  password := reqCopyStr ap.password.toList passwordLength
  ssidLen := ap.ssidLen.toUInt32
  channel := ap.channel.toUInt32
  authmode := ap.authmode
  ssidHidden := ap.ssidHidden.toUInt32
  maxConnection := ap.maxConnection.toUInt32
  beaconInterval := ap.beaconInterval.toUInt32
  pairwiseCipher := ap.pairwiseCipher
  ftmResponder := ap.ftmResponder
  pmfCfg := some { capable := ap.pmfCapable, required := ap.pmfRequired }
  -- not assigned by the source, so it stays as wifi_ap_config__init leaves it
  saePweH2e := 0

/-- `compose_rpc_req` for `RPC_ID__Req_WifiSetConfig`, every allocation successful. -/
def composeWifiSetConfig : WifiCfg → WifiSetConfigReq
  | .sta sta => { iface := wifiIfSta, cfg := some { sta := some (composeSta sta), ap := none } }
  | .ap ap => { iface := wifiIfAp, cfg := some { sta := none, ap := some (composeAp ap) } }
  | .unexpected iface => { iface := iface, cfg := some { sta := none, ap := none } }

/-- What becomes of a request: the configuration handed to `esp_wifi_set_config`, a failure
response before that, or a NULL pointer followed. -/
inductive SetConfig where
  | setSta (cfg : StaConfig)
  | setAp (cfg : ApConfig)
  | refused
  | nullDeref
  deriving DecidableEq

/-- The station's fields in `req_wifi_set_config`. The last four `he_` fields are read from
`bitmask`, as the source does. -/
def takeSta (sta : WifiStaConfig) (threshold : WifiScanThreshold) (pmfCfg : WifiPmfConfig) :
    StaConfig where
  ssid := copyIn ssidLength ssidLength sta.ssid
  password := copyIn passwordLength passwordLength sta.password
  scanMethod := sta.scanMethod
  bssidSet := sta.bssidSet
  bssid := copyIn bssidBytesSize bssidBytesSize (if sta.bssidSet then sta.bssid else [])
  channel := sta.channel.toUInt8
  listenInterval := sta.listenInterval.toUInt16
  sortMethod := sta.sortMethod
  thresholdRssi := threshold.rssi.toInt8
  thresholdAuthmode := threshold.authmode
  pmfCapable := pmfCfg.capable
  pmfRequired := pmfCfg.required
  rmEnabled := getBit staRmEnabledBit sta.bitmask
  btmEnabled := getBit staBtmEnabledBit sta.bitmask
  mboEnabled := getBit staMboEnabledBit sta.bitmask
  ftEnabled := getBit staFtEnabledBit sta.bitmask
  oweEnabled := getBit staOweEnabledBit sta.bitmask
  transitionDisable := getBit staTransitionDisabledBit sta.bitmask
  reserved := getField 26 staReservedBitmask staMaxUsedBit sta.bitmask
  saePweH2e := sta.saePweH2e
  failureRetryCnt := sta.failureRetryCnt.toUInt8
  heDcmSet := getBit heDcmSetBit sta.heBitmask
  heDcmMaxConstellationTx := pickField 2 heDcmMaxConstellationTxBits 3#32 sta.heBitmask
  heDcmMaxConstellationRx := pickField 2 heDcmMaxConstellationRxBits 3#32 sta.heBitmask
  heMcs9Enabled := getBit heMcs9EnabledBit sta.heBitmask
  heSuBeamformeeDisabled := getBit heSuBeamformeeDisabledBit sta.heBitmask
  heTrigSuBmformingFeedbackDisabled := getBit heTrigSuBmformingFeedbackDisabledBit sta.bitmask
  heTrigMuBmformingPartialFeedbackDisabled :=
    getBit heTrigMuBmformingPartialFeedbackDisabledBit sta.bitmask
  heTrigCqiFeedbackDisabled := getBit heTrigCqiFeedbackDisabledBit sta.bitmask
  heReserved := getField 22 heReservedBitmask heMaxUsedBit sta.bitmask
  saeH2eIdentifier := copyIn saeH2eIdentifierLen saeH2eIdentifierLen sta.saeH2eIdentifier

def takeAp (ap : WifiApConfig) (pmfCfg : WifiPmfConfig) : ApConfig where
  ssid := copyIn ssidLength ssidLength ap.ssid
  password := copyIn passwordLength passwordLength ap.password
  ssidLen := ap.ssidLen.toUInt8
  channel := ap.channel.toUInt8
  authmode := ap.authmode
  ssidHidden := ap.ssidHidden.toUInt8
  maxConnection := ap.maxConnection.toUInt8
  beaconInterval := ap.beaconInterval.toUInt16
  pairwiseCipher := ap.pairwiseCipher
  ftmResponder := ap.ftmResponder
  pmfCapable := pmfCfg.capable
  pmfRequired := pmfCfg.required
  saePweH2e := ap.saePweH2e

def reqWifiSetConfig (req : WifiSetConfigReq) : SetConfig :=
  if req.iface ≠ wifiIfSta ∧ req.iface ≠ wifiIfAp then .refused
  else
    match req.cfg with
    | none => .refused
    | some cfg =>
        if req.iface = wifiIfSta then
          match cfg.sta with
          | none => .refused
          | some sta =>
              match sta.threshold, sta.pmfCfg with
              | some threshold, some pmfCfg => .setSta (takeSta sta threshold pmfCfg)
              | _, _ => .nullDeref
        else
          match cfg.ap with
          | none => .refused
          | some ap =>
              match ap.pmfCfg with
              | some pmfCfg => .setAp (takeAp ap pmfCfg)
              | none => .nullDeref

/-- A `char` array up to its terminator. -/
def text {size : Nat} (field : Vector UInt8 size) : List UInt8 :=
  field.toList.takeWhile (· ≠ 0)

theorem copyIn_toList {size : Nat} {src : List UInt8} (fits : src.length ≤ size) :
    (copyIn size size src).toList = src ++ List.replicate (size - src.length) 0 := by
  apply List.ext_getElem?
  intro index
  rw [copyIn, Nat.min_self, Nat.min_eq_right fits, List.take_length]
  by_cases inside : index < size
  · by_cases sent : index < src.length
    · simp [inside, sent, List.getElem?_append_left]
    · have here : index - src.length < size - src.length := by omega
      rw [List.getElem?_append_right (by omega), List.getElem?_replicate_of_lt here]
      simp [inside, sent]
  · simp [inside]
    omega

theorem copyIn_whole {size : Nat} (field : Vector UInt8 size) :
    copyIn size size field.toList = field := by
  apply Vector.toList_inj.mp
  rw [copyIn_toList (by simp)]
  simp

/-- What is cut behind the terminator is refilled with terminators. -/
theorem text_refilled (bytes : List UInt8) (count : Nat) :
    (reqCopyStr bytes bytes.length ++ List.replicate count 0).takeWhile (· ≠ 0) =
      bytes.takeWhile (· ≠ 0) := by
  induction bytes with
  | nil => cases count <;> simp [reqCopyStr, List.replicate_succ]
  | cons byte rest ih =>
      by_cases stop : byte = 0
      · simp [reqCopyStr, strlen, stop]
      · have longer : strlen (byte :: rest) = strlen rest + 1 := by simp [strlen, stop]
        have cut : min (strlen rest + 1 + 1) (rest.length + 1) =
            min (strlen rest + 1) rest.length + 1 := by omega
        rw [reqCopyStr] at ih
        rw [reqCopyStr, longer, List.length_cons, cut, List.take_succ_cons, List.cons_append,
          List.takeWhile_cons_of_pos (by simpa using stop), ih,
          List.takeWhile_cons_of_pos (by simpa using stop)]

theorem text_round_trip {size : Nat} (field : Vector UInt8 size) :
    text (copyIn size size (reqCopyStr field.toList size)) = text field := by
  have length : field.toList.length = size := by simp
  have fits : (reqCopyStr field.toList size).length ≤ size := by
    rw [reqCopyStr, List.length_take]
    omega
  rw [text, text, copyIn_toList fits]
  have refilled := @text_refilled field.toList (size - (reqCopyStr field.toList size).length)
  rwa [length] at refilled

theorem bitmask_feature (sta : StaConfig) {pos : Nat} (low : pos < staMaxUsedBit) :
    getBit pos (staBitmask sta) =
      (sta.rmEnabled && decide (pos = 0) || sta.btmEnabled && decide (pos = 1) ||
        sta.mboEnabled && decide (pos = 2) || sta.ftEnabled && decide (pos = 3) ||
        sta.oweEnabled && decide (pos = 4) || sta.transitionDisable && decide (pos = 5)) := by
  have inside : pos < 32 := Nat.lt_trans low (by decide)
  have below : ¬ staMaxUsedBit ≤ pos := by omega
  simp [getBit_eq inside, staBitmask, setField_bit inside, setBitIf_bit inside, below,
    staRmEnabledBit, staBtmEnabledBit, staMboEnabledBit, staFtEnabledBit, staOweEnabledBit,
    staTransitionDisabledBit]

theorem bitmask_reserved (sta : StaConfig) {index : Nat} (inside : staMaxUsedBit + index < 32) :
    (staBitmask sta).getLsbD (staMaxUsedBit + index) = sta.reserved.getLsbD index := by
  have beyond : ∀ pos < staMaxUsedBit, staMaxUsedBit + index ≠ pos := by omega
  simp [staBitmask, setField_bit inside, setBitIf_bit inside,
    beyond staRmEnabledBit (by decide), beyond staBtmEnabledBit (by decide),
    beyond staMboEnabledBit (by decide), beyond staFtEnabledBit (by decide),
    beyond staOweEnabledBit (by decide), beyond staTransitionDisabledBit (by decide)]

theorem heBitmask_feature (sta : StaConfig) {pos : Nat} (low : pos < heMaxUsedBit) :
    (staHeBitmask sta).getLsbD pos =
      (sta.heDcmSet && decide (pos = 0) ||
        decide (1 ≤ pos) && sta.heDcmMaxConstellationTx.getLsbD (pos - 1) ||
        decide (3 ≤ pos) && sta.heDcmMaxConstellationRx.getLsbD (pos - 3) ||
        sta.heMcs9Enabled && decide (pos = 5) || sta.heSuBeamformeeDisabled && decide (pos = 6) ||
        sta.heTrigSuBmformingFeedbackDisabled && decide (pos = 7) ||
        sta.heTrigMuBmformingPartialFeedbackDisabled && decide (pos = 8) ||
        sta.heTrigCqiFeedbackDisabled && decide (pos = 9)) := by
  have inside : pos < 32 := Nat.lt_trans low (by decide)
  have below : ¬ heMaxUsedBit ≤ pos := by omega
  simp [staHeBitmask, setFieldIf_eq, setField_bit inside, setBitIf_bit inside, below,
    heDcmSetBit, heDcmMaxConstellationTxBits, heDcmMaxConstellationRxBits, heMcs9EnabledBit,
    heSuBeamformeeDisabledBit, heTrigSuBmformingFeedbackDisabledBit,
    heTrigMuBmformingPartialFeedbackDisabledBit, heTrigCqiFeedbackDisabledBit]

theorem reserved_mask : ∀ index < 26,
    staReservedBitmask.getLsbD (staMaxUsedBit + index) = decide (index < 10) := by decide

theorem heReserved_mask : ∀ index < 22,
    heReservedBitmask.getLsbD (heMaxUsedBit + index) = decide (index < 6) := by decide

theorem reserved_round_trip_iff (sta : StaConfig) :
    getField 26 staReservedBitmask staMaxUsedBit (staBitmask sta) = sta.reserved ↔
      sta.reserved.toNat < 2 ^ 10 := by
  apply getField_eq_iff
  · intro index inside
    have here : staMaxUsedBit + index < 32 := by simp only [staMaxUsedBit]; omega
    exact bitmask_reserved sta here
  · exact reserved_mask

theorem reserved_round_trip {sta : StaConfig} (fits : sta.reserved.toNat < 2 ^ 10) :
    getField 26 staReservedBitmask staMaxUsedBit (staBitmask sta) = sta.reserved :=
  (reserved_round_trip_iff sta).mpr fits

theorem constellationTx_round_trip (sta : StaConfig) :
    pickField 2 heDcmMaxConstellationTxBits 3#32 (staHeBitmask sta) =
      sta.heDcmMaxConstellationTx := by
  apply BitVec.eq_of_getLsbD_eq
  intro index inside
  have low : heDcmMaxConstellationTxBits + index < heMaxUsedBit := by
    simp only [heDcmMaxConstellationTxBits, heMaxUsedBit]
    omega
  rw [pickField_bit, heBitmask_feature sta low]
  interval_cases index <;> simp [heDcmMaxConstellationTxBits]

theorem constellationRx_round_trip (sta : StaConfig) :
    pickField 2 heDcmMaxConstellationRxBits 3#32 (staHeBitmask sta) =
      sta.heDcmMaxConstellationRx := by
  apply BitVec.eq_of_getLsbD_eq
  intro index inside
  have low : heDcmMaxConstellationRxBits + index < heMaxUsedBit := by
    simp only [heDcmMaxConstellationRxBits, heMaxUsedBit]
    omega
  rw [pickField_bit, heBitmask_feature sta low]
  interval_cases index <;> simp [heDcmMaxConstellationRxBits]

/-- The bits of `bitmask` where `he_bitmask` has the triggered feedback are those of
`reserved`. -/
theorem misread_bit (sta : StaConfig) {index : Nat} (inside : staMaxUsedBit + index < 32) :
    getBit (staMaxUsedBit + index) (staBitmask sta) = sta.reserved.getLsbD index := by
  rw [getBit_eq inside, bitmask_reserved sta inside]

theorem misread_reserved {sta : StaConfig} (fits : sta.reserved.toNat < 2 ^ 10) :
    getField 22 heReservedBitmask heMaxUsedBit (staBitmask sta) =
      (sta.reserved >>> 4).setWidth 22 := by
  apply BitVec.eq_of_getLsbD_eq
  intro index inside
  have here : staMaxUsedBit + (4 + index) < 32 := by simp only [staMaxUsedBit]; omega
  have place : heMaxUsedBit + index = staMaxUsedBit + (4 + index) := by
    simp only [heMaxUsedBit, staMaxUsedBit]
    omega
  rw [getField_bit, heReserved_mask index inside, place, bitmask_reserved sta here,
    BitVec.getLsbD_setWidth, BitVec.getLsbD_ushiftRight]
  by_cases kept : index < 6
  · simp [inside, kept]
  · simp [inside, kept, small_bit fits (show 10 ≤ 4 + index by omega)]

/-- Equal in every field the host sends. The BSSID is sent when `bssid_set` says so; `ssid`
and `password` are strings. -/
structure SameSta (got sent : StaConfig) : Prop where
  ssid : text got.ssid = text sent.ssid
  password : text got.password = text sent.password
  scanMethod : got.scanMethod = sent.scanMethod
  bssidSet : got.bssidSet = sent.bssidSet
  bssid : sent.bssidSet = true → got.bssid = sent.bssid
  channel : got.channel = sent.channel
  listenInterval : got.listenInterval = sent.listenInterval
  sortMethod : got.sortMethod = sent.sortMethod
  thresholdRssi : got.thresholdRssi = sent.thresholdRssi
  thresholdAuthmode : got.thresholdAuthmode = sent.thresholdAuthmode
  pmfCapable : got.pmfCapable = sent.pmfCapable
  pmfRequired : got.pmfRequired = sent.pmfRequired
  rmEnabled : got.rmEnabled = sent.rmEnabled
  btmEnabled : got.btmEnabled = sent.btmEnabled
  mboEnabled : got.mboEnabled = sent.mboEnabled
  ftEnabled : got.ftEnabled = sent.ftEnabled
  oweEnabled : got.oweEnabled = sent.oweEnabled
  transitionDisable : got.transitionDisable = sent.transitionDisable
  reserved : got.reserved = sent.reserved
  saePweH2e : got.saePweH2e = sent.saePweH2e
  failureRetryCnt : got.failureRetryCnt = sent.failureRetryCnt
  heDcmSet : got.heDcmSet = sent.heDcmSet
  heDcmMaxConstellationTx : got.heDcmMaxConstellationTx = sent.heDcmMaxConstellationTx
  heDcmMaxConstellationRx : got.heDcmMaxConstellationRx = sent.heDcmMaxConstellationRx
  heMcs9Enabled : got.heMcs9Enabled = sent.heMcs9Enabled
  heSuBeamformeeDisabled : got.heSuBeamformeeDisabled = sent.heSuBeamformeeDisabled
  heTrigSuBmformingFeedbackDisabled :
    got.heTrigSuBmformingFeedbackDisabled = sent.heTrigSuBmformingFeedbackDisabled
  heTrigMuBmformingPartialFeedbackDisabled :
    got.heTrigMuBmformingPartialFeedbackDisabled = sent.heTrigMuBmformingPartialFeedbackDisabled
  heTrigCqiFeedbackDisabled : got.heTrigCqiFeedbackDisabled = sent.heTrigCqiFeedbackDisabled
  heReserved : got.heReserved = sent.heReserved
  saeH2eIdentifier : got.saeH2eIdentifier = sent.saeH2eIdentifier

/-- The reserved bits of the features repeat the triggered feedback and the reserved bits
of HE, in the same order. -/
structure ReservedRepeatsHe (sta : StaConfig) : Prop where
  trigSu : sta.heTrigSuBmformingFeedbackDisabled = sta.reserved.getLsbD 1
  trigMu : sta.heTrigMuBmformingPartialFeedbackDisabled = sta.reserved.getLsbD 2
  trigCqi : sta.heTrigCqiFeedbackDisabled = sta.reserved.getLsbD 3
  tail : sta.heReserved.toNat = sta.reserved.toNat / 16

/-- The configuration the slave sets for the one the host sends. -/
def arrived (sta : StaConfig) : StaConfig :=
  takeSta (composeSta sta) { rssi := sta.thresholdRssi.toInt32, authmode := sta.thresholdAuthmode }
    { capable := sta.pmfCapable, required := sta.pmfRequired }

theorem reqWifiSetConfig_composed (sta : StaConfig) :
    reqWifiSetConfig (composeWifiSetConfig (.sta sta)) = .setSta (arrived sta) := rfl

theorem heReserved_tail {sta : StaConfig} (fits : sta.reserved.toNat < 2 ^ 10) :
    (arrived sta).heReserved = sta.heReserved ↔ sta.heReserved.toNat = sta.reserved.toNat / 16 := by
  have shifted : ((sta.reserved >>> 4).setWidth 22).toNat = sta.reserved.toNat / 16 := by
    rw [BitVec.toNat_setWidth, BitVec.toNat_ushiftRight, Nat.shiftRight_eq_div_pow]
    omega
  rw [arrived, takeSta]
  dsimp only [composeSta]
  rw [misread_reserved fits, BitVec.toNat_eq, shifted]
  exact eq_comm

theorem arrived_features (sta : StaConfig) :
    (arrived sta).rmEnabled = sta.rmEnabled ∧ (arrived sta).btmEnabled = sta.btmEnabled ∧
      (arrived sta).mboEnabled = sta.mboEnabled ∧ (arrived sta).ftEnabled = sta.ftEnabled ∧
      (arrived sta).oweEnabled = sta.oweEnabled ∧
      (arrived sta).transitionDisable = sta.transitionDisable := by
  have read := fun pos (low : pos < staMaxUsedBit) => bitmask_feature sta low
  refine ⟨(read 0 (by decide)).trans ?_, (read 1 (by decide)).trans ?_,
    (read 2 (by decide)).trans ?_, (read 3 (by decide)).trans ?_, (read 4 (by decide)).trans ?_,
    (read 5 (by decide)).trans ?_⟩
  all_goals simp

theorem arrived_he_features (sta : StaConfig) :
    (arrived sta).heDcmSet = sta.heDcmSet ∧ (arrived sta).heMcs9Enabled = sta.heMcs9Enabled ∧
      (arrived sta).heSuBeamformeeDisabled = sta.heSuBeamformeeDisabled := by
  have read := fun pos (low : pos < heMaxUsedBit) =>
    (getBit_eq (Nat.lt_trans low (by decide))).trans (heBitmask_feature sta low)
  refine ⟨(read 0 (by decide)).trans ?_, (read 5 (by decide)).trans ?_,
    (read 6 (by decide)).trans ?_⟩
  all_goals simp

theorem arrived_trig (sta : StaConfig) :
    (arrived sta).heTrigSuBmformingFeedbackDisabled = sta.reserved.getLsbD 1 ∧
      (arrived sta).heTrigMuBmformingPartialFeedbackDisabled = sta.reserved.getLsbD 2 ∧
      (arrived sta).heTrigCqiFeedbackDisabled = sta.reserved.getLsbD 3 := by
  have read := fun index (inside : staMaxUsedBit + index < 32) => misread_bit sta inside
  exact ⟨read 1 (by decide), read 2 (by decide), read 3 (by decide)⟩

theorem arrived_text (sta : StaConfig) :
    text (arrived sta).ssid = text sta.ssid ∧ text (arrived sta).password = text sta.password := by
  have ssid : (arrived sta).ssid =
      copyIn ssidLength ssidLength (reqCopyStr sta.ssid.toList ssidLength) := rfl
  have password : (arrived sta).password =
      copyIn passwordLength passwordLength (reqCopyStr sta.password.toList passwordLength) := rfl
  rw [ssid, password]
  exact ⟨text_round_trip sta.ssid, text_round_trip sta.password⟩

theorem arrived_identifier (sta : StaConfig) :
    (arrived sta).saeH2eIdentifier = sta.saeH2eIdentifier := by
  have sent : (arrived sta).saeH2eIdentifier =
      copyIn saeH2eIdentifierLen saeH2eIdentifierLen sta.saeH2eIdentifier.toList := rfl
  rw [sent, copyIn_whole]

theorem arrived_bssid {sta : StaConfig} (set : sta.bssidSet = true) :
    (arrived sta).bssid = sta.bssid := by
  have sent : (arrived sta).bssid = copyIn bssidBytesSize bssidBytesSize sta.bssid.toList := by
    simp [arrived, takeSta, composeSta, set]
  rw [sent, copyIn_whole]

theorem arrived_copies (sta : StaConfig) :
    (arrived sta).scanMethod = sta.scanMethod ∧ (arrived sta).bssidSet = sta.bssidSet ∧
      (arrived sta).sortMethod = sta.sortMethod ∧
      (arrived sta).thresholdAuthmode = sta.thresholdAuthmode ∧
      (arrived sta).pmfCapable = sta.pmfCapable ∧ (arrived sta).pmfRequired = sta.pmfRequired ∧
      (arrived sta).saePweH2e = sta.saePweH2e := by
  simp only [arrived, takeSta, composeSta, and_self]

theorem arrived_numbers (sta : StaConfig) :
    (arrived sta).channel = sta.channel ∧ (arrived sta).listenInterval = sta.listenInterval ∧
      (arrived sta).thresholdRssi = sta.thresholdRssi ∧
      (arrived sta).failureRetryCnt = sta.failureRetryCnt := by
  simp [arrived, takeSta, composeSta]

theorem arrived_same {sta : StaConfig} (fits : sta.reserved.toNat < 2 ^ 10)
    (repeats : ReservedRepeatsHe sta) : SameSta (arrived sta) sta := by
  obtain ⟨ssid, password⟩ := arrived_text sta
  obtain ⟨rm, btm, mbo, ft, owe, transition⟩ := arrived_features sta
  obtain ⟨dcm, mcs9, su⟩ := arrived_he_features sta
  obtain ⟨trigSu, trigMu, trigCqi⟩ := arrived_trig sta
  obtain ⟨scan, bssidSet, sort, authmode, capable, required, pwe⟩ := arrived_copies sta
  obtain ⟨channel, listen, rssi, retry⟩ := arrived_numbers sta
  have tx : (arrived sta).heDcmMaxConstellationTx = sta.heDcmMaxConstellationTx :=
    constellationTx_round_trip sta
  have rx : (arrived sta).heDcmMaxConstellationRx = sta.heDcmMaxConstellationRx :=
    constellationRx_round_trip sta
  have kept : (arrived sta).reserved = sta.reserved := reserved_round_trip fits
  exact
    { ssid := ssid
      password := password
      scanMethod := scan
      bssidSet := bssidSet
      bssid := arrived_bssid
      channel := channel
      listenInterval := listen
      sortMethod := sort
      thresholdRssi := rssi
      thresholdAuthmode := authmode
      pmfCapable := capable
      pmfRequired := required
      rmEnabled := rm
      btmEnabled := btm
      mboEnabled := mbo
      ftEnabled := ft
      oweEnabled := owe
      transitionDisable := transition
      reserved := kept
      saePweH2e := pwe
      failureRetryCnt := retry
      heDcmSet := dcm
      heDcmMaxConstellationTx := tx
      heDcmMaxConstellationRx := rx
      heMcs9Enabled := mcs9
      heSuBeamformeeDisabled := su
      heTrigSuBmformingFeedbackDisabled := trigSu.trans repeats.trigSu.symm
      heTrigMuBmformingPartialFeedbackDisabled := trigMu.trans repeats.trigMu.symm
      heTrigCqiFeedbackDisabled := trigCqi.trans repeats.trigCqi.symm
      heReserved := (heReserved_tail fits).mpr repeats.tail
      saeH2eIdentifier := arrived_identifier sta }

theorem same_repeats {sta : StaConfig} (fits : sta.reserved.toNat < 2 ^ 10)
    (same : SameSta (arrived sta) sta) : ReservedRepeatsHe sta := by
  obtain ⟨trigSu, trigMu, trigCqi⟩ := arrived_trig sta
  exact
    { trigSu := same.heTrigSuBmformingFeedbackDisabled.symm.trans trigSu
      trigMu := same.heTrigMuBmformingPartialFeedbackDisabled.symm.trans trigMu
      trigCqi := same.heTrigCqiFeedbackDisabled.symm.trans trigCqi
      tail := (heReserved_tail fits).mp same.heReserved }

/-- What the slave sets is what the host sent, exactly when the bits it reads from the
wrong word happen to agree. -/
theorem station_config_round_trip_iff (sta : StaConfig) (reserved : sta.reserved.toNat < 2 ^ 10) :
    (∃ got, reqWifiSetConfig (composeWifiSetConfig (.sta sta)) = .setSta got ∧ SameSta got sta) ↔
      ReservedRepeatsHe sta := by
  rw [reqWifiSetConfig_composed]
  constructor
  · rintro ⟨got, set, same⟩
    rw [← SetConfig.setSta.inj set] at same
    exact same_repeats reserved same
  · intro repeats
    exact ⟨arrived sta, rfl, arrived_same reserved repeats⟩

/-- The access point loses `sae_pwe_h2e`, which the slave reads and the host never fills in. -/
theorem ap_config_round_trip (ap : ApConfig) :
    ∃ got, reqWifiSetConfig (composeWifiSetConfig (.ap ap)) = .setAp got ∧
      text got.ssid = text ap.ssid ∧ text got.password = text ap.password ∧ got.saePweH2e = 0 ∧
      { got with ssid := ap.ssid, password := ap.password, saePweH2e := ap.saePweH2e } = ap := by
  refine ⟨takeAp (composeAp ap) { capable := ap.pmfCapable, required := ap.pmfRequired }, rfl,
    text_round_trip ap.ssid, text_round_trip ap.password, rfl, ?_⟩
  simp [takeAp, composeAp]

def blankSta : StaConfig where
  ssid := .replicate _ 0
  password := .replicate _ 0
  scanMethod := 0
  bssidSet := false
  bssid := .replicate _ 0
  channel := 0
  listenInterval := 0
  sortMethod := 0
  thresholdRssi := 0
  thresholdAuthmode := 0
  pmfCapable := false
  pmfRequired := false
  rmEnabled := false
  btmEnabled := false
  mboEnabled := false
  ftEnabled := false
  oweEnabled := false
  transitionDisable := false
  reserved := 0
  saePweH2e := 0
  failureRetryCnt := 0
  heDcmSet := false
  heDcmMaxConstellationTx := 0
  heDcmMaxConstellationRx := 0
  heMcs9Enabled := false
  heSuBeamformeeDisabled := false
  heTrigSuBmformingFeedbackDisabled := false
  heTrigMuBmformingPartialFeedbackDisabled := false
  heTrigCqiFeedbackDisabled := false
  heReserved := 0
  saeH2eIdentifier := .replicate _ 0

def trigSuSta : StaConfig := { blankSta with heTrigSuBmformingFeedbackDisabled := true }

def repeatingSta : StaConfig := { trigSuSta with reserved := 0x202, heReserved := 0x20 }

theorem station_config_round_trip_repeating :
    repeatingSta.reserved.toNat < 2 ^ 10 ∧
      ∃ got, reqWifiSetConfig (composeWifiSetConfig (.sta repeatingSta)) = .setSta got ∧
        SameSta got repeatingSta :=
  ⟨by decide, (station_config_round_trip_iff repeatingSta (by decide)).mpr
    { trigSu := by decide, trigMu := by decide, trigCqi := by decide, tail := by decide }⟩

/-- The feedback bit of `trigSuSta` is looked for in the wrong word. -/
theorem station_config_garbled :
    ¬ ∀ sta : StaConfig, sta.reserved.toNat < 2 ^ 10 → sta.heReserved.toNat < 2 ^ 6 →
      ∃ got, reqWifiSetConfig (composeWifiSetConfig (.sta sta)) = .setSta got ∧
        SameSta got sta := by
  intro claimed
  obtain ⟨got, set, same⟩ := claimed trigSuSta (by decide) (by decide)
  rw [reqWifiSetConfig_composed] at set
  rw [← SetConfig.setSta.inj set] at same
  have lost : (arrived trigSuSta).heTrigSuBmformingFeedbackDisabled = false :=
    (arrived_trig trigSuSta).1
  have kept := same.heTrigSuBmformingFeedbackDisabled
  rw [lost] at kept
  cases kept

end EspHosted.StationConfig

import EspHosted.ApRecords
import EspHosted.ConfigReadback
import EspHosted.Dialogue
import EspHosted.GuardedRun

/-!
The WLAN driver under RT-Thread, porting/wlan/esp_wlan.c: how `drv_wlan_scan`, `drv_wlan_join`,
`drv_wlan_softap` and `drv_wlan_ap_stop` bring the slave into a mode and give it a configuration.
The framework has only the return codes and the events to go by. A call to the slave that is
reported as failed may have been carried out all the same.
-/

namespace EspHosted.WlanDriver
open StationConfig ConfigReadback Dialogue GuardedRun

inductive WifiMode where
  | null
  | sta
  | ap
  | apsta
  | nan
  deriving DecidableEq

def hasSta (mode : WifiMode) : Bool := mode = .sta || mode = .apsta
def hasAp (mode : WifiMode) : Bool := mode = .ap || mode = .apsta

/-- `rt_wlan_security_t`. -/
inductive Security where
  | secOpen
  | wepPsk
  | wpaAesPsk
  | wpa2AesPsk
  | other (code : Nat)
  | unknown
  deriving DecidableEq

def securityWlanToEsp : Security → Int32
  | .secOpen => 0
  | .wepPsk => 1
  | .wpaAesPsk => 2
  | .wpa2AesPsk | .other _ | .unknown => 3

/-- `rt_sta_info`; `ssid` and `key` are strings. -/
structure StaInfo where
  ssid : List UInt8
  key : List UInt8
  keyLen : Nat

structure ApInfo where
  ssid : List UInt8
  key : List UInt8
  security : Security
  channel : Int
  hidden : Bool

def strncpy (size : Nat) (src : List UInt8) : Vector UInt8 size :=
  copyIn size size ((src.takeWhile (· ≠ 0)).take size)

/-! What the driver asks the slave. -/

inductive Ask where
  | getMode
  | setMode (mode : WifiMode)
  | setConfig (cfg : WifiCfg)
  | scanStart (ssid : Option (List UInt8))
  | scanStop
  | connect
  | disconnect
  | apGetStaAid (mac : List UInt8)
  | deauthSta (aid : UInt16)
  | getConfigAp
  | getMacAp
  | getProtocolAp
  | getBandwidthAp

abbrev Answer : Ask → Type
  | .getMode => Option WifiMode
  | .apGetStaAid _ => Option UInt16
  | .getConfigAp => Option ApConfig
  | .getMacAp => Option (List UInt8)
  | .getProtocolAp => Option UInt8
  | .getBandwidthAp => Option Int32
  | .setMode _ | .setConfig _ | .scanStart _ | .scanStop | .connect | .disconnect | .deauthSta _ => Bool

inductive Event where
  | scanDone
  | connectFail
  deriving DecidableEq

/-- The mode and the configurations the slave holds; `scans` and `connects` count the calls it
has confirmed. -/
structure Slave where
  mode : WifiMode
  sta : StaConfig
  ap : ApConfig
  scans : Nat
  connects : Nat

/-- How a call turns out: what is reported, and whether one that is reported as failed was
carried out; the other values are what the slave answers. -/
structure Outcome where
  ok : Bool
  applied : Bool
  aid : UInt16
  mac : List UInt8
  protocol : UInt8
  bandwidth : Int32
  deriving Inhabited

def Outcome.done (outcome : Outcome) : Bool := outcome.ok || outcome.applied

def Outcome.answer {Value : Type} (outcome : Outcome) (value : Value) : Option Value :=
  if outcome.ok then some value else none

def heldConfig (slave : Slave) : WifiDriver := ⟨fun _ => 0, slave.sta, slave.ap⟩

/-- The slave as the documentation of its Wi-Fi driver has it, with the conversions of both sides
in between. -/
def party : Party Answer Outcome Slave
  | slave, .getMode, outcome => (outcome.answer slave.mode, slave)
  | slave, .setMode mode, outcome =>
      (outcome.ok, if outcome.done then { slave with mode := mode } else slave)
  | slave, .setConfig cfg, outcome =>
      match reqWifiSetConfig (composeWifiSetConfig cfg) with
      | .setSta held => (outcome.ok, if outcome.done then { slave with sta := held } else slave)
      | .setAp held => (outcome.ok, if outcome.done then { slave with ap := held } else slave)
      | .refused | .nullDeref => (false, slave)
  | slave, .scanStart _, outcome =>
      (outcome.ok, if outcome.ok then { slave with scans := slave.scans + 1 } else slave)
  | slave, .connect, outcome =>
      (outcome.ok, if outcome.ok then { slave with connects := slave.connects + 1 } else slave)
  | slave, .scanStop, outcome | slave, .disconnect, outcome | slave, .deauthSta _, outcome =>
      (outcome.ok, slave)
  | slave, .apGetStaAid _, outcome => (outcome.answer outcome.aid, slave)
  | slave, .getConfigAp, outcome =>
      match readBack (heldConfig slave) wifiIfAp with
      | .ap got => (outcome.answer got, slave)
      | .sta _ | .untouched | .nullDeref => (none, slave)
  | slave, .getMacAp, outcome => (outcome.answer outcome.mac, slave)
  | slave, .getProtocolAp, outcome => (outcome.answer outcome.protocol, slave)
  | slave, .getBandwidthAp, outcome => (outcome.answer outcome.bandwidth, slave)

/-! The operations. -/

def rtEok : Int := 0
def rtError : Int := -1

abbrev Operation : Type := Talk Ask Answer Event Int

/-- How scan, join and softap look at the mode and change it. -/
def switchMode (has : WifiMode → Bool) (target : WifiMode → WifiMode) (failed rest : Operation) :
    Operation :=
  .ask .getMode fun
    | none => failed
    | some mode =>
        if has mode then rest
        else .ask (.setMode (target mode)) fun ok => if ok then rest else failed

def toSta (mode : WifiMode) : WifiMode := if mode = .ap then .apsta else .sta
def toAp (mode : WifiMode) : WifiMode := if mode = .sta then .apsta else .ap

/-- A scan that the slave does not start is over, and the return code does not say so. -/
def drvWlanScan (scanInfo : Option (List UInt8)) : Operation :=
  switchMode hasSta toSta (.tell .scanDone (.done rtError))
    (.ask (.scanStart scanInfo) fun ok =>
      if ok then .done rtEok else .tell .scanDone (.done rtEok))

def drvWlanScanStop : Operation := .ask .scanStop fun _ => .done rtEok

def joinConfig (info : StaInfo) : StaConfig :=
  { blankSta with
    ssid := strncpy ssidLength info.ssid
    password := if info.keyLen ≠ 0 then strncpy passwordLength info.key else blankSta.password }

def drvWlanJoin (info : StaInfo) : Operation :=
  let failed : Operation := .tell .connectFail (.done rtError)
  switchMode hasSta toSta failed
    (.ask (.setConfig (.sta (joinConfig info))) fun ok =>
      if ok then .ask .connect fun ok => if ok then .done 0 else failed
      else failed)

def drvWlanDisconnect : Operation := .ask .disconnect fun _ => .done 0

def leaveAp (mode : WifiMode) : Operation :=
  if mode = .apsta then .ask (.setMode .sta) fun ok => .done (if ok then rtEok else rtError)
  else if mode = .ap then .ask (.setMode .null) fun ok => .done (if ok then rtEok else rtError)
  else .done rtEok

/-- The result of `esp_wifi_get_mode` is not looked at: `stale` is what `mode` holds without. -/
def drvWlanApStop (stale : WifiMode) : Operation :=
  .ask .getMode fun got => leaveAp (got.getD stale)

def drvWlanApDeauth (mac : List UInt8) : Operation :=
  .ask (.apGetStaAid mac) fun
    | none => .done rtError
    | some aid => .ask (.deauthSta aid) fun ok => .done (if ok then rtEok else rtError)

/-- `ESP_WIFI_MAX_CONN_NUM` goes with the chip. -/
def softapConfig (espWifiMaxConnNum : UInt8) (info : ApInfo) : ApConfig :=
  { blankAp with
    ssid := strncpy ssidLength info.ssid
    password := strncpy passwordLength info.key
    channel := UInt8.ofNat (info.channel % 256).toNat
    authmode := securityWlanToEsp info.security
    ssidHidden := if info.hidden then 1 else 0
    maxConnection := espWifiMaxConnNum }

def drvWlanSoftap (espWifiMaxConnNum : UInt8) (info : ApInfo) : Operation :=
  switchMode hasAp toAp (.done rtError)
    (.ask (.setConfig (.ap (softapConfig espWifiMaxConnNum info))) fun ok =>
      .done (if ok then rtEok else rtError))

end EspHosted.WlanDriver

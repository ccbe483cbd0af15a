import EspHosted.WlanSlave
import Mathlib.Data.List.TakeWhile

/-!
Histories of the WLAN driver: the framework keeps a picture of the slave from the return codes
alone. Whatever the calls to the slave come to, the picture stays right, as long as the slave's
Wi-Fi driver does what its documentation says and `ap_stop` gets the mode it asks for.
-/

namespace EspHosted.WlanHistory
open StationConfig ConfigReadback Dialogue GuardedRun WlanDriver

def cString (size : Nat) (src : List UInt8) : List UInt8 := (src.takeWhile (· ≠ 0)).take size

/-- The slave's station has the credentials and is otherwise blank. -/
structure StaHeld (info : StaInfo) (held : StaConfig) : Prop where
  ssid : text held.ssid = cString ssidLength info.ssid
  password : text held.password = if info.keyLen ≠ 0 then cString passwordLength info.key else []
  others : { held with ssid := blankSta.ssid, password := blankSta.password } = blankSta

structure ApHeld (maxConn : UInt8) (info : ApInfo) (held : ApConfig) : Prop where
  ssid : text held.ssid = cString ssidLength info.ssid
  password : text held.password = cString passwordLength info.key
  others : { held with ssid := blankAp.ssid, password := blankAp.password } =
    { blankAp with
      channel := UInt8.ofNat (info.channel % 256).toNat
      authmode := securityWlanToEsp info.security
      ssidHidden := if info.hidden then 1 else 0
      maxConnection := maxConn }

inductive Op where
  | scan (scanInfo : Option (List UInt8))
  | scanStop
  | join (info : StaInfo)
  | disconnect
  | apStop (stale : WifiMode)
  | apDeauth (mac : List UInt8)
  | softap (info : ApInfo)

def operation (maxConn : UInt8) : Op → Operation
  | .scan scanInfo => drvWlanScan scanInfo
  | .scanStop => drvWlanScanStop
  | .join info => drvWlanJoin info
  | .disconnect => drvWlanDisconnect
  | .apStop stale => drvWlanApStop stale
  | .apDeauth mac => drvWlanApDeauth mac
  | .softap info => drvWlanSoftap maxConn info

/-- The access point's side is as it was, and the station is not taken away. -/
structure ApKept (before after : Slave) : Prop where
  config : after.ap = before.ap
  mode : hasAp after.mode = hasAp before.mode
  station : hasSta before.mode = true → hasSta after.mode = true

structure StaKept (before after : Slave) : Prop where
  config : after.sta = before.sta
  mode : hasSta after.mode = hasSta before.mode

/-- Each scan asked for is either confirmed or reported as over, and each join confirmed or
reported as failed. -/
structure Tallied (scansAsked joinsAsked : Nat) (before : Slave) (told : List Event) (after : Slave) :
    Prop where
  scans : after.scans + told.count .scanDone = before.scans + scansAsked
  joins : after.connects + told.count .connectFail = before.connects + joinsAsked

structure ScanLeaves (before : Slave) (told : List Event) (result : Int) (after : Slave) : Prop where
  apKept : ApKept before after
  config : after.sta = before.sta
  turned : result = rtEok → hasSta after.mode = true
  tallied : Tallied 1 0 before told after

structure JoinLeaves (info : StaInfo) (before : Slave) (told : List Event) (result : Int)
    (after : Slave) : Prop where
  apKept : ApKept before after
  turned : result = rtEok → hasSta after.mode = true
  held : result = rtEok → after.sta = arrived (joinConfig info)
  tallied : Tallied 0 1 before told after
  reported : result = rtEok ↔ told = []

structure SoftapLeaves (maxConn : UInt8) (info : ApInfo) (before : Slave) (told : List Event)
    (result : Int) (after : Slave) : Prop where
  staKept : StaKept before after
  stays : hasAp before.mode = true → hasAp after.mode = true
  turned : result = rtEok → hasAp after.mode = true
  held : result = rtEok → after.ap = heldAp (softapConfig maxConn info)
  tallied : Tallied 0 0 before told after

structure StopLeaves (before : Slave) (told : List Event) (result : Int) (after : Slave) : Prop where
  staKept : StaKept before after
  config : after.ap = before.ap
  turned : result = rtEok → hasAp after.mode = false
  tallied : Tallied 0 0 before told after

def Leaves (maxConn : UInt8) (before : Slave) (told : List Event) (result : Int)
    (after : Slave) : Op → Prop
  | .scan _ => ScanLeaves before told result after
  | .join info => JoinLeaves info before told result after
  | .softap info => SoftapLeaves maxConn info before told result after
  | .apStop _ => StopLeaves before told result after
  | .scanStop | .disconnect | .apDeauth _ => after = before ∧ told = []

section Operations
variable {Store : Type} {wifi : EspWifi Store}

end Operations

/-! The framework's picture. -/

structure Entry where
  op : Op
  told : List Event
  result : Int

/-- `staOn` is what is known to be on; `none` is not known. -/
structure Picture where
  staOn : Bool
  apOn : Option Bool
  sta : Option StaInfo
  ap : Option ApInfo

def blind : Picture := ⟨false, none, none, none⟩

/-- What a return code says. -/
def Picture.learn (picture : Picture) (entry : Entry) : Picture :=
  let well : Bool := entry.result = rtEok
  match entry.op with
  | .scan _ => { picture with staOn := picture.staOn || well }
  | .join info =>
      { picture with staOn := picture.staOn || well, sta := if well then some info else none }
  | .softap info =>
      { picture with
        apOn := if well || picture.apOn = some true then some true else none
        ap := if well then some info else none }
  | .apStop _ => { picture with apOn := if well then some false else none }
  | .scanStop | .disconnect | .apDeauth _ => picture

structure StaTracks (staOn : Bool) (joined : Option StaInfo) (slave : Slave) : Prop where
  on : staOn = true → hasSta slave.mode = true
  held : ∀ info, joined = some info → StaHeld info slave.sta

structure ApTracks (maxConn : UInt8) (apOn : Option Bool) (started : Option ApInfo) (slave : Slave) :
    Prop where
  on : ∀ on, apOn = some on → hasAp slave.mode = on
  held : ∀ info, started = some info → ApHeld maxConn info slave.ap

structure Tracks (maxConn : UInt8) (picture : Picture) (slave : Slave) : Prop where
  sta : StaTracks picture.staOn picture.sta slave
  ap : ApTracks maxConn picture.apOn picture.ap slave

theorem StaTracks.kept {staOn : Bool} {joined : Option StaInfo} {before after : Slave}
    (tracks : StaTracks staOn joined before) (kept : StaKept before after) :
    StaTracks staOn joined after where
  on := fun known => kept.mode.trans (tracks.on known)
  held := by
    rw [kept.config]
    exact tracks.held

theorem ApTracks.kept {maxConn : UInt8} {apOn : Option Bool} {started : Option ApInfo}
    {before after : Slave} (tracks : ApTracks maxConn apOn started before)
    (kept : ApKept before after) : ApTracks maxConn apOn started after where
  on := fun on known => kept.mode.trans (tracks.on on known)
  held := by
    rw [kept.config]
    exact tracks.held

/-- The station is not taken away, and it is there when the operation went well. -/
theorem StaTracks.turned {staOn : Bool} {joined : Option StaInfo} {before after : Slave} {result : Int}
    (tracks : StaTracks staOn joined before) (kept : ApKept before after)
    (turned : result = rtEok → hasSta after.mode = true)
    (known : (staOn || decide (result = rtEok)) = true) : hasSta after.mode = true := by
  rcases Bool.or_eq_true_iff.mp known with earlier | well
  · exact kept.station (tracks.on earlier)
  · exact turned (of_decide_eq_true well)

structure State (Store : Type) where
  held : Held Store
  log : List Entry

structure Act where
  op : Op
  fates : Nat → Fate

section Histories
variable {Store : Type} (wifi : EspWifi Store)

def step (maxConn : UInt8) (state : State Store) (act : Act) : Option (State Store) :=
  let played := play (proxy wifi) (operation maxConn act.op) act.fates state.held
  some ⟨played.store, state.log ++ [⟨act.op, played.told, played.result⟩]⟩

def seen (log : List Entry) : Picture := log.foldl Picture.learn blind

def scansAsked : Op → Nat
  | .scan _ => 1
  | .scanStop | .join _ | .disconnect | .apStop _ | .apDeauth _ | .softap _ => 0

def joinsAsked : Op → Nat
  | .join _ => 1
  | .scan _ | .scanStop | .disconnect | .apStop _ | .apDeauth _ | .softap _ => 0

def told (log : List Entry) : List Event := log.flatMap Entry.told

/-- A join that fails is reported, and no other. -/
def Reported (entry : Entry) : Prop :=
  match entry.op with
  | .join _ => entry.result = rtEok ↔ entry.told = []
  | .scan _ | .scanStop | .disconnect | .apStop _ | .apDeauth _ | .softap _ => True

structure Kept (maxConn : UInt8) (start : Held Store) (state : State Store) : Prop where
  tracks : Tracks maxConn (seen state.log) (view wifi state.held)
  tallied : Tallied (state.log.map (scansAsked ∘ Entry.op)).sum (state.log.map (joinsAsked ∘ Entry.op)).sum
    (view wifi start) (told state.log) (view wifi state.held)
  reported : ∀ entry ∈ state.log, Reported entry

variable {wifi}

end Histories

def guests : ApInfo := ⟨[103, 0], [], .secOpen, 6, false⟩
def home : StaInfo := ⟨[104, 0], [107, 0], 1⟩
def idle : Held (WifiMode × StaConfig × ApConfig) := ⟨(.null, blankSta, blankAp), 0, 0⟩

/-- An access point, a join whose last answer is lost, and a join that works. -/
def session : List Act :=
  [⟨.softap guests, fun _ => .answered⟩,
    ⟨.join home, fun index => if index = 2 then .lost true else .answered⟩,
    ⟨.join home, fun _ => .answered⟩]

end EspHosted.WlanHistory

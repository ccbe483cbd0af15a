import EspHosted.EventForwarding
import EspHosted.GuardedRun
import EspHosted.HostFrames

/-!
The events of the Wi-Fi driver from the slave to the WLAN framework of the host. The slave's
`event_handler` keeps its own flags and sends a notice, `rpc_evt_handler` makes a message of
it where memory is found, and the host takes the message as in `EventForwarding`. The link
between them delivers what is sent in its order, so one step is an event with all that
follows from it. There is no next world where the slave or the host follows NULL.
-/

namespace EspHosted.EventMirror
open EventForwarding HostFrames GuardedRun
open StationConfig (bssidBytesSize ssidLength)

def rpcErrMemoryFailure : Int32 := 0x2f06

/-- The events whose data `event_handler` passes on. -/
def withData : List Int :=
  [wifiEventApStaconnected, wifiEventApStadisconnected, wifiEventScanDone, wifiEventStaConnected,
    wifiEventStaDisconnected]

/-- What the driver calls `event_handler` with; of every other event only the number is read. -/
inductive WifiEvent where
  | apStaconnected (data : ApStaConnected)
  | apStadisconnected (data : ApStaDisconnected)
  | scanDone (data : StaScanDone)
  | staConnected (data : StaConnected)
  | staDisconnected (data : StaDisconnected)
  | other (eventId : Int32) (bare : eventId.toInt ∉ withData)

/-- The state of the slave that its events change; a callback is registered or NULL. -/
structure Slave where
  stationConnected : Bool
  softapStarted : Bool
  staRxcb : Bool
  apRxcb : Bool
  hbNum : UInt32
  deriving DecidableEq, Repr

/-- The number of a notice with the data that goes along. -/
inductive Said where
  | espInit
  | heartbeat
  | apStaConnected (data : ApStaConnected)
  | apStaDisconnected (data : ApStaDisconnected)
  | staScanDone (data : StaScanDone)
  | staConnected (data : StaConnected)
  | staDisconnected (data : StaDisconnected)
  | wifiEventNoArgs (data : Vector UInt8 4)

/-- The bytes of an `int32_t`, the least significant one first. -/
def idBytes (eventId : Int32) : Vector UInt8 4 :=
  Vector.ofFn fun index => (eventId.toUInt32 >>> UInt32.ofNat (8 * index)).toUInt8

/-- What `event_handler` does with an event that has no data. -/
def otherEvent (slave : Slave) (eventId : Int32) : Slave × Said :=
  let slave :=
    if eventId.toInt = wifiEventApStart then { slave with apRxcb := true, softapStarted := true }
    else if eventId.toInt = wifiEventApStop then
      { slave with apRxcb := false, softapStarted := false }
    else slave
  (slave, .wifiEventNoArgs (idBytes eventId))

def eventHandler (slave : Slave) : WifiEvent → Slave × Said
  | .apStaconnected data => (slave, .apStaConnected data)
  | .apStadisconnected data => (slave, .apStaDisconnected data)
  | .scanDone data => (slave, .staScanDone data)
  | .staConnected data =>
      ({ slave with staRxcb := true, stationConnected := true }, .staConnected data)
  | .staDisconnected data =>
      ({ slave with stationConnected := false, staRxcb := false }, .staDisconnected data)
  | .other eventId _ => otherEvent slave eventId

/-- Which of the requests of `rpc_evt_handler` find memory: for the payload, for an element of
it, and for the packed message. -/
structure Found where
  payload : Bool
  element : Bool
  outbuf : Bool
  deriving DecidableEq, Repr

/-- NTFY_ALLOC_ELEMENT: without memory the message goes out all the same, with its status. -/
def allocElement {Element : Type} (found : Found) (element : Element) : Int32 × Option Element :=
  if found.element then (0, some element) else (rpcErrMemoryFailure, none)

def rpcEvtApStaConnected (data : ApStaConnected) : ApStaConnectedMsg :=
  { resp := 0, mac := data.mac.toList, aid := data.aid.toUInt32, isMeshChild := data.isMeshChild }

def rpcEvtApStaDisconnected (data : ApStaDisconnected) : ApStaDisconnectedMsg :=
  { rpcEvtApStaConnected data.toApStaConnected with reason := data.reason.toUInt32 }

def rpcEvtStaScanDone (data : StaScanDone) : ScanDoneMsg :=
  { status := data.status, number := data.number.toUInt32, scanId := data.scanId.toUInt32 }

def rpcEvtStaConnected (data : StaConnected) : StaConnectedMsg :=
  { ssid := data.ssid.toList, ssidLen := data.ssidLen.toUInt32, bssid := data.bssid.toList,
    channel := data.channel.toUInt32, authmode := data.authmode, aid := Int32.ofNat data.aid.toNat }

def rpcEvtStaDisconnected (data : StaDisconnected) : StaDisconnectedMsg :=
  { ssid := data.ssid.toList, ssidLen := data.ssidLen.toUInt32, bssid := data.bssid.toList,
    reason := data.reason.toUInt32, rssi := data.rssi.toInt32 }

/-- `(int32_t)*data`, which is the first of the four bytes. -/
def rpcEvtWifiEventNoArgs (data : Vector UInt8 4) : NoArgsMsg :=
  { resp := 0, eventId := (data.get 0).toUInt32.toInt32 }

/-- The message of a notice whose payload has found memory. -/
def notification (found : Found) (hbNum : UInt32) : Said → Evt
  | .espInit => .espInit
  | .heartbeat => .heartbeat (some hbNum.toInt32)
  | .apStaConnected data => .apStaConnected (some (rpcEvtApStaConnected data))
  | .apStaDisconnected data => .apStaDisconnected (some (rpcEvtApStaDisconnected data))
  | .staScanDone data =>
      let (resp, scanDone) := allocElement found (rpcEvtStaScanDone data)
      .staScanDone (some { resp := resp, scanDone := scanDone })
  | .staConnected data => .staConnected (some (allocElement found (rpcEvtStaConnected data)))
  | .staDisconnected data =>
      .staDisconnected (some (allocElement found (rpcEvtStaDisconnected data)))
  | .wifiEventNoArgs data => .wifiEventNoArgs (some (rpcEvtWifiEventNoArgs data))

/-- `esp_rpc_cleanup` looks for the element of such a notice behind the pointer to its payload. -/
def throughPayload : Said → Bool
  | .staScanDone _ | .staConnected _ | .staDisconnected _ => true
  | .espInit | .heartbeat | .apStaConnected _ | .apStaDisconnected _ | .wifiEventNoArgs _ => false

/-- `none` where the slave follows a pointer that is NULL, `some none` where the notice is not
sent. -/
def rpcEvtHandler (found : Found) (hbNum : UInt32) (said : Said) : Option (Option Evt) :=
  if !found.payload && throughPayload said then none
  else if found.payload && found.outbuf then some (some (notification found hbNum said))
  else some none

/-- The events the host's callback is called with, and what the WLAN framework is told. -/
structure World where
  slave : Slave
  heard : List AppEvent
  told : List WlanEvent

/-- What follows from the call of the callback; `none` where the host follows NULL. -/
def tell (app : AppEvent) : Option (List WlanEvent) :=
  ((rpcEventCallback app).mapM hostedWifiEventPost).map List.flatten

def World.tells (world : World) (app : AppEvent) (told : List WlanEvent) : World :=
  { world with heard := world.heard ++ [app], told := world.told ++ told }

def hear (msg : Evt) (world : World) : Option World :=
  match rpcParseEvt msg with
  | .lost => none
  | .failure => some world
  | .success app => (tell app).map (world.tells app)

def send (found : Found) (said : Said) (world : World) : Option World :=
  match rpcEvtHandler found world.slave.hbNum said with
  | none => none
  | some none => some world
  | some (some msg) => hear msg world

inductive Act where
  | boot (found : Found)
  | wifi (event : WifiEvent) (found : Found)
  | heartbeat (found : Found)

def step (world : World) : Act → Option World
  | .boot found => send found .espInit world
  | .wifi event found =>
      let (slave, said) := eventHandler world.slave event
      send found said { world with slave := slave }
  | .heartbeat found =>
      (send found .heartbeat world).map fun world =>
        { world with slave := { world.slave with hbNum := world.slave.hbNum + 1 } }

/-- Nothing is connected and nothing was said. -/
def booted : World where
  slave := { stationConnected := false, softapStarted := false, staRxcb := false, apRxcb := false,
             hbNum := 0 }
  heard := []
  told := []

/-! What the host should make of the events. -/

def lowByte (eventId : Int32) : UInt8 := eventId.toUInt32.toUInt8

/-- The event as the host knows it: of a lost connection without the length of the name, of an
event without data the low byte of its number. -/
def arrived : WifiEvent → Event
  | .apStaconnected data => .apStaConnected data
  | .apStadisconnected data => .apStaDisconnected data
  | .scanDone data => .staScanDone data
  | .staConnected data => .staConnected data
  | .staDisconnected data => .staDisconnected { data with ssidLen := 0 }
  | .other eventId _ => .wifiSimple (lowByte eventId).toUInt32.toInt32

/-- A station whose address begins with a zero is passed over. -/
def indicated : Event → List WlanEvent
  | .espInit | .heartbeat _ => []
  | .apStaConnected data => if firstByte data.mac ≠ 0 then [.apAssociated data.mac] else []
  | .apStaDisconnected data => if firstByte data.mac ≠ 0 then [.apDisassociated data.mac] else []
  | .staConnected _ => [.connect]
  | .staDisconnected data =>
      (if wifiReasonBeaconTimeout ≤ data.reason then [.connectFail] else []) ++ [.disconnect]
  | .staScanDone data => if 0 < data.number then [.scanThread data] else [.scanDone]
  | .wifiSimple eventId =>
      if eventId.toInt = wifiEventApStart then [.apStart]
      else if eventId.toInt = wifiEventApStop then [.apStop]
      else if eventId.toInt = wifiEventScanDone then [.scanDone]
      else []

theorem copied {size : Nat} (field : Vector UInt8 size) :
    ConfigReadback.rspCopyBytes size field.toList = field := by
  rw [ConfigReadback.rspCopyBytes_eq, StationConfig.copyIn_whole]

def needsElement : WifiEvent → Bool
  | .scanDone _ | .staConnected _ | .staDisconnected _ => true
  | _ => false

def Found.sends (found : Found) : Bool := found.payload && found.outbuf

def arrives (found : Found) (event : WifiEvent) : Bool :=
  found.sends && (found.element || !needsElement event)

/-- What the host hears of an action. -/
def Act.hears (hbNum : UInt32) : Act → List AppEvent
  | .boot found => if found.sends then [⟨0, .espInit⟩] else []
  | .wifi event found => if arrives found event then [⟨0, arrived event⟩] else []
  | .heartbeat found => if found.sends then [⟨0, .heartbeat hbNum⟩] else []

def slaveAfter (slave : Slave) : Act → Slave
  | .boot _ => slave
  | .wifi event _ => (eventHandler slave event).1
  | .heartbeat _ => { slave with hbNum := slave.hbNum + 1 }

def World.hear (world : World) (apps : List AppEvent) : World :=
  { world with heard := world.heard ++ apps,
               told := world.told ++ apps.flatMap fun app => indicated app.event }

/-- The next world of an action that is not fatal. -/
def follow (world : World) (act : Act) : World :=
  { world.hear (act.hears world.slave.hbNum) with slave := slaveAfter world.slave act }

variable {found : Found} {event : WifiEvent} {world : World} {said : Said}

def Act.beats : Act → UInt32
  | .heartbeat _ => 1
  | .boot _ | .wifi _ _ => 0

/-- What the host hears of a history; the heartbeats are numbered through, also those that are
not sent. -/
def hearing (hbNum : UInt32) : List Act → List AppEvent
  | [] => []
  | act :: rest => act.hears hbNum ++ hearing (hbNum + act.beats) rest

/-- A state of the framework of the host, as it can tell from what it is told. -/
structure Picture where
  linked : Bool
  apUp : Bool
  deriving DecidableEq, Repr

def see (picture : Picture) : WlanEvent → Picture
  | .connect => { picture with linked := true }
  | .disconnect => { picture with linked := false }
  | .apStart => { picture with apUp := true }
  | .apStop => { picture with apUp := false }
  | .connectFail | .apAssociated _ | .apDisassociated _ | .scanDone | .scanThread _ => picture

def picture (told : List WlanEvent) : Picture :=
  told.foldl see { linked := false, apUp := false }

/-- Memory is found for all of the message, and the number of an event without data fits one
byte. -/
def Act.Whole : Act → Prop
  | .wifi event found => found.sends = true ∧ found.element = true ∧
      ∀ eventId bare, event = .other eventId bare → 0 ≤ eventId.toInt ∧ eventId.toInt < 256
  | .boot _ | .heartbeat _ => True

/-- What every step keeps of a world. -/
structure Registered (slave : Slave) : Prop where
  sta : slave.staRxcb = slave.stationConnected
  ap : slave.apRxcb = slave.softapStarted

def flags (slave : Slave) : Picture :=
  { linked := slave.stationConnected, apUp := slave.softapStarted }

end EspHosted.EventMirror

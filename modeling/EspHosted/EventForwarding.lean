import EspHosted.ConfigReadback

/-!
Events of the slave on their way to the WLAN framework: `rpc_parse_evt` copies the decoded
message into a `ctrl_cmd_t` of zeros, `rpc_event_callback` posts it, and
`hosted_wifi_event_post` indicates it. Between the second and the third an event of the soft-AP
is dropped when `strlen` of its binary address is 0.
-/

namespace EspHosted.EventForwarding
open StationConfig (strlen bssidBytesSize ssidLength)
open ConfigReadback (rspCopyBytes)

abbrev Mac := Vector UInt8 bssidBytesSize

def wifiEventScanDone : Int := 1
def wifiEventStaConnected : Int := 4
def wifiEventStaDisconnected : Int := 5
def wifiEventApStart : Int := 12
def wifiEventApStop : Int := 13
def wifiEventApStaconnected : Int := 14
def wifiEventApStadisconnected : Int := 15
def wifiReasonBeaconTimeout : UInt8 := 200

/-! The decoded messages; an empty byte field is NULL. -/

structure ApStaConnectedMsg where
  resp : Int32
  mac : List UInt8
  aid : UInt32
  isMeshChild : Bool

structure ApStaDisconnectedMsg extends ApStaConnectedMsg where
  reason : UInt32

structure NoArgsMsg where
  resp : Int32
  eventId : Int32

structure ScanDoneMsg where
  status : UInt32
  number : UInt32
  scanId : UInt32

structure StaScanDoneMsg where
  resp : Int32
  scanDone : Option ScanDoneMsg

structure StaConnectedMsg where
  ssid : List UInt8
  ssidLen : UInt32
  bssid : List UInt8
  channel : UInt32
  authmode : Int32
  aid : Int32

structure StaDisconnectedMsg where
  ssid : List UInt8
  ssidLen : UInt32
  bssid : List UInt8
  reason : UInt32
  rssi : Int32

/-- An event by its kind, with `none` for a payload that is NULL. -/
inductive Evt where
  | espInit
  | heartbeat (hbNum : Option Int32)
  | apStaConnected (msg : Option ApStaConnectedMsg)
  | apStaDisconnected (msg : Option ApStaDisconnectedMsg)
  | wifiEventNoArgs (msg : Option NoArgsMsg)
  | staScanDone (msg : Option StaScanDoneMsg)
  /-- The status, and the sub-message. -/
  | staConnected (msg : Option (Int32 × Option StaConnectedMsg))
  | staDisconnected (msg : Option (Int32 × Option StaDisconnectedMsg))
  | unsupported

/-! What the host makes of them, `wifi_event_..._t`. -/

structure ApStaConnected where
  mac : Mac
  aid : UInt8
  isMeshChild : Bool

structure ApStaDisconnected extends ApStaConnected where
  reason : UInt16

structure StaScanDone where
  status : UInt32
  number : UInt8
  scanId : UInt8

structure StaConnected where
  ssid : Vector UInt8 ssidLength
  ssidLen : UInt8
  bssid : Mac
  channel : UInt8
  authmode : Int32
  aid : UInt16

structure StaDisconnected where
  ssid : Vector UInt8 ssidLength
  ssidLen : UInt8
  bssid : Mac
  reason : UInt8
  rssi : Int8

/-- The member of the union that goes with `msg_id`. -/
inductive Event where
  | espInit
  | heartbeat (hbNum : UInt32)
  | apStaConnected (event : ApStaConnected)
  | apStaDisconnected (event : ApStaDisconnected)
  | wifiSimple (wifiEventId : Int32)
  | staScanDone (event : StaScanDone)
  | staConnected (event : StaConnected)
  | staDisconnected (event : StaDisconnected)

structure AppEvent where
  respEventStatus : Int32
  event : Event

/-- `lost` where a sub-message that is NULL is followed. -/
inductive Parsed where
  | success (app : AppEvent)
  | failure
  | lost

def zeros (size : Nat) : Vector UInt8 size := Vector.replicate size 0

/-- The address is only copied, and only tested, for a `resp` of 0. -/
def parseMac (resp : Int32) (mac : List UInt8) : Option Mac :=
  if resp ≠ 0 then some (zeros _)
  else if mac = [] then none
  else some (rspCopyBytes bssidBytesSize mac)

def parseApStaConnected (msg : ApStaConnectedMsg) : Option ApStaConnected :=
  (parseMac msg.resp msg.mac).map fun mac =>
    { mac := mac, aid := msg.aid.toUInt8, isMeshChild := msg.isMeshChild }

def parseStaConnected (resp : Int32) (msg : StaConnectedMsg) : Option StaConnected :=
  if resp ≠ 0 then
    some { ssid := zeros _, ssidLen := 0, bssid := zeros _, channel := 0, authmode := 0, aid := 0 }
  else if msg.ssid = [] ∨ msg.bssid = [] then none
  else
    some { ssid := rspCopyBytes ssidLength msg.ssid, ssidLen := msg.ssidLen.toUInt8,
           bssid := rspCopyBytes bssidBytesSize msg.bssid, channel := msg.channel.toUInt8,
           authmode := msg.authmode, aid := UInt16.ofInt msg.aid.toInt }

/-- `ssid_len` is not copied. -/
def parseStaDisconnected (resp : Int32) (msg : StaDisconnectedMsg) : Option StaDisconnected :=
  if resp ≠ 0 then
    some { ssid := zeros _, ssidLen := 0, bssid := zeros _, reason := 0, rssi := 0 }
  else if msg.ssid = [] ∨ msg.bssid = [] then none
  else
    some { ssid := rspCopyBytes ssidLength msg.ssid, ssidLen := 0,
           bssid := rspCopyBytes bssidBytesSize msg.bssid, reason := msg.reason.toUInt8,
           rssi := msg.rssi.toInt8 }

def parsed (status : Int32) : Option Event → Parsed
  | none => .failure
  | some event => .success { respEventStatus := status, event := event }

def rpcParseEvt : Evt → Parsed
  | .espInit => parsed 0 (some .espInit)
  | .heartbeat hbNum => parsed 0 (hbNum.map fun hbNum => .heartbeat hbNum.toUInt32)
  | .apStaConnected none | .apStaDisconnected none | .wifiEventNoArgs none | .staScanDone none
  | .staConnected none | .staDisconnected none | .unsupported => .failure
  | .apStaConnected (some msg) =>
      parsed msg.resp ((parseApStaConnected msg).map .apStaConnected)
  | .apStaDisconnected (some msg) =>
      parsed msg.resp ((parseApStaConnected msg.toApStaConnectedMsg).map fun event =>
        .apStaDisconnected { event with reason := msg.reason.toUInt16 })
  | .wifiEventNoArgs (some msg) => parsed msg.resp (some (.wifiSimple msg.eventId))
  | .staScanDone (some msg) =>
      match msg.scanDone with
      | none => .lost
      | some scanDone =>
          parsed msg.resp (some (.staScanDone
            { status := scanDone.status, number := scanDone.number.toUInt8,
              scanId := scanDone.scanId.toUInt8 }))
  -- the sub-message is tested
  | .staConnected (some (resp, msg)) =>
      parsed resp ((msg.bind (parseStaConnected resp)).map .staConnected)
  | .staDisconnected (some (resp, msg)) =>
      parsed resp ((msg.bind (parseStaDisconnected resp)).map .staDisconnected)

/-- `data` is the pointer that is passed, `none` for 0. -/
structure Post where
  eventId : Int
  data : Option Event

def boolByte (flag : Bool) : UInt8 := if flag then 1 else 0

/-- From the address on, up to the zeros behind the event. -/
def ApStaConnected.memory (event : ApStaConnected) : List UInt8 :=
  event.mac.toList ++ [event.aid, boolByte event.isMeshChild]

def ApStaDisconnected.memory (event : ApStaDisconnected) : List UInt8 :=
  event.toApStaConnected.memory ++ [event.reason.toUInt8, (event.reason >>> 8).toUInt8]

/-- The status of the event is not looked at. -/
def rpcEventCallback (app : AppEvent) : List Post :=
  match app.event with
  | .espInit | .heartbeat _ => []
  | .apStaConnected event =>
      if strlen event.memory ≠ 0 then
        [{ eventId := wifiEventApStaconnected, data := some app.event }]
      else []
  | .apStaDisconnected event =>
      if strlen event.memory ≠ 0 then
        [{ eventId := wifiEventApStadisconnected, data := some app.event }]
      else []
  | .staConnected _ => [{ eventId := wifiEventStaConnected, data := some app.event }]
  | .staDisconnected _ => [{ eventId := wifiEventStaDisconnected, data := some app.event }]
  | .wifiSimple wifiEventId => [{ eventId := wifiEventId.toInt, data := none }]
  | .staScanDone _ => [{ eventId := wifiEventScanDone, data := some app.event }]

/-- The callback is called for an event that is parsed. -/
def handleEvent (msg : Evt) : List Post :=
  match rpcParseEvt msg with
  | .success app => rpcEventCallback app
  | .failure | .lost => []

/-- What the WLAN framework is told; `scanThread` starts `send_ap_record_to_wlan`. -/
inductive WlanEvent where
  | connectFail
  | disconnect
  | connect
  | apStart
  | apStop
  | apAssociated (bssid : Mac)
  | apDisassociated (bssid : Mac)
  | scanDone
  | scanThread (info : StaScanDone)

/-- `none` where the data is followed and is NULL. -/
def hostedWifiEventPost (post : Post) : Option (List WlanEvent) :=
  if post.eventId = wifiEventStaDisconnected then
    match post.data with
    | some (.staDisconnected info) =>
        some ((if wifiReasonBeaconTimeout ≤ info.reason then [.connectFail] else []) ++ [.disconnect])
    | _ => some []
  else if post.eventId = wifiEventStaConnected then
    some (if post.data.isSome then [.connect] else [])
  else if post.eventId = wifiEventApStart then some [.apStart]
  else if post.eventId = wifiEventApStop then some [.apStop]
  else if post.eventId = wifiEventApStaconnected then
    match post.data with
    | some (.apStaConnected info) => some [.apAssociated info.mac]
    | _ => none
  else if post.eventId = wifiEventApStadisconnected then
    match post.data with
    | some (.apStaDisconnected info) => some [.apDisassociated info.mac]
    | _ => none
  else if post.eventId = wifiEventScanDone then
    match post.data with
    | some (.staScanDone info) =>
        some (if 0 < info.number then [.scanThread info] else [.scanDone])
    | _ => some [.scanDone]
  else some []

/-! The events of the soft-AP, with the address of a station. -/

inductive ApEvent where
  | connected (mac : Mac) (aid : UInt32) (isMeshChild : Bool)
  | disconnected (mac : Mac) (aid : UInt32) (isMeshChild : Bool) (reason : UInt32)

/-- The decoded message, with `resp` 0. -/
def ApEvent.message : ApEvent → Evt
  | .connected mac aid isMeshChild =>
      .apStaConnected (some
        { resp := 0, mac := mac.toList, aid := aid, isMeshChild := isMeshChild })
  | .disconnected mac aid isMeshChild reason =>
      .apStaDisconnected (some
        { resp := 0, mac := mac.toList, aid := aid, isMeshChild := isMeshChild, reason := reason })

def ApEvent.mac : ApEvent → Mac
  | .connected mac _ _ | .disconnected mac _ _ _ => mac

/-- The numbers fit the fields of the host. -/
def ApEvent.Narrow : ApEvent → Prop
  | .connected _ aid _ => aid.toNat < 256
  | .disconnected _ aid _ reason => aid.toNat < 256 ∧ reason.toNat < 65536

structure SameStation (mac : Mac) (aid : UInt32) (isMeshChild : Bool) (event : ApStaConnected) :
    Prop where
  mac : event.mac = mac
  aid : event.aid.toNat = aid.toNat
  isMeshChild : event.isMeshChild = isMeshChild

/-- Just one event is posted, and it is the one of the message. -/
def Forwarded : ApEvent → List Post → Prop
  | .connected mac aid isMeshChild, posts =>
      ∃ event, posts =
          [{ eventId := wifiEventApStaconnected, data := some (.apStaConnected event) }] ∧
        SameStation mac aid isMeshChild event
  | .disconnected mac aid isMeshChild reason, posts =>
      ∃ event, posts =
          [{ eventId := wifiEventApStadisconnected, data := some (.apStaDisconnected event) }] ∧
        SameStation mac aid isMeshChild event.toApStaConnected ∧
        event.reason.toNat = reason.toNat

def firstByte (mac : Mac) : UInt8 := mac.get ⟨0, by decide⟩

theorem mac_cons (mac : Mac) : ∃ rest, mac.toList = firstByte mac :: rest := by
  obtain ⟨bytes, size⟩ := mac
  obtain ⟨list⟩ := bytes
  cases list with
  | nil => cases size
  | cons first rest => exact ⟨rest, rfl⟩

theorem strlen_cons (first : UInt8) (rest : List UInt8) :
    strlen (first :: rest) ≠ 0 ↔ first ≠ 0 := by
  by_cases zero : first = 0
  · rw [zero]
    exact iff_of_false (fun some => some rfl) (fun some => some rfl)
  · refine iff_of_true ?_ zero
    rw [strlen, List.takeWhile_cons_of_pos (by simpa using zero)]
    exact Nat.succ_ne_zero _

/-- What `strlen` says of an event is what its first byte says. -/
theorem strlen_mac (mac : Mac) (behind : List UInt8) :
    strlen (mac.toList ++ behind) ≠ 0 ↔ firstByte mac ≠ 0 := by
  obtain ⟨rest, whole⟩ := mac_cons mac
  rw [whole, List.cons_append, strlen_cons]

theorem parseMac_ok (mac : Mac) : parseMac 0 mac.toList = some mac := by
  obtain ⟨rest, whole⟩ := mac_cons mac
  have there : mac.toList ≠ [] := by
    rw [whole]
    exact List.cons_ne_nil _ _
  have ok : ¬ ((0 : Int32) ≠ 0) := not_not_intro rfl
  rw [parseMac, if_neg ok, if_neg there, ConfigReadback.rspCopyBytes_eq,
    StationConfig.copyIn_whole]

theorem aid_narrow (aid : UInt32) : aid.toUInt8.toNat = aid.toNat ↔ aid.toNat < 256 := by
  rw [UInt32.toNat_toUInt8]
  omega

theorem reason_narrow (reason : UInt32) :
    reason.toUInt16.toNat = reason.toNat ↔ reason.toNat < 65536 := by
  rw [UInt32.toNat_toUInt16]
  omega

/-- What the host keeps of a station. -/
def kept (mac : Mac) (aid : UInt32) (isMeshChild : Bool) : ApStaConnected where
  mac := mac
  aid := aid.toUInt8
  isMeshChild := isMeshChild

theorem handle_connected (mac : Mac) (aid : UInt32) (isMeshChild : Bool) :
    handleEvent (ApEvent.connected mac aid isMeshChild).message =
      if firstByte mac ≠ 0 then
        [{ eventId := wifiEventApStaconnected,
           data := some (.apStaConnected (kept mac aid isMeshChild)) }]
      else [] := by
  simp only [handleEvent, ApEvent.message, rpcParseEvt, parseApStaConnected, parseMac_ok, parsed,
    Option.map_some, rpcEventCallback, ApStaConnected.memory, strlen_mac]
  rfl

theorem handle_disconnected (mac : Mac) (aid : UInt32) (isMeshChild : Bool) (reason : UInt32) :
    handleEvent (ApEvent.disconnected mac aid isMeshChild reason).message =
      if firstByte mac ≠ 0 then
        [{ eventId := wifiEventApStadisconnected,
           data := some (.apStaDisconnected
             { kept mac aid isMeshChild with reason := reason.toUInt16 }) }]
      else [] := by
  simp only [handleEvent, ApEvent.message, rpcParseEvt, parseApStaConnected, parseMac_ok, parsed,
    Option.map_some, rpcEventCallback, ApStaDisconnected.memory, ApStaConnected.memory,
    List.append_assoc, strlen_mac]
  rfl

theorem kept_same (mac : Mac) (aid : UInt32) (isMeshChild : Bool) :
    SameStation mac aid isMeshChild (kept mac aid isMeshChild) ↔ aid.toNat < 256 := by
  constructor
  · exact fun same => (aid_narrow aid).mp same.aid
  · exact fun narrow => { mac := rfl, aid := (aid_narrow aid).mpr narrow, isMeshChild := rfl }

/-- An event of the soft-AP is forwarded when its numbers fit and its address does not begin
with a zero. -/
theorem ap_event_forwarded_iff (event : ApEvent) :
    Forwarded event (handleEvent event.message) ↔ event.Narrow ∧ firstByte event.mac ≠ 0 := by
  cases event with
  | connected mac aid isMeshChild =>
      rw [handle_connected]
      by_cases dropped : firstByte mac ≠ 0
      · rw [if_pos dropped]
        constructor
        · rintro ⟨_, posted, same⟩
          cases posted
          exact ⟨(kept_same mac aid isMeshChild).mp same, dropped⟩
        · rintro ⟨narrow, _⟩
          exact ⟨_, rfl, (kept_same mac aid isMeshChild).mpr narrow⟩
      · rw [if_neg dropped]
        refine iff_of_false ?_ fun both => dropped both.2
        rintro ⟨_, posted, _⟩
        cases posted
  | disconnected mac aid isMeshChild reason =>
      rw [handle_disconnected]
      by_cases dropped : firstByte mac ≠ 0
      · rw [if_pos dropped]
        constructor
        · rintro ⟨_, posted, same, reason_same⟩
          cases posted
          have narrow := (kept_same mac aid isMeshChild).mp same
          exact ⟨⟨narrow, (reason_narrow reason).mp reason_same⟩, dropped⟩
        · rintro ⟨⟨narrow, reason_fits⟩, _⟩
          refine ⟨_, rfl, (kept_same mac aid isMeshChild).mpr narrow, ?_⟩
          exact (reason_narrow reason).mpr reason_fits
      · rw [if_neg dropped]
        refine iff_of_false ?_ fun both => dropped both.2
        rintro ⟨_, posted, _⟩
        cases posted

/-- 00:11:22:33:44:55. -/
def zeroFirst : Mac := rspCopyBytes bssidBytesSize [0, 0x11, 0x22, 0x33, 0x44, 0x55]

/-- A station whose address begins with a zero. -/
theorem ap_event_dropped :
    ¬ ∀ event : ApEvent, Forwarded event (handleEvent event.message) := by
  intro always
  obtain ⟨_, posted, _⟩ := always (.connected zeroFirst 1 false)
  rw [handle_connected, if_neg (by decide)] at posted
  cases posted

/-- What is forwarded of the soft-AP is indicated once, with its address. -/
theorem forwarded_indicated {event : ApEvent} (forwarded : Forwarded event (handleEvent event.message)) :
    ∃ post, handleEvent event.message = [post] ∧
      (hostedWifiEventPost post = some [.apAssociated event.mac] ∨
        hostedWifiEventPost post = some [.apDisassociated event.mac]) := by
  cases event with
  | connected mac aid isMeshChild =>
      obtain ⟨station, posted, same⟩ := forwarded
      refine ⟨_, posted, Or.inl ?_⟩
      rw [ApEvent.mac, ← same.mac]
      rfl
  | disconnected mac aid isMeshChild reason =>
      obtain ⟨station, posted, same, _⟩ := forwarded
      refine ⟨_, posted, Or.inr ?_⟩
      rw [ApEvent.mac, ← same.mac]
      rfl

theorem bare_handled {eventId : Int} (other : eventId ≠ wifiEventApStaconnected)
    (another : eventId ≠ wifiEventApStadisconnected) :
    (hostedWifiEventPost { eventId := eventId, data := none }).isSome = true := by
  simp only [hostedWifiEventPost]
  rw [if_neg other, if_neg another]
  split_ifs <;> rfl

/-- Whatever is posted is handled, but for an event without arguments under the number of a
soft-AP event. -/
theorem callback_handled {app : AppEvent} {post : Post} (posted : post ∈ rpcEventCallback app) :
    (hostedWifiEventPost post).isSome = true ∨
      (post.data = none ∧
        (post.eventId = wifiEventApStaconnected ∨ post.eventId = wifiEventApStadisconnected)) := by
  obtain ⟨status, event⟩ := app
  cases event
  case espInit | heartbeat => cases posted
  case apStaConnected event | apStaDisconnected event =>
    simp only [rpcEventCallback] at posted
    split at posted
    · cases List.mem_singleton.mp posted
      exact Or.inl rfl
    · cases posted
  case wifiSimple wifiEventId =>
    cases List.mem_singleton.mp posted
    by_cases connected : wifiEventId.toInt = wifiEventApStaconnected
    · exact Or.inr ⟨rfl, Or.inl connected⟩
    by_cases disconnected : wifiEventId.toInt = wifiEventApStadisconnected
    · exact Or.inr ⟨rfl, Or.inr disconnected⟩
    · exact Or.inl (bare_handled connected disconnected)
  case staScanDone event | staConnected event | staDisconnected event =>
    cases List.mem_singleton.mp posted
    exact Or.inl rfl

end EspHosted.EventForwarding

import EspHosted.ApRecords
import EspHosted.RemoteCalls
import EspHosted.SyncGetters

/-!
The Wi-Fi calls as they travel: `rpc_wrap.c` and `compose_rpc_req` on the host, the request
handlers of slave_control.c, and `rpc_parse_rsp` with the wrapper on the way back. For each call
its method and, behind it, the contract it keeps. Pointers are not NULL, memory is found, and
packing and unpacking of a message lose nothing; an enumeration is its 32-bit value.
-/

namespace EspHosted.WifiCalls
open BitWords RemoteCalls StationConfig ConfigReadback
open ApRecords (ApRecord Country WifiCountry encodeCountry)
open SyncGetters (StaInfo StaList Protocols Bandwidths Channel copyStation)

def espFail : Int32 := -1
def espErrInvalidArg : Int32 := 0x102

/-- `rpc_rsp_callback` returns `ESP_FAIL` for no response. -/
def codes : Codes Int32 := ⟨0, espFail, by decide⟩

/-! An integer in a field of another width, and back. -/

def widen8 (value : UInt8) : Int32 := value.toUInt32.toInt32
def narrow8 (field : Int32) : UInt8 := field.toUInt32.toUInt8
def widen16 (value : UInt16) : Int32 := value.toUInt32.toInt32
def narrow16 (field : Int32) : UInt16 := field.toUInt32.toUInt16

@[simp] theorem narrow8_widen8 (value : UInt8) : narrow8 (widen8 value) = value := by
  simp [narrow8, widen8]

@[simp] theorem narrow16_widen16 (value : UInt16) : narrow16 (widen16 value) = value := by
  simp [narrow16, widen16]

@[simp] theorem rspCopyBytes_whole {size : Nat} (bytes : Vector UInt8 size) :
    rspCopyBytes size bytes.toList = bytes := by
  rw [rspCopyBytes_eq, copyIn_whole]

/-! Calls of one shape. -/

/-- Nothing goes along and only the code comes back. -/
def signal : Method Int32 where
  Arg := Unit
  Request := Unit
  Given := Unit
  Response := Unit
  Out := Unit
  compose := .request
  take := .call
  give _ _ := ()
  read _ := some id
  spoil := id
  tested := true

def setter {Arg Request : Type} (send : Arg → Request) (take : Request → Arg) : Method Int32 where
  Arg := Arg
  Request := Request
  Given := Unit
  Response := Unit
  Out := Unit
  compose arg := .request (send arg)
  take request := .call (take request)
  give _ _ := ()
  read _ := some id
  spoil := id
  tested := true

def getter {Arg Request Value Response : Type} (send : Arg → Request) (take : Request → Arg)
    (give : Value → Response) (read : Response → Value) : Method Int32 where
  Arg := Arg
  Request := Request
  Given := Value
  Response := Response
  Out := Value
  compose arg := .request (send arg)
  take request := .call (take request)
  give _ value := give value
  read response := some fun _ => read response
  spoil := id
  tested := true

def signalContract : Contract codes signal where
  sends _ := True
  sent := id
  received _ _ out := out
  carried _ _ := ⟨(), rfl, rfl⟩
  refused _ refuses := absurd trivial refuses
  returned _ _ _ := rfl

section Shapes
variable {Arg Request Value Response : Type}

def setterContract {send : Arg → Request} {take : Request → Arg} (sent : Arg → Arg)
    (law : ∀ arg, take (send arg) = sent arg) : Contract codes (setter send take) where
  sends _ := True
  sent := sent
  received _ _ out := out
  carried arg _ := ⟨send arg, rfl, congrArg Taking.call (law arg)⟩
  refused _ refuses := absurd trivial refuses
  returned _ _ _ := rfl

def getterContract {send : Arg → Request} {take : Request → Arg} {give : Value → Response}
    {read : Response → Value} (sent : Arg → Arg) (received : Value → Value)
    (law : ∀ arg, take (send arg) = sent arg) (back : ∀ value, read (give value) = received value) :
    Contract codes (getter send take give read) where
  sends _ := True
  sent := sent
  received _ value _ := received value
  carried arg _ := ⟨send arg, rfl, congrArg Taking.call (law arg)⟩
  refused _ refuses := absurd trivial refuses
  returned _ _ value := congrArg some (funext fun _ => back value)

end Shapes

def wifiDeinit : Method Int32 := signal
def wifiStart : Method Int32 := signal
def wifiStop : Method Int32 := signal
def wifiConnect : Method Int32 := signal
def wifiDisconnect : Method Int32 := signal
def wifiScanStop : Method Int32 := signal
def wifiClearApList : Method Int32 := signal
def wifiRestore : Method Int32 := signal
def wifiClearFastConnect : Method Int32 := signal

/-! Values that keep their width, or fit the wider field they travel in. -/

/-- `wifi_init_config_t`; every field has a field of its type in the message. -/
structure InitConfig where
  staticRxBufNum : Int32
  dynamicRxBufNum : Int32
  txBufType : Int32
  staticTxBufNum : Int32
  dynamicTxBufNum : Int32
  cacheTxBufNum : Int32
  csiEnable : Int32
  ampduRxEnable : Int32
  ampduTxEnable : Int32
  amsduTxEnable : Int32
  nvsEnable : Int32
  nanoEnable : Int32
  rxBaWin : Int32
  wifiTaskCoreId : Int32
  beaconMaxLen : Int32
  mgmtSbufNum : Int32
  featureCaps : UInt64
  staDisconnectedPm : Bool
  espnowMaxEncryptNum : Int32
  magic : Int32

def wifiInit : Method Int32 := @setter InitConfig InitConfig id id
def wifiInitContract : Contract codes wifiInit := setterContract id fun _ => rfl

/-- The interface and the bandwidth. -/
def wifiSetBandwidth : Method Int32 := @setter (Int32 × Int32) (Int32 × Int32) id id
def wifiSetBandwidthContract : Contract codes wifiSetBandwidth := setterContract id fun _ => rfl

def wifiGetBandwidth : Method Int32 := @getter Int32 Int32 Int32 Int32 id id id id
def wifiGetBandwidthContract : Contract codes wifiGetBandwidth :=
  getterContract id id (fun _ => rfl) fun _ => rfl

def wifiSetStorage : Method Int32 := @setter Int32 Int32 id id
def wifiSetStorageContract : Contract codes wifiSetStorage := setterContract id fun _ => rfl

def wifiGetMode : Method Int32 := @getter Unit Unit Int32 Int32 id id id id
def wifiGetModeContract : Contract codes wifiGetMode :=
  getterContract id id (fun _ => rfl) fun _ => rfl

def wifiStaGetRssi : Method Int32 := @getter Unit Unit Int32 Int32 id id id id
def wifiStaGetRssiContract : Contract codes wifiStaGetRssi :=
  getterContract id id (fun _ => rfl) fun _ => rfl

def wifiGetMac : Method Int32 := @getter Int32 Int32 (Vector UInt8 6) _ id id Vector.toList (rspCopyBytes 6)
def wifiGetMacContract : Contract codes wifiGetMac :=
  getterContract id id (fun _ => rfl) rspCopyBytes_whole

def wifiSetMaxTxPower : Method Int32 := setter Int8.toInt32 Int32.toInt8
def wifiSetMaxTxPowerContract : Contract codes wifiSetMaxTxPower :=
  setterContract id Int8.toInt8_toInt32

def wifiGetMaxTxPower : Method Int32 := @getter Unit Unit _ _ id id Int8.toInt32 Int32.toInt8
def wifiGetMaxTxPowerContract : Contract codes wifiGetMaxTxPower :=
  getterContract id id (fun _ => rfl) Int8.toInt8_toInt32

def wifiDeauthSta : Method Int32 := setter widen16 narrow16
def wifiDeauthStaContract : Contract codes wifiDeauthSta := setterContract id narrow16_widen16

def wifiScanGetApNum : Method Int32 := @getter Unit Unit _ _ id id widen16 narrow16
def wifiScanGetApNumContract : Contract codes wifiScanGetApNum :=
  getterContract id id (fun _ => rfl) narrow16_widen16

def wifiStaGetAid : Method Int32 := @getter Unit Unit _ _ id id UInt16.toUInt32 UInt32.toUInt16
def wifiStaGetAidContract : Contract codes wifiStaGetAid :=
  getterContract id id (fun _ => rfl) UInt16.toUInt16_toUInt32

def wifiApGetStaAid : Method Int32 :=
  @getter (Vector UInt8 6) _ _ _ Vector.toList (copyIn 6 6) UInt16.toUInt32 UInt32.toUInt16
def wifiApGetStaAidContract : Contract codes wifiApGetStaAid :=
  getterContract id id copyIn_whole UInt16.toUInt16_toUInt32

def wifiSetChannel : Method Int32 :=
  setter (fun channel : Channel => (widen8 channel.primary, channel.second))
    fun request => ⟨narrow8 request.1, request.2⟩
def wifiSetChannelContract : Contract codes wifiSetChannel :=
  setterContract id fun channel => by rw [narrow8_widen8]; rfl

def wifiGetChannel : Method Int32 :=
  @getter Unit Unit _ _ id id (fun channel : Channel => (widen8 channel.primary, channel.second))
    fun response => ⟨narrow8 response.1, response.2⟩
def wifiGetChannelContract : Contract codes wifiGetChannel :=
  getterContract id id (fun _ => rfl) fun channel => by rw [narrow8_widen8]; rfl

/-- The interface and the bitmap. -/
def wifiSetProtocol : Method Int32 :=
  setter (fun arg : Int32 × UInt8 => (arg.1, widen8 arg.2)) fun request => (request.1, narrow8 request.2)
def wifiSetProtocolContract : Contract codes wifiSetProtocol :=
  setterContract id fun arg => by rw [narrow8_widen8]; rfl

/-- `rpc_wifi_get_protocol` does not put the interface into its request. -/
def wifiGetProtocol : Method Int32 := getter (fun _ : Int32 => (0 : Int32)) id widen8 narrow8
def wifiGetProtocolContract : Contract codes wifiGetProtocol :=
  getterContract (fun _ => wifiIfSta) id (fun _ => rfl) narrow8_widen8

def sendProtocols (protocols : Protocols) : UInt32 × UInt32 :=
  (protocols.ghz2g.toUInt32, protocols.ghz5g.toUInt32)
def takeProtocols (msg : UInt32 × UInt32) : Protocols := ⟨msg.1.toUInt16, msg.2.toUInt16⟩

@[simp] theorem takeProtocols_sent (protocols : Protocols) :
    takeProtocols (sendProtocols protocols) = protocols := by
  simp [takeProtocols, sendProtocols]

def sendBandwidths (bandwidths : Bandwidths) : UInt32 × UInt32 :=
  (bandwidths.ghz2g.toUInt32, bandwidths.ghz5g.toUInt32)
def takeBandwidths (msg : UInt32 × UInt32) : Bandwidths := ⟨msg.1.toInt32, msg.2.toInt32⟩

@[simp] theorem takeBandwidths_sent (bandwidths : Bandwidths) :
    takeBandwidths (sendBandwidths bandwidths) = bandwidths := by
  simp [takeBandwidths, sendBandwidths]

def wifiSetProtocols : Method Int32 :=
  setter (fun arg : Int32 × Protocols => (arg.1, sendProtocols arg.2))
    fun request => (request.1, takeProtocols request.2)
def wifiSetProtocolsContract : Contract codes wifiSetProtocols :=
  setterContract id fun arg => by rw [takeProtocols_sent]; rfl

def wifiGetProtocols : Method Int32 := @getter Int32 Int32 _ _ id id sendProtocols takeProtocols
def wifiGetProtocolsContract : Contract codes wifiGetProtocols :=
  getterContract id id (fun _ => rfl) takeProtocols_sent

def wifiSetBandwidths : Method Int32 :=
  setter (fun arg : Int32 × Bandwidths => (arg.1, sendBandwidths arg.2))
    fun request => (request.1, takeBandwidths request.2)
def wifiSetBandwidthsContract : Contract codes wifiSetBandwidths :=
  setterContract id fun arg => by rw [takeBandwidths_sent]; rfl

def wifiGetBandwidths : Method Int32 := @getter Int32 Int32 _ _ id id sendBandwidths takeBandwidths
def wifiGetBandwidthsContract : Contract codes wifiGetBandwidths :=
  getterContract id id (fun _ => rfl) takeBandwidths_sent

def wifiSetBand : Method Int32 := setter Int32.toUInt32 UInt32.toInt32
def wifiSetBandContract : Contract codes wifiSetBand := setterContract id Int32.toInt32_toUInt32

def wifiGetBand : Method Int32 := @getter Unit Unit _ _ id id Int32.toUInt32 UInt32.toInt32
def wifiGetBandContract : Contract codes wifiGetBand :=
  getterContract id id (fun _ => rfl) Int32.toInt32_toUInt32

def wifiSetBandMode : Method Int32 := setter Int32.toUInt32 UInt32.toInt32
def wifiSetBandModeContract : Contract codes wifiSetBandMode :=
  setterContract id Int32.toInt32_toUInt32

def wifiGetBandMode : Method Int32 := @getter Unit Unit _ _ id id Int32.toUInt32 UInt32.toInt32
def wifiGetBandModeContract : Contract codes wifiGetBandMode :=
  getterContract id id (fun _ => rfl) Int32.toInt32_toUInt32

/-- What `req_wifi_set_country` and the host take out of the message of `encodeCountry`. -/
def takeCountry (msg : WifiCountry) : Country where
  cc := copyIn 3 3 msg.cc
  schan := msg.schan.toUInt8
  nchan := msg.nchan.toUInt8
  maxTxPower := msg.maxTxPower.toInt8
  policy := msg.policy

@[simp] theorem takeCountry_encoded (country : Country) :
    takeCountry (encodeCountry country) = country := by
  simp [takeCountry, encodeCountry, copyIn_whole]

def wifiSetCountry : Method Int32 := setter encodeCountry takeCountry
def wifiSetCountryContract : Contract codes wifiSetCountry := setterContract id takeCountry_encoded

def wifiGetCountry : Method Int32 := @getter Unit Unit _ _ id id encodeCountry takeCountry
def wifiGetCountryContract : Contract codes wifiGetCountry :=
  getterContract id id (fun _ => rfl) takeCountry_encoded

/-! Calls that check what they are given. -/

/-- The host refuses some arguments by itself. -/
def checked {Arg : Type} (invalid : Arg → Bool) (refusal : Composing Int32 Arg) : Method Int32 where
  Arg := Arg
  Request := Arg
  Given := Unit
  Response := Unit
  Out := Unit
  compose arg := if invalid arg then refusal else .request arg
  take := .call
  give _ _ := ()
  read _ := some id
  spoil := id
  tested := true

def checkedContract {Arg : Type} {invalid : Arg → Bool} {refusal : Composing Int32 Arg}
    (refuses : refusal = .dropped ∨ ∃ code, code ≠ codes.success ∧ refusal = .refuse code) :
    Contract codes (checked invalid refusal) where
  sends arg := ¬ invalid arg
  sent := id
  received _ _ out := out
  carried arg sends := ⟨arg, if_neg sends, rfl⟩
  refused arg wrong := by
    have refused : (checked invalid refusal).compose arg = refusal :=
      if_pos (Classical.not_not.mp wrong)
    rw [refused]
    rcases refuses with dropped | ⟨code, failed, same⟩
    · exact Or.inl dropped
    · exact Or.inr ⟨code, failed, Or.inl same⟩
  returned _ _ _ := rfl

/-- What is no mode is refused by `compose_rpc_req` in the tx thread. The response that is made up
for it does not come to its caller but to whoever asks next. -/
def wifiSetMode : Method Int32 := checked (fun mode : Int32 => mode < 0 || 5 ≤ mode) .dropped
def wifiSetModeContract : Contract codes wifiSetMode := checkedContract (Or.inl rfl)

/-- `rpc_wifi_set_ps` itself refuses what lies beyond `WIFI_PS_MAX_MODEM`, compared unsigned. -/
def wifiSetPs : Method Int32 := checked (fun type : Int32 => 2 < type.toUInt32) (.refuse espFail)
def wifiSetPsContract : Contract codes wifiSetPs :=
  checkedContract (Or.inr ⟨espFail, by decide, rfl⟩)

/-- The interface and the address. The slave checks the length of what arrives. -/
def wifiSetMac : Method Int32 where
  Arg := Int32 × Vector UInt8 6
  Request := Int32 × List UInt8
  Given := Unit
  Response := Unit
  Out := Unit
  compose arg := .request (arg.1, arg.2.toList)
  take request :=
    if request.2.length ≠ 6 then .refuse espErrInvalidArg
    else .call (request.1, copyIn 6 6 request.2)
  give _ _ := ()
  read _ := some id
  spoil := id
  tested := true

def wifiSetMacContract : Contract codes wifiSetMac where
  sends _ := True
  sent := id
  received _ _ out := out
  carried arg _ := by
    have whole : arg.2.toList.length = 6 := by simp
    exact ⟨_, rfl, by simp only [wifiSetMac, whole, copyIn_whole]; rfl⟩
  refused _ refuses := absurd trivial refuses
  returned _ _ _ := rfl

/-! Calls that lose something on the way. -/

/-- `rpc_wifi_get_ps` writes what came whatever its status, and does not test for a response. -/
def wifiGetPs : Method Int32 :=
  { @getter Unit Unit Int32 Int32 id id id id with
    spoil := fun _ => (0 : Int32)
    tested := false }

def wifiGetPsContract : Contract codes wifiGetPs where
  sends _ := True
  sent := id
  received _ value _ := value
  carried _ _ := ⟨(), rfl, rfl⟩
  refused _ refuses := absurd trivial refuses
  returned _ _ _ := rfl

/-- The country's code and `ieee80211d_enabled`. Three bytes go along and two are taken. -/
def wifiSetCountryCode : Method Int32 :=
  setter (fun arg : Vector UInt8 3 × Bool => (arg.1.toList, arg.2))
    fun request => (copyIn 3 2 request.1, request.2)

def twoLetters (code : Vector UInt8 3) : Vector UInt8 3 := copyIn 3 2 code.toList

def wifiSetCountryCodeContract : Contract codes wifiSetCountryCode :=
  setterContract (fun arg => (twoLetters arg.1, arg.2)) fun _ => rfl

/-- The code comes back as a string. -/
def wifiGetCountryCode : Method Int32 :=
  @getter Unit Unit (Vector UInt8 3) _ id id (fun code => respCopyStr code.toList 3) (rspCopyBytes 3)

def wifiGetCountryCodeContract : Contract codes wifiGetCountryCode :=
  getterContract id (fun code => rspCopyBytes 3 (respCopyStr code.toList 3)) (fun _ => rfl)
    fun _ => rfl

/-- `wifi_scan_config_t`; behind a pointer stands what can be read there. -/
structure ScanConfig where
  ssid : Option (List UInt8)
  bssid : Option (List UInt8)
  channel : UInt8
  showHidden : Bool
  scanType : Int32
  activeMin : UInt32
  activeMax : UInt32
  passive : UInt32
  homeChanDwellTime : UInt8
  ghz2Channels : UInt16
  ghz5Channels : UInt32

structure WifiScanConfig where
  ssid : List UInt8
  bssid : List UInt8
  channel : UInt32
  showHidden : Bool
  scanType : Int32
  activeMin : UInt32
  activeMax : UInt32
  passive : UInt32
  homeChanDwellTime : UInt32

/-- `RPC_REQ_COPY_STR` of a pointer that may be NULL. -/
def sendStr (size : Nat) (pointer : Option (List UInt8)) : List UInt8 :=
  pointer.elim [] fun bytes => reqCopyStr bytes size

def takeStr (bytes : List UInt8) : Option (List UInt8) := if bytes = [] then none else some bytes

def sendScanConfig (config : ScanConfig) : WifiScanConfig where
  ssid := sendStr ssidLength config.ssid
  bssid := sendStr bssidBytesSize config.bssid
  channel := config.channel.toUInt32
  showHidden := config.showHidden
  scanType := config.scanType
  activeMin := config.activeMin
  activeMax := config.activeMax
  passive := config.passive
  homeChanDwellTime := config.homeChanDwellTime.toUInt32

def takeScanConfig (msg : WifiScanConfig) : ScanConfig where
  ssid := takeStr msg.ssid
  bssid := takeStr msg.bssid
  channel := msg.channel.toUInt8
  showHidden := msg.showHidden
  scanType := msg.scanType
  activeMin := msg.activeMin
  activeMax := msg.activeMax
  passive := msg.passive
  homeChanDwellTime := msg.homeChanDwellTime.toUInt8
  ghz2Channels := 0
  ghz5Channels := 0

/-- SSID and BSSID arrive as strings, the bitmap of the channels does not. -/
def scanned (config : ScanConfig) : ScanConfig :=
  { config with
    ssid := takeStr (sendStr ssidLength config.ssid)
    bssid := takeStr (sendStr bssidBytesSize config.bssid)
    ghz2Channels := 0
    ghz5Channels := 0 }

theorem takeScanConfig_sent (config : ScanConfig) : takeScanConfig (sendScanConfig config) = scanned config := by
  simp [takeScanConfig, sendScanConfig, scanned]

/-- The configuration, if any, and `block`. -/
def wifiScanStart : Method Int32 :=
  setter (fun arg : Option ScanConfig × Bool => (arg.1.map sendScanConfig, arg.2))
    fun request => (request.1.map takeScanConfig, request.2)

def wifiScanStartContract : Contract codes wifiScanStart :=
  setterContract (fun arg => (arg.1.map scanned, arg.2)) fun arg => by
    rw [Option.map_map]
    exact congrArg (fun config => (Option.map config arg.1, arg.2)) (funext takeScanConfig_sent)

def takeWifiCfg : SetConfig → Taking Int32 WifiCfg
  | .setSta config => .call (.sta config)
  | .setAp config => .call (.ap config)
  | .refused => .refuse 1
  | .nullDeref => .broken

def wifiSetConfig : Method Int32 where
  Arg := WifiCfg
  Request := WifiSetConfigReq
  Given := Unit
  Response := Unit
  Out := Unit
  compose config := .request (composeWifiSetConfig config)
  take request := takeWifiCfg (reqWifiSetConfig request)
  give _ _ := ()
  read _ := some id
  spoil := id
  tested := true

theorem unexpected_refused (iface : Int32) :
    reqWifiSetConfig (composeWifiSetConfig (.unexpected iface)) = .refused := by
  by_cases sta : iface = wifiIfSta
  · simp [reqWifiSetConfig, composeWifiSetConfig, sta]
  · by_cases ap : iface = wifiIfAp
    · simp [reqWifiSetConfig, composeWifiSetConfig, ap]
    · simp [reqWifiSetConfig, composeWifiSetConfig, sta, ap]

/-- Without an interface the slave knows the configuration is refused. -/
def wifiSetConfigContract : Contract codes wifiSetConfig where
  sends config := ∀ iface, config ≠ WifiCfg.unexpected iface
  sent config :=
    match config with
    | .sta station => .sta (arrived station)
    | .ap accessPoint => .ap (heldAp accessPoint)
    | .unexpected iface => .unexpected iface
  received _ _ out := out
  carried config sends := by
    cases config with
    | sta station => exact ⟨_, rfl, rfl⟩
    | ap accessPoint => exact ⟨_, rfl, rfl⟩
    | unexpected iface => exact absurd rfl (sends iface)
  refused config refuses := by
    cases config with
    | sta station => exact absurd (fun _ same => nomatch same) refuses
    | ap accessPoint => exact absurd (fun _ same => nomatch same) refuses
    | unexpected iface =>
        exact Or.inr ⟨1, by decide, Or.inr ⟨_, rfl, congrArg takeWifiCfg (unexpected_refused iface)⟩⟩
  returned _ _ _ := rfl

/-- The interface is kept in a byte. The driver's union is given with a part for each interface. -/
def wifiGetConfig : Method Int32 where
  Arg := Int32
  Request := Int32
  Given := StaConfig × ApConfig
  Response := WifiGetConfigResp
  Out := GetConfig
  compose iface := .request (widen8 (narrow8 iface))
  take iface := if wifiIfAp.toUInt32 < iface.toUInt32 then .refuse 1 else .call iface
  give iface held := reqWifiGetConfig ⟨fun _ => 0, held.1, held.2⟩ iface
  read response :=
    match parseWifiGetConfig response with
    | .sta config => some fun _ => .sta config
    | .ap config => some fun _ => .ap config
    | .untouched => some fun _ => .untouched
    | .nullDeref => none
  -- the zeros of a failed response are copied, and without a response NULL is followed
  spoil _ := .untouched
  tested := false

theorem iface_beyond {byte : UInt8} (beyond : ¬ (byte = 0 ∨ byte = 1)) :
    wifiIfAp.toUInt32 < (widen8 byte).toUInt32 := by
  have first : byte.toNat ≠ 0 := fun same => beyond (Or.inl (UInt8.toNat_inj.mp same))
  have second : byte.toNat ≠ 1 := fun same => beyond (Or.inr (UInt8.toNat_inj.mp same))
  have wide : (widen8 byte).toUInt32.toNat = byte.toNat := by simp [widen8]
  rw [UInt32.lt_iff_toNat_lt, wide]
  change 1 < byte.toNat
  omega

def wifiGetConfigContract : Contract codes wifiGetConfig where
  sends iface := narrow8 iface = 0 ∨ narrow8 iface = 1
  sent iface := widen8 (narrow8 iface)
  received iface held _ := if narrow8 iface = 0 then .sta (readSta held.1) else .ap (readAp held.2)
  carried iface sends := by
    refine ⟨_, rfl, if_neg ?_⟩
    rcases sends with same | same
    · rw [same]
      decide
    · rw [same]
      decide
  refused iface refuses := Or.inr ⟨1, by decide, Or.inr ⟨_, rfl, if_pos (iface_beyond refuses)⟩⟩
  returned iface sends held := by
    rcases sends with same | same
    · simp only [wifiGetConfig, same, if_true]
      rw [show widen8 0 = wifiIfSta from rfl]
      have read : parseWifiGetConfig (reqWifiGetConfig ⟨fun _ => 0, held.1, held.2⟩ wifiIfSta) =
          .sta (readSta held.1) := readBack_sta rfl
      rw [read]
    · simp only [wifiGetConfig, same]
      rw [show widen8 1 = wifiIfAp from rfl]
      have read : parseWifiGetConfig (reqWifiGetConfig ⟨fun _ => 0, held.1, held.2⟩ wifiIfAp) =
          .ap (readAp held.2) := readBack_ap rfl
      rw [read]
      rfl

def wifiStaGetApInfo : Method Int32 where
  Arg := Unit
  Request := Unit
  Given := ApRecord
  Response := ApRecords.WifiApRecord
  Out := ApRecord
  compose := .request
  take := .call
  give _ record := ApRecords.encodeRecord record
  read msg := (ApRecords.parseRecord msg).map fun record _ => record
  spoil := id
  tested := true

def wifiStaGetApInfoContract : Contract codes wifiStaGetApInfo where
  sends _ := True
  sent := id
  received _ record _ := ApRecords.readRecord record
  carried _ _ := ⟨(), rfl, rfl⟩
  refused _ refuses := absurd trivial refuses
  returned _ _ _ := rfl

/-! The stations of an access point. -/

def staPhy11bBit : Nat := 0
def staPhy11gBit : Nat := 1
def staPhy11nBit : Nat := 2
def staPhyLrBit : Nat := 3
def staPhy11axBit : Nat := 4
def staIsMeshChildBit : Nat := 5
def staInfoMaxUsedBit : Nat := 6
def staInfoReservedBitmask : BitVec 32 := 0xFFC0

/-- The message of one station. -/
structure WifiStaInfo where
  mac : List UInt8
  rssi : Int32
  bitmask : BitVec 32

def staInfoBitmask (sta : StaInfo) : BitVec 32 :=
  let bitmask := setBitIf sta.phy11b staPhy11bBit 0#32
  let bitmask := setBitIf sta.phy11g staPhy11gBit bitmask
  let bitmask := setBitIf sta.phy11n staPhy11nBit bitmask
  let bitmask := setBitIf sta.phyLr staPhyLrBit bitmask
  let bitmask := setBitIf sta.phy11ax staPhy11axBit bitmask
  let bitmask := setBitIf sta.isMeshChild staIsMeshChildBit bitmask
  setField sta.reserved staInfoMaxUsedBit bitmask

def encodeStation (sta : StaInfo) : WifiStaInfo :=
  ⟨sta.mac.toList, sta.rssi.toInt32, staInfoBitmask sta⟩

/-- Over zeros, as `app_resp` is allocated. -/
def parseStation (msg : WifiStaInfo) : StaInfo where
  mac := rspCopyBytes 6 msg.mac
  rssi := msg.rssi.toInt8
  phy11b := getBit staPhy11bBit msg.bitmask
  phy11g := getBit staPhy11gBit msg.bitmask
  phy11n := getBit staPhy11nBit msg.bitmask
  phyLr := getBit staPhyLrBit msg.bitmask
  phy11a := false
  phy11ac := false
  phy11ax := getBit staPhy11axBit msg.bitmask
  isMeshChild := getBit staIsMeshChildBit msg.bitmask
  reserved := getField 24 staInfoReservedBitmask staInfoMaxUsedBit msg.bitmask

def noStation : StaInfo :=
  ⟨.replicate _ 0, 0, false, false, false, false, false, false, false, false, 0⟩

/-- How many stations `rpc_parse_rsp` reads; `num` is taken as a `uint32_t`. -/
def stationsRead (maxConnNum : Nat) (num : Int32) : Nat := min num.toUInt32.toNat maxConnNum

/-- The slave sends all the places of its list. The stations are copied behind the test for
success, their number in any case and from a response that is not tested for NULL. -/
def wifiApGetStaList (maxConnNum : Nat) : Method Int32 where
  Arg := Unit
  Request := Unit
  Given := StaList maxConnNum
  Response := Vector WifiStaInfo maxConnNum × Int32
  Out := StaList maxConnNum
  compose := .request
  take := .call
  give _ list := (list.sta.map encodeStation, list.num)
  read response := some fun out =>
    { sta := Vector.ofFn fun index =>
        copyStation
          (if index.val < stationsRead maxConnNum response.2 then parseStation (response.1.get index)
            else noStation)
          (out.sta.get index)
      num := response.2 }
  spoil out := { out with num := 0 }
  tested := false

/-- A station without what its message leaves out. -/
def carriedStation (sta : StaInfo) : StaInfo :=
  { sta with phy11a := false, phy11ac := false, reserved := sta.reserved &&& 0x3FF#24 }

theorem staInfoBitmask_feature (sta : StaInfo) {pos : Nat} (low : pos < staInfoMaxUsedBit) :
    getBit pos (staInfoBitmask sta) =
      (sta.phy11b && decide (pos = 0) || sta.phy11g && decide (pos = 1) ||
        sta.phy11n && decide (pos = 2) || sta.phyLr && decide (pos = 3) ||
        sta.phy11ax && decide (pos = 4) || sta.isMeshChild && decide (pos = 5)) := by
  have inside : pos < 32 := Nat.lt_trans low (by decide)
  have below : ¬ staInfoMaxUsedBit ≤ pos := Nat.not_le.mpr low
  rw [getBit_eq inside]
  simp [staInfoBitmask, setField_bit inside, setBitIf_bit inside, below, staPhy11bBit, staPhy11gBit,
    staPhy11nBit, staPhyLrBit, staPhy11axBit, staIsMeshChildBit]

theorem staInfoBitmask_reserved (sta : StaInfo) {index : Nat} (inside : staInfoMaxUsedBit + index < 32) :
    (staInfoBitmask sta).getLsbD (staInfoMaxUsedBit + index) = sta.reserved.getLsbD index := by
  have beyond : ∀ pos < staInfoMaxUsedBit, staInfoMaxUsedBit + index ≠ pos := by omega
  simp [staInfoBitmask, setField_bit inside, setBitIf_bit inside,
    beyond staPhy11bBit (by decide), beyond staPhy11gBit (by decide),
    beyond staPhy11nBit (by decide), beyond staPhyLrBit (by decide),
    beyond staPhy11axBit (by decide), beyond staIsMeshChildBit (by decide)]

theorem staInfoReserved_mask : ∀ index < 24,
    staInfoReservedBitmask.getLsbD (staInfoMaxUsedBit + index) = (0x3FF#24).getLsbD index := by
  decide

theorem station_reserved (sta : StaInfo) :
    getField 24 staInfoReservedBitmask staInfoMaxUsedBit (staInfoBitmask sta) =
      sta.reserved &&& 0x3FF#24 := by
  apply BitVec.eq_of_getLsbD_eq
  intro index inside
  have here : staInfoMaxUsedBit + index < 32 := by
    simp only [staInfoMaxUsedBit]
    omega
  rw [getField_bit, staInfoBitmask_reserved sta here, staInfoReserved_mask index inside,
    BitVec.getLsbD_and]
  simp [inside]

theorem parseStation_encoded (sta : StaInfo) : parseStation (encodeStation sta) = carriedStation sta := by
  have read := fun pos (low : pos < staInfoMaxUsedBit) => staInfoBitmask_feature sta low
  simp only [parseStation, encodeStation, carriedStation, rspCopyBytes_whole, Int8.toInt8_toInt32,
    station_reserved, read staPhy11bBit (by decide), read staPhy11gBit (by decide),
    read staPhy11nBit (by decide), read staPhyLrBit (by decide), read staPhy11axBit (by decide),
    read staIsMeshChildBit (by decide)]
  simp [staPhy11bBit, staPhy11gBit, staPhy11nBit, staPhyLrBit, staPhy11axBit, staIsMeshChildBit]

def wifiApGetStaListContract (maxConnNum : Nat) : Contract codes (wifiApGetStaList maxConnNum) where
  sends _ := True
  sent := id
  received _ list out :=
    { sta := Vector.ofFn fun index =>
        copyStation
          (if index.val < stationsRead maxConnNum list.num then carriedStation (list.sta.get index)
            else noStation)
          (out.sta.get index)
      num := list.num }
  carried _ _ := ⟨(), rfl, rfl⟩
  refused _ refuses := absurd trivial refuses
  returned _ _ list := by
    have sent : ∀ index, (list.sta.map encodeStation).get index = encodeStation (list.sta.get index) :=
      fun index => Vector.getElem_map encodeStation index.isLt
    simp only [wifiApGetStaList, sent, parseStation_encoded]

end EspHosted.WifiCalls

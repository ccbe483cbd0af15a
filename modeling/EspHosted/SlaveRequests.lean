import EspHosted.OwnedParts
import EspHosted.RpcResponses

/-!
A request on the slave: `data_transfer_handler` unpacks it, `esp_rpc_command_dispatcher` looks
up the handler, the handler allocates the response part by part, and `esp_rpc_cleanup` frees
it after it was packed. What is modelled of a handler is which pointers of the request it
follows, what it allocates and where it returns; the answers of the allocator and of the
driver are inputs.
-/

namespace EspHosted.SlaveRequests
open OwnedParts RpcResponses

def reqBase : Int := 256
def respBase : Int := 512
def espErrNoMem : Int := 257
def ifaceSta : UInt32 := 0
def ifaceAp : UInt32 := 1

/-- The pointers of a response. `config` is the union of `sta` and `ap` in a `WifiConfig`,
`entry` an element of an array of records. -/
inductive Field where
  | payload | macData | cfg | config | ssid | password | bssid | threshold | pmfCfg
  | apRecords | entry (index : Nat) | country | cc | heAp | countryText | staList | sta | mac
  | protocols | bandwidths | scanDone | staConnected | staDisconnected
  deriving DecidableEq

/-- `WifiScanTime`, the pointer in it. -/
structure ScanTime where
  active : Bool

/-- `WifiScanConfig`. -/
structure ScanConfig where
  scanTime : Option ScanTime

/-- `WifiStaConfig` or `WifiApConfig`, the pointers in it. -/
structure ConfigUnion where
  threshold : Bool
  pmfCfg : Bool

/-- What a handler reads behind the payload pointer. The payload is a union: of a payload of
another kind these are whatever its bytes say. -/
structure Body where
  iface : UInt32
  macValid : Bool
  initCfg : Bool
  cfg : Option (Option ConfigUnion)
  configSet : Bool
  config : Option ScanConfig
  countryData : Bool
  country : Bool
  protocols : Bool
  bandwidths : Bool

/-- `Rpc`, as unpacked. -/
structure Request where
  msgId : Int
  uid : UInt32
  payload : Option Body

/-- The build and what the system answers: the allocator by number of the request, the call
of the driver the handler makes, whether the event handler can be registered, the number of
records the two calls for a scan give, the fields of the driver's configuration that decide
what is allocated, and the packed size. -/
structure Env where
  idf54 : Bool
  maxConnNum : Nat
  positive : 0 < maxConnNum
  calloc : Nat → Bool
  driver : Bool
  registered : Bool
  found : Option Nat
  bssidSet : Bool
  ssidLen : UInt8
  packedSize : Nat

abbrev Handler := Env → Option Body → List (Instr Field)

/-- `RPC_TEMPLATE`. -/
def rpcTemplate (rest : Env → Body → List (Instr Field)) : Handler := fun env payload =>
  match payload with
  | none => [.ret espFail]
  | some body => .alloc [.payload] espErrNoMem :: rest env body

/-- `RPC_TEMPLATE_SIMPLE`: the payload of the request is not looked at. -/
def rpcTemplateSimple (rest : Env → Option Body → List (Instr Field)) : Handler :=
  fun env payload => .alloc [.payload] espErrNoMem :: rest env payload

/-- `RPC_RET_FAIL_IF`. -/
def rpcRetFailIf (condition : Bool) (rest : List (Instr Field)) : List (Instr Field) :=
  if condition then [.ret 0] else rest

/-- The handlers that `ESP_IDF_VERSION` leaves empty before 5.4. -/
def sinceIdf54 (handler : Handler) : Handler := fun env payload =>
  if env.idf54 then handler env payload else [.ret espFail]

/-- A handler that goes on with nothing but calls that return `ESP_OK` either way. -/
def setter : Handler := rpcTemplate fun _ _ => []
def getter : Handler := rpcTemplateSimple fun _ _ => []

def reqWifiGetMac : Handler := rpcTemplateSimple fun env payload =>
  .follow payload.isSome :: rpcRetFailIf (!env.driver) [.alloc [.macData, .payload] 0]

def reqWifiGetMode : Handler := getter
def reqWifiSetMode : Handler := setter

def reqWifiSetMac : Handler := rpcTemplate fun _ body =>
  if !body.macValid then [.ret 0] else []

def reqWifiSetPs : Handler := setter
def reqWifiGetPs : Handler := getter
def reqOtaBeginHandler : Handler := getter

def reqOtaWriteHandler : Handler := rpcTemplateSimple fun _ payload => [.follow payload.isSome]

def reqOtaEndHandler : Handler := getter
def reqWifiSetMaxTxPower : Handler := setter
def reqWifiGetMaxTxPower : Handler := getter
def reqConfigHeartbeat : Handler := setter

/-- `ESP_ERROR_CHECK` around `esp_event_handler_instance_register` aborts. -/
def reqWifiInit : Handler := rpcTemplate fun env body =>
  rpcRetFailIf (!body.initCfg) <| rpcRetFailIf (!env.driver) [.check env.registered]

def reqWifiDeinit : Handler := getter
def reqWifiStart : Handler := getter
def reqWifiStop : Handler := getter
def reqWifiConnect : Handler := getter
def reqWifiDisconnect : Handler := getter

/-- `cfg->sta` and `cfg->ap` are one pointer. -/
def reqWifiSetConfig : Handler := rpcTemplate fun _ body =>
  rpcRetFailIf (body.iface ≠ ifaceSta && body.iface ≠ ifaceAp) <|
    match body.cfg with
    | none => [.ret 0]
    | some none => [.ret 0]
    | some (some config) =>
        if body.iface = ifaceSta then [.follow config.threshold, .follow config.pmfCfg]
        else [.follow config.pmfCfg]

def staParts (bssidSet : Bool) : List (Path Field) :=
  [[.cfg, .payload], [.config, .cfg, .payload], [.ssid, .config, .cfg, .payload],
    [.password, .config, .cfg, .payload]] ++
  (if bssidSet then [[.bssid, .config, .cfg, .payload]] else []) ++
  [[.threshold, .config, .cfg, .payload], [.pmfCfg, .config, .cfg, .payload]]

def apParts (ssidLen : UInt8) : List (Path Field) :=
  [[.cfg, .payload], [.config, .cfg, .payload], [.password, .config, .cfg, .payload],
    [.pmfCfg, .config, .cfg, .payload]] ++
  (if ssidLen ≠ 0 then [[.ssid, .config, .cfg, .payload]] else [])

def allocs (parts : List (Path Field)) : List (Instr Field) :=
  parts.map fun part => .alloc part 0

def reqWifiGetConfig : Handler := rpcTemplate fun env body =>
  rpcRetFailIf (ifaceAp < body.iface) <| rpcRetFailIf (!env.driver) <|
    allocs (if body.iface = ifaceSta then staParts env.bssidSet else apParts env.ssidLen)

def reqWifiScanStart : Handler := rpcTemplate fun _ body =>
  match body.config with
  | none => []
  | some config =>
      if !body.configSet then []
      else
        match config.scanTime with
        | none => [.follow false]
        | some time => [.follow true, .follow time.active]

def reqWifiSetProtocol : Handler := setter
def reqWifiGetProtocol : Handler := setter
def reqWifiScanStop : Handler := getter
def reqWifiScanGetApNum : Handler := getter

def recordParts (index : Nat) : List (Path Field) :=
  [[.entry index, .apRecords, .payload], [.country, .entry index, .apRecords, .payload],
    [.ssid, .entry index, .apRecords, .payload], [.bssid, .entry index, .apRecords, .payload],
    [.cc, .country, .entry index, .apRecords, .payload],
    [.heAp, .entry index, .apRecords, .payload]]

/-- The loop counts a record, `n_ap_records++`, when it is complete. -/
def reqWifiScanGetApRecords : Handler := rpcTemplateSimple fun env payload =>
  .follow payload.isSome :: .scratch 0 ::
    match env.found with
    | none => [.ret 0]
    | some number =>
        .alloc [.apRecords, .payload] 0 ::
          (List.range number).flatMap fun index => allocs (recordParts index) ++ [.count]

def reqWifiClearApList : Handler := getter
def reqWifiRestore : Handler := getter
def reqWifiClearFastConnect : Handler := getter

def apInfoParts : List (Path Field) :=
  [[.apRecords, .payload], [.country, .apRecords, .payload], [.ssid, .apRecords, .payload],
    [.bssid, .apRecords, .payload], [.cc, .country, .apRecords, .payload],
    [.heAp, .apRecords, .payload]]

def reqWifiStaGetApInfo : Handler := rpcTemplateSimple fun env _ =>
  rpcRetFailIf (!env.driver) (allocs apInfoParts)

def reqWifiDeauthSta : Handler := setter
def reqWifiSetStorage : Handler := setter
def reqWifiSetBandwidth : Handler := setter
def reqWifiGetBandwidth : Handler := setter
def reqWifiSetChannel : Handler := setter
def reqWifiGetChannel : Handler := getter

def reqWifiSetCountryCode : Handler := rpcTemplate fun _ body =>
  rpcRetFailIf (!body.countryData) []

def reqWifiGetCountryCode : Handler := rpcTemplateSimple fun env _ =>
  rpcRetFailIf (!env.driver) (allocs [[.countryText, .payload]])

def reqWifiSetCountry : Handler := rpcTemplate fun _ body => rpcRetFailIf (!body.country) []

def countryParts : List (Path Field) := [[.country, .payload], [.cc, .country, .payload]]

def reqWifiGetCountry : Handler := rpcTemplateSimple fun env _ =>
  rpcRetFailIf (!env.driver) (allocs countryParts)

def stationParts (index : Nat) : List (Path Field) :=
  [[.entry index, .sta, .staList, .payload], [.mac, .entry index, .sta, .staList, .payload]]

def staListParts (maxConnNum : Nat) : List (Path Field) :=
  [[.staList, .payload], [.sta, .staList, .payload]] ++ (List.range maxConnNum).flatMap stationParts

def reqWifiApGetStaList : Handler := rpcTemplateSimple fun env _ =>
  rpcRetFailIf (!env.driver) (allocs (staListParts env.maxConnNum))

def reqWifiApGetStaAid : Handler := setter
def reqWifiStaGetRssi : Handler := getter
def reqWifiStaGetAid : Handler := getter

def reqWifiSetProtocols : Handler :=
  sinceIdf54 (rpcTemplate fun _ body => rpcRetFailIf (!body.protocols) [])

def reqWifiGetProtocols : Handler := sinceIdf54 (rpcTemplate fun env _ =>
  rpcRetFailIf (!env.driver) (allocs [[.protocols, .payload]]))

def reqWifiSetBandwidths : Handler :=
  sinceIdf54 (rpcTemplate fun _ body => rpcRetFailIf (!body.bandwidths) [])

def reqWifiGetBandwidths : Handler := sinceIdf54 (rpcTemplate fun env _ =>
  rpcRetFailIf (!env.driver) (allocs [[.bandwidths, .payload]]))

def reqWifiSetBand : Handler := sinceIdf54 setter
def reqWifiGetBand : Handler := sinceIdf54 getter
def reqWifiSetBandMode : Handler := sinceIdf54 setter
def reqWifiGetBandMode : Handler := sinceIdf54 getter
def reqGetCoprocessorFwVersion : Handler := getter

/-- `RPC_ID__Req_...` of the request answered by the response of a kind. -/
def reqNum : RespKind → Int
  | .getMacAddress => 257
  | .setMacAddress => 258
  | .getWifiMode => 259
  | .setWifiMode => 260
  | .wifiSetPs => 270
  | .wifiGetPs => 271
  | .otaBegin => 272
  | .otaWrite => 273
  | .otaEnd => 274
  | .wifiSetMaxTxPower => 275
  | .wifiGetMaxTxPower => 276
  | .configHeartbeat => 277
  | .wifiInit => 278
  | .wifiDeinit => 279
  | .wifiStart => 280
  | .wifiStop => 281
  | .wifiConnect => 282
  | .wifiDisconnect => 283
  | .wifiSetConfig => 284
  | .wifiGetConfig => 285
  | .wifiScanStart => 286
  | .wifiScanStop => 287
  | .wifiScanGetApNum => 288
  | .wifiScanGetApRecords => 289
  | .wifiStaGetApInfo => 294
  | .wifiClearApList => 290
  | .wifiRestore => 291
  | .wifiClearFastConnect => 292
  | .wifiDeauthSta => 293
  | .wifiSetStorage => 313
  | .wifiSetBandwidth => 299
  | .wifiGetBandwidth => 300
  | .wifiSetChannel => 301
  | .wifiGetChannel => 302
  | .wifiSetCountryCode => 334
  | .wifiGetCountryCode => 335
  | .wifiSetCountry => 303
  | .wifiGetCountry => 304
  | .wifiApGetStaList => 311
  | .wifiApGetStaAid => 312
  | .wifiStaGetRssi => 341
  | .wifiSetProtocol => 297
  | .wifiGetProtocol => 298
  | .wifiStaGetAid => 338
  | .getCoprocessorFwVersion => 350
  | .wifiSetProtocols => 342
  | .wifiGetProtocols => 343
  | .wifiSetBandwidths => 344
  | .wifiGetBandwidths => 345
  | .wifiSetBand => 346
  | .wifiGetBand => 347
  | .wifiSetBandMode => 348
  | .wifiGetBandMode => 349

/-- `req_table`. -/
def commandHandler : RespKind → Handler
  | .getMacAddress => reqWifiGetMac
  | .getWifiMode => reqWifiGetMode
  | .setWifiMode => reqWifiSetMode
  | .setMacAddress => reqWifiSetMac
  | .wifiSetPs => reqWifiSetPs
  | .wifiGetPs => reqWifiGetPs
  | .otaBegin => reqOtaBeginHandler
  | .otaWrite => reqOtaWriteHandler
  | .otaEnd => reqOtaEndHandler
  | .wifiSetMaxTxPower => reqWifiSetMaxTxPower
  | .wifiGetMaxTxPower => reqWifiGetMaxTxPower
  | .configHeartbeat => reqConfigHeartbeat
  | .wifiInit => reqWifiInit
  | .wifiDeinit => reqWifiDeinit
  | .wifiStart => reqWifiStart
  | .wifiStop => reqWifiStop
  | .wifiConnect => reqWifiConnect
  | .wifiDisconnect => reqWifiDisconnect
  | .wifiSetConfig => reqWifiSetConfig
  | .wifiGetConfig => reqWifiGetConfig
  | .wifiScanStart => reqWifiScanStart
  | .wifiScanStop => reqWifiScanStop
  | .wifiScanGetApNum => reqWifiScanGetApNum
  | .wifiScanGetApRecords => reqWifiScanGetApRecords
  | .wifiClearApList => reqWifiClearApList
  | .wifiRestore => reqWifiRestore
  | .wifiClearFastConnect => reqWifiClearFastConnect
  | .wifiStaGetApInfo => reqWifiStaGetApInfo
  | .wifiDeauthSta => reqWifiDeauthSta
  | .wifiSetStorage => reqWifiSetStorage
  | .wifiSetProtocol => reqWifiSetProtocol
  | .wifiGetProtocol => reqWifiGetProtocol
  | .wifiSetBandwidth => reqWifiSetBandwidth
  | .wifiGetBandwidth => reqWifiGetBandwidth
  | .wifiSetChannel => reqWifiSetChannel
  | .wifiGetChannel => reqWifiGetChannel
  | .wifiSetCountryCode => reqWifiSetCountryCode
  | .wifiGetCountryCode => reqWifiGetCountryCode
  | .wifiSetCountry => reqWifiSetCountry
  | .wifiGetCountry => reqWifiGetCountry
  | .wifiApGetStaList => reqWifiApGetStaList
  | .wifiApGetStaAid => reqWifiApGetStaAid
  | .wifiStaGetRssi => reqWifiStaGetRssi
  | .wifiStaGetAid => reqWifiStaGetAid
  | .wifiSetProtocols => reqWifiSetProtocols
  | .wifiGetProtocols => reqWifiGetProtocols
  | .wifiSetBandwidths => reqWifiSetBandwidths
  | .wifiGetBandwidths => reqWifiGetBandwidths
  | .wifiSetBand => reqWifiSetBand
  | .wifiGetBand => reqWifiGetBand
  | .wifiSetBandMode => reqWifiSetBandMode
  | .wifiGetBandMode => reqWifiGetBandMode
  | .getCoprocessorFwVersion => reqGetCoprocessorFwVersion

def lookupReqHandler (reqId : Int) : Option RespKind :=
  RespKind.all.find? fun kind => reqNum kind == reqId

def espRpcCommandDispatcher (env : Env) (req : Request) : Result Field :=
  match lookupReqHandler req.msgId with
  | none => .returned espFail { asked := 0, held := [], counted := 0 }
  | some kind =>
      match exec env.calloc (commandHandler kind env req.payload)
          { asked := 0, held := [], counted := 0 } with
      | .crashed => .crashed
      | .returned code built => .returned (if code ≠ 0 then espFail else 0) built

def frees (parts : List (Path Field)) : List (Clean Field) := parts.map .free

/-- `if (x) { ... }` over a pointer of the response. -/
def whenSet (held : List (Path Field)) (part : Path Field) (cleaning : List (Clean Field)) :
    List (Clean Field) :=
  .look part :: if part ∈ held then cleaning else []

/-- A response with one part that may be missing. -/
def cleanupOptional (field : Field) (held : List (Path Field)) : List (Clean Field) :=
  whenSet held [field, .payload] (frees [[field, .payload]]) ++ frees [[.payload]]

/-- `iface` is the field of the response that selects the member of the union. -/
def cleanupGetConfig (iface : UInt32) (held : List (Path Field)) : List (Clean Field) :=
  whenSet held [.cfg, .payload]
    ((if iface = ifaceSta then
        frees [[.ssid, .config, .cfg, .payload], [.password, .config, .cfg, .payload],
          [.bssid, .config, .cfg, .payload], [.threshold, .config, .cfg, .payload],
          [.pmfCfg, .config, .cfg, .payload], [.config, .cfg, .payload]]
      else if iface = ifaceAp then
        frees [[.ssid, .config, .cfg, .payload], [.password, .config, .cfg, .payload],
          [.pmfCfg, .config, .cfg, .payload], [.config, .cfg, .payload]]
      else []) ++ frees [[.cfg, .payload]]) ++
  frees [[.payload]]

def recordFrees (index : Nat) : List (Path Field) :=
  [[.ssid, .entry index, .apRecords, .payload], [.bssid, .entry index, .apRecords, .payload],
    [.cc, .country, .entry index, .apRecords, .payload],
    [.country, .entry index, .apRecords, .payload],
    [.heAp, .entry index, .apRecords, .payload], [.entry index, .apRecords, .payload]]

/-- The loop goes over the records that were counted. -/
def cleanupScanGetApRecords (held : List (Path Field)) (counted : Nat) : List (Clean Field) :=
  whenSet held [.apRecords, .payload]
    ((List.range counted).flatMap fun index => frees (recordFrees index)) ++
  whenSet held [.apRecords, .payload] (frees [[.apRecords, .payload]]) ++
  frees [[.payload]]

def cleanupStaGetApInfo (held : List (Path Field)) : List (Clean Field) :=
  whenSet held [.apRecords, .payload]
    (frees [[.ssid, .apRecords, .payload], [.bssid, .apRecords, .payload],
      [.cc, .country, .apRecords, .payload], [.country, .apRecords, .payload],
      [.heAp, .apRecords, .payload], [.apRecords, .payload]]) ++
  frees [[.payload]]

def stationFrees (index : Nat) : List (Path Field) :=
  [[.mac, .entry index, .sta, .staList, .payload], [.entry index, .sta, .staList, .payload]]

def cleanupApGetStaList (maxConnNum : Nat) (held : List (Path Field)) : List (Clean Field) :=
  whenSet held [.staList, .payload]
    (((List.range maxConnNum).flatMap fun index => frees (stationFrees index)) ++
      frees [[.staList, .payload]]) ++
  frees [[.payload]]

/-- The cases of `esp_rpc_cleanup` for responses. -/
def cleanupResp (maxConnNum : Nat) (iface : UInt32) (built : Built Field) :
    RespKind → List (Clean Field)
  | .getMacAddress => frees [[.macData, .payload], [.payload]]
  | .wifiGetConfig => cleanupGetConfig iface built.held
  | .wifiScanGetApRecords => cleanupScanGetApRecords built.held built.counted
  | .wifiStaGetApInfo => cleanupStaGetApInfo built.held
  | .wifiGetCountryCode => cleanupOptional .countryText built.held
  | .wifiGetCountry => cleanupOptional .country built.held
  | .wifiApGetStaList => cleanupApGetStaList maxConnNum built.held
  | .wifiGetProtocols => cleanupOptional .protocols built.held
  | .wifiGetBandwidths => cleanupOptional .bandwidths built.held
  | _ => frees [[.payload]]

/-- The cases for events, which a request can name as well. -/
def cleanupEvent (msgId : Int) : List (Clean Field) :=
  if msgId = 774 then frees [[.scanDone, .payload], [.payload]]
  else if msgId = 775 then frees [[.staConnected, .payload], [.payload]]
  else if msgId = 776 then frees [[.staDisconnected, .payload], [.payload]]
  else if 769 ≤ msgId ∧ msgId ≤ 773 then frees [[.payload]]
  else []

def espRpcCleanup (maxConnNum : Nat) (iface : UInt32) (msgId : Int) (built : Built Field) :
    List (Clean Field) :=
  match RespKind.ofId msgId with
  | some kind => cleanupResp maxConnNum iface built kind
  | none => cleanupEvent msgId

structure Packed where
  uid : UInt32
  msgId : Int

/-- What became of a request: whether a pointer that is not set was followed or a check
aborted, how often the unpacked request was freed, the parts of the response allocated and
freed, and what was packed. -/
structure Run where
  crashed : Bool
  reqFreed : Nat
  allocated : List (Path Field)
  freed : List (Path Field)
  packed : Option Packed

def crashedRun : Run :=
  { crashed := true, reqFreed := 0, allocated := [], freed := [], packed := none }

def Request.iface (req : Request) : UInt32 :=
  match req.payload with
  | none => 0
  | some body => body.iface

/-- `data_transfer_handler` from the unpacked request on. Only a dispatched request is freed.
Each way out cleans up the response. -/
def dataTransferHandler (env : Env) (req : Request) : Run :=
  let respId := req.msgId - reqBase + respBase
  match espRpcCommandDispatcher env req with
  | .crashed => crashedRun
  | .returned code built =>
      match release (espRpcCleanup env.maxConnNum req.iface respId built)
          { held := built.held, freed := [] } with
      | none => crashedRun
      | some ledger =>
          { crashed := false
            reqFreed := if code ≠ 0 then 0 else 1
            allocated := built.held
            freed := ledger.freed
            packed :=
              if code = 0 ∧ 0 < env.packedSize ∧ env.calloc built.asked = true then
                some { uid := req.uid, msgId := respId }
              else none }

/-- The request is handled to its end, without following a pointer that is not set, freed
once, every part of the response is freed once, and a packed response answers this request. -/
structure Safe (req : Request) (run : Run) : Prop where
  runs : run.crashed = false
  request : run.reqFreed = 1
  response : FreedOnce run.allocated run.freed
  answers : ∀ packed, run.packed = some packed → packed.uid = req.uid ∧
    ∃ kind, reqNum kind = req.msgId ∧ packed.msgId = kind.id

end EspHosted.SlaveRequests

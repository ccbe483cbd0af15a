import EspHosted.AccessTrace
import EspHosted.ApRecords
import EspHosted.RpcResponses

/-!
What `rpc_parse_rsp` and `rpc_parse_evt` do with memory. The sizes of their copies, the rounds
of their loops and the counts they hand on come from the decoded message, and a sub-message may
be absent. The trace of a case goes up to where it is left. Numbers that are only copied are
left out; a byte field is NULL when it is empty, as is the array of a repeated field. The
payload of the message has the type that goes with its `msg_id`; the two members of a
`WifiConfig` are one pointer, and pointers have 32 bits.
-/

namespace EspHosted.ParseBounds
open AccessTrace RpcResponses
open StationConfig (ssidLength passwordLength bssidBytesSize)
open ApRecords (recSsidSize)

abbrev Bytes := List UInt8

def ccSize : Nat := 3

/-- `RPC_RSP_COPY_BYTES` into an array of `room` bytes. -/
def rspCopyBytes (room : Nat) (src : Bytes) : List Access :=
  if src = [] then [] else [.write room src.length]

structure WifiStaConfig where
  ssid : Bytes
  password : Bytes
  scanMethod : Int32
  bssidSet : Bool
  bssid : Bytes
  threshold : Bool
  pmfCfg : Bool

structure WifiApConfig where
  ssid : Bytes
  password : Bytes
  ssidLen : UInt32
  pmfCfg : Bool

/-- The `oneof` of `wifi_config`. -/
inductive WifiConfig where
  | unset
  | sta (msg : WifiStaConfig)
  | ap (msg : WifiApConfig)

/-- A station's configuration read through the other member: `scan_method` lies where an access
point's has `ssid_len`, and `pmf_cfg` lies where it does there. -/
def WifiStaConfig.asAp (msg : WifiStaConfig) : WifiApConfig where
  ssid := msg.ssid
  password := msg.password
  ssidLen := msg.scanMethod.toUInt32
  pmfCfg := msg.pmfCfg

structure WifiApRecord where
  ssid : Bytes
  bssid : Bytes
  country : Option Bytes
  heAp : Bool

/-- `sta` has the `mac` of each station. -/
structure WifiStaList where
  num : Int
  sta : List Bytes

structure RspPayload where
  resp : Int
  mac : Bytes
  iface : Int
  cfg : Option WifiConfig
  number : Int
  apRecords : List WifiApRecord
  apInfo : Option WifiApRecord
  countryCode : Bytes
  country : Option Bytes
  staList : Option WifiStaList
  protocols : Bool
  bandwidths : Bool

structure Rsp where
  msgId : Int
  payload : Option RspPayload

def staAccesses (msg : WifiStaConfig) : List Access :=
  rspCopyBytes ssidLength msg.ssid ++ (rspCopyBytes passwordLength msg.password ++
    ((if msg.bssidSet then rspCopyBytes bssidBytesSize msg.bssid else []) ++
      [.follow msg.threshold, .follow msg.pmfCfg]))

/-- `ssid_len` is a `uint8_t` on the host. -/
def apAccesses (msg : WifiApConfig) : List Access :=
  rspCopyBytes ssidLength msg.ssid ++ (rspCopyBytes passwordLength msg.password ++
    [.report (msg.ssidLen.toNat % 256 : Nat) msg.ssid.length, .follow msg.pmfCfg])

/-- An access point's configuration read through the other member, up to `threshold`. That lies
over `ftm_responder`, which is 0 or 1 and leads to no sub-message. -/
def apAsStaAccesses (msg : WifiApConfig) : List Access :=
  rspCopyBytes ssidLength msg.ssid ++ (rspCopyBytes passwordLength msg.password ++ [.follow false])

/-- `cfg->sta` is followed for a station and `cfg->ap` for an access point, whichever is set. -/
def configAccesses (iface : Int) (cfg : Option WifiConfig) : List Access :=
  if iface % 256 = wifiIfSta then
    match cfg with
    | some (.sta msg) => .follow true :: .follow true :: staAccesses msg
    | some (.ap msg) => .follow true :: .follow true :: apAsStaAccesses msg
    | some .unset => [.follow true, .follow false]
    | none => [.follow false]
  else if iface % 256 = wifiIfAp then
    match cfg with
    | some (.ap msg) => .follow true :: .follow true :: apAccesses msg
    | some (.sta msg) => .follow true :: .follow true :: apAccesses msg.asAp
    | some .unset => [.follow true, .follow false]
    | none => [.follow false]
  else []

def countryAccesses : Option Bytes → List Access
  | none => [.follow false]
  | some cc => .follow true :: rspCopyBytes ccSize cc

def recordAccesses (msg : WifiApRecord) : List Access :=
  rspCopyBytes recSsidSize msg.ssid ++ (rspCopyBytes bssidBytesSize msg.bssid ++
    (countryAccesses msg.country ++ [.follow msg.heAp]))

/-- The rounds of the loop over the records, whose counter is a `uint16_t`; with more records
than that it goes round for ever. -/
def recordRounds (number : Int) : Nat := min number.toNat 65536

/-- The array is allocated for `number` records; without it the count stands alone. -/
def recordsAccesses (calloc : Bool) (number : Int) (records : List WifiApRecord) : List Access :=
  if number = 0 ∨ records = [] ∨ !calloc then [.report number 0]
  else loop (recordRounds number) records number.toNat recordAccesses ++
    [.report number number.toNat]

def apInfoAccesses (calloc : Bool) : Option WifiApRecord → List Access
  | none => [.report 1 0]
  | some record => if !calloc then [.report 1 0] else recordAccesses record ++ [.report 1 1]

/-- `num_stations`, compared as a `uint32_t`. -/
def numStations (maxConnNum : Nat) (num : Int) : Nat :=
  if num < 0 then maxConnNum else min num.toNat maxConnNum

def stationsAccesses (maxConnNum : Nat) : Option WifiStaList → List Access
  | none => [.follow false]
  | some list =>
      .follow true ::
        (loop (numStations maxConnNum list.num) list.sta maxConnNum (rspCopyBytes bssidBytesSize) ++
          [.report list.num (numStations maxConnNum list.num)])

/-- The case of the switch behind `RPC_FAIL_ON_NULL` and `RPC_ERR_IN_RESP`. -/
def caseAccesses (maxConnNum : Nat) (calloc : Bool) (kind : RespKind) (payload : RspPayload) :
    List Access :=
  match kind with
  | .getMacAddress => rspCopyBytes bssidBytesSize payload.mac
  | .wifiGetConfig => configAccesses payload.iface payload.cfg
  | .wifiScanGetApRecords => recordsAccesses calloc payload.number payload.apRecords
  | .wifiStaGetApInfo => apInfoAccesses calloc payload.apInfo
  | .wifiGetCountryCode => rspCopyBytes ccSize payload.countryCode
  | .wifiGetCountry => countryAccesses payload.country
  | .wifiApGetStaList => stationsAccesses maxConnNum payload.staList
  | .wifiGetProtocols => [.follow payload.protocols]
  | .wifiGetBandwidths => [.follow payload.bandwidths]
  | _ => []

/-- `OTAEnd` does not have `RPC_ERR_IN_RESP`, but nothing behind its own test either. -/
def rpcParseRsp (dualband : Bool) (maxConnNum : Nat) (calloc : Bool) (msg : Rsp) : List Access :=
  match caseOf dualband msg.msgId, msg.payload with
  | some kind, some payload =>
      if payload.resp ≠ 0 then [] else caseAccesses maxConnNum calloc kind payload
  | _, _ => []

/-- The cases of the other switch, `RPC_ID__Event_...`. -/
inductive EvtKind where
  | espInit | heartbeat | apStaConnected | apStaDisconnected | wifiEventNoArgs | staScanDone
  | staConnected | staDisconnected
  deriving DecidableEq

def EvtKind.id : EvtKind → Int
  | .espInit => 769
  | .heartbeat => 770
  | .apStaConnected => 771
  | .apStaDisconnected => 772
  | .wifiEventNoArgs => 773
  | .staScanDone => 774
  | .staConnected => 775
  | .staDisconnected => 776

def EvtKind.all : List EvtKind :=
  [.espInit, .heartbeat, .apStaConnected, .apStaDisconnected, .wifiEventNoArgs, .staScanDone,
    .staConnected, .staDisconnected]

def EvtKind.ofId (msgId : Int) : Option EvtKind := EvtKind.all.find? fun kind => kind.id == msgId

/-- `wifi_event_sta_connected` and `wifi_event_sta_disconnected`. -/
structure StaEvent where
  ssid : Bytes
  ssidLen : UInt32
  bssid : Bytes

structure EvtPayload where
  resp : Int
  mac : Bytes
  scanDone : Bool
  sta : Option StaEvent

structure Evt where
  msgId : Int
  payload : Option EvtPayload

/-- A copy behind `RPC_FAIL_ON_NULL_PRINT` of its source, and what comes after it. -/
def copyOrFail (room : Nat) (src : Bytes) (rest : List Access) : List Access :=
  if src = [] then [] else .write room src.length :: rest

def staEventAccesses (resp : Int) (msg : StaEvent) : List Access :=
  if resp ≠ 0 then []
  else
    copyOrFail ssidLength msg.ssid
      (.report (msg.ssidLen.toNat % 256 : Nat) msg.ssid.length ::
        copyOrFail bssidBytesSize msg.bssid [])

def evtAccesses (kind : EvtKind) (payload : EvtPayload) : List Access :=
  match kind with
  | .espInit | .heartbeat | .wifiEventNoArgs => []
  | .apStaConnected | .apStaDisconnected =>
      if payload.resp ≠ 0 then [] else copyOrFail bssidBytesSize payload.mac []
  | .staScanDone => [.follow payload.scanDone]
  | .staConnected | .staDisconnected =>
      -- RPC_FAIL_ON_NULL of the sub-message
      payload.sta.toList.flatMap (staEventAccesses payload.resp)

def rpcParseEvt (msg : Evt) : List Access :=
  match EvtKind.ofId msg.msgId, msg.payload with
  | some kind, some payload => evtAccesses kind payload
  | _, _ => []

/-! What the message has to keep to. -/

structure StaFits (msg : WifiStaConfig) : Prop where
  ssid : msg.ssid.length ≤ ssidLength
  password : msg.password.length ≤ passwordLength
  bssid : msg.bssidSet = true → msg.bssid.length ≤ bssidBytesSize
  threshold : msg.threshold = true
  pmfCfg : msg.pmfCfg = true

structure ApFits (msg : WifiApConfig) : Prop where
  ssid : msg.ssid.length ≤ ssidLength
  password : msg.password.length ≤ passwordLength
  ssidLen : msg.ssidLen.toNat % 256 ≤ msg.ssid.length
  pmfCfg : msg.pmfCfg = true

/-- What `cfg->ap` leads to. -/
def WifiConfig.readAsAp : WifiConfig → Option WifiApConfig
  | .unset => none
  | .sta msg => some msg.asAp
  | .ap msg => some msg

/-- A station's configuration is there for a station, and for an access point one that can be
read as an access point's. -/
structure ConfigFits (iface : Int) (cfg : Option WifiConfig) : Prop where
  sta : iface % 256 = wifiIfSta → ∃ msg, cfg = some (.sta msg) ∧ StaFits msg
  ap : iface % 256 = wifiIfAp → ∃ msg, cfg.bind WifiConfig.readAsAp = some msg ∧ ApFits msg

def CountryFits (country : Option Bytes) : Prop := ∃ cc, country = some cc ∧ cc.length ≤ ccSize

structure RecordFits (msg : WifiApRecord) : Prop where
  ssid : msg.ssid.length ≤ recSsidSize
  bssid : msg.bssid.length ≤ bssidBytesSize
  country : CountryFits msg.country
  heAp : msg.heAp = true

/-- There are as many records as `number` says, and memory for them. -/
def RecordsFit (calloc : Bool) (number : Int) (records : List WifiApRecord) : Prop :=
  number ≤ 0 ∨ (calloc = true ∧ recordRounds number ≤ records.length ∧
    ∀ record ∈ records.take (recordRounds number), RecordFits record)

/-- `num` is at most what the host has room for, and that many stations are there. -/
def StationsFit (maxConnNum : Nat) (staList : Option WifiStaList) : Prop :=
  ∃ list, staList = some list ∧ list.num ≤ maxConnNum ∧
    numStations maxConnNum list.num ≤ list.sta.length ∧
    ∀ mac ∈ list.sta.take (numStations maxConnNum list.num), mac.length ≤ bssidBytesSize

def CaseFits (maxConnNum : Nat) (calloc : Bool) (kind : RespKind) (payload : RspPayload) : Prop :=
  match kind with
  | .getMacAddress => payload.mac.length ≤ bssidBytesSize
  | .wifiGetConfig => ConfigFits payload.iface payload.cfg
  | .wifiScanGetApRecords => RecordsFit calloc payload.number payload.apRecords
  | .wifiStaGetApInfo => calloc = true ∧ ∃ record, payload.apInfo = some record ∧ RecordFits record
  | .wifiGetCountryCode => payload.countryCode.length ≤ ccSize
  | .wifiGetCountry => CountryFits payload.country
  | .wifiApGetStaList => StationsFit maxConnNum payload.staList
  | .wifiGetProtocols => payload.protocols = true
  | .wifiGetBandwidths => payload.bandwidths = true
  | _ => True

/-- A response of a supported kind that reports success keeps to the bounds of its kind. -/
def RspFits (dualband : Bool) (maxConnNum : Nat) (calloc : Bool) (msg : Rsp) : Prop :=
  ∀ kind payload, caseOf dualband msg.msgId = some kind → msg.payload = some payload →
    payload.resp = 0 → CaseFits maxConnNum calloc kind payload

/-- The BSSID counts only where the SSID is not NULL. -/
structure StaEventFits (msg : StaEvent) : Prop where
  ssid : msg.ssid.length ≤ ssidLength
  ssidLen : msg.ssid ≠ [] → msg.ssidLen.toNat % 256 ≤ msg.ssid.length
  bssid : msg.ssid ≠ [] → msg.bssid.length ≤ bssidBytesSize

def EvtCaseFits (kind : EvtKind) (payload : EvtPayload) : Prop :=
  match kind with
  | .espInit | .heartbeat | .wifiEventNoArgs => True
  | .apStaConnected | .apStaDisconnected =>
      payload.resp = 0 → payload.mac.length ≤ bssidBytesSize
  | .staScanDone => payload.scanDone = true
  | .staConnected | .staDisconnected =>
      payload.resp = 0 → ∀ msg, payload.sta = some msg → StaEventFits msg

def EvtFits (msg : Evt) : Prop :=
  ∀ kind payload, EvtKind.ofId msg.msgId = some kind → msg.payload = some payload →
    EvtCaseFits kind payload

section Cases
variable {room : Nat} {src : Bytes} {calloc : Bool} {maxConnNum : Nat}

theorem safe_one (access : Access) : Safe [access] ↔ access.Safe := by
  rw [safe_cons]
  exact ⟨fun both => both.1, fun one => ⟨one, safe_nil⟩⟩

theorem absent_unsafe : ¬ Safe [.follow false] := by decide

theorem other_part_unsafe : ¬ Safe [.follow true, .follow false] := by decide

/-- One entry announced and none there. -/
theorem alone_unsafe : ¬ Safe [.report 1 0] := by decide

theorem rspCopyBytes_safe : Safe (rspCopyBytes room src) ↔ src.length ≤ room := by
  unfold rspCopyBytes
  by_cases empty : src = []
  · rw [if_pos empty, empty]
    exact ⟨fun _ => Nat.zero_le _, fun _ => safe_nil⟩
  · rw [if_neg empty, safe_one]
    exact Iff.rfl

theorem staAccesses_safe (msg : WifiStaConfig) : Safe (staAccesses msg) ↔ StaFits msg := by
  have bssid : Safe (if msg.bssidSet then rspCopyBytes bssidBytesSize msg.bssid else []) ↔
      (msg.bssidSet = true → msg.bssid.length ≤ bssidBytesSize) := by
    cases msg.bssidSet with
    | true => simp only [if_true, rspCopyBytes_safe, true_implies]
    | false => exact ⟨fun _ wrong => (by cases wrong), fun _ => safe_nil⟩
  simp only [staAccesses, safe_append, safe_cons, rspCopyBytes_safe, bssid, Access.Safe]
  constructor
  · rintro ⟨ssid, password, bssid, threshold, pmfCfg, _⟩
    exact ⟨ssid, password, bssid, threshold, pmfCfg⟩
  · rintro ⟨ssid, password, bssid, threshold, pmfCfg⟩
    exact ⟨ssid, password, bssid, threshold, pmfCfg, safe_nil⟩

theorem apAsStaAccesses_dangles (msg : WifiApConfig) : ¬ Safe (apAsStaAccesses msg) := by
  simp only [apAsStaAccesses, safe_append]
  rintro ⟨_, _, lost⟩
  exact absent_unsafe lost

theorem apAccesses_safe (msg : WifiApConfig) : Safe (apAccesses msg) ↔ ApFits msg := by
  simp only [apAccesses, safe_append, safe_cons, rspCopyBytes_safe, Access.Safe, Nat.cast_le]
  constructor
  · rintro ⟨ssid, password, ssidLen, pmfCfg, _⟩
    exact ⟨ssid, password, ssidLen, pmfCfg⟩
  · rintro ⟨ssid, password, ssidLen, pmfCfg⟩
    exact ⟨ssid, password, ssidLen, pmfCfg, safe_nil⟩

theorem configAccesses_safe (iface : Int) (cfg : Option WifiConfig) :
    Safe (configAccesses iface cfg) ↔ ConfigFits iface cfg := by
  have apart : ¬ wifiIfSta = wifiIfAp := by decide
  unfold configAccesses
  by_cases sta : iface % 256 = wifiIfSta
  · have not_ap : ¬ iface % 256 = wifiIfAp := by
      rw [sta]
      exact apart
    rw [if_pos sta]
    constructor
    · intro safe
      refine ⟨fun _ => ?_, fun ap => absurd ap not_ap⟩
      rcases cfg with _ | _ | msg | msg
      · exact absurd safe absent_unsafe
      · exact absurd safe other_part_unsafe
      · simp only [safe_cons] at safe
        exact ⟨msg, rfl, (staAccesses_safe msg).mp safe.2.2⟩
      · simp only [safe_cons] at safe
        exact absurd safe.2.2 (apAsStaAccesses_dangles msg)
    · intro fits
      obtain ⟨msg, rfl, within⟩ := fits.sta sta
      simp only [safe_cons]
      exact ⟨rfl, rfl, (staAccesses_safe msg).mpr within⟩
  · rw [if_neg sta]
    by_cases ap : iface % 256 = wifiIfAp
    · rw [if_pos ap]
      constructor
      · intro safe
        refine ⟨fun wrong => absurd wrong sta, fun _ => ?_⟩
        rcases cfg with _ | _ | msg | msg
        · exact absurd safe absent_unsafe
        · exact absurd safe other_part_unsafe
        · simp only [safe_cons] at safe
          exact ⟨msg.asAp, rfl, (apAccesses_safe msg.asAp).mp safe.2.2⟩
        · simp only [safe_cons] at safe
          exact ⟨msg, rfl, (apAccesses_safe msg).mp safe.2.2⟩
      · intro fits
        obtain ⟨msg, read, within⟩ := fits.ap ap
        have safe := (apAccesses_safe msg).mpr within
        rcases cfg with _ | _ | own | own
        · cases read
        · cases read
        · cases read
          simp only [safe_cons]
          exact ⟨rfl, rfl, safe⟩
        · cases read
          simp only [safe_cons]
          exact ⟨rfl, rfl, safe⟩
    · rw [if_neg ap]
      exact ⟨fun _ => ⟨fun wrong => absurd wrong sta, fun wrong => absurd wrong ap⟩,
        fun _ => safe_nil⟩

theorem countryAccesses_safe (country : Option Bytes) :
    Safe (countryAccesses country) ↔ CountryFits country := by
  cases country with
  | none =>
      constructor
      · intro safe
        exact absurd safe absent_unsafe
      · rintro ⟨cc, wrong, _⟩
        cases wrong
  | some cc =>
      rw [countryAccesses, safe_cons, rspCopyBytes_safe]
      constructor
      · rintro ⟨_, fits⟩
        exact ⟨cc, rfl, fits⟩
      · rintro ⟨other, same, fits⟩
        cases same
        exact ⟨rfl, fits⟩

theorem recordAccesses_safe (msg : WifiApRecord) : Safe (recordAccesses msg) ↔ RecordFits msg := by
  simp only [recordAccesses, safe_append, safe_one, rspCopyBytes_safe, countryAccesses_safe,
    Access.Safe]
  constructor
  · rintro ⟨ssid, bssid, country, heAp⟩
    exact ⟨ssid, bssid, country, heAp⟩
  · rintro ⟨ssid, bssid, country, heAp⟩
    exact ⟨ssid, bssid, country, heAp⟩

theorem recordsAccesses_safe (calloc : Bool) (number : Int) (records : List WifiApRecord) :
    Safe (recordsAccesses calloc number records) ↔ RecordsFit calloc number records := by
  unfold recordsAccesses RecordsFit
  have room : recordRounds number ≤ number.toNat := Nat.min_le_left _ _
  by_cases alone : number = 0 ∨ records = [] ∨ !calloc
  · rw [if_pos alone, safe_one]
    simp only [Access.Safe]
    constructor
    · exact Or.inl
    · rintro (none | ⟨had, enough, _⟩)
      · exact none
      · rcases alone with zero | empty | failed
        · omega
        · rw [empty, recordRounds, List.length_nil] at enough
          omega
        · rw [had] at failed
          cases failed
  · rw [if_neg alone, safe_append, safe_one, loop_safe room]
    simp only [not_or, Bool.not_eq_true', Bool.not_eq_false] at alone
    simp only [Access.Safe, recordAccesses_safe]
    constructor
    · rintro ⟨⟨enough, each⟩, _⟩
      exact Or.inr ⟨alone.2.2, enough, each⟩
    · rintro (none | ⟨_, enough, each⟩)
      · have no_rounds : recordRounds number = 0 := by
          rw [recordRounds]
          omega
        rw [no_rounds]
        refine ⟨⟨Nat.zero_le _, fun record member => ?_⟩, by omega⟩
        cases member
      · exact ⟨⟨enough, each⟩, by omega⟩

theorem apInfoAccesses_safe (calloc : Bool) (apInfo : Option WifiApRecord) :
    Safe (apInfoAccesses calloc apInfo) ↔
      calloc = true ∧ ∃ record, apInfo = some record ∧ RecordFits record := by
  cases apInfo with
  | none =>
      constructor
      · intro safe
        exact absurd safe alone_unsafe
      · rintro ⟨_, record, wrong, _⟩
        cases wrong
  | some record =>
      cases calloc with
      | false =>
          constructor
          · intro safe
            exact absurd safe alone_unsafe
          · rintro ⟨wrong, _⟩
            cases wrong
      | true =>
          simp only [apInfoAccesses, Bool.not_true, Bool.false_eq_true, if_false, safe_append,
            safe_one, recordAccesses_safe]
          constructor
          · rintro ⟨fits, _⟩
            exact ⟨trivial, record, rfl, fits⟩
          · rintro ⟨_, other, same, fits⟩
            cases same
            exact ⟨fits, Int.le_refl 1⟩

theorem numStations_le (num : Int) : numStations maxConnNum num ≤ maxConnNum := by
  unfold numStations
  split <;> omega

theorem stationsAccesses_safe (maxConnNum : Nat) (staList : Option WifiStaList) :
    Safe (stationsAccesses maxConnNum staList) ↔ StationsFit maxConnNum staList := by
  cases staList with
  | none =>
      constructor
      · intro safe
        exact absurd safe absent_unsafe
      · rintro ⟨list, wrong, _⟩
        cases wrong
  | some list =>
      have counted : list.num ≤ (numStations maxConnNum list.num : Int) ↔ list.num ≤ maxConnNum := by
        unfold numStations
        split <;> omega
      rw [stationsAccesses, safe_cons, safe_append, safe_one, loop_safe (numStations_le _)]
      simp only [Access.Safe, rspCopyBytes_safe, counted]
      constructor
      · rintro ⟨_, ⟨enough, each⟩, bound⟩
        exact ⟨list, rfl, bound, enough, each⟩
      · rintro ⟨other, same, bound, enough, each⟩
        cases same
        exact ⟨trivial, ⟨enough, each⟩, bound⟩

theorem caseAccesses_safe (kind : RespKind) (payload : RspPayload) :
    Safe (caseAccesses maxConnNum calloc kind payload) ↔ CaseFits maxConnNum calloc kind payload := by
  cases kind
  case getMacAddress | wifiGetCountryCode => exact rspCopyBytes_safe
  case wifiGetConfig => exact configAccesses_safe _ _
  case wifiScanGetApRecords => exact recordsAccesses_safe _ _ _
  case wifiStaGetApInfo => exact apInfoAccesses_safe _ _
  case wifiGetCountry => exact countryAccesses_safe _
  case wifiApGetStaList => exact stationsAccesses_safe _ _
  case wifiGetProtocols | wifiGetBandwidths => exact safe_one _
  all_goals exact ⟨fun _ => trivial, fun _ => safe_nil⟩

theorem rpcParseRsp_safe (dualband : Bool) (maxConnNum : Nat) (calloc : Bool) (msg : Rsp) :
    Safe (rpcParseRsp dualband maxConnNum calloc msg) ↔ RspFits dualband maxConnNum calloc msg := by
  unfold rpcParseRsp RspFits
  cases known : caseOf dualband msg.msgId with
  | none => exact ⟨fun _ _ _ wrong => (by cases wrong), fun _ => safe_nil⟩
  | some kind =>
      cases there : msg.payload with
      | none => exact ⟨fun _ _ _ _ wrong => (by cases wrong), fun _ => safe_nil⟩
      | some payload =>
          dsimp only
          by_cases failed : payload.resp ≠ 0
          · rw [if_pos failed]
            refine ⟨fun _ _ _ _ same success => ?_, fun _ => safe_nil⟩
            cases same
            exact absurd success failed
          · rw [if_neg failed, caseAccesses_safe]
            constructor
            · intro fits _ _ same_kind same _
              cases same_kind
              cases same
              exact fits
            · intro fits
              exact fits kind payload rfl rfl (Decidable.of_not_not failed)

theorem copyOrFail_safe {rest : List Access} :
    Safe (copyOrFail room src rest) ↔ src.length ≤ room ∧ (src ≠ [] → Safe rest) := by
  unfold copyOrFail
  by_cases empty : src = []
  · rw [if_pos empty, empty]
    exact ⟨fun _ => ⟨Nat.zero_le _, fun wrong => absurd rfl wrong⟩, fun _ => safe_nil⟩
  · rw [if_neg empty, safe_cons]
    exact ⟨fun both => ⟨both.1, fun _ => both.2⟩, fun both => ⟨both.1, both.2 empty⟩⟩

theorem staEventAccesses_safe (resp : Int) (msg : StaEvent) :
    Safe (staEventAccesses resp msg) ↔ (resp = 0 → StaEventFits msg) := by
  unfold staEventAccesses
  by_cases failed : resp ≠ 0
  · rw [if_pos failed]
    exact ⟨fun _ success => absurd success failed, fun _ => safe_nil⟩
  · rw [if_neg failed, copyOrFail_safe, safe_cons, copyOrFail_safe]
    have success : resp = 0 := Decidable.of_not_not failed
    simp only [Access.Safe, Nat.cast_le]
    constructor
    · rintro ⟨ssid, rest⟩ _
      exact ⟨ssid, fun some_bytes => (rest some_bytes).1, fun some_bytes => (rest some_bytes).2.1⟩
    · intro fits
      have within := fits success
      exact ⟨within.ssid, fun some_bytes =>
        ⟨within.ssidLen some_bytes, within.bssid some_bytes, fun _ => safe_nil⟩⟩

theorem evtAccesses_safe (kind : EvtKind) (payload : EvtPayload) :
    Safe (evtAccesses kind payload) ↔ EvtCaseFits kind payload := by
  cases kind
  case espInit | heartbeat | wifiEventNoArgs => exact ⟨fun _ => trivial, fun _ => safe_nil⟩
  case staScanDone => exact safe_one _
  case apStaConnected | apStaDisconnected =>
    simp only [evtAccesses, EvtCaseFits]
    by_cases failed : payload.resp ≠ 0
    · rw [if_pos failed]
      exact ⟨fun _ success => absurd success failed, fun _ => safe_nil⟩
    · rw [if_neg failed, copyOrFail_safe]
      have success : payload.resp = 0 := Decidable.of_not_not failed
      exact ⟨fun both _ => both.1, fun fits => ⟨fits success, fun _ => safe_nil⟩⟩
  case staConnected | staDisconnected =>
    simp only [evtAccesses, EvtCaseFits, safe_flatMap, staEventAccesses_safe, Option.mem_toList]
    exact ⟨fun each success msg same => each msg same success,
      fun each msg same success => each success msg same⟩

theorem rpcParseEvt_safe (msg : Evt) : Safe (rpcParseEvt msg) ↔ EvtFits msg := by
  unfold rpcParseEvt EvtFits
  cases known : EvtKind.ofId msg.msgId with
  | none => exact ⟨fun _ _ _ wrong => (by cases wrong), fun _ => safe_nil⟩
  | some kind =>
      cases there : msg.payload with
      | none => exact ⟨fun _ _ _ _ wrong => (by cases wrong), fun _ => safe_nil⟩
      | some payload =>
          dsimp only
          rw [evtAccesses_safe]
          constructor
          · intro fits _ _ same_kind same
            cases same_kind
            cases same
            exact fits
          · intro fits
            exact fits kind payload rfl rfl

end Cases

section Responses

def WifiApRecord.shape (msg : WifiApRecord) : ApRecord where
  country := msg.country.isSome
  heAp := msg.heAp

def WifiConfig.shape : WifiConfig → Cfg
  | .unset => .unset
  | .sta msg => .sta msg.threshold msg.pmfCfg
  | .ap msg => .ap msg.pmfCfg

/-- What `RpcResponses` keeps of the payload. -/
def RspPayload.shape (payload : RspPayload) : Payload where
  resp := payload.resp
  macData := payload.mac ≠ []
  iface := payload.iface
  cfg := payload.cfg.map WifiConfig.shape
  number := payload.number
  apRecords := if payload.apRecords = [] then none else some (payload.apRecords.map WifiApRecord.shape)
  apInfo := payload.apInfo.map WifiApRecord.shape
  country := payload.country.isSome
  staList := payload.staList.map fun list => { num := list.num, sta := list.sta.length }
  protocols := payload.protocols
  bandwidths := payload.bandwidths

variable {maxConnNum : Nat} {calloc : Bool} {payload : RspPayload} {app : AppResp} {Result : Type}

/-- The case does not lose its way. -/
def Returns : Except Stop Result → Prop
  | .error .lost => False
  | _ => True

theorem returns_bind {Next : Type} {step : Except Stop Result} {next : Result → Except Stop Next}
    (first : Returns step) (rest : ∀ result, Returns (next result)) : Returns (step >>= next) := by
  match step with
  | .ok result => exact rest result
  | .error (.failParseRpcMsg _) => trivial
  | .error .lost => exact first

theorem errInResp_returns (resp : Int) : Returns (errInResp app resp) := by
  unfold errInResp
  split <;> trivial

theorem failOnNull_returns (present : Bool) : Returns (failOnNull app present) := by
  cases present <;> trivial

theorem follow_returns {present : Bool} (there : present = true) : Returns (follow present) := by
  rw [there]
  trivial

theorem copyConfig_returns (fits : ConfigFits payload.iface payload.cfg) :
    Returns (copyConfig payload.shape) := by
  unfold copyConfig
  by_cases sta : payload.iface % 256 = wifiIfSta
  · obtain ⟨msg, there, within⟩ := fits.sta sta
    rw [if_pos (show payload.shape.iface % 256 = wifiIfSta from sta)]
    apply follow_returns
    simp only [RspPayload.shape, there, Option.map_some, Option.any_some, WifiConfig.shape,
      Cfg.readAsSta, within.threshold, within.pmfCfg, Bool.and_self]
  · rw [if_neg (show ¬ payload.shape.iface % 256 = wifiIfSta from sta)]
    by_cases ap : payload.iface % 256 = wifiIfAp
    · obtain ⟨msg, read, within⟩ := fits.ap ap
      rw [if_pos (show payload.shape.iface % 256 = wifiIfAp from ap)]
      apply follow_returns
      obtain ⟨cfg, there, own⟩ := Option.bind_eq_some_iff.mp read
      simp only [RspPayload.shape, there, Option.map_some, Option.any_some]
      cases cfg with
      | unset => cases own
      | sta _ | ap _ =>
          cases own
          exact within.pmfCfg
    · rw [if_neg (show ¬ payload.shape.iface % 256 = wifiIfAp from ap)]
      trivial

theorem copyRecords_returns (fits : RecordsFit calloc payload.number payload.apRecords)
    (few : payload.number < 65536) :
    Returns (copyRecords payload.number (payload.apRecords.map WifiApRecord.shape)) := by
  apply follow_returns
  have rounds : recordRounds payload.number = payload.number.toNat := by
    rw [recordRounds]
    omega
  simp only [Bool.and_eq_true, decide_eq_true_eq, List.length_map, List.all_eq_true]
  rcases fits with none | ⟨_, enough, each⟩
  · have zero : payload.number.toNat = 0 := by omega
    rw [zero]
    exact ⟨⟨few, Nat.zero_le _⟩, fun record member => by cases member⟩
  · rw [rounds] at enough each
    refine ⟨⟨few, enough⟩, fun record member => ?_⟩
    rw [← List.map_take] at member
    obtain ⟨msg, taken, rfl⟩ := List.mem_map.mp member
    obtain ⟨cc, country, _⟩ := (each msg taken).country
    simp only [WifiApRecord.shape, country, Option.isSome_some, (each msg taken).heAp, and_self]

theorem copyStations_returns {list : WifiStaList}
    (enough : numStations maxConnNum list.num ≤ list.sta.length) :
    Returns (copyStations maxConnNum { num := list.num, sta := list.sta.length }) := by
  apply follow_returns
  exact decide_eq_true enough

/-- A response that keeps to the bounds, with fewer records than the counter of their loop can
count, comes to an end in `RpcResponses`. -/
theorem parse_returns {kind : RespKind} (fits : CaseFits maxConnNum calloc kind payload)
    (few : payload.number < 65536) :
    Returns (parseCase maxConnNum calloc kind app (some payload.shape)) := by
  have code : Returns (errInResp app payload.shape.resp) := errInResp_returns _
  cases kind
  case getMacAddress =>
    exact returns_bind code fun _ => returns_bind (failOnNull_returns _) fun _ => trivial
  case otaBegin | otaWrite =>
    refine returns_bind code fun _ => ?_
    split <;> trivial
  case otaEnd =>
    simp only [parseCase]
    split <;> trivial
  case wifiGetConfig =>
    exact returns_bind code fun _ => returns_bind (copyConfig_returns fits) fun _ => trivial
  case wifiScanGetApRecords =>
    refine returns_bind code fun _ => ?_
    dsimp only
    split
    · trivial
    · by_cases empty : payload.apRecords = []
      · simp only [RspPayload.shape, empty, if_true]
        trivial
      · simp only [RspPayload.shape, empty, if_false]
        exact returns_bind (failOnNull_returns _) fun _ =>
          returns_bind (copyRecords_returns fits few) fun _ => trivial
  case wifiStaGetApInfo =>
    obtain ⟨_, record, there, within⟩ := fits
    obtain ⟨cc, country, _⟩ := within.country
    refine returns_bind code fun _ => ?_
    simp only [RspPayload.shape, there, Option.map_some]
    refine returns_bind (failOnNull_returns _) fun _ => returns_bind (follow_returns ?_) fun _ => trivial
    simp only [WifiApRecord.shape, country, Option.isSome_some, within.heAp, Bool.and_self]
  case wifiGetCountry =>
    obtain ⟨cc, country, _⟩ := fits
    refine returns_bind code fun _ => returns_bind (follow_returns ?_) fun _ => trivial
    simp only [RspPayload.shape, country, Option.isSome_some]
  case wifiApGetStaList =>
    obtain ⟨list, there, _, enough, _⟩ := fits
    refine returns_bind code fun _ => ?_
    simp only [RspPayload.shape, there, Option.map_some]
    exact returns_bind (copyStations_returns enough) fun _ => trivial
  case wifiGetProtocols | wifiGetBandwidths =>
    exact returns_bind code fun _ => returns_bind (follow_returns fits) fun _ => trivial
  all_goals exact returns_bind code fun _ => trivial

end Responses

/-- Which decoded messages are parsed without leaving an array, a sequence or NULL alone, and
without a count that promises more than there is. -/
theorem parse_bounds_iff (dualband : Bool) (maxConnNum : Nat) (calloc : Bool) (rsp : Rsp)
    (evt : Evt) :
    (Safe (rpcParseRsp dualband maxConnNum calloc rsp) ↔
      RspFits dualband maxConnNum calloc rsp) ∧ (Safe (rpcParseEvt evt) ↔ EvtFits evt) :=
  ⟨rpcParseRsp_safe dualband maxConnNum calloc rsp, rpcParseEvt_safe evt⟩

section Messages

/-- A payload with nothing in it. -/
def emptyRsp : RspPayload where
  resp := 0
  mac := []
  iface := 0
  cfg := none
  number := 0
  apRecords := []
  apInfo := none
  countryCode := []
  country := none
  staList := none
  protocols := false
  bandwidths := false

def longMac : Rsp where
  msgId := 513
  payload := some { emptyRsp with mac := [1, 2, 3, 4, 5, 6, 7] }

/-- Two records are announced, and one is there. -/
def shortRecords : Rsp where
  msgId := 545
  payload := some
    { emptyRsp with
      number := 2
      apRecords := [{ ssid := [65], bssid := [], country := some [], heAp := true }] }

/-- Eleven stations for a host that takes ten; all of them are there. -/
def manyStations : Rsp where
  msgId := 567
  payload := some
    { emptyRsp with staList := some { num := 11, sta := List.replicate 11 [1, 2, 3, 4, 5, 6] } }

def noScanDone : Evt where
  msgId := 774
  payload := some { resp := 0, mac := [], scanDone := false, sta := none }

/-- A copy over the end of the MAC, a record read that is not there, a count that goes beyond the
stations stored, and a NULL sub-message. -/
theorem parse_bounds_fail :
    (¬ ∀ dualband maxConnNum calloc rsp, Safe (rpcParseRsp dualband maxConnNum calloc rsp)) ∧
      (¬ ∀ evt, Safe (rpcParseEvt evt)) ∧
      ¬ Safe (rpcParseRsp false 10 true longMac) ∧
      ¬ Safe (rpcParseRsp false 10 true shortRecords) ∧
      ¬ Safe (rpcParseRsp false 10 true manyStations) ∧ ¬ Safe (rpcParseEvt noScanDone) := by
  have mac : ¬ Safe (rpcParseRsp false 10 true longMac) := by decide
  have scan : ¬ Safe (rpcParseEvt noScanDone) := by decide
  exact ⟨fun safe => mac (safe false 10 true longMac), fun safe => scan (safe noScanDone), mac,
    by decide, by decide, scan⟩

end Messages

end EspHosted.ParseBounds

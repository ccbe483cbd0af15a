import EspHosted.RpcTables

/-!
What `rpc_parse_rsp` makes of a response. Every kind of response that is compiled in has its case
in the switch; a case leaves through the label `fail_parse_rpc_msg` or reaches the end, and
`rpc_parse_rsp` returns `SUCCESS` either way. All the caller learns is in
`resp_event_status`. Of a payload only what the cases test, follow or hand to
`rpc_rsp_callback` is kept; a pointer is `true` or `some` when it is not NULL. The payload
of the message has the type that goes with its `msg_id`.
-/

namespace EspHosted.RpcResponses
open RpcTables (CtrlCmd rpcIdRespBase rpcIdRespMax)

def success : Int := 0
def espFail : Int := -1
def wifiIfSta : Int := 0
def wifiIfAp : Int := 1

/-- The cases of the switch, `RPC_ID__Resp_...`. -/
inductive RespKind where
  | getMacAddress | setMacAddress | getWifiMode | setWifiMode | wifiSetPs | wifiGetPs | otaBegin
  | otaWrite | otaEnd | wifiSetMaxTxPower | wifiGetMaxTxPower | configHeartbeat | wifiInit
  | wifiDeinit | wifiStart | wifiStop | wifiConnect | wifiDisconnect | wifiSetConfig
  | wifiGetConfig | wifiScanStart | wifiScanStop | wifiScanGetApNum | wifiScanGetApRecords
  | wifiStaGetApInfo | wifiClearApList | wifiRestore | wifiClearFastConnect | wifiDeauthSta
  | wifiSetStorage | wifiSetBandwidth | wifiGetBandwidth | wifiSetChannel | wifiGetChannel
  | wifiSetCountryCode | wifiGetCountryCode | wifiSetCountry | wifiGetCountry | wifiApGetStaList
  | wifiApGetStaAid | wifiStaGetRssi | wifiSetProtocol | wifiGetProtocol | wifiStaGetAid
  | getCoprocessorFwVersion | wifiSetProtocols | wifiGetProtocols | wifiSetBandwidths
  | wifiGetBandwidths | wifiSetBand | wifiGetBand | wifiSetBandMode | wifiGetBandMode
  deriving DecidableEq

def RespKind.id : RespKind → Int
  | .getMacAddress => 513
  | .setMacAddress => 514
  | .getWifiMode => 515
  | .setWifiMode => 516
  | .wifiSetPs => 526
  | .wifiGetPs => 527
  | .otaBegin => 528
  | .otaWrite => 529
  | .otaEnd => 530
  | .wifiSetMaxTxPower => 531
  | .wifiGetMaxTxPower => 532
  | .configHeartbeat => 533
  | .wifiInit => 534
  | .wifiDeinit => 535
  | .wifiStart => 536
  | .wifiStop => 537
  | .wifiConnect => 538
  | .wifiDisconnect => 539
  | .wifiSetConfig => 540
  | .wifiGetConfig => 541
  | .wifiScanStart => 542
  | .wifiScanStop => 543
  | .wifiScanGetApNum => 544
  | .wifiScanGetApRecords => 545
  | .wifiStaGetApInfo => 550
  | .wifiClearApList => 546
  | .wifiRestore => 547
  | .wifiClearFastConnect => 548
  | .wifiDeauthSta => 549
  | .wifiSetStorage => 569
  | .wifiSetBandwidth => 555
  | .wifiGetBandwidth => 556
  | .wifiSetChannel => 557
  | .wifiGetChannel => 558
  | .wifiSetCountryCode => 590
  | .wifiGetCountryCode => 591
  | .wifiSetCountry => 559
  | .wifiGetCountry => 560
  | .wifiApGetStaList => 567
  | .wifiApGetStaAid => 568
  | .wifiStaGetRssi => 597
  | .wifiSetProtocol => 553
  | .wifiGetProtocol => 554
  | .wifiStaGetAid => 594
  | .getCoprocessorFwVersion => 606
  | .wifiSetProtocols => 598
  | .wifiGetProtocols => 599
  | .wifiSetBandwidths => 600
  | .wifiGetBandwidths => 601
  | .wifiSetBand => 602
  | .wifiGetBand => 603
  | .wifiSetBandMode => 604
  | .wifiGetBandMode => 605

def RespKind.all : List RespKind :=
  [.getMacAddress, .setMacAddress, .getWifiMode, .setWifiMode, .wifiSetPs, .wifiGetPs, .otaBegin,
    .otaWrite, .otaEnd, .wifiSetMaxTxPower, .wifiGetMaxTxPower, .configHeartbeat, .wifiInit,
    .wifiDeinit, .wifiStart, .wifiStop, .wifiConnect, .wifiDisconnect, .wifiSetConfig,
    .wifiGetConfig, .wifiScanStart, .wifiScanStop, .wifiScanGetApNum, .wifiScanGetApRecords,
    .wifiStaGetApInfo, .wifiClearApList, .wifiRestore, .wifiClearFastConnect, .wifiDeauthSta,
    .wifiSetStorage, .wifiSetBandwidth, .wifiGetBandwidth, .wifiSetChannel, .wifiGetChannel,
    .wifiSetCountryCode, .wifiGetCountryCode, .wifiSetCountry, .wifiGetCountry, .wifiApGetStaList,
    .wifiApGetStaAid, .wifiStaGetRssi, .wifiSetProtocol, .wifiGetProtocol, .wifiStaGetAid,
    .getCoprocessorFwVersion, .wifiSetProtocols, .wifiGetProtocols, .wifiSetBandwidths,
    .wifiGetBandwidths, .wifiSetBand, .wifiGetBand, .wifiSetBandMode, .wifiGetBandMode]

def RespKind.ofId (msgId : Int) : Option RespKind := RespKind.all.find? fun kind => kind.id == msgId

/-- The cases under `H_WIFI_DUALBAND_SUPPORT`. -/
def RespKind.ofDualband : RespKind → Bool
  | .wifiSetProtocols | .wifiGetProtocols | .wifiSetBandwidths | .wifiGetBandwidths | .wifiSetBand
  | .wifiGetBand | .wifiSetBandMode | .wifiGetBandMode => true
  | _ => false

/-- The case of the switch for an id. `dualband` is `H_WIFI_DUALBAND_SUPPORT`, 0 in the
repository's build. -/
def caseOf (dualband : Bool) (msgId : Int) : Option RespKind :=
  (RespKind.ofId msgId).filter fun kind => dualband || !kind.ofDualband

/-- The `oneof` of a `WifiConfig`: one pointer, under the name of either member. -/
inductive Cfg where
  | unset
  | sta (threshold pmfCfg : Bool)
  | ap (pmfCfg : Bool)

structure ApRecord where
  country : Bool
  heAp : Bool

/-- `sta` counts the entries of the array. -/
structure StaList where
  num : Int
  sta : Nat

structure Payload where
  resp : Int
  macData : Bool
  iface : Int
  cfg : Option Cfg
  number : Int
  apRecords : Option (List ApRecord)
  apInfo : Option ApRecord
  country : Bool
  staList : Option StaList
  protocols : Bool
  bandwidths : Bool

structure Rpc where
  msgId : Int
  uid : UInt32
  payload : Option Payload

/-- `ctrl_cmd_t` with the part of its union that `rpc_rsp_callback` looks at. -/
structure AppResp extends CtrlCmd where
  number : Int
  outList : Bool

def zeroed : AppResp where
  msgId := 0
  uid := 0
  respEventStatus := 0
  number := 0
  outList := false

/-- How a case ends early: at the label, or never (a pointer that is NULL or out of bounds
is followed, or the loop over the records does not end). -/
inductive Stop where
  | failParseRpcMsg (app : AppResp)
  | lost

/-- `RPC_FAIL_ON_NULL` and `RPC_FAIL_ON_NULL_PRINT`. -/
def failOnNull (app : AppResp) (present : Bool) : Except Stop Unit :=
  if present then .ok () else .error (.failParseRpcMsg app)

/-- `RPC_ERR_IN_RESP`. -/
def errInResp (app : AppResp) (resp : Int) : Except Stop Unit :=
  if resp ≠ 0 then .error (.failParseRpcMsg { app with respEventStatus := resp }) else .ok ()

def follow (present : Bool) : Except Stop Unit := if present then .ok () else .error .lost

/-- What `cfg->sta` leads to. In an access point's configuration `ftm_responder`, 0 or 1, lies
where a station's has the pointer `threshold`. -/
def Cfg.readAsSta : Cfg → Bool
  | .unset | .ap _ => false
  | .sta threshold pmfCfg => threshold && pmfCfg

/-- What `cfg->ap` leads to: `pmf_cfg` lies in the same place in both. -/
def Cfg.readAsAp : Cfg → Bool
  | .unset => false
  | .sta _ pmfCfg | .ap pmfCfg => pmfCfg

/-- The switch is over `u.wifi_config.iface`, a `uint8_t`. -/
def copyConfig (payload : Payload) : Except Stop Unit :=
  if payload.iface % 256 = wifiIfSta then follow (payload.cfg.any Cfg.readAsSta)
  else if payload.iface % 256 = wifiIfAp then follow (payload.cfg.any Cfg.readAsAp)
  else .ok ()

/-- The loop over the records. Its counter is a `uint16_t`. -/
def copyRecords (number : Int) (records : List ApRecord) : Except Stop Unit :=
  follow (number < 65536 && number.toNat ≤ records.length &&
    (records.take number.toNat).all fun record => record.country && record.heAp)

/-- `num` is compared as a `uint32_t`. -/
def copyStations (maxConnNum : Nat) (list : StaList) : Except Stop Unit :=
  follow ((if list.num < 0 then maxConnNum else min list.num.toNat maxConnNum) ≤ list.sta)

/-- The case of the switch for one kind; `calloc` tells whether an allocation succeeds. -/
def parseCase (maxConnNum : Nat) (calloc : Bool) (kind : RespKind) (app : AppResp)
    (msg : Option Payload) : Except Stop AppResp :=
  match msg with
  -- every case begins with RPC_FAIL_ON_NULL of its payload
  | none => .error (.failParseRpcMsg app)
  | some payload =>
      match kind with
      | .getMacAddress => do
          errInResp app payload.resp
          failOnNull app payload.macData
          return app
      | .otaBegin | .otaWrite => do
          errInResp app payload.resp
          if payload.resp ≠ 0 then .error (.failParseRpcMsg app) else return app
      | .otaEnd => if payload.resp ≠ 0 then .error (.failParseRpcMsg app) else return app
      | .wifiGetConfig => do
          errInResp app payload.resp
          copyConfig payload
          return app
      | .wifiScanGetApNum => do
          errInResp app payload.resp
          return { app with number := payload.number }
      | .wifiScanGetApRecords => do
          errInResp app payload.resp
          let app := { app with number := payload.number }
          if payload.number = 0 then .error (.failParseRpcMsg app)
          else
            match payload.apRecords with
            | none => .error (.failParseRpcMsg app)
            | some records => do
                failOnNull app calloc
                copyRecords payload.number records
                return { app with outList := true }
      | .wifiStaGetApInfo => do
          errInResp app payload.resp
          let app := { app with number := 1 }
          match payload.apInfo with
          | none => .error (.failParseRpcMsg app)
          | some record => do
              failOnNull app calloc
              follow (record.country && record.heAp)
              return { app with outList := true }
      | .wifiGetCountry => do
          errInResp app payload.resp
          follow payload.country
          return app
      | .wifiApGetStaList => do
          errInResp app payload.resp
          match payload.staList with
          | none => .error .lost
          | some list => do
              copyStations maxConnNum list
              return app
      | .wifiGetProtocols => do
          errInResp app payload.resp
          follow payload.protocols
          return app
      | .wifiGetBandwidths => do
          errInResp app payload.resp
          follow payload.bandwidths
          return app
      | _ => do
          errInResp app payload.resp
          return app

/-- `none` when the function never returns; it returns `SUCCESS` otherwise. -/
def rpcParseRsp (dualband : Bool) (maxConnNum : Nat) (calloc : Bool) (msg : Rpc) (app : AppResp) :
    Option AppResp :=
  let app := { app with msgId := UInt16.ofInt msg.msgId, uid := msg.uid }
  match caseOf dualband msg.msgId with
  | none => some app
  | some kind =>
      match parseCase maxConnNum calloc kind app msg.payload with
      | .ok app => some { app with respEventStatus := success }
      | .error (.failParseRpcMsg app) => some app
      | .error .lost => none

/-- The result of `rpc_rsp_callback` for a response. -/
def rpcRspCallback (app : AppResp) : Int :=
  if (app.msgId.toNat : Int) ≤ rpcIdRespBase ∨ rpcIdRespMax ≤ (app.msgId.toNat : Int) then espFail
  -- process_failed_responses logs the status and gives it back
  else if app.respEventStatus ≠ success then app.respEventStatus
  else
    match RespKind.ofId app.msgId.toNat with
    | none => espFail
    | some .wifiScanGetApRecords =>
        if app.number = 0 then app.respEventStatus
        else if app.outList then app.respEventStatus
        else espFail
    | some _ => app.respEventStatus

section Basics
variable {Result : Type} {dualband : Bool} {maxConnNum : Nat} {calloc : Bool} {kind : RespKind}
variable {msg : Rpc} {app after : AppResp}

structure SameMsg (app after : AppResp) : Prop where
  msgId : after.msgId = app.msgId
  uid : after.uid = app.uid

/-- Whatever leaves the switch still answers the same request. -/
def Leaves (app : AppResp) (good : Result → Prop) : Except Stop Result → Prop
  | .ok result => good result
  | .error (.failParseRpcMsg after) => SameMsg app after
  | .error .lost => True

def anyResult (_ : Result) : Prop := True

theorem leaves_bind {Next : Type} {good : Next → Prop} {step : Except Stop Result}
    {next : Result → Except Stop Next} (first : Leaves app anyResult step)
    (rest : ∀ result, Leaves app good (next result)) : Leaves app good (step >>= next) := by
  match step with
  | .ok result => exact rest result
  | .error (.failParseRpcMsg after) => exact first
  | .error .lost => trivial

theorem errInResp_leaves (resp : Int) : Leaves app anyResult (errInResp app resp) := by
  unfold errInResp
  split
  · exact { msgId := rfl, uid := rfl }
  · trivial

theorem failOnNull_leaves (present : Bool) (same : SameMsg app after) :
    Leaves app anyResult (failOnNull after present) := by
  cases present
  · exact same
  · trivial

theorem follow_leaves (present : Bool) : Leaves app anyResult (follow present) := by
  cases present <;> trivial

theorem copyConfig_leaves (payload : Payload) : Leaves app anyResult (copyConfig payload) := by
  unfold copyConfig
  split
  · exact follow_leaves _
  · split
    · exact follow_leaves _
    · trivial

theorem parseCase_leaves (payload : Option Payload) :
    Leaves app (SameMsg app) (parseCase maxConnNum calloc kind app payload) := by
  have kept : SameMsg app app := { msgId := rfl, uid := rfl }
  cases payload with
  | none => exact kept
  | some payload =>
      have code := @errInResp_leaves app payload.resp
      cases kind
      case getMacAddress =>
        exact leaves_bind code fun _ => leaves_bind (failOnNull_leaves _ kept) fun _ => kept
      case otaBegin | otaWrite =>
        refine leaves_bind code fun _ => ?_
        split <;> exact kept
      case otaEnd =>
        simp only [parseCase]
        split <;> exact kept
      case wifiGetConfig =>
        exact leaves_bind code fun _ => leaves_bind (copyConfig_leaves payload) fun _ => kept
      case wifiScanGetApNum => exact leaves_bind code fun _ => ⟨rfl, rfl⟩
      case wifiScanGetApRecords =>
        refine leaves_bind code fun _ => ?_
        dsimp only
        split
        · exact ⟨rfl, rfl⟩
        · split
          · exact ⟨rfl, rfl⟩
          · exact leaves_bind (failOnNull_leaves _ ⟨rfl, rfl⟩) fun _ =>
              leaves_bind (follow_leaves _) fun _ => ⟨rfl, rfl⟩
      case wifiStaGetApInfo =>
        refine leaves_bind code fun _ => ?_
        dsimp only
        split
        · exact ⟨rfl, rfl⟩
        · exact leaves_bind (failOnNull_leaves _ ⟨rfl, rfl⟩) fun _ =>
            leaves_bind (follow_leaves _) fun _ => ⟨rfl, rfl⟩
      case wifiGetCountry | wifiGetProtocols | wifiGetBandwidths =>
        exact leaves_bind code fun _ => leaves_bind (follow_leaves _) fun _ => kept
      case wifiApGetStaList =>
        refine leaves_bind code fun _ => ?_
        split
        · trivial
        · exact leaves_bind (follow_leaves _) fun _ => kept
      all_goals exact leaves_bind code fun _ => kept

/-- The response tables see of a parsed response what they were told to expect. -/
theorem parsed_ctrlCmd (parsed : rpcParseRsp dualband maxConnNum calloc msg app = some after) :
    after.toCtrlCmd = RpcTables.rpcParseRsp
      { msgId := msg.msgId, uid := msg.uid, resp := after.respEventStatus } := by
  have agree : ∀ result : AppResp,
      SameMsg { app with msgId := UInt16.ofInt msg.msgId, uid := msg.uid } result →
      result.toCtrlCmd = RpcTables.rpcParseRsp
        { msgId := msg.msgId, uid := msg.uid, resp := result.respEventStatus } := by
    rintro ⟨⟨msgId, uid, status⟩, number, outList⟩ ⟨sameId, sameUid⟩
    dsimp only at sameId sameUid
    rw [sameId, sameUid]
    rfl
  simp only [rpcParseRsp] at parsed
  split at parsed
  · exact agree after (by rw [← Option.some.inj parsed]; exact ⟨rfl, rfl⟩)
  · rename_i kind known
    have leaves := @parseCase_leaves maxConnNum calloc kind
      { app with msgId := UInt16.ofInt msg.msgId, uid := msg.uid } msg.payload
    split at parsed
    · rename_i result ended
      rw [ended] at leaves
      rw [← Option.some.inj parsed]
      exact agree _ ⟨leaves.msgId, leaves.uid⟩
    · rename_i result ended
      rw [ended] at leaves
      rw [← Option.some.inj parsed]
      exact agree _ leaves
    · cases parsed

end Basics

/-- The slave did what it was asked: the kind is supported, its payload is there and says 0. -/
def Succeeded (dualband : Bool) (msg : Rpc) : Prop :=
  (caseOf dualband msg.msgId).isSome ∧ ∃ payload ∈ msg.payload, payload.resp = 0

/-- Success is stored only for a response that brings it, and reported only then. -/
structure StatusSound (dualband : Bool) (msg : Rpc) (app : AppResp) : Prop where
  stored : app.respEventStatus = success → Succeeded dualband msg
  told : ¬ Succeeded dualband msg → app.respEventStatus ≠ success ∧ rpcRspCallback app ≠ success

/-- The kind has its case, the payload is there and is no failed `OTAEnd`. -/
def Faithful (dualband : Bool) (msg : Rpc) : Prop :=
  ∃ kind, caseOf dualband msg.msgId = some kind ∧
    ∃ payload, msg.payload = some payload ∧ (kind = .otaEnd → payload.resp = 0)

section Parsing
variable {dualband : Bool} {maxConnNum : Nat} {calloc : Bool} {kind : RespKind} {msg : Rpc}
variable {app after : AppResp}

theorem errInResp_failed {resp : Int} (failed : resp ≠ 0) :
    errInResp app resp = .error (.failParseRpcMsg { app with respEventStatus := resp }) := by
  rw [errInResp, if_pos failed]

/-- Every kind but one stores the code of a failure. -/
theorem parseCase_failed {payload : Payload} (failed : payload.resp ≠ 0) (other : kind ≠ .otaEnd) :
    parseCase maxConnNum calloc kind app (some payload) =
      .error (.failParseRpcMsg { app with respEventStatus := payload.resp }) := by
  have stored := @errInResp_failed app payload.resp failed
  cases kind
  case otaEnd => exact absurd rfl other
  all_goals
    simp only [parseCase, stored]
    rfl

theorem parseCase_otaEnd_failed {payload : Payload} (failed : payload.resp ≠ 0) :
    parseCase maxConnNum calloc .otaEnd app (some payload) = .error (.failParseRpcMsg app) := by
  rw [parseCase, if_pos failed]

theorem rspCallback_status (failed : app.respEventStatus ≠ success) :
    rpcRspCallback app ≠ success := by
  unfold rpcRspCallback
  by_cases outside : (app.msgId.toNat : Int) ≤ rpcIdRespBase ∨ rpcIdRespMax ≤ (app.msgId.toNat : Int)
  · rw [if_pos outside]
    decide
  · rw [if_neg outside, if_pos failed]
    exact failed

theorem parse_unsupported (unknown : caseOf dualband msg.msgId = none) :
    rpcParseRsp dualband maxConnNum calloc msg app =
      some { app with msgId := UInt16.ofInt msg.msgId, uid := msg.uid } := by
  simp only [rpcParseRsp, unknown]

theorem parse_absent (known : caseOf dualband msg.msgId = some kind) (absent : msg.payload = none) :
    rpcParseRsp dualband maxConnNum calloc msg app =
      some { app with msgId := UInt16.ofInt msg.msgId, uid := msg.uid } := by
  simp only [rpcParseRsp, known, absent, parseCase]

theorem parse_failed {payload : Payload} (known : caseOf dualband msg.msgId = some kind)
    (present : msg.payload = some payload) (failed : payload.resp ≠ 0) (other : kind ≠ .otaEnd) :
    rpcParseRsp dualband maxConnNum calloc msg app =
      some { app with
        msgId := UInt16.ofInt msg.msgId, uid := msg.uid, respEventStatus := payload.resp } := by
  simp only [rpcParseRsp, known, present, parseCase_failed failed other]

theorem parse_otaEnd_failed {payload : Payload} (known : caseOf dualband msg.msgId = some .otaEnd)
    (present : msg.payload = some payload) (failed : payload.resp ≠ 0) :
    rpcParseRsp dualband maxConnNum calloc msg app =
      some { app with msgId := UInt16.ofInt msg.msgId, uid := msg.uid } := by
  simp only [rpcParseRsp, known, present, parseCase_otaEnd_failed failed]

theorem faithful_sound (faithful : Faithful dualband msg)
    (parsed : rpcParseRsp dualband maxConnNum calloc msg zeroed = some after) : StatusSound dualband msg after := by
  obtain ⟨kind, known, payload, present, code⟩ := faithful
  have supported : (caseOf dualband msg.msgId).isSome := by
    rw [known]
    rfl
  by_cases done : payload.resp = 0
  · have succeeded : Succeeded dualband msg := ⟨supported, payload, present, done⟩
    exact { stored := fun _ => succeeded, told := fun failed => absurd succeeded failed }
  · have other : kind ≠ .otaEnd := fun same => done (code same)
    rw [parse_failed known present done other] at parsed
    have status : after.respEventStatus = payload.resp := by
      rw [← Option.some.inj parsed]
    have failed : after.respEventStatus ≠ success := by
      rw [status]
      exact done
    exact { stored := fun same => absurd same failed,
            told := fun _ => ⟨failed, rspCallback_status failed⟩ }

/-- A response parsed into a zeroed `ctrl_cmd_t` that leaves it as it was. -/
theorem untouched_unsound (failed : ¬ Succeeded dualband msg)
    (parsed : rpcParseRsp dualband maxConnNum calloc msg zeroed =
      some { zeroed with msgId := UInt16.ofInt msg.msgId, uid := msg.uid }) :
    ¬ ∀ after, rpcParseRsp dualband maxConnNum calloc msg zeroed = some after → StatusSound dualband msg after :=
  fun sound => failed ((sound _ parsed).stored rfl)

end Parsing

/-- `resp_event_status` can be trusted exactly for a kind that is compiled in, with its payload,
that is no failed `OTAEnd`. -/
theorem response_status_sound_iff (dualband : Bool) (maxConnNum : Nat) (calloc : Bool) (msg : Rpc) :
    (∀ app, rpcParseRsp dualband maxConnNum calloc msg zeroed = some app →
      StatusSound dualband msg app) ↔ Faithful dualband msg := by
  constructor
  · intro sound
    cases known : caseOf dualband msg.msgId with
    | none =>
        have failed : ¬ Succeeded dualband msg := by
          rintro ⟨supported, _⟩
          rw [known] at supported
          cases supported
        exact absurd sound (untouched_unsound failed (parse_unsupported known))
    | some kind =>
        cases present : msg.payload with
        | none =>
            have failed : ¬ Succeeded dualband msg := by
              rintro ⟨_, payload, member, _⟩
              rw [present] at member
              cases member
            exact absurd sound (untouched_unsound failed (parse_absent known present))
        | some payload =>
            refine ⟨kind, known, payload, present, ?_⟩
            intro ends
            by_contra code
            have failed : ¬ Succeeded dualband msg := by
              rintro ⟨_, held, member, done⟩
              rw [present] at member
              cases member
              exact code done
            rw [ends] at known
            exact untouched_unsound failed (parse_otaEnd_failed known present code) sound
  · intro faithful app parsed
    exact faithful_sound faithful parsed

def plainPayload (resp : Int) : Payload where
  resp := resp
  macData := false
  iface := 0
  cfg := none
  number := 0
  apRecords := none
  apInfo := none
  country := false
  staList := none
  protocols := false
  bandwidths := false

def otaEndFailed : Rpc := { msgId := 530, uid := 1, payload := some (plainPayload 1) }
def startEmpty : Rpc := { msgId := 536, uid := 2, payload := none }
def protocolsRefused : Rpc := { msgId := 598, uid := 3, payload := some (plainPayload 1) }

/-- A slave that could not finish the update, a response without its payload, and a refusal of
a kind that is not compiled in: the host is told that all went well. -/
theorem failed_responses_reported :
    (∃ app, rpcParseRsp false 10 true otaEndFailed zeroed = some app ∧
        app.respEventStatus = success ∧ rpcRspCallback app = success ∧
        ¬ StatusSound false otaEndFailed app) ∧
      (∃ app, rpcParseRsp false 10 true startEmpty zeroed = some app ∧
        app.respEventStatus = success ∧ rpcRspCallback app = success ∧
        ¬ StatusSound false startEmpty app) ∧
      ∃ app, rpcParseRsp false 10 true protocolsRefused zeroed = some app ∧
        app.respEventStatus = success ∧ rpcRspCallback app = success ∧
        ¬ StatusSound false protocolsRefused app := by
  refine ⟨⟨_, rfl, rfl, rfl, ?_⟩, ⟨_, rfl, rfl, rfl, ?_⟩, ⟨_, rfl, rfl, rfl, ?_⟩⟩
  · intro sound
    obtain ⟨_, payload, member, done⟩ := sound.stored rfl
    cases member
    cases done
  · intro sound
    obtain ⟨_, payload, member, _⟩ := sound.stored rfl
    cases member
  · intro sound
    obtain ⟨supported, _⟩ := sound.stored rfl
    cases supported

end EspHosted.RpcResponses

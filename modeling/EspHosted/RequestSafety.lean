import EspHosted.RecordRequests

/-!
A request is handled without a crash, without a leak and without a second free if its kind is
known and what its handler asks for is there: one lemma for each kind whose response has more
than a payload, and the templates for all others.
-/

namespace EspHosted.SlaveRequests
open OwnedParts RpcResponses

section Kinds
variable (env : Env) (req : Request)

theorem tidy_getMac : Tidy (answered env req .getMacAddress)
      (exec env.calloc (reqWifiGetMac env req.payload) start) ↔
    Handled env req.payload .getMacAddress := by
  have row : Tidy (answered env req .getMacAddress) (exec env.calloc
      (rpcRetFailIf (!env.driver) (allocs [[.macData, .payload]])) opened) :=
    tidy_row_always (fun _ => frees [[.macData, .payload], [.payload]]) (by decide) (by decide)
  rw [reqWifiGetMac]
  refine (tidy_simple (tidy_follow.trans (and_iff_left row))).trans ?_
  simp [Handled, Opens, needsPayload, needsIdf54, PartsRight]

theorem tidy_otaWrite : Tidy (answered env req .otaWrite)
      (exec env.calloc (reqOtaWriteHandler env req.payload) start) ↔
    Handled env req.payload .otaWrite := by
  have done : Tidy (answered env req .otaWrite) (exec env.calloc [] opened) :=
    tidy_done.mpr (released_opened rfl)
  rw [reqOtaWriteHandler]
  refine (tidy_simple (tidy_follow.trans (and_iff_left done))).trans ?_
  simp [Handled, Opens, needsPayload, needsIdf54, PartsRight]

/-- The driver is up and nobody listens to its events: the slave aborts. -/
theorem tidy_init : Tidy (answered env req .wifiInit)
      (exec env.calloc (reqWifiInit env req.payload) start) ↔
    Handled env req.payload .wifiInit := by
  have whole : Released (answered env req .wifiInit opened) opened.held := released_opened rfl
  refine tidy_template fun body given => ?_
  have only : PartsRight env req.payload .wifiInit ↔
      (body.initCfg = true → env.driver = true → env.registered = true) := by
    simp [PartsRight, given]
  rw [only, tidy_retFailIf, tidy_retFailIf, tidy_check, tidy_done]
  simp [whole]

theorem tidy_setConfig : Tidy (answered env req .wifiSetConfig)
      (exec env.calloc (reqWifiSetConfig env req.payload) start) ↔
    Handled env req.payload .wifiSetConfig := by
  have whole : Released (answered env req .wifiSetConfig opened) opened.held :=
    released_opened rfl
  refine tidy_template fun body given => ?_
  have only : (∀ other, req.payload = some other → ConfigComplete other) ↔
      ConfigComplete body := by
    simp [given]
  rw [PartsRight, only, ConfigComplete, tidy_retFailIf]
  rcases body.cfg with _ | _ | config
  · simp [whole, tidy_ret]
  · simp [whole, tidy_ret]
  · by_cases station : body.iface = ifaceSta
    · simp [whole, station, tidy_follow, tidy_done, ifaceSta, ifaceAp]
    · simp [whole, station, tidy_follow, tidy_done]

theorem tidy_scanStart : Tidy (answered env req .wifiScanStart)
      (exec env.calloc (reqWifiScanStart env req.payload) start) ↔
    Handled env req.payload .wifiScanStart := by
  have whole : Released (answered env req .wifiScanStart opened) opened.held :=
    released_opened rfl
  refine tidy_template fun body given => ?_
  have only : (∀ other, req.payload = some other → ScanComplete other) ↔
      ScanComplete body := by
    simp [given]
  rw [PartsRight, only, ScanComplete]
  rcases body.config with _ | config
  · simp [whole, tidy_done]
  · cases set : body.configSet with
    | false => simp [whole, tidy_done]
    | true =>
        rcases time : config.scanTime with _ | times
        · simp [tidy_follow, time]
        · simp [whole, tidy_follow, tidy_done, time]

theorem tidy_staGetApInfo : Tidy (answered env req .wifiStaGetApInfo)
      (exec env.calloc (reqWifiStaGetApInfo env req.payload) start) ↔
    Handled env req.payload .wifiStaGetApInfo := by
  have each : ∀ number < apInfoParts.length + 1,
      (Released (cleanupStaGetApInfo (holding apInfoParts number)) (holding apInfoParts number) ↔
        number ≠ 1) := by decide
  refine tidy_simple ((tidy_row cleanupStaGetApInfo (by decide) Nat.zero_ne_one each).trans ?_)
  exact forall_congr' fun _ => granted_ne_one

theorem tidy_getCountry : Tidy (answered env req .wifiGetCountry)
      (exec env.calloc (reqWifiGetCountry env req.payload) start) ↔
    Handled env req.payload .wifiGetCountry := by
  have each : ∀ number < countryParts.length + 1,
      (Released (cleanupOptional .country (holding countryParts number))
        (holding countryParts number) ↔ number ≠ countryParts.length) := by decide
  have both : granted env.calloc 1 countryParts.length ≠ countryParts.length ↔
      (env.calloc 1 = true → env.calloc 2 = false) := by
    rw [Ne, granted_all_iff]
    constructor
    · intro refused first
      by_contra second
      apply refused
      intro number small
      cases number with
      | zero => exact first
      | succ number =>
          obtain rfl : number = 0 := Nat.lt_one_iff.mp (Nat.lt_of_succ_lt_succ small)
          simpa using second
    · intro second all
      have first := second (all 0 Nat.zero_lt_two)
      rw [all 1 Nat.one_lt_two] at first
      cases first
  refine tidy_simple ((tidy_row (cleanupOptional .country) (by decide) (by decide) each).trans ?_)
  exact forall_congr' fun _ => both

theorem tidy_getCountryCode : Tidy (answered env req .wifiGetCountryCode)
      (exec env.calloc (reqWifiGetCountryCode env req.payload) start) ↔
    Handled env req.payload .wifiGetCountryCode :=
  tidy_simple (iff_true_intro (tidy_row_always (cleanupOptional .countryText)
    (by decide) (by decide)))

theorem tidy_getProtocols : Tidy (answered env req .wifiGetProtocols)
      (exec env.calloc (reqWifiGetProtocols env req.payload) start) ↔
    Handled env req.payload .wifiGetProtocols :=
  tidy_sinceIdf54 (tidy_template fun _ _ => iff_true_intro
    (tidy_row_always (cleanupOptional .protocols) (by decide) (by decide)))

theorem tidy_getBandwidths : Tidy (answered env req .wifiGetBandwidths)
      (exec env.calloc (reqWifiGetBandwidths env req.payload) start) ↔
    Handled env req.payload .wifiGetBandwidths :=
  tidy_sinceIdf54 (tidy_template fun _ _ => iff_true_intro
    (tidy_row_always (cleanupOptional .bandwidths) (by decide) (by decide)))

/-- A row of configuration parts is released unless the union in it is not granted. -/
structure ConfigRow (iface : UInt32) (parts : List (Path Field)) : Prop where
  grows : Grows [[.payload]] parts
  two : 2 ≤ parts.length
  each : ∀ number < parts.length + 1,
    (Released (cleanupGetConfig iface (holding parts number)) (holding parts number) ↔
      number ≠ 1)

theorem staParts_row (bssidSet : Bool) : ConfigRow ifaceSta (staParts bssidSet) := by
  cases bssidSet with
  | false => exact ⟨by decide, by decide, by decide⟩
  | true => exact ⟨by decide, by decide, by decide⟩

theorem apParts_row (ssidLen : UInt8) : ConfigRow ifaceAp (apParts ssidLen) := by
  by_cases named : ssidLen ≠ 0
  · have one : apParts ssidLen = apParts 1 := by simp [apParts, named]
    rw [one]
    exact ⟨by decide, by decide, by decide⟩
  · rw [not_not.mp named]
    exact ⟨by decide, by decide, by decide⟩

theorem getConfig_row (env : Env) {iface : UInt32} (known : ¬ ifaceAp < iface) :
    ConfigRow iface
      (if iface = ifaceSta then staParts env.bssidSet else apParts env.ssidLen) := by
  by_cases station : iface = ifaceSta
  · rw [if_pos station, station]
    exact staParts_row env.bssidSet
  · have accessPoint : iface = ifaceAp := by
      simp only [ifaceSta, ifaceAp] at *
      grind
    rw [if_neg station, accessPoint]
    exact apParts_row env.ssidLen

theorem tidy_getConfig : Tidy (answered env req .wifiGetConfig)
      (exec env.calloc (reqWifiGetConfig env req.payload) start) ↔
    Handled env req.payload .wifiGetConfig := by
  refine tidy_template fun body given => ?_
  have only : PartsRight env req.payload .wifiGetConfig ↔
      (body.iface ≤ ifaceAp → env.driver = true → env.calloc 1 = true → env.calloc 2 = true) := by
    simp [PartsRight, given]
  have cleans : answered env req .wifiGetConfig =
      fun built => cleanupGetConfig body.iface built.held := by
    have iface : req.iface = body.iface := by
      simp [Request.iface, given]
    rw [← iface]
    rfl
  have early : Released (cleanupGetConfig body.iface [[.payload]]) [[.payload]] := by
    have none : cleanupGetConfig body.iface [[.payload]] =
        [.look [.cfg, .payload], .free [.payload]] := rfl
    rw [none]
    decide
  rw [only, cleans, tidy_retFailIf]
  by_cases known : ifaceAp < body.iface
  · refine iff_of_true ⟨fun _ => early, fun inside => ?_⟩ fun inside => ?_
    · exact absurd known (of_decide_eq_false inside)
    · exact absurd known (UInt32.not_lt.mpr inside)
  · have row := getConfig_row env known
    have granted : Tidy (fun built => cleanupGetConfig body.iface built.held)
        (exec env.calloc (rpcRetFailIf (!env.driver) (allocs _)) opened) ↔ _ :=
      tidy_row (cleanupGetConfig body.iface) row.grows Nat.zero_ne_one row.each
    obtain ⟨wanted, length⟩ := Nat.exists_eq_add_of_le' row.two
    rw [length, granted_ne_one] at granted
    simp only [decide_eq_true_eq, decide_eq_false_iff_not, known, not_false_eq_true,
      UInt32.not_lt.mp known, false_implies, true_implies, true_and]
    exact granted

theorem staListParts_grow (maxConnNum : Nat) : Grows [[.payload]] (staListParts maxConnNum) := by
  refine grows_append (by decide) ?_
  have array : Reached ([[.staList, .payload], [.sta, .staList, .payload]].reverse ++
      [[.payload]]) [Field.sta, .staList, .payload] := by decide
  rw [List.flatMap_def]
  refine grows_blocks array fun block member more reached => ?_
  obtain ⟨index, _, rfl⟩ := List.mem_map.mp member
  exact ⟨reached, ⟨List.mem_cons_self, reached_mono (fun _ => List.mem_cons_of_mem _) reached⟩,
    trivial⟩

/-- The cleanup forgets the array of stations, and follows its entries without having
looked whether it is there. -/
theorem staList_released_iff {maxConnNum number : Nat} (positive : 0 < maxConnNum) :
    Released
        (cleanupApGetStaList maxConnNum (holding (staListParts maxConnNum) number))
        (holding (staListParts maxConnNum) number) ↔ number = 0 := by
  obtain ⟨more, rfl⟩ := Nat.exists_eq_succ_of_ne_zero positive.ne'
  rcases number with _ | _ | number
  · have nothing : cleanupApGetStaList (more + 1) [[.payload]] =
        [.look [.staList, .payload], .free [.payload]] := rfl
    refine iff_of_true ?_ rfl
    change Released (cleanupApGetStaList (more + 1) [[.payload]]) [[.payload]]
    rw [nothing]
    decide
  · refine iff_of_false (fun whole => ?_) Nat.one_ne_zero
    change Released (cleanupApGetStaList (more + 1) [[.staList, .payload], [.payload]])
      [[.staList, .payload], [.payload]] at whole
    rw [cleanupApGetStaList, whenSet, if_pos List.mem_cons_self, List.range_succ_eq_map] at whole
    exact not_released_unreached (by decide) (released_look.mp whole).2
  · refine iff_of_false ?_ (Nat.succ_ne_zero _)
    have array : [.sta, .staList, .payload] ∈
        holding (staListParts (more + 1)) (number + 1 + 1) := by
      simp [holding, staListParts]
    refine not_released_unnamed array ?_
    · simp only [cleanupApGetStaList, whenSet]
      split <;> simp [frees, stationFrees]

theorem tidy_apGetStaList : Tidy (answered env req .wifiApGetStaList)
      (exec env.calloc (reqWifiApGetStaList env req.payload) start) ↔
    Handled env req.payload .wifiApGetStaList := by
  have each := fun number (_ : number < (staListParts env.maxConnNum).length + 1) =>
    @staList_released_iff env.maxConnNum number env.positive
  refine tidy_simple ((tidy_row (cleanupApGetStaList env.maxConnNum)
    (staListParts_grow env.maxConnNum) (by rfl) each).trans ?_)
  exact forall_congr' fun _ => granted_zero_iff

end Kinds

/-- A request of no known kind is answered with an error, or not at all. -/
theorem unknown_not_safe (env : Env) (req : Request) (found : lookupReqHandler req.msgId = none) :
    ¬ Safe req (dataTransferHandler env req) := by
  intro safe
  have once := safe.request
  have runs := safe.runs
  rw [dataTransferHandler, espRpcCommandDispatcher, found] at once runs
  dsimp only at once runs
  split at once
  · simp [crashedRun] at once
  · simp [espFail] at once

/-- A request of a known kind is safe if its handler leaves nothing undone. -/
theorem known_safe_iff (env : Env) (req : Request) {kind : RespKind}
    (same : reqNum kind = req.msgId) :
    Safe req (dataTransferHandler env req) ↔
      Tidy (answered env req kind)
        (exec env.calloc (commandHandler kind env req.payload) start) := by
  have known : RespKind.ofId (req.msgId - reqBase + respBase) = some kind := by
    rw [← same, resp_of_req, ofId_id]
  rw [dataTransferHandler, espRpcCommandDispatcher, lookup_iff.mpr same]
  dsimp only [espRpcCleanup]
  rw [known, start]
  cases exec env.calloc (commandHandler kind env req.payload)
      { asked := 0, held := [], counted := 0 } with
  | crashed =>
      refine iff_of_false (fun safe => ?_) id
      exact Bool.noConfusion safe.runs
  | returned code built =>
      dsimp only [Tidy, Released, answered]
      cases release (cleanupResp env.maxConnNum req.iface built kind)
          { held := built.held, freed := [] } with
      | none =>
          refine iff_of_false (fun safe => ?_) And.right
          exact Bool.noConfusion safe.runs
      | some ledger =>
          by_cases done : code = 0
          · constructor
            · exact fun safe => ⟨done, safe.response⟩
            · intro tidy
              refine ⟨rfl, by simp [done], tidy.2, ?_⟩
              intro packed sent
              simp only [Option.ite_none_right_eq_some, Option.some.injEq] at sent
              obtain ⟨_, rfl⟩ := sent
              refine ⟨rfl, kind, same, ?_⟩
              dsimp only
              rw [← same, resp_of_req]
          · refine iff_of_false (fun safe => ?_) (fun tidy => done tidy.1)
            have once := safe.request
            simp [done, espFail] at once

/-- A request is safe if its kind is known and its handler leaves nothing undone. -/
theorem safe_iff_tidy (env : Env) (req : Request) :
    Safe req (dataTransferHandler env req) ↔ ∃ kind, reqNum kind = req.msgId ∧
      Tidy (answered env req kind)
        (exec env.calloc (commandHandler kind env req.payload) start) := by
  constructor
  · intro safe
    cases found : lookupReqHandler req.msgId with
    | none => exact absurd safe (unknown_not_safe env req found)
    | some kind =>
        have same := lookup_iff.mp found
        exact ⟨kind, same, (known_safe_iff env req same).mp safe⟩
  · rintro ⟨kind, same, tidy⟩
    exact (known_safe_iff env req same).mpr tidy

/-- Each kind of request, by the template or the lemma its handler belongs to. -/
theorem tidy_iff_handled (env : Env) (req : Request) (kind : RespKind) :
    Tidy (answered env req kind) (exec env.calloc (commandHandler kind env req.payload) start) ↔
      Handled env req.payload kind := by
  cases kind with
  | getMacAddress => exact tidy_getMac env req
  | otaWrite => exact tidy_otaWrite env req
  | wifiInit => exact tidy_init env req
  | wifiSetConfig => exact tidy_setConfig env req
  | wifiGetConfig => exact tidy_getConfig env req
  | wifiScanStart => exact tidy_scanStart env req
  | wifiScanGetApRecords => exact tidy_scanGetApRecords env req
  | wifiStaGetApInfo => exact tidy_staGetApInfo env req
  | wifiGetCountryCode => exact tidy_getCountryCode env req
  | wifiGetCountry => exact tidy_getCountry env req
  | wifiApGetStaList => exact tidy_apGetStaList env req
  | wifiGetProtocols => exact tidy_getProtocols env req
  | wifiGetBandwidths => exact tidy_getBandwidths env req
  | setMacAddress | wifiSetCountryCode | wifiSetCountry => exact tidy_early rfl
  | wifiSetProtocols | wifiSetBandwidths => exact tidy_sinceIdf54 (tidy_early rfl)
  | wifiSetBand | wifiSetBandMode => exact tidy_sinceIdf54 (tidy_setter rfl)
  | wifiGetBand | wifiGetBandMode => exact tidy_sinceIdf54 (tidy_getter rfl)
  | setWifiMode | wifiSetPs | wifiSetMaxTxPower | configHeartbeat | wifiSetProtocol
  | wifiGetProtocol | wifiDeauthSta | wifiSetStorage | wifiSetBandwidth | wifiGetBandwidth
  | wifiSetChannel | wifiApGetStaAid => exact tidy_setter rfl
  | getWifiMode | wifiGetPs | otaBegin | otaEnd | wifiGetMaxTxPower | wifiDeinit | wifiStart
  | wifiStop | wifiConnect | wifiDisconnect | wifiScanStop | wifiScanGetApNum
  | wifiClearApList | wifiRestore | wifiClearFastConnect | wifiGetChannel | wifiStaGetRssi
  | wifiStaGetAid | getCoprocessorFwVersion => exact tidy_getter rfl

/-- A request is safe exactly if its kind is known and all its handler asks for is there. -/
theorem request_safe_iff (env : Env) (req : Request) :
    Safe req (dataTransferHandler env req) ↔
      ∃ kind, reqNum kind = req.msgId ∧ Handled env req.payload kind := by
  rw [safe_iff_tidy]
  exact exists_congr fun kind => and_congr_right fun _ => tidy_iff_handled env req kind

/-- A build and a system that grant everything. -/
def granting : Env :=
  { idf54 := true
    maxConnNum := 15
    positive := by decide
    calloc := fun _ => true
    driver := true
    registered := true
    found := some 2
    bssidSet := true
    ssidLen := 6
    packedSize := 40 }

def bareRequest (msgId : Int) : Request := { msgId := msgId, uid := 7, payload := none }

/-- A request for the MAC address without a payload follows a pointer that is not set, one of
an unknown kind is never freed, and the answer to one for the country leaves two letters
behind. -/
theorem request_unsafe :
    ¬ Safe (bareRequest 257) (dataTransferHandler granting (bareRequest 257)) ∧
    ¬ Safe (bareRequest 999) (dataTransferHandler granting (bareRequest 999)) ∧
    ¬ Safe (bareRequest 304) (dataTransferHandler granting (bareRequest 304)) := by
  refine ⟨fun safe => ?_, fun safe => ?_, fun safe => ?_⟩
  · exact absurd safe.runs (by decide)
  · exact absurd safe.request (by decide)
  · exact absurd safe.response (by decide)

end EspHosted.SlaveRequests

import EspHosted.SlaveRequests

/-!
Which requests the slave survives, said for each kind of request: the answers of allocator and
driver and the pointers in the request with which its handler leaves nothing undone. The
templates the handlers are made of, and rows of allocations that a cleanup knows.
-/

namespace EspHosted.SlaveRequests
open OwnedParts RpcResponses

def start : Built Field := { asked := 0, held := [], counted := 0 }

/-- The payload of the response is allocated. -/
def opened : Built Field := { asked := 1, held := [[.payload]], counted := 0 }

/-- The handlers that return at once without a payload, or follow it. -/
def needsPayload : RespKind → Bool
  | .getWifiMode | .wifiGetPs | .otaBegin | .otaEnd | .wifiGetMaxTxPower | .wifiDeinit
  | .wifiStart | .wifiStop | .wifiConnect | .wifiDisconnect | .wifiScanStop | .wifiScanGetApNum
  | .wifiClearApList | .wifiRestore | .wifiClearFastConnect | .wifiStaGetApInfo
  | .wifiGetChannel | .wifiGetCountryCode | .wifiGetCountry | .wifiApGetStaList
  | .wifiStaGetRssi | .wifiStaGetAid | .wifiGetBand | .wifiGetBandMode
  | .getCoprocessorFwVersion => false
  | _ => true

def needsIdf54 : RespKind → Bool
  | .wifiSetProtocols | .wifiGetProtocols | .wifiSetBandwidths | .wifiGetBandwidths
  | .wifiSetBand | .wifiGetBand | .wifiSetBandMode | .wifiGetBandMode => true
  | _ => false

/-- Where a known interface comes with a configuration, its parts are there. -/
def ConfigComplete (body : Body) : Prop :=
  ∀ config, body.cfg = some (some config) →
    (body.iface = ifaceSta → config.threshold = true ∧ config.pmfCfg = true) ∧
    (body.iface = ifaceAp → config.pmfCfg = true)

/-- A scan configuration that is set has its times. -/
def ScanComplete (body : Body) : Prop :=
  ∀ config, body.config = some config → body.configSet = true →
    ∃ time, config.scanTime = some time ∧ time.active = true

/-- No allocation fails inside a record: once one is allocated, after all before it, the five
parts that hang on it are too. -/
def RecordsWhole (calloc : Nat → Bool) (number : Nat) : Prop :=
  ∀ index < number, (∀ request ≤ 3 + 6 * index, calloc request = true) →
    ∀ part < 6, calloc (3 + 6 * index + part) = true

/-- What the kinds ask for beyond the payloads. The allocations are numbered from the payload
of the response on, which is number 0. -/
def PartsRight (env : Env) (payload : Option Body) : RespKind → Prop
  | .wifiInit => ∀ body, payload = some body → body.initCfg = true → env.driver = true →
      env.registered = true
  | .wifiSetConfig => ∀ body, payload = some body → ConfigComplete body
  | .wifiScanStart => ∀ body, payload = some body → ScanComplete body
  | .wifiGetConfig => ∀ body, payload = some body → body.iface ≤ ifaceAp → env.driver = true →
      env.calloc 1 = true → env.calloc 2 = true
  | .wifiScanGetApRecords => ∀ number, env.found = some number → RecordsWhole env.calloc number
  | .wifiStaGetApInfo => env.driver = true → env.calloc 1 = true → env.calloc 2 = true
  | .wifiGetCountry => env.driver = true → env.calloc 1 = true → env.calloc 2 = false
  | .wifiApGetStaList => env.driver = true → env.calloc 1 = false
  | _ => True

/-- The payload of the response can be allocated, the request has the payload its handler
looks at, and the build has the handler. -/
def Opens (env : Env) (payload : Option Body) (withPayload withIdf54 : Bool) : Prop :=
  env.calloc 0 = true ∧ (withPayload = true → payload.isSome = true) ∧
    (withIdf54 = true → env.idf54 = true)

def Handled (env : Env) (payload : Option Body) (kind : RespKind) : Prop :=
  Opens env payload (needsPayload kind) (needsIdf54 kind) ∧ PartsRight env payload kind

/-- Request and response of a kind are the same distance from their bases. -/
theorem resp_of_req (kind : RespKind) : reqNum kind - reqBase + respBase = kind.id := by
  cases kind <;> rfl

theorem ofId_id (kind : RespKind) : RespKind.ofId kind.id = some kind := by
  cases kind <;> decide

theorem lookup_reqNum (kind : RespKind) : lookupReqHandler (reqNum kind) = some kind := by
  cases kind <;> decide

theorem lookup_iff {msgId : Int} {kind : RespKind} :
    lookupReqHandler msgId = some kind ↔ reqNum kind = msgId := by
  constructor
  · intro found
    have hit := List.find?_some found
    simpa using hit
  · intro same
    rw [← same, lookup_reqNum]

section Builders
variable {env : Env} {payload : Option Body} {cleaning : Built Field → List (Clean Field)}

theorem tidy_follow {present : Bool} {rest : List (Instr Field)} {built : Built Field} :
    Tidy cleaning (exec env.calloc (.follow present :: rest) built) ↔
      present = true ∧ Tidy cleaning (exec env.calloc rest built) := by
  cases present <;> simp [exec, Tidy]

theorem tidy_check {passed : Bool} {rest : List (Instr Field)} {built : Built Field} :
    Tidy cleaning (exec env.calloc (.check passed :: rest) built) ↔
      passed = true ∧ Tidy cleaning (exec env.calloc rest built) := by
  cases passed <;> simp [exec, Tidy]

theorem tidy_done {built : Built Field} :
    Tidy cleaning (exec env.calloc [] built) ↔ Released (cleaning built) built.held := by
  simp [exec, Tidy]

theorem tidy_ret {built : Built Field} {rest : List (Instr Field)} :
    Tidy cleaning (exec env.calloc (.ret 0 :: rest) built) ↔
      Released (cleaning built) built.held := by
  simp [exec, Tidy]

theorem tidy_payload {rest : List (Instr Field)} :
    Tidy cleaning (exec env.calloc (.alloc [.payload] espErrNoMem :: rest) start) ↔
      env.calloc 0 = true ∧ Tidy cleaning (exec env.calloc rest opened) := by
  have root : Reached start.held [] := trivial
  rw [exec, List.tail_cons, if_pos root]
  by_cases given : env.calloc 0 = true
  · simp [start, opened, given]
  · simp [start, given, Tidy, espErrNoMem]

theorem tidy_template {rest : Env → Body → List (Instr Field)} {part : Prop}
    (inside : ∀ body, payload = some body →
      (Tidy cleaning (exec env.calloc (rest env body) opened) ↔ part)) :
    Tidy cleaning (exec env.calloc (rpcTemplate rest env payload) start) ↔
      Opens env payload true false ∧ part := by
  cases payload with
  | none => simp [rpcTemplate, exec, Tidy, Opens, espFail]
  | some body =>
      rw [rpcTemplate, tidy_payload, inside body rfl]
      simp [Opens]

theorem tidy_simple {rest : Env → Option Body → List (Instr Field)} {part : Prop}
    (inside : Tidy cleaning (exec env.calloc (rest env payload) opened) ↔ part) :
    Tidy cleaning (exec env.calloc (rpcTemplateSimple rest env payload) start) ↔
      Opens env payload false false ∧ part := by
  rw [rpcTemplateSimple, tidy_payload, inside]
  simp [Opens]

theorem tidy_retFailIf {condition : Bool} {rest : List (Instr Field)} {built : Built Field} :
    Tidy cleaning (exec env.calloc (rpcRetFailIf condition rest) built) ↔
      (condition = true → Released (cleaning built) built.held) ∧
      (condition = false → Tidy cleaning (exec env.calloc rest built)) := by
  cases condition with
  | true => simp [rpcRetFailIf, tidy_ret]
  | false => simp [rpcRetFailIf]

theorem tidy_sinceIdf54 {handler : Handler} {withPayload : Bool} {part : Prop}
    (inside : Tidy cleaning (exec env.calloc (handler env payload) start) ↔
      Opens env payload withPayload false ∧ part) :
    Tidy cleaning (exec env.calloc (sinceIdf54 handler env payload) start) ↔
      Opens env payload withPayload true ∧ part := by
  rw [sinceIdf54]
  by_cases recent : env.idf54 = true
  · rw [if_pos recent, inside]
    simp [Opens, recent]
  · rw [if_neg recent]
    simp [Opens, exec, Tidy, espFail, recent]

/-- What is granted of a row of allocations is what the cleanup finds. -/
theorem tidy_allocs {clean : List (Path Field) → List (Clean Field)} {parts : List (Path Field)}
    {built : Built Field} (grows : Grows built.held parts) :
    Tidy (fun built => clean built.held) (exec env.calloc (allocs parts) built) ↔
      Released
        (clean ((parts.take (granted env.calloc built.asked parts.length)).reverse ++ built.held))
        ((parts.take (granted env.calloc built.asked parts.length)).reverse ++ built.held) := by
  have run := exec_allocs env.calloc parts [] built grows
  rw [List.append_nil] at run
  rw [allocs, run]
  split
  · next all => simp [exec, Tidy, all]
  · simp [Tidy]

end Builders

section Plain
variable {env : Env} {payload : Option Body} {cleaning : Built Field → List (Clean Field)}

theorem released_opened (plain : cleaning opened = frees [[.payload]]) :
    Released (cleaning opened) opened.held := by
  rw [plain]
  decide

theorem tidy_setter (plain : cleaning opened = frees [[.payload]]) :
    Tidy cleaning (exec env.calloc (setter env payload) start) ↔
      Opens env payload true false ∧ True :=
  tidy_template fun _ _ => tidy_done.trans (iff_true_intro (released_opened plain))

theorem tidy_getter (plain : cleaning opened = frees [[.payload]]) :
    Tidy cleaning (exec env.calloc (getter env payload) start) ↔
      Opens env payload false false ∧ True :=
  tidy_simple (tidy_done.trans (iff_true_intro (released_opened plain)))

/-- A handler that only returns early has nothing more to clean up. -/
theorem tidy_early (plain : cleaning opened = frees [[.payload]]) {early : Body → Bool} :
    Tidy cleaning (exec env.calloc
        (rpcTemplate (fun _ body => rpcRetFailIf (early body) []) env payload) start) ↔
      Opens env payload true false ∧ True := by
  refine tidy_template fun body _ => tidy_retFailIf.trans (iff_true_intro ?_)
  exact ⟨fun _ => released_opened plain, fun _ => tidy_done.mpr (released_opened plain)⟩

end Plain

section Rows
variable {env : Env} {parts : List (Path Field)} (clean : List (Path Field) → List (Clean Field))

/-- What is held once `number` of the parts hang on the payload. -/
def holding (parts : List (Path Field)) (number : Nat) : List (Path Field) :=
  (parts.take number).reverse ++ [[.payload]]

/-- A row of parts is released if a `good` number of them was granted. -/
theorem tidy_row {good : Nat → Prop} (grows : Grows [[.payload]] parts) (none : good 0)
    (each : ∀ number < parts.length + 1,
      (Released (clean (holding parts number)) (holding parts number) ↔ good number)) :
    Tidy (fun built => clean built.held)
        (exec env.calloc (rpcRetFailIf (!env.driver) (allocs parts)) opened) ↔
      (env.driver = true → good (granted env.calloc 1 parts.length)) := by
  have first := (each 0 (Nat.succ_pos _)).mpr none
  have last := each _ (Nat.lt_succ_of_le (granted_le env.calloc 1 parts.length))
  rw [tidy_retFailIf, tidy_allocs grows]
  constructor
  · intro both answer
    exact last.mp (both.2 (by simp [answer]))
  · intro right
    constructor
    · exact fun _ => first
    · intro answer
      exact last.mpr (right (by simpa using answer))

/-- A row that is released however many of its parts were granted. -/
theorem tidy_row_always (grows : Grows [[.payload]] parts)
    (each : ∀ number < parts.length + 1,
      Released (clean (holding parts number)) (holding parts number)) :
    Tidy (fun built => clean built.held)
        (exec env.calloc (rpcRetFailIf (!env.driver) (allocs parts)) opened) :=
  (tidy_row clean grows trivial fun number inside => iff_true_intro (each number inside)).mpr
    fun _ => trivial

/-- The second allocation decides, once the first is granted. -/
theorem granted_ne_one {calloc : Nat → Bool} {wanted : Nat} :
    granted calloc 1 (wanted + 2) ≠ 1 ↔ (calloc 1 = true → calloc 2 = true) := by
  rw [Ne, granted_one_iff]
  cases calloc 1 <;> cases calloc 2 <;> simp

end Rows

/-- The response of the kind is cleaned up with what the request says of the interface. -/
def answered (env : Env) (req : Request) (kind : RespKind) (built : Built Field) :
    List (Clean Field) :=
  cleanupResp env.maxConnNum req.iface built kind

end EspHosted.SlaveRequests

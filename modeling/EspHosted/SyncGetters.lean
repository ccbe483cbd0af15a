import EspHosted.ScanFetch

/-!
The synchronous getters of `rpc_wrap.c`. They are written by one pattern: take a request, test
the pointers, send and wait, copy what came if it came with `SUCCESS`, and let
`rpc_rsp_callback` say what to return. They differ in where the pointers are tested (not at
all, before the request is taken, or after), and three of them copy something whatever came.
`RPC_DEFAULT_REQ` asserts that there is memory for the request.
-/

namespace EspHosted.SyncGetters
open RpcResponses (AppResp RespKind success espFail rpcRspCallback)
open ScanFetch (failure zeroed overwrite)
open ApRecords (ApRecord Country)

/-- The response with what the getter reads of its union; `outList` tells whether there is a
list to follow. -/
structure Answer (Value : Type) extends AppResp where
  value : Value

inductive Exchange (Value : Type) where
  | sendFailed
  | noResponse
  | response (answer : Answer Value)

/-- How often a request and a response were taken and freed. -/
structure Blocks where
  reqTaken : Nat
  reqFreed : Nat
  respTaken : Nat
  respFreed : Nat

def noBlocks : Blocks := { reqTaken := 0, reqFreed := 0, respTaken := 0, respFreed := 0 }

def rpcDefaultReq (blocks : Blocks) : Blocks := { blocks with reqTaken := blocks.reqTaken + 1 }

inductive Check where
  | absent
  | beforeReq
  | afterReq
  deriving DecidableEq

/-- `stopped` where a pointer other than the response is NULL and followed, or refused by
`hosted_memcpy`. -/
inductive Ending (Out : Type) where
  | nullResp
  | stopped
  | returned (ret : Int) (out : Out) (blocks : Blocks)

/-- What one getter does of its own: `wants` is tested together with the pointers, `prepare`
is done before the request is sent, `copy` behind the guard, and `always` without it. -/
structure Getter (Value Out : Type) where
  check : Check
  wants : Out → Bool := fun _ => true
  prepare : Out → Out := id
  copy : Answer Value → Out → Option Out
  always : Option (Answer Value → Out → Out) := none

section Pattern
variable {Value Out : Type}

/-- The request is freed whatever came. -/
def rpcWaitAndParseSyncResp (rxBuf : Option (Answer Value)) (blocks : Blocks) :
    Option (Answer Value) × Blocks :=
  (rxBuf, { blocks with reqFreed := blocks.reqFreed + 1,
                        respTaken := blocks.respTaken + rxBuf.toList.length })

/-- `rpc_send_req` frees the request it could not send. -/
def sendAndWait (exchange : Exchange Value) (blocks : Blocks) : Option (Answer Value) × Blocks :=
  match exchange with
  | .sendFailed => (none, { blocks with reqFreed := blocks.reqFreed + 1 })
  | .noResponse => rpcWaitAndParseSyncResp none blocks
  | .response answer => rpcWaitAndParseSyncResp (some answer) blocks

def cleanupRpc (blocks : Blocks) : Blocks := { blocks with respFreed := blocks.respFreed + 1 }

/-- The copy behind `if (resp && resp->resp_event_status == SUCCESS)`. -/
def Getter.guarded (getter : Getter Value Out) (given : Bool) (answer : Answer Value) (out : Out) :
    Option Out :=
  if answer.respEventStatus = success then
    if given then getter.copy answer out else none
  else some out

def Getter.finish (getter : Getter Value Out) (given : Bool) (out : Out)
    (resp : Option (Answer Value)) (blocks : Blocks) : Ending Out :=
  match resp, getter.always with
  | none, some _ => .nullResp
  | none, none => .returned espFail out blocks
  | some answer, always =>
      match getter.guarded given answer out with
      | none => .stopped
      | some out =>
          .returned (rpcRspCallback answer.toAppResp)
            (always.elim out fun write => write answer out) (cleanupRpc blocks)

/-- `given` tells that no pointer argument is NULL. -/
def Getter.run (getter : Getter Value Out) (given : Bool) (out : Out) (exchange : Exchange Value) :
    Ending Out :=
  if getter.check = .beforeReq ∧ (given && getter.wants out) = false then
    .returned failure out noBlocks
  else if getter.check = .afterReq ∧ (given && getter.wants out) = false then
    .returned failure out (rpcDefaultReq noBlocks)
  else
    let got := sendAndWait exchange (rpcDefaultReq noBlocks)
    getter.finish given (getter.prepare out) got.1 got.2

/-- The response is copied as it is. -/
def plain (check : Check) : Getter Value Value where
  check := check
  copy answer _ := some answer.value

/-- The response is copied as it is, whatever its status, and not tested for NULL. -/
def unguarded (check : Check) : Getter Value Value where
  check := check
  copy _ out := some out
  always := some fun answer _ => answer.value

end Pattern

structure FwVersion where
  major1 : UInt32
  minor1 : UInt32
  patch1 : UInt32

structure Protocols where
  ghz2g : UInt16
  ghz5g : UInt16

structure Bandwidths where
  ghz2g : Int32
  ghz5g : Int32

structure Channel where
  primary : UInt8
  second : Int32

structure StaInfo where
  mac : Vector UInt8 6
  rssi : Int8
  phy11b : Bool
  phy11g : Bool
  phy11n : Bool
  phyLr : Bool
  phy11a : Bool
  phy11ac : Bool
  phy11ax : Bool
  isMeshChild : Bool
  reserved : BitVec 24

@[ext] structure StaList (maxConnNum : Nat) where
  sta : Vector StaInfo maxConnNum
  num : Int32

/-- `phy_11a` and `phy_11ac` are not assigned. -/
def copyStation (got out : StaInfo) : StaInfo :=
  { got with phy11a := out.phy11a, phy11ac := out.phy11ac }

/-! The getters; an enumeration is its 32-bit value, and `wifi_config_t` its bytes. -/

def rpcWifiGetMac : Getter (Vector UInt8 6) (Vector UInt8 6) := plain .absent
def rpcGetCoprocessorFwversion : Getter FwVersion FwVersion := plain .absent

def rpcWifiGetMaxTxPower : Getter Int32 Int8 where
  check := .absent
  copy answer _ := some answer.value.toInt8

def rpcWifiStaGetAid : Getter UInt16 UInt16 := plain .absent
def rpcWifiGetBand : Getter Int32 Int32 := plain .absent
def rpcWifiGetBandMode : Getter Int32 Int32 := plain .absent
def rpcWifiGetProtocols : Getter Protocols Protocols := plain .absent
def rpcWifiGetBandwidths : Getter Bandwidths Bandwidths := plain .absent
def rpcWifiGetMode : Getter Int32 Int32 := plain .afterReq
def rpcWifiGetConfig : Getter (List UInt8) (List UInt8) := unguarded .afterReq

def rpcWifiScanGetApNum : Getter Unit UInt16 where
  check := .afterReq
  copy answer _ := some (UInt16.ofInt answer.number)

/-- `*number`, which is only read, and `ap_records`. -/
def rpcWifiScanGetApRecords : Getter (List ApRecord) (UInt16 × List ApRecord) where
  check := .afterReq
  wants out := out.1 ≠ 0
  prepare out := (out.1, zeroed out.1)
  copy answer out :=
    if answer.number = 0 then some out
    else if answer.outList then some (out.1, overwrite out.1 answer.value)
    else none

def rpcWifiStaGetApInfo : Getter ApRecord ApRecord where
  check := .afterReq
  copy answer _ := if answer.outList then some answer.value else none

def rpcWifiGetPs : Getter Int32 Int32 := unguarded .beforeReq
def rpcWifiGetBandwidth : Getter Int32 Int32 := plain .afterReq
def rpcWifiGetChannel : Getter Channel Channel := plain .afterReq
def rpcWifiGetCountryCode : Getter (Vector UInt8 3) (Vector UInt8 3) := plain .afterReq
def rpcWifiGetCountry : Getter Country Country := plain .afterReq

/-- The stations are copied behind the guard, their number is not. -/
def rpcWifiApGetStaList (maxConnNum : Nat) : Getter (StaList maxConnNum) (StaList maxConnNum) where
  check := .afterReq
  copy answer out := some { out with sta := Vector.zipWith copyStation answer.value.sta out.sta }
  always := some fun answer out => { out with num := answer.value.num }

def rpcWifiApGetStaAid : Getter UInt16 UInt16 := plain .afterReq
def rpcWifiStaGetRssi : Getter Int32 Int32 := plain .afterReq
def rpcWifiGetProtocol : Getter UInt8 UInt8 := plain .beforeReq

/-- The response is of a kind `rpc_rsp_callback` accepts. -/
def Known (app : AppResp) : Prop :=
  ∃ kind, RespKind.ofId app.msgId.toNat = some kind ∧
    (kind = .wifiScanGetApRecords → app.number = 0 ∨ app.outList = true)

def Accepted (app : AppResp) : Prop := app.respEventStatus = success ∧ Known app

theorem kind_inside (kind : RespKind) :
    RpcTables.rpcIdRespBase < kind.id ∧ kind.id < RpcTables.rpcIdRespMax := by
  cases kind <;> decide

theorem rspCallback_known {app : AppResp} (ok : app.respEventStatus = success) (known : Known app) :
    rpcRspCallback app = success := by
  obtain ⟨kind, found, list⟩ := known
  have same : kind.id = app.msgId.toNat := by
    have tested := List.find?_some found
    exact beq_iff_eq.mp tested
  have inside := kind_inside kind
  rw [same] at inside
  have range : ¬ ((app.msgId.toNat : Int) ≤ RpcTables.rpcIdRespBase ∨
      RpcTables.rpcIdRespMax ≤ (app.msgId.toNat : Int)) := by omega
  unfold rpcRspCallback
  rw [if_neg range, if_neg (not_not_intro ok), found]
  by_cases records : kind = .wifiScanGetApRecords
  · cases records
    simp only
    rcases list rfl with none | there
    · rw [if_pos none]
      exact ok
    · rw [if_pos there]
      split <;> exact ok
  · cases kind
    case wifiScanGetApRecords => exact absurd rfl records
    all_goals exact ok

theorem rspCallback_iff (app : AppResp) : rpcRspCallback app = success ↔ Accepted app := by
  constructor
  · intro accepted
    have ok : app.respEventStatus = success := by
      by_contra failed
      exact RpcResponses.rspCallback_status failed accepted
    refine ⟨ok, ?_⟩
    unfold rpcRspCallback at accepted
    split at accepted
    · cases accepted
    · rw [if_neg (not_not_intro ok)] at accepted
      split at accepted
      next => cases accepted
      next found =>
        refine ⟨_, found, fun _ => ?_⟩
        by_cases none : app.number = 0
        · exact Or.inl none
        · rw [if_neg none] at accepted
          by_cases there : app.outList = true
          · exact Or.inr there
          · rw [if_neg there] at accepted
            cases accepted
      next kind other found => exact ⟨kind, found, fun same => absurd same other⟩
  · rintro ⟨ok, known⟩
    exact rspCallback_known ok known

/-- What every getter owes its caller once it has returned. -/
structure Clean {Out : Type} (out : Out) (ret : Int) (after : Out) (blocks : Blocks) : Prop where
  request : blocks.reqFreed = blocks.reqTaken
  response : blocks.respFreed = blocks.respTaken
  kept : ret ≠ success → after = out

/-- It returns, and it returns clean. -/
def Tidy {Out : Type} (out : Out) (ending : Ending Out) : Prop :=
  ∃ ret after blocks, ending = .returned ret after blocks ∧ Clean out ret after blocks

/-- A successful response can be copied, and it is of a kind that is accepted or brings what is
there already. -/
def CopyFine {Value : Type} (same : Answer Value → Prop) (given : Bool)
    (exchange : Exchange Value) : Prop :=
  ∀ answer, exchange = .response answer → answer.respEventStatus = success →
    given = true ∧ (Known answer.toAppResp ∨ same answer)

section Pattern
variable {Value Out : Type} {getter : Getter Value Out} {given : Bool} {out : Out}
variable {exchange : Exchange Value} {answer : Answer Value}

theorem tidy_returned {ret : Int} {after : Out} {blocks : Blocks} :
    Tidy out (.returned ret after blocks) ↔ Clean out ret after blocks := by
  constructor
  · rintro ⟨_, _, _, same, clean⟩
    cases same
    exact clean
  · exact fun clean => ⟨_, _, _, rfl, clean⟩

/-- Refused before a request is taken. -/
theorem refused_tidy (before : getter.check = .beforeReq)
    (refused : (given && getter.wants out) = false) :
    Tidy out (getter.run given out exchange) := by
  rw [Getter.run, if_pos ⟨before, refused⟩, tidy_returned]
  exact { request := rfl, response := rfl, kept := fun _ => rfl }

/-- Refused afterwards, the request is lost. -/
theorem refused_untidy (later : getter.check = .afterReq)
    (refused : (given && getter.wants out) = false) :
    ¬ Tidy out (getter.run given out exchange) := by
  have not_before : ¬ (getter.check = .beforeReq ∧ (given && getter.wants out) = false) := by
    rw [later]
    exact fun both => nomatch both.1
  rw [Getter.run, if_neg not_before, if_pos ⟨later, refused⟩, tidy_returned]
  exact fun clean => absurd clean.request (by decide)

/-- The pointers are there, or nobody asks. -/
def Goes (getter : Getter Value Out) (given : Bool) (out : Out) : Prop :=
  getter.check = .absent ∨ (given && getter.wants out) = true

theorem run_goes (goes : Goes getter given out) :
    getter.run given out exchange =
      getter.finish given (getter.prepare out)
        (sendAndWait exchange (rpcDefaultReq noBlocks)).1
        (sendAndWait exchange (rpcDefaultReq noBlocks)).2 := by
  have accepted : ∀ check, check ≠ Check.absent →
      ¬ (getter.check = check ∧ (given && getter.wants out) = false) := by
    rintro check tested ⟨same, refused⟩
    rcases goes with absent | there
    · exact tested (same.symm.trans absent)
    · rw [there] at refused
      cases refused
  rw [Getter.run, if_neg (accepted _ (by decide)), if_neg (accepted _ (by decide))]

/-- With a test after the request is taken, the pointers have to be there. -/
theorem later_iff {fine : Prop} (later : getter.check = .afterReq)
    (under_way : given = true → (Tidy out (getter.run given out exchange) ↔ fine)) :
    Tidy out (getter.run given out exchange) ↔ given = true ∧ fine := by
  cases given with
  | false => exact iff_of_false (refused_untidy later rfl) (fun both => nomatch both.1)
  | true => exact (under_way rfl).trans ⟨fun fine => ⟨rfl, fine⟩, And.right⟩

/-- With a test before, they need not. -/
theorem before_iff {fine : Prop} (before : getter.check = .beforeReq)
    (under_way : given = true → (Tidy out (getter.run given out exchange) ↔ fine)) :
    Tidy out (getter.run given out exchange) ↔ (given = true → fine) := by
  cases given with
  | false => exact iff_of_true (refused_tidy before rfl) (fun wrong => nomatch wrong)
  | true => exact (under_way rfl).trans ⟨fun fine _ => fine, fun fine => fine rfl⟩

/-- Nothing came: the getter is fine if it looks at the response before it follows it and has
written nothing yet. -/
theorem silent_iff (goes : Goes getter given out)
    (silent : exchange = .sendFailed ∨ exchange = .noResponse) :
    Tidy out (getter.run given out exchange) ↔
      getter.always = none ∧ getter.prepare out = out := by
  have nothing : (sendAndWait exchange (rpcDefaultReq noBlocks)).1 = none ∧
      (sendAndWait exchange (rpcDefaultReq noBlocks)).2 = ⟨1, 1, 0, 0⟩ := by
    rcases silent with rfl | rfl <;> exact ⟨rfl, rfl⟩
  rw [run_goes goes, nothing.1, nothing.2]
  cases always : getter.always with
  | none =>
      simp only [Getter.finish, always]
      rw [tidy_returned]
      constructor
      · exact fun clean => ⟨trivial, clean.kept (by decide)⟩
      · exact fun kept => { request := rfl, response := rfl, kept := fun _ => kept.2 }
  | some write =>
      simp only [Getter.finish, always]
      refine iff_of_false ?_ (fun both => nomatch both.1)
      rintro ⟨_, _, _, same, _⟩
      cases same

/-- A response came: what is copied from it stays only if it is accepted. -/
theorem response_iff (goes : Goes getter given out) :
    Tidy out (getter.run given out (.response answer)) ↔
      ∃ copied, getter.guarded given answer (getter.prepare out) = some copied ∧
        (Accepted answer.toAppResp ∨
          getter.always.elim copied (fun write => write answer copied) = out) := by
  rw [run_goes goes]
  cases copy : getter.guarded given answer (getter.prepare out) with
  | none =>
      simp only [sendAndWait, rpcWaitAndParseSyncResp, Getter.finish, copy]
      refine iff_of_false ?_ ?_
      · rintro ⟨_, _, _, same, _⟩
        cases same
      · rintro ⟨_, same, _⟩
        cases same
  | some copied =>
      simp only [sendAndWait, rpcWaitAndParseSyncResp, Getter.finish, copy]
      rw [tidy_returned]
      constructor
      · intro clean
        refine ⟨copied, rfl, ?_⟩
        by_cases accepted : Accepted answer.toAppResp
        · exact Or.inl accepted
        · exact Or.inr (clean.kept fun ok => accepted ((rspCallback_iff _).mp ok))
      · rintro ⟨_, same, fine⟩
        cases same
        refine { request := rfl, response := rfl, kept := fun failed => ?_ }
        exact fine.resolve_left fun accepted => failed ((rspCallback_iff _).mpr accepted)

/-- A getter that only copies behind the guard, once it is under way. -/
theorem guarded_iff {write : Answer Value → Out} (goes : Goes getter given out)
    (nothing_before : getter.prepare out = out) (nothing_after : getter.always = none)
    (copies : ∀ answer, getter.copy answer out = some (write answer)) :
    Tidy out (getter.run given out exchange) ↔
      CopyFine (fun answer => write answer = out) given exchange := by
  have silent : (exchange = .sendFailed ∨ exchange = .noResponse) →
      (Tidy out (getter.run given out exchange) ↔
        CopyFine (fun answer => write answer = out) given exchange) := by
    intro silent
    refine iff_of_true ((silent_iff goes silent).mpr ⟨nothing_after, nothing_before⟩) ?_
    intro answer came
    rcases silent with wrong | wrong
    · rw [wrong] at came
      cases came
    · rw [wrong] at came
      cases came
  cases exchange with
  | sendFailed => exact silent (Or.inl rfl)
  | noResponse => exact silent (Or.inr rfl)
  | response answer =>
      rw [response_iff goes, nothing_before, nothing_after, Getter.guarded]
      by_cases ok : answer.respEventStatus = success
      · rw [if_pos ok]
        cases given with
        | false =>
            refine iff_of_false ?_ ?_
            · rintro ⟨_, same, _⟩
              cases same
            · exact fun fine => absurd (fine answer rfl ok).1 (by decide)
        | true =>
            rw [if_pos rfl, copies]
            constructor
            · rintro ⟨_, same, fine⟩ _ came _
              cases came
              cases same
              exact ⟨rfl, fine.imp_left And.right⟩
            · intro fine
              exact ⟨_, rfl, (fine answer rfl ok).2.imp_left fun known => ⟨ok, known⟩⟩
      · rw [if_neg ok]
        refine iff_of_true ⟨out, rfl, Or.inr rfl⟩ ?_
        rintro _ came succeeded
        cases came
        exact absurd succeeded ok

end Pattern

inductive Name where
  | wifiGetMac | getCoprocessorFwversion | wifiGetMaxTxPower | wifiStaGetAid | wifiGetBand
  | wifiGetBandMode | wifiGetProtocols | wifiGetBandwidths | wifiGetMode | wifiGetConfig
  | wifiScanGetApNum | wifiScanGetApRecords | wifiStaGetApInfo | wifiGetPs | wifiGetBandwidth
  | wifiGetChannel | wifiGetCountryCode | wifiGetCountry | wifiApGetStaList | wifiApGetStaAid
  | wifiStaGetRssi | wifiGetProtocol

/-- What is read of the response. -/
def Name.Value (maxConnNum : Nat) : Name → Type
  | .wifiGetMac => Vector UInt8 6
  | .getCoprocessorFwversion => FwVersion
  | .wifiStaGetAid | .wifiApGetStaAid => UInt16
  | .wifiGetProtocols => Protocols
  | .wifiGetBandwidths => Bandwidths
  | .wifiGetConfig => List UInt8
  | .wifiScanGetApNum => Unit
  | .wifiScanGetApRecords => List ApRecord
  | .wifiStaGetApInfo => ApRecord
  | .wifiGetChannel => Channel
  | .wifiGetCountryCode => Vector UInt8 3
  | .wifiGetCountry => Country
  | .wifiApGetStaList => StaList maxConnNum
  | .wifiGetProtocol => UInt8
  | .wifiGetMaxTxPower | .wifiGetBand | .wifiGetBandMode | .wifiGetMode | .wifiGetPs
  | .wifiGetBandwidth | .wifiStaGetRssi => Int32

/-- What the out parameters point to. -/
def Name.Out (maxConnNum : Nat) : Name → Type
  | .wifiGetMaxTxPower => Int8
  | .wifiScanGetApNum => UInt16
  | .wifiScanGetApRecords => UInt16 × List ApRecord
  | name => name.Value maxConnNum

def Name.getter (maxConnNum : Nat) :
    (name : Name) → Getter (name.Value maxConnNum) (name.Out maxConnNum)
  | .wifiGetMac => rpcWifiGetMac
  | .getCoprocessorFwversion => rpcGetCoprocessorFwversion
  | .wifiGetMaxTxPower => rpcWifiGetMaxTxPower
  | .wifiStaGetAid => rpcWifiStaGetAid
  | .wifiGetBand => rpcWifiGetBand
  | .wifiGetBandMode => rpcWifiGetBandMode
  | .wifiGetProtocols => rpcWifiGetProtocols
  | .wifiGetBandwidths => rpcWifiGetBandwidths
  | .wifiGetMode => rpcWifiGetMode
  | .wifiGetConfig => rpcWifiGetConfig
  | .wifiScanGetApNum => rpcWifiScanGetApNum
  | .wifiScanGetApRecords => rpcWifiScanGetApRecords
  | .wifiStaGetApInfo => rpcWifiStaGetApInfo
  | .wifiGetPs => rpcWifiGetPs
  | .wifiGetBandwidth => rpcWifiGetBandwidth
  | .wifiGetChannel => rpcWifiGetChannel
  | .wifiGetCountryCode => rpcWifiGetCountryCode
  | .wifiGetCountry => rpcWifiGetCountry
  | .wifiApGetStaList => rpcWifiApGetStaList maxConnNum
  | .wifiApGetStaAid => rpcWifiApGetStaAid
  | .wifiStaGetRssi => rpcWifiStaGetRssi
  | .wifiGetProtocol => rpcWifiGetProtocol

section Conditions

/-- A plain getter without a test of its pointers, with one after the request is taken, and
with one before. -/
def PlainHolds {Value : Type} (check : Check) (given : Bool) (out : Value)
    (exchange : Exchange Value) : Prop :=
  match check with
  | .absent => CopyFine (fun answer => answer.value = out) given exchange
  | .afterReq => given = true ∧ CopyFine (fun answer => answer.value = out) given exchange
  | .beforeReq => given = true → CopyFine (fun answer => answer.value = out) given exchange

/-- A response has to come for what is copied without a guard. -/
def UnguardedHolds {Value : Type} (same : Answer Value → Prop) (exchange : Exchange Value) : Prop :=
  ∃ answer, exchange = .response answer ∧ (Accepted answer.toAppResp ∨ same answer)

/-- `ap_records` is cleared before anything is sent. -/
def RecordsHold (given : Bool) (out : UInt16 × List ApRecord)
    (exchange : Exchange (List ApRecord)) : Prop :=
  given = true ∧ out.1 ≠ 0 ∧
    match exchange with
    | .response answer =>
        if answer.respEventStatus = success then
          if answer.number = 0 then Known answer.toAppResp ∨ out.2 = zeroed out.1
          else answer.outList = true ∧
            (Known answer.toAppResp ∨ overwrite out.1 answer.value = out.2)
        else out.2 = zeroed out.1
    | .sendFailed | .noResponse => out.2 = zeroed out.1

/-- A list has to be there to be copied from. -/
def ApInfoHolds (given : Bool) (out : ApRecord) (exchange : Exchange ApRecord) : Prop :=
  given = true ∧ ∀ answer, exchange = .response answer → answer.respEventStatus = success →
    answer.outList = true ∧ (Known answer.toAppResp ∨ answer.value = out)

/-- The response brings the stations, if it is copied from, and their number. -/
def SameStations {maxConnNum : Nat} (out : StaList maxConnNum)
    (answer : Answer (StaList maxConnNum)) : Prop :=
  (answer.respEventStatus = success →
    Vector.zipWith copyStation answer.value.sta out.sta = out.sta) ∧ answer.value.num = out.num

end Conditions

def Name.Holds (maxConnNum : Nat) :
    (name : Name) → Bool → name.Out maxConnNum → Exchange (name.Value maxConnNum) → Prop
  | .wifiGetMac | .getCoprocessorFwversion | .wifiStaGetAid | .wifiGetBand | .wifiGetBandMode
  | .wifiGetProtocols | .wifiGetBandwidths => PlainHolds .absent
  | .wifiGetMode | .wifiGetBandwidth | .wifiGetChannel | .wifiGetCountryCode | .wifiGetCountry
  | .wifiApGetStaAid | .wifiStaGetRssi => PlainHolds .afterReq
  | .wifiGetProtocol => PlainHolds .beforeReq
  | .wifiGetMaxTxPower => fun given out =>
      CopyFine (fun answer => (Int32.toInt8 answer.value) = out) given
  | .wifiScanGetApNum => fun given out exchange =>
      given = true ∧ CopyFine (fun answer => UInt16.ofInt answer.number = out) given exchange
  | .wifiGetConfig => fun given out exchange =>
      given = true ∧ UnguardedHolds (fun answer => answer.value = out) exchange
  | .wifiGetPs => fun given out exchange =>
      given = true → UnguardedHolds (fun answer => answer.value = out) exchange
  | .wifiApGetStaList => fun given out exchange =>
      given = true ∧ UnguardedHolds (SameStations out) exchange
  | .wifiScanGetApRecords => RecordsHold
  | .wifiStaGetApInfo => ApInfoHolds

section Getters
variable {Value : Type} {given : Bool} {exchange : Exchange Value}

theorem plain_iff (check : Check) (out : Value) :
    Tidy out ((plain check).run given out exchange) ↔ PlainHolds check given out exchange := by
  cases check with
  | absent => exact guarded_iff (Or.inl rfl) rfl rfl fun _ => rfl
  | afterReq =>
      refine later_iff rfl fun there => ?_
      subst there
      exact guarded_iff (Or.inr rfl) rfl rfl fun _ => rfl
  | beforeReq =>
      refine before_iff rfl fun there => ?_
      subst there
      exact guarded_iff (Or.inr rfl) rfl rfl fun _ => rfl

/-- A getter that copies without a guard, once it is under way. -/
theorem always_iff {Out : Type} {getter : Getter Value Out} {out : Out} {part : Answer Value → Out}
    {write : Answer Value → Out → Out} (there : (true && getter.wants out) = true)
    (nothing_before : getter.prepare out = out) (after : getter.always = some write)
    (copies : ∀ answer, getter.copy answer out = some (part answer)) :
    Tidy out (getter.run true out exchange) ↔
      UnguardedHolds (fun answer =>
        write answer (if answer.respEventStatus = success then part answer else out) = out)
        exchange := by
  have silent : (exchange = .sendFailed ∨ exchange = .noResponse) →
      ¬ Tidy out (getter.run true out exchange) := by
    intro silent tidy
    have nothing := ((silent_iff (Or.inr there) silent).mp tidy).1
    rw [after] at nothing
    cases nothing
  cases exchange with
  | sendFailed =>
      refine iff_of_false (silent (Or.inl rfl)) ?_
      rintro ⟨_, wrong, _⟩
      cases wrong
  | noResponse =>
      refine iff_of_false (silent (Or.inr rfl)) ?_
      rintro ⟨_, wrong, _⟩
      cases wrong
  | response answer =>
      have copied : getter.guarded true answer out =
          some (if answer.respEventStatus = success then part answer else out) := by
        by_cases ok : answer.respEventStatus = success
        · rw [Getter.guarded, if_pos ok, if_pos ok, if_pos rfl, copies]
        · rw [Getter.guarded, if_neg ok, if_neg ok]
      rw [response_iff (Or.inr there), nothing_before, copied, after]
      constructor
      · rintro ⟨_, same, fine⟩
        cases same
        exact ⟨answer, rfl, fine⟩
      · rintro ⟨_, same, fine⟩
        cases same
        exact ⟨_, rfl, fine⟩

theorem kept_iff {Out : Type} {copied : Out} {fine : Out → Prop} :
    (∃ out, some copied = some out ∧ fine out) ↔ fine copied := by
  simp only [Option.some.injEq, exists_eq_left']

theorem maxTxPower_iff (out : Int8) (exchange : Exchange Int32) :
    Tidy out (rpcWifiGetMaxTxPower.run given out exchange) ↔
      CopyFine (fun answer => answer.value.toInt8 = out) given exchange :=
  guarded_iff (Or.inl rfl) rfl rfl fun _ => rfl

theorem apNum_iff (out : UInt16) (exchange : Exchange Unit) :
    Tidy out (rpcWifiScanGetApNum.run given out exchange) ↔
      given = true ∧ CopyFine (fun answer => UInt16.ofInt answer.number = out) given exchange := by
  refine later_iff rfl fun there => ?_
  subst there
  exact guarded_iff (Or.inr rfl) rfl rfl fun _ => rfl

theorem config_iff (out : List UInt8) (exchange : Exchange (List UInt8)) :
    Tidy out (rpcWifiGetConfig.run given out exchange) ↔
      given = true ∧ UnguardedHolds (fun answer => answer.value = out) exchange := by
  refine later_iff rfl fun there => ?_
  subst there
  exact (always_iff rfl rfl rfl fun _ => rfl).trans Iff.rfl

theorem ps_iff (out : Int32) (exchange : Exchange Int32) :
    Tidy out (rpcWifiGetPs.run given out exchange) ↔
      (given = true → UnguardedHolds (fun answer => answer.value = out) exchange) := by
  refine before_iff rfl fun there => ?_
  subst there
  exact (always_iff rfl rfl rfl fun _ => rfl).trans Iff.rfl

theorem sameStations_iff {maxConnNum : Nat} (out : StaList maxConnNum)
    (answer : Answer (StaList maxConnNum)) :
    ({ (if answer.respEventStatus = success then
          { out with sta := Vector.zipWith copyStation answer.value.sta out.sta }
        else out) with num := answer.value.num } : StaList maxConnNum) = out ↔
      SameStations out answer := by
  rw [SameStations, StaList.ext_iff]
  by_cases ok : answer.respEventStatus = success
  · rw [if_pos ok]
    exact and_congr_left fun _ => ⟨fun same _ => same, fun same => same ok⟩
  · rw [if_neg ok]
    exact and_congr_left fun _ => ⟨fun _ wrong => absurd wrong ok, fun _ => rfl⟩

theorem staList_iff {maxConnNum : Nat} (out : StaList maxConnNum)
    (exchange : Exchange (StaList maxConnNum)) :
    Tidy out ((rpcWifiApGetStaList maxConnNum).run given out exchange) ↔
      given = true ∧ UnguardedHolds (SameStations out) exchange := by
  refine later_iff rfl fun there => ?_
  subst there
  refine Iff.trans (always_iff rfl rfl rfl fun _ => rfl) ?_
  constructor
  · rintro ⟨answer, came, fine⟩
    exact ⟨answer, came, fine.imp_right (sameStations_iff out answer).mp⟩
  · rintro ⟨answer, came, fine⟩
    exact ⟨answer, came, fine.imp_right (sameStations_iff out answer).mpr⟩

theorem apInfo_iff (out : ApRecord) (exchange : Exchange ApRecord) :
    Tidy out (rpcWifiStaGetApInfo.run given out exchange) ↔ ApInfoHolds given out exchange := by
  refine later_iff rfl fun there => ?_
  subst there
  have silent : (exchange = .sendFailed ∨ exchange = .noResponse) →
      Tidy out (rpcWifiStaGetApInfo.run true out exchange) :=
    fun silent => (silent_iff (Or.inr rfl) silent).mpr ⟨rfl, rfl⟩
  cases exchange with
  | sendFailed => exact iff_of_true (silent (Or.inl rfl)) fun _ came => nomatch came
  | noResponse => exact iff_of_true (silent (Or.inr rfl)) fun _ came => nomatch came
  | response answer =>
      rw [response_iff (Or.inr rfl), Getter.guarded]
      by_cases ok : answer.respEventStatus = success
      · rw [if_pos ok, if_pos rfl]
        constructor
        · rintro ⟨copied, copy, fine⟩ _ came _
          cases came
          simp only [rpcWifiStaGetApInfo] at copy
          split at copy
          next there =>
            cases copy
            exact ⟨there, fine.imp_left And.right⟩
          next => cases copy
        · intro fine
          obtain ⟨there, known⟩ := fine answer rfl ok
          exact ⟨answer.value, if_pos there, known.imp_left fun known => ⟨ok, known⟩⟩
      · rw [if_neg ok]
        refine iff_of_true ⟨out, rfl, Or.inr rfl⟩ ?_
        rintro _ came succeeded
        cases came
        exact absurd succeeded ok

theorem records_asked {out : UInt16 × List ApRecord} (some_asked : out.1 ≠ 0) :
    (true && rpcWifiScanGetApRecords.wants out) = true := by
  simp only [rpcWifiScanGetApRecords, Bool.true_and]
  exact decide_eq_true some_asked

theorem records_iff (out : UInt16 × List ApRecord) (exchange : Exchange (List ApRecord)) :
    Tidy out (rpcWifiScanGetApRecords.run given out exchange) ↔
      RecordsHold given out exchange := by
  refine later_iff rfl fun there => ?_
  subst there
  by_cases nothing : out.1 = 0
  · have refused : (true && rpcWifiScanGetApRecords.wants out) = false := by
      simp only [rpcWifiScanGetApRecords, nothing]
      rfl
    exact iff_of_false (refused_untidy rfl refused) fun both => both.1 nothing
  have asked := records_asked nothing
  have cleared : (out.1, zeroed out.1) = out ↔ out.2 = zeroed out.1 := by
    rw [Prod.ext_iff]
    exact ⟨fun same => same.2.symm, fun same => ⟨rfl, same.symm⟩⟩
  have silent : (exchange = .sendFailed ∨ exchange = .noResponse) →
      (Tidy out (rpcWifiScanGetApRecords.run true out exchange) ↔ out.2 = zeroed out.1) := by
    intro silent
    rw [silent_iff (Or.inr asked) silent]
    exact (and_iff_right rfl).trans cleared
  cases exchange with
  | sendFailed => exact (silent (Or.inl rfl)).trans (and_iff_right nothing).symm
  | noResponse => exact (silent (Or.inr rfl)).trans (and_iff_right nothing).symm
  | response answer =>
      rw [response_iff (Or.inr asked), Getter.guarded]
      refine Iff.trans ?_ (and_iff_right nothing).symm
      simp only [rpcWifiScanGetApRecords, Option.elim_none]
      by_cases ok : answer.respEventStatus = success
      · rw [if_pos ok, if_pos trivial, if_pos ok]
        by_cases none : answer.number = 0
        · rw [if_pos none, if_pos none, kept_iff, cleared]
          exact or_congr_left (and_iff_right ok)
        · rw [if_neg none, if_neg none]
          by_cases list : answer.outList = true
          · rw [if_pos list, kept_iff, and_iff_right list]
            refine or_congr (and_iff_right ok) ?_
            rw [Prod.ext_iff]
            exact and_iff_right rfl
          · rw [if_neg list]
            refine iff_of_false ?_ fun both => list both.1
            rintro ⟨_, same, _⟩
            cases same
      · rw [if_neg ok, if_neg ok, kept_iff, cleared]
        exact or_iff_right fun accepted => ok accepted.1

end Getters

/-- A parsed list of records as the getter receives it. -/
def answerOf (list : ScanFetch.ScanList) : Answer (List ApRecord) where
  msgId := 545
  uid := 0
  respEventStatus := list.status
  number := list.number
  outList := list.outList.isSome
  value := list.outList.getD []

/-- The scan getter is the one of `ScanFetch`, which counts records where this one counts
blocks. -/
theorem scan_agrees {recordSize : Nat} {calloc : Bool} {capacity : UInt16} {reply : ScanFetch.Reply}
    {list : ScanFetch.ScanList} (some_asked : capacity ≠ 0) (memory : List ApRecord)
    (came : ScanFetch.wifiScanGetApRecords calloc reply = some (some list)) :
    rpcWifiScanGetApRecords.run true (capacity, memory) (.response (answerOf list)) =
      (ScanFetch.rpcWifiScanGetApRecords recordSize calloc capacity true reply).elim .stopped
        fun fetch => .returned fetch.ret (fetch.number, fetch.records) ⟨1, 1, 1, 1⟩ := by
  rw [run_goes (Or.inr (records_asked some_asked)), ScanFetch.fetch_list some_asked came]
  simp only [sendAndWait, rpcWaitAndParseSyncResp, Getter.finish, Getter.guarded,
    rpcWifiScanGetApRecords, answerOf]
  by_cases ok : list.status = success
  · by_cases none : list.number = 0
    · rw [if_pos ok, if_pos (Or.inr none), if_pos none]
      rfl
    · rw [if_pos ok, if_neg (ScanFetch.copied_from ok none), if_neg none]
      obtain ⟨status, number, outList⟩ := list
      cases outList <;> rfl
  · rw [if_neg ok, if_pos (Or.inl ok)]
    rfl

/-- Each getter is clean under its own condition and under no other. -/
theorem getters_tidy_iff (maxConnNum : Nat) (name : Name) (given : Bool)
    (out : name.Out maxConnNum) (exchange : Exchange (name.Value maxConnNum)) :
    Tidy out ((name.getter maxConnNum).run given out exchange) ↔
      name.Holds maxConnNum given out exchange := by
  cases name
  case wifiGetMaxTxPower => exact maxTxPower_iff out exchange
  case wifiScanGetApNum => exact apNum_iff out exchange
  case wifiGetConfig => exact config_iff out exchange
  case wifiGetPs => exact ps_iff out exchange
  case wifiApGetStaList => exact staList_iff out exchange
  case wifiScanGetApRecords => exact records_iff out exchange
  case wifiStaGetApInfo => exact apInfo_iff out exchange
  all_goals exact plain_iff _ out

/-- The power save mode is asked for and nobody answers. -/
theorem getters_untidy :
    ¬ ∀ (maxConnNum : Nat) (name : Name) (given : Bool) (out : name.Out maxConnNum)
        (exchange : Exchange (name.Value maxConnNum)),
      Tidy out ((name.getter maxConnNum).run given out exchange) := by
  intro always
  obtain ⟨_, _, _, returned, _⟩ := always 10 .wifiGetPs true (0 : Int32) .noResponse
  cases returned

end EspHosted.SyncGetters

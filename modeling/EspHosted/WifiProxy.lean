import EspHosted.WifiCalls

/-!
The host's Wi-Fi API as a whole: for whatever driver the slave runs, a run of calls through the
messages is a run of calls of that driver. Requests and responses may be lost, but no response
comes late, and no call sets a mode that is none. The calls for two bands exist only where
`H_WIFI_DUALBAND_SUPPORT` is set.
-/

namespace EspHosted.WifiProxy
open GuardedRun RemoteCalls WifiCalls

inductive Call where
  | init | deinit | start | stop | connect | disconnect
  | setMode | getMode | setConfig | getConfig | setMac | getMac | setStorage | restore
  | scanStart | scanStop | scanGetApNum | clearApList | clearFastConnect | staGetApInfo
  | setPs | getPs | setMaxTxPower | getMaxTxPower | setBandwidth | getBandwidth
  | setChannel | getChannel | setCountryCode | getCountryCode | setCountry | getCountry
  | apGetStaList | apGetStaAid | deauthSta | staGetRssi | staGetAid
  | setProtocol | getProtocol | setProtocols | getProtocols | setBandwidths | getBandwidths
  | setBand | getBand | setBandMode | getBandMode
  deriving DecidableEq

variable (maxConnNum : Nat)

def method : Call → Method Int32
  | .init => wifiInit
  | .deinit => wifiDeinit
  | .start => wifiStart
  | .stop => wifiStop
  | .connect => wifiConnect
  | .disconnect => wifiDisconnect
  | .setMode => wifiSetMode
  | .getMode => wifiGetMode
  | .setConfig => wifiSetConfig
  | .getConfig => wifiGetConfig
  | .setMac => wifiSetMac
  | .getMac => wifiGetMac
  | .setStorage => wifiSetStorage
  | .restore => wifiRestore
  | .scanStart => wifiScanStart
  | .scanStop => wifiScanStop
  | .scanGetApNum => wifiScanGetApNum
  | .clearApList => wifiClearApList
  | .clearFastConnect => wifiClearFastConnect
  | .staGetApInfo => wifiStaGetApInfo
  | .setPs => wifiSetPs
  | .getPs => wifiGetPs
  | .setMaxTxPower => wifiSetMaxTxPower
  | .getMaxTxPower => wifiGetMaxTxPower
  | .setBandwidth => wifiSetBandwidth
  | .getBandwidth => wifiGetBandwidth
  | .setChannel => wifiSetChannel
  | .getChannel => wifiGetChannel
  | .setCountryCode => wifiSetCountryCode
  | .getCountryCode => wifiGetCountryCode
  | .setCountry => wifiSetCountry
  | .getCountry => wifiGetCountry
  | .apGetStaList => wifiApGetStaList maxConnNum
  | .apGetStaAid => wifiApGetStaAid
  | .deauthSta => wifiDeauthSta
  | .staGetRssi => wifiStaGetRssi
  | .staGetAid => wifiStaGetAid
  | .setProtocol => wifiSetProtocol
  | .getProtocol => wifiGetProtocol
  | .setProtocols => wifiSetProtocols
  | .getProtocols => wifiGetProtocols
  | .setBandwidths => wifiSetBandwidths
  | .getBandwidths => wifiGetBandwidths
  | .setBand => wifiSetBand
  | .getBand => wifiGetBand
  | .setBandMode => wifiSetBandMode
  | .getBandMode => wifiGetBandMode

def contract : (call : Call) → Contract codes (method maxConnNum call)
  | .init => wifiInitContract
  | .deinit | .start | .stop | .connect | .disconnect | .restore | .scanStop | .clearApList
  | .clearFastConnect => signalContract
  | .setMode => wifiSetModeContract
  | .getMode => wifiGetModeContract
  | .setConfig => wifiSetConfigContract
  | .getConfig => wifiGetConfigContract
  | .setMac => wifiSetMacContract
  | .getMac => wifiGetMacContract
  | .setStorage => wifiSetStorageContract
  | .scanStart => wifiScanStartContract
  | .scanGetApNum => wifiScanGetApNumContract
  | .staGetApInfo => wifiStaGetApInfoContract
  | .setPs => wifiSetPsContract
  | .getPs => wifiGetPsContract
  | .setMaxTxPower => wifiSetMaxTxPowerContract
  | .getMaxTxPower => wifiGetMaxTxPowerContract
  | .setBandwidth => wifiSetBandwidthContract
  | .getBandwidth => wifiGetBandwidthContract
  | .setChannel => wifiSetChannelContract
  | .getChannel => wifiGetChannelContract
  | .setCountryCode => wifiSetCountryCodeContract
  | .getCountryCode => wifiGetCountryCodeContract
  | .setCountry => wifiSetCountryContract
  | .getCountry => wifiGetCountryContract
  | .apGetStaList => wifiApGetStaListContract maxConnNum
  | .apGetStaAid => wifiApGetStaAidContract
  | .deauthSta => wifiDeauthStaContract
  | .staGetRssi => wifiStaGetRssiContract
  | .staGetAid => wifiStaGetAidContract
  | .setProtocol => wifiSetProtocolContract
  | .getProtocol => wifiGetProtocolContract
  | .setProtocols => wifiSetProtocolsContract
  | .getProtocols => wifiGetProtocolsContract
  | .setBandwidths => wifiSetBandwidthsContract
  | .getBandwidths => wifiGetBandwidthsContract
  | .setBand => wifiSetBandContract
  | .getBand => wifiGetBandContract
  | .setBandMode => wifiSetBandModeContract
  | .getBandMode => wifiGetBandModeContract

/-- The calls whose arguments the slave does not get as they are. -/
def changedOnTheWay : List Call := [.setConfig, .getConfig, .scanStart, .setCountryCode, .getProtocol]

/-- The calls whose results the host does not get as they are. -/
def changedOnTheWayBack : List Call := [.getConfig, .getCountryCode, .staGetApInfo, .apGetStaList]

/-- The calls that write into the caller's variable though they fail. -/
def writtenOnFailure : List Call := [.getPs, .getConfig, .apGetStaList]

/-- What is received is what the slave's driver gave. -/
def Plain {method : Method Int32} (contract : Contract codes method) : Prop :=
  ∃ same : method.Given = method.Out,
    ∀ arg given out, contract.received arg given out = cast same given

theorem sent_plain {call : Call} (kept : call ∉ changedOnTheWay) : (contract maxConnNum call).sent = id := by
  cases call <;> first | rfl | exact absurd (by decide) kept

theorem received_plain {call : Call} (kept : call ∉ changedOnTheWayBack) : Plain (contract maxConnNum call) := by
  cases call <;> first | exact ⟨rfl, fun _ _ _ => rfl⟩ | exact absurd (by decide) kept

theorem spoil_plain {call : Call} (kept : call ∉ writtenOnFailure) : (method maxConnNum call).spoil = id := by
  cases call <;> first | rfl | exact absurd (by decide) kept

theorem untested {call : Call} (crashes : (method maxConnNum call).tested = false) :
    call ∈ writtenOnFailure := by
  cases call <;> first | (cases crashes; done) | decide

/-- What the host's API does is what the slave's driver does. Each call accounts for itself, and
the driver has done some of the calls, among them all that went well, once and in order. But for
the calls named, arguments and results are the same on both sides, and a call that fails leaves
the caller's variable alone. -/
theorem wifi_calls_carried {Store : Type} (driver : Callee (method maxConnNum) Store) (start : Store)
    {session : Session codes (method maxConnNum) Store}
    (run : Run (step driver) unguarded ⟨start, [], true⟩ session) :
    Explained (contract maxConnNum) driver start session.log session.store ∧
      (∃ done, (session.log.filter fun entry => entry.ended.well codes).Sublist done ∧
        done.Sublist session.log ∧
        (∀ entry ∈ done, (contract maxConnNum entry.call).sends entry.arg) ∧
        session.store = replay (contract maxConnNum) driver done start) ∧
      (∀ call ∉ changedOnTheWay, (contract maxConnNum call).sent = id) ∧
      (∀ call ∉ changedOnTheWayBack, Plain (contract maxConnNum call)) ∧
      (∀ call ∉ writtenOnFailure,
        (method maxConnNum call).spoil = id ∧ (method maxConnNum call).tested = true) := by
  have explained : Explained (contract maxConnNum) driver start session.log session.store :=
    run_explained run
  refine ⟨explained, explained_replay explained, ?_, ?_, ?_⟩
  · exact fun call => sent_plain maxConnNum
  · exact fun call => received_plain maxConnNum
  · intro call kept
    refine ⟨spoil_plain maxConnNum kept, ?_⟩
    cases tests : (method maxConnNum call).tested with
    | true => rfl
    | false => exact absurd (untested maxConnNum tests) kept

/-- A driver that keeps a mode and knows nothing else. -/
def modeDriver : Callee (method 1) Int32
  | .setMode => fun mode _ => ⟨0, (), mode⟩
  | .getMode => fun _ mode => ⟨0, mode, mode⟩
  | .init => fun _ mode => ⟨1, (), mode⟩
  | .deinit | .start | .stop | .connect | .disconnect | .restore | .scanStop | .clearApList
  | .clearFastConnect => fun _ mode => ⟨1, (), mode⟩
  | .setConfig | .setMac | .setStorage | .scanStart | .setPs | .setMaxTxPower | .setBandwidth
  | .setChannel | .setCountryCode | .setCountry | .deauthSta | .setProtocol | .setProtocols
  | .setBandwidths | .setBand | .setBandMode => fun _ mode => ⟨1, (), mode⟩
  | .getConfig => fun _ mode => ⟨1, (StationConfig.blankSta, ConfigReadback.blankAp), mode⟩
  | .getMac => fun _ mode => ⟨1, .replicate _ 0, mode⟩
  | .scanGetApNum | .apGetStaAid | .staGetAid => fun _ mode => ⟨1, (0 : UInt16), mode⟩
  | .staGetApInfo => fun _ mode => ⟨1, ApRecords.acRecord, mode⟩
  | .getPs | .getBandwidth | .staGetRssi | .getBand | .getBandMode => fun _ mode => ⟨1, (0 : Int32), mode⟩
  | .getMaxTxPower => fun _ mode => ⟨1, (0 : Int8), mode⟩
  | .getChannel => fun _ mode => ⟨1, ⟨0, 0⟩, mode⟩
  | .getCountryCode => fun _ mode => ⟨1, .replicate _ 0, mode⟩
  | .getCountry => fun _ mode => ⟨1, ⟨.replicate _ 0, 0, 0, 0, 0⟩, mode⟩
  | .apGetStaList => fun _ mode => ⟨1, ⟨.replicate _ noStation, 0⟩, mode⟩
  | .getProtocol => fun _ mode => ⟨1, (0 : UInt8), mode⟩
  | .getProtocols => fun _ mode => ⟨1, ⟨0, 0⟩, mode⟩
  | .getBandwidths => fun _ mode => ⟨1, ⟨0, 0⟩, mode⟩

/-- Setting mode 2 is answered, setting mode 3 is done but its answer is lost, a power save mode 9
is refused, and then the mode is asked for. -/
def modeCalls : List (Act codes (method 1)) :=
  [⟨.setMode, (2 : Int32), (), .answered⟩, ⟨.setMode, (3 : Int32), (), .failed true none⟩,
    ⟨.setPs, (9 : Int32), (), .answered⟩, ⟨.getMode, (), (0 : Int32), .answered⟩]

theorem wifi_calls_carried_modes :
    ∃ session, Run (step modeDriver) unguarded ⟨0, [], true⟩ session ∧ session.store = 3 ∧
      session.log.length = 4 ∧ Explained (contract 1) modeDriver 0 session.log session.store := by
  have run := @exec_run _ _ (step modeDriver) ⟨0, [], true⟩ _ modeCalls rfl
  exact ⟨_, run, rfl, rfl, (wifi_calls_carried 1 modeDriver 0 run).1⟩

end EspHosted.WifiProxy

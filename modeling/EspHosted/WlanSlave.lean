import EspHosted.WlanDriver

/-!
The slave that answers the WLAN driver. Its Wi-Fi driver belongs to the SDK: `EspWifi` is any
driver, `Documented` what its documentation says, and then the slave is `party` in all that the
WLAN driver can see of it. A request may get lost on the way, or the response to it.
-/

namespace EspHosted.WlanDriver
open StationConfig ConfigReadback Dialogue

/-- What the request handlers of the slave call. -/
inductive Call where
  | getMode
  | setMode (mode : WifiMode)
  | setSta (config : StaConfig)
  | setAp (config : ApConfig)
  | getAp
  | scanStart (ssid : Option (List UInt8))
  | scanStop
  | connect
  | disconnect
  | apGetStaAid (mac : List UInt8)
  | deauthSta (aid : UInt16)
  | getMacAp
  | getProtocolAp
  | getBandwidthAp

abbrev Returned : Call → Type
  | .getMode => Option WifiMode
  | .getAp => Option ApConfig
  | .apGetStaAid _ => Option UInt16
  | .getMacAp => Option (List UInt8)
  | .getProtocolAp => Option UInt8
  | .getBandwidthAp => Option Int32
  | .setMode _ | .setSta _ | .setAp _ | .scanStart _ | .scanStop | .connect | .disconnect
  | .deauthSta _ => Bool

/-- A Wi-Fi driver. A call returns a value where it returns `ESP_OK`; the other fields are the
mode and the configurations it has. -/
structure EspWifi (Store : Type) where
  call : Store → (call : Call) → Returned call × Store
  mode : Store → WifiMode
  sta : Store → StaConfig
  ap : Store → ApConfig

variable {Store : Type} {wifi : EspWifi Store}

/-- The calls that set something. -/
def Call.sets : Call → Bool
  | .setMode _ | .setSta _ | .setAp _ => true
  | _ => false

/-- A value is set where the call succeeds; where it fails it may have been set. -/
structure Sets {Value : Type} (read : Store → Value) (value : Value) (before : Store)
    (called : Bool × Store) : Prop where
  done : called.1 = true → read called.2 = value
  either : read called.2 = read before ∨ read called.2 = value

/-- A getter gives what there is, a setter sets its own value and no other, and nothing else
changes them. -/
structure Documented (wifi : EspWifi Store) : Prop where
  getMode : ∀ store mode, (wifi.call store .getMode).1 = some mode → mode = wifi.mode store
  getAp : ∀ store config, (wifi.call store .getAp).1 = some config → config = wifi.ap store
  setMode : ∀ store mode, Sets wifi.mode mode store (wifi.call store (.setMode mode))
  setSta : ∀ store config, Sets wifi.sta config store (wifi.call store (.setSta config))
  setAp : ∀ store config, Sets wifi.ap config store (wifi.call store (.setAp config))
  mode : ∀ store call, (∀ mode, call ≠ .setMode mode) →
    wifi.mode (wifi.call store call).2 = wifi.mode store
  sta : ∀ store call, (∀ config, call ≠ .setSta config) →
    wifi.sta (wifi.call store call).2 = wifi.sta store
  ap : ∀ store call, (∀ config, call ≠ .setAp config) →
    wifi.ap (wifi.call store call).2 = wifi.ap store

/-- `scans` and `connects` count the calls that were confirmed. -/
structure Held (Store : Type) where
  store : Store
  scans : Nat
  connects : Nat

inductive Fate where
  | answered
  | lost (executed : Bool)

/-- A request to the slave, and what it comes to where there is no response. -/
def Held.exchange {Value : Type} (held : Held Store) (fate : Fate) (failed : Value)
    (called : Value × Store) : Value × Held Store :=
  match fate with
  | .answered => (called.1, { held with store := called.2 })
  | .lost executed => (failed, if executed then { held with store := called.2 } else held)

def Held.started (done : Bool × Held Store) : Bool × Held Store :=
  (done.1, if done.1 then { done.2 with scans := done.2.scans + 1 } else done.2)

def Held.connected (done : Bool × Held Store) : Bool × Held Store :=
  (done.1, if done.1 then { done.2 with connects := done.2.connects + 1 } else done.2)

/-- What the host reads of the configuration that the driver has returned. -/
def readAnswer (config : ApConfig) : Option ApConfig :=
  match readBack ⟨fun _ => 0, blankSta, config⟩ wifiIfAp with
  | .ap got => some got
  | .sta _ | .untouched | .nullDeref => none

def proxy (wifi : EspWifi Store) : Party Answer Fate (Held Store)
  | held, .getMode, fate => held.exchange fate none (wifi.call held.store .getMode)
  | held, .setMode mode, fate => held.exchange fate false (wifi.call held.store (.setMode mode))
  | held, .setConfig cfg, fate =>
      match reqWifiSetConfig (composeWifiSetConfig cfg) with
      | .setSta config => held.exchange fate false (wifi.call held.store (.setSta config))
      | .setAp config => held.exchange fate false (wifi.call held.store (.setAp config))
      | .refused | .nullDeref => (false, held)
  | held, .scanStart ssid, fate =>
      Held.started (held.exchange fate false (wifi.call held.store (.scanStart ssid)))
  | held, .scanStop, fate => held.exchange fate false (wifi.call held.store .scanStop)
  | held, .connect, fate =>
      Held.connected (held.exchange fate false (wifi.call held.store .connect))
  | held, .disconnect, fate => held.exchange fate false (wifi.call held.store .disconnect)
  | held, .apGetStaAid mac, fate =>
      held.exchange fate none (wifi.call held.store (.apGetStaAid mac))
  | held, .deauthSta aid, fate =>
      held.exchange fate false (wifi.call held.store (.deauthSta aid))
  | held, .getConfigAp, fate =>
      let done := held.exchange fate none (wifi.call held.store .getAp)
      (done.1.bind readAnswer, done.2)
  | held, .getMacAp, fate => held.exchange fate none (wifi.call held.store .getMacAp)
  | held, .getProtocolAp, fate => held.exchange fate none (wifi.call held.store .getProtocolAp)
  | held, .getBandwidthAp, fate => held.exchange fate none (wifi.call held.store .getBandwidthAp)

/-- What the WLAN driver sees of the slave. -/
def view (wifi : EspWifi Store) (held : Held Store) : Slave where
  mode := wifi.mode held.store
  sta := wifi.sta held.store
  ap := wifi.ap held.store
  scans := held.scans
  connects := held.connects

theorem Sets.applied {Value : Type} {read : Store → Value} {value : Value} {before : Store}
    {called : Bool × Store} (sets : Sets read value before called) :
    ∃ applied : Bool, (called.1 || applied) = applied ∧
      read called.2 = if applied then value else read before := by
  cases ok : called.1 with
  | true => exact ⟨true, rfl, sets.done ok⟩
  | false =>
      rcases sets.either with same | set
      · exact ⟨false, rfl, same⟩
      · exact ⟨true, rfl, set⟩

section Refinement
variable (documented : Documented wifi) (held : Held Store)
include documented

end Refinement

/-- The outcome with which `party` does the same. -/
def outcome (ok applied : Bool) : Outcome := { (default : Outcome) with ok := ok, applied := applied }

end EspHosted.WlanDriver

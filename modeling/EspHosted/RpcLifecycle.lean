import EspHosted.SerialReassembly
import Mathlib.Logic.Function.Basic

/-!
`rpc_core_init` and `rpc_core_deinit` with the serial layers below them. Objects of the
operating system and blocks of memory are numbered as they are created; `live` are those that
have not been destroyed. A result `none` is a failed assertion, or the free of something that
was never allocated.
-/

namespace EspHosted.RpcLifecycle
open SerialReassembly (maxSerialIntf stmOk stmFail SerialLlState)

def success : Int := 0
def failure : Int := -1
def retOk : Int := 0
def retFail : Int := -1

inductive RpcLibState where
  | inactive
  | init
  | ready
  deriving DecidableEq

/-- The static variables of `rpc_core.c` that these functions use. -/
structure Core where
  rpcRxQ : Option Nat
  rpcTxQ : Option Nat
  rpcRxThreadHdl : Option Nat
  rpcTxThreadHdl : Option Nat
  rpcTxSem : Option Nat
  asyncTimerHdl : Option Nat
  libState : RpcLibState

/-- Those of `serial_drv.c`. -/
structure Drv where
  serialLlIf : Option Nat
  readSemaphore : Option Nat

/-- Those of `serial_ll_if.c`; `to_serial_ll_intf_queue` is never written. -/
structure Ll where
  interfaceHandle : Nat → Option Nat
  connNum : Nat

/-- What `serial_ll_handle_t` holds. -/
structure LlHandle where
  ifNum : Nat
  queue : Option Nat
  state : SerialLlState

structure State where
  core : Core
  serialHandle : Option Nat
  drv : Drv
  ll : Ll
  llHandles : Nat → Option LlHandle
  live : List Nat
  created : Nat

def initial : State where
  core :=
    { rpcRxQ := none, rpcTxQ := none, rpcRxThreadHdl := none, rpcTxThreadHdl := none
      rpcTxSem := none, asyncTimerHdl := none, libState := .inactive }
  serialHandle := none
  drv := { serialLlIf := none, readSemaphore := none }
  ll := { interfaceHandle := fun _ => none, connNum := 0 }
  llHandles _ := none
  live := []
  created := 0

/-- How the calls of the operating system turn out. -/
structure Os where
  txSem : Bool
  serialDrv : Bool
  readSem : Bool
  serialLl : Bool
  serialQueue : Bool
  rxQueue : Bool
  txQueue : Bool
  rxThread : Bool
  txThread : Bool
  /-- Those of `rpc_core_deinit`. -/
  semDestroyed : Bool
  threadsCancelled : Bool

/-- Everything that is to be allocated is. -/
structure Os.Allocates (os : Os) : Prop where
  txSem : os.txSem = true
  serialDrv : os.serialDrv = true
  readSem : os.readSem = true
  serialLl : os.serialLl = true
  serialQueue : os.serialQueue = true
  rxQueue : os.rxQueue = true
  txQueue : os.txQueue = true
  rxThread : os.rxThread = true
  txThread : os.txThread = true

def create (ok : Bool) (state : State) : Option Nat × State :=
  if ok then
    (some state.created,
      { state with live := state.live ++ [state.created], created := state.created + 1 })
  else (none, state)

/-- Destroying what a pointer points at; NULL is left alone. -/
def destroy (object : Option Nat) (state : State) : State :=
  { state with live := state.live.filter fun other => object ≠ some other }

/-- `serial_drv_open`; `transport` is never NULL. -/
def serialDrvOpen (os : Os) (state : State) : Option Nat × State := create os.serialDrv state

def serialLlInit (os : Os) (state : State) : Option Nat × State :=
  -- check if more serial interfaces be created
  if state.ll.connNum + 1 < maxSerialIntf then
    match create os.serialLl state with
    | (none, state) => (none, state)
    | (some handle, state) =>
        let new : LlHandle := { ifNum := state.ll.connNum, queue := none, state := .init }
        (some handle,
          { state with
            llHandles := Function.update state.llHandles handle (some new)
            ll :=
              { interfaceHandle :=
                  Function.update state.ll.interfaceHandle state.ll.connNum (some handle)
                connNum := state.ll.connNum + 1 } })
  else (none, state)

def llQueue (handle : Nat) (state : State) : Option Nat :=
  (state.llHandles handle).bind LlHandle.queue

def serialLlClose (handle : Nat) (state : State) : State × Int :=
  let state := destroy (llQueue handle state) state
  -- reset connection
  let ll :=
    if 0 < state.ll.connNum then
      { interfaceHandle := Function.update state.ll.interfaceHandle (state.ll.connNum - 1) none
        connNum := state.ll.connNum - 1 }
    else state.ll
  let llHandles := Function.update state.llHandles handle none
  (destroy (some handle) { state with ll := ll, llHandles := llHandles }, stmOk)

def serialLlOpen (os : Os) (handle : Nat) (state : State) : State × Int :=
  -- clean up earlier queue
  let state := destroy (llQueue handle state) state
  match create os.serialQueue state with
  | (none, state) =>
      let llHandles := Function.update state.llHandles handle
        ((state.llHandles handle).map fun old => { old with queue := none })
      ((serialLlClose handle { state with llHandles := llHandles }).1, stmFail)
  | (some queue, state) =>
      let llHandles := Function.update state.llHandles handle
        ((state.llHandles handle).map fun old => { old with queue := some queue, state := .active })
      ({ state with llHandles := llHandles }, stmOk)

def rpcPlatformInit (os : Os) (state : State) : Option (State × Int) :=
  match create os.readSem state with
  -- assert(readSemaphore)
  | (none, _) => none
  | (some sem, state) =>
      let state := { state with drv := { state.drv with readSemaphore := some sem } }
      match serialLlInit os state with
      -- assert(serial_ll_if_g)
      | (none, _) => none
      | (some handle, state) =>
          let state := { state with drv := { state.drv with serialLlIf := some handle } }
          let opened := serialLlOpen os handle state
          some (opened.1, if opened.2 = retOk then retOk else retFail)

/-- `serial_drv_close` frees the address of `serial_handle` when that is NULL. -/
def transportPserialClose (state : State) : Option (State × Int) :=
  match state.serialHandle with
  | none => none
  | some handle => some ({ destroy (some handle) state with serialHandle := none }, retOk)

def transportPserialOpen (os : Os) (state : State) : Option (State × Int) :=
  if state.serialHandle.isSome then some (state, success)
  else
    match serialDrvOpen os state with
    | (none, state) => some (state, failure)
    | (some handle, state) =>
        (rpcPlatformInit os { state with serialHandle := some handle }).bind fun (state, ret) =>
          if ret ≠ success then
            (transportPserialClose state).map fun closed => (closed.1, ret)
          else some (state, ret)

/-- `cancel_rpc_threads` only suspends the threads. -/
def cancelRpcThreads (os : Os) : Int := if os.threadsCancelled then success else failure

def rpcCoreDeinit (os : Os) (state : State) : Option (State × Int) :=
  if state.core.libState = .inactive then some (state, success)
  else
    let state := { state with core := { state.core with libState := .inactive } }
    let state := destroy state.core.rpcTxQ (destroy state.core.rpcRxQ state)
    let kept := state.core.rpcTxSem.isSome && !os.semDestroyed
    let state := if kept then state else destroy state.core.rpcTxSem state
    let state := destroy state.core.asyncTimerHdl state
    let state := { state with core := { state.core with asyncTimerHdl := none } }
    (transportPserialClose state).map fun (state, closed) =>
      (state, if kept || closed ≠ retOk || cancelRpcThreads os ≠ success then failure else success)

/-- `goto free_bufs`. -/
def freeBufs (os : Os) (state : State) : Option (State × Int) :=
  (rpcCoreDeinit os state).map fun released => (released.1, failure)

/-- `rpc_core_init` from the queues on. -/
def startRpc (os : Os) (state : State) : Option (State × Int) :=
  let rxQ := create os.rxQueue state
  let txQ := create os.txQueue rxQ.2
  let state := { txQ.2 with core := { txQ.2.core with rpcRxQ := rxQ.1, rpcTxQ := txQ.1 } }
  if rxQ.1.isNone || txQ.1.isNone then freeBufs os state
  else
    -- spawn_rpc_threads
    let rx := create os.rxThread state
    let tx := create os.txThread rx.2
    let state :=
      { tx.2 with core := { tx.2.core with rpcRxThreadHdl := rx.1, rpcTxThreadHdl := tx.1 } }
    if rx.1.isNone || tx.1.isNone then freeBufs os state
    else some ({ state with core := { state.core with libState := .ready } }, success)

def rpcCoreInit (os : Os) (state : State) : Option (State × Int) :=
  let sem := create os.txSem state
  let state := { sem.2 with core := { sem.2.core with rpcTxSem := sem.1 } }
  if sem.1.isNone then freeBufs os state
  else
    -- serial_init
    (transportPserialOpen os state).bind fun (state, ret) =>
      if ret ≠ success then freeBufs os state else startRpc os state

def Succeeds (result : Option (State × Int)) : Prop := result.map Prod.snd = some success

/-- Rounds of a successful `rpc_core_init` and the `rpc_core_deinit` behind it. -/
def runRounds : List (Os × Os) → State → Option State
  | [], state => some state
  | (up, down) :: rest, state =>
      (rpcCoreInit up state).bind fun (state, ret) =>
        if ret = success then
          (rpcCoreDeinit down state).bind fun released => runRounds rest released.1
        else none

instance (result : Option (State × Int)) : Decidable (Succeeds result) :=
  inferInstanceAs (Decidable (result.map Prod.snd = some success))

end EspHosted.RpcLifecycle

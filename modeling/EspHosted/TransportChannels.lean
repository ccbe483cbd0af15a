import EspHosted.BufferOwnership

/-!
The channels of `transport_drv.c` beside the SPI driver. A channel is an object with a number
as its address; `chan_arr` holds the addresses. A packet is copied into a block of the pool of
its channel; each such copy is numbered, and the number stands for the address under which the
driver passes the block around. What the driver frees goes through the callback of the
interface, which looks the pool up when it is called.
-/

namespace EspHosted.TransportChannels
open SpiFrames HostFrames SlaveFrames SpiDriver

/-- `useMempool` is `CONFIG_USE_MEMPOOL`. -/
structure Config where
  driver : SpiDriver.Config
  useMempool : Bool

/-- `transport_channel_t`, as far as channels and buffers are concerned. -/
structure Channel where
  apiChan : Option Nat
  ifType : UInt8
  memp : Option Nat
  deriving DecidableEq

inductive Home where
  | heap
  | pool (id : Nat)
  deriving DecidableEq

/-- A block that `transport_drv_sta_tx` or `transport_drv_ap_tx` allocated. -/
structure Loan where
  block : Nat
  ifType : UInt8
  home : Home
  deriving DecidableEq

structure State where
  driver : SpiDriver.State
  chanArr : UInt8 → Option Nat
  channels : List Channel
  freedChannels : List Nat
  /-- The free blocks of each pool, the number of pools created, and those destroyed. -/
  pools : Nat → List Nat
  created : Nat
  destroyed : List Nat
  blocks : Nat
  loans : List Loan
  /-- Which block came back to which place, and the callbacks that found no channel. -/
  returned : List (Nat × Home)
  faults : List Nat

def init : State where
  driver := SpiDriver.init
  chanArr _ := none
  channels := []
  freedChannels := []
  pools _ := []
  created := 0
  destroyed := []
  blocks := 0
  loans := []
  returned := []
  faults := []

variable (config : Config)

/-- The place a pool pointer stands for; without pools every block is the heap's. -/
def homeOf (memp : Option Nat) : Option Home :=
  if config.useMempool then memp.map .pool else some .heap

def channelAt (state : State) (ifType : UInt8) : Option Channel :=
  match state.chanArr ifType with
  | none => none
  | some address => if address ∈ state.freedChannels then none else state.channels[address]?

def mempoolAlloc (state : State) : Home → Nat × State
  | .heap => (state.blocks, { state with blocks := state.blocks + 1 })
  | .pool id =>
      match state.pools id with
      | block :: rest => (block, { state with pools := Function.update state.pools id rest })
      | [] => (state.blocks, { state with blocks := state.blocks + 1 })

def poolsAfterFree (pools : Nat → List Nat) (block : Nat) : Home → Nat → List Nat
  | .heap => pools
  | .pool id => Function.update pools id (block :: pools id)

/-- `mempool_free` on a pool pointer; on NULL it does nothing. -/
def mempoolFree (state : State) (memp : Option Nat) (index : Nat) (loan : Loan) : State :=
  match homeOf config memp with
  | none => state
  | some home =>
      { state with
        pools := poolsAfterFree state.pools loan.block home
        returned := state.returned ++ [(index, home)] }

/-- `transport_sta_free_cb` and `transport_ap_free_cb`, by the interface they are for. -/
def freeCb (state : State) (index : Nat) : State :=
  match state.loans[index]? with
  | none => state
  | some loan =>
      match channelAt state loan.ifType with
      | none => { state with faults := state.faults ++ [index] }
      | some channel => mempoolFree config state channel.memp index loan

/-- The driver goes on, and what it frees on the way goes through the callbacks. -/
def driven (state : State) (driver : SpiDriver.State) : State :=
  (driver.freed.drop state.driver.freed.length).foldl (freeCb config) { state with driver := driver }

def networkFrame (ifType : UInt8) (index : Nat) (bytes : List UInt8) : TxFrame where
  buf :=
    { ifType := ifType, ifNum := 0, payloadZcopy := true
      payloadLen := UInt16.ofNat bytes.length
      payload := putAt (List.replicate maxSpiBufferSize 0) payloadHeaderSize bytes }
  wbuffer := some index
  freeWbufFun := true

/-- The part the two transmit functions share. It stops at a NULL channel, at a handle that is
not the channel's, and without a block. -/
def networkTx (state : State) (ifType : UInt8) (h : Option Nat) (bytes : List UInt8)
    (transportUp : Bool) : Option State :=
  match channelAt state ifType with
  | none => none
  | some channel =>
      if h = none ∨ h ≠ channel.apiChan then none
      else
        match homeOf config channel.memp with
        | none => none
        | some home =>
            let (block, state) := mempoolAlloc state home
            let frame := networkFrame ifType state.loans.length bytes
            let state := { state with loans := state.loans ++ [⟨block, ifType, home⟩] }
            some (driven config state (callStep state.driver transportUp frame))

def transportDrvStaTx (state : State) (h : Option Nat) (bytes : List UInt8) (transportUp : Bool) :
    Option State :=
  if bytes = [] then some state
  else if state.driver.rx.wifiTxThrottling ≠ 0 then some state
  else networkTx config state espStaIf h bytes transportUp

def transportDrvApTx (state : State) (h : Option Nat) (bytes : List UInt8) (transportUp : Bool) :
    Option State :=
  if bytes = [] then some state else networkTx config state espApIf h bytes transportUp

def hasTx (ifType : UInt8) : Bool := ifType = espStaIf || ifType = espApIf || ifType = espSerialIf

/-- `transport_drv_add_channel`. The old channel is freed, not its pool; the new one stays in
`chan_arr` as it was allocated where the interface has no transmit function. `functions` tells
whether `tx` and `rx` are given, `created` whether there is memory for a pool. -/
def addChannel (state : State) (apiChan : Option Nat) (ifType : UInt8) (functions created : Bool) :
    Option State :=
  if espMaxIf ≤ ifType then none
  else if ¬ functions then some state
  else
    let memp := if hasTx ifType && config.useMempool && created then some state.created else none
    some
      { state with
        freedChannels := state.freedChannels ++ (state.chanArr ifType).toList
        chanArr := Function.update state.chanArr ifType (some state.channels.length)
        channels := state.channels ++
          [if hasTx ifType then ⟨apiChan, ifType, memp⟩ else ⟨none, 0, none⟩]
        created := state.created + memp.toList.length }

/-- `transport_drv_remove_channel`. A dangling pointer and a channel that is not in `chan_arr`
stop it. -/
def removeChannel (state : State) : Option Nat → Option State
  | none => some state
  | some address =>
      match state.channels[address]? with
      | none => none
      | some channel =>
          if address ∈ state.freedChannels ∨ state.chanArr channel.ifType ≠ some address then none
          else
            some
              { state with
                freedChannels := state.freedChannels ++ [address]
                chanArr := Function.update state.chanArr channel.ifType none
                pools := channel.memp.elim state.pools fun id => Function.update state.pools id []
                destroyed := state.destroyed ++ channel.memp.toList }

inductive Act where
  | addChannel (apiChan : Option Nat) (ifType : UInt8) (functions created : Bool)
  | removeChannel (channel : Option Nat)
  | staTx (h : Option Nat) (bytes : List UInt8) (transportUp : Bool)
  | apTx (h : Option Nat) (bytes : List UInt8) (transportUp : Bool)
  /-- A frame of somebody else, freed without a look at the channels. -/
  | otherTx (frame : TxFrame) (transportUp : Bool)
  | put (index : Nat) (ok : Bool)
  | postToSlave
  | postReady
  | handshakeIsr
  | dataReadyIsr
  | task (act : TaskAct)

def drive (state : State) (act : SpiDriver.Act) : Option State :=
  (SpiDriver.step config.driver state.driver act).map (driven config state)

def step (state : State) : Act → Option State
  | .addChannel apiChan ifType functions created =>
      addChannel config state apiChan ifType functions created
  | .removeChannel channel => removeChannel state channel
  | .staTx h bytes transportUp => transportDrvStaTx config state h bytes transportUp
  | .apTx h bytes transportUp => transportDrvApTx config state h bytes transportUp
  | .otherTx frame transportUp =>
      if frame.free = [] then drive config state (.call transportUp frame) else none
  | .put index ok => drive config state (.put index ok)
  | .postToSlave => drive config state .postToSlave
  | .postReady => drive config state .postReady
  | .handshakeIsr => drive config state .handshakeIsr
  | .dataReadyIsr => drive config state .dataReadyIsr
  | .task act => drive config state (.task act)

end EspHosted.TransportChannels

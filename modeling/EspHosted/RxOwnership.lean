import EspHosted.BufferOwnership
import EspHosted.RxBuffers

/-!
A receive buffer goes back to the pool exactly once and nothing is done with it afterwards.
Until then it is held by the pass that received it, by one queue or by the task that took it
out, and the handle of the holder still points at it; `H_FREE_PTR_WITH_FUNC` clears that
pointer, so that a consumer and the end of the round can both apply it. No buffer is left in
a queue while the task waits.
-/

namespace EspHosted.RxOwnership
open SpiFrames HostFrames SlaveFrames QueueBank SerialReassembly ResourceTrace RxBuffers GuardedRun
open SpiDriver (Config semValueMax)
open BufferOwnership (weight)

variable {config : Config} {before after state : State} {handle kept : RxHandle}

/-- `H_FREE_PTR_WITH_FUNC` on this handle would free the buffer. -/
def handleHolds (rxbuff : Nat) (handle : RxHandle) : Bool :=
  handle.freeBufHandle && handle.privBufferHandle == some rxbuff

def spiHolds (rxbuff : Nat) : SpiPc → Bool
  | .transfer held | .put held _ => held == rxbuff
  | .idle | .post => false

def rxHolds (rxbuff : Nat) : RxPc → Bool
  | .consume handle | .free handle | .halted handle => handleHolds rxbuff handle
  | .getSem | .dequeue _ => false

/-- How often the buffer is held. -/
def holders (state : State) (rxbuff : Nat) : Nat :=
  weight (spiHolds rxbuff state.spi) + count (handleHolds rxbuff) state.fromSlave +
    weight (rxHolds rxbuff state.rx)

def Formed (handle : RxHandle) : Prop := ∃ rxbuff buf, handle = formHandle rxbuff buf

section Handles
variable {trace : List (Nat × Use)} {some_holders others : Nat → Nat} {rxbuff next : Nat}
variable {buf : IfaceBuf} {outcome : Outcome} {done : List (Nat × Use)}

end Handles

end EspHosted.RxOwnership

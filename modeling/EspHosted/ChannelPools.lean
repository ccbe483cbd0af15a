import EspHosted.TransportChannels
import Mathlib.Data.List.Range

/-!
Every block goes back where it came from, as long as no channel is replaced that has a pool
and none is removed while a block of its interface is on its way. What ties the three together
is that the channel in `chan_arr` is still the one, or one like the one, the block was taken
from.
-/

namespace EspHosted.ChannelPools
open SpiFrames HostFrames SlaveFrames SpiDriver BufferOwnership GuardedRun TransportChannels

variable {config : TransportChannels.Config} {before after : TransportChannels.State}

/-- A block of the interface is with the driver. -/
def OnTheWay (state : TransportChannels.State) (ifType : UInt8) : Prop :=
  ∃ index ∈ List.range state.loans.length,
    0 < holders state.driver index ∧ (state.loans[index]?).map Loan.ifType = some ifType

instance (state : TransportChannels.State) (ifType : UInt8) : Decidable (OnTheWay state ifType) :=
  inferInstanceAs (Decidable (∃ index ∈ List.range state.loans.length, _))

/-- No channel with a pool is replaced, and none removed while it is in use. -/
def Settled (state : TransportChannels.State) : TransportChannels.Act → Prop
  | .addChannel _ ifType functions _ =>
      functions = true → (channelAt state ifType).bind Channel.memp = none
  | .removeChannel (some address) =>
      ∀ channel ∈ state.channels[address]?, ¬ OnTheWay state channel.ifType
  | .removeChannel none | .staTx _ _ _ | .apTx _ _ _ | .otherTx _ _ | .put _ _ | .postToSlave
  | .postReady | .handshakeIsr | .dataReadyIsr | .task _ => True

instance (state : TransportChannels.State) :
    (act : TransportChannels.Act) → Decidable (Settled state act)
  | .addChannel _ ifType functions _ =>
      inferInstanceAs (Decidable (functions = true → (channelAt state ifType).bind Channel.memp = none))
  | .removeChannel (some address) =>
      inferInstanceAs (Decidable (∀ channel ∈ state.channels[address]?, ¬ OnTheWay state channel.ifType))
  | .removeChannel none | .staTx _ _ _ | .apTx _ _ _ | .otherTx _ _ | .put _ _ | .postToSlave
  | .postReady | .handshakeIsr | .dataReadyIsr | .task _ => .isTrue trivial

/-- The block came back where it was taken from. -/
def BackHome (state : TransportChannels.State) (ret : Nat × Home) : Prop :=
  ∃ loan, state.loans[ret.1]? = some loan ∧ loan.home = ret.2

/-- A pool that was created was destroyed or belongs to a channel. -/
def Kept (state : TransportChannels.State) (id : Nat) : Prop :=
  id ∈ state.destroyed ∨
    ∃ ifType channel, channelAt state ifType = some channel ∧ channel.memp = some id

structure Intact (state : TransportChannels.State) : Prop where
  /-- No callback came upon a NULL or a freed channel. -/
  found : state.faults = []
  backHome : ∀ ret ∈ state.returned, BackHome state ret
  /-- Each block is with the driver or came back, once. -/
  once : ∀ index < state.loans.length,
    (state.returned.map Prod.fst).count index + holders state.driver index = 1
  kept : ∀ id < state.created, Kept state id

/-- The channel that the callback will find belongs to the place the block came from. -/
def Awaited (config : TransportChannels.Config) (state : TransportChannels.State) (loan : Loan) :
    Prop :=
  ∃ channel, channelAt state loan.ifType = some channel ∧
    homeOf config channel.memp = some loan.home

/-- The addresses in `chan_arr`. -/
structure Addresses (state : TransportChannels.State) : Prop where
  live : ∀ ifType address, state.chanArr ifType = some address → address ∉ state.freedChannels
  known : ∀ ifType address, state.chanArr ifType = some address → address < state.channels.length
  apart : ∀ ifType other address, state.chanArr ifType = some address →
    state.chanArr other = some address → ifType = other
  freed : ∀ address ∈ state.freedChannels, address < state.channels.length

structure Inv (config : TransportChannels.Config) (state : TransportChannels.State) : Prop where
  accepted : LensAccepted state.driver
  zeroCopy : FramesAll (fun frame => frame.free = [] ∨ frame.buf.payloadZcopy = true) state.driver
  ledger : Ledger state.driver
  handedIn : state.driver.handedIn = List.range state.loans.length
  freed : state.returned.map Prod.fst = state.driver.freed
  backHome : ∀ ret ∈ state.returned, BackHome state ret
  found : state.faults = []
  awaited : ∀ index loan, state.loans[index]? = some loan → 0 < holders state.driver index →
    Awaited config state loan
  addresses : Addresses state
  kept : ∀ id < state.created, Kept state id

/-- What a step of the driver appends to the buffers handed in and to those freed. -/
structure Grows (first last : SpiDriver.State) (handed : List Nat) : Prop where
  handedIn : last.handedIn = first.handedIn ++ handed
  freed : ∃ more, last.freed = first.freed ++ more

section Driver
variable {first last : SpiDriver.State} {own : SpiDriver.Config}

theorem grows_call (transportUp : Bool) (frame : TxFrame) :
    Grows first (callStep first transportUp frame) frame.free := by
  unfold callStep
  split
  · exact ⟨rfl, frame.free, rfl⟩
  · exact ⟨rfl, [], (List.append_nil _).symm⟩

theorem grows_still (handedIn : last.handedIn = first.handedIn) (freed : last.freed = first.freed) :
    Grows first last [] :=
  ⟨by rw [handedIn, List.append_nil], [], by rw [freed, List.append_nil]⟩

theorem grows_task {act : TaskAct} (taken : taskStep first act = some last) : Grows first last [] := by
  cases taskStep_moves taken with
  | enter | handshake | dataReady | exchange | take | pass | repost => exact grows_still rfl rfl
  | dequeue pass prio =>
      unfold dequeueStep
      split <;> exact grows_still rfl rfl
  | form pass frame => exact ⟨(List.append_nil _).symm, formedFrees frame, rfl⟩
  | decide pass tx =>
      unfold decideStep
      split <;> exact grows_still rfl rfl
  | transfer pass tx rxbuff put => cases rxbuff <;> exact grows_still rfl rfl
  | freeTx pass tx failed => exact ⟨(List.append_nil _).symm, transferredFrees tx, rfl⟩
  | rearm pass failed =>
      unfold rearmStep
      split <;> exact grows_still rfl rfl

/-- What the call hands in; the other steps hand in nothing. -/
def handedBy : SpiDriver.Act → List Nat
  | .call _ frame => frame.free
  | .put _ _ | .postToSlave | .postReady | .handshakeIsr | .dataReadyIsr | .task _ => []

theorem grows_step {act : SpiDriver.Act} (taken : SpiDriver.step own first act = some last) :
    Grows first last (handedBy act) := by
  cases act with
  | call transportUp frame =>
      cases taken
      exact grows_call transportUp frame
  | put index ok =>
      cases putStep_puts taken with
      | fails frame => exact ⟨(List.append_nil _).symm, frame.free, rfl⟩
      | queues => exact grows_still rfl rfl
  | postToSlave =>
      have kept := kept_postToSlave taken
      exact grows_still kept.handedIn kept.freed
  | postReady =>
      have kept := kept_postReady taken
      exact grows_still kept.handedIn kept.freed
  | handshakeIsr | dataReadyIsr =>
      cases taken
      exact grows_still rfl rfl
  | task act => exact grows_task taken

/-- A frame that is sent as it is does not go through the HCI branch. -/
theorem longer_of_zeroCopy {act : SpiDriver.Act}
    (zeroCopy : FramesAll (fun frame => frame.free = [] ∨ frame.buf.payloadZcopy = true) first) :
    Longer first act := by
  cases act with
  | call _ _ | put _ _ | postToSlave | postReady | handshakeIsr | dataReadyIsr => trivial
  | task act =>
      rw [Longer]
      cases pc : first.pc with
      | formBuffer pass frame =>
          intro short
          rcases zeroCopy.formed pass frame pc with unfreed | zcopy
          · exact unfreed
          · exact absurd (zcopy.symm.trans short.2.2) Bool.noConfusion
      | getReadySem | readHandshake | readDataReady _ | exchange _ | getToSlaveSem _
      | dequeue _ _ | decide _ _ | transfer _ _ | freeTx _ _ _ | rearm _ _ | repost _ _ => trivial

end Driver

/-- Callbacks that find their channels put the blocks back and change nothing else. -/
theorem callbacks_return (state : TransportChannels.State) (indices : List Nat)
    (awaited : ∀ index ∈ indices, ∃ loan, state.loans[index]? = some loan ∧
      Awaited config state loan) :
    ∃ pools returned,
      indices.foldl (freeCb config) state =
        { state with pools := pools, returned := state.returned ++ returned } ∧
      returned.map Prod.fst = indices ∧ ∀ ret ∈ returned, BackHome state ret := by
  induction indices generalizing state with
  | nil => exact ⟨state.pools, [], by simp, rfl, nofun⟩
  | cons index rest ih =>
      obtain ⟨⟨loan, lent, channel, found, home⟩, others⟩ := List.forall_mem_cons.mp awaited
      have one : freeCb config state index =
          { state with
            pools := poolsAfterFree state.pools loan.block loan.home
            returned := state.returned ++ [(index, loan.home)] } := by
        simp only [freeCb, lent, found, mempoolFree, home]
      obtain ⟨pools, returned, reached, same, back⟩ := ih (freeCb config state index) (by
        rw [one]
        exact others)
      refine ⟨pools, (index, loan.home) :: returned, ?_, ?_, ?_⟩
      · rw [List.foldl_cons, reached, one]
        simp
      · rw [List.map_cons, same]
      · intro ret member
        rcases List.mem_cons.mp member with rfl | later
        · exact ⟨loan, lent, rfl⟩
        · have there := back ret later
          rw [one] at there
          exact there

section Driven
variable {base : TransportChannels.State} {driver : SpiDriver.State} {new : List Loan}

/-- What a step may do besides the driver's: take blocks, and number them as lent. -/
def Lends (before base : TransportChannels.State) (new : List Loan) : Prop :=
  ∃ pools blocks, base =
    { before with pools := pools, blocks := blocks, loans := before.loans ++ new }

/-- A block that is freed by the step, or is still with the driver behind it, is awaited. -/
theorem lent_awaited {index : Nat} (inv : Inv config before) (lends : Lends before base new)
    (news : ∀ loan ∈ new, Awaited config before loan)
    (balanced : Balanced before.driver driver)
    (handedIn : driver.handedIn = List.range base.loans.length)
    (due : driver.freed.count index + holders driver index > before.driver.freed.count index)
    {loan : Loan} (lent : base.loans[index]? = some loan) : Awaited config base loan := by
  obtain ⟨pools, blocks, rfl⟩ := lends
  have inside := (List.getElem?_eq_some_iff.mp lent).1
  by_cases old : index < before.loans.length
  · rw [List.getElem?_append_left old] at lent
    have moved := balanced index
    have once : (List.range (before.loans ++ new).length).count index = 1 :=
      List.count_eq_one_of_mem List.nodup_range (List.mem_range.mpr inside)
    have once_before : (List.range before.loans.length).count index = 1 :=
      List.count_eq_one_of_mem List.nodup_range (List.mem_range.mpr old)
    rw [handedIn, inv.handedIn, once_before] at moved
    simp only [once] at moved
    exact inv.awaited index loan lent (by omega)
  · rw [List.getElem?_append_right (Nat.le_of_not_lt old)] at lent
    exact news loan (List.mem_of_getElem? lent)

theorem inv_driven (inv : Inv config before) (lends : Lends before base new)
    (news : ∀ loan ∈ new, Awaited config before loan)
    (accepted : LensAccepted driver)
    (zeroCopy : FramesAll (fun frame => frame.free = [] ∨ frame.buf.payloadZcopy = true) driver)
    (balanced : Balanced before.driver driver)
    (handedIn : driver.handedIn = List.range base.loans.length)
    (grown : ∃ more, driver.freed = before.driver.freed ++ more) :
    Inv config (driven config base driver) := by
  have ledger := balanced.ledger inv.ledger
  have due : ∀ index loan,
      driver.freed.count index + holders driver index > before.driver.freed.count index →
      base.loans[index]? = some loan → Awaited config base loan := fun _ _ due lent =>
    lent_awaited inv lends news balanced handedIn due lent
  obtain ⟨more, grown⟩ := grown
  obtain ⟨pools, blocks, rfl⟩ := lends
  have frees : driver.freed.drop before.driver.freed.length = more := by
    rw [grown, List.drop_left]
  have awaited : ∀ index ∈ more, ∃ loan, (before.loans ++ new)[index]? = some loan ∧
      Awaited config before loan := by
    intro index member
    have freed_now : 0 < more.count index := List.count_pos_iff.mpr member
    have counted := ledger index
    rw [grown, List.count_append] at counted
    have known : index ∈ driver.handedIn := by
      apply List.count_pos_iff.mp
      omega
    rw [handedIn] at known
    have inside := List.mem_range.mp known
    refine ⟨_, List.getElem?_eq_getElem inside, ?_⟩
    refine due index _ ?_ (List.getElem?_eq_getElem inside)
    rw [grown, List.count_append]
    omega
  obtain ⟨pools', returned, reached, same, back⟩ := callbacks_return
    { before with
      pools := pools, blocks := blocks, loans := before.loans ++ new, driver := driver } more awaited
  have result : driven config
      { before with pools := pools, blocks := blocks, loans := before.loans ++ new } driver =
      { before with
        pools := pools', blocks := blocks, loans := before.loans ++ new, driver := driver
        returned := before.returned ++ returned } := by
    rw [driven, frees]
    exact reached
  rw [result]
  refine
    { accepted := accepted
      zeroCopy := zeroCopy
      ledger := ledger
      handedIn := handedIn
      freed := ?_
      backHome := ?_
      found := inv.found
      awaited := ?_
      addresses := ⟨inv.addresses.live, inv.addresses.known, inv.addresses.apart, inv.addresses.freed⟩
      kept := inv.kept }
  · rw [List.map_append, inv.freed, same, grown]
  · intro ret member
    rcases List.mem_append.mp member with older | now
    · obtain ⟨loan, lent, home⟩ := inv.backHome ret older
      have inside := (List.getElem?_eq_some_iff.mp lent).1
      exact ⟨loan, (List.getElem?_append_left inside).trans lent, home⟩
    · exact back ret now
  · intro index loan lent held
    refine due index loan ?_ lent
    have with_driver : 0 < holders driver index := held
    rw [grown, List.count_append]
    omega

end Driven

/-- A step of the driver that hands in no block. -/
theorem inv_drive {act : SpiDriver.Act} (inv : Inv config before) (nothing : handedBy act = [])
    (called : ∀ transportUp frame, act = .call transportUp frame →
      lenAccepted frame.buf.payloadLen = true → frame.free = [] ∨ frame.buf.payloadZcopy = true)
    (taken : drive config before act = some after) : Inv config after := by
  obtain ⟨driver, moved, rfl⟩ := Option.map_eq_some_iff.mp taken
  have grows := grows_step moved
  have unlent : Lends before before [] := ⟨before.pools, before.blocks, by rw [List.append_nil]⟩
  refine inv_driven inv unlent (fun _ none => absurd none List.not_mem_nil)
    (lens_step inv.accepted moved) (framesAll_step inv.zeroCopy called moved)
    (balanced_step inv.accepted (longer_of_zeroCopy inv.zeroCopy) moved) ?_ grows.freed
  rw [grows.handedIn, nothing, List.append_nil, inv.handedIn]

theorem mempoolAlloc_takes (state : TransportChannels.State) (home : Home) :
    ∃ pools blocks, (mempoolAlloc state home).2 = { state with pools := pools, blocks := blocks } := by
  cases home with
  | heap => exact ⟨state.pools, state.blocks + 1, rfl⟩
  | pool id =>
      simp only [mempoolAlloc]
      split
      · rename_i block rest free
        exact ⟨Function.update state.pools id rest, state.blocks, rfl⟩
      · exact ⟨state.pools, state.blocks + 1, rfl⟩

/-- What a transmit function does behind its checks: a block of the channel's is handed in. -/
theorem networkTx_cases {ifType : UInt8} {h : Option Nat} {bytes : List UInt8} {transportUp : Bool}
    (taken : networkTx config before ifType h bytes transportUp = some after) :
    ∃ channel home base block, channelAt before ifType = some channel ∧
      homeOf config channel.memp = some home ∧ Lends before base [⟨block, ifType, home⟩] ∧
      after = driven config base
        (callStep before.driver transportUp (networkFrame ifType before.loans.length bytes)) := by
  unfold networkTx at taken
  split at taken
  · cases taken
  · rename_i channel found
    split at taken
    · cases taken
    · split at taken
      · cases taken
      · rename_i home place
        obtain ⟨pools, blocks, takes⟩ := mempoolAlloc_takes before home
        dsimp only at taken
        rw [takes] at taken
        cases taken
        exact ⟨channel, home,
          { before with
            pools := pools, blocks := blocks
            loans := before.loans ++ [⟨(mempoolAlloc before home).1, ifType, home⟩] },
          (mempoolAlloc before home).1, found, place, ⟨pools, blocks, rfl⟩, rfl⟩

theorem inv_networkTx {ifType : UInt8} {h : Option Nat} {bytes : List UInt8} {transportUp : Bool}
    (inv : Inv config before)
    (taken : networkTx config before ifType h bytes transportUp = some after) : Inv config after := by
  obtain ⟨channel, home, base, block, found, place, lends, rfl⟩ := networkTx_cases taken
  have grows := @grows_call before.driver transportUp (networkFrame ifType before.loans.length bytes)
  have numbered : base.loans = before.loans ++ [⟨block, ifType, home⟩] := by
    obtain ⟨pools, blocks, rfl⟩ := lends
    rfl
  refine inv_driven inv lends ?_ ?_ ?_ (balanced_call before.driver transportUp _) ?_ grows.freed
  · intro loan member
    rw [List.mem_singleton.mp member]
    exact ⟨channel, found, place⟩
  · exact @lens_step config.driver _ _ (.call transportUp _) inv.accepted rfl
  · exact framesAll_call inv.zeroCopy transportUp _ fun _ => Or.inr rfl
  · rw [grows.handedIn, inv.handedIn, numbered, List.length_append, List.length_singleton,
      List.range_succ]
    rfl

section Table
variable {state : TransportChannels.State} {ifType other : UInt8} {channel : Channel}

theorem channelAt_some (found : channelAt state ifType = some channel) :
    ∃ address, state.chanArr ifType = some address ∧ state.channels[address]? = some channel := by
  unfold channelAt at found
  split at found
  · cases found
  · rename_i address here
    split at found
    · cases found
    · exact ⟨address, here, found⟩

theorem channelAt_of {address : Nat} (here : state.chanArr ifType = some address)
    (live : address ∉ state.freedChannels) : channelAt state ifType = state.channels[address]? := by
  simp only [channelAt, here, live, if_false]

/-- What `addChannel` makes of the channels. -/
def added (state : TransportChannels.State) (ifType : UInt8) (channel : Channel) (created : Nat) :
    TransportChannels.State :=
  { state with
    freedChannels := state.freedChannels ++ (state.chanArr ifType).toList
    chanArr := Function.update state.chanArr ifType (some state.channels.length)
    channels := state.channels ++ [channel]
    created := created }

theorem added_chanArr {new : Channel} {created address : Nat}
    (found : (added state ifType new created).chanArr other = some address) :
    other = ifType ∧ address = state.channels.length ∨
      other ≠ ifType ∧ state.chanArr other = some address := by
  by_cases same : other = ifType
  · rw [same] at found
    exact Or.inl ⟨same, Option.some.inj (found.symm.trans (Function.update_self ..))⟩
  · exact Or.inr ⟨same, (Function.update_of_ne same ..).symm.trans found⟩

theorem addresses_added (addresses : Addresses state) (new : Channel) (created : Nat) :
    Addresses (added state ifType new created) := by
  have longer : (added state ifType new created).channels.length = state.channels.length + 1 :=
    List.length_append
  have old : ∀ address ∈ (added state ifType new created).freedChannels,
      address ∈ state.freedChannels ∨ state.chanArr ifType = some address := fun address freed =>
    (List.mem_append.mp freed).imp_right Option.mem_toList.mp
  have below : ∀ address ∈ (added state ifType new created).freedChannels,
      address < state.channels.length := fun address freed =>
    (old address freed).elim (addresses.freed address) (addresses.known ifType address)
  refine ⟨?_, ?_, ?_, ?_⟩
  · intro other address found freed
    rcases added_chanArr found with ⟨_, rfl⟩ | ⟨apart, there⟩
    · exact absurd (below _ freed) (Nat.lt_irrefl _)
    · rcases old address freed with before | replaced
      · exact addresses.live other address there before
      · exact apart (addresses.apart other ifType address there replaced)
  · intro other address found
    rw [longer]
    rcases added_chanArr found with ⟨_, rfl⟩ | ⟨_, there⟩
    · exact Nat.lt_succ_self _
    · exact Nat.lt_succ_of_lt (addresses.known other address there)
  · intro first second address one two
    rcases added_chanArr one with ⟨rfl, rfl⟩ | ⟨_, there⟩
    · rcases added_chanArr two with ⟨rfl, _⟩ | ⟨_, also⟩
      · rfl
      · exact absurd (addresses.known second _ also) (Nat.lt_irrefl _)
    · rcases added_chanArr two with ⟨rfl, rfl⟩ | ⟨_, also⟩
      · exact absurd (addresses.known first _ there) (Nat.lt_irrefl _)
      · exact addresses.apart first second address there also
  · intro address freed
    rw [longer]
    exact Nat.lt_succ_of_lt (below address freed)

theorem added_same (addresses : Addresses state) (channel : Channel) (created : Nat) :
    channelAt (added state ifType channel created) ifType = some channel := by
  have here : (added state ifType channel created).chanArr ifType = some state.channels.length :=
    Function.update_self ..
  rw [channelAt_of here ((addresses_added addresses channel created).live _ _ here)]
  exact List.getElem?_concat_length

theorem added_other (addresses : Addresses state) (new : Channel) (created : Nat)
    (apart : other ≠ ifType) (found : channelAt state other = some channel) :
    channelAt (added state ifType new created) other = some channel := by
  obtain ⟨address, there, at_address⟩ := channelAt_some found
  have here : (added state ifType new created).chanArr other = some address :=
    (Function.update_of_ne apart ..).trans there
  rw [channelAt_of here ((addresses_added addresses new created).live _ _ here)]
  exact (List.getElem?_append_left (addresses.known other address there)).trans at_address

/-- What `removeChannel` makes of the channels. -/
def removed (state : TransportChannels.State) (ifType : UInt8) (address : Nat)
    (pools : Nat → List Nat) (destroyed : List Nat) : TransportChannels.State :=
  { state with
    freedChannels := state.freedChannels ++ [address]
    chanArr := Function.update state.chanArr ifType none
    pools := pools
    destroyed := destroyed }

section Removed
variable {address : Nat} {pools : Nat → List Nat} {destroyed : List Nat}

theorem removed_chanArr {found_address : Nat}
    (found : (removed state ifType address pools destroyed).chanArr other = some found_address) :
    other ≠ ifType ∧ state.chanArr other = some found_address := by
  by_cases same : other = ifType
  · rw [same] at found
    cases (Function.update_self (f := state.chanArr) ..).symm.trans found
  · exact ⟨same, (Function.update_of_ne same ..).symm.trans found⟩

theorem addresses_removed (addresses : Addresses state) (here : state.chanArr ifType = some address) :
    Addresses (removed state ifType address pools destroyed) := by
  refine ⟨?_, ?_, ?_, ?_⟩
  · intro other there found freed
    obtain ⟨apart, kept⟩ := removed_chanArr found
    rcases List.mem_append.mp freed with before | now
    · exact addresses.live other there kept before
    · rw [List.mem_singleton.mp now] at kept
      exact apart (addresses.apart other ifType address kept here)
  · intro other there found
    exact addresses.known other there (removed_chanArr found).2
  · intro first second there one two
    exact addresses.apart first second there (removed_chanArr one).2 (removed_chanArr two).2
  · intro there freed
    rcases List.mem_append.mp freed with before | now
    · exact addresses.freed there before
    · rw [List.mem_singleton.mp now]
      exact addresses.known ifType address here

theorem removed_other (addresses : Addresses state) (here : state.chanArr ifType = some address)
    (apart : other ≠ ifType) (found : channelAt state other = some channel) :
    channelAt (removed state ifType address pools destroyed) other = some channel := by
  obtain ⟨there, at_other, at_address⟩ := channelAt_some found
  have kept : (removed state ifType address pools destroyed).chanArr other = some there :=
    (Function.update_of_ne apart ..).trans at_other
  rw [channelAt_of kept ((addresses_removed addresses here).live _ _ kept)]
  exact at_address

end Removed

end Table

/-- The three things `transport_drv_add_channel` can do. -/
theorem addChannel_cases {apiChan : Option Nat} {ifType : UInt8} {functions created : Bool}
    (taken : addChannel config before apiChan ifType functions created = some after) :
    after = before ∨ functions = true ∧ ∃ channel count,
      after = added before ifType channel count ∧
        (count = before.created ∨ count = before.created + 1 ∧ channel.memp = some before.created) := by
  unfold addChannel at taken
  split at taken
  · cases taken
  · split at taken
    · cases taken
      exact Or.inl rfl
    · rename_i given
      refine Or.inr ⟨Decidable.not_not.mp given, ?_⟩
      dsimp only at taken
      cases pooled : (hasTx ifType && config.useMempool && created) with
      | false =>
          rw [pooled] at taken
          cases taken
          exact ⟨_, before.created, rfl, Or.inl rfl⟩
      | true =>
          rw [pooled] at taken
          cases taken
          refine ⟨_, before.created + 1, rfl, Or.inr ⟨rfl, ?_⟩⟩
          have tx : hasTx ifType = true :=
            (Bool.and_eq_true_iff.mp (Bool.and_eq_true_iff.mp pooled).1).1
          rw [if_pos tx]
          rfl

theorem homeOf_none {home : Home} (place : homeOf config none = some home) (memp : Option Nat) :
    homeOf config memp = some home := by
  unfold homeOf at place ⊢
  split at place
  · cases place
  · rename_i unpooled
    rw [if_neg unpooled]
    exact place

theorem inv_added {ifType : UInt8} {channel : Channel} {count : Nat} (inv : Inv config before)
    (unpooled : (channelAt before ifType).bind Channel.memp = none)
    (counted : count = before.created ∨
      count = before.created + 1 ∧ channel.memp = some before.created) :
    Inv config (added before ifType channel count) where
  accepted := inv.accepted
  zeroCopy := inv.zeroCopy
  ledger := inv.ledger
  handedIn := inv.handedIn
  freed := inv.freed
  backHome := inv.backHome
  found := inv.found
  addresses := addresses_added inv.addresses channel count
  awaited := by
    intro index loan lent held
    obtain ⟨old, found, place⟩ := inv.awaited index loan lent held
    by_cases same : loan.ifType = ifType
    · rw [same] at found
      rw [found, Option.bind_some] at unpooled
      rw [unpooled] at place
      refine ⟨channel, ?_, homeOf_none place _⟩
      rw [same]
      exact added_same inv.addresses channel count
    · exact ⟨old, added_other inv.addresses channel count same found, place⟩
  kept := by
    have older : ∀ id < before.created, Kept (added before ifType channel count) id := by
      intro id created
      rcases inv.kept id created with gone | ⟨other, holder, found, memp⟩
      · exact Or.inl gone
      · refine Or.inr ⟨other, holder, added_other inv.addresses channel count ?_ found, memp⟩
        rintro rfl
        rw [found, Option.bind_some, memp] at unpooled
        cases unpooled
    intro id created
    change id < count at created
    rcases counted with rfl | ⟨rfl, pool⟩
    · exact older id created
    · rcases Nat.lt_succ_iff_lt_or_eq.mp created with below | rfl
      · exact older id below
      · exact Or.inr ⟨ifType, channel, added_same inv.addresses channel _, pool⟩

theorem removeChannel_cases {address : Nat}
    (taken : removeChannel before (some address) = some after) :
    ∃ channel, before.channels[address]? = some channel ∧
      before.chanArr channel.ifType = some address ∧
      ∃ pools, after = removed before channel.ifType address pools
        (before.destroyed ++ channel.memp.toList) := by
  simp only [removeChannel] at taken
  split at taken
  · cases taken
  · rename_i channel known
    split at taken
    · cases taken
    · rename_i good
      rw [not_or, Decidable.not_not] at good
      cases taken
      exact ⟨channel, known, good.2, _, rfl⟩

theorem inv_removed {channel : Channel} {address : Nat} {pools : Nat → List Nat}
    (inv : Inv config before) (known : before.channels[address]? = some channel)
    (here : before.chanArr channel.ifType = some address)
    (idle : ¬ OnTheWay before channel.ifType) :
    Inv config (removed before channel.ifType address pools
      (before.destroyed ++ channel.memp.toList)) where
  accepted := inv.accepted
  zeroCopy := inv.zeroCopy
  ledger := inv.ledger
  handedIn := inv.handedIn
  freed := inv.freed
  backHome := inv.backHome
  found := inv.found
  addresses := addresses_removed inv.addresses here
  awaited := by
    intro index loan lent held
    obtain ⟨holder, found, place⟩ := inv.awaited index loan lent held
    refine ⟨holder, removed_other inv.addresses here ?_ found, place⟩
    intro same
    refine idle ⟨index, List.mem_range.mpr (List.getElem?_eq_some_iff.mp lent).1, held, ?_⟩
    rw [← same, show before.loans[index]? = some loan from lent, Option.map_some]
  kept := by
    intro id created
    rcases inv.kept id created with gone | ⟨other, holder, found, memp⟩
    · exact Or.inl (List.mem_append_left _ gone)
    · by_cases same : other = channel.ifType
      · obtain ⟨there, at_other, at_address⟩ := channelAt_some found
        rw [same, here] at at_other
        cases at_other
        rw [known] at at_address
        cases at_address
        exact Or.inl (List.mem_append_right _ (Option.mem_toList.mpr memp))
      · exact Or.inr ⟨other, holder, removed_other inv.addresses here same found, memp⟩

theorem inv_init : Inv config TransportChannels.init where
  accepted := ⟨nofun, fun _ => nofun, nofun⟩
  zeroCopy := ⟨nofun, fun _ => nofun, nofun⟩
  ledger := by
    intro wbuffer
    simp [TransportChannels.init, SpiDriver.init, holders, QueueBank.count, passOwns, weight]
  handedIn := rfl
  freed := rfl
  backHome := fun _ member => absurd member List.not_mem_nil
  found := rfl
  awaited := nofun
  addresses := ⟨nofun, nofun, nofun, fun _ member => absurd member List.not_mem_nil⟩
  kept := nofun

theorem inv_step {act : TransportChannels.Act} (inv : Inv config before)
    (settled : Settled before act) (taken : TransportChannels.step config before act = some after) :
    Inv config after := by
  cases act with
  | addChannel apiChan ifType functions created =>
      rcases addChannel_cases taken with rfl | ⟨given, channel, count, rfl, counted⟩
      · exact inv
      · exact inv_added inv (settled given) counted
  | removeChannel channel =>
      cases channel with
      | none =>
          cases taken
          exact inv
      | some address =>
          obtain ⟨channel, known, here, pools, rfl⟩ := removeChannel_cases taken
          exact inv_removed inv known here (settled channel known)
  | staTx h bytes transportUp =>
      simp only [TransportChannels.step, transportDrvStaTx] at taken
      split at taken
      · cases taken
        exact inv
      · split at taken
        · cases taken
          exact inv
        · exact inv_networkTx inv taken
  | apTx h bytes transportUp =>
      simp only [TransportChannels.step, transportDrvApTx] at taken
      split at taken
      · cases taken
        exact inv
      · exact inv_networkTx inv taken
  | otherTx frame transportUp =>
      simp only [TransportChannels.step] at taken
      split at taken
      · rename_i unfreed
        refine @inv_drive config before after (.call transportUp frame) inv unfreed ?_ taken
        intro _ _ same _
        cases same
        exact Or.inl unfreed
      · cases taken
  | put _ _ | postToSlave | postReady | handshakeIsr | dataReadyIsr | task _ =>
      exact inv_drive inv rfl (fun _ _ wrong => by cases wrong) taken

theorem Inv.intact {state : TransportChannels.State} (inv : Inv config state) : Intact state where
  found := inv.found
  backHome := inv.backHome
  once := by
    intro index inside
    have counted := inv.ledger index
    rw [inv.handedIn, List.count_eq_one_of_mem List.nodup_range (List.mem_range.mpr inside)] at counted
    rw [inv.freed]
    exact counted.symm
  kept := inv.kept

/-- While no channel with a pool is replaced and none is removed with a block of its interface
on its way, every block goes back to its own pool through a channel that is there, once, and no
pool is lost. -/
theorem blocks_go_home (config : TransportChannels.Config) (state : TransportChannels.State)
    (run : Run (TransportChannels.step config) Settled TransportChannels.init state) :
    Intact state := by
  have inv : Inv config state := by
    apply run.invariant
    · exact inv_init
    · intro before act after _ inv settled taken
      exact inv_step inv settled taken
  exact inv.intact

/-- Adds the station channel, sends a packet and makes the pass that takes it. -/
def stationPacket : List TransportChannels.Act :=
  [.addChannel (some 7) espStaIf true true, .staTx (some 7) [1, 2] true, .put 0 true, .postToSlave,
    .postReady]

def stationPass : List TransportChannels.Act :=
  [.task .go, .task (.sees true), .task (.sees false)] ++ List.replicate 7 (.task .go) ++
    [.task (.transfers none true), .task .go]

theorem twenty_in_range : 1 ≤ 20 ∧ 20 ≤ 32 := by decide

def pooled : TransportChannels.Config where
  driver := ⟨20, twenty_in_range⟩
  useMempool := true

theorem blocks_go_home_removed :
    ∃ state, state.returned = [(0, .pool 0)] ∧ state.destroyed = [0] ∧ Intact state := by
  obtain ⟨state, run, home⟩ := admitted_reaches (TransportChannels.step pooled) Settled
    TransportChannels.init (stationPacket ++ stationPass ++ [.removeChannel (some 0)])
    (fun state => state.returned = [(0, .pool 0)] ∧ state.destroyed = [0]) (by decide) (by decide)
  exact ⟨state, home.1, home.2, blocks_go_home pooled state run⟩

/-- With a new channel the block of pool 0 comes into pool 1 and pool 0 is lost; without one the
callback reads through NULL. -/
theorem blocks_go_home_fails :
    (∃ state, Run (TransportChannels.step pooled) unguarded TransportChannels.init state ∧
      state.loans = [⟨0, espStaIf, .pool 0⟩] ∧ state.returned = [(0, .pool 1)] ∧
      state.created = 2 ∧ state.destroyed = [] ∧
      (channelAt state espStaIf).bind Channel.memp = some 1) ∧
    ∃ state, Run (TransportChannels.step pooled) unguarded TransportChannels.init state ∧
      state.faults = [0] := by
  constructor
  · exact exec_reaches (TransportChannels.step pooled) TransportChannels.init
      (stationPacket ++ [.addChannel (some 8) espStaIf true true] ++ stationPass)
      (fun state => state.loans = [⟨0, espStaIf, .pool 0⟩] ∧ state.returned = [(0, .pool 1)] ∧
        state.created = 2 ∧ state.destroyed = [] ∧
        (channelAt state espStaIf).bind Channel.memp = some 1) (by decide)
  · exact exec_reaches (TransportChannels.step pooled) TransportChannels.init
      (stationPacket ++ [.removeChannel (some 0)] ++ stationPass)
      (fun state => state.faults = [0]) (by decide)

end EspHosted.ChannelPools

import EspHosted.RpcLifecycle

/-!
What a failed `rpc_core_init` leaves behind, and whether it can be called again after
`rpc_core_deinit`. The cleanup of a failed call is `rpc_core_deinit`, which does nothing before
the library is ready; and closing the serial interface frees the handle of the layer above,
but never unregisters the interface below, of which there is only one.
-/

namespace EspHosted.RpcRestart
open RpcLifecycle
open SerialReassembly (maxSerialIntf stmOk stmFail SerialLlState)

variable {os : Os} {before after state : State} {ret : Int}

section Frames
variable {ok : Bool} {object : Option Nat}

theorem create_some {made : Nat} (created : create ok before = (some made, after)) :
    ok = true ∧ made = before.created ∧ after.core = before.core ∧
      after.serialHandle = before.serialHandle ∧ after.drv = before.drv ∧ after.ll = before.ll := by
  cases ok with
  | false => cases created
  | true =>
      cases created
      exact ⟨rfl, rfl, rfl, rfl, rfl, rfl⟩

theorem create_none (refused : create ok before = (none, after)) : ok = false ∧ after = before := by
  cases ok with
  | false =>
      cases refused
      exact ⟨rfl, rfl⟩
  | true => cases refused

@[simp]
theorem create_core (ok : Bool) (state : State) : (create ok state).2.core = state.core := by
  cases ok <;> rfl

@[simp]
theorem create_ll (ok : Bool) (state : State) : (create ok state).2.ll = state.ll := by
  cases ok <;> rfl

@[simp]
theorem create_serialHandle (ok : Bool) (state : State) :
    (create ok state).2.serialHandle = state.serialHandle := by
  cases ok <;> rfl

end Frames

/-- Before the library is ready, deinit does nothing, so neither does the cleanup. -/
theorem freeBufs_inactive (inactive : state.core.libState = .inactive) :
    freeBufs os state = some (state, failure) := by
  simp [freeBufs, rpcCoreDeinit, inactive]

theorem serialLlInit_some {handle : Nat} (registered : serialLlInit os before = (some handle, after)) :
    before.ll.connNum + 1 < maxSerialIntf ∧ after.ll.connNum = before.ll.connNum + 1 ∧
      after.core = before.core ∧ after.serialHandle = before.serialHandle := by
  unfold serialLlInit at registered
  split at registered
  next room =>
    split at registered
    · cases registered
    · rename_i made state created
      obtain ⟨_, _, core, serialHandle, _, ll⟩ := create_some created
      cases registered
      exact ⟨room, by rw [ll], core, serialHandle⟩
  next full => cases registered

theorem serialLlOpen_frame (os : Os) (handle : Nat) (state : State) :
    (serialLlOpen os handle state).1.core = state.core ∧
      (serialLlOpen os handle state).1.serialHandle = state.serialHandle ∧
      ((serialLlOpen os handle state).2 = stmOk →
        (serialLlOpen os handle state).1.ll = state.ll) := by
  unfold serialLlOpen
  cases os.serialQueue with
  | true => exact ⟨rfl, rfl, fun _ => rfl⟩
  | false => exact ⟨rfl, rfl, fun wrong => by cases wrong⟩

/-- The interface is registered, unless there is one already. -/
theorem rpcPlatformInit_some (ran : rpcPlatformInit os before = some (after, ret)) :
    before.ll.connNum + 1 < maxSerialIntf ∧ after.core = before.core ∧
      after.serialHandle = before.serialHandle ∧
      (ret = success → after.ll.connNum = before.ll.connNum + 1) := by
  unfold rpcPlatformInit at ran
  split at ran
  · cases ran
  · rename_i sem middle created
    obtain ⟨_, _, core, serialHandle, _, ll⟩ := create_some created
    dsimp only at ran
    split at ran
    · cases ran
    · rename_i handle inited registered
      obtain ⟨room, connNum, core_kept, handle_kept⟩ := serialLlInit_some registered
      obtain ⟨core_open, handle_open, ll_open⟩ := serialLlOpen_frame os handle
        { inited with drv := { inited.drv with serialLlIf := some handle } }
      simp only [Option.some.injEq, Prod.mk.injEq] at ran
      obtain ⟨rfl, rfl⟩ := ran
      refine ⟨?_, ?_, ?_, ?_⟩
      · rw [← ll]
        exact room
      · rw [core_open, core_kept, core]
      · rw [handle_open, handle_kept, serialHandle]
      · intro opened
        split at opened
        next ok => rw [ll_open ok, connNum, ll]
        next failed => cases opened

theorem transportPserialClose_some (ran : transportPserialClose before = some (after, ret)) :
    after.core = before.core ∧ after.serialHandle = none ∧ after.ll = before.ll := by
  unfold transportPserialClose at ran
  split at ran
  · cases ran
  · cases ran
    exact ⟨rfl, rfl, rfl⟩

/-- A first opening needs a free interface, and takes it. -/
theorem transportPserialOpen_some (ran : transportPserialOpen os before = some (after, ret)) :
    after.core = before.core ∧ (before.serialHandle = none → ret = success →
      before.ll.connNum + 1 < maxSerialIntf ∧ after.ll.connNum = before.ll.connNum + 1) := by
  unfold transportPserialOpen at ran
  split at ran
  next opened =>
    cases ran
    refine ⟨rfl, fun none => ?_⟩
    rw [none] at opened
    cases opened
  next closed =>
    split at ran
    · rename_i middle refused
      cases ran
      obtain ⟨_, rfl⟩ := create_none refused
      exact ⟨rfl, fun _ wrong => by cases wrong⟩
    · rename_i handle middle made
      obtain ⟨_, _, core, _, _, ll⟩ := create_some made
      obtain ⟨⟨inited, code⟩, ran_init, rest⟩ := Option.bind_eq_some_iff.mp ran
      obtain ⟨room, core_kept, _, connNum⟩ := rpcPlatformInit_some ran_init
      simp only at rest
      split at rest
      next failed =>
        obtain ⟨⟨closing, closed_ret⟩, ran_close, same⟩ := Option.map_eq_some_iff.mp rest
        obtain ⟨core_close, _, _⟩ := transportPserialClose_some ran_close
        cases same
        refine ⟨by rw [core_close, core_kept, core], fun _ ok => absurd ok failed⟩
      next ok =>
        cases rest
        refine ⟨by rw [core_kept, core], fun _ opened => ?_⟩
        rw [← ll]
        exact ⟨room, connNum opened⟩

/-- Whatever fails behind it, the semaphore stays where it was put. -/
theorem startRpc_some (ran : startRpc os before = some (after, ret))
    (inactive : before.core.libState = .inactive) :
    after.core.rpcTxSem = before.core.rpcTxSem ∧
      (ret = success → after.core.libState = .ready ∧ after.ll = before.ll) := by
  unfold startRpc at ran
  dsimp only at ran
  split at ran
  next no_queue =>
    rw [freeBufs_inactive (by simpa using inactive)] at ran
    cases ran
    exact ⟨by simp, fun wrong => by cases wrong⟩
  next queues =>
    split at ran
    next no_thread =>
      rw [freeBufs_inactive (by simpa using inactive)] at ran
      cases ran
      exact ⟨by simp, fun wrong => by cases wrong⟩
    next threads =>
      cases ran
      exact ⟨by simp, fun _ => ⟨rfl, by simp⟩⟩

theorem rpcCoreInit_some (ran : rpcCoreInit os before = some (after, ret))
    (inactive : before.core.libState = .inactive) :
    after.core.rpcTxSem = (create os.txSem before).1 ∧
      (before.serialHandle = none → ret = success →
        before.ll.connNum + 1 < maxSerialIntf ∧ after.ll.connNum = before.ll.connNum + 1 ∧
          after.core.libState = .ready) := by
  unfold rpcCoreInit at ran
  dsimp only at ran
  split at ran
  next no_sem =>
    rw [freeBufs_inactive (by simpa using inactive)] at ran
    cases ran
    exact ⟨rfl, fun _ wrong => by cases wrong⟩
  next sem =>
    obtain ⟨⟨opened, code⟩, ran_open, rest⟩ := Option.bind_eq_some_iff.mp ran
    obtain ⟨core, connNum⟩ := transportPserialOpen_some ran_open
    have still : opened.core.libState = .inactive := by
      rw [core]
      simpa using inactive
    dsimp only at rest
    split at rest
    next failed =>
      rw [freeBufs_inactive still] at rest
      cases rest
      exact ⟨by rw [core], fun _ wrong => by cases wrong⟩
    next ok =>
      obtain ⟨kept, started⟩ := startRpc_some rest still
      refine ⟨by rw [kept, core], fun closed done => ?_⟩
      obtain ⟨ready, ll⟩ := started done
      obtain ⟨room, taken⟩ := connNum (by simpa using closed) (by simpa using ok)
      simp only [create_ll] at room taken
      exact ⟨room, by rw [ll, taken], ready⟩

/-- Deinit closes the upper layer and leaves the interface registered. -/
theorem rpcCoreDeinit_some (ran : rpcCoreDeinit os before = some (after, ret))
    (ready : before.core.libState = .ready) :
    after.core.libState = .inactive ∧ after.serialHandle = none ∧ after.ll = before.ll := by
  unfold rpcCoreDeinit at ran
  rw [if_neg (by simp [ready])] at ran
  dsimp only at ran
  obtain ⟨⟨closed, code⟩, ran_close, same⟩ := Option.map_eq_some_iff.mp ran
  obtain ⟨core, serialHandle, ll⟩ := transportPserialClose_some ran_close
  cases same
  refine ⟨?_, serialHandle, ?_⟩
  · rw [core]
    split <;> rfl
  · rw [ll]
    split <;> rfl

/-- The state of the module is as it was, and so are the objects that exist. -/
structure Restored (before after : State) : Prop where
  core : after.core = before.core
  serialHandle : after.serialHandle = before.serialHandle
  drv : after.drv = before.drv
  ll : after.ll = before.ll
  live : after.live = before.live

def Restores (before : State) (result : Option (State × Int)) : Prop :=
  ∃ after, result = some (after, failure) ∧ Restored before after

theorem restores_iff (os : Os) :
    Restores initial (rpcCoreInit os initial) ↔ os.txSem = false := by
  constructor
  · rintro ⟨after, ran, restored⟩
    have kept := (rpcCoreInit_some ran rfl).1
    rw [restored.core] at kept
    cases txSem : os.txSem with
    | false => rfl
    | true =>
        rw [txSem] at kept
        cases kept
  · intro txSem
    have nothing : rpcCoreInit os initial = some (initial, failure) := by
      simp [rpcCoreInit, create, txSem, freeBufs, rpcCoreDeinit, initial]
    exact ⟨initial, nothing, rfl, rfl, rfl, rfl, rfl⟩

/-- Closed again, but the one interface there is stays registered. -/
structure Closed (state : State) : Prop where
  inactive : state.core.libState = .inactive
  serialHandle : state.serialHandle = none
  registered : 0 < state.ll.connNum

theorem round_closes {up down : Os} {middle : State} (inactive : before.core.libState = .inactive)
    (closed : before.serialHandle = none) (opened : rpcCoreInit up before = some (middle, success))
    (released : rpcCoreDeinit down middle = some (after, ret)) : Closed after := by
  obtain ⟨_, connNum, ready⟩ := (rpcCoreInit_some opened inactive).2 closed rfl
  obtain ⟨inactive, serialHandle, ll⟩ := rpcCoreDeinit_some released ready
  refine ⟨inactive, serialHandle, ?_⟩
  rw [ll, connNum]
  exact Nat.succ_pos _

theorem closed_stays_closed (closed : Closed state) (os : Os) :
    ¬ Succeeds (rpcCoreInit os state) := by
  intro succeeds
  obtain ⟨⟨after, code⟩, ran, same⟩ := Option.map_eq_some_iff.mp succeeds
  obtain ⟨room, _⟩ := (rpcCoreInit_some ran closed.inactive).2 closed.serialHandle same
  have one := closed.registered
  have most : maxSerialIntf = 2 := rfl
  omega

theorem runRounds_closed {rounds : List (Os × Os)} (closed : Closed before)
    (ran : runRounds rounds before = some after) : after = before := by
  cases rounds with
  | nil =>
      cases ran
      rfl
  | cons round rest =>
      obtain ⟨up, down⟩ := round
      obtain ⟨⟨middle, code⟩, ran_init, later⟩ := Option.bind_eq_some_iff.mp ran
      dsimp only at later
      split at later
      next ok =>
        subst ok
        exact absurd (by rw [Succeeds, ran_init]; rfl) (closed_stays_closed closed up)
      next failed => cases later

theorem rounds_close {round : Os × Os} {rest : List (Os × Os)}
    (ran : runRounds (round :: rest) initial = some state) : Closed state := by
  obtain ⟨up, down⟩ := round
  obtain ⟨⟨middle, code⟩, ran_init, later⟩ := Option.bind_eq_some_iff.mp ran
  dsimp only at later
  split at later
  next ok =>
    subst ok
    obtain ⟨⟨released, code⟩, ran_deinit, others⟩ := Option.bind_eq_some_iff.mp later
    have closed := round_closes rfl rfl ran_init ran_deinit
    rw [runRounds_closed closed others]
    exact closed
  next failed => cases later

theorem initial_succeeds {os : Os} (allocates : os.Allocates) :
    Succeeds (rpcCoreInit os initial) := by
  obtain ⟨txSem, serialDrv, readSem, serialLl, serialQueue, rxQueue, txQueue, rxThread, txThread⟩ :=
    allocates
  simp only [Succeeds, rpcCoreInit, create, transportPserialOpen, serialDrvOpen, rpcPlatformInit,
    serialLlInit, serialLlOpen, startRpc, txSem, serialDrv, readSem, serialLl, serialQueue, rxQueue,
    txQueue, rxThread, txThread]
  rfl

def allocating : Os where
  txSem := true
  serialDrv := true
  readSem := true
  serialLl := true
  serialQueue := true
  rxQueue := true
  txQueue := true
  rxThread := true
  txThread := true
  semDestroyed := true
  threadsCancelled := true

theorem allocating_allocates : allocating.Allocates := ⟨rfl, rfl, rfl, rfl, rfl, rfl, rfl, rfl, rfl⟩

/-- A call that fails gives back what it created, and only that, when it created nothing; and
the library can be initialised again as long as it never was. -/
theorem rpc_restarts_iff (os : Os) (rounds : List (Os × Os)) :
    (¬ Succeeds (rpcCoreInit os initial) →
      (Restores initial (rpcCoreInit os initial) ↔ os.txSem = false)) ∧
      ∀ state, runRounds rounds initial = some state →
        ((∀ again : Os, again.Allocates → Succeeds (rpcCoreInit again state)) ↔ rounds = []) := by
  refine ⟨fun _ => restores_iff os, ?_⟩
  intro state ran
  cases rounds with
  | nil =>
      cases ran
      exact ⟨fun _ => rfl, fun _ again => initial_succeeds⟩
  | cons round rest =>
      refine ⟨fun restarts => ?_, fun wrong => by cases wrong⟩
      exact absurd (restarts allocating allocating_allocates)
        (closed_stays_closed (rounds_close ran) allocating)

/-- The last thread cannot be created and everything before it is left behind; and after one
round nothing fails, but the serial interface is still registered. -/
theorem rpc_does_not_restart :
    (¬ Succeeds (rpcCoreInit { allocating with txThread := false } initial) ∧
        ¬ Restores initial (rpcCoreInit { allocating with txThread := false } initial)) ∧
      ∃ state, runRounds [(allocating, allocating)] initial = some state ∧
        rpcCoreInit allocating state = none := by
  refine ⟨⟨by decide, ?_⟩, _, rfl, rfl⟩
  rintro ⟨after, ran, restored⟩
  cases ran
  cases restored.core

end EspHosted.RpcRestart

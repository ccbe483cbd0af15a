import EspHosted.ByteRing
import EspHosted.GuardedRun

/-!
The receive side of the virtual HCI device. `hci_rx_handler` puts each packet into the ring
buffer of the device, `rt_vhci_read` takes bytes out. A packet that does not fit is answered
with an error after the part that fits has been stored.
-/

namespace EspHosted.VhciStream
open ByteRing GuardedRun

def espOk : Int := 0
def espErrNoMem : Int := 257
def rtError : Int := 1

variable {capacity : Nat}

/-- What `hci_rx_handler` leaves behind; `rxIndicate` is the length it tells the callback. -/
structure Received (capacity : Nat) where
  ret : Int
  rb : Ring UInt8 capacity
  rxIndicate : Option Nat

/-- `rt_ringbuffer_put` asserts that there is a ring buffer. -/
def hciRxHandler (rb : Option (Ring UInt8 capacity)) (payload : List UInt8) :
    Option (Received capacity) :=
  rb.map fun rb =>
    let put := rb.put payload
    if put.2 ≠ payload.length then { ret := espErrNoMem, rb := put.1, rxIndicate := none }
    else
      let rxLength := put.1.items.length
      { ret := espOk, rb := put.1, rxIndicate := if rxLength ≠ 0 then some rxLength else none }

structure Read (capacity : Nat) where
  ret : Int
  rb : Option (Ring UInt8 capacity)
  buffer : List UInt8

def rtVhciRead (rb : Option (Ring UInt8 capacity)) (size : Nat) : Read capacity :=
  match rb with
  | none => { ret := -rtError, rb := none, buffer := [] }
  | some rb =>
      let readSize := rb.items.length
      if readSize = 0 then { ret := 0, rb := some rb, buffer := [] }
      else
        let dataLen := if size < readSize then size else readSize
        { ret := dataLen, rb := some (rb.get dataLen).1, buffer := (rb.get dataLen).2 }

inductive Call where
  | hciRx (payload : List UInt8)
  | vhciRead (size : Nat)

/-- The device, the bytes its reads have returned, and the packets it has accepted. -/
structure Dev (capacity : Nat) where
  rb : Option (Ring UInt8 capacity)
  returned : List UInt8
  packets : List (List UInt8)

def step (dev : Dev capacity) : Call → Option (Dev capacity)
  | .hciRx payload =>
      (hciRxHandler dev.rb payload).map fun got =>
        { dev with
          rb := some got.rb
          packets := if got.ret = espOk then dev.packets ++ [payload] else dev.packets }
  | .vhciRead size =>
      let read := rtVhciRead dev.rb size
      some { dev with rb := read.rb, returned := dev.returned ++ read.buffer }

/-- After `rt_vhci_open`. -/
def opened (capacity : Nat) : Dev capacity where
  rb := some Ring.empty
  returned := []
  packets := []

/-- The reader has seen whole packets, one after the other, and a part of the next. -/
def InStep (dev : Dev capacity) : Prop := dev.returned <+: dev.packets.flatten

/-- A packet that comes fits, or finds no room at all. -/
def Fits (dev : Dev capacity) : Call → Prop
  | .hciRx payload =>
      ∀ rb, dev.rb = some rb → payload.length ≤ rb.space ∨ rb.space = 0
  | .vhciRead _ => True

/-- Where the bytes of the accepted packets are. -/
structure Accounted (dev : Dev capacity) (rb : Ring UInt8 capacity) : Prop where
  here : dev.rb = some rb
  bytes : dev.returned ++ rb.items = dev.packets.flatten

section Steps
variable {dev after : Dev capacity} {rb : Ring UInt8 capacity} {payload : List UInt8}

/-- What a read does, whatever its size. -/
theorem read_step (here : dev.rb = some rb) (size : Nat) :
    step dev (.vhciRead size) =
      some { dev with
        rb := some (rb.get (min size rb.items.length)).1
        returned := dev.returned ++ (rb.get (min size rb.items.length)).2 } := by
  simp only [step, rtVhciRead, here]
  by_cases none : rb.items.length = 0
  · have nothing : min size rb.items.length = 0 := by omega
    rw [if_pos none, nothing]
    rfl
  · have least : (if size < rb.items.length then size else rb.items.length) =
        min size rb.items.length := by
      split <;> omega
    rw [if_neg none, least]

theorem rx_step (here : dev.rb = some rb) :
    step dev (.hciRx payload) =
      some { dev with
        rb := some (rb.put payload).1
        packets := if payload.length ≤ rb.space then dev.packets ++ [payload] else dev.packets } := by
  simp only [step, hciRxHandler, here, Option.map_some]
  by_cases whole : payload.length ≤ rb.space
  · have count := rb.put_count_iff.mpr whole
    rw [if_neg (not_not_intro count), if_pos whole]
    rfl
  · have count : (rb.put payload).2 ≠ payload.length := fun same => whole (rb.put_count_iff.mp same)
    rw [if_pos count, if_neg whole]
    rfl

theorem step_open (here : dev.rb = some rb) (call : Call) :
    ∃ after rb', step dev call = some after ∧ after.rb = some rb' := by
  cases call with
  | hciRx payload => exact ⟨_, _, rx_step here, rfl⟩
  | vhciRead size => exact ⟨_, _, read_step here size, rfl⟩

/-- Every byte of the accepted packets has been returned or waits in the ring buffer. -/
def Kept (dev : Dev capacity) : Prop := ∃ rb, Accounted dev rb

/-- A step that fits keeps account of every byte. -/
theorem accounted_step {call : Call} (account : Accounted dev rb) (fits : Fits dev call)
    (taken : step dev call = some after) : Kept after := by
  cases call with
  | hciRx payload =>
      rw [rx_step account.here] at taken
      cases taken
      refine ⟨(rb.put payload).1, rfl, ?_⟩
      by_cases whole : payload.length ≤ rb.space
      · rw [(rb.put_whole whole).1]
        simp only [if_pos whole]
        rw [List.flatten_append, ← account.bytes, List.flatten_singleton, List.append_assoc]
      · have full := (fits rb account.here).resolve_left whole
        rw [(rb.put_full full).1]
        simp only [if_neg whole]
        exact account.bytes
  | vhciRead size =>
      rw [read_step account.here] at taken
      cases taken
      refine ⟨_, rfl, ?_⟩
      simp only
      rw [List.append_assoc, Ring.get_conserves]
      exact account.bytes

/-- More bytes were stored than the accepted packets have. -/
structure Heavy (extra : Nat) (dev : Dev capacity) (rb : Ring UInt8 capacity) : Prop where
  here : dev.rb = some rb
  more : dev.packets.flatten.length + extra ≤ dev.returned.length + rb.items.length

theorem heavy_step {extra : Nat} {call : Call} (heavy : Heavy extra dev rb)
    (taken : step dev call = some after) : ∃ rb', Heavy extra after rb' := by
  have more := heavy.more
  cases call with
  | hciRx payload =>
      rw [rx_step heavy.here] at taken
      cases taken
      refine ⟨(rb.put payload).1, rfl, ?_⟩
      by_cases whole : payload.length ≤ rb.space
      · rw [(rb.put_whole whole).1]
        simp only [if_pos whole, List.flatten_append, List.flatten_singleton, List.length_append]
        omega
      · rw [(rb.put_cut (Nat.lt_of_not_le whole)).1]
        simp only [if_neg whole]
        omega
  | vhciRead size =>
      rw [read_step heavy.here] at taken
      cases taken
      refine ⟨_, rfl, ?_⟩
      have kept := congrArg List.length (rb.get_conserves (min size rb.items.length))
      rw [List.length_append] at kept
      simp only [List.length_append]
      omega

/-- A packet that is cut leaves bytes no accepted packet has. -/
theorem heavy_cut {call : Call} (heavy : Heavy 0 dev rb) (cut : ¬ Fits dev call)
    (taken : step dev call = some after) : ∃ rb', Heavy 1 after rb' := by
  have more := heavy.more
  cases call with
  | vhciRead size => exact absurd trivial cut
  | hciRx payload =>
      have long : rb.space < payload.length ∧ rb.space ≠ 0 := by
        refine ⟨Nat.lt_of_not_le fun whole => cut ?_, fun full => cut ?_⟩
        · intro other here
          rw [heavy.here] at here
          cases here
          exact Or.inl whole
        · intro other here
          rw [heavy.here] at here
          cases here
          exact Or.inr full
      rw [rx_step heavy.here] at taken
      cases taken
      refine ⟨(rb.put payload).1, rfl, ?_⟩
      rw [(rb.put_cut long.1).1]
      simp only [if_neg (Nat.not_le_of_lt long.1)]
      omega

end Steps

section Runs
variable {dev after : Dev capacity} {rb : Ring UInt8 capacity}

theorem exec_open (calls : List Call) (here : dev.rb = some rb) :
    ∃ after rb', exec step dev calls = some after ∧ after.rb = some rb' := by
  induction calls generalizing dev rb with
  | nil => exact ⟨dev, rb, rfl, here⟩
  | cons call rest ih =>
      obtain ⟨next, rb', taken, open_next⟩ := step_open here call
      obtain ⟨after, rb'', result, open_after⟩ := ih open_next
      refine ⟨after, rb'', ?_, open_after⟩
      rw [exec, taken, Option.bind_some]
      exact result

theorem exec_heavy {extra : Nat} (calls : List Call) (heavy : Heavy extra dev rb)
    (result : exec step dev calls = some after) : ∃ rb', Heavy extra after rb' := by
  induction calls generalizing dev rb with
  | nil =>
      cases result
      exact ⟨rb, heavy⟩
  | cons call rest ih =>
      obtain ⟨next, taken, later⟩ := Option.bind_eq_some_iff.mp result
      obtain ⟨rb', heavy_next⟩ := heavy_step heavy taken
      exact ih heavy_next later

/-- A run in which some packet is cut ends heavy. -/
theorem cut_heavy (calls : List Call) (heavy : Heavy 0 dev rb)
    (cut : ¬ Admits step Fits dev calls) (result : exec step dev calls = some after) :
    ∃ rb', Heavy 1 after rb' := by
  induction calls generalizing dev rb with
  | nil => exact absurd trivial cut
  | cons call rest ih =>
      obtain ⟨next, taken, later⟩ := Option.bind_eq_some_iff.mp result
      by_cases fits : Fits dev call
      · obtain ⟨rb', heavy_next⟩ := heavy_step heavy taken
        refine ih heavy_next (fun admitted => cut ⟨fits, ?_⟩) later
        rw [taken]
        exact admitted
      · obtain ⟨rb', heavy_next⟩ := heavy_cut heavy fits taken
        exact exec_heavy rest heavy_next later

/-- A heavy device that is read to its end has returned too much. -/
theorem drained_out_of_step (heavy : Heavy 1 dev rb)
    (taken : step dev (.vhciRead rb.items.length) = some after) : ¬ InStep after := by
  rw [read_step heavy.here, Nat.min_self, Ring.get_all] at taken
  cases taken
  intro in_step
  have more := heavy.more
  have short := in_step.length_le
  rw [List.length_append] at short
  simp only at short
  omega

theorem kept_opened : Kept (opened capacity) := ⟨Ring.empty, rfl, rfl⟩

theorem kept_run (run : Run step Fits (opened capacity) after) : Kept after := by
  apply run.invariant kept_opened
  rintro before call after _ ⟨rb, account⟩ fits taken
  exact accounted_step account fits taken

theorem in_step_run (run : Run step Fits (opened capacity) after) : InStep after := by
  obtain ⟨rb, account⟩ := kept_run run
  exact ⟨rb.items, account.bytes⟩

theorem reads_admitted (sizes : List Nat) :
    Admits step Fits dev (sizes.map Call.vhciRead) := by
  induction sizes generalizing dev with
  | nil => trivial
  | cons size rest ih =>
      refine ⟨trivial, ?_⟩
      split
      · trivial
      · exact ih

end Runs

/-- The reader stays in step, however it goes on reading, just when every packet found room or
none at all. -/
theorem vhci_stream_iff (capacity : Nat) (calls : List Call) :
    (∀ sizes : List Nat, ∃ after,
      exec step (opened capacity) (calls ++ sizes.map Call.vhciRead) = some after ∧ InStep after) ↔
    Admits step Fits (opened capacity) calls := by
  obtain ⟨mid, rb, result, here⟩ := exec_open calls (rfl : (opened capacity).rb = some Ring.empty)
  constructor
  · intro always
    by_contra cut
    have light : Heavy 0 (opened capacity) Ring.empty := { here := rfl, more := Nat.le_refl 0 }
    obtain ⟨rb', heavy⟩ := cut_heavy calls light cut result
    obtain ⟨after, whole, in_step⟩ := always [rb'.items.length]
    rw [exec_append, result, Option.bind_some] at whole
    obtain ⟨last, taken, ended⟩ := Option.bind_eq_some_iff.mp whole
    cases ended
    exact drained_out_of_step heavy taken in_step
  · intro admitted sizes
    obtain ⟨after, _, read, _⟩ := exec_open (sizes.map Call.vhciRead) here
    refine ⟨after, ?_, ?_⟩
    · rw [exec_append, result]
      exact read
    · have run := admitted_run calls admitted result
      exact in_step_run (admitted_run_from _ run (reads_admitted sizes) read)

/-- Three bytes come where there is room for two, and are read. -/
theorem vhci_stream_out_of_step :
    ¬ ∀ (capacity : Nat) (calls : List Call) (after : Dev capacity),
      exec step (opened capacity) calls = some after → InStep after := by
  intro always
  have in_step := always 2 [.hciRx [4, 14, 4], .vhciRead 8] _ rfl
  have short := in_step.length_le
  exact absurd short (by decide)

end EspHosted.VhciStream

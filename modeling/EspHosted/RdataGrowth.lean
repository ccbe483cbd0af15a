import EspHosted.AccumulatorBlocks

/-!
How `r.data` is made to grow. `hosted_realloc` is not told the size of the old block and
copies as many bytes as the new one has, so that what it reads of the old block is right and
what it reads behind it depends on how the two sizes compare. `size_t` is `uint32_t` on the
host, as is the size of `hosted_memcpy`.
-/

namespace EspHosted.RdataGrowth
open SpiFrames AccumulatorBlocks
open SerialReassembly (Env SerialLlHandle)

/-- How many bytes `hosted_realloc` reads, from the first byte of the old block on. -/
def reallocReads (ok : Bool) (newsize : Nat) : Nat :=
  if newsize = 0 then 0 else if ok then newsize else 0

/-- `new` is the block that is returned, if any. -/
structure Realloc where
  new : Option (List UInt8)
  oldFreed : Bool
  reads : Nat

/-- `hosted_realloc` of a live block; behind the old bytes the copy has what is there. -/
def hostedRealloc (env : Env) (old : List UInt8) (newsize : Nat) : Realloc where
  new := SerialReassembly.hostedRealloc env old newsize
  oldFreed := if newsize = 0 then true else env.dataAlloc
  reads := reallocReads env.dataAlloc newsize

/-- What a caller may expect of the reallocation of a live block. -/
structure Grows (env : Env) (old : List UInt8) (newsize : Nat) : Prop where
  refused : (hostedRealloc env old newsize).new = none →
    ((hostedRealloc env old newsize).oldFreed = true ↔ newsize = 0)
  moved : ∀ block, (hostedRealloc env old newsize).new = some block →
    block.length = newsize ∧ (hostedRealloc env old newsize).oldFreed = true ∧
      block.take (min old.length newsize) = old.take (min old.length newsize)
  inside : (hostedRealloc env old newsize).reads ≤ old.length

/-- What `SERIAL_ALLOC_REALLOC_RDATA` reads of `r.data` in this call. -/
def rdataReads (state : State) (call : Call) : Nat :=
  match usable call, state.data with
  | some _, some _ =>
      reallocReads call.env.dataAlloc (state.len + call.buf.payloadLen.toNat)
  | _, _ => 0

def stateAfter (calls : List Call) : State :=
  calls.foldl (fun state call => (receive state call).1) init

/-- Every call of the sequence reads the bytes received before it, and no others. -/
def ReadsReceived (calls : List Call) : Prop :=
  ∀ before call after, calls = before ++ call :: after →
    rdataReads (stateAfter before) call ≤ (stateAfter before).len

/-- A call that would collect a payload finds `r.data` NULL or gets no memory. -/
def NeverGrows (calls : List Call) : Prop :=
  ∀ before call after, calls = before ++ call :: after →
    usable call = none ∨ (stateAfter before).data = none ∨ call.env.dataAlloc = false

theorem reallocReads_pos {newsize : Nat} (positive : newsize ≠ 0) :
    reallocReads true newsize = newsize := by
  rw [reallocReads, if_neg positive, if_pos rfl]

theorem reallocReads_failed (newsize : Nat) : reallocReads false newsize = 0 := by
  unfold reallocReads
  split <;> rfl

variable {env : Env} {old : List UInt8} {newsize : Nat}

theorem realloc_refused (none : (hostedRealloc env old newsize).new = none) :
    (hostedRealloc env old newsize).oldFreed = true ↔ newsize = 0 := by
  simp only [hostedRealloc, SerialReassembly.hostedRealloc] at none ⊢
  by_cases zero : newsize = 0
  · simp only [zero, if_true]
  · rw [if_neg zero] at none ⊢
    cases ok : env.dataAlloc with
    | true =>
        rw [ok] at none
        cases none
    | false => exact ⟨fun wrong => (by cases wrong), fun wrong => absurd wrong zero⟩

/-- The new block begins with the old one, as far as it goes. -/
theorem realloc_moved {block : List UInt8} (moved : (hostedRealloc env old newsize).new = some block) :
    block.length = newsize ∧ (hostedRealloc env old newsize).oldFreed = true ∧
      block.take (min old.length newsize) = old.take (min old.length newsize) := by
  simp only [hostedRealloc, SerialReassembly.hostedRealloc] at moved ⊢
  by_cases zero : newsize = 0
  · rw [if_pos zero] at moved
    cases moved
  · rw [if_neg zero] at moved
    cases ok : env.dataAlloc with
    | false =>
        rw [ok] at moved
        cases moved
    | true =>
        rw [ok] at moved
        cases moved
        refine ⟨by simp, by rw [if_neg zero], ?_⟩
        apply List.ext_getElem
        · simp
        · intro index _ inside
          have bounded : index < min old.length newsize := by
            rw [List.length_take] at inside
            omega
          have in_old : index < old.length := by omega
          simp [in_old]

theorem realloc_inside (env : Env) (old : List UInt8) (newsize : Nat) :
    (hostedRealloc env old newsize).reads ≤ old.length ↔
      newsize = 0 ∨ env.dataAlloc = false ∨ newsize ≤ old.length := by
  simp only [hostedRealloc]
  by_cases zero : newsize = 0
  · rw [zero]
    exact ⟨fun _ => Or.inl rfl, fun _ => Nat.zero_le _⟩
  cases ok : env.dataAlloc with
  | false =>
      rw [reallocReads_failed]
      exact ⟨fun _ => Or.inr (Or.inl rfl), fun _ => Nat.zero_le _⟩
  | true =>
      rw [reallocReads_pos zero]
      exact ⟨fun fits => Or.inr (Or.inr fits), fun either => by
        rcases either with wrong | wrong | fits
        · exact absurd wrong zero
        · cases wrong
        · exact fits⟩

/-- A fragment that follows another one makes the copy run over the old block by as many bytes
as the fragment has. -/
theorem rdataReads_grown {state : State} {call : Call} {mem : Nat} {handle : SerialLlHandle}
    (found : usable call = some handle) (data : state.data = some mem)
    (ok : call.env.dataAlloc = true) :
    rdataReads state call = state.len + call.buf.payloadLen.toNat ∧
      0 < call.buf.payloadLen.toNat := by
  have some_bytes := usable_some found
  simp only [rdataReads, found, data, ok]
  rw [reallocReads_pos (by omega)]
  exact ⟨rfl, Nat.pos_of_ne_zero some_bytes⟩

theorem rdataReads_received (state : State) (call : Call) :
    rdataReads state call ≤ state.len ↔
      usable call = none ∨ state.data = none ∨ call.env.dataAlloc = false := by
  cases found : usable call with
  | none => simp [rdataReads, found]
  | some handle =>
      cases data : state.data with
      | none => simp [rdataReads, found, data]
      | some mem =>
          cases ok : call.env.dataAlloc with
          | false => simp [rdataReads, found, data, ok, reallocReads_failed]
          | true =>
              obtain ⟨reads, positive⟩ := rdataReads_grown found data ok
              rw [reads]
              constructor
              · intro fits
                omega
              · rintro (wrong | wrong | wrong) <;> cases wrong

/-- A block is reallocated as promised exactly if it does not grow, and a sequence of frames
only reads what it received exactly if `r.data` never grows. -/
theorem growth_iff (env : Env) (old : List UInt8) (newsize : Nat) (calls : List Call) :
    (Grows env old newsize ↔ newsize = 0 ∨ env.dataAlloc = false ∨ newsize ≤ old.length) ∧
      (ReadsReceived calls ↔ NeverGrows calls) := by
  refine ⟨⟨fun grows => ?_, fun small => ?_⟩, fun received => ?_, fun never => ?_⟩
  · exact (realloc_inside env old newsize).mp grows.inside
  · exact
      { refused := realloc_refused
        moved := fun _ moved => realloc_moved moved
        inside := (realloc_inside env old newsize).mpr small }
  · intro before call after shape
    exact (rdataReads_received _ call).mp (received before call after shape)
  · intro before call after shape
    exact (rdataReads_received _ call).mpr (never before call after shape)

/-- One byte grown to two; and two fragments of one byte. -/
theorem growth_fails :
    ¬ (∀ (env : Env) (old : List UInt8) (newsize : Nat), Grows env old newsize) ∧
      ¬ ∀ calls : List Call, ReadsReceived calls := by
  constructor
  · intro grows
    exact absurd (grows allSucceed [7] 2).inside (by decide)
  · intro received
    exact absurd (received [fragmentCall, lastCall] [fragmentCall] lastCall [] rfl) (by decide)

end EspHosted.RdataGrowth

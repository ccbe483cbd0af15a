import EspHosted.GuardedRun
import EspHosted.OtaRounds
import EspHosted.TimeoutTicks

/-!
`print_progress` as the two updates call it. It divides by the size of the image and by the ticks
since its last report, which it keeps in static variables. A call with the full size reports
however little time has passed, and a finished update ends with two of them.
-/

namespace EspHosted.OtaProgress
open GuardedRun OtaUpdate TimeoutTicks

/-- `RT_TICK_PER_SECOND`, and the conversion of a kernel with that rate. -/
structure Clock where
  rate : Nat
  kernel : Kernel rate
  positive : 0 < rate
  small : rate < 42949672

/-- A call with the tick that it reads. -/
structure Call where
  curSize : UInt32
  tick : UInt32

structure Statics where
  lastTick : UInt32
  dataRate : UInt32
  lastSize : UInt32

/-- What is printed. -/
structure Line where
  progressSign : List Char
  per : UInt8
  curSize : UInt32
  kiloBytes : UInt32

def progressSign (per : UInt8) : List Char :=
  (List.range 50).map fun i =>
    if i < per.toNat / 2 then '=' else if per.toNat / 2 = i then '>' else ' '

variable (clock : Clock)

def Clock.tenth : UInt32 := clock.kernel.rtTickFromMillisecond 100
def Clock.second : UInt32 := clock.kernel.rtTickFromMillisecond 1000

/-- What a call keeps in its static variables when it reports. -/
def report (statics : Statics) (call : Call) (elapsed : UInt32) : Statics where
  lastTick := call.tick
  dataRate :=
    (statics.dataRate * 3 + (call.curSize - statics.lastSize) * clock.second / elapsed) / 4
  lastSize := call.curSize

/-- A call with nothing written yet begins anew. -/
def restart (statics : Statics) (call : Call) : Statics :=
  if call.curSize = 0 then { lastTick := 0, dataRate := 0, lastSize := 0 } else statics

/-- `none` is a division by zero. -/
def printProgress (totalSize : UInt32) (statics : Statics) (call : Call) :
    Option (Statics × Option Line) :=
  if totalSize = 0 then none
  else
    let per := UInt8.ofNat (call.curSize.toNat * 100 / totalSize.toNat)
    let statics := restart statics call
    let elapsed := call.tick - statics.lastTick
    if clock.tenth ≤ elapsed ∨ call.curSize = totalSize then
      if elapsed = 0 then none
      else
        let statics := report clock statics call elapsed
        let per := if per > 100 then 100 else per
        some (statics,
          some { progressSign := progressSign per, per := per, curSize := call.curSize,
                 kiloBytes := statics.dataRate / 1024 })
    else some (statics, none)

def step (totalSize : UInt32) (statics : Statics) (call : Call) : Option Statics :=
  (printProgress clock totalSize statics call).map Prod.fst

/-- The `cur_size` of the calls in the loop of `esp_hosted_ota_local` and behind it. A block is
reported before it is read. -/
def fileSizes (fileSize : UInt32) (rounds : List FileRound) (writeTotal : UInt32) : List UInt32 :=
  if writeTotal < fileSize then
    let readLen := blockLen fileSize writeTotal
    (writeTotal + readLen) ::
      match rounds with
      | [] => []
      | round :: rounds =>
          if round.read < readLen.toNat ∨ round.write ≠ espOk then []
          else fileSizes fileSize rounds (writeTotal + readLen)
  else [writeTotal]

/-- The same of `esp_hosted_ota_http`, where a block is reported when it was read. -/
def webSizes (contentLength : UInt32) : List WebRound → UInt32 → List UInt32
  | [], writeTotal => [writeTotal]
  | round :: rounds, writeTotal =>
      if writeTotal < contentLength then
        let readLen := UInt32.ofNat round.read.readLen
        if 0 < readLen then
          (writeTotal + readLen) ::
            if round.write ≠ espOk then []
            else webSizes contentLength rounds (writeTotal + readLen)
        else [writeTotal]
      else [writeTotal]

/-- An update behind a successful `rpc_ota_begin`. -/
inductive Update where
  | file (fileSize : UInt32) (rounds : List FileRound)
  | web (contentLength : Int32) (rounds : List WebRound)

def Update.totalSize : Update → UInt32
  | .file fileSize _ => fileSize
  | .web contentLength _ => contentLength.toUInt32

/-- A web session that does not know its length reports nothing. -/
def Update.sizes : Update → List UInt32
  | .file fileSize rounds => 0 :: fileSizes fileSize rounds 0
  | .web contentLength rounds =>
      if contentLength.toInt < 0 then [] else 0 :: webSizes contentLength.toUInt32 rounds 0

/-- The calls of an update, with the tick that each reads. -/
def Update.calls (update : Update) (ticks : Nat → UInt32) : List Call :=
  update.sizes.zipIdx.map fun sized => { curSize := sized.1, tick := ticks sized.2 }

def Defined (totalSize : UInt32) (statics : Statics) (calls : List Call) : Prop :=
  (exec (step clock totalSize) statics calls).isSome

/-- The tick of the last report behind a call, from the one before it. -/
def reported (totalSize : UInt32) (last : UInt32) (call : Call) : UInt32 :=
  let last := if call.curSize = 0 then 0 else last
  if clock.tenth ≤ call.tick - last ∨ call.curSize = totalSize then call.tick else last

/-- The tick of the last report of these calls, 0 if there was none. -/
def lastReport (totalSize : UInt32) (calls : List Call) : UInt32 :=
  calls.foldl (reported clock totalSize) 0

/-- Every call with the full size comes in a later tick than the report before it. -/
def Apart (totalSize : UInt32) (calls : List Call) : Prop :=
  ∀ before call after, calls = before ++ call :: after → call.curSize = totalSize →
    call.tick ≠ lastReport clock totalSize before

variable {clock} {totalSize : UInt32} {statics : Statics} {call : Call}

/-- A tenth of a second is at least a tick, since the kernel rounds up. -/
theorem tenth_ne_zero : clock.tenth ≠ 0 := by
  intro none
  have positive := clock.positive
  have small := clock.small
  have hundred : (100 : Int32).toInt = 100 := rfl
  have rounded := clock.kernel.rounded 100 (by decide) (by rw [hundred]; omega)
  have zero : ((0 : UInt32).toNat : Int) = 0 := rfl
  rw [Clock.tenth] at none
  rw [none, zero, hundred] at rounded
  omega

theorem sub_eq_zero_iff (tick last : UInt32) : tick - last = 0 ↔ tick = last := by
  constructor
  · intro same
    rw [← UInt32.sub_add_cancel tick last, same, UInt32.zero_add]
  · rintro rfl
    exact UInt32.sub_self tick

/-- What a call takes not to divide by zero. -/
def Divides (totalSize last : UInt32) (call : Call) : Prop :=
  totalSize ≠ 0 ∧ (call.curSize = totalSize → call.tick ≠ last)

/-- The tick that the elapsed time is taken from. -/
def base (last : UInt32) (call : Call) : UInt32 := if call.curSize = 0 then 0 else last

theorem base_full {last : UInt32} (some_size : totalSize ≠ 0) (full : call.curSize = totalSize) :
    base last call = last := by
  rw [← full] at some_size
  exact if_neg some_size

theorem restart_lastTick : (restart statics call).lastTick = base statics.lastTick call := by
  rw [restart, base]
  split <;> rfl

/-- A call with an image that has a size. -/
theorem step_eq (some_size : totalSize ≠ 0) :
    step clock totalSize statics call =
      if clock.tenth ≤ call.tick - base statics.lastTick call ∨ call.curSize = totalSize then
        if call.tick - base statics.lastTick call = 0 then none
        else
          some (report clock (restart statics call) call
            (call.tick - base statics.lastTick call))
      else some (restart statics call) := by
  rw [step, printProgress, if_neg some_size]
  simp only [restart_lastTick]
  split
  · split <;> rfl
  · rfl

theorem step_divides (divides : Divides totalSize statics.lastTick call) :
    ∃ after, step clock totalSize statics call = some after ∧
      after.lastTick = reported clock totalSize statics.lastTick call := by
  obtain ⟨some_size, later⟩ := divides
  rw [step_eq some_size, reported, ← base]
  by_cases reports :
      clock.tenth ≤ call.tick - base statics.lastTick call ∨ call.curSize = totalSize
  · have elapsed : call.tick - base statics.lastTick call ≠ 0 := by
      intro zero
      rcases reports with long | full
      · rw [zero] at long
        exact tenth_ne_zero (UInt32.le_zero_iff.mp long)
      · rw [base_full some_size full, sub_eq_zero_iff] at zero
        exact later full zero
    rw [if_pos reports, if_neg elapsed, if_pos reports]
    exact ⟨_, rfl, rfl⟩
  · rw [if_neg reports, if_neg reports]
    exact ⟨_, rfl, restart_lastTick⟩

theorem step_stops (stops : ¬ Divides totalSize statics.lastTick call) :
    step clock totalSize statics call = none := by
  by_cases some_size : totalSize ≠ 0
  · have full : call.curSize = totalSize := by
      by_contra part
      exact stops ⟨some_size, fun full => absurd full part⟩
    have early : call.tick = statics.lastTick := by
      by_contra later
      exact stops ⟨some_size, fun _ => later⟩
    rw [step_eq some_size, if_pos (Or.inr full), base_full some_size full,
      if_pos ((sub_eq_zero_iff _ _).mpr early)]
  · rw [step, printProgress, if_pos (not_not.mp some_size)]
    rfl

/-- The calls divide by no zero exactly if each of them does not, behind the reports before. -/
theorem defined_iff (calls : List Call) :
    Defined clock totalSize statics calls ↔
      ∀ before call after, calls = before ++ call :: after →
        Divides totalSize (before.foldl (reported clock totalSize) statics.lastTick) call := by
  induction calls generalizing statics with
  | nil =>
      refine iff_of_true rfl fun before call after shape => ?_
      exact absurd shape.symm (List.append_ne_nil_of_right_ne_nil before (List.cons_ne_nil _ _))
  | cons first rest ih =>
      by_cases divides : Divides totalSize statics.lastTick first
      · obtain ⟨after, taken, last⟩ := @step_divides clock _ _ _ divides
        rw [Defined, exec, taken, Option.bind_some, ← Defined, ih, last]
        constructor
        · intro each before call after shape
          cases before with
          | nil =>
              cases shape
              exact divides
          | cons head before =>
              cases shape
              exact each before call after rfl
        · intro each before call after shape
          exact each (first :: before) call after (by rw [shape, List.cons_append])
      · rw [Defined, exec, step_stops divides, Option.bind_none]
        refine iff_of_false (fun defined => absurd defined Bool.false_ne_true) fun each => ?_
        exact divides (each [] first rest rfl)

/-- The first call of an update forgets what was reported before it. -/
theorem lastReport_first {first : Call} (fresh : first.curSize = 0) (before : List Call)
    (last : UInt32) :
    (first :: before).foldl (reported clock totalSize) last =
      lastReport clock totalSize (first :: before) := by
  rw [lastReport, List.foldl_cons, List.foldl_cons, reported, reported, if_pos fresh, if_pos fresh]

theorem calls_first {update : Update} {ticks : Nat → UInt32} {first : Call} {rest : List Call}
    (calls : update.calls ticks = first :: rest) : first.curSize = 0 := by
  cases update with
  | file fileSize rounds =>
      cases calls
      rfl
  | web contentLength rounds =>
      by_cases unknown : contentLength.toInt < 0
      · rw [Update.calls, Update.sizes, if_pos unknown] at calls
        cases calls
      · rw [Update.calls, Update.sizes, if_neg unknown] at calls
        cases calls
        rfl

theorem update_defined_iff (update : Update) (ticks : Nat → UInt32) :
    Defined clock update.totalSize statics (update.calls ticks) ↔
      update.sizes = [] ∨
        update.totalSize ≠ 0 ∧ Apart clock update.totalSize (update.calls ticks) := by
  rw [defined_iff]
  cases update_calls : update.calls ticks with
  | nil =>
      refine iff_of_true (fun before call after shape => ?_) (Or.inl ?_)
      · exact absurd shape.symm (List.append_ne_nil_of_right_ne_nil before (List.cons_ne_nil _ _))
      · simpa [Update.calls] using update_calls
  | cons first rest =>
      have fresh := calls_first update_calls
      have some_sizes : update.sizes ≠ [] := by
        intro none
        rw [Update.calls, none] at update_calls
        cases update_calls
      rw [or_iff_right some_sizes]
      constructor
      · intro each
        refine ⟨(each [] first rest rfl).1, ?_⟩
        intro before call after shape full
        cases before with
        | nil =>
            cases shape
            exact absurd (full.symm.trans fresh) (each [] first rest rfl).1
        | cons head before =>
            cases shape
            have later := (each (first :: before) call after rfl).2 full
            rwa [lastReport_first fresh] at later
      · rintro ⟨some_size, apart⟩ before call after shape
        refine ⟨some_size, fun full => ?_⟩
        cases before with
        | nil =>
            cases shape
            exact absurd (full.symm.trans fresh) some_size
        | cons head before =>
            cases shape
            rw [lastReport_first fresh]
            exact apart (first :: before) call after rfl full

/-- An update divides by zero exactly if it reports on an image of size 0, or comes with the
full size in the tick of the report before. -/
theorem progress_defined_iff (clock : Clock) (update : Update) (ticks : Nat → UInt32)
    (statics : Statics) :
    Defined clock update.totalSize statics (update.calls ticks) ↔
      update.sizes = [] ∨
        update.totalSize ≠ 0 ∧ Apart clock update.totalSize (update.calls ticks) :=
  update_defined_iff update ticks

def millisecondTicks : Clock where
  rate := 1000
  kernel := roundingUp 1000
  positive := by decide
  small := by decide

def atBoot : Statics := { lastTick := 0, dataRate := 0, lastSize := 0 }

/-- An empty file; and a file of one byte that is read and written within a tick. -/
theorem progress_divides_by_zero :
    ¬ Defined millisecondTicks 0 atBoot ((Update.file 0 []).calls fun _ => 5000) ∧
      ¬ Defined millisecondTicks 1 atBoot
        ((Update.file 1 [{ read := 1, write := 0 }]).calls fun _ => 5000) := by
  unfold Defined
  decide

theorem reported_cases (last : UInt32) :
    reported clock totalSize last call = call.tick ∨
      reported clock totalSize last call = 0 ∨ reported clock totalSize last call = last := by
  rw [reported, ← base]
  split
  · exact Or.inl rfl
  · rw [base]
    split
    · exact Or.inr (Or.inl rfl)
    · exact Or.inr (Or.inr rfl)

/-- A report was made by one of the calls, or there was none. -/
theorem reports_cases (calls : List Call) (last : UInt32) :
    calls.foldl (reported clock totalSize) last = 0 ∨
      calls.foldl (reported clock totalSize) last = last ∨
        ∃ call ∈ calls, calls.foldl (reported clock totalSize) last = call.tick := by
  induction calls generalizing last with
  | nil => exact Or.inr (Or.inl rfl)
  | cons first rest ih =>
      rw [List.foldl_cons]
      rcases ih (reported clock totalSize last first) with none | before | ⟨call, member, later⟩
      · exact Or.inl none
      · rw [before]
        rcases @reported_cases clock totalSize first last with now | none | still
        · exact Or.inr (Or.inr ⟨first, List.mem_cons_self, now⟩)
        · exact Or.inl none
        · exact Or.inr (Or.inl still)
      · exact Or.inr (Or.inr ⟨call, List.mem_cons_of_mem _ member, later⟩)

theorem tick_at {update : Update} {ticks : Nat → UInt32} {index : Nat}
    (found : (update.calls ticks)[index]? = some call) : call.tick = ticks index := by
  rw [Update.calls, List.getElem?_map, Option.map_eq_some_iff] at found
  obtain ⟨sized, found, rfl⟩ := found
  rw [List.getElem?_zipIdx, Option.map_eq_some_iff] at found
  obtain ⟨size, _, rfl⟩ := found
  rw [Nat.zero_add]

/-- A clock that ticks between two calls and has ticked before the first is enough. -/
theorem ticking_defined {update : Update} {ticks : Nat → UInt32}
    (some_size : update.totalSize ≠ 0) (started : 0 < ticks 0)
    (ticking : ∀ earlier later, earlier < later → ticks earlier < ticks later) :
    Defined clock update.totalSize statics (update.calls ticks) := by
  refine (update_defined_iff update ticks).mpr (Or.inr ⟨some_size, ?_⟩)
  intro before call after shape _ same
  have here : call.tick = ticks before.length := by
    apply @tick_at _ update
    rw [shape, List.getElem?_append_right (Nat.le_refl _), Nat.sub_self, List.getElem?_cons_zero]
  have positive : 0 < call.tick := by
    rw [here]
    rcases Nat.eq_zero_or_pos before.length with zero | some_before
    · rw [zero]
      exact started
    · exact UInt32.lt_trans started (ticking 0 before.length some_before)
  have later : ∀ old ∈ before, old.tick < call.tick := by
    intro old member
    obtain ⟨index, inside, found⟩ := List.getElem_of_mem member
    have there : old.tick = ticks index := by
      apply @tick_at _ update
      rw [shape, List.getElem?_append_left inside, List.getElem?_eq_getElem inside, found]
    rw [there, here]
    exact ticking index before.length inside
  rw [same, lastReport] at positive later
  rcases @reports_cases clock update.totalSize before 0 with none | none | ⟨old, member, report⟩
  · exact absurd none (UInt32.pos_iff_ne_zero.mp positive)
  · exact absurd none (UInt32.pos_iff_ne_zero.mp positive)
  · exact absurd (later old member) (by rw [report]; exact UInt32.lt_irrefl _)

end EspHosted.OtaProgress

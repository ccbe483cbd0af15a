import EspHosted.RequestTemplates
import Mathlib.Data.List.Nodup

/-!
The records of a scan in a response. The handler allocates them one after the other, six parts
each, and counts a record when it is complete; the cleanup goes over the counted ones. A record
that was begun and not finished is therefore lost.
-/

namespace EspHosted.SlaveRequests
open OwnedParts RpcResponses

/-- What is held after `count` records. -/
def recordsHeld (count : Nat) : List (Path Field) :=
  ((List.range count).flatMap recordParts).reverse ++ [[.apRecords, .payload], [.payload]]

/-- Where the loop is after `count` records. -/
def recordsBuilt (count : Nat) : Built Field :=
  { asked := 3 + 6 * count, held := recordsHeld count, counted := count }

/-- `RecordsWhole` for the records from `first` on, once all before were granted. -/
def WholeFrom (calloc : Nat → Bool) (first number : Nat) : Prop :=
  ∀ index, first ≤ index → index < first + number →
    (∀ request, 3 + 6 * first ≤ request → request ≤ 3 + 6 * index → calloc request = true) →
    ∀ part < 6, calloc (3 + 6 * index + part) = true

theorem recordsHeld_succ (count : Nat) :
    recordsHeld (count + 1) = (recordParts count).reverse ++ recordsHeld count := by
  simp [recordsHeld, List.range_succ]

theorem mem_recordsHeld {count : Nat} {part : Path Field} :
    part ∈ recordsHeld count ↔ (∃ index < count, part ∈ recordParts index) ∨
      part = [.apRecords, .payload] ∨ part = [.payload] := by
  simp [recordsHeld]

/-- The cleanup of a record names its parts in another order. -/
theorem mem_recordFrees {index : Nat} {part : Path Field} :
    part ∈ recordFrees index ↔ part ∈ recordParts index := by
  simp only [recordFrees, recordParts, List.mem_cons, List.not_mem_nil, or_false]
  tauto

theorem entry_mem_record {index other : Nat} {part : Path Field}
    (member : part ∈ recordParts index) : .entry other ∈ part ↔ other = index := by
  simp only [recordParts, List.mem_cons, List.not_mem_nil, or_false] at member
  rcases member with rfl | rfl | rfl | rfl | rfl | rfl <;> simp

theorem nodup_recordsHeld (count : Nat) : (recordsHeld count).Nodup := by
  rw [recordsHeld, List.nodup_append]
  refine ⟨?_, by decide, ?_⟩
  · rw [List.nodup_reverse, List.nodup_flatMap]
    constructor
    · intro index _
      simp [recordParts]
    · refine List.pairwise_lt_range.imp fun earlier part left right => ?_
      have same := (entry_mem_record left).mp ((entry_mem_record right).mpr rfl)
      exact Nat.ne_of_lt earlier same.symm
  · intro part left other right same
    subst same
    simp only [List.mem_reverse, List.mem_flatMap] at left
    obtain ⟨index, _, member⟩ := left
    have entry : Field.entry index ∈ part := (entry_mem_record member).mpr rfl
    simp only [List.mem_cons, List.not_mem_nil, or_false] at right
    rcases right with rfl | rfl <;> simp at entry

/-- Each record is allocated from its root on. -/
theorem recordParts_grow {index : Nat} {held : List (Path Field)}
    (reached : Reached held [.apRecords, .payload]) : Grows held (recordParts index) := by
  simp only [Reached] at reached
  simp [recordParts, Grows, Reached, reached]

theorem reached_record {count index : Nat} (inside : index < count) {part : Path Field}
    (member : part ∈ recordParts index) : Reached (recordsHeld count) part.tail := by
  have all : ∀ other ∈ recordParts index, other ∈ recordsHeld count :=
    fun other within => mem_recordsHeld.mpr (Or.inl ⟨index, inside, within⟩)
  simp only [recordParts, List.forall_mem_cons] at all
  have root : [.apRecords, .payload] ∈ recordsHeld count := by simp [recordsHeld]
  have payload : [.payload] ∈ recordsHeld count := by simp [recordsHeld]
  simp only [recordParts, List.mem_cons, List.not_mem_nil, or_false] at member
  rcases member with rfl | rfl | rfl | rfl | rfl | rfl <;> simp [Reached, all, root, payload]

/-- The cleanup, once it has found the array. -/
def recordsCleaned (count : Nat) : List (Clean Field) :=
  .look [.apRecords, .payload] ::
    (((List.range count).flatMap fun index => frees (recordFrees index)) ++
      [.look [.apRecords, .payload], .free [.apRecords, .payload], .free [.payload]])

theorem cleanup_records {held : List (Path Field)} (count : Nat)
    (array : [.apRecords, .payload] ∈ held) :
    cleanupScanGetApRecords held count = recordsCleaned count := by
  simp [cleanupScanGetApRecords, whenSet, array, recordsCleaned, frees]

theorem mem_recordsCleaned {count : Nat} {part : Path Field} :
    Clean.free part ∈ recordsCleaned count ↔ (∃ index < count, part ∈ recordParts index) ∨
      part = [.apRecords, .payload] ∨ part = [.payload] := by
  simp [recordsCleaned, frees, mem_recordFrees]

theorem mem_frees_record {index : Nat} {clean : Clean Field} :
    clean ∈ frees (recordFrees index) ↔ ∃ part ∈ recordParts index, clean = .free part := by
  simp [frees, mem_recordFrees, eq_comm]

/-- Nothing of a record leads to another record, nor to the array. -/
theorem recordsCleaned_leafFirst (count : Nat) : LeafFirst (recordsCleaned count) := by
  have apart : ∀ {index : Nat} {part path : Path Field}, part ∈ recordParts index →
      Field.entry index ∉ path → ¬ part <:+ path := by
    intro index part path member outside suffix
    exact outside (suffix.subset ((entry_mem_record member).mpr rfl))
  rw [LeafFirst, recordsCleaned, List.pairwise_cons, List.pairwise_append, List.pairwise_flatMap]
  refine ⟨fun _ _ _ => (nomatch ·), ⟨?_, ?_⟩, ?_, ?_⟩
  · intro index _
    simp [frees, recordFrees, Clean.part, List.suffix_cons_iff]
  · refine List.pairwise_lt_range.imp fun {first second} before earlier left later right => ?_
    obtain ⟨other, within, rfl⟩ := mem_frees_record.mp right
    obtain ⟨part, member, rfl⟩ := mem_frees_record.mp left
    rintro _ ⟨⟩
    refine apart member fun inside => ?_
    have same := (entry_mem_record within).mp (List.mem_of_mem_tail inside)
    exact Nat.ne_of_lt before same
  · simp [Clean.part]
  · intro earlier left later right
    obtain ⟨index, _, inside⟩ := List.mem_flatMap.mp left
    obtain ⟨part, member, rfl⟩ := mem_frees_record.mp inside
    rintro _ ⟨⟩
    refine apart member ?_
    simp only [List.mem_cons, List.not_mem_nil, or_false] at right
    rcases right with rfl | rfl | rfl <;> simp [Clean.part]

/-- Complete records are released. -/
theorem records_released (count : Nat) :
    Released (cleanupScanGetApRecords (recordsHeld count) count) (recordsHeld count) := by
  have root : [.apRecords, .payload] ∈ recordsHeld count := by simp [recordsHeld]
  have payload : [.payload] ∈ recordsHeld count := by simp [recordsHeld]
  rw [cleanup_records count root]
  refine released ?_ (recordsCleaned_leafFirst count) (nodup_recordsHeld count) ?_
  · intro clean member
    simp only [recordsCleaned, List.mem_cons, List.mem_append, List.mem_flatMap, List.mem_range,
      mem_frees_record, List.not_mem_nil, or_false] at member
    rcases member with rfl | ⟨index, inside, part, within, rfl⟩ | rfl | rfl | rfl
    · simp [Clean.part, Reached, payload]
    · exact reached_record inside within
    · simp [Clean.part, Reached, payload]
    · simp [Clean.part, Reached, payload]
    · simp [Clean.part, Reached]
  · intro part member
    exact mem_recordsCleaned.mpr (mem_recordsHeld.mp member)

/-- A record that was begun and not finished is not counted, and lost. -/
theorem begun_released_iff {count number : Nat} :
    Released
        (cleanupScanGetApRecords
          (((recordParts count).take number).reverse ++ recordsHeld count) count)
        (((recordParts count).take number).reverse ++ recordsHeld count) ↔ number = 0 := by
  cases number with
  | zero => exact iff_of_true (records_released count) rfl
  | succ number =>
      refine iff_of_false ?_ (Nat.succ_ne_zero number)
      have root : [.apRecords, .payload] ∈
          ((recordParts count).take (number + 1)).reverse ++ recordsHeld count := by
        simp [recordsHeld]
      have entry : [.entry count, .apRecords, .payload] ∈
          ((recordParts count).take (number + 1)).reverse ++ recordsHeld count := by
        simp [recordParts]
      rw [cleanup_records count root]
      refine not_released_unnamed entry fun named => ?_
      rcases mem_recordsCleaned.mp named with ⟨index, inside, member⟩ | same | same
      · have other := (entry_mem_record member).mp List.mem_cons_self
        exact Nat.ne_of_lt inside other.symm
      · simp at same
      · simp at same

theorem recordsBuilt_succ (count : Nat) :
    recordsBuilt (count + 1) =
      { asked := (recordsBuilt count).asked + (recordParts count).length
        held := (recordParts count).reverse ++ (recordsBuilt count).held
        counted := (recordsBuilt count).counted + 1 } := by
  simp only [recordsBuilt, recordsHeld_succ, Nat.mul_succ, Nat.add_assoc]
  rfl

/-- A complete first record leaves the others, and a first record that is not begun leaves
nothing to ask for. -/
theorem wholeFrom_succ {calloc : Nat → Bool} {first number : Nat} :
    WholeFrom calloc first (number + 1) ↔
      if granted calloc (3 + 6 * first) 6 = 6 then WholeFrom calloc (first + 1) number
      else granted calloc (3 + 6 * first) 6 = 0 := by
  split
  · next all =>
      have six := granted_all_iff.mp all
      constructor
      · intro whole index after inside given part small
        refine whole index (by omega) (by omega) (fun request low high => ?_) part small
        by_cases before : request < 3 + 6 * (first + 1)
        · have here := six (request - (3 + 6 * first)) (by omega)
          rwa [Nat.add_sub_cancel' low] at here
        · exact given request (by omega) high
      · intro whole index after inside given part small
        by_cases same : index = first
        · exact same ▸ six part small
        · refine whole index (by omega) (by omega) (fun request low high => ?_) part small
          exact given request (by omega) high
  · next some =>
      rw [granted_zero_iff]
      constructor
      · intro whole
        by_contra begun
        refine some (granted_all_iff.mpr (whole first (Nat.le_refl _) (by omega) ?_))
        intro request low high
        rw [Nat.le_antisymm high low]
        simpa using begun
      · intro refused index after inside given
        have granted := given (3 + 6 * first) (Nat.le_refl _) (by omega)
        rw [refused] at granted
        cases granted

/-- From `count` records on, the loop over `number` more leaves nothing undone if no
allocation fails inside one of them. -/
theorem tidy_records (calloc : Nat → Bool) (number count : Nat) :
    Tidy (fun built => cleanupScanGetApRecords built.held built.counted)
        (exec calloc ((List.range' count number).flatMap fun index =>
          allocs (recordParts index) ++ [.count]) (recordsBuilt count)) ↔
      WholeFrom calloc count number := by
  induction number generalizing count with
  | zero =>
      refine iff_of_true ⟨rfl, records_released count⟩ fun index after inside => ?_
      omega
  | succ number ih =>
      have root : Reached (recordsBuilt count).held [.apRecords, .payload] := by
        simp [recordsBuilt, recordsHeld, Reached]
      rw [List.range'_succ, List.flatMap_cons, List.append_assoc, allocs,
        exec_allocs calloc _ _ _ (recordParts_grow root), wholeFrom_succ]
      change Tidy _ (if granted calloc (3 + 6 * count) 6 = 6 then _ else _) ↔ _
      split
      · rw [List.singleton_append, exec, ← recordsBuilt_succ]
        exact ih (count + 1)
      · exact (and_iff_right rfl).trans begun_released_iff

/-- The loop starts behind the scratch buffer and the array. -/
theorem recordsWhole_iff {calloc : Nat → Bool} {number : Nat} (payload : calloc 0 = true)
    (scratch : calloc 1 = true) (array : calloc 2 = true) :
    WholeFrom calloc 0 number ↔ RecordsWhole calloc number := by
  constructor
  · intro whole index inside given part small
    refine whole index (Nat.zero_le _) (by omega) (fun request _ high => ?_) part small
    exact given request high
  · intro whole index _ inside given part small
    refine whole index (by omega) (fun request high => ?_) part small
    rcases request with _ | _ | _ | request
    · exact payload
    · exact scratch
    · exact array
    · exact given (request + 3) (by omega) high

/-- Without the scratch buffer or the array there is no record to lose. -/
theorem recordsWhole_refused {calloc : Nat → Bool} {number refused : Nat} (early : refused ≤ 3)
    (refuses : calloc refused = false) : RecordsWhole calloc number := by
  intro index _ given
  have granted := given refused (by omega)
  rw [refuses] at granted
  cases granted

theorem tidy_scanGetApRecords (env : Env) (req : Request) :
    Tidy (fun built => cleanupScanGetApRecords built.held built.counted)
        (exec env.calloc (reqWifiScanGetApRecords env req.payload) start) ↔
      Handled env req.payload .wifiScanGetApRecords := by
  have before : ∀ asked : Nat, Tidy (fun built => cleanupScanGetApRecords built.held built.counted)
      (.returned 0 { opened with asked := asked }) := by
    intro asked
    have early : Released (cleanupScanGetApRecords [[.payload]] 0) [[.payload]] := by decide
    exact ⟨rfl, early⟩
  rw [reqWifiScanGetApRecords, rpcTemplateSimple, tidy_payload, tidy_follow]
  simp only [Handled, Opens, needsPayload, needsIdf54, true_implies, and_assoc, Bool.false_eq_true,
    false_implies, true_and]
  refine and_congr_right fun payload => and_congr_right fun _ => ?_
  rw [PartsRight, exec]
  change Tidy _ (if env.calloc 1 = true then _ else _) ↔ _
  cases scratch : env.calloc 1 with
  | false =>
      exact iff_of_true (before 2) fun number _ => recordsWhole_refused (by decide) scratch
  | true =>
      cases env.found with
      | none => exact iff_of_true (before 2) fun _ wrong => by cases wrong
      | some number =>
          have root : Reached opened.held [.payload] := by decide
          simp only [if_true, exec, List.tail_cons, if_pos root, Option.some.injEq, forall_eq']
          change Tidy _ (if env.calloc 2 = true then _ else _) ↔ _
          cases array : env.calloc 2 with
          | false => exact iff_of_true (before 3) (recordsWhole_refused (by decide) array)
          | true =>
              rw [if_pos rfl, ← recordsWhole_iff payload scratch array, List.range_eq_range']
              exact tidy_records env.calloc number 0

end EspHosted.SlaveRequests

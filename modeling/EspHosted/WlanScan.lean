import EspHosted.GuardedRun
import Mathlib.Algebra.GroupWithZero.Nat
import Mathlib.Algebra.Order.BigOperators.Group.List
import Mathlib.Algebra.Order.Group.Nat

/-!
One scan of `esp_wlan.c`. The caller is in `drv_wlan_scan`; an event comes into
`rpc_event_callback`, which hands its own copy to `hosted_wifi_event_post` and frees it when
that returns; a thread of its own fetches the records and reports them. It reads the number of
records out of the event, and may come to it at any time. The post looks at nothing the caller
left behind: an event may come wherever the caller is, and there may be more than one.
-/

namespace EspHosted.WlanScan
open GuardedRun

universe u

inductive WifiMode where
  | null
  | sta
  | ap
  | apsta
  deriving DecidableEq

/-- What the wlan device is told of the scan. -/
inductive Indication (Ap : Type u) where
  | scanReport (ap : Ap)
  | scanDone
  deriving DecidableEq

/-- Where `drv_wlan_scan` is. -/
inductive Caller where
  | getMode
  | setMode (mode : WifiMode)
  | scanStart
  | failed
  | started
  deriving DecidableEq

/-- The event `rpc_event_callback` was called with. It is stuck in `rt_thread_startup` when
`rt_thread_create` gave no thread: the assertion there does not come back. -/
inductive Event where
  | live (number : UInt16)
  | freed
  | stuck
  deriving DecidableEq

/-- Where `send_ap_record_to_wlan` is; `fetched` tells which way it came to its end. -/
inductive Thread (Ap : Type u) where
  | uncreated
  | sizing
  | counting
  | fetching (number : UInt16)
  | reporting (aps : List Ap)
  | doneReporting
  | ending (fetched : Bool)
  | finished (fetched : Bool)
  deriving DecidableEq

variable {Ap : Type u}

/-- An event that was posted, and the thread made for it. -/
structure Delivery (Ap : Type u) where
  event : Event
  thread : Thread Ap
  deriving DecidableEq

structure State (Ap : Type u) where
  caller : Caller
  deliveries : List (Delivery Ap)
  indicated : List (Indication Ap)
  /-- Reads of an event behind its free. -/
  staleReads : Nat
  deriving DecidableEq

def init : State Ap where
  caller := .getMode
  deliveries := []
  indicated := []
  staleReads := 0

inductive Work (Ap : Type u) where
  | cleanup
  | size
  /-- What the thread reads for the number; behind the free it can be anything. -/
  | count (number : UInt16)
  | fetch (records : Option (List Ap))
  | go

inductive Act (Ap : Type u) where
  /-- What `esp_wifi_get_mode` gives, none when it fails. -/
  | getMode (mode : Option WifiMode)
  | setMode (ok : Bool)
  /-- What `esp_wifi_scan_start` reports. The slave may scan all the same. -/
  | scanStart (ok : Bool)
  | post (number : UInt16) (created : Bool)
  | work (index : Nat) (work : Work Ap)

def indicate (state : State Ap) (indications : List (Indication Ap)) : State Ap :=
  { state with indicated := state.indicated ++ indications }

/-- `drv_wlan_scan`. -/
def getModeStep (state : State Ap) (mode : Option WifiMode) : Option (State Ap) :=
  if state.caller = .getMode then
    match mode with
    | none => some (indicate { state with caller := .failed } [.scanDone])
    | some mode =>
        if mode ≠ .sta ∧ mode ≠ .apsta then
          some { state with caller := .setMode (if mode = .ap then .apsta else .sta) }
        else some { state with caller := .scanStart }
  else none

def setModeStep (state : State Ap) (ok : Bool) : Option (State Ap) :=
  match state.caller with
  | .setMode _ =>
      if ok then some { state with caller := .scanStart }
      else some (indicate { state with caller := .failed } [.scanDone])
  | .getMode | .scanStart | .failed | .started => none

def scanStartStep (state : State Ap) (ok : Bool) : Option (State Ap) :=
  if state.caller = .scanStart then
    if ok then some { state with caller := .started }
    else some (indicate { state with caller := .failed } [.scanDone])
  else none

/-- `hosted_wifi_event_post`. The events come one after the other, each when the one before it
was freed. -/
def postStep (state : State Ap) (number : UInt16) (created : Bool) : Option (State Ap) :=
  if ∀ delivery ∈ state.deliveries, delivery.event = .freed then
    if 0 < number then
      if created then
        some { state with deliveries := state.deliveries ++ [⟨.live number, .sizing⟩] }
      else some { state with deliveries := state.deliveries ++ [⟨.stuck, .uncreated⟩] }
    else
      some (indicate
        { state with deliveries := state.deliveries ++ [⟨.live number, .uncreated⟩] } [.scanDone])
  else none

/-- What a step behind the post leaves of its delivery, what it indicates, and how often it
reads the event behind its free. -/
structure Effect (Ap : Type u) where
  next : Delivery Ap
  told : List (Indication Ap)
  stale : Nat

def Event.stale : Event → Nat
  | .live _ | .stuck => 0
  | .freed => 1

def Event.reads (number : UInt16) : Event → Bool
  | .live there => number = there
  | .freed => true
  | .stuck => false

def Delivery.goTo (delivery : Delivery Ap) (thread : Thread Ap) : Delivery Ap :=
  { delivery with thread := thread }

/-- `rpc_event_callback` behind the post, and `send_ap_record_to_wlan`. -/
def workStep (delivery : Delivery Ap) : Work Ap → Option (Effect Ap)
  | .cleanup =>
      match delivery.event with
      | .live _ => some ⟨{ delivery with event := .freed }, [], 0⟩
      | .freed | .stuck => none
  | .size =>
      match delivery.thread with
      | .sizing => some ⟨delivery.goTo .counting, [], delivery.event.stale⟩
      | _ => none
  | .count number =>
      match delivery.thread with
      | .counting =>
          if delivery.event.reads number then
            some ⟨delivery.goTo (.fetching number), [], delivery.event.stale⟩
          else none
      | _ => none
  | .fetch records =>
      match delivery.thread, records with
      | .fetching _, some aps => some ⟨delivery.goTo (.reporting aps), [], 0⟩
      | .fetching _, none => some ⟨delivery.goTo (.ending false), [], 0⟩
      | _, _ => none
  | .go =>
      match delivery.thread with
      | .reporting (ap :: rest) => some ⟨delivery.goTo (.reporting rest), [.scanReport ap], 0⟩
      | .reporting [] => some ⟨delivery.goTo .doneReporting, [], 0⟩
      | .doneReporting => some ⟨delivery.goTo (.ending true), [.scanDone], 0⟩
      | .ending fetched => some ⟨delivery.goTo (.finished fetched), [.scanDone], 0⟩
      | _ => none

def State.apply (state : State Ap) (index : Nat) (effect : Effect Ap) : State Ap :=
  { state with
    deliveries := state.deliveries.set index effect.next
    indicated := state.indicated ++ effect.told
    staleReads := state.staleReads + effect.stale }

def step (state : State Ap) : Act Ap → Option (State Ap)
  | .getMode mode => getModeStep state mode
  | .setMode ok => setModeStep state ok
  | .scanStart ok => scanStartStep state ok
  | .post number created => postStep state number created
  | .work index work =>
      match state.deliveries[index]? with
      | none => none
      | some delivery => (workStep delivery work).map (state.apply index)

variable {before after state : State Ap}

/-- The caller may still fail. -/
def Early (caller : Caller) : Prop := caller ≠ .failed ∧ caller ≠ .started

/-- What a step of the caller can be. -/
inductive CallerMoves (before : State Ap) : State Ap → Prop where
  | goes (caller : Caller) (early : Early before.caller) (alive : caller ≠ .failed) :
      CallerMoves before { before with caller := caller }
  | fails (early : Early before.caller) :
      CallerMoves before (indicate { before with caller := .failed } [.scanDone])

/-- What a post can be. -/
inductive Posts (before : State Ap) (number : UInt16) (created : Bool) : State Ap → Prop where
  | none (zero : ¬ 0 < number) : Posts before number created (indicate
      { before with deliveries := before.deliveries ++ [⟨.live number, .uncreated⟩] } [.scanDone])
  | stuck (some : 0 < number) (refused : created = false) : Posts before number created
      { before with deliveries := before.deliveries ++ [⟨.stuck, .uncreated⟩] }
  | some (some : 0 < number) : Posts before number created
      { before with deliveries := before.deliveries ++ [⟨.live number, .sizing⟩] }

/-- What a step behind a post can be. -/
inductive Works (delivery : Delivery Ap) : Work Ap → Effect Ap → Prop where
  | frees (number : UInt16) (live : delivery.event = .live number) :
      Works delivery .cleanup ⟨{ delivery with event := .freed }, [], 0⟩
  | sizes (thread : delivery.thread = .sizing) :
      Works delivery .size ⟨delivery.goTo .counting, [], delivery.event.stale⟩
  | counts (number : UInt16) (thread : delivery.thread = .counting) :
      Works delivery (.count number) ⟨delivery.goTo (.fetching number), [], delivery.event.stale⟩
  | fetches (number : UInt16) (aps : List Ap) (thread : delivery.thread = .fetching number) :
      Works delivery (.fetch (some aps)) ⟨delivery.goTo (.reporting aps), [], 0⟩
  | fetchFails (number : UInt16) (thread : delivery.thread = .fetching number) :
      Works delivery (.fetch none) ⟨delivery.goTo (.ending false), [], 0⟩
  | reports (ap : Ap) (rest : List Ap) (thread : delivery.thread = .reporting (ap :: rest)) :
      Works delivery .go ⟨delivery.goTo (.reporting rest), [.scanReport ap], 0⟩
  | reported (thread : delivery.thread = .reporting []) :
      Works delivery .go ⟨delivery.goTo .doneReporting, [], 0⟩
  | doneReporting (thread : delivery.thread = .doneReporting) :
      Works delivery .go ⟨delivery.goTo (.ending true), [.scanDone], 0⟩
  | ends (fetched : Bool) (thread : delivery.thread = .ending fetched) :
      Works delivery .go ⟨delivery.goTo (.finished fetched), [.scanDone], 0⟩

theorem early_at {caller : Caller} (here : state.caller = caller) (early : Early caller) :
    Early state.caller := by
  rw [here]
  exact early

theorem getMode_moves {mode : Option WifiMode} (taken : getModeStep before mode = some after) :
    CallerMoves before after := by
  unfold getModeStep at taken
  split at taken
  · rename_i here
    have early : Early before.caller := early_at here ⟨nofun, nofun⟩
    cases mode with
    | none =>
        cases taken
        exact .fails early
    | some mode =>
        dsimp only at taken
        split at taken
        · cases taken
          exact .goes _ early nofun
        · cases taken
          exact .goes _ early nofun
  · cases taken

theorem setMode_moves {ok : Bool} (taken : setModeStep before ok = some after) :
    CallerMoves before after := by
  unfold setModeStep at taken
  split at taken
  · rename_i mode here
    have early : Early before.caller := early_at here ⟨nofun, nofun⟩
    cases ok with
    | true =>
        cases taken
        exact .goes _ early nofun
    | false =>
        cases taken
        exact .fails early
  all_goals cases taken

theorem scanStart_moves {ok : Bool} (taken : scanStartStep before ok = some after) :
    CallerMoves before after := by
  unfold scanStartStep at taken
  split at taken
  · rename_i here
    have early : Early before.caller := early_at here ⟨nofun, nofun⟩
    cases ok with
    | true =>
        cases taken
        exact .goes _ early nofun
    | false =>
        cases taken
        exact .fails early
  · cases taken

theorem post_moves {number : UInt16} {created : Bool}
    (taken : postStep before number created = some after) : Posts before number created after := by
  unfold postStep at taken
  split at taken
  · split at taken
    · rename_i some
      cases created with
      | true =>
          cases taken
          exact .some some
      | false =>
          cases taken
          exact .stuck some rfl
    · rename_i zero
      cases taken
      exact .none zero
  · cases taken

theorem work_moves {delivery : Delivery Ap} {work : Work Ap} {effect : Effect Ap}
    (taken : workStep delivery work = some effect) : Works delivery work effect := by
  cases work with
  | cleanup =>
      simp only [workStep] at taken
      split at taken
      · rename_i number live
        cases taken
        exact .frees number live
      all_goals cases taken
  | size =>
      simp only [workStep] at taken
      split at taken
      · rename_i thread
        cases taken
        exact .sizes thread
      · cases taken
  | count number =>
      simp only [workStep] at taken
      split at taken
      · rename_i thread
        split at taken
        · cases taken
          exact .counts number thread
        · cases taken
      · cases taken
  | fetch records =>
      simp only [workStep] at taken
      split at taken
      · rename_i number aps thread
        cases taken
        exact .fetches number aps thread
      · rename_i number thread
        cases taken
        exact .fetchFails number thread
      · cases taken
  | go =>
      simp only [workStep] at taken
      split at taken
      · rename_i ap rest thread
        cases taken
        exact .reports ap rest thread
      · rename_i thread
        cases taken
        exact .reported thread
      · rename_i thread
        cases taken
        exact .doneReporting thread
      · rename_i fetched thread
        cases taken
        exact .ends fetched thread
      · cases taken

/-- What a step can be. -/
inductive Moves (before : State Ap) : Act Ap → State Ap → Prop where
  | caller {act : Act Ap} {after : State Ap} (moves : CallerMoves before after) :
      Moves before act after
  | post {number : UInt16} {created : Bool} {after : State Ap}
      (posts : Posts before number created after) : Moves before (.post number created) after
  | work {index : Nat} {delivery : Delivery Ap} {work : Work Ap} {effect : Effect Ap}
      (found : before.deliveries[index]? = some delivery) (works : Works delivery work effect) :
      Moves before (.work index work) (before.apply index effect)

theorem step_moves {act : Act Ap} (taken : step before act = some after) :
    Moves before act after := by
  cases act with
  | getMode mode => exact .caller (getMode_moves taken)
  | setMode ok => exact .caller (setMode_moves taken)
  | scanStart ok => exact .caller (scanStart_moves taken)
  | post number created => exact .post (post_moves taken)
  | work index work =>
      simp only [step] at taken
      split at taken
      · cases taken
      · rename_i delivery found
        obtain ⟨effect, worked, rfl⟩ := Option.map_eq_some_iff.mp taken
        exact .work found (work_moves worked)

/-- How often the caller, and an event with its thread, indicated the end of the scan. -/
def callerDones : Caller → Nat
  | .failed => 1
  | .getMode | .setMode _ | .scanStart | .started => 0

def Delivery.dones (delivery : Delivery Ap) : Nat :=
  match delivery.thread with
  | .uncreated => if delivery.event = .stuck then 0 else 1
  | .sizing | .counting | .fetching _ | .reporting _ | .doneReporting => 0
  | .ending fetched => if fetched then 1 else 0
  | .finished fetched => if fetched then 2 else 1

def Indication.isDone : Indication Ap → Bool
  | .scanDone => true
  | .scanReport _ => false

/-- Every end of the scan was indicated by the caller or behind an event. -/
def Tallied (state : State Ap) : Prop :=
  state.indicated.countP Indication.isDone =
    callerDones state.caller + (state.deliveries.map Delivery.dones).sum

theorem early_dones {caller : Caller} (early : Early caller) : callerDones caller = 0 := by
  cases caller with
  | failed => exact absurd rfl early.1
  | getMode | setMode _ | scanStart | started => rfl

theorem alive_dones {caller : Caller} (alive : caller ≠ .failed) : callerDones caller = 0 := by
  cases caller with
  | failed => exact absurd rfl alive
  | getMode | setMode _ | scanStart | started => rfl

/-- A step behind a post adds what it indicates. -/
theorem works_dones {delivery : Delivery Ap} {work : Work Ap} {effect : Effect Ap}
    (works : Works delivery work effect) :
    effect.next.dones = delivery.dones + effect.told.countP Indication.isDone := by
  cases works with
  | frees number live =>
      unfold Delivery.dones
      cases delivery.thread with
      | uncreated => simp [live]
      | sizing | counting | fetching _ | reporting _ | doneReporting | ending _ | finished _ => rfl
  | sizes thread | counts _ thread | fetches _ _ thread | fetchFails _ thread | reports _ _ thread
  | reported thread | doneReporting thread =>
      unfold Delivery.dones
      rw [thread]
      rfl
  | ends fetched thread =>
      unfold Delivery.dones
      rw [thread]
      cases fetched <;> rfl

theorem sum_dones_set {deliveries : List (Delivery Ap)} {index more : Nat}
    {old new : Delivery Ap} (found : deliveries[index]? = some old)
    (adds : new.dones = old.dones + more) :
    ((deliveries.set index new).map Delivery.dones).sum =
      (deliveries.map Delivery.dones).sum + more := by
  induction deliveries generalizing index with
  | nil => cases found
  | cons first rest ih =>
      cases index with
      | zero =>
          cases found
          simp only [List.set_cons_zero, List.map_cons, List.sum_cons, adds]
          omega
      | succ index =>
          simp only [List.set_cons_succ, List.map_cons, List.sum_cons, ih found]
          omega

theorem tallied_step {act : Act Ap} (tallied : Tallied before)
    (taken : step before act = some after) : Tallied after := by
  unfold Tallied at *
  cases step_moves taken with
  | caller moves =>
      cases moves with
      | goes caller early alive =>
          rw [early_dones early] at tallied
          dsimp only
          rw [alive_dones alive, tallied]
      | fails early =>
          rw [early_dones early] at tallied
          simp only [indicate, List.countP_append, tallied, Nat.zero_add]
          exact Nat.add_comm _ 1
  | post posts =>
      cases posts with
      | none zero =>
          simp only [indicate, List.countP_append, tallied, List.map_append, List.sum_append]
          rfl
      | stuck some refused | some some =>
          simp only [tallied, List.map_append, List.sum_append]
          rfl
  | work found works =>
      simp only [State.apply, List.countP_append, tallied, sum_dones_set found (works_dones works)]
      exact Nat.add_assoc _ _ _

theorem tallied_reached (run : Run step unguarded init state) : Tallied state := by
  apply run.invariant
  · rfl
  · intro before act after _ tallied _ taken
    exact tallied_step tallied taken

/-- A scan whose records are fetched always ends twice. -/
theorem fetched_ends_twice (run : Run step unguarded init state) {event : Event}
    (finished : ⟨event, .finished true⟩ ∈ state.deliveries) :
    2 ≤ state.indicated.countP Indication.isDone := by
  have part : 2 ≤ (state.deliveries.map Delivery.dones).sum :=
    List.le_sum_of_mem (List.mem_map.mpr ⟨⟨event, .finished true⟩, finished, rfl⟩)
  rw [tallied_reached run]
  exact Nat.le_trans part (Nat.le_add_left _ _)

/-- Reports first, then the ends. -/
def Told (indicated : List (Indication Ap)) (ends : Nat) : Prop :=
  ∃ aps : List Ap, indicated = aps.map .scanReport ++ List.replicate ends .scanDone

/-- The event was freed, and its thread came to its end; or nothing goes on behind it. -/
def Delivery.Over (delivery : Delivery Ap) : Prop :=
  delivery.event = .stuck ∨ delivery.event = .freed ∧
    (delivery.thread = .uncreated ∨ ∃ fetched, delivery.thread = .finished fetched)

/-- The scan is over: the caller is back, with its event where it was started, and all that
came of events is done with. -/
def Complete (state : State Ap) : Prop :=
  (state.caller = .failed ∨ state.caller = .started ∧ state.deliveries ≠ []) ∧
    ∀ delivery ∈ state.deliveries, delivery.Over

/-- One end behind the reports, and nothing read out of an event behind its free. -/
structure Good (state : State Ap) : Prop where
  live : state.staleReads = 0
  once : ∃ ends ≤ 1, Told state.indicated ends
  complete : Complete state → Told state.indicated 1

/-- The thread still has to read the event. -/
def reading : Thread Ap → Bool
  | .sizing | .counting => true
  | .uncreated | .fetching _ | .reporting _ | .doneReporting | .ending _ | .finished _ => false

/-- One event comes, once the start of the scan was reported as successful, and gets its
thread; the records cannot be fetched, and the event is freed behind the reads of the thread. -/
def Sound (state : State Ap) : Act Ap → Prop
  | .post number created =>
      state.caller = .started ∧ state.deliveries = [] ∧ (0 < number → created = true)
  | .work _ (.fetch records) => records = none
  | .work index .cleanup =>
      match state.deliveries[index]? with
      | none => True
      | some delivery => reading delivery.thread = false
  | .getMode _ | .setMode _ | .scanStart _ | .work _ .size | .work _ (.count _)
  | .work _ .go => True

instance [DecidableEq Ap] (state : State Ap) : (act : Act Ap) → Decidable (Sound state act)
  | .post number created => inferInstanceAs (Decidable (state.caller = .started ∧
      state.deliveries = [] ∧ (0 < number → created = true)))
  | .work _ (.fetch records) => inferInstanceAs (Decidable (records = none))
  | .work index .cleanup =>
      match found : state.deliveries[index]? with
      | none => .isTrue (by simp [Sound, found])
      | some delivery =>
          decidable_of_iff (reading delivery.thread = false) (by simp [Sound, found])
  | .getMode _ | .setMode _ | .scanStart _ | .work _ .size | .work _ (.count _)
  | .work _ .go => .isTrue trivial

/-- The thread is on the way it takes when the records cannot be fetched. -/
def unfetched : Thread Ap → Bool
  | .uncreated | .sizing | .counting | .fetching _ | .ending false | .finished false => true
  | .reporting _ | .doneReporting | .ending true | .finished true => false

/-- An event whose thread there is, and that is there as long as the thread reads it. -/
structure Kept (delivery : Delivery Ap) : Prop where
  posted : delivery.event ≠ .stuck
  there : reading delivery.thread = true → delivery.event ≠ .freed
  unfetched : unfetched delivery.thread = true

/-- There is at most the one event of a scan that was started, and nothing but the end of the
scan was ever indicated. -/
structure Inv (state : State Ap) : Prop where
  live : state.staleReads = 0
  tallied : Tallied state
  quiet : ∀ indication ∈ state.indicated, indication = .scanDone
  single : state.deliveries = [] ∨
    ∃ delivery, state.deliveries = [delivery] ∧ state.caller = .started ∧ Kept delivery

theorem stale_kept {event : Event} (there : event ≠ .freed) : event.stale = 0 := by
  cases event with
  | freed => exact absurd rfl there
  | live _ | stuck => rfl

/-- A step behind a post keeps the event, reads nothing that was freed and reports nothing. -/
theorem works_kept {delivery : Delivery Ap} {work : Work Ap} {effect : Effect Ap}
    (kept : Kept delivery) (works : Works delivery work effect)
    (frees : work = .cleanup → reading delivery.thread = false)
    (fetches : ∀ records, work = .fetch records → records = none) :
    Kept effect.next ∧ effect.stale = 0 ∧ ∀ told ∈ effect.told, told = .scanDone := by
  cases works with
  | frees number live =>
      have done := frees rfl
      exact ⟨⟨nofun, fun still => absurd (done.symm.trans still) Bool.noConfusion,
        kept.unfetched⟩, rfl, nofun⟩
  | sizes thread =>
      have there := kept.there (by rw [thread]; rfl)
      exact ⟨⟨kept.posted, fun _ => there, rfl⟩, stale_kept there, nofun⟩
  | counts number thread =>
      have there := kept.there (by rw [thread]; rfl)
      exact ⟨⟨kept.posted, nofun, rfl⟩, stale_kept there, nofun⟩
  | fetches number aps thread => cases fetches (some aps) rfl
  | fetchFails number thread => exact ⟨⟨kept.posted, nofun, rfl⟩, rfl, nofun⟩
  | reports ap rest thread | reported thread | doneReporting thread =>
      have other := kept.unfetched
      rw [thread] at other
      cases other
  | ends fetched thread =>
      have other := kept.unfetched
      rw [thread] at other
      refine ⟨⟨kept.posted, nofun, ?_⟩, rfl, fun told => List.mem_singleton.mp⟩
      cases fetched with
      | false => rfl
      | true => cases other

theorem quiet_append {indicated more : List (Indication Ap)}
    (quiet : ∀ indication ∈ indicated, indication = .scanDone)
    (also : ∀ indication ∈ more, indication = .scanDone) :
    ∀ indication ∈ indicated ++ more, indication = .scanDone := by
  intro indication told
  exact (List.mem_append.mp told).elim (quiet indication) (also indication)

theorem inv_caller (inv : Inv before) (tallied : Tallied after)
    (moves : CallerMoves before after) : Inv after := by
  -- no event is let in before the start was reported
  have alone (early : Early before.caller) : before.deliveries = [] :=
    inv.single.resolve_right fun ⟨_, _, started, _⟩ => early.2 started
  cases moves with
  | goes caller early alive => exact ⟨inv.live, tallied, inv.quiet, .inl (alone early)⟩
  | fails early =>
      exact ⟨inv.live, tallied, quiet_append inv.quiet fun _ => List.mem_singleton.mp,
        .inl (alone early)⟩

theorem inv_post {number : UInt16} {created : Bool} (inv : Inv before) (tallied : Tallied after)
    (sound : Sound before (.post number created)) (posts : Posts before number created after) :
    Inv after := by
  obtain ⟨started, alone, granted⟩ := sound
  cases posts with
  | none zero =>
      refine ⟨inv.live, tallied, quiet_append inv.quiet fun _ => List.mem_singleton.mp, .inr ?_⟩
      exact ⟨⟨.live number, .uncreated⟩, by simp [indicate, alone], started, nofun, nofun, rfl⟩
  | stuck some refused =>
      rw [granted some] at refused
      cases refused
  | some some =>
      refine ⟨inv.live, tallied, inv.quiet, .inr ?_⟩
      exact ⟨⟨.live number, .sizing⟩, by simp [alone], started, nofun, fun _ => nofun, rfl⟩

theorem inv_work {index : Nat} {delivery : Delivery Ap} {work : Work Ap} {effect : Effect Ap}
    (inv : Inv before) (tallied : Tallied (before.apply index effect))
    (sound : Sound before (.work index work)) (found : before.deliveries[index]? = some delivery)
    (works : Works delivery work effect) : Inv (before.apply index effect) := by
  have frees : work = .cleanup → reading delivery.thread = false := by
    rintro rfl
    simpa only [Sound, found] using sound
  have fetches : ∀ records, work = .fetch records → records = none := by
    rintro records rfl
    exact sound
  rcases inv.single with alone | ⟨only, alone, started, kept⟩
  · rw [alone] at found
    cases found
  · rw [alone] at found
    -- the work is that of the one delivery there is
    obtain ⟨rfl, rfl⟩ : index = 0 ∧ only = delivery := by
      cases index with
      | zero => exact ⟨rfl, Option.some.inj found⟩
      | succ index => cases found
    obtain ⟨still, stale, told⟩ := works_kept kept works frees fetches
    refine ⟨?_, tallied, quiet_append inv.quiet told, .inr ⟨effect.next, ?_, started, still⟩⟩
    · rw [State.apply, inv.live, stale]
    · rw [State.apply, alone]
      rfl

theorem inv_step {act : Act Ap} (inv : Inv before) (sound : Sound before act)
    (taken : step before act = some after) : Inv after := by
  have tallied := tallied_step inv.tallied taken
  cases step_moves taken with
  | caller moves => exact inv_caller inv tallied moves
  | post posts => exact inv_post inv tallied sound posts
  | work found works => exact inv_work inv tallied sound found works

/-- With nothing but ends indicated, they are told as often as they are counted. -/
theorem Inv.told (inv : Inv state) :
    Told state.indicated (state.indicated.countP Indication.isDone) := by
  have ends : state.indicated = List.replicate state.indicated.length .scanDone :=
    List.eq_replicate_of_mem inv.quiet
  refine ⟨[], ?_⟩
  have each : state.indicated.countP Indication.isDone = state.indicated.length :=
    List.countP_eq_length.mpr fun told member => by rw [inv.quiet told member]; rfl
  rw [each]
  exact ends

theorem kept_dones {delivery : Delivery Ap} (kept : Kept delivery) : delivery.dones ≤ 1 := by
  have unfetched := kept.unfetched
  unfold Delivery.dones
  cases thread : delivery.thread with
  | uncreated =>
      dsimp only
      rw [if_neg kept.posted]
  | sizing | counting | fetching _ | reporting _ | doneReporting => exact Nat.zero_le 1
  | ending fetched | finished fetched =>
      rw [thread] at unfetched
      cases fetched with
      | false => simp
      | true => cases unfetched

theorem kept_over {delivery : Delivery Ap} (kept : Kept delivery) (done : delivery.Over) :
    delivery.dones = 1 := by
  have unfetched := kept.unfetched
  obtain ⟨freed, ended⟩ := done.resolve_left kept.posted
  unfold Delivery.dones
  rcases ended with uncreated | ⟨fetched, finished⟩
  · rw [uncreated, freed]
    rfl
  · rw [finished] at unfetched ⊢
    cases fetched with
    | false => rfl
    | true => cases unfetched

theorem Inv.dones_le (inv : Inv state) : state.indicated.countP Indication.isDone ≤ 1 := by
  rw [inv.tallied]
  rcases inv.single with alone | ⟨delivery, alone, started, kept⟩
  · rw [alone]
    cases state.caller with
    | failed => exact Nat.le_refl 1
    | getMode | setMode _ | scanStart | started => exact Nat.zero_le 1
  · rw [alone, started, List.map_singleton, List.sum_singleton]
    exact Nat.le_trans (Nat.le_of_eq (Nat.zero_add _)) (kept_dones kept)

theorem Inv.dones_complete (inv : Inv state) (complete : Complete state) :
    state.indicated.countP Indication.isDone = 1 := by
  rw [inv.tallied]
  rcases inv.single with alone | ⟨delivery, alone, started, kept⟩
  · have failed := complete.1.resolve_right fun both => both.2 alone
    rw [alone, failed]
    rfl
  · rw [alone, started, List.map_singleton, List.sum_singleton]
    have done := complete.2 delivery (by simp [alone])
    exact (Nat.zero_add _).trans (kept_over kept done)

/-- While a scan gets its one event behind a start that was reported, with a thread, no records
are fetched and no event is freed before the thread has read it, the scan is ended once,
behind its reports. -/
theorem scan_ends_once (state : State Ap) (run : Run step Sound init state) : Good state := by
  have inv : Inv state := by
    apply run.invariant
    · exact ⟨rfl, rfl, nofun, .inl rfl⟩
    · intro before act after _ inv sound taken
      exact inv_step inv sound taken
  refine ⟨inv.live, ⟨_, inv.dones_le, inv.told⟩, ?_⟩
  intro complete
  have told := inv.told
  rwa [inv.dones_complete complete] at told

/-- A scan that finds an access point, up to the thread. -/
def found : List (Act Nat) := [.getMode (some .sta), .scanStart true, .post 1 true]

theorem scan_ends_once_unfetched :
    ∃ state : State Nat, Complete state ∧ state.indicated = [.scanDone] ∧ Good state := by
  obtain ⟨state, run, here⟩ := admitted_reaches step Sound init
    (found ++ [.work 0 .size, .work 0 (.count 1), .work 0 .cleanup, .work 0 (.fetch none),
      .work 0 .go])
    (fun state => state.caller = .started ∧ state.deliveries = [⟨.freed, .finished false⟩] ∧
      state.indicated = [.scanDone]) (by decide) (by decide)
  obtain ⟨started, alone, told⟩ := here
  have done : ∀ delivery ∈ state.deliveries, delivery.Over := by
    intro delivery member
    rw [alone] at member
    rw [List.mem_singleton.mp member]
    exact .inr ⟨rfl, .inr ⟨false, rfl⟩⟩
  have there : state.deliveries ≠ [] := by simp [alone]
  exact ⟨state, ⟨.inr ⟨started, there⟩, done⟩, told, scan_ends_once state run⟩

/-- A scan that works is ended twice, and so is one whose start is reported as failed while
the slave scans; the event may be freed before the thread reads it; and without a thread the
scan is never ended. -/
theorem scan_ends_once_fails :
    (∃ state : State Nat, Run step unguarded init state ∧
      state.deliveries = [⟨.freed, .finished true⟩] ∧ state.staleReads = 0 ∧
      state.indicated = [.scanReport 5, .scanDone, .scanDone]) ∧
    (∃ state : State Nat, Run step unguarded init state ∧
      state.deliveries = [⟨.freed, .uncreated⟩] ∧ state.indicated = [.scanDone, .scanDone]) ∧
    (∃ state : State Nat, Run step unguarded init state ∧ state.staleReads = 2) ∧
    ∃ state : State Nat, Run step unguarded init state ∧
      state.caller = .started ∧ state.deliveries = [⟨.stuck, .uncreated⟩] ∧
      state.indicated = [] := by
  refine ⟨?_, ?_, ?_, ?_⟩
  · exact exec_reaches step init
      (found ++ [.work 0 .size, .work 0 (.count 1), .work 0 .cleanup, .work 0 (.fetch (some [5])),
        .work 0 .go, .work 0 .go, .work 0 .go, .work 0 .go])
      (fun state => state.deliveries = [⟨.freed, .finished true⟩] ∧ state.staleReads = 0 ∧
        state.indicated = [.scanReport 5, .scanDone, .scanDone]) (by decide)
  · exact exec_reaches step init
      [.getMode (some .sta), .scanStart false, .post 0 true, .work 0 .cleanup]
      (fun state => state.deliveries = [⟨.freed, .uncreated⟩] ∧
        state.indicated = [.scanDone, .scanDone]) (by decide)
  · exact exec_reaches step init
      (found ++ [.work 0 .cleanup, .work 0 .size, .work 0 (.count 0)])
      (fun state => state.staleReads = 2) (by decide)
  · exact exec_reaches step init [.getMode (some .sta), .scanStart true, .post 1 false]
      (fun state => state.caller = .started ∧ state.deliveries = [⟨.stuck, .uncreated⟩] ∧
        state.indicated = []) (by decide)

end EspHosted.WlanScan

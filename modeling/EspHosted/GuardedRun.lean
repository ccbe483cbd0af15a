import Mathlib.Logic.Basic

/-!
Runs of a partial step function under a guard. `step` is `none` when the action
is not enabled. A guard restricts which enabled actions a run may take; the
trivial guard gives every run. Nothing here mentions the modelled program.
-/

namespace EspHosted.GuardedRun

universe u v
variable {State : Type u} {Act : Type v}

/-- Actions taken one after the other; `none` once one of them is not enabled. -/
def exec (step : State → Act → Option State) : State → List Act → Option State
  | state, [] => some state
  | state, act :: rest => (step state act).bind fun next => exec step next rest

inductive Run (step : State → Act → Option State) (guard : State → Act → Prop)
    (start : State) : State → Prop where
  | refl : Run step guard start start
  | next {before after : State} (act : Act) (run : Run step guard start before)
      (allowed : guard before act) (taken : step before act = some after) :
      Run step guard start after

def unguarded (_ : State) (_ : Act) : Prop := True

variable {step : State → Act → Option State} {guard weaker : State → Act → Prop}
variable {start before after : State}

/-- The invariant rule. The run so far is available to the step obligation, so
an invariant can lean on the ones proved before it. -/
theorem Run.invariant {inv : State → Prop} (initial : inv start)
    (preserved : ∀ before act after, Run step guard start before → inv before →
      guard before act → step before act = some after → inv after)
    (run : Run step guard start after) : inv after := by
  induction run with
  | refl => exact initial
  | next act run allowed taken ih => exact preserved _ act _ run ih allowed taken

/-- A guard may be replaced by one that holds wherever the run comes. -/
theorem Run.admit (admits : ∀ before act, Run step guard start before → guard before act →
      weaker before act) (run : Run step guard start after) : Run step weaker start after := by
  induction run with
  | refl => exact .refl
  | next act prior allowed taken ih => exact .next act ih (admits _ act prior allowed) taken

theorem Run.weaken (implied : ∀ state act, guard state act → weaker state act)
    (run : Run step guard start after) : Run step weaker start after :=
  run.admit fun state act _ => implied state act

theorem Run.forget (run : Run step guard start after) :
    Run step unguarded start after :=
  run.weaken fun _ _ _ => trivial

theorem exec_run_from (acts : List Act) (prior : Run step unguarded start before)
    (result : exec step before acts = some after) : Run step unguarded start after := by
  induction acts generalizing before with
  | nil =>
      cases result
      exact prior
  | cons act rest ih =>
      obtain ⟨middle, taken, tail⟩ := Option.bind_eq_some_iff.mp result
      exact ih (.next act prior trivial taken) tail

theorem exec_run (acts : List Act) (result : exec step start acts = some after) :
    Run step unguarded start after :=
  exec_run_from acts .refl result

theorem exec_append (first rest : List Act) :
    exec step start (first ++ rest) =
      (exec step start first).bind fun middle => exec step middle rest := by
  induction first generalizing start with
  | nil => rfl
  | cons act first ih =>
      change ((step start act).bind fun next => exec step next (first ++ rest)) = _
      cases taken : step start act with
      | none => simp only [exec, taken, Option.bind_none]
      | some next => simp only [exec, taken, Option.bind_some, ih]

theorem exec_reaches (step : State → Act → Option State) (start : State) (acts : List Act)
    (prop : State → Prop) (shown : ∃ state ∈ exec step start acts, prop state) :
    ∃ state, Run step unguarded start state ∧ prop state := by
  obtain ⟨state, result, holds⟩ := shown
  exact ⟨state, exec_run acts result, holds⟩

/-- Every action of the list is allowed where it is taken. -/
def Admits (step : State → Act → Option State) (guard : State → Act → Prop) :
    State → List Act → Prop
  | _, [] => True
  | state, act :: rest =>
      guard state act ∧ match step state act with
        | none => True
        | some next => Admits step guard next rest

instance admitsDecidable (step : State → Act → Option State) (guard : State → Act → Prop)
    [∀ state act, Decidable (guard state act)] :
    (state : State) → (acts : List Act) → Decidable (Admits step guard state acts)
  | _, [] => .isTrue trivial
  | state, act :: rest =>
      @instDecidableAnd _ _ _ (match step state act with
        | none => .isTrue trivial
        | some next => admitsDecidable step guard next rest)

/-- Guards that agree on every action admit the same lists. -/
theorem admits_congr (same : ∀ state act, guard state act ↔ weaker state act)
    (state : State) (acts : List Act) :
    Admits step guard state acts ↔ Admits step weaker state acts := by
  induction acts generalizing state with
  | nil => exact Iff.rfl
  | cons act rest ih =>
      apply and_congr (same state act)
      cases step state act with
      | none => exact Iff.rfl
      | some next => exact ih next

theorem admitted_run_from (acts : List Act) (prior : Run step guard start before)
    (admitted : Admits step guard before acts)
    (result : exec step before acts = some after) : Run step guard start after := by
  induction acts generalizing before with
  | nil =>
      cases result
      exact prior
  | cons act rest ih =>
      obtain ⟨middle, taken, tail⟩ := Option.bind_eq_some_iff.mp result
      obtain ⟨allowed, later⟩ := admitted
      rw [taken] at later
      exact ih (.next act prior allowed taken) later tail

theorem admitted_run (acts : List Act) (admitted : Admits step guard start acts)
    (result : exec step start acts = some after) : Run step guard start after :=
  admitted_run_from acts .refl admitted result

theorem admitted_reaches (step : State → Act → Option State) (guard : State → Act → Prop)
    (start : State) (acts : List Act) (prop : State → Prop)
    (admitted : Admits step guard start acts)
    (shown : ∃ state ∈ exec step start acts, prop state) :
    ∃ state, Run step guard start state ∧ prop state := by
  obtain ⟨state, result, holds⟩ := shown
  exact ⟨state, admitted_run acts admitted result, holds⟩

/-- A measure that every allowed action decreases bounds the length of a run. -/
theorem admitted_length {inv : State → Prop} (measure : State → Nat)
    (decreases : ∀ before act after, inv before → guard before act →
      step before act = some after → inv after ∧ measure after < measure before)
    (acts : List Act) (start_inv : inv start) (admitted : Admits step guard start acts)
    (result : exec step start acts = some after) :
    inv after ∧ acts.length + measure after ≤ measure start := by
  induction acts generalizing start with
  | nil =>
      cases result
      exact ⟨start_inv, Nat.le_of_eq (Nat.zero_add _)⟩
  | cons act rest ih =>
      obtain ⟨middle, taken, tail⟩ := Option.bind_eq_some_iff.mp result
      obtain ⟨allowed, later⟩ := admitted
      rw [taken] at later
      obtain ⟨middle_inv, smaller⟩ := decreases start act middle start_inv allowed taken
      obtain ⟨after_inv, short⟩ := ih middle_inv later tail
      refine ⟨after_inv, ?_⟩
      rw [List.length_cons]
      omega

/-- What the actions cost one after the other. -/
def costs (cost : Act → Nat) : List Act → Nat
  | [] => 0
  | act :: rest => cost act + costs cost rest

theorem costs_eq_zero (cost : Act → Nat) (acts : List Act) :
    costs cost acts = 0 ↔ ∀ act ∈ acts, cost act = 0 := by
  induction acts with
  | nil => exact ⟨fun _ => nofun, fun _ => rfl⟩
  | cons act rest ih => rw [costs, Nat.add_eq_zero_iff, ih, List.forall_mem_cons]

/-- A worth that no action raises, and that each lowers by its cost. -/
theorem exec_spends (worth : State → Nat) (cost : Act → Nat) (budget : Nat)
    (each : ∀ before act after, worth before ≤ budget → step before act = some after →
      worth after + cost act = worth before)
    (acts : List Act) (within : worth start ≤ budget)
    (result : exec step start acts = some after) :
    worth after + costs cost acts = worth start := by
  induction acts generalizing start with
  | nil =>
      cases result
      exact Nat.add_zero _
  | cons act rest ih =>
      obtain ⟨middle, taken, tail⟩ := Option.bind_eq_some_iff.mp result
      have spent := each start act middle within taken
      have later := ih (by omega) tail
      rw [costs]
      omega

/-- A part of the state that follows steps of its own, or stays, makes a run of these. -/
theorem Run.project {Part : Type u} {PartAct : Type v} {partStep : Part → PartAct → Option Part}
    (part : State → Part) (follows : ∀ before act after, step before act = some after →
      part after = part before ∨ ∃ own, partStep (part before) own = some (part after))
    (run : Run step guard start after) : Run partStep unguarded (part start) (part after) := by
  induction run with
  | refl => exact .refl
  | next act _ _ taken ih =>
      rcases follows _ act _ taken with stays | ⟨own, moved⟩
      · rw [stays]
        exact ih
      · exact .next own ih trivial moved

theorem Run.trans {middle : State} (first : Run step guard start middle)
    (second : Run step guard middle after) : Run step guard start after := by
  induction second with
  | refl => exact first
  | next act _ allowed taken ih => exact .next act ih allowed taken

/-- A run with a history beside the state, which no step looks at. -/
def watched {History : Type u} (step : State → Act → Option State)
    (note : State → Act → History → History) (seen : State × History) (act : Act) :
    Option (State × History) :=
  (step seen.1 act).map fun next => (next, note seen.1 act seen.2)

section Watched
variable {History : Type u} {note : State → Act → History → History}
variable {first last : State × History}

theorem watched_cases {act : Act} (taken : watched step note first act = some last) :
    step first.1 act = some last.1 ∧ last.2 = note first.1 act first.2 := by
  obtain ⟨next, moved, rfl⟩ := Option.map_eq_some_iff.mp taken
  exact ⟨moved, rfl⟩

theorem Run.unwatched {guarded : State × History → Act → Prop}
    (run : Run (watched step note) guarded first last) : Run step unguarded first.1 last.1 :=
  run.project Prod.fst fun _ act _ taken => Or.inr ⟨act, (watched_cases taken).1⟩

end Watched

end EspHosted.GuardedRun

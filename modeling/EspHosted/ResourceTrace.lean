import Mathlib.Data.List.Count
import Mathlib.Data.List.Monad

/-!
A trace of what is done with resources: each is taken, used, and given back. `Owned` ties
such a trace to a count of who holds a resource; it is kept by whoever takes one that is
fresh, and uses, passes on or gives back one that is held. Nothing here mentions the
modelled program.
-/

namespace EspHosted.ResourceTrace

inductive Use where
  | take
  | access
  | giveBack
  deriving DecidableEq

inductive Phase where
  | fresh
  | held
  | returned
  deriving DecidableEq

/-- What may be done with a resource; `none` is a misuse. -/
def advance : Phase → Use → Option Phase
  | .fresh, .take => some .held
  | .held, .access => some .held
  | .held, .giveBack => some .returned
  | .fresh, .access | .fresh, .giveBack | .held, .take | .returned, _ => none

def phaseAfter : Phase → List Use → Option Phase
  | phase, [] => some phase
  | phase, use :: rest => (advance phase use).bind fun next => phaseAfter next rest

universe u
variable {Id : Type u} [DecidableEq Id]

/-- What was done with one resource. -/
def usesOf (id : Id) (trace : List (Id × Use)) : List Use :=
  (trace.filter fun event => event.1 = id).map Prod.snd

def phaseOf (id : Id) (trace : List (Id × Use)) : Option Phase := phaseAfter .fresh (usesOf id trace)

/-- Nothing was misused, and the resources out of the pool are held, each by one. -/
def Owned (trace : List (Id × Use)) (holders : Id → Nat) : Prop :=
  ∀ id, ∃ phase, phaseOf id trace = some phase ∧ holders id = if phase = .held then 1 else 0

theorem phaseAfter_append (phase : Phase) (first second : List Use) :
    phaseAfter phase (first ++ second) =
      (phaseAfter phase first).bind fun next => phaseAfter next second := by
  induction first generalizing phase with
  | nil => rfl
  | cons use rest ih =>
      simp only [List.cons_append, phaseAfter, Option.bind_assoc, ih]

theorem usesOf_append (id : Id) (first second : List (Id × Use)) :
    usesOf id (first ++ second) = usesOf id first ++ usesOf id second := by
  simp [usesOf]

theorem usesOf_nil {id : Id} {trace : List (Id × Use)} :
    usesOf id trace = [] ↔ ∀ use, (id, use) ∉ trace := by
  rw [usesOf, List.map_eq_nil_iff, List.filter_eq_nil_iff]
  constructor
  · intro none use member
    exact none _ member (decide_eq_true rfl)
  · rintro none ⟨other, use⟩ member same
    obtain rfl : other = id := of_decide_eq_true same
    exact none use member

theorem count_usesOf (id : Id) (use : Use) (trace : List (Id × Use)) :
    (usesOf id trace).count use = trace.count (id, use) := by
  induction trace with
  | nil => rfl
  | cons event rest ih =>
      obtain ⟨other, done⟩ := event
      rw [usesOf] at ih ⊢
      by_cases same : other = id
      · subst same
        simp [List.count_cons, ih]
      · simp [same, ih]

theorem phaseOf_unused {id : Id} {trace : List (Id × Use)} (unused : ∀ use, (id, use) ∉ trace) :
    phaseOf id trace = some .fresh := by
  rw [phaseOf, usesOf_nil.mpr unused]
  rfl

theorem phaseOf_same (id : Id) (use : Use) (trace : List (Id × Use)) :
    phaseOf id (trace ++ [(id, use)]) = (phaseOf id trace).bind fun phase => advance phase use := by
  have one : usesOf id [(id, use)] = [use] := by simp [usesOf]
  rw [phaseOf, usesOf_append, phaseAfter_append, one]
  simp [phaseOf, phaseAfter]

theorem phaseOf_other {id other : Id} (apart : id ≠ other) (use : Use) (trace : List (Id × Use)) :
    phaseOf other (trace ++ [(id, use)]) = phaseOf other trace := by
  have none : usesOf other [(id, use)] = [] := by simp [usesOf, apart]
  rw [phaseOf, usesOf_append, none, List.append_nil, phaseOf]

/-- A resource that was given back is done with. -/
theorem phaseAfter_returned {uses : List Use} {phase : Phase}
    (after : phaseAfter .returned uses = some phase) : uses = [] := by
  cases uses with
  | nil => rfl
  | cons use rest => cases after

/-- Each resource is taken once and given back once, as far as it has come. -/
theorem phaseAfter_counts {uses : List Use} {first last : Phase}
    (after : phaseAfter first uses = some last) :
    uses.count .take + (if first = .fresh then 0 else 1) = (if last = .fresh then 0 else 1) ∧
      uses.count .giveBack + (if first = .returned then 1 else 0) =
        if last = .returned then 1 else 0 := by
  induction uses generalizing first with
  | nil =>
      cases after
      simp
  | cons use rest ih =>
      obtain ⟨next, moved, later⟩ := Option.bind_eq_some_iff.mp after
      obtain ⟨taken, returned⟩ := ih later
      cases first <;> cases use <;> cases moved
      all_goals
        simp only [reduceCtorEq, if_true, if_false] at taken returned
        simp only [List.count_cons, reduceCtorEq, beq_iff_eq, if_true, if_false]
        omega

section Owned
variable {trace : List (Id × Use)} {before after holders : Id → Nat} {id : Id}

theorem owned_nil : Owned ([] : List (Id × Use)) fun _ => 0 :=
  fun _ => ⟨.fresh, rfl, rfl⟩

theorem owned_same (owned : Owned trace before) (same : ∀ id, after id = before id) :
    Owned trace after := by
  intro id
  rw [same id]
  exact owned id

theorem owned_take (owned : Owned trace before) (unused : ∀ use, (id, use) ∉ trace)
    (more : ∀ other, after other = before other + if id = other then 1 else 0) :
    Owned (trace ++ [(id, .take)]) after := by
  intro other
  obtain ⟨phase, reached, held⟩ := owned other
  rw [more other]
  by_cases same : id = other
  · subst same
    rw [phaseOf_unused unused] at reached
    cases reached
    refine ⟨.held, ?_, ?_⟩
    · rw [phaseOf_same, phaseOf_unused unused]
      rfl
    · simp [held]
  · exact ⟨phase, by rw [phaseOf_other same, reached], by simp [same, held]⟩

theorem held_phase (owned : Owned trace holders) (held : 0 < holders id) :
    phaseOf id trace = some .held ∧ holders id = 1 := by
  obtain ⟨phase, reached, weight⟩ := owned id
  cases phase with
  | held => exact ⟨reached, weight⟩
  | fresh | returned =>
      rw [weight] at held
      exact absurd held (Nat.lt_irrefl 0)

theorem owned_access (owned : Owned trace holders) (held : 0 < holders id) :
    Owned (trace ++ [(id, .access)]) holders := by
  obtain ⟨here, one⟩ := held_phase owned held
  intro other
  by_cases same : id = other
  · subst same
    refine ⟨.held, ?_, one⟩
    rw [phaseOf_same, here]
    rfl
  · rw [phaseOf_other same]
    exact owned other

theorem owned_giveBack (owned : Owned trace before)
    (less : ∀ other, before other = after other + if id = other then 1 else 0) :
    Owned (trace ++ [(id, .giveBack)]) after := by
  have mine := less id
  rw [if_pos rfl] at mine
  obtain ⟨here, one⟩ := held_phase owned (Nat.lt_of_lt_of_eq (Nat.succ_pos _) mine.symm)
  intro other
  by_cases same : id = other
  · subst same
    refine ⟨.returned, ?_, ?_⟩
    · rw [phaseOf_same, here]
      rfl
    · simp only [reduceCtorEq, if_false]
      omega
  · rw [phaseOf_other same]
    have unchanged := less other
    rw [if_neg same, Nat.add_zero] at unchanged
    rw [← unchanged]
    exact owned other

/-- What was taken was given back or is held. -/
theorem Owned.account (owned : Owned trace holders) (id : Id) :
    trace.count (id, .take) = trace.count (id, .giveBack) + holders id := by
  obtain ⟨phase, reached, held⟩ := owned id
  obtain ⟨taken, returned⟩ := phaseAfter_counts reached
  rw [count_usesOf] at taken returned
  rw [held]
  cases phase with
  | fresh | held | returned =>
      simp only [reduceCtorEq, if_true, if_false] at taken returned ⊢
      omega

theorem Owned.once (owned : Owned trace holders) (id : Id) : trace.count (id, .giveBack) ≤ 1 := by
  obtain ⟨phase, reached, _⟩ := owned id
  have returned := (phaseAfter_counts reached).2
  rw [count_usesOf] at returned
  split at returned <;> split at returned <;> omega

/-- Nothing is done with a resource after it was given back. -/
theorem Owned.silent {first second : List (Id × Use)} (owned : Owned trace holders)
    (split : trace = first ++ (id, .giveBack) :: second) : ∀ use, (id, use) ∉ second := by
  obtain ⟨phase, reached, _⟩ := owned id
  have parts : usesOf id trace = usesOf id first ++ .giveBack :: usesOf id second := by
    rw [split, usesOf_append]
    simp [usesOf]
  rw [phaseOf, parts, phaseAfter_append] at reached
  obtain ⟨middle, _, later⟩ := Option.bind_eq_some_iff.mp reached
  obtain ⟨next, moved, rest⟩ := Option.bind_eq_some_iff.mp later
  have returned : next = .returned := by
    cases middle <;> cases moved
    rfl
  rw [returned] at rest
  exact usesOf_nil.mp (phaseAfter_returned rest)

end Owned

/-- Resources numbered in the order they are taken; those from `next` on are fresh. -/
structure Ledger (trace : List (Nat × Use)) (holders : Nat → Nat) (next : Nat) : Prop where
  owned : Owned trace holders
  fresh : ∀ id, next ≤ id → ∀ use, (id, use) ∉ trace

section Ledger
variable {trace : List (Nat × Use)} {before after holders : Nat → Nat} {id next : Nat}

theorem ledger_nil : Ledger [] (fun _ => 0) next :=
  ⟨owned_nil, fun _ _ _ member => List.not_mem_nil member⟩

theorem ledger_same (ledger : Ledger trace before next) (same : ∀ id, after id = before id) :
    Ledger trace after next :=
  ⟨owned_same ledger.owned same, ledger.fresh⟩

theorem Ledger.held_old (ledger : Ledger trace holders next) (held : 0 < holders id) : id < next := by
  have account := ledger.owned.account id
  have taken : (id, Use.take) ∈ trace := by
    apply List.count_pos_iff.mp
    omega
  by_contra old
  exact ledger.fresh id (Nat.le_of_not_lt old) .take taken

theorem Ledger.still_fresh (ledger : Ledger trace holders next) (old : id < next) (use : Use)
    (other : Nat) (new : next ≤ other) (done : Use) : (other, done) ∉ trace ++ [(id, use)] := by
  intro member
  rcases List.mem_append.mp member with before | now
  · exact ledger.fresh other new done before
  · cases List.mem_singleton.mp now
    exact absurd old (Nat.not_lt_of_le new)

theorem ledger_take (ledger : Ledger trace before next)
    (more : ∀ other, after other = before other + if next = other then 1 else 0) :
    Ledger (trace ++ [(next, .take)]) after (next + 1) := by
  refine ⟨owned_take ledger.owned (ledger.fresh next (Nat.le_refl next)) more, ?_⟩
  intro other new use member
  rcases List.mem_append.mp member with before | now
  · exact ledger.fresh other (Nat.le_of_succ_le new) use before
  · cases List.mem_singleton.mp now
    exact absurd new (Nat.not_succ_le_self next)

theorem ledger_access (ledger : Ledger trace holders next) (held : 0 < holders id) :
    Ledger (trace ++ [(id, .access)]) holders next :=
  ⟨owned_access ledger.owned held, ledger.still_fresh (ledger.held_old held) .access⟩

theorem ledger_accesses {events : List (Nat × Use)} (ledger : Ledger trace holders next)
    (held : 0 < holders id) (only : ∀ event ∈ events, event = (id, .access)) :
    Ledger (trace ++ events) holders next := by
  induction events generalizing trace with
  | nil => simpa using ledger
  | cons event rest ih =>
      obtain ⟨rfl, later⟩ := List.forall_mem_cons.mp only
      rw [List.append_cons]
      exact ih (ledger_access ledger held) later

theorem ledger_giveBack (ledger : Ledger trace before next)
    (less : ∀ other, before other = after other + if id = other then 1 else 0) :
    Ledger (trace ++ [(id, .giveBack)]) after next := by
  have mine := less id
  rw [if_pos rfl] at mine
  exact ⟨owned_giveBack ledger.owned less,
    ledger.still_fresh (ledger.held_old (Nat.lt_of_lt_of_eq (Nat.succ_pos _) mine.symm)) .giveBack⟩

/-- A resource that nobody holds has been given back exactly once, if it was ever taken. -/
theorem Ledger.settled (ledger : Ledger trace holders next) (free : holders id = 0)
    (taken : (id, Use.take) ∈ trace) : trace.count (id, .giveBack) = 1 := by
  have account := ledger.owned.account id
  have once := ledger.owned.once id
  have some_take := List.count_pos_iff.mpr taken
  omega

end Ledger

/-- A ledger whose holders are a list, each of which holds the one resource it names. -/
def Holding (trace : List (Nat × Use)) (held : List Nat) (next : Nat) : Prop :=
  Ledger trace (fun id => held.count id) next

section Holding
variable {trace : List (Nat × Use)} {held other : List Nat} {id next : Nat}

theorem holding_nil : Holding [] [] next := ledger_nil

theorem Holding.perm (holding : Holding trace held next) (same : held.Perm other) :
    Holding trace other next :=
  ledger_same holding fun id => (same.count_eq id).symm

theorem Holding.take (holding : Holding trace held next) :
    Holding (trace ++ [(next, .take)]) (next :: held) (next + 1) := by
  apply ledger_take holding
  intro other
  simp only [List.count_cons, beq_iff_eq]

theorem Holding.access (holding : Holding trace held next) (member : id ∈ held) :
    Holding (trace ++ [(id, .access)]) held next :=
  ledger_access holding (List.count_pos_iff.mpr member)

theorem Holding.giveBack (holding : Holding trace (id :: held) next) :
    Holding (trace ++ [(id, .giveBack)]) held next := by
  apply ledger_giveBack holding
  intro other
  simp only [List.count_cons, beq_iff_eq]

/-- A resource somebody holds was taken and has not been given back. -/
theorem Holding.live (holding : Holding trace held next) (member : id ∈ held) :
    (id, Use.take) ∈ trace ∧ (id, Use.giveBack) ∉ trace := by
  have positive : 0 < held.count id := List.count_pos_iff.mpr member
  obtain ⟨phase, _⟩ := held_phase holding.owned positive
  obtain ⟨taken, returned⟩ := phaseAfter_counts phase
  rw [count_usesOf] at taken returned
  simp only [reduceCtorEq, if_true, if_false, Nat.add_zero] at taken returned
  refine ⟨List.count_pos_iff.mp ?_, List.count_eq_zero.mp returned⟩
  rw [taken]
  exact Nat.zero_lt_one

theorem Holding.once (holding : Holding trace held next) (id : Nat) :
    trace.count (id, .giveBack) ≤ 1 :=
  holding.owned.once id

theorem Holding.old (holding : Holding trace held next) (member : id ∈ held) : id < next :=
  holding.held_old (List.count_pos_iff.mpr member)

end Holding

end EspHosted.ResourceTrace

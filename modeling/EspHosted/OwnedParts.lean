import Mathlib.Data.List.Basic
import Mathlib.Data.List.Count

/-!
Structures of allocated parts that hang on pointers. A part is named by the path of fields
that leads to it, the last field first, so that the parts it is reached through are the tails
of its path. A builder allocates parts one after the other and stops at a refusal; a cleanup
frees them, following the pointers that are still set. Nothing here mentions the modelled
program.
-/

namespace EspHosted.OwnedParts

abbrev Path (Field : Type) := List Field

/-- What a builder does next. `follow` reads through a pointer of somebody else, `check` stops
the program where a call it insists on fails, `scratch` allocates what is no part of the
structure, `count` raises a counter, and the number behind an allocation is what is returned
when it is refused. -/
inductive Instr (Field : Type) where
  | follow (present : Bool)
  | check (passed : Bool)
  | alloc (part : Path Field) (otherwise : Int)
  | scratch (otherwise : Int)
  | count
  | ret (code : Int)

structure Built (Field : Type) where
  asked : Nat
  held : List (Path Field)
  counted : Nat

inductive Result (Field : Type) where
  | crashed
  | returned (code : Int) (built : Built Field)

/-- What a cleanup does next: look at the pointer of a part, or free the part if it is set and
clear the pointer. -/
inductive Clean (Field : Type) where
  | look (part : Path Field)
  | free (part : Path Field)
  deriving DecidableEq

def Clean.part {Field : Type} : Clean Field → Path Field
  | .look part => part
  | .free part => part

structure Ledger (Field : Type) where
  held : List (Path Field)
  freed : List (Path Field)

variable {Field : Type} [DecidableEq Field]

/-- Every pointer of the path is set. -/
def Reached (held : List (Path Field)) : Path Field → Prop
  | [] => True
  | field :: up => field :: up ∈ held ∧ Reached held up

instance decidableReached (held : List (Path Field)) : ∀ path, Decidable (Reached held path)
  | [] => inferInstanceAs (Decidable True)
  | field :: up =>
      have := decidableReached held up
      inferInstanceAs (Decidable (field :: up ∈ held ∧ Reached held up))

/-- Runs a builder over the answers of the allocator, by number of the request. -/
def exec (calloc : Nat → Bool) : List (Instr Field) → Built Field → Result Field
  | [], built => .returned 0 built
  | .follow present :: rest, built => if present then exec calloc rest built else .crashed
  | .check passed :: rest, built => if passed then exec calloc rest built else .crashed
  | .alloc part otherwise :: rest, built =>
      if Reached built.held part.tail then
        if calloc built.asked then
          exec calloc rest { built with asked := built.asked + 1, held := part :: built.held }
        else .returned otherwise { built with asked := built.asked + 1 }
      else .crashed
  | .scratch otherwise :: rest, built =>
      if calloc built.asked then exec calloc rest { built with asked := built.asked + 1 }
      else .returned otherwise { built with asked := built.asked + 1 }
  | .count :: rest, built => exec calloc rest { built with counted := built.counted + 1 }
  | .ret code :: _, built => .returned code built

def Ledger.memFree (part : Path Field) (ledger : Ledger Field) : Ledger Field :=
  if part ∈ ledger.held then
    { held := ledger.held.erase part, freed := part :: ledger.freed }
  else ledger

/-- Runs a cleanup; `none` where a pointer on the way to a part is not set. -/
def release : List (Clean Field) → Ledger Field → Option (Ledger Field)
  | [], ledger => some ledger
  | .look part :: rest, ledger =>
      if Reached ledger.held part.tail then release rest ledger else none
  | .free part :: rest, ledger =>
      if Reached ledger.held part.tail then release rest (ledger.memFree part) else none

def FreedOnce (held freed : List (Path Field)) : Prop :=
  (∀ part ∈ held, freed.count part = 1) ∧ ∀ part ∈ freed, part ∈ held

instance decidableFreedOnce (held freed : List (Path Field)) : Decidable (FreedOnce held freed) :=
  inferInstanceAs (Decidable ((∀ part ∈ held, freed.count part = 1) ∧ ∀ part ∈ freed, part ∈ held))

/-- The cleanup runs through and frees each held part exactly once. -/
def Released (cleaning : List (Clean Field)) (held : List (Path Field)) : Prop :=
  match release cleaning { held := held, freed := [] } with
  | none => False
  | some ledger => FreedOnce held ledger.freed

instance decidableReleased (cleaning : List (Clean Field)) (held : List (Path Field)) :
    Decidable (Released cleaning held) :=
  match run : release cleaning { held := held, freed := [] } with
  | none => isFalse (by simp [Released, run])
  | some ledger =>
      decidable_of_iff (FreedOnce held ledger.freed) (by simp [Released, run])

omit [DecidableEq Field] in
theorem reached_mono {held more : List (Path Field)} {path : Path Field}
    (grows : ∀ part ∈ held, part ∈ more) (reached : Reached held path) : Reached more path := by
  induction path with
  | nil => trivial
  | cons field up ih => exact ⟨grows _ reached.1, ih reached.2⟩

/-- Freeing a part leaves every path that does not lead through it. -/
theorem reached_erase {held : List (Path Field)} {part path : Path Field}
    (apart : ¬ part <:+ path) (reached : Reached held path) : Reached (held.erase part) path := by
  induction path with
  | nil => trivial
  | cons field up ih =>
      have differs : field :: up ≠ part := by
        intro same
        exact apart (same ▸ List.suffix_refl part)
      have above : ¬ part <:+ up := fun through => apart (through.trans (List.suffix_cons field up))
      exact ⟨(List.mem_erase_of_ne differs).mpr reached.1, ih above reached.2⟩

/-- A cleanup goes from the leaves up: what it frees leads to nothing it still looks at. -/
def LeafFirst (cleaning : List (Clean Field)) : Prop :=
  cleaning.Pairwise fun earlier later =>
    ∀ part, earlier = .free part → ¬ part <:+ later.part.tail

theorem count_memFree (ledger : Ledger Field) (part other : Path Field) :
    (ledger.memFree part).freed.count other =
      ledger.freed.count other + (if other = part ∧ part ∈ ledger.held then 1 else 0) := by
  rw [Ledger.memFree]
  by_cases set : part ∈ ledger.held
  · by_cases same : other = part
    · simp [set, same]
    · simp [set, same, List.count_cons_of_ne (Ne.symm same)]
  · simp [set]

theorem held_memFree {ledger : Ledger Field} (distinct : ledger.held.Nodup)
    (part other : Path Field) :
    other ∈ (ledger.memFree part).held ↔ other ∈ ledger.held ∧ other ≠ part := by
  rw [Ledger.memFree]
  by_cases set : part ∈ ledger.held
  · rw [if_pos set]
    simp only [distinct.mem_erase_iff, and_comm]
  · rw [if_neg set]
    constructor
    · intro member
      exact ⟨member, fun same => set (same ▸ member)⟩
    · exact And.left

theorem nodup_memFree {ledger : Ledger Field} (distinct : ledger.held.Nodup) (part : Path Field) :
    (ledger.memFree part).held.Nodup := by
  rw [Ledger.memFree]
  split
  · exact distinct.erase part
  · exact distinct

/-- A cleanup from the leaves up frees what it names and finds set, each part once. -/
theorem release_leafFirst {cleaning : List (Clean Field)} {ledger : Ledger Field}
    (reached : ∀ clean ∈ cleaning, Reached ledger.held clean.part.tail)
    (leafFirst : LeafFirst cleaning) (distinct : ledger.held.Nodup) :
    ∃ after, release cleaning ledger = some after ∧ ∀ part, after.freed.count part =
      ledger.freed.count part +
        (if part ∈ ledger.held ∧ Clean.free part ∈ cleaning then 1 else 0) := by
  induction cleaning generalizing ledger with
  | nil => exact ⟨ledger, rfl, by simp⟩
  | cons clean rest ih =>
      have here := reached clean List.mem_cons_self
      obtain ⟨before, later⟩ := List.pairwise_cons.mp leafFirst
      cases clean with
      | look part =>
          change Reached ledger.held part.tail at here
          obtain ⟨after, run, counts⟩ := ih
            (fun next member => reached next (List.mem_cons_of_mem _ member)) later distinct
          refine ⟨after, ?_, fun other => ?_⟩
          · rw [release, if_pos here, run]
          · rw [counts other]
            simp
      | free part =>
          change Reached ledger.held part.tail at here
          have still : ∀ next ∈ rest, Reached (ledger.memFree part).held next.part.tail := by
            intro next member
            have kept := reached next (List.mem_cons_of_mem _ member)
            rw [Ledger.memFree]
            split
            · exact reached_erase (before next member part rfl) kept
            · exact kept
          obtain ⟨after, run, counts⟩ := ih still later (nodup_memFree distinct part)
          refine ⟨after, ?_, fun other => ?_⟩
          · rw [release, if_pos here, run]
          · rw [counts other, count_memFree, Nat.add_assoc]
            congr 1
            by_cases same : other = part
            · subst same
              simp [held_memFree distinct]
            · simp [held_memFree distinct, same]

/-- A cleanup from the leaves up that reaches all it looks at and names all that is held. -/
theorem released {cleaning : List (Clean Field)} {held : List (Path Field)}
    (reached : ∀ clean ∈ cleaning, Reached held clean.part.tail)
    (leafFirst : LeafFirst cleaning) (distinct : held.Nodup)
    (named : ∀ part ∈ held, Clean.free part ∈ cleaning) : Released cleaning held := by
  obtain ⟨after, run, counts⟩ :=
    @release_leafFirst _ _ _ { held := held, freed := [] } reached leafFirst distinct
  simp only [Released, run]
  constructor
  · intro part member
    rw [counts part]
    simp [member, named part member]
  · intro part member
    have positive := List.count_pos_iff.mpr member
    rw [counts part] at positive
    by_contra absent
    simp [absent] at positive

theorem freed_named {cleaning : List (Clean Field)} {ledger after : Ledger Field}
    (run : release cleaning ledger = some after) :
    ∀ part ∈ after.freed, part ∈ ledger.freed ∨ Clean.free part ∈ cleaning := by
  induction cleaning generalizing ledger with
  | nil =>
      intro part member
      cases run
      exact Or.inl member
  | cons clean rest ih =>
      intro part member
      cases clean with
      | look looked =>
          rw [release] at run
          split at run
          · exact (ih run part member).imp_right (List.mem_cons_of_mem _)
          · cases run
      | free freed =>
          rw [release] at run
          split at run
          · rcases ih run part member with earlier | later
            · rw [Ledger.memFree] at earlier
              split at earlier
              · rcases List.mem_cons.mp earlier with same | before
                · exact Or.inr (same ▸ List.mem_cons_self)
                · exact Or.inl before
              · exact Or.inl earlier
            · exact Or.inr (List.mem_cons_of_mem _ later)
          · cases run

/-- A held part that the cleanup does not name is leaked. -/
theorem not_released_unnamed {cleaning : List (Clean Field)} {held : List (Path Field)}
    {part : Path Field} (member : part ∈ held) (unnamed : Clean.free part ∉ cleaning) :
    ¬ Released cleaning held := by
  intro whole
  rw [Released] at whole
  split at whole
  · exact whole
  · rename_i after run
    have once := whole.1 part member
    have freed : part ∈ after.freed := List.count_pos_iff.mp (by omega)
    rcases freed_named run part freed with before | named
    · cases before
    · exact unnamed named

/-- A cleanup that begins behind a pointer that is not set crashes. -/
theorem not_released_unreached {clean : Clean Field} {rest : List (Clean Field)}
    {held : List (Path Field)} (lost : ¬ Reached held clean.part.tail) :
    ¬ Released (clean :: rest) held := by
  have crash : release (clean :: rest) { held := held, freed := [] } = none := by
    cases clean with
    | look part => rw [release, if_neg (show ¬ Reached held part.tail from lost)]
    | free part => rw [release, if_neg (show ¬ Reached held part.tail from lost)]
  simp [Released, crash]

/-- How many of `wanted` requests from number `asked` on are granted before one is refused. -/
def granted (calloc : Nat → Bool) : Nat → Nat → Nat
  | _, 0 => 0
  | asked, wanted + 1 => if calloc asked then granted calloc (asked + 1) wanted + 1 else 0

/-- Each part hangs on parts that are held or allocated before it. -/
def Grows (held : List (Path Field)) : List (Path Field) → Prop
  | [] => True
  | part :: rest => Reached held part.tail ∧ Grows (part :: held) rest

instance decidableGrows (held : List (Path Field)) : ∀ parts, Decidable (Grows held parts)
  | [] => inferInstanceAs (Decidable True)
  | part :: rest =>
      have := decidableGrows (part :: held) rest
      inferInstanceAs (Decidable (Reached held part.tail ∧ Grows (part :: held) rest))

omit [DecidableEq Field] in
theorem grows_append {parts rest held : List (Path Field)} (grows : Grows held parts)
    (more : Grows (parts.reverse ++ held) rest) : Grows held (parts ++ rest) := by
  induction parts generalizing held with
  | nil => exact more
  | cons part parts ih =>
      rw [List.reverse_cons, List.append_assoc] at more
      exact ⟨grows.1, ih grows.2 more⟩

omit [DecidableEq Field] in
/-- A row of blocks grows if each block does, from what the first of them started with. -/
theorem grows_blocks {blocks : List (List (Path Field))} {held : List (Path Field)}
    {root : Path Field} (reached : Reached held root)
    (each : ∀ block ∈ blocks, ∀ more, Reached more root → Grows more block) :
    Grows held blocks.flatten := by
  induction blocks generalizing held with
  | nil => trivial
  | cons block blocks ih =>
      refine grows_append (each block List.mem_cons_self held reached) (ih ?_ ?_)
      · exact reached_mono (fun part member => List.mem_append_right _ member) reached
      · exact fun next member => each next (List.mem_cons_of_mem _ member)

/-- A row of allocations runs through, or returns with the parts granted before the first
refusal. -/
theorem exec_allocs (calloc : Nat → Bool) (parts : List (Path Field)) (rest : List (Instr Field))
    (built : Built Field) (grows : Grows built.held parts) :
    exec calloc ((parts.map fun part => .alloc part 0) ++ rest) built =
      if granted calloc built.asked parts.length = parts.length then
        exec calloc rest
          { asked := built.asked + parts.length
            held := parts.reverse ++ built.held
            counted := built.counted }
      else .returned 0
        { asked := built.asked + granted calloc built.asked parts.length + 1
          held := (parts.take (granted calloc built.asked parts.length)).reverse ++ built.held
          counted := built.counted } := by
  induction parts generalizing built with
  | nil => rfl
  | cons part more ih =>
      rw [List.map_cons, List.cons_append, exec, if_pos grows.1, List.length_cons, granted]
      by_cases given : calloc built.asked = true
      · rw [if_pos given, if_pos given,
          ih { built with asked := built.asked + 1, held := part :: built.held } grows.2]
        simp only [Nat.add_right_cancel_iff, List.take_succ_cons, List.reverse_cons,
          List.append_assoc, List.cons_append, List.nil_append, Nat.add_assoc, Nat.add_comm 1]
      · rw [if_neg given, if_neg given, if_neg (Nat.succ_ne_zero _).symm]
        rfl

theorem granted_le (calloc : Nat → Bool) (asked wanted : Nat) :
    granted calloc asked wanted ≤ wanted := by
  induction wanted generalizing asked with
  | zero => exact Nat.le_refl 0
  | succ wanted ih =>
      rw [granted]
      split
      · exact Nat.succ_le_succ (ih (asked + 1))
      · exact Nat.zero_le _

theorem granted_all_iff {calloc : Nat → Bool} {asked wanted : Nat} :
    granted calloc asked wanted = wanted ↔ ∀ index < wanted, calloc (asked + index) = true := by
  induction wanted generalizing asked with
  | zero => simp [granted]
  | succ wanted ih =>
      rw [granted]
      by_cases given : calloc asked = true
      · rw [if_pos given, Nat.add_right_cancel_iff, ih]
        constructor
        · intro all index inside
          cases index with
          | zero => exact given
          | succ index =>
              rw [Nat.add_comm index, ← Nat.add_assoc]
              exact all index (by omega)
        · intro all index inside
          have next := all (index + 1) (by omega)
          rwa [Nat.add_comm index, ← Nat.add_assoc] at next
      · rw [if_neg given]
        refine iff_of_false (Nat.succ_ne_zero wanted).symm fun all => given ?_
        exact all 0 (Nat.succ_pos wanted)

theorem granted_zero_iff {calloc : Nat → Bool} {asked wanted : Nat} :
    granted calloc asked (wanted + 1) = 0 ↔ calloc asked = false := by
  rw [granted]
  by_cases given : calloc asked = true
  · simp [given]
  · simp [given]

theorem granted_one_iff {calloc : Nat → Bool} {asked wanted : Nat} :
    granted calloc asked (wanted + 2) = 1 ↔
      calloc asked = true ∧ calloc (asked + 1) = false := by
  rw [granted]
  by_cases given : calloc asked = true
  · rw [if_pos given, Nat.add_eq_right, granted_zero_iff]
    simp [given]
  · simp [given]

theorem released_look {part : Path Field} {rest : List (Clean Field)} {held : List (Path Field)} :
    Released (.look part :: rest) held ↔ Reached held part.tail ∧ Released rest held := by
  by_cases here : Reached held part.tail
  · simp [Released, release, here]
  · simp [Released, release, here]

/-- The builder returns 0 and the cleanup then releases what it built. -/
def Tidy (cleaning : Built Field → List (Clean Field)) : Result Field → Prop
  | .crashed => False
  | .returned code built => code = 0 ∧ Released (cleaning built) built.held

end EspHosted.OwnedParts

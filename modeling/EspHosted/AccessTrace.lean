import Mathlib.Data.List.Basic

/-!
What a program does with memory whose sizes come from outside: it follows pointers that may
be absent, writes blocks into arrays, reads elements of a sequence, writes entries of a table,
and reports counts. A loop over a sequence takes its number of rounds from elsewhere. Nothing
here mentions the modelled program.
-/

namespace EspHosted.AccessTrace

inductive Access where
  | follow (present : Bool)
  | write (room len : Nat)
  | element (index count : Nat)
  | entry (index room : Nat)
  | report (count : Int) (entries : Nat)

/-- A count is not more than the entries it counts. -/
def Access.Safe : Access → Prop
  | .follow present => present = true
  | .write room len => len ≤ room
  | .element index count => index < count
  | .entry index room => index < room
  | .report count entries => count ≤ entries

instance decidableAccess : (access : Access) → Decidable access.Safe
  | .follow present => inferInstanceAs (Decidable (present = true))
  | .write room len => inferInstanceAs (Decidable (len ≤ room))
  | .element index count => inferInstanceAs (Decidable (index < count))
  | .entry index room => inferInstanceAs (Decidable (index < room))
  | .report count entries => inferInstanceAs (Decidable (count ≤ entries))

def Safe (trace : List Access) : Prop := ∀ access ∈ trace, access.Safe

instance decidableSafe (trace : List Access) : Decidable (Safe trace) :=
  inferInstanceAs (Decidable (∀ access ∈ trace, access.Safe))

variable {Item : Type} {room count : Nat} {first rest : List Access} {items : List Item}

theorem safe_nil : Safe [] := fun _ member => by cases member

theorem safe_cons (access : Access) : Safe (access :: rest) ↔ access.Safe ∧ Safe rest :=
  List.forall_mem_cons

theorem safe_append : Safe (first ++ rest) ↔ Safe first ∧ Safe rest :=
  List.forall_mem_append

/-- Round `index` reads that element and writes the entry of its number. -/
def round (items : List Item) (room : Nat) (body : Item → List Access) (index : Nat) :
    List Access :=
  .element index items.length ::
    (items[index]?.toList.flatMap fun item => .entry index room :: body item)

def loop (count : Nat) (items : List Item) (room : Nat) (body : Item → List Access) :
    List Access :=
  (List.range count).flatMap (round items room body)

theorem round_safe {body : Item → List Access} {index : Nat} (inside : index < room) :
    Safe (round items room body index) ↔
      ∃ item, items[index]? = some item ∧ Safe (body item) := by
  rw [round, safe_cons]
  cases found : items[index]? with
  | none =>
      have outside : items.length ≤ index := List.getElem?_eq_none_iff.mp found
      constructor
      · rintro ⟨below, _⟩
        exact absurd below (Nat.not_lt_of_le outside)
      · rintro ⟨item, wrong, _⟩
        cases wrong
  | some item =>
      have below : index < items.length := (List.getElem?_eq_some_iff.mp found).1
      simp only [Option.toList_some, List.flatMap_cons, List.flatMap_nil, List.append_nil,
        safe_cons]
      constructor
      · rintro ⟨_, _, safe⟩
        exact ⟨item, rfl, safe⟩
      · rintro ⟨other, same, safe⟩
        cases same
        exact ⟨below, inside, safe⟩

theorem safe_flatMap {body : Item → List Access} :
    Safe (items.flatMap body) ↔ ∀ item ∈ items, Safe (body item) := by
  simp only [Safe, List.mem_flatMap]
  constructor
  · intro safe item member access inside
    exact safe access ⟨item, member, inside⟩
  · rintro safe access ⟨item, member, inside⟩
    exact safe item member access inside

/-- A loop that has room for its entries is safe exactly if the sequence has as many elements as
there are rounds, and each of these is handled safely. -/
theorem loop_safe {body : Item → List Access} (fits : count ≤ room) :
    Safe (loop count items room body) ↔
      count ≤ items.length ∧ ∀ item ∈ items.take count, Safe (body item) := by
  rw [loop, safe_flatMap]
  have rounds : (∀ index ∈ List.range count, Safe (round items room body index)) ↔
      ∀ index < count, ∃ item, items[index]? = some item ∧ Safe (body item) := by
    constructor
    · intro safe index below
      exact (round_safe (Nat.lt_of_lt_of_le below fits)).mp (safe index (List.mem_range.mpr below))
    · intro each index member
      have below := List.mem_range.mp member
      exact (round_safe (Nat.lt_of_lt_of_le below fits)).mpr (each index below)
  rw [rounds]
  constructor
  · intro each
    have enough : count ≤ items.length := by
      by_contra short
      obtain ⟨item, found, _⟩ := each items.length (Nat.lt_of_not_le short)
      rw [List.getElem?_eq_none (Nat.le_refl _)] at found
      cases found
    refine ⟨enough, ?_⟩
    intro item member
    obtain ⟨index, below, same⟩ := List.mem_take_iff_getElem.mp member
    obtain ⟨other, found, safe⟩ := each index (by omega)
    rw [List.getElem?_eq_getElem (by omega)] at found
    cases found
    rw [← same]
    exact safe
  · rintro ⟨enough, each⟩ index below
    have inside : index < items.length := Nat.lt_of_lt_of_le below enough
    refine ⟨items[index], List.getElem?_eq_getElem inside, each _ ?_⟩
    exact List.mem_take_iff_getElem.mpr ⟨index, by omega, rfl⟩

end EspHosted.AccessTrace

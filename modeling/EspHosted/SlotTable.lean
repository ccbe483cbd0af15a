import Mathlib.Data.Fin.Tuple.Basic

/-!
Fixed tables that are searched from the front, as a C loop with an early return
does. `scan` is the index of the first slot that passes the test.
-/

namespace EspHosted.SlotTable

universe u
variable {size : Nat} {Slot : Type u}

def scan (table : Fin size → Slot) (test : Slot → Bool) : Option (Fin size) :=
  Fin.find? fun index => test (table index)

variable {table : Fin size → Slot} {test : Slot → Bool} {index : Fin size}

theorem scan_passes (found : scan table test = some index) : test (table index) = true :=
  Fin.eq_true_of_find?_eq_some found

/-- The slots before the one that is found do not pass. -/
theorem scan_first (found : scan table test = some index) (other : Fin size)
    (earlier : other < index) : test (table other) = false :=
  Fin.eq_false_of_find?_eq_some_of_lt found other earlier

theorem scan_none_iff : scan table test = none ↔ ∀ index, test (table index) = false :=
  Fin.find?_eq_none_iff

theorem scan_isSome_iff : (scan table test).isSome ↔ ∃ index, test (table index) = true :=
  Fin.isSome_find?_iff

theorem scan_some_of_passes (passes : test (table index) = true) :
    ∃ found, scan table test = some found :=
  Option.isSome_iff_exists.mp (scan_isSome_iff.mpr ⟨index, passes⟩)

/-- Where at most one slot passes, the search finds it whatever its position. -/
theorem scan_unique (passes : test (table index) = true)
    (only : ∀ other, test (table other) = true → other = index) :
    scan table test = some index := by
  obtain ⟨found, located⟩ := scan_some_of_passes passes
  rw [located, only found (scan_passes located)]

end EspHosted.SlotTable

import Mathlib.Order.Lattice

/-!
A switch with two thresholds. A level above `high` turns it on and one below `low` off, and
where both hold it goes off. `Lawful` is what such a switch is for; the thresholds need not be
in order, and then it is not lawful at every level. Nothing here mentions the modelled program.
-/

namespace EspHosted.Hysteresis

universe u
variable {Level : Type u} [LinearOrder Level]

def switch (low high : Level) (on : Bool) (level : Level) : Bool :=
  let on := if high < level then true else on
  if level < low then false else on

def Between (low high level : Level) : Prop :=
  low ≤ level ∧ level ≤ high ∨ high ≤ level ∧ level ≤ low

/-- One look at the level; `idle` when there is nothing at all. -/
structure Lawful (low high : Level) (idle : Prop) (before : Bool) (level : Level) (after : Bool) :
    Prop where
  turnedOn : before = false → after = true → high < level
  turnedOff : before = true → after = false → level < low
  idleOff : idle → after = false
  betweenKept : Between low high level → after = before

/-- What a look takes to be lawful: idle is below `low` if the switch is on, and with the
thresholds in the wrong order the switch is as it will be. -/
structure Steady (low high : Level) (idle : Prop) (before : Bool) (level : Level) : Prop where
  idleBelow : idle → before = true → level < low
  crossed : high < low → high ≤ level → level ≤ low → (before = true ↔ level = low)

variable {low high level : Level} {idle : Prop} {before : Bool}

theorem switch_below (below : level < low) : switch low high before level = false :=
  if_pos below

theorem switch_above (not_below : ¬ level < low) (above : high < level) :
    switch low high before level = true := by
  simp only [switch, if_neg not_below, if_pos above]

theorem switch_kept (not_below : ¬ level < low) (not_above : ¬ high < level) :
    switch low high before level = before := by
  simp only [switch, if_neg not_below, if_neg not_above]

theorem turned_on (after : switch low high false level = true) : high < level := by
  by_contra not_above
  by_cases below : level < low
  · rw [switch_below below] at after
    cases after
  · rw [switch_kept below not_above] at after
    cases after

theorem turned_off (after : switch low high true level = false) : level < low := by
  by_contra not_below
  by_cases above : high < level
  · rw [switch_above not_below above] at after
    cases after
  · rw [switch_kept not_below above] at after
    cases after

/-- Idle looks are off, provided that nothing is above the level of an idle one. -/
theorem idle_off (bottom : ¬ high < level) (below : before = true → level < low) :
    switch low high before level = false := by
  by_cases here : level < low
  · exact switch_below here
  · rw [switch_kept here bottom]
    exact Bool.eq_false_iff.mpr fun on => here (below on)

theorem between_kept (between : Between low high level)
    (crossed : high < low → high ≤ level → level ≤ low → (before = true ↔ level = low)) :
    switch low high before level = before := by
  rcases between with ⟨not_below, not_above⟩ | ⟨reached, within⟩
  · exact switch_kept (not_lt.mpr not_below) (not_lt.mpr not_above)
  · rcases lt_or_eq_of_le (le_trans reached within) with order | same
    · have state := crossed order reached within
      rcases lt_or_eq_of_le within with below | on_low
      · rw [switch_below below]
        exact (Bool.eq_false_iff.mpr fun on => below.ne (state.mp on)).symm
      · rw [switch_above (not_lt.mpr (ge_of_eq on_low)) (on_low ▸ order)]
        exact (state.mpr on_low).symm
    · subst same
      exact switch_kept (not_lt.mpr reached) (not_lt.mpr within)

theorem lawful_iff (bottom : idle → ¬ high < level) :
    Lawful low high idle before level (switch low high before level) ↔
      Steady low high idle before level := by
  constructor
  · intro lawful
    constructor
    · rintro none rfl
      exact turned_off (lawful.idleOff none)
    · intro order reached within
      have kept := lawful.betweenKept (Or.inr ⟨reached, within⟩)
      rcases lt_or_eq_of_le within with below | on_low
      · rw [switch_below below] at kept
        exact iff_of_false (Bool.eq_false_iff.mp kept.symm) below.ne
      · rw [switch_above (not_lt.mpr (ge_of_eq on_low)) (on_low ▸ order)] at kept
        exact iff_of_true kept.symm on_low
  · intro steady
    exact
      { turnedOn := by
          rintro rfl after
          exact turned_on after
        turnedOff := by
          rintro rfl after
          exact turned_off after
        idleOff := fun none => idle_off (bottom none) (steady.idleBelow none)
        betweenKept := fun between => between_kept between steady.crossed }

/-- Thresholds in order, with the idle level below the lower one, make every look steady. -/
theorem steady_of_ordered (order : low ≤ high) (idle_below : idle → level < low) :
    Steady low high idle before level where
  idleBelow := fun none _ => idle_below none
  crossed := fun wrong => absurd wrong (not_lt.mpr order)

end EspHosted.Hysteresis

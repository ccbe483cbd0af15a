import Mathlib.Data.List.Basic

/-!
Streams that an end marker cuts into segments. `segments` are the segments a
stream completes and `pending` is what is left over; both start from pieces that
are already held. Nothing here mentions the modelled program.
-/

namespace EspHosted.Segments

universe u
variable {Piece : Type u} (last : Piece → Bool)

def segments : List Piece → List Piece → List (List Piece)
  | _, [] => []
  | held, piece :: rest =>
      if last piece then (held ++ [piece]) :: segments [] rest else segments (held ++ [piece]) rest

def pending : List Piece → List Piece → List Piece
  | held, [] => held
  | held, piece :: rest => if last piece then pending [] rest else pending (held ++ [piece]) rest

variable {last} {held stream first more : List Piece}

theorem segments_append : segments last held (stream ++ more) =
    segments last held stream ++ segments last (pending last held stream) more := by
  induction stream generalizing held with
  | nil => rfl
  | cons piece rest ih =>
      simp only [List.cons_append, segments, pending]
      split
      · rw [ih, List.cons_append]
      · exact ih

theorem pending_append :
    pending last held (stream ++ more) = pending last (pending last held stream) more := by
  induction stream generalizing held with
  | nil => rfl
  | cons piece rest ih =>
      simp only [List.cons_append, pending]
      split <;> exact ih

/-- Without an end marker everything stays pending. -/
theorem segments_open (unmarked : ∀ piece ∈ stream, last piece = false) :
    segments last held stream = [] ∧ pending last held stream = held ++ stream := by
  induction stream generalizing held with
  | nil => simp [segments, pending]
  | cons piece rest ih =>
      have open_piece := unmarked piece (by simp)
      obtain ⟨none, left⟩ := @ih (held ++ [piece]) fun other member => unmarked other (by simp [member])
      simp [segments, pending, open_piece, none, left]

/-- A segment that comes whole is completed as it is, and nothing is left over. -/
theorem segments_whole {final : Piece} (unmarked : ∀ piece ∈ stream, last piece = false)
    (marked : last final = true) :
    segments last held (stream ++ [final]) = [held ++ stream ++ [final]] ∧
      pending last held (stream ++ [final]) = [] := by
  obtain ⟨none, left⟩ := @segments_open _ _ held stream unmarked
  constructor
  · rw [segments_append, none, left]
    simp [segments, marked]
  · rw [pending_append, left]
    simp [pending, marked]

theorem segments_ne_nil {piece : Piece} (member : piece ∈ stream) (marked : last piece = true) :
    segments last held stream ≠ [] := by
  induction stream generalizing held with
  | nil => cases member
  | cons head rest ih =>
      simp only [segments]
      split
      · simp
      next unmarked =>
        rcases List.mem_cons.mp member with same | later
        · rw [← same, marked] at unmarked
          exact absurd rfl unmarked
        · exact ih later

/-- The first segment is where the stream begins. -/
theorem segments_head {others : List (List Piece)}
    (cut : segments last held stream = first :: others) : first <+: held ++ stream ∧ first ≠ [] := by
  induction stream generalizing held with
  | nil => cases cut
  | cons piece rest ih =>
      simp only [segments] at cut
      split at cut
      · cases cut
        exact ⟨⟨rest, by simp⟩, by simp⟩
      · simpa using ih cut

end EspHosted.Segments

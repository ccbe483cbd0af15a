import Mathlib.Logic.Basic

/-!
A sequential program that asks another party and tells its caller. What the other party answers
depends on its store and on an outcome from outside; `Ensures` is what holds at the end however
these come, and it holds of a party that refines another one if it holds of that. Nothing here
mentions the modelled program.
-/

namespace EspHosted.Dialogue

universe u v w
variable {Ask : Type u} {Answer : Ask → Type v} {Event Result Store Outcome : Type w}

inductive Talk (Ask : Type u) (Answer : Ask → Type v) (Event Result : Type w) where
  | done (result : Result)
  | tell (event : Event) (rest : Talk Ask Answer Event Result)
  | ask (question : Ask) (rest : Answer question → Talk Ask Answer Event Result)

structure Played (Event Result Store : Type w) where
  told : List Event
  result : Result
  store : Store

/-- The other party: its answer, and what its store is then. -/
abbrev Party (Answer : Ask → Type v) (Outcome Store : Type w) : Type (max u v w) :=
  Store → (question : Ask) → Outcome → Answer question × Store

/-- The outcomes are used up one after the other. -/
def play (party : Party Answer Outcome Store) :
    Talk Ask Answer Event Result → (Nat → Outcome) → Store → Played Event Result Store
  | .done result, _, store => ⟨[], result, store⟩
  | .tell event rest, outcomes, store =>
      let played := play party rest outcomes store
      { played with told := event :: played.told }
  | .ask question rest, outcomes, store =>
      let got := party store question (outcomes 0)
      play party (rest got.1) (fun index => outcomes (index + 1)) got.2

/-- Wherever the program ends, `post` holds of what it has told, its result and the store. -/
def Ensures (party : Party Answer Outcome Store) (post : List Event → Result → Store → Prop) :
    Talk Ask Answer Event Result → Store → Prop
  | .done result, store => post [] result store
  | .tell event rest, store => Ensures party (fun told => post (event :: told)) rest store
  | .ask question rest, store => ∀ outcome,
      Ensures party post (rest (party store question outcome).1) (party store question outcome).2

variable {party : Party Answer Outcome Store} {post : List Event → Result → Store → Prop}

theorem ensures_played {talk : Talk Ask Answer Event Result} {store : Store}
    (ensures : Ensures party post talk store) (outcomes : Nat → Outcome) :
    post (play party talk outcomes store).told (play party talk outcomes store).result
      (play party talk outcomes store).store := by
  induction talk generalizing post outcomes store with
  | done result => exact ensures
  | tell event rest ih => exact ih ensures outcomes
  | ask question rest ih => exact ih _ (ensures (outcomes 0)) _

/-- Whatever a question to the first party comes to, it is one of the things it can come to with
the second, in the view of its store. -/
def Refines {Fate View : Type w} (concrete : Party Answer Fate Store) (abstract : Party Answer Outcome View)
    (view : Store → View) : Prop :=
  ∀ store question fate, ∃ outcome, abstract (view store) question outcome =
    ((concrete store question fate).1, view (concrete store question fate).2)

def followed (outcome : Outcome) (outcomes : Nat → Outcome) : Nat → Outcome
  | 0 => outcome
  | index + 1 => outcomes index

/-- The program cannot tell the two parties apart. -/
theorem Refines.play [Inhabited Outcome] {Fate View : Type w} {concrete : Party Answer Fate Store}
    {abstract : Party Answer Outcome View} {view : Store → View}
    (refines : Refines concrete abstract view) (talk : Talk Ask Answer Event Result)
    (fates : Nat → Fate) (store : Store) : ∃ outcomes,
      Dialogue.play abstract talk outcomes (view store) =
        ⟨(Dialogue.play concrete talk fates store).told, (Dialogue.play concrete talk fates store).result,
          view (Dialogue.play concrete talk fates store).store⟩ := by
  induction talk generalizing fates store with
  | done result => exact ⟨fun _ => default, rfl⟩
  | tell event rest ih =>
      obtain ⟨outcomes, same⟩ := ih fates store
      refine ⟨outcomes, ?_⟩
      rw [Dialogue.play, same]
      rfl
  | ask question rest ih =>
      obtain ⟨outcome, first⟩ := refines store question (fates 0)
      obtain ⟨outcomes, same⟩ := ih (concrete store question (fates 0)).1
        (fun index => fates (index + 1)) (concrete store question (fates 0)).2
      refine ⟨followed outcome outcomes, ?_⟩
      simp only [Dialogue.play, followed, first]
      exact same

theorem Refines.ensures [Inhabited Outcome] {Fate View : Type w} {concrete : Party Answer Fate Store}
    {abstract : Party Answer Outcome View} {view : Store → View}
    (refines : Refines concrete abstract view) {talk : Talk Ask Answer Event Result} {store : Store}
    {post : List Event → Result → View → Prop} (ensures : Ensures abstract post talk (view store))
    (fates : Nat → Fate) :
    post (Dialogue.play concrete talk fates store).told (Dialogue.play concrete talk fates store).result
      (view (Dialogue.play concrete talk fates store).store) := by
  obtain ⟨outcomes, same⟩ := refines.play talk fates store
  have held := ensures_played ensures outcomes
  rw [same] at held
  exact held

end EspHosted.Dialogue

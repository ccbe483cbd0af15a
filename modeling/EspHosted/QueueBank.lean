import Mathlib.Algebra.Order.BigOperators.Group.Finset
import Mathlib.Data.Fintype.Card
import Mathlib.Data.List.Perm.Basic

/-!
A bank of queues, one for each level, beside a counting semaphore that is posted after a put
and taken before a get. `count` weighs what the bank holds, so that a ledger over puts and
gets is arithmetic. Nothing here mentions the modelled program.
-/

namespace EspHosted.QueueBank

variable {Level Item : Type} [DecidableEq Level]

def put (bank : Level → List Item) (level : Level) (item : Item) : Level → List Item :=
  Function.update bank level (bank level ++ [item])

/-- How many items with the property the bank holds. -/
def count [Fintype Level] (counted : Item → Bool) (bank : Level → List Item) : Nat :=
  ∑ level, (bank level).countP counted

def size [Fintype Level] (bank : Level → List Item) : Nat := count (fun _ => true) bank

/-- A counting semaphore does not count past its bound. -/
def post (bound tokens : Nat) : Nat := if tokens < bound then tokens + 1 else tokens

section Members
variable {bank : Level → List Item} {level queue : Level} {item other : Item}

theorem mem_put (member : other ∈ put bank level item queue) : other ∈ bank queue ∨ other = item := by
  by_cases same : queue = level
  · subst same
    rw [put, Function.update_self] at member
    rcases List.mem_append.mp member with older | new
    · exact Or.inl older
    · exact Or.inr (List.mem_singleton.mp new)
  · rw [put, Function.update_of_ne same] at member
    exact Or.inl member

theorem mem_get {rest : List Item} (queued : bank level = item :: rest)
    (member : other ∈ Function.update bank level rest queue) : other ∈ bank queue := by
  by_cases same : queue = level
  · subst same
    rw [Function.update_self] at member
    rw [queued]
    exact List.mem_cons_of_mem _ member
  · rw [Function.update_of_ne same] at member
    exact member

theorem prefix_put (bank : Level → List Item) (level : Level) (item : Item) (queue : Level) :
    bank queue <+: put bank level item queue := by
  by_cases same : queue = level
  · subst same
    rw [put, Function.update_self]
    exact List.prefix_append _ _
  · rw [put, Function.update_of_ne same]

theorem put_ne_nil (held : bank queue ≠ []) : put bank level item queue ≠ [] := by
  by_cases same : queue = level
  · subst same
    simp [put]
  · rw [put, Function.update_of_ne same]
    exact held

theorem length_put (bank : Level → List Item) (level queue : Level) (item : Item) :
    (put bank level item queue).length =
      (bank queue).length + if level = queue then 1 else 0 := by
  by_cases same : queue = level
  · subst same
    simp [put]
  · simp [put, Function.update_of_ne same, Ne.symm same]

theorem length_get {rest : List Item} (queued : bank level = item :: rest) :
    (bank queue).length =
      (Function.update bank level rest queue).length + if level = queue then 1 else 0 := by
  by_cases same : queue = level
  · subst same
    simp [queued]
  · simp [Function.update_of_ne same, Ne.symm same]

end Members

/-- What entered a bank is what left it and then what it holds, level by level. -/
def Accounts (entered left bank : Level → List Item) : Prop :=
  ∀ level, entered level = left level ++ bank level

section Accounts
variable {entered left bank : Level → List Item} {level : Level} {item : Item}

theorem accounts_put (accounts : Accounts entered left bank) :
    Accounts (put entered level item) left (put bank level item) := by
  intro queue
  by_cases same : queue = level
  · subst same
    simp only [put, Function.update_self, accounts queue, List.append_assoc]
  · simp only [put, Function.update_of_ne same, accounts queue]

theorem accounts_get {rest : List Item} (accounts : Accounts entered left bank)
    (queued : bank level = item :: rest) :
    Accounts entered (put left level item) (Function.update bank level rest) := by
  intro queue
  by_cases same : queue = level
  · subst same
    simp only [put, Function.update_self, accounts queue, queued, List.append_assoc,
      List.singleton_append]
  · simp only [put, Function.update_of_ne same, accounts queue]

omit [DecidableEq Level] in
/-- What enters goes behind what is held, and what leaves was held in front of it. -/
theorem accounts_shift {entering leaving entered' left' bank' : Level → List Item}
    (accounts : Accounts entered left bank)
    (enters : ∀ level, entered' level = entered level ++ entering level)
    (leaves : ∀ level, left' level = left level ++ leaving level)
    (shifts : ∀ level, bank level ++ entering level = leaving level ++ bank' level) :
    Accounts entered' left' bank' := by
  intro level
  rw [enters level, accounts level, List.append_assoc, shifts level, leaves level,
    List.append_assoc]

end Accounts

section Translated
variable {Other : Type} (translate : Item → Option Other)

omit [DecidableEq Level] in
/-- Where each item comes out, the items come out one for one. -/
theorem forall₂_filterMap {Relation : Item → Other → Prop} (items : List Item)
    (comes : ∀ item ∈ items, ∃ other, translate item = some other ∧ Relation item other) :
    List.Forall₂ Relation items (items.filterMap translate) := by
  induction items with
  | nil => exact .nil
  | cons item rest ih =>
      obtain ⟨other, here, related⟩ := comes item List.mem_cons_self
      rw [List.filterMap_cons_some here]
      exact .cons related (ih fun later member => comes later (List.mem_cons_of_mem _ member))

theorem filterMap_put (bank : Level → List Item) (level queue : Level) (item : Item) :
    (put bank level item queue).filterMap translate =
      (bank queue).filterMap translate ++
        if level = queue then (translate item).toList else [] := by
  by_cases same : queue = level
  · subst same
    cases here : translate item <;> simp [put, here]
  · simp [put, Function.update_of_ne same, Ne.symm same]

theorem filterMap_get {bank : Level → List Item} {level : Level} {item : Item} {rest : List Item}
    (queued : bank level = item :: rest) (queue : Level) :
    (bank queue).filterMap translate =
      (if level = queue then (translate item).toList else []) ++
        (Function.update bank level rest queue).filterMap translate := by
  by_cases same : queue = level
  · subst same
    cases here : translate item <;> simp [queued, here]
  · simp [Function.update_of_ne same, Ne.symm same]

end Translated

/-- The items of one level. -/
def atLevel (levelOf : Item → Level) (level : Level) (items : List Item) : List Item :=
  items.filter fun item => levelOf item = level

theorem atLevel_nil (levelOf : Item → Level) (level : Level) : atLevel levelOf level [] = [] := rfl

theorem atLevel_append (levelOf : Item → Level) (level : Level) (items others : List Item) :
    atLevel levelOf level (items ++ others) =
      atLevel levelOf level items ++ atLevel levelOf level others :=
  List.filter_append items others

theorem atLevel_single (levelOf : Item → Level) (level : Level) (item : Item) :
    atLevel levelOf level [item] = if levelOf item = level then [item] else [] := by
  by_cases same : levelOf item = level <;> simp [atLevel, same]

theorem put_atLevel (levelOf : Item → Level) (bank : Level → List Item) (item : Item)
    (level : Level) :
    put bank (levelOf item) item level = bank level ++ atLevel levelOf level [item] := by
  rw [atLevel_single]
  by_cases same : levelOf item = level
  · subst same
    simp [put]
  · simp [put, Function.update_of_ne (Ne.symm same), same]

theorem get_atLevel {levelOf : Item → Level} {bank : Level → List Item} {item : Item}
    {rest : List Item} (queued : bank (levelOf item) = item :: rest) (level : Level) :
    bank level = atLevel levelOf level [item] ++ Function.update bank (levelOf item) rest level := by
  rw [atLevel_single]
  by_cases same : levelOf item = level
  · subst same
    simp [queued]
  · simp [Function.update_of_ne (Ne.symm same), same]

/-- Level by level, what has come out is, one for one, what went in, and behind that went in what
is still on the way. -/
def Relays {Other : Type} (related : Item → Other → Prop) (entered : Level → List Item)
    (out : Level → List Other) (onWay : Level → List Item) : Prop :=
  ∀ level, ∃ passed, entered level = passed ++ onWay level ∧ List.Forall₂ related passed (out level)

section Relays
variable {Other : Type} {related : Item → Other → Prop} {entered entered' onWay onWay' : Level → List Item}
variable {out out' : Level → List Other}

omit [DecidableEq Level] in
theorem relays_same (relays : Relays related entered out onWay)
    (entered_same : ∀ level, entered' level = entered level)
    (out_same : ∀ level, out' level = out level)
    (onWay_same : ∀ level, onWay' level = onWay level) :
    Relays related entered' out' onWay' := by
  intro level
  rw [entered_same level, out_same level, onWay_same level]
  exact relays level

omit [DecidableEq Level] in
/-- What goes in goes behind what is on the way. -/
theorem relays_enter (entering : Level → List Item) (relays : Relays related entered out onWay)
    (enters : ∀ level, entered' level = entered level ++ entering level)
    (follows : ∀ level, onWay' level = onWay level ++ entering level) :
    Relays related entered' out onWay' := by
  intro level
  obtain ⟨passed, front, pairs⟩ := relays level
  exact ⟨passed, by rw [enters level, front, follows level, List.append_assoc], pairs⟩

omit [DecidableEq Level] in
/-- What comes out was in front of what is on the way. -/
theorem relays_leave (leaving : Level → List Item) (arriving : Level → List Other)
    (relays : Relays related entered out onWay)
    (leaves : ∀ level, onWay level = leaving level ++ onWay' level)
    (pairs : ∀ level, List.Forall₂ related (leaving level) (arriving level))
    (arrives : ∀ level, out' level = out level ++ arriving level) :
    Relays related entered out' onWay' := by
  intro level
  obtain ⟨passed, front, before⟩ := relays level
  refine ⟨passed ++ leaving level, ?_, ?_⟩
  · rw [front, leaves level, List.append_assoc]
  · rw [arrives level]
    exact List.rel_append before (pairs level)

/-- One item leaves the queue of its level for another. -/
theorem relays_single {levelOf : Item → Level} {otherOf : Other → Level} {item : Item} {other : Other}
    (pair : related item other) (same : otherOf other = levelOf item) (level : Level) :
    List.Forall₂ related (atLevel levelOf level [item]) (atLevel otherOf level [other]) := by
  rw [atLevel_single, atLevel_single, same]
  split
  · exact .cons pair .nil
  · exact .nil

end Relays

/-- Every item is in the queue of its level. -/
def Sorted (levelOf : Item → Level) (bank : Level → List Item) : Prop :=
  ∀ level, ∀ item ∈ bank level, levelOf item = level

section Sorted
variable {levelOf : Item → Level} {bank : Level → List Item}

theorem sorted_put (sorted : Sorted levelOf bank) (item : Item) :
    Sorted levelOf (put bank (levelOf item) item) := by
  intro level other member
  by_cases same : level = levelOf item
  · subst same
    rw [put, Function.update_self] at member
    rcases List.mem_append.mp member with older | new
    · exact sorted _ other older
    · rw [List.mem_singleton.mp new]
  · rw [put, Function.update_of_ne same] at member
    exact sorted level other member

theorem sorted_get {level : Level} {item : Item} {rest : List Item} (sorted : Sorted levelOf bank)
    (queued : bank level = item :: rest) : Sorted levelOf (Function.update bank level rest) :=
  fun other held member => sorted other held (mem_get queued member)

end Sorted

section Counting
variable [Fintype Level] {counted : Item → Bool} {bank : Level → List Item} {level : Level}

theorem count_update (queue : List Item) :
    count counted (Function.update bank level queue) + (bank level).countP counted =
      count counted bank + queue.countP counted := by
  have others : ∑ other ∈ Finset.univ.erase level,
      (Function.update bank level queue other).countP counted =
        ∑ other ∈ Finset.univ.erase level, (bank other).countP counted := by
    apply Finset.sum_congr rfl
    intro other apart
    rw [Function.update_of_ne (Finset.ne_of_mem_erase apart)]
  have after := Finset.add_sum_erase Finset.univ
    (fun other => (Function.update bank level queue other).countP counted) (Finset.mem_univ level)
  have before := Finset.add_sum_erase Finset.univ (fun other => (bank other).countP counted)
    (Finset.mem_univ level)
  simp only [Function.update_self] at after
  rw [count, count]
  omega

theorem count_put (item : Item) :
    count counted (put bank level item) =
      count counted bank + if counted item = true then 1 else 0 := by
  have moved := @count_update _ _ _ _ counted bank level (bank level ++ [item])
  rw [List.countP_append, List.countP_singleton] at moved
  rw [put]
  omega

theorem count_get {item : Item} {rest : List Item} (queued : bank level = item :: rest) :
    count counted bank =
      count counted (Function.update bank level rest) + if counted item = true then 1 else 0 := by
  have moved := @count_update _ _ _ _ counted bank level rest
  rw [queued, List.countP_cons] at moved
  omega

theorem size_put (item : Item) : size (put bank level item) = size bank + 1 := by
  rw [size, count_put, if_pos rfl, size]

theorem size_get {item : Item} {rest : List Item} (queued : bank level = item :: rest) :
    size bank = size (Function.update bank level rest) + 1 := by
  rw [size, count_get queued, if_pos rfl, size]

theorem size_pos (held : bank level ≠ []) : 0 < size bank := by
  cases queued : bank level with
  | nil => exact absurd queued held
  | cons item rest =>
      rw [size_get queued]
      exact Nat.succ_pos _

theorem size_zero_iff : size bank = 0 ↔ ∀ level, bank level = [] := by
  constructor
  · intro zero level
    by_contra held
    exact Nat.lt_irrefl 0 (zero ▸ size_pos held)
  · intro empty
    simp [size, count, empty]

omit [DecidableEq Level] in
theorem size_le_of_le {bound : Nat} (small : ∀ level, (bank level).length ≤ bound) :
    size bank ≤ Fintype.card Level * bound := by
  have each : ∀ level ∈ Finset.univ, (bank level).countP (fun _ => true) ≤ bound := by
    intro level _
    rw [List.countP_true]
    exact small level
  simpa [size, count] using Finset.sum_le_sum each

omit [DecidableEq Level] in
theorem size_accounts {entered left bank : Level → List Item}
    (accounts : Accounts entered left bank) : size entered = size left + size bank := by
  simp only [size, count, accounts _, List.countP_append, Finset.sum_add_distrib]

end Counting

/-- One of several items leaves a list. -/
theorem countP_eraseIdx {items : List Item} {index : Nat} {item : Item}
    (found : items[index]? = some item) (counted : Item → Bool) :
    items.countP counted =
      (items.eraseIdx index).countP counted + if counted item = true then 1 else 0 := by
  obtain ⟨inside, here⟩ := List.getElem?_eq_some_iff.mp found
  rw [← (List.getElem_cons_eraseIdx_perm inside).countP_eq, List.countP_cons, here]

section Chosen
variable {items : List Item} {index : Nat} {item : Item} {chosen : Item → Bool}

end Chosen

theorem le_post (bound tokens : Nat) : tokens ≤ post bound tokens := by
  unfold post
  split <;> omega

theorem post_pos {bound : Nat} (positive : 0 < bound) (tokens : Nat) : 0 < post bound tokens := by
  unfold post
  split <;> omega

/-- A post that is lost on a full semaphore leaves it full. -/
theorem lt_post {bound tokens least : Nat} (short : least ≤ tokens + 1) (small : least ≤ bound) :
    least ≤ post bound tokens := by
  unfold post
  split <;> omega

end EspHosted.QueueBank

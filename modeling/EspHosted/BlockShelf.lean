import EspHosted.ByteMemory
import Mathlib.Data.List.Basic
import Mathlib.Data.List.Perm.Basic

/-!
Blocks of memory that are either free or outstanding. A `Shelf` holds both kinds and
keeps them apart: no byte belongs to two of its blocks. `Threads` is a list of
addresses linked through a function, as a free list is through its own blocks.
Nothing here mentions the modelled program.
-/

namespace EspHosted.BlockShelf

open ByteMemory

structure Block where
  start : Nat
  size : Nat
  deriving DecidableEq, Repr

def Block.Apart (first second : Block) : Prop :=
  first.start + first.size ≤ second.start ∨ second.start + second.size ≤ first.start

/-- Room for a link and for `least` bytes, at addresses of 32 bits; 0 is the address of none. -/
structure Block.Usable (least : Nat) (block : Block) : Prop where
  real : block.start ≠ 0
  linkable : wordBytes ≤ block.size
  enough : least ≤ block.size
  addressed : block.start + block.size ≤ 2 ^ 32

theorem Block.Apart.symm {first second : Block} (apart : first.Apart second) :
    second.Apart first :=
  Or.symm apart

structure Shelf (least : Nat) where
  free : List Block
  outstanding : List Block
  apart : (free ++ outstanding).Pairwise Block.Apart
  usable : ∀ block ∈ free ++ outstanding, block.Usable least

namespace Shelf

variable {least : Nat}

def blocks (shelf : Shelf least) : List Block := shelf.free ++ shelf.outstanding

def bare (least : Nat) : Shelf least where
  free := []
  outstanding := []
  apart := .nil
  usable := nofun

/-- The same blocks, some of them on the other side. -/
def arrange (shelf : Shelf least) (free outstanding : List Block)
    (same : (free ++ outstanding).Perm shelf.blocks) : Shelf least where
  free := free
  outstanding := outstanding
  apart := (same.pairwise_iff Block.Apart.symm).mpr shelf.apart
  usable := fun block member => shelf.usable block (same.mem_iff.mp member)

theorem enter_perm (shelf : Shelf least) (block : Block) :
    (shelf.free ++ block :: shelf.outstanding).Perm (block :: shelf.blocks) :=
  List.perm_middle

/-- A block from outside goes out at once. -/
def enter (shelf : Shelf least) (block : Block) (usable : block.Usable least)
    (fresh : ∀ other ∈ shelf.blocks, block.Apart other) : Shelf least where
  free := shelf.free
  outstanding := block :: shelf.outstanding
  apart := ((shelf.enter_perm block).pairwise_iff Block.Apart.symm).mpr (.cons fresh shelf.apart)
  usable := by
    intro other member
    rcases List.mem_cons.mp ((shelf.enter_perm block).mem_iff.mp member) with rfl | old
    · exact usable
    · exact shelf.usable other old

variable {shelf : Shelf least} {block : Block} {rest later : List Block}

theorem reuse_perm (top : shelf.free = block :: rest) :
    (rest ++ block :: shelf.outstanding).Perm shelf.blocks := by
  rw [blocks, top]
  exact List.perm_middle

/-- The block on top goes out again. -/
def reuse (shelf : Shelf least) (top : shelf.free = block :: rest) : Shelf least :=
  shelf.arrange rest (block :: shelf.outstanding) (reuse_perm top)

theorem giveBack_perm (held : shelf.outstanding = later ++ block :: rest) :
    (block :: shelf.free ++ (later ++ rest)).Perm shelf.blocks := by
  have moved : (shelf.free ++ later ++ block :: rest).Perm (block :: (shelf.free ++ later ++ rest)) :=
    List.perm_middle
  rw [blocks, held, ← List.append_assoc, List.cons_append, ← List.append_assoc]
  exact moved.symm

/-- An outstanding block goes on top of the free ones. -/
def giveBack (shelf : Shelf least) (held : shelf.outstanding = later ++ block :: rest) :
    Shelf least :=
  shelf.arrange (block :: shelf.free) (later ++ rest) (giveBack_perm held)

/-- All blocks free again, in any order. -/
def gather (shelf : Shelf least) (all : List Block) (same : all.Perm shelf.blocks) : Shelf least :=
  shelf.arrange all [] ((List.append_nil all).symm ▸ same)

/-- What a pool may do with its blocks. -/
inductive Step : Shelf least → Shelf least → Prop where
  | enter (shelf : Shelf least) (block : Block) (usable : block.Usable least)
      (fresh : ∀ other ∈ shelf.blocks, block.Apart other) :
      Step shelf (shelf.enter block usable fresh)
  | reuse (shelf : Shelf least) (block : Block) (rest : List Block)
      (top : shelf.free = block :: rest) : Step shelf (shelf.reuse top)
  | giveBack (shelf : Shelf least) (block : Block) (later rest : List Block)
      (held : shelf.outstanding = later ++ block :: rest) : Step shelf (shelf.giveBack held)

/-- Blocks that are apart and not empty start at different addresses. -/
theorem starts_nodup (shelf : Shelf least) : (shelf.blocks.map Block.start).Nodup := by
  apply List.pairwise_map.mpr
  apply shelf.apart.imp_of_mem
  intro first second first_in second_in apart same
  have first_room := (shelf.usable first first_in).linkable
  have second_room := (shelf.usable second second_in).linkable
  rw [wordBytes] at first_room second_room
  rcases apart with before | after
  · omega
  · omega

theorem starts_disjoint (shelf : Shelf least) :
    (shelf.free.map Block.start).Nodup ∧ (shelf.outstanding.map Block.start).Nodup ∧
      ∀ addr ∈ shelf.free.map Block.start, addr ∉ shelf.outstanding.map Block.start := by
  have nodup := shelf.starts_nodup
  rw [blocks, List.map_append] at nodup
  obtain ⟨free_nodup, outstanding_nodup, apart⟩ := List.nodup_append.mp nodup
  refine ⟨free_nodup, outstanding_nodup, ?_⟩
  intro addr in_free in_outstanding
  exact apart addr in_free addr in_outstanding rfl

theorem free_apart {other : Block} (free : other ∈ shelf.free) (held : block ∈ shelf.outstanding) :
    other.Apart block :=
  (List.pairwise_append.mp shelf.apart).2.2 other free block held

/-- A change in the first `count` bytes of an outstanding block leaves the links of the free
ones alone. -/
theorem link_kept {other : Block} {count : Nat} {before after : Memory}
    (free : other ∈ shelf.free) (held : block ∈ shelf.outstanding) (within : count ≤ block.size)
    (same : SameOutside block.start count before after) :
    readWord after other.start = readWord before other.start := by
  apply readWord_frame same
  have linkable := (shelf.usable other (List.mem_append_left _ free)).linkable
  rcases free_apart free held with first | last
  · exact Or.inl (Nat.le_trans (Nat.add_le_add_left linkable _) first)
  · exact Or.inr (Nat.le_trans (Nat.add_le_add_left within _) last)

/-- The address of a block that was given back leaves the addresses handed out. -/
theorem starts_erase (held : shelf.outstanding = later ++ block :: rest) :
    (shelf.outstanding.map Block.start).erase block.start = (later ++ rest).map Block.start := by
  obtain ⟨_, nodup, _⟩ := shelf.starts_disjoint
  rw [held, List.map_append, List.map_cons] at nodup
  have earlier : block.start ∉ later.map Block.start := by
    intro member
    exact (List.nodup_append.mp nodup).2.2 block.start member block.start List.mem_cons_self rfl
  rw [held, List.map_append, List.map_cons, List.erase_append_right _ earlier,
    List.erase_cons_head, List.map_append]

end Shelf

section Threads
variable {link other_link : Nat → Nat} {head addr : Nat} {list : List Nat}

/-- The addresses from `head` on, each linked to the next one and the last one to 0. -/
inductive Threads (link : Nat → Nat) : Nat → List Nat → Prop where
  | nil : Threads link 0 []
  | cons {head : Nat} {list : List Nat} (real : head ≠ 0) (rest : Threads link (link head) list) :
      Threads link head (head :: list)

/-- The addresses from `head` on until one is 0 or fails the test; `none` when `fuel` runs out. -/
def walk (link : Nat → Nat) (test : Nat → Bool) : Nat → Nat → Option Bool
  | 0, _ => none
  | fuel + 1, head =>
      if head = 0 then some true
      else if test head then walk link test fuel (link head)
      else some false

theorem Threads.congr (threads : Threads link head list)
    (same : ∀ addr ∈ list, other_link addr = link addr) : Threads other_link head list := by
  induction threads with
  | nil => exact .nil
  | cons real rest ih =>
      have later := ih fun addr member => same addr (List.mem_cons_of_mem _ member)
      refine .cons real ?_
      rw [same _ List.mem_cons_self]
      exact later

theorem Threads.push (real : addr ≠ 0) (linked : link addr = head)
    (threads : Threads link head list) : Threads link addr (addr :: list) :=
  .cons real (linked ▸ threads)

theorem Threads.empty (threads : Threads link 0 list) : list = [] := by
  cases threads with
  | nil => rfl
  | cons real rest => exact absurd rfl real

theorem Threads.head_mem (threads : Threads link head list) : head = 0 ∨ head ∈ list := by
  cases threads with
  | nil => exact Or.inl rfl
  | cons real rest => exact Or.inr List.mem_cons_self

theorem Threads.pop (real : head ≠ 0) (threads : Threads link head list) :
    ∃ rest, list = head :: rest ∧ Threads link (link head) rest := by
  cases threads with
  | nil => exact absurd rfl real
  | cons real rest => exact ⟨_, rfl, rest⟩

/-- Memory holds one list from a head on. -/
theorem Threads.unique {second : List Nat} (threads : Threads link head list)
    (again : Threads link head second) : second = list := by
  induction threads generalizing second with
  | nil => exact again.empty
  | cons real rest ih =>
      obtain ⟨later, rfl, tail⟩ := again.pop real
      rw [ih tail]

/-- A list that ends within `fuel` addresses is walked to its end. -/
theorem Threads.walk {test : Nat → Bool} {fuel : Nat} (threads : Threads link head list)
    (long : list.length < fuel) (passes : ∀ addr ∈ list, test addr = true) :
    walk link test fuel head = some true := by
  induction threads generalizing fuel with
  | nil =>
      cases fuel with
      | zero => exact absurd long (Nat.not_lt_zero _)
      | succ fuel => rfl
  | @cons head list real rest ih =>
      cases fuel with
      | zero => exact absurd long (Nat.not_lt_zero _)
      | succ fuel =>
          have later := ih (Nat.lt_of_succ_lt_succ long) fun addr member =>
            passes addr (List.mem_cons_of_mem _ member)
          rw [BlockShelf.walk, if_neg real, if_pos (passes head List.mem_cons_self)]
          exact later

end Threads

section Row
variable {start size count least : Nat} {block : Block} {memory : Memory}

/-- Blocks of one size, each where the one before it ends. -/
def row (start count size : Nat) : List Block :=
  (List.range' start count size).map fun addr => { start := addr, size := size }

theorem row_starts : (row start count size).map Block.start = List.range' start count size := by
  rw [row, List.map_map]
  exact List.map_id _

theorem row_succ :
    row start (count + 1) size = { start := start, size := size } :: row (start + size) count size :=
  rfl

theorem length_row : (row start count size).length = count := by
  rw [row, List.length_map, List.length_range']

theorem mem_row (member : block ∈ row start count size) :
    ∃ index < count, block = { start := start + size * index, size := size } := by
  obtain ⟨addr, inside, rfl⟩ := List.mem_map.mp member
  obtain ⟨index, below, rfl⟩ := List.mem_range'.mp inside
  exact ⟨index, below, rfl⟩

theorem row_within (member : block ∈ row start count size) :
    start ≤ block.start ∧ block.start + block.size ≤ start + count * size ∧ block.size = size := by
  obtain ⟨index, below, rfl⟩ := mem_row member
  have whole : (index + 1) * size ≤ count * size := Nat.mul_le_mul_right size below
  rw [Nat.add_mul, Nat.one_mul, Nat.mul_comm index] at whole
  refine ⟨Nat.le_add_right _ _, ?_, rfl⟩
  change start + size * index + size ≤ _
  omega

theorem row_apart : (row start count size).Pairwise Block.Apart := by
  induction count generalizing start with
  | zero => exact .nil
  | succ count ih =>
      rw [row_succ]
      refine .cons ?_ ih
      intro other member
      exact Or.inl (row_within member).1

theorem row_usable (real : start ≠ 0) (linkable : wordBytes ≤ size)
    (addressed : start + count * size ≤ 2 ^ 32) (member : block ∈ row start count size) :
    block.Usable size := by
  obtain ⟨after, inside, sized⟩ := row_within member
  exact {
    real := by omega
    linkable := sized ▸ linkable
    enough := Nat.le_of_eq sized.symm
    addressed := Nat.le_trans inside addressed }

/-- A shelf of new blocks, all of them free. -/
def Shelf.fresh (start count size : Nat) (real : start ≠ 0) (linkable : wordBytes ≤ size)
    (addressed : start + count * size ≤ 2 ^ 32) : Shelf size where
  free := row start count size
  outstanding := []
  apart := by
    rw [List.append_nil]
    exact row_apart
  usable := by
    rw [List.append_nil]
    exact fun block member => row_usable real linkable addressed member

end Row

end EspHosted.BlockShelf

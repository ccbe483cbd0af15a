import EspHosted.BlockShelf
import EspHosted.GuardedRun
import Mathlib.Algebra.Group.Nat.Defs
import Mathlib.Logic.Relation

/-!
The memory pool of the host, drivers/mempool/mempool.c built with CONFIG_USE_MEMPOOL.
The free blocks are a list that is linked through their own first bytes, so what
the owners write into blocks and what the allocator answers are actions of a run
beside the calls of the pool. The pool holds a `Shelf` of blocks, and each
action is one of its steps or leaves it alone.
-/

namespace EspHosted.MempoolBlocks

open ByteMemory BlockShelf GuardedRun

abbrev Addr := Nat

def NULL : Addr := 0

def MEMPOOL_ALIGNMENT_BYTES : UInt32 := 64

def MEMPOOL_ALIGNMENT_MASK : UInt32 := MEMPOOL_ALIGNMENT_BYTES - 1

/-- The next multiple above `val`, also where `val` is a multiple; 0 after the last one. -/
def mempoolAligned (val : UInt32) : UInt32 :=
  val + MEMPOOL_ALIGNMENT_BYTES - (val &&& MEMPOOL_ALIGNMENT_MASK)

def isMempoolAligned (val : Addr) : Bool := val &&& MEMPOOL_ALIGNMENT_MASK.toNat = 0

/-- `struct mempool` without its spinlock. -/
structure Mempool where
  head : Addr
  blockSize : UInt32

/-- `new` and `again` are the answers to the requests for the structure itself. -/
def mempoolCreate (blockSize : UInt32) (new again : Addr) : Option Mempool :=
  if new = NULL then none
  else
    let new := if isMempoolAligned new then new else again
    if new = NULL then none else some { head := NULL, blockSize := mempoolAligned blockSize }

/-- `obtained` are the blocks that MEM_ALLOC has given to the pool so far. -/
structure Heap where
  memory : Memory
  obtained : List Block

/-- `answer` is what MEM_ALLOC finds for each number of bytes. -/
def memAlloc (answer : UInt32 → Option Block) (asked : UInt32) (heap : Heap) : Heap × Addr :=
  match answer asked with
  | none => (heap, NULL)
  | some block => ({ heap with obtained := block :: heap.obtained }, block.start)

def slistEmpty (mp : Mempool) : Bool := mp.head = NULL

/-- The link is the first field of a block. -/
def slistRemoveHead (mp : Mempool) (memory : Memory) : Mempool :=
  { mp with head := readWord memory mp.head }

def slistInsertHead (mp : Mempool) (memory : Memory) (mem : Addr) : Mempool × Memory :=
  ({ mp with head := mem }, writeWord memory mem mp.head)

/-- The part of `mempool_alloc` that reuses a free block or asks for a fresh one. -/
def takeBlock (mp : Mempool) (heap : Heap) (answer : UInt32 → Option Block) :
    Mempool × Heap × Addr :=
  if slistEmpty mp then (mp, memAlloc answer (mempoolAligned mp.blockSize) heap)
  else (slistRemoveHead mp heap.memory, heap, mp.head)

/-- `nbytes` as the comparison with the block size and `memset` read it. -/
def requested (nbytes : Int32) : Nat := nbytes.toUInt32.toNat

def mempoolAlloc (mp : Option Mempool) (heap : Heap) (answer : UInt32 → Option Block)
    (nbytes needMemset : Int32) : Option Mempool × Heap × Addr :=
  match mp with
  | none => (none, heap, NULL)
  | some mp =>
      if mp.blockSize < nbytes.toUInt32 then (some mp, heap, NULL)
      else
        let (mp, heap, buf) := takeBlock mp heap answer
        if buf ≠ NULL ∧ needMemset ≠ 0 then
          (some mp, { heap with memory := fill heap.memory buf 0 (requested nbytes) }, buf)
        else (some mp, heap, buf)

def mempoolFree (mp : Option Mempool) (memory : Memory) (mem : Addr) : Option Mempool × Memory :=
  if mem = NULL then (mp, memory)
  else
    match mp with
    | none => (none, memory)
    | some mp =>
        let (mp, memory) := slistInsertHead mp memory mem
        (some mp, memory)

/-- `outstanding` are the addresses handed out and not freed since. -/
structure State where
  mp : Option Mempool
  heap : Heap
  outstanding : List Addr

inductive Act where
  | alloc (nbytes needMemset : Int32) (answer : UInt32 → Option Block)
  | free (mem : Addr)
  | write (addr : Addr) (byte : UInt8)

def handOut (buf : Addr) (outstanding : List Addr) : List Addr :=
  if buf = NULL then outstanding else buf :: outstanding

def step (state : State) : Act → Option State
  | .alloc nbytes needMemset answer =>
      let (mp, heap, buf) := mempoolAlloc state.mp state.heap answer nbytes needMemset
      some { mp := mp, heap := heap, outstanding := handOut buf state.outstanding }
  | .free mem =>
      let (mp, memory) := mempoolFree state.mp state.heap.memory mem
      some { mp := mp, heap := { state.heap with memory := memory },
             outstanding := state.outstanding.erase mem }
  | .write addr byte =>
      some { state with heap := { state.heap with memory := writeByte state.heap.memory addr byte } }

/-- What the allocator promises about a block it answers with: at least the bytes asked
for, which are not none, apart from what it gave before. -/
structure Answers (obtained : List Block) (asked : UInt32) (block : Block) : Prop where
  real : block.start ≠ NULL
  nonempty : asked ≠ 0
  enough : asked.toNat ≤ block.size
  addressed : block.start + block.size ≤ 2 ^ 32
  fresh : ∀ other ∈ obtained, block.Apart other

def Lawful (obtained : List Block) (answer : UInt32 → Option Block) : Prop :=
  ∀ asked block, answer asked = some block → Answers obtained asked block

/-- Only NULL and outstanding blocks are freed, and nobody but the pool writes the link
of a block that is not outstanding. -/
def Fair (state : State) : Act → Prop
  | .alloc _ _ answer => Lawful state.heap.obtained answer
  | .free mem => mem = NULL ∨ mem ∈ state.outstanding
  | .write addr _ => ∀ block ∈ state.heap.obtained, block.start ∉ state.outstanding →
      addr < block.start ∨ block.start + wordBytes ≤ addr

/-- A pool just created, with any bytes in memory. -/
def initial (mp : Option Mempool) (memory : Memory) : State :=
  { mp := mp, heap := { memory := memory, obtained := [] }, outstanding := [] }

theorem mempoolAligned_toNat (val : UInt32) :
    (mempoolAligned val).toNat = (64 * (val.toNat / 64) + 64) % 2 ^ 32 := by
  have bounded := val.toNat_lt
  have low : (val &&& MEMPOOL_ALIGNMENT_MASK).toNat = val.toNat % 64 := by
    rw [UInt32.toNat_and]
    exact Nat.and_two_pow_sub_one_eq_mod val.toNat 6
  rw [mempoolAligned, UInt32.toNat_sub, UInt32.toNat_add, low]
  change (2 ^ 32 - val.toNat % 64 + (val.toNat + 64) % 2 ^ 32) % 2 ^ 32 = _
  omega

theorem mempoolAligned_eq_zero (val : UInt32) :
    mempoolAligned val = 0 ↔ (mempoolAligned val).toNat = 0 :=
  UInt32.toNat_inj.symm

/-- The alignment adds 1 to 64 bytes unless it comes to 0. -/
theorem mempoolAligned_above {val : UInt32} (asked : mempoolAligned val ≠ 0) :
    val.toNat < (mempoolAligned val).toNat ∧
      MEMPOOL_ALIGNMENT_BYTES.toNat ≤ (mempoolAligned val).toNat := by
  have bounded := val.toNat_lt
  have value := mempoolAligned_toNat val
  have positive := (mempoolAligned_eq_zero val).not.mp asked
  change _ ∧ 64 ≤ _
  omega

/-- The second alignment, of the block size itself, asks MEM_ALLOC for no bytes for 64
sizes only. -/
theorem asks_nothing_iff (size : UInt32) :
    mempoolAligned (mempoolAligned size) = 0 ↔
      0xFFFFFF80 ≤ size.toNat ∧ size.toNat < 0xFFFFFFC0 := by
  have bounded := size.toNat_lt
  have inner := mempoolAligned_toNat size
  rw [mempoolAligned_eq_zero, mempoolAligned_toNat]
  omega

def listHead (mp : Option Mempool) : Addr := mp.elim NULL Mempool.head

/-- The state holds the blocks of the shelf: the free ones linked from the head of the
list in their order, the outstanding ones handed out. -/
structure Represents {least : Nat} (state : State) (shelf : Shelf least) : Prop where
  sized : ∀ mp ∈ state.mp, mp.blockSize.toNat = least
  absent : state.mp = none → shelf.outstanding = []
  listed : Threads (readWord state.heap.memory) (listHead state.mp) (shelf.free.map Block.start)
  handed : state.outstanding = shelf.outstanding.map Block.start
  blocks : state.heap.obtained.Perm shelf.blocks

variable {least : Nat} {state before after : State} {shelf : Shelf least} {mp : Mempool}
variable {answer : UInt32 → Option Block} {block : Block} {memory : Memory}

theorem answers_usable {obtained : List Block} {val : UInt32}
    (answers : Answers obtained (mempoolAligned val) block) : block.Usable val.toNat := by
  obtain ⟨above, whole⟩ := mempoolAligned_above answers.nonempty
  have enough := answers.enough
  change 64 ≤ _ at whole
  have linkable : wordBytes ≤ block.size := by
    rw [wordBytes]
    omega
  exact {
    real := answers.real
    linkable := linkable
    enough := by omega
    addressed := answers.addressed }

/-- Memory may change anywhere but in the links of the free blocks. -/
theorem Represents.rewrite (rep : Represents state shelf)
    (kept : ∀ block ∈ shelf.free,
      readWord memory block.start = readWord state.heap.memory block.start) :
    Represents { state with heap := { state.heap with memory := memory } } shelf where
  sized := rep.sized
  absent := rep.absent
  handed := rep.handed
  blocks := rep.blocks
  listed := by
    apply rep.listed.congr
    intro addr member
    obtain ⟨block, free, rfl⟩ := List.mem_map.mp member
    exact kept block free

theorem Represents.owned (rep : Represents state shelf) (member : block ∈ shelf.blocks) :
    block ∈ state.heap.obtained :=
  rep.blocks.mem_iff.mpr member

theorem Represents.fresh {val : UInt32} (rep : Represents state shelf)
    (answers : Answers state.heap.obtained val block) :
    ∀ other ∈ shelf.blocks, block.Apart other :=
  fun other member => answers.fresh other (rep.owned member)

/-- A block that MEM_ALLOC answers with goes out at once. -/
theorem Represents.enter (rep : Represents state shelf) (present : state.mp = some mp)
    (usable : block.Usable least) (fresh : ∀ other ∈ shelf.blocks, block.Apart other) :
    Represents { mp := some mp
                 heap := { state.heap with obtained := block :: state.heap.obtained }
                 outstanding := block.start :: state.outstanding }
      (shelf.enter block usable fresh) where
  sized := by
    rw [← present]
    exact rep.sized
  absent := nofun
  listed := by
    rw [← present]
    exact rep.listed
  handed := congrArg (block.start :: ·) rep.handed
  blocks := (rep.blocks.cons block).trans (shelf.enter_perm block).symm

/-- The head of the list is the start of the free block on top. -/
theorem Represents.top (rep : Represents state shelf) (present : state.mp = some mp)
    (real : mp.head ≠ NULL) :
    ∃ block rest, shelf.free = block :: rest ∧ block.start = mp.head ∧
      Threads (readWord state.heap.memory) (readWord state.heap.memory mp.head)
        (rest.map Block.start) := by
  have listed := rep.listed
  rw [present] at listed
  obtain ⟨starts, split, threads⟩ := listed.pop real
  obtain ⟨block, rest, free, same, later⟩ := List.map_eq_cons_iff.mp split
  refine ⟨block, rest, free, same, ?_⟩
  rw [later]
  exact threads

theorem Represents.reuse {rest : List Block} (rep : Represents state shelf)
    (present : state.mp = some mp) (top : shelf.free = block :: rest) (same : block.start = mp.head)
    (threads : Threads (readWord state.heap.memory) (readWord state.heap.memory mp.head)
      (rest.map Block.start)) :
    Represents { mp := some (slistRemoveHead mp state.heap.memory)
                 heap := state.heap
                 outstanding := mp.head :: state.outstanding } (shelf.reuse top) where
  sized := by
    intro other found
    cases found
    exact rep.sized mp present
  absent := nofun
  listed := threads
  handed := by
    rw [rep.handed, ← same]
    rfl
  blocks := rep.blocks.trans (Shelf.reuse_perm top).symm

/-- Taking a block fails and changes nothing, or hands out one block. -/
theorem takeBlock_cases (rep : Represents state shelf) (present : state.mp = some mp)
    (lawful : Lawful state.heap.obtained answer) :
    takeBlock mp state.heap answer = (mp, state.heap, NULL) ∨
      ∃ (taken : Mempool) (heap : Heap) (block : Block) (next : Shelf least),
        takeBlock mp state.heap answer = (taken, heap, block.start) ∧
        Shelf.Step shelf next ∧ block ∈ next.outstanding ∧
        Represents { mp := some taken, heap := heap,
                     outstanding := block.start :: state.outstanding } next := by
  by_cases empty : mp.head = NULL
  · have asks : takeBlock mp state.heap answer =
        (mp, memAlloc answer (mempoolAligned mp.blockSize) state.heap) :=
      if_pos (decide_eq_true empty)
    rw [asks, memAlloc]
    cases found : answer (mempoolAligned mp.blockSize) with
    | none => exact Or.inl rfl
    | some block =>
        have answers := lawful _ block found
        have usable : block.Usable least := rep.sized mp present ▸ answers_usable answers
        exact Or.inr ⟨mp, _, block, _, rfl, .enter shelf block usable (rep.fresh answers),
          List.mem_cons_self, rep.enter present usable (rep.fresh answers)⟩
  · obtain ⟨block, rest, top, same, threads⟩ := rep.top present empty
    have pops : takeBlock mp state.heap answer =
        (slistRemoveHead mp state.heap.memory, state.heap, block.start) := by
      rw [same]
      exact if_neg (ne_true_of_eq_false (decide_eq_false empty))
    refine Or.inr ⟨_, _, block, _, pops, .reuse shelf block rest top, List.mem_cons_self, ?_⟩
    rw [same]
    exact rep.reuse present top same threads

/-- What `mempool_alloc` promises of the block it hands out at `buf`. -/
structure HandedOut (heap : Heap) (buf : Addr) (nbytes needMemset : Int32) : Prop where
  large : ∃ block ∈ heap.obtained, block.start = buf ∧ requested nbytes ≤ block.size
  zeroed : needMemset ≠ 0 → ∀ index < requested nbytes, heap.memory (buf + index) = 0

/-- Clearing an outstanding block leaves the links of the free ones alone. -/
theorem Represents.clear {count : Nat} (rep : Represents state shelf)
    (held : block ∈ shelf.outstanding) (within : count ≤ block.size) :
    Represents { state with heap :=
      { state.heap with memory := fill state.heap.memory block.start 0 count } } shelf := by
  apply rep.rewrite
  intro other free
  exact Shelf.link_kept free held within (fill_outside 0)

/-- A call of `mempool_alloc` fails and changes nothing, or hands out one block as promised. -/
theorem mempoolAlloc_cases {nbytes needMemset : Int32} (rep : Represents state shelf)
    (lawful : Lawful state.heap.obtained answer) :
    mempoolAlloc state.mp state.heap answer nbytes needMemset = (state.mp, state.heap, NULL) ∨
      ∃ (mp : Option Mempool) (heap : Heap) (block : Block) (next : Shelf least),
        mempoolAlloc state.mp state.heap answer nbytes needMemset = (mp, heap, block.start) ∧
        block.start ≠ NULL ∧ Shelf.Step shelf next ∧
        HandedOut heap block.start nbytes needMemset ∧
        Represents { mp := mp, heap := heap,
                     outstanding := block.start :: state.outstanding } next := by
  cases present : state.mp with
  | none => exact Or.inl rfl
  | some mp =>
      by_cases small : mp.blockSize < nbytes.toUInt32
      · exact Or.inl (if_pos small)
      · rw [mempoolAlloc, if_neg small]
        rcases takeBlock_cases rep present lawful with fails |
          ⟨taken, heap, block, next, takes, moved, held, later⟩
        · rw [fails]
          exact Or.inl rfl
        · rw [takes]
          have usable := next.usable block (List.mem_append_right _ held)
          have within : requested nbytes ≤ block.size := by
            have sized := rep.sized mp present
            have fits := UInt32.not_lt.mp small
            exact Nat.le_trans (sized ▸ fits) usable.enough
          have owned := later.owned (List.mem_append_right _ held)
          by_cases clears : needMemset ≠ 0
          · refine Or.inr ⟨_, _, block, next, if_pos ⟨usable.real, clears⟩, usable.real, moved, ?_,
              later.clear held within⟩
            exact {
              large := ⟨block, owned, rfl, within⟩
              zeroed := fun _ index inside => fill_inside 0 inside }
          · refine Or.inr ⟨_, _, block, next, if_neg fun both => clears both.2, usable.real, moved,
              ?_, later⟩
            exact {
              large := ⟨block, owned, rfl, within⟩
              zeroed := fun asked => absurd asked clears }

theorem Represents.head_fits (rep : Represents state shelf) : listHead state.mp < 2 ^ 32 := by
  rcases rep.listed.head_mem with none_free | member
  · rw [none_free]
    decide
  · obtain ⟨block, free, same⟩ := List.mem_map.mp member
    have usable := shelf.usable block (List.mem_append_left _ free)
    have room : 0 < block.size := Nat.lt_of_lt_of_le (by decide) usable.linkable
    rw [← same]
    exact Nat.lt_of_lt_of_le (Nat.lt_add_of_pos_right room) usable.addressed

/-- A freed block is linked in front of the others, whose links are not in it. -/
theorem Represents.giveBack {later rest : List Block} (rep : Represents state shelf)
    (present : state.mp = some mp) (held : shelf.outstanding = later ++ block :: rest) :
    Represents { mp := some (slistInsertHead mp state.heap.memory block.start).1
                 heap := { state.heap with
                   memory := (slistInsertHead mp state.heap.memory block.start).2 }
                 outstanding := state.outstanding.erase block.start } (shelf.giveBack held) where
  sized := by
    intro other found
    cases found
    exact rep.sized mp present
  absent := nofun
  listed := by
    have member : block ∈ shelf.outstanding := held ▸ List.mem_append_right _ List.mem_cons_self
    have usable := shelf.usable block (List.mem_append_right _ member)
    have listed := rep.listed
    have fits := rep.head_fits
    rw [present] at listed fits
    have others : Threads (readWord (writeWord state.heap.memory block.start mp.head)) mp.head
        (shelf.free.map Block.start) := by
      apply listed.congr
      intro addr found
      obtain ⟨other, free, rfl⟩ := List.mem_map.mp found
      exact Shelf.link_kept free member usable.linkable writeWord_outside
    exact others.push usable.real (readWord_writeWord fits)
  handed := by
    rw [rep.handed]
    exact Shelf.starts_erase held
  blocks := rep.blocks.trans (Shelf.giveBack_perm held).symm

/-- NULL is never handed out. -/
theorem Represents.null_not_out (rep : Represents state shelf) : NULL ∉ state.outstanding := by
  intro out
  rw [rep.handed] at out
  obtain ⟨block, held, same⟩ := List.mem_map.mp out
  exact (shelf.usable block (List.mem_append_right _ held)).real same

theorem mempoolFree_null (mp : Option Mempool) (memory : Memory) :
    mempoolFree mp memory NULL = (mp, memory) :=
  if_pos rfl

theorem mempoolFree_block {mem : Addr} (real : mem ≠ NULL) :
    mempoolFree (some mp) memory mem =
      (some (slistInsertHead mp memory mem).1, (slistInsertHead mp memory mem).2) :=
  if_neg real

/-- Each action is a step of the shelf or leaves it alone. -/
theorem step_refines {act : Act} (rep : Represents before shelf) (fair : Fair before act)
    (taken : step before act = some after) :
    ∃ next, (next = shelf ∨ Shelf.Step shelf next) ∧ Represents after next := by
  cases act with
  | alloc nbytes needMemset answer =>
      rcases @mempoolAlloc_cases _ _ _ answer nbytes needMemset rep fair with fails |
        ⟨mp, heap, block, next, gives, real, moved, promised, later⟩
      · rw [step, fails] at taken
        cases taken
        exact ⟨shelf, Or.inl rfl, rep⟩
      · rw [step, gives] at taken
        cases taken
        refine ⟨next, Or.inr moved, ?_⟩
        rw [handOut, if_neg real]
        exact later
  | free mem =>
      by_cases empty : mem = NULL
      · rw [step, empty, mempoolFree_null] at taken
        cases taken
        rw [List.erase_of_not_mem rep.null_not_out]
        exact ⟨shelf, Or.inl rfl, rep⟩
      · have out := fair.resolve_left empty
        rw [rep.handed] at out
        obtain ⟨block, held, rfl⟩ := List.mem_map.mp out
        cases present : before.mp with
        | none =>
            rw [rep.absent present] at held
            cases held
        | some mp =>
            obtain ⟨later, rest, split⟩ := List.append_of_mem held
            rw [step, present, mempoolFree_block empty] at taken
            cases taken
            exact ⟨_, Or.inr (.giveBack shelf block later rest split), rep.giveBack present split⟩
  | write addr byte =>
      cases taken
      refine ⟨shelf, Or.inl rfl, rep.rewrite ?_⟩
      intro block free
      have owned := rep.owned (List.mem_append_left _ free)
      have away : block.start ∉ before.outstanding := by
        rw [rep.handed]
        exact shelf.starts_disjoint.2.2 _ (List.mem_map_of_mem free)
      apply readWord_frame (writeByte_outside byte)
      rcases fair block owned away with below | above
      · exact Or.inr below
      · exact Or.inl above

theorem initial_represents (mp : Option Mempool) (memory : Memory)
    (sized : ∀ pool ∈ mp, pool.head = NULL ∧ pool.blockSize.toNat = least) :
    Represents (initial mp memory) (Shelf.bare least) where
  sized := fun pool present => (sized pool present).2
  absent := fun _ => rfl
  listed := by
    cases mp with
    | none => exact .nil
    | some pool =>
        change Threads _ pool.head []
        rw [(sized pool rfl).1]
        exact .nil
  handed := rfl
  blocks := .refl _

/-- A created pool has an empty list and blocks of the aligned size. -/
theorem mempoolCreate_cases {blockSize : UInt32} {new again : Addr}
    (created : mempoolCreate blockSize new again = some mp) :
    mp.head = NULL ∧ mp.blockSize = mempoolAligned blockSize := by
  obtain ⟨_, rest⟩ := Option.ite_none_left_eq_some.mp created
  obtain ⟨_, made⟩ := Option.ite_none_left_eq_some.mp rest
  cases made
  exact ⟨rfl, rfl⟩

/-- What every run keeps: the pool holds a shelf that its steps have built from nothing. -/
theorem run_refines {size : UInt32} {new again : Addr}
    (run : Run step Fair (initial (mempoolCreate size new again) memory) after) :
    ∃ shelf : Shelf (mempoolAligned size).toNat,
      Relation.ReflTransGen Shelf.Step (Shelf.bare _) shelf ∧ Represents after shelf := by
  induction run with
  | refl =>
      refine ⟨Shelf.bare _, .refl, initial_represents _ _ ?_⟩
      intro pool created
      obtain ⟨none_free, sized⟩ := mempoolCreate_cases created
      exact ⟨none_free, congrArg UInt32.toNat sized⟩
  | next act _ fair taken ih =>
      obtain ⟨shelf, built, rep⟩ := ih
      obtain ⟨next, same | moved, later⟩ := step_refines rep fair taken
      · exact ⟨next, same ▸ built, later⟩
      · exact ⟨next, built.tail moved, later⟩

/-- The addresses on the list are different blocks of the pool, none of them handed out,
and no two blocks share a byte. -/
structure PoolDisjoint (state : State) (free : List Addr) : Prop where
  listed : Threads (readWord state.heap.memory) (listHead state.mp) free
  distinct : free.Nodup
  separate : ∀ addr ∈ free, addr ∉ state.outstanding
  once : state.outstanding.Nodup
  known : ∀ addr ∈ free ++ state.outstanding, ∃ block ∈ state.heap.obtained, block.start = addr
  apart : state.heap.obtained.Pairwise Block.Apart

theorem Represents.disjoint (rep : Represents state shelf) :
    PoolDisjoint state (shelf.free.map Block.start) := by
  obtain ⟨distinct, once, separate⟩ := shelf.starts_disjoint
  refine {
    listed := rep.listed
    distinct := distinct
    separate := rep.handed ▸ separate
    once := rep.handed ▸ once
    known := ?_
    apart := (rep.blocks.pairwise_iff Block.Apart.symm).mpr shelf.apart }
  intro addr member
  rw [rep.handed, ← List.map_append] at member
  obtain ⟨block, inside, same⟩ := List.mem_map.mp member
  exact ⟨block, rep.owned inside, same⟩

theorem pool_disjoint {size : UInt32} {new again : Addr}
    (run : Run step Fair (initial (mempoolCreate size new again) memory) after) :
    (∃! free, PoolDisjoint after free) ∧
      ∀ (nbytes needMemset : Int32) (answer : UInt32 → Option Block) (mp : Option Mempool)
        (heap : Heap) (buf : Addr), Lawful after.heap.obtained answer →
        mempoolAlloc after.mp after.heap answer nbytes needMemset = (mp, heap, buf) →
        buf ≠ NULL → buf ∉ after.outstanding ∧ HandedOut heap buf nbytes needMemset := by
  obtain ⟨shelf, _, rep⟩ := run_refines run
  refine ⟨⟨_, rep.disjoint, fun _ again => rep.listed.unique again.listed⟩, ?_⟩
  intro nbytes needMemset answer mp heap buf lawful call real
  rcases @mempoolAlloc_cases _ _ _ answer nbytes needMemset rep lawful with fails |
    ⟨_, _, block, next, gives, _, _, promised, later⟩
  · rw [fails] at call
    cases call
    exact absurd rfl real
  · rw [gives] at call
    cases call
    exact ⟨(List.nodup_cons.mp later.disjoint.once).1, promised⟩

/-- An allocator with one block left. -/
def oneLeft (block : Block) (asked : UInt32) : Option Block :=
  if asked ≠ 0 ∧ asked.toNat ≤ block.size then some block else none

theorem oneLeft_lawful {obtained : List Block} (real : block.start ≠ NULL)
    (addressed : block.start + block.size ≤ 2 ^ 32)
    (fresh : ∀ other ∈ obtained, block.Apart other) : Lawful obtained (oneLeft block) := by
  intro asked answered found
  obtain ⟨⟨nonempty, enough⟩, same⟩ := Option.ite_none_right_eq_some.mp found
  cases same
  exact {
    real := real
    nonempty := nonempty
    enough := enough
    addressed := addressed
    fresh := fresh }

/-- A block is written, freed and handed out again cleared, with no memory left. -/
theorem pool_disjoint_reuse : ∃ after mp heap,
    Run step Fair (initial (mempoolCreate 1600 4096 0) fun _ => 255) after ∧
      mempoolAlloc after.mp after.heap (fun _ => none) 10 1 = (mp, heap, 65536) ∧
      (∃! free, PoolDisjoint after free) ∧ HandedOut heap 65536 10 1 := by
  have reached : ∃ after,
      Run step Fair (initial (mempoolCreate 1600 4096 0) fun _ => 255) after ∧
        ∃ mp heap, mempoolAlloc after.mp after.heap (fun _ => none) 10 1 = (mp, heap, 65536) := by
    apply admitted_reaches step Fair _
      [.alloc 1600 0 (oneLeft ⟨65536, 1728⟩), .write 65540 7, .free 65536]
    · refine ⟨oneLeft_lawful (by decide) (by decide) nofun, ?_, Or.inr List.mem_cons_self, trivial⟩
      intro block owned away
      cases List.mem_singleton.mp owned
      exact absurd List.mem_cons_self away
    · exact ⟨_, rfl, _, _, rfl⟩
  obtain ⟨after, run, mp, heap, call⟩ := reached
  obtain ⟨disjoint, handed⟩ := pool_disjoint run
  exact ⟨after, mp, heap, run, call, disjoint,
    (handed 10 1 (fun _ => none) mp heap 65536 nofun call (by decide)).2⟩

end EspHosted.MempoolBlocks

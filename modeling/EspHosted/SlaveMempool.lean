import EspHosted.BlockShelf
import EspHosted.GuardedRun
import Mathlib.Algebra.Group.Nat.Defs

/-!
The memory pool of the slave, slave/main/mempool.c over mempool_ll.c, built with
CONFIG_ESP_CACHE_MALLOC and without OS_MEMPOOL_CHECK. One buffer is cut into blocks
when the pool is created, and the free ones are linked through their own first
bytes; a counter beside the list decides whether one is left. Addresses are of 32
bits.
-/

namespace EspHosted.SlaveMempool

open ByteMemory BlockShelf GuardedRun

def NULL : Nat := 0

def OS_OK : Int32 := 0
def OS_INVALID_PARM : Int32 := 3
def OS_MEM_NOT_ALIGNED : Int32 := 4

def OS_ALIGNMENT : UInt32 := 4

def osAlign (n a : UInt32) : UInt32 :=
  if n &&& (a - 1) = 0 then n else n + (a - (n &&& (a - 1)))

def memTrueBlockSize (bsize : UInt32) : UInt32 := osAlign bsize OS_ALIGNMENT

def OS_MEMPOOL_F_EXT : UInt8 := 1

/-- `struct os_mempool` without its name and its place in the list of all pools. -/
structure OsMempool where
  mpBlockSize : UInt32
  mpNumBlocks : UInt16
  mpNumFree : UInt16
  mpMinFree : UInt16
  mpFlags : UInt8
  mpMembufAddr : Nat
  slhFirst : Nat
  deriving DecidableEq, Repr

/-- The loop that links each block to the one behind it and the last one to NULL. -/
def chain (trueBlockSize : UInt32) : Nat → Nat → Memory → Memory
  | 0, block, memory | 1, block, memory => writeWord memory block NULL
  | blocks + 2, block, memory =>
      let next := (block + trueBlockSize.toNat) % 2 ^ 32
      chain trueBlockSize (blocks + 1) next (writeWord memory block next)

def osMempoolInit (blocks : UInt16) (blockSize : UInt32) (membuf : Nat) (memory : Memory) :
    Except Int32 (OsMempool × Memory) :=
  if blockSize = 0 then .error OS_INVALID_PARM
  else if membuf = NULL ∧ blocks ≠ 0 then .error OS_INVALID_PARM
  else if membuf ≠ NULL ∧ membuf &&& (OS_ALIGNMENT - 1).toNat ≠ 0 then .error OS_MEM_NOT_ALIGNED
  else
    .ok ({ mpBlockSize := blockSize
           mpNumBlocks := blocks
           mpNumFree := blocks
           mpMinFree := blocks
           mpFlags := 0
           mpMembufAddr := membuf
           slhFirst := membuf },
         chain (memTrueBlockSize blockSize) blocks.toNat membuf memory)

def osMempoolClear (mp : OsMempool) (memory : Memory) : OsMempool × Memory :=
  ({ mp with mpNumFree := mp.mpNumBlocks
             mpMinFree := mp.mpNumBlocks
             slhFirst := mp.mpMembufAddr },
   chain (memTrueBlockSize mp.mpBlockSize) mp.mpNumBlocks.toNat mp.mpMembufAddr memory)

def osMemblockFrom (mp : OsMempool) (blockAddr : Nat) : Bool :=
  let trueBlockSize := (memTrueBlockSize mp.mpBlockSize).toNat
  let bufEnd := (mp.mpMembufAddr + mp.mpNumBlocks.toNat * trueBlockSize) % 2 ^ 32
  if blockAddr < mp.mpMembufAddr ∨ bufEnd ≤ blockAddr then false
  else if (blockAddr - mp.mpMembufAddr) % trueBlockSize ≠ 0 then false
  else true

/-- `none` when `fuel` runs out before the list ends. -/
def osMempoolIsSane (fuel : Nat) (mp : OsMempool) (memory : Memory) : Option Bool :=
  walk (readWord memory) (osMemblockFrom mp) fuel mp.slhFirst

def osMemblockGet (mp : OsMempool) (memory : Memory) : OsMempool × Nat :=
  if mp.mpNumFree ≠ 0 then
    let numFree := mp.mpNumFree - 1
    ({ mp with slhFirst := readWord memory mp.slhFirst
               mpNumFree := numFree
               mpMinFree := if numFree < mp.mpMinFree then numFree else mp.mpMinFree },
     mp.slhFirst)
  else (mp, NULL)

def osMemblockPutFromCb (mp : OsMempool) (memory : Memory) (blockAddr : Nat) :
    OsMempool × Memory × Int32 :=
  ({ mp with slhFirst := blockAddr, mpNumFree := mp.mpNumFree + 1 },
   writeWord memory blockAddr mp.slhFirst, OS_OK)

abbrev PutFn := OsMempool → Memory → Nat → OsMempool × Memory × Int32

/-- `putCb` is what the extended structure holds, read only where the flag says there is one. -/
def osMemblockPut (putCb : Option PutFn) (mp : OsMempool) (memory : Memory) (blockAddr : Nat) :
    OsMempool × Memory × Int32 :=
  if blockAddr = NULL then (mp, memory, OS_INVALID_PARM)
  else
    match putCb with
    | some callback =>
        if mp.mpFlags &&& OS_MEMPOOL_F_EXT ≠ 0 then callback mp memory blockAddr
        else osMemblockPutFromCb mp memory blockAddr
    | none => osMemblockPutFromCb mp memory blockAddr

def MEMPOOL_FAIL : Int32 := -1

def MEMPOOL_ALIGNMENT_BYTES : UInt32 := 4

def MEMPOOL_ALIGNMENT_MASK : UInt32 := MEMPOOL_ALIGNMENT_BYTES - 1

def isMempoolAligned (val : Nat) : Bool := val &&& MEMPOOL_ALIGNMENT_MASK.toNat = 0

def mempoolAligned (val : UInt32) : UInt32 :=
  val + MEMPOOL_ALIGNMENT_BYTES - (val &&& MEMPOOL_ALIGNMENT_MASK)

def osMempoolBytes (n blksize : UInt32) : UInt32 := 4 * ((blksize + 3) / 4 * n)

structure HostedMempool where
  pool : OsMempool
  heap : Nat
  staticHeap : Bool
  numBlocks : UInt32
  blockSize : UInt32
  deriving DecidableEq, Repr

/-- What CALLOC answers to the requests for the blocks and for the two structures. -/
structure Found where
  heap : Nat
  new : Nat
  pool : Nat

/-- `freed` are the addresses given back by a call that fails. -/
structure Created where
  mempool : Option HostedMempool
  memory : Memory
  freed : List Nat

/-- The label at the end of `hosted_mempool_create`. -/
def freeBuffs (preAllocatedMem : Nat) (found : Found) (heap : Nat) (memory : Memory) : Created :=
  { mempool := none
    memory := memory
    freed := [found.new, found.pool].filter (· ≠ NULL) ++
      if preAllocatedMem = NULL then [heap].filter (· ≠ NULL) else [] }

/-- The part of `hosted_mempool_create` behind the choice of the heap. -/
def createOver (preAllocatedMem : Nat) (numBlocks blockSize : UInt32) (found : Found)
    (heap : Nat) (memory : Memory) : Created :=
  if found.new = NULL ∨ found.pool = NULL then freeBuffs preAllocatedMem found heap memory
  else
    match osMempoolInit numBlocks.toUInt16 blockSize heap memory with
    | .error _ => freeBuffs preAllocatedMem found heap memory
    | .ok (pool, memory) =>
        { mempool := some { pool := pool
                            heap := heap
                            staticHeap := preAllocatedMem ≠ NULL
                            numBlocks := numBlocks
                            blockSize := blockSize }
          memory := memory
          freed := [] }

/-- The bytes `hosted_mempool_create` asks CALLOC for. -/
def heapBytes (numBlocks blockSize : UInt32) : UInt32 :=
  mempoolAligned (osMempoolBytes numBlocks blockSize)

def hostedMempoolCreate (preAllocatedMem : Nat) (preAllocatedMemSize numBlocks blockSize : UInt32)
    (found : Found) (memory : Memory) : Created :=
  if preAllocatedMem = NULL then
    if found.heap = NULL then { mempool := none, memory := memory, freed := [] }
    else createOver preAllocatedMem numBlocks blockSize found found.heap
      (fill memory found.heap 0 (heapBytes numBlocks blockSize).toNat)
  else if preAllocatedMemSize < numBlocks * blockSize then
    { mempool := none, memory := memory, freed := [] }
  else if !isMempoolAligned preAllocatedMem then
    { mempool := none, memory := memory, freed := [] }
  else createOver preAllocatedMem numBlocks blockSize found preAllocatedMem memory

/-- With OS_MEMPOOL_CHECK off `nbytes` is compared with nothing. -/
def hostedMempoolAlloc (mempool : Option HostedMempool) (memory : Memory) (nbytes : UInt32)
    (needMemset : UInt8) : Option HostedMempool × Memory × Nat :=
  match mempool with
  | none => (none, memory, NULL)
  | some mempool =>
      let (pool, mem) := osMemblockGet mempool.pool memory
      let mempool := { mempool with pool := pool }
      if mem ≠ NULL ∧ needMemset ≠ 0 then (some mempool, fill memory mem 0 nbytes.toNat, mem)
      else (some mempool, memory, mem)

def hostedMempoolFree (mempool : Option HostedMempool) (memory : Memory) (mem : Nat) :
    Option HostedMempool × Memory × Int32 :=
  if mem = NULL then (mempool, memory, 0)
  else
    match mempool with
    | none => (none, memory, MEMPOOL_FAIL)
    | some mempool =>
        let (pool, memory, rc) := osMemblockPut none mempool.pool memory mem
        (some { mempool with pool := pool }, memory, rc)

/-- `outstanding` are the addresses handed out and not freed since, `counts` the values of the
free counter from the creation or the last clear on. -/
structure State where
  mempool : HostedMempool
  memory : Memory
  outstanding : List Nat
  counts : List Nat

inductive Act where
  | alloc (nbytes : UInt32) (needMemset : UInt8)
  | free (mem : Nat)
  | write (addr : Nat) (byte : UInt8)
  | clear

def handOut (mem : Nat) (outstanding : List Nat) : List Nat :=
  if mem = NULL then outstanding else mem :: outstanding

def step (state : State) : Act → Option State
  | .alloc nbytes needMemset =>
      let (mempool, memory, mem) :=
        hostedMempoolAlloc (some state.mempool) state.memory nbytes needMemset
      mempool.map fun mempool =>
        { mempool := mempool
          memory := memory
          outstanding := handOut mem state.outstanding
          counts := mempool.pool.mpNumFree.toNat :: state.counts }
  | .free mem =>
      let (mempool, memory, _) := hostedMempoolFree (some state.mempool) state.memory mem
      mempool.map fun mempool =>
        { mempool := mempool
          memory := memory
          outstanding := state.outstanding.erase mem
          counts := mempool.pool.mpNumFree.toNat :: state.counts }
  | .write addr byte => some { state with memory := writeByte state.memory addr byte }
  | .clear =>
      let (pool, memory) := osMempoolClear state.mempool.pool state.memory
      some { mempool := { state.mempool with pool := pool }
             memory := memory
             outstanding := []
             counts := [pool.mpNumFree.toNat] }

/-- The addresses of the blocks of a pool. -/
def blockAddrs (mp : OsMempool) : List Nat :=
  List.range' mp.mpMembufAddr mp.mpNumBlocks.toNat (memTrueBlockSize mp.mpBlockSize).toNat

/-- No more than a block is cleared, only NULL and outstanding blocks are freed, and nobody
but the pool writes the link of a block that is not outstanding. -/
def Fair (state : State) : Act → Prop
  | .alloc nbytes needMemset =>
      needMemset ≠ 0 → nbytes ≤ memTrueBlockSize state.mempool.pool.mpBlockSize
  | .free mem => mem = NULL ∨ mem ∈ state.outstanding
  | .write addr _ => ∀ block ∈ blockAddrs state.mempool.pool, block ∉ state.outstanding →
      addr < block ∨ block + wordBytes ≤ addr
  | .clear => True

/-- A pool just created. -/
def initial (mempool : HostedMempool) (memory : Memory) : State :=
  { mempool := mempool
    memory := memory
    outstanding := []
    counts := [mempool.pool.mpNumFree.toNat] }

theorem memTrueBlockSize_toNat {bsize : UInt32} (small : bsize.toNat + 3 < 2 ^ 32) :
    (memTrueBlockSize bsize).toNat = (bsize.toNat + 3) / 4 * 4 := by
  have low : (bsize &&& (OS_ALIGNMENT - 1)).toNat = bsize.toNat % 4 := by
    rw [UInt32.toNat_and]
    exact Nat.and_two_pow_sub_one_eq_mod bsize.toNat 2
  by_cases even : bsize &&& (OS_ALIGNMENT - 1) = 0
  · rw [memTrueBlockSize, osAlign, if_pos even]
    rw [even] at low
    change 0 = _ at low
    omega
  · have odd : bsize.toNat % 4 ≠ 0 := by
      rw [← low]
      exact fun zero => even (UInt32.toNat_inj.mp zero)
    rw [memTrueBlockSize, osAlign, if_neg even, UInt32.toNat_add, UInt32.toNat_sub, low]
    change (bsize.toNat + (2 ^ 32 - bsize.toNat % 4 + 4) % 2 ^ 32) % 2 ^ 32 = _
    omega

section Chain
variable {size : UInt32} {block : Nat} {memory : Memory}

/-- Chaining writes the first word of each block and nothing else. -/
theorem chain_outside (blocks : Nat) (linkable : wordBytes ≤ size.toNat)
    (below : block + (blocks + 1) * size.toNat < 2 ^ 32) :
    SameOutside block ((blocks + 1) * size.toNat) memory (chain size (blocks + 1) block memory) := by
  induction blocks generalizing block memory with
  | zero =>
      intro other outside
      rw [Nat.zero_add, Nat.one_mul] at outside
      apply writeWord_outside
      omega
  | succ blocks ih =>
      rw [Nat.add_mul _ 1, Nat.one_mul] at below
      have next : (block + size.toNat) % 2 ^ 32 = block + size.toNat :=
        Nat.mod_eq_of_lt (by omega)
      intro other outside
      rw [Nat.add_mul _ 1, Nat.one_mul] at outside
      rw [chain, next, ih (by omega) other (by omega)]
      apply writeWord_outside
      omega

/-- The chained blocks are the free list, in the order of their addresses. -/
theorem chain_threads (blocks : Nat) (real : block ≠ 0) (linkable : wordBytes ≤ size.toNat)
    (below : block + (blocks + 1) * size.toNat < 2 ^ 32) :
    Threads (readWord (chain size (blocks + 1) block memory)) block
      (List.range' block (blocks + 1) size.toNat) := by
  induction blocks generalizing block memory with
  | zero =>
      have ends : readWord (chain size 1 block memory) block = NULL :=
        readWord_writeWord (by decide)
      exact .cons real (ends ▸ .nil)
  | succ blocks ih =>
      rw [Nat.add_mul _ 1, Nat.one_mul] at below
      have next : (block + size.toNat) % 2 ^ 32 = block + size.toNat :=
        Nat.mod_eq_of_lt (by omega)
      have later := @ih (block + size.toNat) (writeWord memory block (block + size.toNat))
        (by omega) (by omega)
      have untouched := @chain_outside size (block + size.toNat)
        (writeWord memory block (block + size.toNat)) blocks linkable (by omega)
      have linked : readWord (chain size (blocks + 1) (block + size.toNat)
          (writeWord memory block (block + size.toNat))) block = block + size.toNat := by
        rw [readWord_frame untouched (Or.inl (by omega)), readWord_writeWord (by omega)]
      rw [chain, next]
      exact .cons real (linked.symm ▸ later)

end Chain

/-- The pool and its free list in memory hold the blocks of the shelf, which are all blocks
of the buffer. -/
structure Holds {least : Nat} (mp : OsMempool) (memory : Memory) (outstanding : List Nat)
    (shelf : Shelf least) : Prop where
  sized : (memTrueBlockSize mp.mpBlockSize).toNat = least
  linkable : wordBytes ≤ least
  real : mp.mpMembufAddr ≠ NULL
  nonempty : mp.mpNumBlocks ≠ 0
  below : mp.mpMembufAddr + mp.mpNumBlocks.toNat * least < 2 ^ 32
  counted : mp.mpNumFree.toNat = shelf.free.length
  whole : shelf.blocks.Perm (row mp.mpMembufAddr mp.mpNumBlocks.toNat least)
  listed : Threads (readWord memory) mp.slhFirst (shelf.free.map Block.start)
  handed : outstanding = shelf.outstanding.map Block.start

variable {least : Nat} {mp : OsMempool} {memory after : Memory} {outstanding : List Nat}
variable {shelf : Shelf least} {block : Block}

/-- Memory may change anywhere but in the links of the free blocks. -/
theorem Holds.rewrite (holds : Holds mp memory outstanding shelf)
    (kept : ∀ block ∈ shelf.free, readWord after block.start = readWord memory block.start) :
    Holds mp after outstanding shelf where
  sized := holds.sized
  linkable := holds.linkable
  real := holds.real
  nonempty := holds.nonempty
  below := holds.below
  counted := holds.counted
  whole := holds.whole
  handed := holds.handed
  listed := by
    apply holds.listed.congr
    intro addr member
    obtain ⟨block, free, rfl⟩ := List.mem_map.mp member
    exact kept block free

theorem Holds.addrs (holds : Holds mp memory outstanding shelf) :
    (shelf.free.map Block.start ++ outstanding).Perm (blockAddrs mp) := by
  have starts := holds.whole.map Block.start
  rw [Shelf.blocks, List.map_append, ← holds.handed, row_starts] at starts
  rw [blockAddrs, holds.sized]
  exact starts

theorem Holds.count (holds : Holds mp memory outstanding shelf) :
    mp.mpNumFree.toNat + outstanding.length = mp.mpNumBlocks.toNat := by
  have lengths := holds.addrs.length_eq
  rw [List.length_append, List.length_map, blockAddrs, List.length_range', ← holds.counted]
    at lengths
  exact lengths

theorem Holds.null_not_out (holds : Holds mp memory outstanding shelf) : NULL ∉ outstanding := by
  intro out
  rw [holds.handed] at out
  obtain ⟨block, held, same⟩ := List.mem_map.mp out
  exact (shelf.usable block (List.mem_append_right _ held)).real same

/-- Clearing an outstanding block leaves the links of the free ones alone. -/
theorem Holds.clear {count : Nat} (holds : Holds mp memory outstanding shelf)
    (held : block ∈ shelf.outstanding) (within : count ≤ block.size) :
    Holds mp (fill memory block.start 0 count) outstanding shelf := by
  apply holds.rewrite
  intro other free
  exact Shelf.link_kept free held within (fill_outside 0)

/-- The pool behind a call of `os_memblock_get` that finds a block. -/
def taken (mp : OsMempool) (memory : Memory) : OsMempool :=
  { mp with slhFirst := readWord memory mp.slhFirst
            mpNumFree := mp.mpNumFree - 1
            mpMinFree := if mp.mpNumFree - 1 < mp.mpMinFree then mp.mpNumFree - 1
                         else mp.mpMinFree }

theorem osMemblockGet_some (some_free : mp.mpNumFree ≠ 0) :
    osMemblockGet mp memory = (taken mp memory, mp.slhFirst) :=
  if_pos some_free

theorem osMemblockGet_none (none_free : mp.mpNumFree = 0) :
    osMemblockGet mp memory = (mp, NULL) :=
  if_neg fun some_free => some_free none_free

theorem count_pred {count : UInt16} (positive : count ≠ 0) :
    (count - 1).toNat = count.toNat - 1 := by
  have nonzero : count.toNat ≠ 0 := fun zero => positive (UInt16.toNat_inj.mp zero)
  have bounded := count.toNat_lt
  rw [UInt16.toNat_sub]
  change (2 ^ 16 - 1 + count.toNat) % 2 ^ 16 = _
  omega

theorem count_succ {count : UInt16} (room : count.toNat + 1 < 2 ^ 16) :
    (count + 1).toNat = count.toNat + 1 := by
  rw [UInt16.toNat_add]
  exact Nat.mod_eq_of_lt room

/-- While the counter is not 0 there is a block on top of the list. -/
theorem Holds.top (holds : Holds mp memory outstanding shelf) (some_free : mp.mpNumFree ≠ 0) :
    ∃ block rest, shelf.free = block :: rest ∧ block.start = mp.slhFirst ∧
      Threads (readWord memory) (readWord memory mp.slhFirst) (rest.map Block.start) := by
  have listed := holds.listed
  have real : mp.slhFirst ≠ NULL := by
    intro none_left
    rw [none_left] at listed
    have counted := holds.counted
    rw [List.map_eq_nil_iff.mp listed.empty] at counted
    exact some_free (UInt16.toNat_inj.mp counted)
  obtain ⟨starts, split, threads⟩ := listed.pop real
  obtain ⟨block, rest, free, same, later⟩ := List.map_eq_cons_iff.mp split
  exact ⟨block, rest, free, same, later ▸ threads⟩

theorem Holds.take {rest : List Block} (holds : Holds mp memory outstanding shelf)
    (some_free : mp.mpNumFree ≠ 0) (top : shelf.free = block :: rest)
    (same : block.start = mp.slhFirst)
    (threads : Threads (readWord memory) (readWord memory mp.slhFirst) (rest.map Block.start)) :
    Holds (taken mp memory) memory (mp.slhFirst :: outstanding) (shelf.reuse top) where
  sized := holds.sized
  linkable := holds.linkable
  real := holds.real
  nonempty := holds.nonempty
  below := holds.below
  counted := by
    have counted := holds.counted
    rw [top, List.length_cons] at counted
    change (mp.mpNumFree - 1).toNat = rest.length
    rw [count_pred some_free, counted]
    rfl
  whole := (Shelf.reuse_perm top).trans holds.whole
  listed := threads
  handed := by
    rw [holds.handed, ← same]
    rfl

theorem Holds.first_fits (holds : Holds mp memory outstanding shelf) : mp.slhFirst < 2 ^ 32 := by
  rcases holds.listed.head_mem with none_free | member
  · rw [none_free]
    decide
  · obtain ⟨block, free, same⟩ := List.mem_map.mp member
    have usable := shelf.usable block (List.mem_append_left _ free)
    have room : 0 < block.size := Nat.lt_of_lt_of_le (by decide) usable.linkable
    rw [← same]
    exact Nat.lt_of_lt_of_le (Nat.lt_add_of_pos_right room) usable.addressed

/-- A freed block is linked in front of the others. The counter cannot run over: a block was
out, so it stood below the number of blocks. -/
theorem Holds.put {later rest : List Block} (holds : Holds mp memory outstanding shelf)
    (held : shelf.outstanding = later ++ block :: rest) :
    Holds (osMemblockPutFromCb mp memory block.start).1
      (osMemblockPutFromCb mp memory block.start).2.1 (outstanding.erase block.start)
      (shelf.giveBack held) where
  sized := holds.sized
  linkable := holds.linkable
  real := holds.real
  nonempty := holds.nonempty
  below := holds.below
  counted := by
    have count := holds.count
    have bounded := mp.mpNumBlocks.toNat_lt
    rw [holds.handed, List.length_map, held, List.length_append, List.length_cons] at count
    change (mp.mpNumFree + 1).toNat = shelf.free.length + 1
    rw [count_succ (by omega), holds.counted]
  whole := (Shelf.giveBack_perm held).trans holds.whole
  listed := by
    have member : block ∈ shelf.outstanding := held ▸ List.mem_append_right _ List.mem_cons_self
    have usable := shelf.usable block (List.mem_append_right _ member)
    have others : Threads (readWord (writeWord memory block.start mp.slhFirst)) mp.slhFirst
        (shelf.free.map Block.start) := by
      apply holds.listed.congr
      intro addr found
      obtain ⟨other, free, rfl⟩ := List.mem_map.mp found
      exact Shelf.link_kept free member usable.linkable writeWord_outside
    exact others.push usable.real (readWord_writeWord holds.first_fits)
  handed := by
    rw [holds.handed]
    exact Shelf.starts_erase held

/-- The chain of a pool whose blocks are `shelf.blocks` makes all of them free. -/
theorem chained {blocks : UInt16} {size : UInt32} {membuf : Nat} (nonempty : blocks ≠ 0)
    (real : membuf ≠ NULL) (linkable : wordBytes ≤ size.toNat)
    (below : membuf + blocks.toNat * size.toNat < 2 ^ 32) :
    Threads (readWord (chain size blocks.toNat membuf memory)) membuf
      (List.range' membuf blocks.toNat size.toNat) := by
  have positive : blocks.toNat ≠ 0 := fun zero => nonempty (UInt16.toNat_inj.mp zero)
  obtain ⟨others, count⟩ := Nat.exists_eq_succ_of_ne_zero positive
  rw [count] at below ⊢
  exact chain_threads others real linkable below

theorem Holds.reset (holds : Holds mp memory outstanding shelf) :
    ∃ shelf : Shelf least, Holds (osMempoolClear mp memory).1 (osMempoolClear mp memory).2 [] shelf := by
  refine ⟨shelf.gather _ holds.whole.symm, ?_⟩
  have threads := @chained memory mp.mpNumBlocks (memTrueBlockSize mp.mpBlockSize)
    mp.mpMembufAddr holds.nonempty holds.real (holds.sized ▸ holds.linkable)
    (holds.sized ▸ holds.below)
  exact {
    sized := holds.sized
    linkable := holds.linkable
    real := holds.real
    nonempty := holds.nonempty
    below := holds.below
    counted := length_row.symm
    whole := .of_eq (List.append_nil _)
    listed := by
      change Threads _ _ ((row _ _ least).map Block.start)
      rw [row_starts, ← holds.sized]
      exact threads
    handed := rfl }

/-- The low mark is the lowest value of the free counter on record. -/
structure Marked (mp : OsMempool) (counts : List Nat) : Prop where
  current : mp.mpNumFree.toNat ∈ counts
  reached : mp.mpMinFree.toNat ∈ counts
  lowest : ∀ count ∈ counts, mp.mpMinFree.toNat ≤ count

variable {counts : List Nat}

theorem Marked.take (marked : Marked mp counts) :
    Marked (taken mp memory) ((taken mp memory).mpNumFree.toNat :: counts) := by
  by_cases lower : mp.mpNumFree - 1 < mp.mpMinFree
  · have mark : (taken mp memory).mpMinFree = mp.mpNumFree - 1 := if_pos lower
    refine ⟨List.mem_cons_self, mark ▸ List.mem_cons_self, ?_⟩
    intro count member
    rw [mark]
    rcases List.mem_cons.mp member with rfl | old
    · exact Nat.le_refl _
    · exact Nat.le_trans (Nat.le_of_lt (UInt16.lt_iff_toNat_lt.mp lower)) (marked.lowest count old)
  · have mark : (taken mp memory).mpMinFree = mp.mpMinFree := if_neg lower
    refine ⟨List.mem_cons_self, mark ▸ List.mem_cons_of_mem _ marked.reached, ?_⟩
    intro count member
    rw [mark]
    rcases List.mem_cons.mp member with rfl | old
    · exact UInt16.le_iff_toNat_le.mp (UInt16.not_lt.mp lower)
    · exact marked.lowest count old

/-- A counter that does not fall below the current value leaves the mark where it is. -/
theorem Marked.rise {later : OsMempool} (marked : Marked mp counts)
    (mark : later.mpMinFree = mp.mpMinFree)
    (above : mp.mpNumFree.toNat ≤ later.mpNumFree.toNat) :
    Marked later (later.mpNumFree.toNat :: counts) where
  current := List.mem_cons_self
  reached := mark ▸ List.mem_cons_of_mem _ marked.reached
  lowest := by
    intro count member
    rw [mark]
    rcases List.mem_cons.mp member with rfl | old
    · exact Nat.le_trans (marked.lowest _ marked.current) above
    · exact marked.lowest count old

theorem Marked.fresh (same : mp.mpMinFree = mp.mpNumFree) : Marked mp [mp.mpNumFree.toNat] where
  current := List.mem_cons_self
  reached := same ▸ List.mem_cons_self
  lowest := by
    intro count member
    exact Nat.le_of_eq (by rw [List.mem_singleton.mp member, same])

/-- What `hosted_mempool_alloc` leaves in memory behind the block it hands out. -/
def cleared (memory : Memory) (mem : Nat) (nbytes : UInt32) (needMemset : UInt8) : Memory :=
  if needMemset ≠ 0 then fill memory mem 0 nbytes.toNat else memory

variable {mempool : HostedMempool} {nbytes : UInt32} {needMemset : UInt8}

theorem hostedMempoolAlloc_none (none_free : mempool.pool.mpNumFree = 0) :
    hostedMempoolAlloc (some mempool) memory nbytes needMemset = (some mempool, memory, NULL) := by
  rw [hostedMempoolAlloc, osMemblockGet_none none_free]
  exact if_neg fun both => both.1 rfl

theorem hostedMempoolAlloc_some (some_free : mempool.pool.mpNumFree ≠ 0)
    (real : mempool.pool.slhFirst ≠ NULL) :
    hostedMempoolAlloc (some mempool) memory nbytes needMemset =
      (some { mempool with pool := taken mempool.pool memory },
        cleared memory mempool.pool.slhFirst nbytes needMemset, mempool.pool.slhFirst) := by
  rw [hostedMempoolAlloc, osMemblockGet_some some_free, cleared]
  by_cases clears : needMemset ≠ 0
  · rw [if_pos clears]
    exact if_pos ⟨real, clears⟩
  · rw [if_neg clears]
    exact if_neg fun both => clears both.2

/-- A block that is handed out keeps the pool, also where the block is cleared. -/
theorem Holds.alloc (holds : Holds mp memory outstanding shelf) (some_free : mp.mpNumFree ≠ 0)
    (fits : needMemset ≠ 0 → nbytes ≤ memTrueBlockSize mp.mpBlockSize) :
    mp.slhFirst ≠ NULL ∧ mp.slhFirst ∈ shelf.free.map Block.start ∧ ∃ next : Shelf least,
      Holds (taken mp memory) (cleared memory mp.slhFirst nbytes needMemset)
        (mp.slhFirst :: outstanding) next := by
  obtain ⟨block, rest, top, same, threads⟩ := holds.top some_free
  have free : block ∈ shelf.free := top ▸ List.mem_cons_self
  have usable := shelf.usable block (List.mem_append_left _ free)
  have later := holds.take some_free top same threads
  refine ⟨same ▸ usable.real, same ▸ List.mem_map_of_mem free, shelf.reuse top, ?_⟩
  rw [cleared]
  by_cases clears : needMemset ≠ 0
  · have within : nbytes.toNat ≤ block.size := by
      have small := UInt32.le_iff_toNat_le.mp (fits clears)
      rw [holds.sized] at small
      exact Nat.le_trans small usable.enough
    have held : block ∈ (shelf.reuse top).outstanding := List.mem_cons_self
    have kept := later.clear held within
    rw [if_pos clears]
    rw [same] at kept
    exact kept
  · rw [if_neg clears]
    exact later

theorem hostedMempoolFree_null : hostedMempoolFree (some mempool) memory NULL =
    (some mempool, memory, 0) :=
  if_pos rfl

theorem hostedMempoolFree_block {mem : Nat} (real : mem ≠ NULL) :
    hostedMempoolFree (some mempool) memory mem =
      (some { mempool with pool := (osMemblockPutFromCb mempool.pool memory mem).1 },
        (osMemblockPutFromCb mempool.pool memory mem).2.1, OS_OK) := by
  rw [hostedMempoolFree, if_neg real, osMemblockPut, if_neg real]
  rfl

/-- Two pools over one buffer, cut in the same way. -/
structure SameBuffer (first second : OsMempool) : Prop where
  membuf : first.mpMembufAddr = second.mpMembufAddr
  blocks : first.mpNumBlocks = second.mpNumBlocks
  size : first.mpBlockSize = second.mpBlockSize

theorem SameBuffer.addrs {first second : OsMempool} (same : SameBuffer first second) :
    blockAddrs first = blockAddrs second := by
  rw [blockAddrs, same.membuf, same.blocks, same.size]
  rfl

/-- What every step keeps. -/
structure Inv (buffer : OsMempool) (least : Nat) (state : State) : Prop where
  same : SameBuffer state.mempool.pool buffer
  marked : Marked state.mempool.pool state.counts
  held : ∃ shelf : Shelf least, Holds state.mempool.pool state.memory state.outstanding shelf

variable {buffer : OsMempool} {before next : State}

theorem inv_step {act : Act} (inv : Inv buffer least before) (fair : Fair before act)
    (went : step before act = some next) : Inv buffer least next := by
  obtain ⟨same, marked, shelf, holds⟩ := inv
  cases act with
  | alloc nbytes needMemset =>
      by_cases none_free : before.mempool.pool.mpNumFree = 0
      · rw [step, hostedMempoolAlloc_none none_free] at went
        cases went
        exact ⟨same, marked.rise rfl (Nat.le_refl _), shelf, holds⟩
      · obtain ⟨real, _, later, kept⟩ := holds.alloc none_free fair
        rw [step, hostedMempoolAlloc_some none_free real] at went
        cases went
        refine ⟨⟨same.membuf, same.blocks, same.size⟩, marked.take, later, ?_⟩
        rw [handOut, if_neg real]
        exact kept
  | free mem =>
      by_cases empty : mem = NULL
      · rw [step, empty, hostedMempoolFree_null] at went
        cases went
        refine ⟨same, marked.rise rfl (Nat.le_refl _), shelf, ?_⟩
        rw [List.erase_of_not_mem holds.null_not_out]
        exact holds
      · have out := fair.resolve_left empty
        rw [holds.handed] at out
        obtain ⟨block, held, rfl⟩ := List.mem_map.mp out
        obtain ⟨later, rest, split⟩ := List.append_of_mem held
        have kept := holds.put split
        have risen : before.mempool.pool.mpNumFree.toNat ≤
            (before.mempool.pool.mpNumFree + 1).toNat := by
          have counted := kept.counted
          change (before.mempool.pool.mpNumFree + 1).toNat = shelf.free.length + 1 at counted
          rw [counted, holds.counted]
          exact Nat.le_succ _
        rw [step, hostedMempoolFree_block empty] at went
        cases went
        exact ⟨⟨same.membuf, same.blocks, same.size⟩, marked.rise rfl risen, _, kept⟩
  | write addr byte =>
      cases went
      refine ⟨same, marked, shelf, holds.rewrite ?_⟩
      intro block free
      have started := List.mem_map_of_mem (f := Block.start) free
      have known := holds.addrs.mem_iff.mp (List.mem_append_left _ started)
      have away : block.start ∉ before.outstanding := by
        rw [holds.handed]
        exact shelf.starts_disjoint.2.2 _ started
      apply readWord_frame (writeByte_outside byte)
      rcases fair block.start known away with below | above
      · exact Or.inr below
      · exact Or.inl above
  | clear =>
      cases went
      exact ⟨⟨same.membuf, same.blocks, same.size⟩, .fresh rfl, holds.reset⟩

/-- The buffer has room for the blocks that 16 bits count, which are not none, and neither the
size of a block nor the addresses run over. -/
structure Roomy (heap granted : Nat) (numBlocks blockSize : UInt32) : Prop where
  some : numBlocks.toUInt16 ≠ 0
  sized : blockSize.toNat + 3 < 2 ^ 32
  room : numBlocks.toUInt16.toNat * (memTrueBlockSize blockSize).toNat ≤ granted
  addressed : heap + granted < 2 ^ 32

/-- The heap has room when the number of bytes asked for does not run over. -/
theorem heap_roomy {heap : Nat} {numBlocks blockSize : UInt32} (some : numBlocks.toUInt16 ≠ 0)
    (sized : blockSize.toNat + 3 < 2 ^ 32)
    (bounded : numBlocks.toNat * (memTrueBlockSize blockSize).toNat + 4 < 2 ^ 32)
    (addressed : heap + (heapBytes numBlocks blockSize).toNat < 2 ^ 32) :
    Roomy heap (heapBytes numBlocks blockSize).toNat numBlocks blockSize where
  some := some
  sized := sized
  addressed := addressed
  room := by
    rw [memTrueBlockSize_toNat sized] at bounded ⊢
    have words : ((blockSize + 3) / 4).toNat = (blockSize.toNat + 3) / 4 := by
      rw [UInt32.toNat_div, UInt32.toNat_add]
      exact congrArg (· / 4) (Nat.mod_eq_of_lt sized)
    have product : (blockSize.toNat + 3) / 4 * numBlocks.toNat * 4 + 4 < 2 ^ 32 := by
      rw [Nat.mul_comm numBlocks.toNat, Nat.mul_right_comm] at bounded
      exact bounded
    have bytes : (osMempoolBytes numBlocks blockSize).toNat =
        (blockSize.toNat + 3) / 4 * numBlocks.toNat * 4 := by
      rw [osMempoolBytes, UInt32.toNat_mul, UInt32.toNat_mul, words,
        Nat.mod_eq_of_lt (a := _ * numBlocks.toNat) (by omega)]
      change 4 * _ % _ = _
      rw [Nat.mul_comm 4, Nat.mod_eq_of_lt (by omega)]
    have low : (osMempoolBytes numBlocks blockSize &&& MEMPOOL_ALIGNMENT_MASK).toNat = 0 := by
      rw [UInt32.toNat_and, bytes]
      have mask := Nat.and_two_pow_sub_one_eq_mod ((blockSize.toNat + 3) / 4 * numBlocks.toNat * 4) 2
      change _ &&& 3 = _ % 4 at mask
      change _ &&& 3 = 0
      rw [mask, Nat.mul_mod_left]
    have asked : (heapBytes numBlocks blockSize).toNat =
        (blockSize.toNat + 3) / 4 * numBlocks.toNat * 4 + 4 := by
      rw [heapBytes, mempoolAligned, UInt32.toNat_sub, UInt32.toNat_add, low, bytes]
      change (2 ^ 32 - 0 + (_ + 4) % 2 ^ 32) % 2 ^ 32 = _
      omega
    have counted : numBlocks.toUInt16.toNat ≤ numBlocks.toNat := by
      rw [UInt32.toNat_toUInt16]
      exact Nat.mod_le _ _
    calc numBlocks.toUInt16.toNat * ((blockSize.toNat + 3) / 4 * 4)
        ≤ numBlocks.toNat * ((blockSize.toNat + 3) / 4 * 4) := Nat.mul_le_mul_right _ counted
      _ = (blockSize.toNat + 3) / 4 * numBlocks.toNat * 4 := by
          rw [Nat.mul_comm numBlocks.toNat, Nat.mul_right_comm]
      _ ≤ (heapBytes numBlocks blockSize).toNat := asked ▸ Nat.le_add_right _ _

/-- The bytes that the blocks may lie in: what CALLOC was asked for, or what the caller lends. -/
def granted (preAllocatedMem : Nat) (preAllocatedMemSize numBlocks blockSize : UInt32) : Nat :=
  if preAllocatedMem = NULL then (heapBytes numBlocks blockSize).toNat
  else preAllocatedMemSize.toNat

/-- The buffer a pool is created over, as `hosted_mempool_create` chooses it. -/
def chosen (preAllocatedMem : Nat) (found : Found) : Nat :=
  if preAllocatedMem = NULL then found.heap else preAllocatedMem

variable {preAllocatedMem : Nat} {preAllocatedMemSize numBlocks blockSize : UInt32} {found : Found}

theorem createOver_some {heap : Nat}
    (created : (createOver preAllocatedMem numBlocks blockSize found heap memory).mempool =
      some mempool) :
    ∃ pool, osMempoolInit numBlocks.toUInt16 blockSize heap memory =
        .ok (pool, (createOver preAllocatedMem numBlocks blockSize found heap memory).memory) ∧
      mempool.pool = pool ∧ mempool.heap = heap := by
  by_cases missing : found.new = NULL ∨ found.pool = NULL
  · rw [createOver, if_pos missing] at created
    cases created
  · rw [createOver, if_neg missing] at created ⊢
    cases made : osMempoolInit numBlocks.toUInt16 blockSize heap memory with
    | error code =>
        rw [made] at created
        cases created
    | ok result =>
        rw [made] at created
        cases created
        exact ⟨result.1, rfl, rfl, rfl⟩

/-- A pool is created over the chosen buffer, whatever memory held. -/
theorem hostedMempoolCreate_some
    (created : (hostedMempoolCreate preAllocatedMem preAllocatedMemSize numBlocks blockSize found
      memory).mempool = some mempool) :
    chosen preAllocatedMem found ≠ NULL ∧ ∃ earlier pool,
      osMempoolInit numBlocks.toUInt16 blockSize (chosen preAllocatedMem found) earlier =
        .ok (pool, (hostedMempoolCreate preAllocatedMem preAllocatedMemSize numBlocks blockSize
          found memory).memory) ∧
      mempool.pool = pool := by
  by_cases lent : preAllocatedMem = NULL
  · rw [chosen, if_pos lent]
    rw [hostedMempoolCreate, if_pos lent] at created ⊢
    by_cases absent : found.heap = NULL
    · rw [if_pos absent] at created
      cases created
    · rw [if_neg absent] at created ⊢
      obtain ⟨pool, made, same, _⟩ := createOver_some created
      exact ⟨absent, _, pool, made, same⟩
  · rw [chosen, if_neg lent]
    rw [hostedMempoolCreate, if_neg lent] at created ⊢
    by_cases short : preAllocatedMemSize < numBlocks * blockSize
    · rw [if_pos short] at created
      cases created
    · rw [if_neg short] at created ⊢
      by_cases odd : (!isMempoolAligned preAllocatedMem) = true
      · rw [if_pos odd] at created
        cases created
      · rw [if_neg odd] at created ⊢
        obtain ⟨pool, made, same, _⟩ := createOver_some created
        exact ⟨lent, _, pool, made, same⟩

theorem osMempoolInit_ok {blocks : UInt16} {membuf : Nat} {pool : OsMempool}
    (made : osMempoolInit blocks blockSize membuf memory = .ok (pool, after)) :
    blockSize ≠ 0 ∧ after = chain (memTrueBlockSize blockSize) blocks.toNat membuf memory ∧
      pool = { mpBlockSize := blockSize, mpNumBlocks := blocks, mpNumFree := blocks,
               mpMinFree := blocks, mpFlags := 0, mpMembufAddr := membuf, slhFirst := membuf } := by
  rw [osMempoolInit] at made
  split at made
  · cases made
  · split at made
    · cases made
    · split at made
      · cases made
      · cases made
        exact ⟨‹_›, rfl, rfl⟩

theorem created_inv (roomy : Roomy (chosen preAllocatedMem found)
      (granted preAllocatedMem preAllocatedMemSize numBlocks blockSize) numBlocks blockSize)
    (created : (hostedMempoolCreate preAllocatedMem preAllocatedMemSize numBlocks blockSize found
      memory).mempool = some mempool) :
    Inv mempool.pool (memTrueBlockSize blockSize).toNat
      (initial mempool (hostedMempoolCreate preAllocatedMem preAllocatedMemSize numBlocks blockSize
        found memory).memory) := by
  obtain ⟨real, earlier, pool, made, same⟩ := hostedMempoolCreate_some created
  obtain ⟨positive, chains, fields⟩ := osMempoolInit_ok made
  have linkable : wordBytes ≤ (memTrueBlockSize blockSize).toNat := by
    have nonzero : blockSize.toNat ≠ 0 := fun zero => positive (UInt32.toNat_inj.mp zero)
    rw [memTrueBlockSize_toNat roomy.sized, wordBytes]
    omega
  have room := roomy.room
  have addressed := roomy.addressed
  have below : chosen preAllocatedMem found +
      numBlocks.toUInt16.toNat * (memTrueBlockSize blockSize).toNat < 2 ^ 32 := by omega
  refine ⟨⟨rfl, rfl, rfl⟩, ?_, Shelf.fresh _ _ _ real linkable (Nat.le_of_lt below), ?_⟩
  · apply Marked.fresh
    change mempool.pool.mpMinFree = mempool.pool.mpNumFree
    rw [same, fields]
  · change Holds mempool.pool _ [] _
    rw [chains, same, fields]
    exact {
      sized := rfl
      linkable := linkable
      real := real
      nonempty := roomy.some
      below := below
      counted := length_row.symm
      whole := .of_eq (List.append_nil _)
      listed := by
        change Threads _ _ ((row _ _ _).map Block.start)
        rw [row_starts]
        exact chained roomy.some real linkable below
      handed := rfl }

/-- `os_memblock_from` knows the blocks of the pool exactly. -/
theorem Holds.known (holds : Holds mp memory outstanding shelf) (addr : Nat) :
    osMemblockFrom mp addr = true ↔ addr ∈ blockAddrs mp := by
  have below := holds.below
  have linkable := holds.linkable
  rw [wordBytes] at linkable
  rw [blockAddrs, List.mem_range', osMemblockFrom, holds.sized, Nat.mod_eq_of_lt below]
  by_cases outside : addr < mp.mpMembufAddr ∨
      mp.mpMembufAddr + mp.mpNumBlocks.toNat * least ≤ addr
  · refine iff_of_false (fun found => ?_) ?_
    · rw [if_pos outside] at found
      cases found
    · rintro ⟨index, inside, rfl⟩
      have whole : (index + 1) * least ≤ mp.mpNumBlocks.toNat * least :=
        Nat.mul_le_mul_right least inside
      rw [Nat.add_mul, Nat.one_mul, Nat.mul_comm index] at whole
      omega
  · rw [if_neg outside]
    obtain ⟨offset, rfl⟩ := Nat.exists_eq_add_of_le (Nat.not_lt.mp fun low => outside (Or.inl low))
    rw [Nat.add_sub_cancel_left]
    by_cases between : offset % least ≠ 0
    · refine iff_of_false (fun found => ?_) ?_
      · rw [if_pos between] at found
        cases found
      · rintro ⟨index, _, same⟩
        exact between (Nat.add_left_cancel same ▸ Nat.mul_mod_right least index)
    · refine iff_of_true (if_neg between) ⟨offset / least, ?_, ?_⟩
      · apply Nat.div_lt_of_lt_mul
        rw [Nat.mul_comm]
        omega
      · rw [Nat.mul_div_cancel' (Nat.dvd_of_mod_eq_zero (Decidable.not_not.mp between))]

/-- The free list and the addresses handed out are the blocks of the buffer, each in one
place; the counter, the low mark and the checks of the pool agree with them. -/
structure PoolKept (buffer : OsMempool) (state : State) : Prop where
  same : SameBuffer state.mempool.pool buffer
  blocks : ∃ free, Threads (readWord state.memory) state.mempool.pool.slhFirst free ∧
    free.length = state.mempool.pool.mpNumFree.toNat ∧ (free ++ state.outstanding).Nodup ∧
    (free ++ state.outstanding).Perm (blockAddrs buffer)
  conserved : state.mempool.pool.mpNumFree.toNat + state.outstanding.length =
    buffer.mpNumBlocks.toNat
  marked : Marked state.mempool.pool state.counts
  known : ∀ addr, osMemblockFrom state.mempool.pool addr = true ↔ addr ∈ blockAddrs buffer
  sane : ∀ fuel > state.mempool.pool.mpNumFree.toNat,
    osMempoolIsSane fuel state.mempool.pool state.memory = some true

theorem Inv.kept {state : State} (inv : Inv buffer least state) : PoolKept buffer state := by
  obtain ⟨same, marked, shelf, holds⟩ := inv
  have addrs := holds.addrs
  have starts := shelf.starts_nodup
  rw [Shelf.blocks, List.map_append, ← holds.handed] at starts
  have counted : (shelf.free.map Block.start).length = state.mempool.pool.mpNumFree.toNat := by
    rw [List.length_map, holds.counted]
  refine {
    same := same
    blocks := ⟨_, holds.listed, counted, starts, same.addrs ▸ addrs⟩
    conserved := same.blocks ▸ holds.count
    marked := marked
    known := same.addrs ▸ holds.known
    sane := ?_ }
  intro fuel enough
  apply holds.listed.walk (counted.symm ▸ enough)
  intro addr free
  exact (holds.known addr).mpr (addrs.mem_iff.mp (List.mem_append_left _ free))

/-- What a call of `hosted_mempool_alloc` answers: NULL exactly when every block is out, else
a block of the buffer that is not out, cleared where that was asked for; no byte of another
block changes. -/
structure Served (buffer : OsMempool) (state : State) (nbytes : UInt32) (needMemset : UInt8)
    (memory : Memory) (mem : Nat) : Prop where
  exhausted : mem = NULL ↔ state.outstanding.length = buffer.mpNumBlocks.toNat
  block : mem ≠ NULL → mem ∈ blockAddrs buffer ∧ mem ∉ state.outstanding
  zeroed : mem ≠ NULL → needMemset ≠ 0 → ∀ index < nbytes.toNat, memory (mem + index) = 0
  others : ∀ addr, addr < mem ∨ mem + (memTrueBlockSize buffer.mpBlockSize).toNat ≤ addr →
    memory addr = state.memory addr

theorem Inv.serves {state : State} (inv : Inv buffer least state)
    (fits : needMemset ≠ 0 → nbytes ≤ memTrueBlockSize buffer.mpBlockSize) :
    ∃ mempool memory mem,
      hostedMempoolAlloc (some state.mempool) state.memory nbytes needMemset =
        (some mempool, memory, mem) ∧ Served buffer state nbytes needMemset memory mem := by
  obtain ⟨same, marked, shelf, holds⟩ := inv
  have count := holds.count
  rw [same.blocks] at count
  by_cases none_free : state.mempool.pool.mpNumFree = 0
  · refine ⟨_, _, _, hostedMempoolAlloc_none none_free, ?_⟩
    have all_out : state.outstanding.length = buffer.mpNumBlocks.toNat := by
      rw [none_free] at count
      exact (Nat.zero_add _).symm.trans count
    exact {
      exhausted := iff_of_true rfl all_out
      block := fun real => absurd rfl real
      zeroed := fun real => absurd rfl real
      others := fun _ _ => rfl }
  · obtain ⟨real, free, later, kept⟩ := holds.alloc none_free (same.size ▸ fits)
    refine ⟨_, _, _, hostedMempoolAlloc_some none_free real, ?_⟩
    have nonzero : state.mempool.pool.mpNumFree.toNat ≠ 0 :=
      fun zero => none_free (UInt16.toNat_inj.mp zero)
    have away : state.mempool.pool.slhFirst ∉ state.outstanding := by
      rw [holds.handed]
      exact shelf.starts_disjoint.2.2 _ free
    exact {
      exhausted := iff_of_false real (by omega)
      block := fun _ =>
        ⟨same.addrs ▸ holds.addrs.mem_iff.mp (List.mem_append_left _ free), away⟩
      zeroed := by
        intro _ clears index inside
        rw [cleared, if_pos clears]
        exact fill_inside 0 inside
      others := by
        intro addr outside
        rw [cleared]
        by_cases clears : needMemset ≠ 0
        · have small := UInt32.le_iff_toNat_le.mp (fits clears)
          rw [if_pos clears]
          apply fill_outside
          omega
        · rw [if_neg clears] }

theorem run_inv {start : State} (run : Run step Fair start before)
    (inv : Inv buffer least start) : Inv buffer least before := by
  induction run with
  | refl => exact inv
  | next act _ fair went ih => exact inv_step ih fair went

/-- Whatever is allocated, written, freed and cleared after a pool was created, no block is
lost or handed out twice. -/
theorem pool_conserved {state : State}
    (roomy : Roomy (chosen preAllocatedMem found)
      (granted preAllocatedMem preAllocatedMemSize numBlocks blockSize) numBlocks blockSize)
    (created : (hostedMempoolCreate preAllocatedMem preAllocatedMemSize numBlocks blockSize found
      memory).mempool = some mempool)
    (run : Run step Fair (initial mempool (hostedMempoolCreate preAllocatedMem preAllocatedMemSize
      numBlocks blockSize found memory).memory) state) :
    PoolKept mempool.pool state ∧
      ∀ (nbytes : UInt32) (needMemset : UInt8),
        (needMemset ≠ 0 → nbytes ≤ memTrueBlockSize mempool.pool.mpBlockSize) →
        ∃ later memory mem,
          hostedMempoolAlloc (some state.mempool) state.memory nbytes needMemset =
            (some later, memory, mem) ∧
          Served mempool.pool state nbytes needMemset memory mem := by
  have inv := run_inv run (created_inv roomy created)
  exact ⟨inv.kept, fun _ _ fits => inv.serves fits⟩

/-- Three blocks of ten bytes, two of them handed out, one written and freed again. -/
theorem pool_conserved_reuse : ∃ mempool state,
    (hostedMempoolCreate NULL 0 3 10 ⟨4096, 64, 128⟩ fun _ => 255).mempool = some mempool ∧
      Run step Fair (initial mempool (hostedMempoolCreate NULL 0 3 10 ⟨4096, 64, 128⟩
        fun _ => 255).memory) state ∧
      state.outstanding = [4108] ∧ PoolKept mempool.pool state := by
  have created : (hostedMempoolCreate NULL 0 3 10 ⟨4096, 64, 128⟩ fun _ => 255).mempool =
      some ⟨⟨10, 3, 3, 3, 0, 4096, 4096⟩, 4096, false, 3, 10⟩ := rfl
  have reached : ∃ state,
      Run step Fair (initial ⟨⟨10, 3, 3, 3, 0, 4096, 4096⟩, 4096, false, 3, 10⟩
        (hostedMempoolCreate NULL 0 3 10 ⟨4096, 64, 128⟩ fun _ => 255).memory) state ∧
      state.outstanding = [4108] := by
    apply admitted_reaches step Fair _ [.alloc 10 1, .alloc 12 0, .write 4097 7, .free 4096]
    · refine ⟨fun _ => by decide, fun clears => absurd rfl clears, ?_, Or.inr ?_, trivial⟩
      · intro block known away
        change block ∈ [4096, 4108, 4120] at known
        change block ∉ [4108, 4096] at away
        simp only [List.mem_cons, List.not_mem_nil, or_false] at known away
        rw [wordBytes]
        omega
      · exact List.mem_cons_of_mem 4108 List.mem_cons_self
    · exact ⟨_, rfl, rfl⟩
  obtain ⟨state, run, out⟩ := reached
  have roomy : Roomy (chosen NULL ⟨4096, 64, 128⟩) (granted NULL 0 3 10) 3 10 :=
    heap_roomy (by decide) (by decide) (by decide) (by decide)
  exact ⟨_, state, created, run, out, (pool_conserved roomy created run).1⟩

end EspHosted.SlaveMempool

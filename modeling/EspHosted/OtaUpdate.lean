import EspHosted.OtaProgress

/-!
`esp_hosted_ota_local` and `esp_hosted_ota_http`: an image is read in blocks from a file or a
web session and written to the slave with `rpc_ota_write`. The reads and the results of the
RPC calls are inputs, as are the ticks that `print_progress` reads on the way; what is asked is
whether the return value says what happened to the image.
-/

namespace EspHosted.OtaUpdate
open GuardedRun
open OtaProgress (Clock Statics Update Defined Apart update_defined_iff)

/-- One call of `rpc_ota_write`. -/
structure Write where
  len : Nat
  data : List UInt8
  result : Int

/-- What one update did: the calls of `rpc_ota_begin`, `rpc_ota_write` and `rpc_ota_end` with
their results, and the return value, `none` when the run is undefined. -/
structure Ota where
  ret : Option Int
  begun : Option Int
  writes : List Write
  ended : Option Int

def accepted (writes : List Write) : List UInt8 :=
  (writes.filter fun write => write.result = espOk).flatMap (·.data)

def LengthsFit (writes : List Write) : Prop :=
  ∀ write ∈ writes, 1 ≤ write.len ∧ write.len ≤ blockSize

/-- The result says success exactly when the whole image was written between a successful
begin and a successful end, and no write had an impossible length. -/
structure Truthful (image : List UInt8) (ota : Ota) : Prop where
  returned : ∃ ret, ota.ret = some ret ∧
    (ret = espOk ↔ ota.begun = some espOk ∧ accepted ota.writes = image ∧ ota.ended = some espOk)
  lengths : LengthsFit ota.writes

/-- What `print_progress` finds: its static variables and the tick at each of its calls. -/
structure Meter where
  clock : Clock
  statics : Statics
  ticks : Nat → UInt32

/-- The calls of `print_progress` in an update divide by no zero. -/
def Meter.runs (meter : Meter) (update : Update) : Bool :=
  (exec (OtaProgress.step meter.clock update.totalSize) meter.statics
    (update.calls meter.ticks)).isSome

/-- What `esp_hosted_ota_local` meets. Behind the listed rounds `fread` gets nothing. -/
structure LocalEnv where
  malloc : Bool
  fopen : Bool
  seekEnd : Bool
  seekSet : Bool
  image : List UInt8
  begin_ : Int
  rounds : List FileRound
  end_ : Int
  meter : Meter

/-- The size as a `size_t`. A `long` has 32 bits, and the result is -1 for what it does not hold. -/
def ftell (image : List UInt8) : UInt32 :=
  if image.length < 2 ^ 31 then UInt32.ofNat image.length else 0xFFFFFFFF

def LocalEnv.update (env : LocalEnv) : Update := .file (ftell env.image) env.rounds

/-- The loop of `esp_hosted_ota_local` from `write_total` on. -/
def writeFile (image : List UInt8) (fileSize : UInt32) : List FileRound → UInt32 → List Write
  | [], _ => []
  | round :: rounds, writeTotal =>
      if writeTotal < fileSize then
        let readLen := blockLen fileSize writeTotal
        if round.read < readLen.toNat then []
        else
          let write :=
            { len := readLen.toNat
              data := (image.drop writeTotal.toNat).take readLen.toNat
              result := round.write }
          if round.write ≠ espOk then [write]
          else write :: writeFile image fileSize rounds (writeTotal + readLen)
      else []

/-- Every way out but the first goes through `return ESP_OK`. -/
def espHostedOtaLocal (env : LocalEnv) : Ota :=
  if !env.malloc then { ret := some espFail, begun := none, writes := [], ended := none }
  else if !env.fopen || !env.seekEnd || !env.seekSet then
    { ret := some espOk, begun := none, writes := [], ended := none }
  else if env.begin_ ≠ espOk then
    { ret := some espOk, begun := some env.begin_, writes := [], ended := none }
  else if !env.meter.runs env.update then
    { ret := none, begun := some env.begin_, writes := [], ended := none }
  else
    { ret := some espOk
      begun := some env.begin_
      writes := writeFile env.image (ftell env.image) env.rounds 0
      ended := some env.end_ }

/-- What `esp_hosted_ota_http` meets. `content_length` is negative or the length of the image,
the reads give the image piece by piece, and behind the listed rounds the stream has ended.
`memory` is what a write finds from the block on when nothing was read into it. -/
structure Download where
  malloc : Bool
  session : Bool
  respStatus : Int
  begin_ : Int
  contentLength : Int32
  image : List UInt8
  rounds : List WebRound
  end_ : Int
  memory : Nat → List UInt8
  meter : Meter
  known : 0 ≤ contentLength.toInt → contentLength.toInt = image.length
  pieces : received rounds <+: image

def Download.update (down : Download) : Update := .web down.contentLength down.rounds

/-- How a read loop is left: by a refused write or at its end. -/
structure Received where
  refused : Bool
  writes : List Write

def blockData (memory : Nat → List UInt8) : WebRead → List UInt8
  | .bytes data _ => data
  | .failed code negative int => memory (WebRead.failed code negative int).readLen

/-- The two read loops of `esp_hosted_ota_http` from `write_total` on. They differ in `more`,
the condition of the `while`. -/
def receive (memory : Nat → List UInt8) (more : Nat → Bool) : List WebRound → Nat → Received
  | [], _ => { refused := false, writes := [] }
  | round :: rounds, writeTotal =>
      if more writeTotal then
        if 0 < round.read.readLen then
          let write :=
            { len := round.read.readLen
              data := blockData memory round.read
              result := round.write }
          if round.write ≠ espOk then { refused := true, writes := [write] }
          else
            let rest := receive memory more rounds ((writeTotal + round.read.readLen) % 2 ^ 32)
            { rest with writes := write :: rest.writes }
        else { refused := false, writes := [] }
      else { refused := false, writes := [] }

/-- The condition of the loop: none without a length, else that bytes are missing. -/
def more (contentLength : Int) (writeTotal : Nat) : Bool :=
  contentLength < 0 || writeTotal < contentLength.toNat

def espHostedOtaHttp (down : Download) : Ota :=
  if !down.malloc || !down.session || down.respStatus ≠ 200 then
    { ret := some espFail, begun := none, writes := [], ended := none }
  else if down.begin_ ≠ espOk then
    { ret := some espFail, begun := some down.begin_, writes := [], ended := none }
  else if !down.meter.runs down.update then
    { ret := none, begun := some down.begin_, writes := [], ended := none }
  else
    let loop := receive down.memory (more down.contentLength.toInt) down.rounds 0
    { ret := some (if loop.refused then espFail else espOk)
      begun := some down.begin_
      writes := loop.writes
      ended := some down.end_ }

/-- Each block of the image is read in full and its write succeeds. -/
def BlocksTaken (size : Nat) (rounds : List FileRound) : Prop :=
  ∀ index, index * blockSize < size → ∃ round, rounds[index]? = some round ∧
    min blockSize (size - index * blockSize) ≤ round.read ∧ round.write = espOk

/-- Whenever all of the image is reported, the clock has ticked since the report before. -/
def Ticks (meter : Meter) (update : Update) : Prop :=
  Apart meter.clock update.totalSize (update.calls meter.ticks)

/-- Nothing goes wrong with the file, its size, the slave or the clock. -/
structure LocalSucceeds (env : LocalEnv) : Prop where
  fopen : env.fopen = true
  seekEnd : env.seekEnd = true
  seekSet : env.seekSet = true
  begun : env.begin_ = espOk
  sized : env.image ≠ []
  small : env.image.length < 2 ^ 31
  ticks : Ticks env.meter env.update
  blocks : BlocksTaken env.image.length env.rounds
  ended : env.end_ = espOk

/-- The rounds that bring bytes which the slave takes, up to the first that does not. -/
def delivers (round : WebRound) : Bool := round.read.data ≠ [] && round.write = espOk

def delivered (rounds : List WebRound) : List WebRound := rounds.takeWhile delivers

def stopper (rounds : List WebRound) : Option WebRound := (rounds.dropWhile delivers).head?

/-- The delivery stops at bytes the slave refuses. -/
def Refused (rounds : List WebRound) : Prop :=
  ∃ round, stopper rounds = some round ∧ round.read.data ≠ []

/-- The delivery stops at a read error. -/
def ReadError (rounds : List WebRound) : Prop :=
  ∃ round, stopper rounds = some round ∧ round.read.isFailed = true

structure Started (down : Download) : Prop where
  malloc : down.malloc = true
  session : down.session = true
  respStatus : down.respStatus = 200
  begun : down.begin_ = espOk

/-- A download is reported as it was: a write was refused, or the whole image was delivered,
no read error came where the loop still reads, and the end succeeded. -/
def Settled (length_known : Prop) (end_ : Int) (rounds : List WebRound) (image : List UInt8) :
    Prop :=
  Refused rounds ∨
    received (delivered rounds) = image ∧ end_ = espOk ∧ (length_known ∨ ¬ ReadError rounds)

def HttpReported (down : Download) : Prop :=
  down.contentLength ≠ 0 ∧ (0 ≤ down.contentLength.toInt → Ticks down.meter down.update) ∧
    Settled (0 ≤ down.contentLength.toInt) down.end_ down.rounds down.image

theorem accepted_cons (write : Write) (writes : List Write) :
    accepted (write :: writes) =
      (if write.result = espOk then write.data else []) ++ accepted writes := by
  by_cases ok : write.result = espOk
  · simp [accepted, ok]
  · simp [accepted, ok]

theorem lengthsFit_cons (write : Write) (writes : List Write) :
    LengthsFit (write :: writes) ↔
      (1 ≤ write.len ∧ write.len ≤ blockSize) ∧ LengthsFit writes := by
  simp [LengthsFit]

theorem blocksTaken_nil {size : Nat} (rest : 0 < size) : ¬ BlocksTaken size [] := by
  intro taken
  obtain ⟨round, listed, _⟩ := taken 0 (by omega)
  cases listed

/-- The first block, then the others as those of the rest of the image. -/
theorem blocksTaken_cons {size : Nat} (round : FileRound) (rounds : List FileRound)
    (some_left : 0 < size) :
    BlocksTaken size (round :: rounds) ↔
      (min blockSize size ≤ round.read ∧ round.write = espOk) ∧
        BlocksTaken (size - min blockSize size) rounds := by
  constructor
  · intro taken
    constructor
    · obtain ⟨first, listed, read, write⟩ := taken 0 (by omega)
      cases listed
      exact ⟨by simpa using read, write⟩
    · intro index inside
      have within : (index + 1) * blockSize < size := by
        rw [Nat.succ_mul]
        omega
      obtain ⟨later, listed, read, write⟩ := taken (index + 1) within
      refine ⟨later, by simpa using listed, ?_, write⟩
      rw [Nat.succ_mul] at read
      omega
  · rintro ⟨⟨read, write⟩, taken⟩ index inside
    cases index with
    | zero => exact ⟨round, rfl, by simpa using read, write⟩
    | succ index =>
        rw [Nat.succ_mul] at inside
        have within : index * blockSize < size - min blockSize size := by omega
        obtain ⟨later, listed, read, write⟩ := taken index within
        refine ⟨later, by simpa using listed, ?_, write⟩
        rw [Nat.succ_mul]
        omega

/-- Of a file whose size fits into an `int`, a block is what is left or a full one. -/
theorem blockLen_toNat {fileSize writeTotal : UInt32} (left : writeTotal ≤ fileSize)
    (small : fileSize.toNat < 2 ^ 31) :
    (blockLen fileSize writeTotal).toNat = min blockSize (fileSize.toNat - writeTotal.toNat) := by
  have difference : (fileSize - writeTotal).toNat = fileSize.toNat - writeTotal.toNat :=
    UInt32.toNat_sub_of_le _ _ left
  have signed : (fileSize - writeTotal).toInt32.toInt =
      (fileSize.toNat - writeTotal.toNat : Nat) := by
    change (fileSize - writeTotal).toBitVec.toInt = _
    rw [BitVec.toInt_eq_toNat_of_lt]
    · exact congrArg Int.ofNat difference
    · change 2 * (fileSize - writeTotal).toNat < _
      omega
  have full : (1400 : Int32).toInt = 1400 := rfl
  rw [blockLen, cMin, signed, full]
  split
  · rename_i more
    change 1400 = _
    simp only [blockSize]
    omega
  · rename_i rest
    rw [UInt32.toUInt32_toInt32, difference]
    simp only [blockSize]
    omega

section File
variable {image : List UInt8} {fileSize writeTotal : UInt32}

/-- What is left of a file behind the next block. -/
theorem block_step (size : fileSize.toNat = image.length) (small : image.length < 2 ^ 31)
    (left : writeTotal < fileSize) :
    (blockLen fileSize writeTotal).toNat = min blockSize (image.length - writeTotal.toNat) ∧
      (writeTotal + blockLen fileSize writeTotal).toNat =
        writeTotal.toNat + min blockSize (image.length - writeTotal.toNat) ∧
      (writeTotal + blockLen fileSize writeTotal).toNat ≤ image.length := by
  have below := UInt32.lt_iff_toNat_lt.mp left
  have length := @blockLen_toNat fileSize writeTotal (UInt32.le_of_lt left) (by omega)
  rw [size] at length
  have sum : (writeTotal + blockLen fileSize writeTotal).toNat =
      writeTotal.toNat + min blockSize (image.length - writeTotal.toNat) := by
    rw [UInt32.toNat_add, length]
    omega
  exact ⟨length, sum, by omega⟩

/-- The file loop asks for at most a block and never for nothing. -/
theorem writeFile_lengths (size : fileSize.toNat = image.length) (small : image.length < 2 ^ 31)
    (rounds : List FileRound) (writeTotal : UInt32) :
    LengthsFit (writeFile image fileSize rounds writeTotal) := by
  induction rounds generalizing writeTotal with
  | nil => simp [writeFile, LengthsFit]
  | cons round rounds ih =>
      have empty : LengthsFit [] := by simp [LengthsFit]
      rw [writeFile]
      split
      · rename_i left
        have below := UInt32.lt_iff_toNat_lt.mp left
        have fits : 1 ≤ (blockLen fileSize writeTotal).toNat ∧
            (blockLen fileSize writeTotal).toNat ≤ blockSize := by
          rw [(block_step size small left).1]
          simp only [blockSize]
          omega
        dsimp only
        split
        · exact empty
        · split
          · exact (lengthsFit_cons _ _).mpr ⟨fits, empty⟩
          · exact (lengthsFit_cons _ _).mpr ⟨fits, ih _⟩
      · exact empty

/-- What the file loop gets accepted is the rest of the image exactly when every block of it
is taken. -/
theorem writeFile_whole_iff (size : fileSize.toNat = image.length)
    (small : image.length < 2 ^ 31) (rounds : List FileRound) (writeTotal : UInt32) :
    accepted (writeFile image fileSize rounds writeTotal) = image.drop writeTotal.toNat ↔
      BlocksTaken (image.length - writeTotal.toNat) rounds := by
  induction rounds generalizing writeTotal with
  | nil =>
      by_cases left : writeTotal.toNat < image.length
      · have missing := blocksTaken_nil (Nat.sub_pos_of_lt left)
        simp only [writeFile, accepted, missing, iff_false]
        intro whole
        have none := congrArg List.length whole
        simp at none
        omega
      · have done : image.length - writeTotal.toNat = 0 := by omega
        have all_read : image.drop writeTotal.toNat = [] := List.drop_of_length_le (by omega)
        simp [writeFile, accepted, done, all_read, BlocksTaken]
  | cons round rounds ih =>
      by_cases left : writeTotal < fileSize
      · have below := UInt32.lt_iff_toNat_lt.mp left
        have remains : image.drop writeTotal.toNat ≠ [] := by
          intro none
          have length := congrArg List.length none
          simp at length
          omega
        obtain ⟨length, sum, _⟩ := block_step size small left
        have later := ih (writeTotal + blockLen fileSize writeTotal)
        rw [blocksTaken_cons round rounds (by omega), writeFile, if_pos left]
        dsimp only
        rw [length]
        rw [sum] at later
        generalize min blockSize (image.length - writeTotal.toNat) = count at later ⊢
        by_cases short : round.read < count
        · have unread : ¬ count ≤ round.read := by omega
          rw [if_pos short]
          simp only [unread, false_and, iff_false]
          exact fun whole => remains whole.symm
        · have read : count ≤ round.read := by omega
          rw [if_neg short]
          by_cases refused : round.write ≠ espOk
          · rw [if_pos refused, accepted_cons]
            simp only [refused, if_false, and_false, false_and, iff_false]
            exact fun whole => remains whole.symm
          · have ok : round.write = espOk := not_not.mp refused
            have split : (image.drop writeTotal.toNat).take count ++
                image.drop (writeTotal.toNat + count) = image.drop writeTotal.toNat := by
              rw [← List.drop_drop, List.take_append_drop]
            have smaller : image.length - writeTotal.toNat - count =
                image.length - (writeTotal.toNat + count) := by omega
            rw [if_neg refused, accepted_cons, if_pos ok, smaller, ← later]
            dsimp only
            nth_rewrite 2 [← split]
            rw [List.append_cancel_left_eq]
            simp only [read, ok, and_self, true_and]
      · have beyond := UInt32.le_iff_toNat_le.mp (UInt32.not_lt.mp left)
        have done : image.length - writeTotal.toNat = 0 := by omega
        have all_read : image.drop writeTotal.toNat = [] := List.drop_of_length_le (by omega)
        simp [writeFile, left, accepted, done, all_read, BlocksTaken]

/-- Of a size that is -1 the first block is as long: too long to be written. -/
theorem writeFile_huge (some_bytes : image ≠ []) (rounds : List FileRound)
    (lengths : LengthsFit (writeFile image 0xFFFFFFFF rounds 0)) :
    accepted (writeFile image 0xFFFFFFFF rounds 0) ≠ image := by
  have length : (blockLen 0xFFFFFFFF 0).toNat = 4294967295 := by decide
  have nothing : accepted [] ≠ image := fun whole => some_bytes whole.symm
  cases rounds with
  | nil => exact nothing
  | cons round rounds =>
      rw [writeFile, if_pos (by decide)] at lengths ⊢
      dsimp only at lengths ⊢
      split
      · exact nothing
      · rename_i read
        rw [if_neg read] at lengths
        split at lengths
        · have fits := (lengths _ List.mem_cons_self).2
          rw [length] at fits
          change 4294967295 ≤ 1400 at fits
          omega
        · have fits := (lengths _ List.mem_cons_self).2
          rw [length] at fits
          change 4294967295 ≤ 1400 at fits
          omega

end File

/-- Nothing that stops in the middle is reported. -/
theorem stopped_untruthful {image : List UInt8} {ota : Ota} (stopped : ota.ret = none) :
    ¬ Truthful image ota := by
  rintro ⟨⟨ret, returned, _⟩, _⟩
  rw [stopped] at returned
  cases returned

/-- A success that is reported before the update has begun is not one. -/
theorem unbegun_untruthful {image : List UInt8} {ota : Ota} (ret : ota.ret = some espOk)
    (unbegun : ota.begun ≠ some espOk) : ¬ Truthful image ota := by
  rintro ⟨⟨code, returned, success⟩, _⟩
  rw [ret] at returned
  exact unbegun (success.mp (Option.some.inj returned).symm).1

theorem Meter.runs_iff (meter : Meter) (update : Update) :
    meter.runs update = true ↔
      update.sizes = [] ∨ update.totalSize ≠ 0 ∧ Ticks meter update :=
  update_defined_iff update meter.ticks

theorem ftell_toNat {image : List UInt8} (small : image.length < 2 ^ 31) :
    (ftell image).toNat = image.length := by
  rw [ftell, if_pos small, UInt32.toNat_ofNat']
  exact Nat.mod_eq_of_lt (by omega)

theorem ftell_zero (image : List UInt8) : ftell image = 0 ↔ image = [] := by
  constructor
  · intro zero
    by_cases small : image.length < 2 ^ 31
    · have length := ftell_toNat small
      rw [zero] at length
      exact List.length_eq_zero_iff.mp length.symm
    · rw [ftell, if_neg small] at zero
      cases zero
  · rintro rfl
    rfl

/-- The reports of a file divide by no zero if it has a size and the clock ticks. -/
theorem local_runs_iff (env : LocalEnv) :
    env.meter.runs env.update = true ↔ env.image ≠ [] ∧ Ticks env.meter env.update := by
  have reports : env.update.sizes ≠ [] := List.cons_ne_nil _ _
  rw [Meter.runs_iff, or_iff_right reports]
  exact and_congr_left' (not_congr (ftell_zero env.image))

/-- The file is opened and its size is found. -/
structure Opened (env : LocalEnv) : Prop where
  fopen : env.fopen = true
  seekEnd : env.seekEnd = true
  seekSet : env.seekSet = true

theorem local_closed {env : LocalEnv} (block : env.malloc = true) (closed : ¬ Opened env) :
    espHostedOtaLocal env = { ret := some espOk, begun := none, writes := [], ended := none } := by
  have stops : (!env.fopen || !env.seekEnd || !env.seekSet) = true := by
    by_contra goes_on
    simp only [Bool.or_eq_true, Bool.not_eq_true', not_or, Bool.not_eq_false] at goes_on
    exact closed ⟨goes_on.1.1, goes_on.1.2, goes_on.2⟩
  simp [espHostedOtaLocal, block, stops]

/-- Behind a successful begin. -/
theorem local_begun {env : LocalEnv} (block : env.malloc = true) (opened : Opened env)
    (begun : env.begin_ = espOk) :
    espHostedOtaLocal env =
      if env.meter.runs env.update then
        { ret := some espOk, begun := some env.begin_,
          writes := writeFile env.image (ftell env.image) env.rounds 0, ended := some env.end_ }
      else { ret := none, begun := some env.begin_, writes := [], ended := none } := by
  cases shown : env.meter.runs env.update <;>
    simp [espHostedOtaLocal, block, opened.fopen, opened.seekEnd, opened.seekSet, begun, shown]

theorem written_truthful_iff {env : LocalEnv} (opened : Opened env) (begun : env.begin_ = espOk)
    (sized : env.image ≠ []) (ticks : Ticks env.meter env.update) :
    Truthful env.image
        { ret := some espOk, begun := some env.begin_,
          writes := writeFile env.image (ftell env.image) env.rounds 0, ended := some env.end_ } ↔
      LocalSucceeds env := by
  by_cases small : env.image.length < 2 ^ 31
  · have size := ftell_toNat small
    have whole := writeFile_whole_iff size small env.rounds 0
    rw [UInt32.toNat_zero, List.drop_zero, Nat.sub_zero] at whole
    constructor
    · rintro ⟨⟨ret, returned, success⟩, _⟩
      obtain ⟨_, written, ended⟩ := success.mp (Option.some.inj returned).symm
      exact ⟨opened.fopen, opened.seekEnd, opened.seekSet, begun, sized, small, ticks,
        whole.mp written, Option.some.inj ended⟩
    · intro succeeds
      refine ⟨⟨espOk, rfl, ?_⟩, writeFile_lengths size small _ _⟩
      exact iff_of_true rfl
        ⟨congrArg some begun, whole.mpr succeeds.blocks, congrArg some succeeds.ended⟩
  · refine iff_of_false ?_ fun succeeds => small succeeds.small
    rintro ⟨⟨ret, returned, success⟩, lengths⟩
    obtain ⟨_, written, _⟩ := success.mp (Option.some.inj returned).symm
    rw [ftell, if_neg small] at lengths written
    exact writeFile_huge sized env.rounds lengths written

theorem local_truthful_iff (env : LocalEnv) :
    Truthful env.image (espHostedOtaLocal env) ↔ env.malloc = false ∨ LocalSucceeds env := by
  by_cases block : env.malloc = false
  · have stopped : espHostedOtaLocal env =
        { ret := some espFail, begun := none, writes := [], ended := none } := by
      simp [espHostedOtaLocal, block]
    have unwritten : LengthsFit [] := by simp [LengthsFit]
    rw [stopped]
    exact iff_of_true ⟨⟨espFail, rfl, by simp [espFail, espOk]⟩, unwritten⟩ (Or.inl block)
  rw [or_iff_right block]
  rw [Bool.not_eq_false] at block
  by_cases opened : Opened env
  · by_cases begun : env.begin_ = espOk
    · rw [local_begun block opened begun]
      by_cases shown : env.meter.runs env.update = true
      · obtain ⟨sized, ticks⟩ := (local_runs_iff env).mp shown
        rw [if_pos shown]
        exact written_truthful_iff opened begun sized ticks
      · rw [if_neg shown]
        refine iff_of_false (stopped_untruthful rfl) fun succeeds => ?_
        exact shown ((local_runs_iff env).mpr ⟨succeeds.sized, succeeds.ticks⟩)
    · have stopped : espHostedOtaLocal env =
          { ret := some espOk, begun := some env.begin_, writes := [], ended := none } := by
        simp [espHostedOtaLocal, block, opened.fopen, opened.seekEnd, opened.seekSet, begun]
      rw [stopped]
      refine iff_of_false (unbegun_untruthful rfl ?_) fun succeeds => begun succeeds.begun
      exact fun started => begun (Option.some.inj started)
  · rw [local_closed block opened]
    exact iff_of_false (unbegun_untruthful rfl (by simp)) fun succeeds =>
      opened ⟨succeeds.fopen, succeeds.seekEnd, succeeds.seekSet⟩

theorem received_cons (round : WebRound) (rounds : List WebRound) :
    received (round :: rounds) = round.read.data ++ received rounds := rfl

theorem settled_nil (length_known : Prop) (end_ : Int) (image : List UInt8) :
    Settled length_known end_ [] image ↔ [] = image ∧ end_ = espOk := by
  simp [Settled, Refused, ReadError, stopper, delivered, received]

theorem settled_delivers {length_known : Prop} {end_ : Int} {round : WebRound}
    {rounds : List WebRound} {rest : List UInt8} (brings : delivers round = true) :
    Settled length_known end_ (round :: rounds) (round.read.data ++ rest) ↔
      Settled length_known end_ rounds rest := by
  have stop : stopper (round :: rounds) = stopper rounds := by
    rw [stopper, List.dropWhile_cons_of_pos brings, stopper]
  have bytes : received (delivered (round :: rounds)) =
      round.read.data ++ received (delivered rounds) := by
    rw [delivered, List.takeWhile_cons_of_pos brings, received_cons, delivered]
  simp only [Settled, Refused, ReadError, stop, bytes, List.append_cancel_left_eq]

theorem settled_stops {length_known : Prop} {end_ : Int} {round : WebRound}
    {rounds : List WebRound} {image : List UInt8} (stops : delivers round = false) :
    Settled length_known end_ (round :: rounds) image ↔
      round.read.data ≠ [] ∨
        [] = image ∧ end_ = espOk ∧ (length_known ∨ round.read.isFailed = false) := by
  have stop : stopper (round :: rounds) = some round := by
    rw [stopper, List.dropWhile_cons_of_neg (by simp [stops]), List.head?_cons]
  have bytes : received (delivered (round :: rounds)) = [] := by
    rw [delivered, List.takeWhile_cons_of_neg (by simp [stops])]
    rfl
  simp [Settled, Refused, ReadError, stop, bytes]

/-- What the read loops ask of the counter: with a known length it says how much is missing. -/
def Counts (contentLength : Int) (writeTotal : Nat) (rest : List UInt8) : Prop :=
  0 ≤ contentLength → writeTotal + rest.length = contentLength.toNat ∧ contentLength < 2 ^ 31

theorem more_iff {contentLength : Int} {writeTotal : Nat} {rest : List UInt8}
    (counts : Counts contentLength writeTotal rest) :
    more contentLength writeTotal = true ↔ contentLength < 0 ∨ rest ≠ [] := by
  rw [more, Bool.or_eq_true, decide_eq_true_iff, decide_eq_true_iff]
  by_cases unknown : contentLength < 0
  · simp [unknown]
  · obtain ⟨missing, _⟩ := counts (by omega)
    simp only [unknown, false_or]
    constructor
    · intro below none
      rw [none, List.length_nil] at missing
      omega
    · intro some_left
      have length := List.length_pos_iff.mpr some_left
      omega

theorem failed_readLen (code : Int) (negative : code < 0) (int : -2 ^ 31 ≤ code) :
    blockSize < (WebRead.failed code negative int).readLen := by
  simp only [WebRead.readLen, blockSize]
  omega

section Rounds
variable {memory : Nat → List UInt8} {more : Nat → Bool} {round : WebRound}
  {rounds : List WebRound} {writeTotal : Nat}

def writeOf (memory : Nat → List UInt8) (round : WebRound) : Write where
  len := round.read.readLen
  data := blockData memory round.read
  result := round.write

theorem receive_over (ended : more writeTotal = false) :
    receive memory more (round :: rounds) writeTotal = { refused := false, writes := [] } := by
  simp [receive, ended]

theorem receive_ends (empty : round.read.readLen = 0) :
    receive memory more (round :: rounds) writeTotal = { refused := false, writes := [] } := by
  simp [receive, empty]

theorem receive_refused (goes_on : more writeTotal = true) (asked : 0 < round.read.readLen)
    (refused : round.write ≠ espOk) :
    receive memory more (round :: rounds) writeTotal =
      { refused := true, writes := [writeOf memory round] } := by
  rw [receive, if_pos goes_on, if_pos asked, if_pos refused, writeOf]

theorem receive_taken (goes_on : more writeTotal = true) (asked : 0 < round.read.readLen)
    (taken : round.write = espOk) :
    let rest := receive memory more rounds ((writeTotal + round.read.readLen) % 2 ^ 32)
    receive memory more (round :: rounds) writeTotal =
      { refused := rest.refused, writes := writeOf memory round :: rest.writes } := by
  dsimp only
  rw [receive, if_pos goes_on, if_pos asked, if_neg (not_not.mpr taken), writeOf]

/-- A write that follows a read error goes out, whatever comes back. -/
theorem receive_first (goes_on : more writeTotal = true) (asked : 0 < round.read.readLen) :
    writeOf memory round ∈ (receive memory more (round :: rounds) writeTotal).writes := by
  by_cases taken : round.write = espOk
  · rw [receive_taken goes_on asked taken]
    exact List.mem_cons_self
  · rw [receive_refused goes_on asked taken]
    exact List.mem_cons_self

end Rounds

/-- The bytes of an image say how a read loop reported them. -/
def Reports (end_ : Int) (image : List UInt8) (loop : Received) : Prop :=
  LengthsFit loop.writes ∧ (loop.refused = false ↔ accepted loop.writes = image ∧ end_ = espOk)

theorem reports_nothing (end_ : Int) (image : List UInt8) :
    Reports end_ image { refused := false, writes := [] } ↔ [] = image ∧ end_ = espOk := by
  simp [Reports, LengthsFit, accepted]

section Settled
variable {memory : Nat → List UInt8} {contentLength end_ : Int} {round : WebRound}
  {rounds : List WebRound} {writeTotal : Nat} {rest data : List UInt8}

/-- The length of the write behind a read error is the error code taken as unsigned. -/
theorem failed_settled_iff {code : Int} {negative : code < 0} {int : -2 ^ 31 ≤ code}
    (counts : Counts contentLength writeTotal rest) (goes_on : more contentLength writeTotal = true)
    (read : round.read = .failed code negative int) :
    Reports end_ rest (receive memory (more contentLength) (round :: rounds) writeTotal) ↔
      Settled (0 ≤ contentLength) end_ (round :: rounds) rest := by
  have long : blockSize < round.read.readLen := read ▸ failed_readLen code negative int
  have stops : delivers round = false := by simp [delivers, read, WebRead.data]
  have failed : round.read.isFailed = true := by rw [read, WebRead.isFailed]
  have nothing : round.read.data = [] := by rw [read, WebRead.data]
  rw [settled_stops stops]
  refine iff_of_false ?_ ?_
  · rintro ⟨fits, _⟩
    have bounded := (fits _ (receive_first goes_on (by omega))).2
    exact Nat.not_le.mpr long bounded
  · rintro (brought | ⟨none, _, known | fine⟩)
    · exact brought nothing
    · rcases (more_iff counts).mp goes_on with unknown | some_left
      · omega
      · exact some_left none.symm
    · rw [failed] at fine
      cases fine

theorem empty_settled_iff {fits : [].length ≤ blockSize} (read : round.read = .bytes [] fits) :
    Reports end_ rest (receive memory (more contentLength) (round :: rounds) writeTotal) ↔
      Settled (0 ≤ contentLength) end_ (round :: rounds) rest := by
  have brought : round.read.data = [] := by rw [read, WebRead.data]
  have length : round.read.readLen = 0 := by rw [read, WebRead.readLen, List.length_nil]
  have fine : round.read.isFailed = false := by rw [read, WebRead.isFailed]
  have stops : delivers round = false := by simp [delivers, brought]
  rw [settled_stops stops, receive_ends length, reports_nothing, brought, fine]
  simp

theorem ended_settled_iff (counts : Counts contentLength writeTotal rest)
    (ended : more contentLength writeTotal = false)
    (pieces : received (round :: rounds) <+: rest) :
    Reports end_ rest (receive memory (more contentLength) (round :: rounds) writeTotal) ↔
      Settled (0 ≤ contentLength) end_ (round :: rounds) rest := by
  have spent : ¬ (contentLength < 0 ∨ rest ≠ []) := by
    intro left
    rw [(more_iff counts).mpr left] at ended
    cases ended
  have known : 0 ≤ contentLength := by omega
  have whole : rest = [] := by
    by_contra some_left
    exact spent (Or.inr some_left)
  subst whole
  rw [received_cons] at pieces
  have nothing := List.append_eq_nil_iff.mp (List.prefix_nil.mp pieces)
  have stops : delivers round = false := by simp [delivers, nothing.1]
  rw [receive_over ended, reports_nothing, settled_stops stops]
  simp [nothing.1, known]

/-- What is known of the write of a block that was read. -/
structure Wrote (memory : Nat → List UInt8) (round : WebRound) (data : List UInt8) : Prop where
  brought : round.read.data = data
  readLen : round.read.readLen = data.length
  asked : 0 < round.read.readLen
  wrote : (writeOf memory round).data = data
  small : 1 ≤ (writeOf memory round).len ∧ (writeOf memory round).len ≤ blockSize

theorem bytes_wrote {fits : data.length ≤ blockSize} (read : round.read = .bytes data fits)
    (some_bytes : data ≠ []) : Wrote memory round data := by
  have length : round.read.readLen = data.length := by rw [read, WebRead.readLen]
  have asked : 0 < round.read.readLen := by
    rw [length]
    exact List.length_pos_iff.mpr some_bytes
  refine ⟨by rw [read, WebRead.data], length, asked, by rw [writeOf, read, blockData], asked, ?_⟩
  rw [writeOf, length]
  exact fits

theorem refused_settled_iff (written : Wrote memory round data)
    (goes_on : more contentLength writeTotal = true) (refused : round.write ≠ espOk) :
    Reports end_ (data ++ rest) (receive memory (more contentLength) (round :: rounds) writeTotal) ↔
      Settled (0 ≤ contentLength) end_ (round :: rounds) (data ++ rest) := by
  have some_left := written.asked
  rw [written.readLen] at some_left
  have stops : delivers round = false := by simp [delivers, refused]
  rw [settled_stops stops, receive_refused goes_on written.asked refused, written.brought]
  refine iff_of_true ⟨(lengthsFit_cons _ _).mpr ⟨written.small, by simp [LengthsFit]⟩, ?_⟩
    (Or.inl (List.length_pos_iff.mp some_left))
  refine iff_of_false (by simp) ?_
  rintro ⟨whole, _⟩
  rw [accepted_cons, if_neg (show ¬ (writeOf memory round).result = _ from refused)] at whole
  have lengths := congrArg List.length whole
  simp [accepted] at lengths
  omega

/-- A block that was taken leaves the question to the rounds behind it. -/
theorem taken_settled_iff (written : Wrote memory round data)
    (goes_on : more contentLength writeTotal = true) (taken : round.write = espOk)
    (step : Reports end_ rest (receive memory (more contentLength) rounds
        ((writeTotal + round.read.readLen) % 2 ^ 32)) ↔
      Settled (0 ≤ contentLength) end_ rounds rest) :
    Reports end_ (data ++ rest) (receive memory (more contentLength) (round :: rounds) writeTotal) ↔
      Settled (0 ≤ contentLength) end_ (round :: rounds) (data ++ rest) := by
  have some_left := written.asked
  rw [written.readLen] at some_left
  have brings : delivers round = true := by
    simp [delivers, written.brought, List.length_pos_iff.mp some_left, taken]
  have grown : accepted (writeOf memory round ::
        (receive memory (more contentLength) rounds
          ((writeTotal + round.read.readLen) % 2 ^ 32)).writes) =
      data ++ accepted (receive memory (more contentLength) rounds
        ((writeTotal + round.read.readLen) % 2 ^ 32)).writes := by
    rw [accepted_cons, written.wrote, if_pos (show (writeOf memory round).result = _ from taken)]
  rw [← written.brought, settled_delivers brings, ← step, receive_taken goes_on written.asked taken]
  simp only [Reports, lengthsFit_cons, written.small, true_and, grown, written.brought,
    List.append_cancel_left_eq]

end Settled

/-- A read loop reports the rest of the image as it was received exactly when the rounds are
settled: by induction on the rounds, which it takes one by one. -/
theorem receive_settled_iff (memory : Nat → List UInt8) {contentLength : Int} (end_ : Int)
    (rounds : List WebRound) (writeTotal : Nat) (rest : List UInt8)
    (counts : Counts contentLength writeTotal rest) (pieces : received rounds <+: rest) :
    Reports end_ rest (receive memory (more contentLength) rounds writeTotal) ↔
      Settled (0 ≤ contentLength) end_ rounds rest := by
  induction rounds generalizing writeTotal rest with
  | nil => rw [settled_nil, receive, reports_nothing]
  | cons round rounds ih =>
      cases goes_on : more contentLength writeTotal with
      | false => exact ended_settled_iff counts goes_on pieces
      | true =>
          cases read : round.read with
          | failed code negative int => exact failed_settled_iff counts goes_on read
          | bytes data fits =>
              by_cases empty : data = []
              · subst empty
                exact empty_settled_iff read
              · have written : Wrote memory round data := bytes_wrote read empty
                rw [received_cons, written.brought] at pieces
                obtain ⟨rest', split⟩ := (List.prefix_append data _).trans pieces
                subst split
                by_cases taken : round.write = espOk
                · refine taken_settled_iff written goes_on taken (ih _ rest' ?_ ?_)
                  · intro known
                    obtain ⟨missing, bounded⟩ := counts known
                    rw [List.length_append] at missing
                    rw [written.readLen]
                    omega
                  · exact (List.prefix_append_right_inj data).mp pieces
                · exact refused_settled_iff written goes_on taken

theorem download_counts (down : Download) :
    Counts down.contentLength.toInt 0 down.image := by
  intro known
  have length := down.known known
  have bounded := down.contentLength.toInt_lt
  omega

/-- The reports of a download divide by no zero if it has none, or a size and the clock ticks. -/
theorem web_runs_iff {down : Download} (sized : down.contentLength ≠ 0) :
    down.meter.runs down.update = true ↔
      (0 ≤ down.contentLength.toInt → Ticks down.meter down.update) := by
  have some_size : down.update.totalSize ≠ 0 := by
    intro zero
    apply sized
    rw [← down.contentLength.toInt32_toUInt32]
    exact congrArg UInt32.toInt32 zero
  rw [Meter.runs_iff]
  by_cases known : 0 ≤ down.contentLength.toInt
  · have reports : down.update.sizes ≠ [] := by
      rw [Download.update, Update.sizes, if_neg (by omega)]
      exact List.cons_ne_nil _ _
    rw [or_iff_right reports]
    exact ⟨fun both _ => both.2, fun ticks => ⟨some_size, ticks known⟩⟩
  · have silent : down.update.sizes = [] := by
      rw [Download.update, Update.sizes, if_pos (by omega)]
    exact iff_of_true (Or.inl silent) fun positive => absurd positive known

/-- Behind a successful begin. -/
theorem http_begun {down : Download} (started : Started down) :
    espHostedOtaHttp down =
      if down.meter.runs down.update then
        let loop := receive down.memory (more down.contentLength.toInt) down.rounds 0
        { ret := some (if loop.refused then espFail else espOk), begun := some down.begin_,
          writes := loop.writes, ended := some down.end_ }
      else { ret := none, begun := some down.begin_, writes := [], ended := none } := by
  cases shown : down.meter.runs down.update <;>
    simp [espHostedOtaHttp, started.malloc, started.session, started.respStatus, started.begun,
      shown]

theorem http_unstarted {down : Download} (idle : ¬ Started down) :
    ∃ begun, begun ≠ some espOk ∧ espHostedOtaHttp down =
      { ret := some espFail, begun := begun, writes := [], ended := none } := by
  by_cases opened : down.malloc = true ∧ down.session = true ∧ down.respStatus = 200
  · obtain ⟨malloc, session, status⟩ := opened
    have begun : down.begin_ ≠ espOk := fun begun => idle ⟨malloc, session, status, begun⟩
    exact ⟨some down.begin_, fun same => begun (Option.some.inj same), by
      simp [espHostedOtaHttp, malloc, session, status, begun]⟩
  · have closed : (!down.malloc || !down.session || decide (down.respStatus ≠ 200)) = true := by
      by_contra open_
      simp only [Bool.or_eq_true, Bool.not_eq_true', decide_eq_true_iff, not_or,
        Bool.not_eq_false, not_not] at open_
      exact opened ⟨open_.1.1, open_.1.2, open_.2⟩
    exact ⟨none, by simp, by rw [espHostedOtaHttp, if_pos closed]⟩

/-- A finished download is truthful if the loop reports the image. -/
theorem loop_truthful_iff {down : Download} (begun : down.begin_ = espOk) (loop : Received) :
    Truthful down.image
        { ret := some (if loop.refused then espFail else espOk), begun := some down.begin_,
          writes := loop.writes, ended := some down.end_ } ↔
      Reports down.end_ down.image loop := by
  have success : (if loop.refused then espFail else espOk) = espOk ↔ loop.refused = false := by
    cases loop.refused <;> simp [espFail, espOk]
  constructor
  · rintro ⟨⟨ret, returned, truth⟩, fits⟩
    rw [← Option.some.inj returned, success] at truth
    simp only [begun, true_and, Option.some.injEq] at truth
    exact ⟨fits, truth⟩
  · rintro ⟨fits, truth⟩
    refine ⟨⟨_, rfl, ?_⟩, fits⟩
    rw [success]
    simp only [begun, true_and, Option.some.injEq]
    exact truth

theorem http_truthful_iff (down : Download) :
    Truthful down.image (espHostedOtaHttp down) ↔ (Started down → HttpReported down) := by
  by_cases started : Started down
  · simp only [started, true_implies]
    have settled := receive_settled_iff down.memory down.end_ down.rounds 0 down.image
      (download_counts down) down.pieces
    rw [http_begun started]
    by_cases sized : down.contentLength = 0
    · have reports : down.update.sizes ≠ [] := by
        rw [Download.update, sized]
        exact List.cons_ne_nil _ _
      have stopped : ¬ down.meter.runs down.update = true := by
        rw [Meter.runs_iff, or_iff_right reports]
        rintro ⟨some_size, _⟩
        rw [Download.update, sized] at some_size
        exact some_size rfl
      rw [if_neg stopped]
      exact iff_of_false (stopped_untruthful rfl) fun reported => reported.1 sized
    · by_cases shown : down.meter.runs down.update = true
      · rw [if_pos shown, loop_truthful_iff started.begun, settled, HttpReported]
        exact ⟨fun rounds => ⟨sized, (web_runs_iff sized).mp shown, rounds⟩, fun all => all.2.2⟩
      · rw [if_neg shown]
        refine iff_of_false (stopped_untruthful rfl) fun reported => ?_
        exact shown ((web_runs_iff sized).mpr reported.2.1)
  · obtain ⟨begun, _, stopped⟩ := http_unstarted started
    rw [stopped]
    refine iff_of_true ⟨⟨espFail, rfl, ?_⟩, by simp [LengthsFit]⟩ fun start =>
      absurd start started
    simp [espFail, espOk]

/-- Both updates say what happened exactly in these runs: the local one when the block cannot
be allocated or everything goes well, the one over HTTP when it never starts or it has no size 0,
its clock ticks and its reads and writes are settled. -/
theorem ota_truthful_iff (env : LocalEnv) (down : Download) :
    (Truthful env.image (espHostedOtaLocal env) ↔ env.malloc = false ∨ LocalSucceeds env) ∧
      (Truthful down.image (espHostedOtaHttp down) ↔ (Started down → HttpReported down)) :=
  ⟨local_truthful_iff env, http_truthful_iff down⟩

/-- A clock of a thousand ticks a second, where each call comes a second after the other. -/
def steadyMeter : Meter where
  clock := OtaProgress.millisecondTicks
  statics := OtaProgress.atBoot
  ticks call := 1000 * (UInt32.ofNat call + 1)

def refusedBegin : LocalEnv where
  malloc := true
  fopen := true
  seekEnd := true
  seekSet := true
  image := [0xE9]
  begin_ := espFail
  rounds := []
  end_ := espOk
  meter := steadyMeter

/-- A server that sends one byte of two and then reports an error. -/
def brokenDownload : Download where
  malloc := true
  session := true
  respStatus := 200
  begin_ := espOk
  contentLength := 2
  image := [0xE9, 0x07]
  rounds :=
    [{ read := .bytes [0xE9] (by decide), write := espOk },
      { read := .failed (-1) (by decide) (by decide), write := espFail }]
  end_ := espOk
  memory := fun _ => []
  meter := steadyMeter
  known := fun _ => rfl
  pieces := ⟨[0x07], rfl⟩

/-- A download that arrives whole and is not ended. -/
def unendedDownload : Download where
  malloc := true
  session := true
  respStatus := 200
  begin_ := espOk
  contentLength := 1
  image := [0xE9]
  rounds := [{ read := .bytes [0xE9] (by decide), write := espOk }]
  end_ := espFail
  memory := fun _ => []
  meter := steadyMeter
  known := fun _ => rfl
  pieces := ⟨[], rfl⟩

example : (espHostedOtaHttp brokenDownload).writes.map (·.len) = [1, 4294967295] := by decide

/-- A refused begin and a failed end are reported as success. -/
theorem ota_untruthful :
    (¬ ∀ env : LocalEnv, Truthful env.image (espHostedOtaLocal env)) ∧
    (¬ ∀ down : Download, Truthful down.image (espHostedOtaHttp down)) := by
  constructor
  · intro claimed
    obtain ⟨⟨ret, returned, truth⟩, _⟩ := claimed refusedBegin
    have success : ret = espOk := (Option.some.inj returned).symm
    obtain ⟨begun, _⟩ := truth.mp success
    exact absurd begun (by decide)
  · intro claimed
    obtain ⟨⟨ret, returned, truth⟩, _⟩ := claimed unendedDownload
    have success : ret = espOk := (Option.some.inj returned).symm
    obtain ⟨_, _, ended⟩ := truth.mp success
    exact absurd ended (by decide)

end EspHosted.OtaUpdate

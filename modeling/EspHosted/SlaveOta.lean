import EspHosted.OtaUpdate

/-!
An update on the slave: `req_ota_begin_handler`, `req_ota_write_handler` and
`req_ota_end_handler` of slave_control.c. The `esp_ota_*` and the restart belong to its SDK: `Sdk`
is any of it, and `Documented` what its documentation says of the flash. The running partition is
never written, so there is always something to boot.
-/

namespace EspHosted.SlaveOta
open OtaUpdate (espOk espFail)

/-- What is written in each partition, the partition chosen for the next boot, the running one,
and the partitions of the open handles. -/
structure Flash (Partition : Type) where
  content : Partition → List UInt8
  boot : Partition
  running : Partition
  opened : Nat → Option Partition

/-- `next` is `esp_ota_get_next_update_partition`, which starts from the running partition, and
`valid` what is taken for an image. -/
structure Board (Partition : Type) where
  next : Partition → Option Partition
  valid : List UInt8 → Bool

/-- What `esp_ota_begin` gives: its code, and the handle where it succeeds. -/
structure Begun (World : Type) where
  code : Int
  handle : Nat
  world : World

/-- The functions of the SDK that the handlers call, over any state of its own. `flash` is what
its documentation speaks of. `restart` is `none` for a slave that does not come up again. -/
structure Sdk (World Partition : Type) where
  board : Board Partition
  otaBegin : World → Partition → Begun World
  otaWrite : World → Nat → List UInt8 → Int × World
  otaEnd : World → Nat → Int × World
  otaSetBootPartition : World → Option Partition → Int × World
  restart : World → Option World
  flash : World → Flash Partition

/-- The statics of slave_control.c beside the flash. `handle` is 0 before the first update. -/
structure Slave (Store Partition : Type) where
  flash : Store
  handle : Nat
  updatePartition : Option Partition
  otaMsg : Bool
  restartTimer : Bool

abbrev Seen (Partition : Type) : Type := Slave (Flash Partition) Partition

variable {World Partition : Type}

def Slave.seen (sdk : Sdk World Partition) (slave : Slave World Partition) : Seen Partition where
  flash := sdk.flash slave.flash
  handle := slave.handle
  updatePartition := slave.updatePartition
  otaMsg := slave.otaMsg
  restartTimer := slave.restartTimer

def Flash.close (flash : Flash Partition) (handle : Nat) : Flash Partition :=
  { flash with opened := Function.update flash.opened handle none }

section Flash
variable [DecidableEq Partition]

def Flash.put (flash : Flash Partition) (partition : Partition) (bytes : List UInt8) :
    Flash Partition :=
  { flash with content := Function.update flash.content partition bytes }

/-- A partition is erased, and a handle of it opened. -/
def Flash.opens (flash : Flash Partition) (handle : Nat) (partition : Partition) :
    Flash Partition :=
  { flash.put partition [] with
    opened := Function.update flash.opened handle (some partition) }

theorem put_content {flash : Flash Partition} {partition : Partition} {bytes : List UInt8} :
    (flash.put partition bytes).content partition = bytes := by
  simp [Flash.put]

theorem put_other {flash : Flash Partition} {partition other : Partition} {bytes : List UInt8}
    (apart : other ≠ partition) :
    (flash.put partition bytes).content other = flash.content other := by
  simp [Flash.put, apart]

/-- A begin erases the partition, and not the running one. A write appends its bytes, or a first
part of them when it fails. An end closes its handle in any case. Only an image can be ended or
chosen. A restart boots the chosen partition, or if there is no image in it one with an image. -/
structure Documented (sdk : Sdk World Partition) : Prop where
  begun : ∀ world partition, (sdk.otaBegin world partition).code = espOk →
    (sdk.flash world).running ≠ partition ∧
      sdk.flash (sdk.otaBegin world partition).world =
        (sdk.flash world).opens (sdk.otaBegin world partition).handle partition
  unbegun : ∀ world partition, (sdk.otaBegin world partition).code ≠ espOk →
    sdk.flash (sdk.otaBegin world partition).world = sdk.flash world ∨
      (sdk.flash world).running ≠ partition ∧
        sdk.flash (sdk.otaBegin world partition).world = (sdk.flash world).put partition []
  wrote : ∀ world handle bytes partition, (sdk.flash world).opened handle = some partition →
    ∃ part, part <+: bytes ∧ ((sdk.otaWrite world handle bytes).1 = espOk → part = bytes) ∧
      sdk.flash (sdk.otaWrite world handle bytes).2 =
        (sdk.flash world).put partition ((sdk.flash world).content partition ++ part)
  unopened : ∀ world handle bytes, (sdk.flash world).opened handle = none →
    (sdk.otaWrite world handle bytes).1 ≠ espOk ∧
      sdk.flash (sdk.otaWrite world handle bytes).2 = sdk.flash world
  ended : ∀ world handle partition, (sdk.flash world).opened handle = some partition →
    sdk.flash (sdk.otaEnd world handle).2 = (sdk.flash world).close handle
  unended : ∀ world handle, (sdk.flash world).opened handle = none →
    (sdk.otaEnd world handle).1 ≠ espOk ∧
      sdk.flash (sdk.otaEnd world handle).2 = sdk.flash world
  chosen : ∀ world partition, (sdk.otaSetBootPartition world partition).1 = espOk →
    ∃ chosen, partition = some chosen ∧
      sdk.board.valid ((sdk.flash world).content chosen) = true ∧
      sdk.flash (sdk.otaSetBootPartition world partition).2 =
        { sdk.flash world with boot := chosen }
  unchosen : ∀ world partition, (sdk.otaSetBootPartition world partition).1 ≠ espOk →
    sdk.flash (sdk.otaSetBootPartition world partition).2 = sdk.flash world
  restarted : ∀ world next, sdk.restart world = some next →
    (sdk.flash next).content = (sdk.flash world).content ∧
      (∀ handle, (sdk.flash next).opened handle = none) ∧
      sdk.board.valid ((sdk.flash next).content (sdk.flash next).running) = true
  boots : ∀ world partition, sdk.board.valid ((sdk.flash world).content partition) = true →
    ∃ next, sdk.restart world = some next
  bootsChosen : ∀ world next,
    sdk.board.valid ((sdk.flash world).content (sdk.flash world).boot) = true →
    sdk.restart world = some next →
      (sdk.flash next).running = (sdk.flash world).boot ∧
        (sdk.flash next).boot = (sdk.flash world).boot

end Flash

/-- What a handler meets beside the SDK. -/
structure Luck where
  calloc : Bool
  xTimerCreate : Bool
  xTimerStart : Bool

section Handlers
variable (sdk : Sdk World Partition) (luck : Luck) (slave : Slave World Partition)

/-- The code in the response; `none` when there is none. -/
def reqOtaBeginHandler : Option Int × Slave World Partition :=
  if !luck.calloc then (none, slave)
  else
    match sdk.board.next (sdk.flash slave.flash).running with
    | none => (some (-1), { slave with updatePartition := none })
    | some partition =>
        let begun := sdk.otaBegin slave.flash partition
        if begun.code ≠ espOk then
          (some begun.code,
            { slave with updatePartition := some partition, flash := begun.world })
        else
          (some espOk,
            { slave with
              updatePartition := some partition
              flash := begun.world
              handle := begun.handle
              otaMsg := true })

def reqOtaWriteHandler (bytes : List UInt8) : Option Int × Slave World Partition :=
  if !luck.calloc then (none, slave)
  else
    let written := sdk.otaWrite slave.flash slave.handle bytes
    (some written.1, { slave with flash := written.2, otaMsg := false })

/-- The timer of five seconds, behind an end that went well. -/
def startRestart (slave : Slave World Partition) : Option Int × Slave World Partition :=
  if !luck.xTimerCreate then (some (-1), slave)
  else if !luck.xTimerStart then (some (-2), slave)
  else (some espOk, { slave with restartTimer := true })

def reqOtaEndHandler : Option Int × Slave World Partition :=
  if !luck.calloc then (none, slave)
  else
    let ended := sdk.otaEnd slave.flash slave.handle
    if ended.1 ≠ espOk then (some ended.1, { slave with flash := ended.2 })
    else
      let chosen := sdk.otaSetBootPartition ended.2 slave.updatePartition
      if chosen.1 ≠ espOk then (some chosen.1, { slave with flash := chosen.2 })
      else startRestart luck { slave with flash := chosen.2 }

/-- The statics begin anew. -/
def restart : Option (Slave World Partition) :=
  (sdk.restart slave.flash).map fun world =>
    { flash := world
      handle := 0
      updatePartition := none
      otaMsg := false
      restartTimer := false }

end Handlers

inductive Request where
  | begun
  | write (bytes : List UInt8)
  | ended

def serve (sdk : Sdk World Partition) (luck : Luck) (slave : Slave World Partition) :
    Request → Option Int × Slave World Partition
  | .begun => reqOtaBeginHandler sdk luck slave
  | .write bytes => reqOtaWriteHandler sdk luck slave bytes
  | .ended => reqOtaEndHandler sdk luck slave

/-- All that a request can do to the slave. -/
inductive Does [DecidableEq Partition] (board : Board Partition) (slave : Seen Partition) :
    Request → Option Int → Seen Partition → Prop where
  | idle {request : Request} {code : Option Int} {otaMsg : Bool} (failed : code ≠ some espOk) :
      Does board slave request code { slave with otaMsg := otaMsg }
  | refused {code : Option Int} (failed : code ≠ some espOk) :
      Does board slave .begun code
        { slave with updatePartition := board.next slave.flash.running }
  | erased {code : Option Int} {partition : Partition} (failed : code ≠ some espOk)
      (next : board.next slave.flash.running = some partition)
      (apart : slave.flash.running ≠ partition) :
      Does board slave .begun code
        { slave with updatePartition := some partition, flash := slave.flash.put partition [] }
  | begun {partition : Partition} {handle : Nat}
      (next : board.next slave.flash.running = some partition)
      (apart : slave.flash.running ≠ partition) :
      Does board slave .begun (some espOk)
        { slave with
          updatePartition := some partition
          flash := slave.flash.opens handle partition
          handle := handle
          otaMsg := true }
  | wrote {bytes part : List UInt8} {code : Option Int} {partition : Partition}
      (opened : slave.flash.opened slave.handle = some partition) (front : part <+: bytes)
      (whole : code = some espOk → part = bytes) :
      Does board slave (.write bytes) code
        { slave with
          flash := slave.flash.put partition (slave.flash.content partition ++ part)
          otaMsg := false }
  | closed {code : Option Int} (failed : code ≠ some espOk) :
      Does board slave .ended code
        { slave with flash := slave.flash.close slave.handle }
  | chosen {code : Option Int} {opened partition : Partition} {restartTimer : Bool}
      (held : slave.flash.opened slave.handle = some opened)
      (update : slave.updatePartition = some partition)
      (image : board.valid (slave.flash.content partition) = true) :
      Does board slave .ended code
        { slave with
          flash := { slave.flash.close slave.handle with boot := partition }
          restartTimer := restartTimer }

/-- All that a restart can do. -/
structure Boots (board : Board Partition) (before after : Seen Partition) : Prop where
  content : after.flash.content = before.flash.content
  opened : ∀ handle, after.flash.opened handle = none
  update : after.updatePartition = none
  timer : after.restartTimer = false
  running : board.valid (after.flash.content after.flash.running) = true
  chosen : board.valid (before.flash.content before.flash.boot) = true →
    after.flash.running = before.flash.boot ∧ after.flash.boot = before.flash.boot

section Specs
variable [DecidableEq Partition] {sdk : Sdk World Partition} {luck : Luck}
  {slave : Slave World Partition}

theorem told_failure {code : Int} (failed : code ≠ espOk) : some code ≠ some espOk :=
  fun same => failed (Option.some.inj same)

theorem begin_does (documented : Documented sdk) :
    Does sdk.board (slave.seen sdk) .begun (reqOtaBeginHandler sdk luck slave).1
      ((reqOtaBeginHandler sdk luck slave).2.seen sdk) := by
  have absent : (none : Option Int) ≠ some espOk := by decide
  have refused : some (-1) ≠ some espOk := by decide
  rw [reqOtaBeginHandler]
  cases calloc : luck.calloc with
  | false => exact .idle absent
  | true =>
      cases next : sdk.board.next (sdk.flash slave.flash).running with
      | none =>
          have does := @Does.refused _ _ sdk.board (slave.seen sdk) _ refused
          rw [show sdk.board.next (slave.seen sdk).flash.running = none from next] at does
          exact does
      | some partition =>
          simp only [Bool.not_true, Bool.false_eq_true, if_false]
          by_cases well : (sdk.otaBegin slave.flash partition).code = espOk
          · obtain ⟨apart, same⟩ := documented.begun slave.flash partition well
            rw [if_neg (not_not_intro well)]
            simp only [Slave.seen, same]
            exact @Does.begun _ _ sdk.board (slave.seen sdk) _ _ next apart
          · rw [if_pos well]
            rcases documented.unbegun slave.flash partition well with same | ⟨apart, same⟩
            · have does := @Does.refused _ _ sdk.board (slave.seen sdk) _ (told_failure well)
              rw [show sdk.board.next (slave.seen sdk).flash.running = some partition from next]
                at does
              simp only [Slave.seen, same]
              exact does
            · simp only [Slave.seen, same]
              exact @Does.erased _ _ sdk.board (slave.seen sdk) _ _ (told_failure well) next apart

theorem write_does (documented : Documented sdk) {bytes : List UInt8} :
    Does sdk.board (slave.seen sdk) (.write bytes) (reqOtaWriteHandler sdk luck slave bytes).1
      ((reqOtaWriteHandler sdk luck slave bytes).2.seen sdk) := by
  have absent : (none : Option Int) ≠ some espOk := by decide
  rw [reqOtaWriteHandler]
  cases calloc : luck.calloc with
  | false => exact .idle absent
  | true =>
      cases opened : (sdk.flash slave.flash).opened slave.handle with
      | none =>
          obtain ⟨failed, same⟩ := documented.unopened slave.flash slave.handle bytes opened
          simp only [Slave.seen, Bool.not_true, Bool.false_eq_true, if_false, same]
          exact @Does.idle _ _ sdk.board (slave.seen sdk) _ _ _ (told_failure failed)
      | some partition =>
          obtain ⟨part, front, whole, same⟩ :=
            documented.wrote slave.flash slave.handle bytes partition opened
          simp only [Slave.seen, Bool.not_true, Bool.false_eq_true, if_false, same]
          exact @Does.wrote _ _ sdk.board (slave.seen sdk) _ _ _ _ opened front
            fun well => whole (Option.some.inj well)

theorem ended_does (documented : Documented sdk) :
    Does sdk.board (slave.seen sdk) .ended (reqOtaEndHandler sdk luck slave).1
      ((reqOtaEndHandler sdk luck slave).2.seen sdk) := by
  have absent : (none : Option Int) ≠ some espOk := by decide
  rw [reqOtaEndHandler]
  cases calloc : luck.calloc with
  | false => exact .idle absent
  | true =>
      simp only [Bool.not_true, Bool.false_eq_true, if_false]
      cases opened : (sdk.flash slave.flash).opened slave.handle with
      | none =>
          obtain ⟨failed, same⟩ := documented.unended slave.flash slave.handle opened
          rw [if_pos failed]
          simp only [Slave.seen, same]
          exact @Does.idle _ _ sdk.board (slave.seen sdk) _ _ _ (told_failure failed)
      | some partition =>
          -- the handle is gone whatever the end returned
          have same := documented.ended slave.flash slave.handle partition opened
          by_cases well : (sdk.otaEnd slave.flash slave.handle).1 = espOk
          · rw [if_neg (not_not_intro well)]
            by_cases set : (sdk.otaSetBootPartition (sdk.otaEnd slave.flash slave.handle).2
                slave.updatePartition).1 = espOk
            · obtain ⟨chosen, update, image, booted⟩ := documented.chosen _ _ set
              rw [same] at image booted
              have does {code : Option Int} {restartTimer : Bool} :=
                @Does.chosen _ _ sdk.board (slave.seen sdk) code _ _ restartTimer opened update image
              rw [if_neg (not_not_intro set), startRestart]
              split
              · simp only [Slave.seen, booted]
                exact does
              · split
                · simp only [Slave.seen, booted]
                  exact does
                · simp only [Slave.seen, booted]
                  exact does
            · rw [if_pos set]
              simp only [Slave.seen, documented.unchosen _ _ set, same]
              exact @Does.closed _ _ sdk.board (slave.seen sdk) _ (told_failure set)
          · rw [if_pos well]
            simp only [Slave.seen, same]
            exact @Does.closed _ _ sdk.board (slave.seen sdk) _ (told_failure well)

theorem serve_does (documented : Documented sdk) (request : Request) :
    Does sdk.board (slave.seen sdk) request (serve sdk luck slave request).1
      ((serve sdk luck slave request).2.seen sdk) := by
  cases request with
  | begun => exact begin_does documented
  | write bytes => exact write_does documented
  | ended => exact ended_does documented

theorem restart_boots (documented : Documented sdk) {next : Slave World Partition}
    (booted : restart sdk slave = some next) : Boots sdk.board (slave.seen sdk) (next.seen sdk) := by
  rw [restart] at booted
  obtain ⟨world, restarted, rfl⟩ := Option.map_eq_some_iff.mp booted
  obtain ⟨content, opened, running⟩ := documented.restarted slave.flash world restarted
  exact
    { content := content
      opened := opened
      update := rfl
      timer := rfl
      running := running
      chosen := fun image => documented.bootsChosen slave.flash world image restarted }

end Specs

/-- Open handles are of the partition behind the running one, and what runs is an image. -/
structure Sound (board : Board Partition) (slave : Seen Partition) : Prop where
  opened : ∀ handle partition, slave.flash.opened handle = some partition →
    board.next slave.flash.running = some partition ∧ slave.flash.running ≠ partition
  update : ∀ partition, slave.updatePartition = some partition →
    board.next slave.flash.running = some partition
  running : board.valid (slave.flash.content slave.flash.running) = true

section Soundness
variable {board : Board Partition} {slave after : Seen Partition} {request : Request}
  {code : Option Int}

theorem close_shut {flash : Flash Partition} {handle : Nat} {partition : Partition} :
    (flash.close handle).opened handle ≠ some partition := by
  intro opened
  simp [Flash.close] at opened

theorem close_opened {flash : Flash Partition} {handle other : Nat} {partition : Partition}
    (opened : (flash.close handle).opened other = some partition) :
    flash.opened other = some partition := by
  by_cases same : other = handle
  · rw [same] at opened
    exact absurd opened close_shut
  · simpa [Flash.close, Function.update_of_ne same] using opened

theorem opens_opened [DecidableEq Partition] {flash : Flash Partition} {handle other : Nat}
    {partition held : Partition} (opened : (flash.opens handle partition).opened other = some held) :
    held = partition ∨ flash.opened other = some held := by
  by_cases same : other = handle
  · rw [same] at opened
    simp only [Flash.opens, Function.update_self] at opened
    exact Or.inl (Option.some.inj opened).symm
  · simp only [Flash.opens, Function.update_of_ne same] at opened
    exact Or.inr opened

theorem does_sound [DecidableEq Partition] (does : Does board slave request code after)
    (sound : Sound board slave) : Sound board after := by
  have untouched {partition : Partition} {bytes : List UInt8}
      (apart : slave.flash.running ≠ partition) :
      board.valid ((slave.flash.put partition bytes).content slave.flash.running) = true := by
    rw [put_other apart]
    exact sound.running
  cases does with
  | idle failed => exact ⟨sound.opened, sound.update, sound.running⟩
  | refused failed => exact ⟨sound.opened, fun _ => id, sound.running⟩
  | @erased _ partition failed next apart =>
      refine ⟨sound.opened, ?_, untouched apart⟩
      intro other same
      rw [← same]
      exact next
  | @begun partition handle next apart =>
      refine ⟨?_, ?_, untouched apart⟩
      · intro handle other opened
        rcases opens_opened opened with same | earlier
        · rw [same]
          exact ⟨next, apart⟩
        · exact sound.opened handle other earlier
      · intro other same
        rw [← same]
        exact next
  -- an open handle is never of the partition that runs
  | @wrote bytes part _ partition opened front whole =>
      exact ⟨sound.opened, sound.update, untouched (sound.opened _ _ opened).2⟩
  | closed failed =>
      exact ⟨fun handle other opened => sound.opened handle other (close_opened opened),
        sound.update, sound.running⟩
  | chosen held update image =>
      exact ⟨fun handle other opened => sound.opened handle other (close_opened opened),
        sound.update, sound.running⟩

theorem boots_sound (boots : Boots board slave after) : Sound board after := by
  refine ⟨?_, ?_, boots.running⟩
  · intro handle other opened
    rw [boots.opened] at opened
    cases opened
  · intro other update
    rw [boots.update] at update
    cases update

theorem sound_boots [DecidableEq Partition] {sdk : Sdk World Partition}
    (documented : Documented sdk) {slave : Slave World Partition}
    (sound : Sound sdk.board (slave.seen sdk)) : ∃ next, restart sdk slave = some next := by
  obtain ⟨world, restarted⟩ := documented.boots slave.flash _ sound.running
  exact ⟨_, congrArg (Option.map _) restarted⟩

end Soundness

end EspHosted.SlaveOta

import EspHosted.GuardedRun
import EspHosted.RpcResponses
import EspHosted.SlaveOta

/-!
Updates of the slave by the host, one after the other, while requests and responses may be lost,
the flash may fail, and the slave may restart at any moment. The results in an `Ota` are those its
requests have had, and what is lost does not come late. Whatever happens the slave runs an image,
and it is the one from before or all of one it was sent.
-/

namespace EspHosted.OtaHistory
open GuardedRun OtaUpdate SlaveOta

/-- The host's two ways to update. -/
inductive Update where
  | file (env : LocalEnv)
  | web (down : Download)

def Update.ota : Update → Ota
  | .file env => espHostedOtaLocal env
  | .web down => espHostedOtaHttp down

def Update.image : Update → List UInt8
  | .file env => env.image
  | .web down => down.image

/-- The size of the file is known, or no read of the web session fails. A failed one is followed
by a write of what is in memory. -/
def Update.Clean : Update → Prop
  | .file env => env.image.length < 2 ^ 31
  | .web down => ∀ round ∈ down.rounds, round.read.isFailed = false

def joined (writes : List Write) : List UInt8 := writes.flatMap (·.data)

def Update.sent (update : Update) : List UInt8 := joined update.ota.writes

/-- A request with the result that the host's call returns. -/
structure Asked where
  request : Request
  result : Int

def asksWrite (write : Write) : Asked := ⟨.write write.data, write.result⟩

def asksEnd (ota : Ota) : List Asked := ota.ended.toList.map fun result => ⟨.ended, result⟩

def asks (ota : Ota) : List Asked :=
  (ota.begun.toList.map fun result => ⟨.begun, result⟩) ++ (ota.writes.map asksWrite ++ asksEnd ota)

def kind : Request → RpcResponses.RespKind
  | .begun => .otaBegin
  | .write _ => .otaWrite
  | .ended => .otaEnd

def response (request : Request) (resp : Int) : RpcResponses.Rpc where
  msgId := (kind request).id
  uid := 1
  payload := some (RpcResponses.plainPayload resp)

/-- What `rpc_ota_begin`, `rpc_ota_write` or `rpc_ota_end` returns for a response with this code. -/
def told (request : Request) (resp : Int) : Int :=
  ((RpcResponses.rpcParseRsp false 0 true (response request resp) RpcResponses.zeroed).map
    RpcResponses.rpcRspCallback).getD espFail

/-- The code of a response comes through, but for that of an end. -/
theorem told_code {request : Request} (other : request ≠ .ended) (resp : Int) :
    told request resp = resp := by
  have kept : kind request ≠ .otaEnd := by
    cases request with
    | begun => decide
    | write bytes => exact (by decide : RpcResponses.RespKind.otaWrite ≠ .otaEnd)
    | ended => exact absurd rfl other
  have known : RpcResponses.caseOf false (kind request).id = some (kind request) := by
    cases request <;> rfl
  by_cases well : resp = 0
  · rw [well]
    cases request with
    | begun => rfl
    | write bytes => rfl
    | ended => rfl
  · have parsed := @RpcResponses.parse_failed false 0 true _ (response request resp) RpcResponses.zeroed
      (RpcResponses.plainPayload resp) known rfl well kept
    have inside : ¬ (((UInt16.ofInt (kind request).id).toNat : Int) ≤ RpcTables.rpcIdRespBase ∨
        RpcTables.rpcIdRespMax ≤ ((UInt16.ofInt (kind request).id).toNat : Int)) := by
      cases request with
      | begun => decide
      | write bytes => exact (by decide : ¬ ((529 : Int) ≤ 512 ∨ (607 : Int) ≤ 529))
      | ended => decide
    have status : resp ≠ RpcResponses.success := well
    rw [told, parsed, Option.map_some, Option.getD_some, RpcResponses.rpcRspCallback]
    exact (if_neg inside).trans (if_pos status)

section Host

/-- Only the last write has failed. -/
def Stops : List Write → Prop
  | [] => True
  | write :: rest => (write.result ≠ espOk → rest = []) ∧ Stops rest

/-- How both updates are made: nothing follows a begin or a write that failed. -/
structure Shaped (ota : Ota) : Prop where
  unbegun : ota.begun ≠ some espOk → ota.writes = [] ∧ ota.ended = none
  stops : Stops ota.writes

theorem joined_append (first rest : List Write) : joined (first ++ rest) = joined first ++ joined rest :=
  List.flatMap_append

theorem joined_cons (write : Write) (rest : List Write) :
    joined (write :: rest) = write.data ++ joined rest := rfl

theorem writeFile_stops (image : List UInt8) (fileSize : UInt32) (rounds : List FileRound)
    (writeTotal : UInt32) : Stops (writeFile image fileSize rounds writeTotal) := by
  induction rounds generalizing writeTotal with
  | nil => trivial
  | cons round rounds ih =>
      rw [writeFile]
      split
      · dsimp only
        split
        · trivial
        · split
          · exact ⟨fun _ => rfl, trivial⟩
          · rename_i well
            exact ⟨fun failed => absurd failed well, ih _⟩
      · trivial

theorem writeFile_sent {image : List UInt8} {fileSize : UInt32}
    (size : fileSize.toNat = image.length) (small : image.length < 2 ^ 31)
    (rounds : List FileRound) (writeTotal : UInt32) :
    joined (writeFile image fileSize rounds writeTotal) <+: image.drop writeTotal.toNat := by
  induction rounds generalizing writeTotal with
  | nil => exact List.nil_prefix
  | cons round rounds ih =>
      rw [writeFile]
      split
      · rename_i left
        dsimp only
        split
        · exact List.nil_prefix
        · split
          · rw [joined_cons, joined, List.flatMap_nil, List.append_nil]
            exact List.take_prefix _ _
          · have length := (block_step size small left).1
            have rest := ih (writeTotal + blockLen fileSize writeTotal)
            rw [(block_step size small left).2.1, ← length, ← List.drop_drop] at rest
            have cut := List.take_append_drop (blockLen fileSize writeTotal).toNat
              (image.drop writeTotal.toNat)
            rw [joined_cons]
            conv => rhs; rw [← cut]
            exact (List.prefix_append_right_inj _).mpr rest
      · exact List.nil_prefix

theorem receive_stops (memory : Nat → List UInt8) (more : Nat → Bool) (rounds : List WebRound)
    (writeTotal : Nat) : Stops (receive memory more rounds writeTotal).writes := by
  induction rounds generalizing writeTotal with
  | nil => trivial
  | cons round rounds ih =>
      rw [receive]
      split
      · split
        · dsimp only
          split
          · exact ⟨fun _ => rfl, trivial⟩
          · rename_i well
            exact ⟨fun failed => absurd failed well, ih _⟩
        · trivial
      · trivial

theorem clean_data {memory : Nat → List UInt8} {read : WebRead} (well : read.isFailed = false) :
    blockData memory read = read.data := by
  cases read with
  | bytes data fits => rfl
  | failed code negative int => cases well

theorem receive_sent {memory : Nat → List UInt8} {more : Nat → Bool} {rounds : List WebRound}
    (writeTotal : Nat) (clean : ∀ round ∈ rounds, round.read.isFailed = false) :
    joined (receive memory more rounds writeTotal).writes <+: received rounds := by
  induction rounds generalizing writeTotal with
  | nil => exact List.nil_prefix
  | cons round rounds ih =>
      have data := @clean_data memory _ (clean round List.mem_cons_self)
      have later := fun other member => clean other (List.mem_cons_of_mem _ member)
      rw [receive, received_cons]
      split
      · split
        · dsimp only
          split
          · rw [joined_cons, data]
            exact (List.prefix_append_right_inj _).mpr List.nil_prefix
          · rw [joined_cons, data]
            exact (List.prefix_append_right_inj _).mpr (ih _ later)
        · exact List.nil_prefix
      · exact List.nil_prefix

theorem update_shaped (update : Update) : Shaped update.ota := by
  cases update with
  | file env =>
      rw [Update.ota, espHostedOtaLocal]
      split
      · exact ⟨fun _ => ⟨rfl, rfl⟩, trivial⟩
      · split
        · exact ⟨fun _ => ⟨rfl, rfl⟩, trivial⟩
        · split
          · exact ⟨fun _ => ⟨rfl, rfl⟩, trivial⟩
          · rename_i begun
            have well := not_not.mp begun
            split
            · exact ⟨fun failed => absurd (congrArg some well) failed, trivial⟩
            · exact ⟨fun failed => absurd (congrArg some well) failed, writeFile_stops _ _ _ _⟩
  | web down =>
      rw [Update.ota, espHostedOtaHttp]
      split
      · exact ⟨fun _ => ⟨rfl, rfl⟩, trivial⟩
      · split
        · exact ⟨fun _ => ⟨rfl, rfl⟩, trivial⟩
        · rename_i begun
          have well := not_not.mp begun
          split
          · exact ⟨fun failed => absurd (congrArg some well) failed, trivial⟩
          · exact ⟨fun failed => absurd (congrArg some well) failed, receive_stops _ _ _ _⟩

theorem sent_image {update : Update} (clean : update.Clean) : update.sent <+: update.image := by
  cases update with
  | file env =>
      rw [Update.sent, Update.ota, espHostedOtaLocal]
      split
      · exact List.nil_prefix
      · split
        · exact List.nil_prefix
        · split
          · exact List.nil_prefix
          · split
            · exact List.nil_prefix
            · exact writeFile_sent (ftell_toNat clean) clean _ 0
  | web down =>
      rw [Update.sent, Update.ota, espHostedOtaHttp]
      split
      · exact List.nil_prefix
      · split
        · exact List.nil_prefix
        · split
          · exact List.nil_prefix
          · exact (receive_sent 0 clean).trans down.pieces

end Host

variable {World Partition : Type}

/-- A response comes back, or the call fails; the slave may have got the request all the same. -/
inductive Fate where
  | answered
  | lost (executed : Bool)

inductive Act where
  | update (update : Update)
  | exchange (fate : Fate) (luck : Luck)
  | restart

/-- The slave, what the update under way has still to ask for, and the updates so far. -/
structure Setting (Store Partition : Type) where
  slave : Slave Store Partition
  pending : List Asked
  history : List Update

def Setting.seen (sdk : Sdk World Partition) (setting : Setting World Partition) :
    Setting (Flash Partition) Partition where
  slave := setting.slave.seen sdk
  pending := setting.pending
  history := setting.history

/-- The next request of the update under way, with the result the host has had for it. A request
without a response, by a handler that had no memory, is a lost one. -/
def exchange (sdk : Sdk World Partition) (fate : Fate) (luck : Luck)
    (slave : Slave World Partition) (asked : Asked) : Option (Slave World Partition) :=
  let served := serve sdk luck slave asked.request
  match fate with
  | .answered =>
      if served.1.map (told asked.request) = some asked.result then some served.2 else none
  | .lost executed =>
      if asked.result = espOk then none else some (if executed then served.2 else slave)

/-- The host makes an update after the other, each of them defined. -/
def step (sdk : Sdk World Partition) (setting : Setting World Partition) :
    Act → Option (Setting World Partition)
  | .update update =>
      if setting.pending.isEmpty ∧ update.ota.ret.isSome then
        some
          { setting with
            pending := asks update.ota
            history := setting.history ++ [update] }
      else none
  | .exchange fate luck =>
      match setting.pending with
      | [] => none
      | asked :: rest =>
          (exchange sdk fate luck setting.slave asked).map fun slave =>
            { setting with slave := slave, pending := rest }
  | .restart => (restart sdk setting.slave).map fun slave => { setting with slave := slave }

/-- A slave that runs the image it has chosen, before any update. -/
structure Begins (board : Board Partition) (slave : Seen Partition) : Prop where
  opened : ∀ handle, slave.flash.opened handle = none
  update : slave.updatePartition = none
  timer : slave.restartTimer = false
  boot : slave.flash.boot = slave.flash.running
  running : board.valid (slave.flash.content slave.flash.running) = true

/-- What is in a partition is the front of what an update has sent. -/
def Came (history : List Update) (flash : Flash Partition) (partition : Partition) : Prop :=
  ∃ update ∈ history, flash.content partition <+: update.sent

/-- How far the update under way has come. While there are writes left, those before them are all
that is in the partition, unless the slave has restarted. -/
inductive Progress (history : List Update) (slave : Seen Partition) : List Asked → Prop where
  | idle : Progress history slave []
  | unbegun {update : Update} (member : update ∈ history) : Progress history slave (asks update.ota)
  | writing {update : Update} {done rest : List Write} (member : update ∈ history)
      (split : update.ota.writes = done ++ rest) (stops : Stops rest)
      (filled : ∀ partition, slave.flash.opened slave.handle = some partition →
        slave.flash.content partition = joined done) :
      Progress history slave (rest.map asksWrite ++ asksEnd update.ota)
  | ending {update : Update} (member : update ∈ history) : Progress history slave (asksEnd update.ota)

structure Traced (start : Seen Partition) (setting : Setting (Flash Partition) Partition) : Prop where
  origin : ∀ partition, setting.slave.flash.content partition = start.flash.content partition ∨
    Came setting.history setting.slave.flash partition
  opened : ∀ handle partition, setting.slave.flash.opened handle = some partition →
    Came setting.history setting.slave.flash partition
  timer : setting.slave.restartTimer = true →
    Came setting.history setting.slave.flash setting.slave.flash.boot
  progress : Progress setting.history setting.slave setting.pending

section Exchange
variable {board : Board Partition} {start slave after : Seen Partition}
  {setting : Setting (Flash Partition) Partition} {history : List Update} {asked : Asked} {rest : List Asked} {code : Option Int}

theorem exchange_does [DecidableEq Partition] {sdk : Sdk World Partition}
    (documented : Documented sdk) {fate : Fate} {luck : Luck} {slave after : Slave World Partition}
    (taken : exchange sdk fate luck slave asked = some after) :
    ∃ code, Does sdk.board (slave.seen sdk) asked.request code (after.seen sdk) ∧
      (asked.result = espOk → code.map (told asked.request) = some espOk) := by
  cases fate with
  | answered =>
      rw [exchange] at taken
      split at taken
      · rename_i heard
        cases taken
        refine ⟨_, serve_does documented asked.request, ?_⟩
        intro well
        rw [heard, well]
      · cases taken
  | lost executed =>
      rw [exchange] at taken
      split at taken
      · cases taken
      · rename_i failed
        cases taken
        cases executed with
        | false =>
            have absent : (none : Option Int) ≠ some espOk := by decide
            exact ⟨none, @Does.idle _ _ sdk.board (slave.seen sdk) _ _ _ absent,
              fun well => absurd well failed⟩
        | true => exact ⟨_, serve_does documented asked.request, fun well => absurd well failed⟩

theorem told_well {request : Request} (other : request ≠ .ended)
    (heard : code.map (told request) = some espOk) : code = some espOk := by
  obtain ⟨resp, same, told⟩ := Option.map_eq_some_iff.mp heard
  rw [told_code other] at told
  rw [same, told]

/-- The next request is a begin, a write, or an end behind which nothing is left. -/
inductive Heads (history : List Update) (slave : Seen Partition) : Asked → List Asked → Prop where
  | begun {update : Update} {result : Int} (member : update ∈ history)
      (first : update.ota.begun = some result) :
      Heads history slave ⟨.begun, result⟩
        (update.ota.writes.map asksWrite ++ asksEnd update.ota)
  | write {update : Update} {done later : List Write} {write : Write} (member : update ∈ history)
      (split : update.ota.writes = done ++ write :: later) (stops : Stops (write :: later))
      (filled : ∀ partition, slave.flash.opened slave.handle = some partition →
        slave.flash.content partition = joined done) :
      Heads history slave (asksWrite write) (later.map asksWrite ++ asksEnd update.ota)
  | ended {update : Update} {result : Int} (member : update ∈ history) :
      Heads history slave ⟨.ended, result⟩ []

theorem asksEnd_heads {update : Update} (member : update ∈ history)
    (next : asksEnd update.ota = asked :: rest) : Heads history slave asked rest := by
  rw [asksEnd] at next
  cases ended : update.ota.ended with
  | none =>
      rw [ended] at next
      cases next
  | some result =>
      rw [ended] at next
      cases next
      exact .ended member

theorem progress_heads (progress : Progress history slave (asked :: rest)) :
    Heads history slave asked rest := by
  generalize same : asked :: rest = pending at progress
  cases progress with
  | idle => cases same
  | @unbegun update member =>
      rw [asks] at same
      cases first : update.ota.begun with
      | none =>
          have unbegun : update.ota.begun ≠ some espOk := by
            rw [first]
            decide
          have nothing := (update_shaped update).unbegun unbegun
          rw [first, nothing.1, asksEnd, nothing.2] at same
          cases same
      | some result =>
          rw [first] at same
          cases same
          exact .begun member first
  | @writing update done left member split stops filled =>
      cases left with
      | nil => exact asksEnd_heads member same.symm
      | cons write later =>
          cases same
          exact .write member split stops filled
  | ending member => exact asksEnd_heads member same.symm

theorem traced_touched (traced : Traced start setting)
    (touched : ∀ partition, after.flash.content partition = setting.slave.flash.content partition ∨
      Came setting.history after.flash partition)
    (opened : ∀ handle partition, after.flash.opened handle = some partition →
      setting.slave.flash.opened handle = some partition ∨ Came setting.history after.flash partition)
    (timer : after.restartTimer = true →
      setting.slave.restartTimer = true ∧ after.flash.boot = setting.slave.flash.boot ∨
        Came setting.history after.flash after.flash.boot)
    (progress : Progress setting.history after rest) :
    Traced start { setting with slave := after, pending := rest } := by
  have kept : ∀ partition, Came setting.history setting.slave.flash partition →
      Came setting.history after.flash partition := by
    rintro partition ⟨update, member, front⟩
    rcases touched partition with same | came
    · exact ⟨update, member, same ▸ front⟩
    · exact came
  refine ⟨?_, ?_, ?_, progress⟩
  · intro partition
    rcases touched partition with same | came
    · rcases traced.origin partition with first | came
      · exact Or.inl (same.trans first)
      · exact Or.inr (kept partition came)
    · exact Or.inr came
  · intro handle partition open_
    rcases opened handle partition open_ with before | came
    · exact kept partition (traced.opened handle partition before)
    · exact came
  · intro running
    rcases timer running with ⟨before, same⟩ | came
    · change Came setting.history after.flash after.flash.boot
      rw [same]
      exact kept _ (traced.timer before)
    · exact came

/-- A request that changes neither the flash nor the timer. -/
theorem traced_same (traced : Traced start setting) (flash : after.flash = setting.slave.flash)
    (timer : after.restartTimer = setting.slave.restartTimer)
    (progress : Progress setting.history after rest) :
    Traced start { setting with slave := after, pending := rest } := by
  apply traced_touched traced
  · exact fun _ => Or.inl (by rw [flash])
  · intro handle partition opened
    rw [flash] at opened
    exact Or.inl opened
  · exact fun running => Or.inl ⟨timer ▸ running, by rw [flash]⟩
  · exact progress

theorem put_touched [DecidableEq Partition] {flash : Flash Partition} {partition : Partition}
    {bytes : List UInt8} (came : ∃ update ∈ history, bytes <+: update.sent) (other : Partition) :
    (flash.put partition bytes).content other = flash.content other ∨
      Came history (flash.put partition bytes) other := by
  by_cases same : other = partition
  · right
    obtain ⟨update, member, front⟩ := came
    refine ⟨update, member, ?_⟩
    rw [same, put_content]
    exact front
  · exact Or.inl (put_other same)

theorem begun_traced [DecidableEq Partition] {update : Update} {result : Int}
    (traced : Traced start setting) (member : update ∈ setting.history)
    (first : update.ota.begun = some result)
    (does : Does board setting.slave .begun code after)
    (reported : result = espOk → code = some espOk) :
    Traced start
      { setting with
        slave := after, pending := update.ota.writes.map asksWrite ++ asksEnd update.ota } := by
  have blank : ∃ update ∈ setting.history, [] <+: update.sent := ⟨update, member, List.nil_prefix⟩
  have settled (failed : code ≠ some espOk) : Progress setting.history after
      (update.ota.writes.map asksWrite ++ asksEnd update.ota) := by
    -- nothing follows a begin that the host takes for failed
    have unbegun : update.ota.begun ≠ some espOk := by
      rw [first]
      exact fun same => failed (reported (Option.some.inj same))
    have nothing := (update_shaped update).unbegun unbegun
    rw [nothing.1, asksEnd, nothing.2]
    exact .idle
  cases does with
  | idle failed => exact traced_same traced rfl rfl (settled failed)
  | refused failed => exact traced_same traced rfl rfl (settled failed)
  | erased failed next apart =>
      exact traced_touched traced (put_touched blank) (fun _ _ => Or.inl)
        (fun timer => Or.inl ⟨timer, rfl⟩) (settled failed)
  | @begun partition handle next apart =>
      apply traced_touched traced (put_touched blank)
      · intro other held opened
        rcases opens_opened opened with same | earlier
        · right
          refine ⟨update, member, ?_⟩
          change (setting.slave.flash.put partition []).content held <+: _
          rw [same, put_content]
          exact List.nil_prefix
        · exact Or.inl earlier
      · exact fun timer => Or.inl ⟨timer, rfl⟩
      · refine .writing member (List.nil_append _).symm (update_shaped update).stops ?_
        intro other opened
        simp only [Flash.opens, Function.update_self] at opened
        change (setting.slave.flash.put partition []).content other = _
        rw [← Option.some.inj opened, put_content]
        rfl

theorem write_traced [DecidableEq Partition] {update : Update} {done later : List Write}
    {write : Write} (traced : Traced start setting) (member : update ∈ setting.history)
    (split : update.ota.writes = done ++ write :: later) (stops : Stops (write :: later))
    (filled : ∀ partition, setting.slave.flash.opened setting.slave.handle = some partition →
      setting.slave.flash.content partition = joined done)
    (does : Does board setting.slave (.write write.data) code after)
    (reported : write.result = espOk → code = some espOk) :
    Traced start
      { setting with slave := after, pending := later.map asksWrite ++ asksEnd update.ota } := by
  have settled (failed : code ≠ some espOk) : Progress setting.history after
      (later.map asksWrite ++ asksEnd update.ota) := by
    -- a write that failed is the last one
    rw [stops.1 fun well => failed (reported well)]
    exact .ending member
  cases does with
  | idle failed => exact traced_same traced rfl rfl (settled failed)
  | @wrote _ part _ partition opened front whole =>
      have held := filled partition opened
      have came : ∃ update ∈ setting.history,
          setting.slave.flash.content partition ++ part <+: update.sent := by
        refine ⟨update, member, ?_⟩
        rw [held, Update.sent, split, joined_append, joined_cons]
        exact (List.prefix_append_right_inj _).mpr (front.trans (List.prefix_append _ _))
      refine traced_touched traced (put_touched came) (fun _ _ => Or.inl)
        (fun timer => Or.inl ⟨timer, rfl⟩) ?_
      by_cases well : write.result = espOk
      · have split' : update.ota.writes = (done ++ [write]) ++ later := by
          rw [split, List.append_assoc]
          rfl
        refine .writing member split' stops.2 ?_
        intro other same
        have one : partition = other := Option.some.inj (opened.symm.trans same)
        change (setting.slave.flash.put partition _).content other = _
        rw [← one, put_content, held, whole (reported well), joined_append, joined_cons]
        exact congrArg _ (List.append_nil _).symm
      · rw [stops.1 well]
        exact .ending member

theorem ended_traced [DecidableEq Partition] (traced : Traced start setting)
    (sound : Sound board setting.slave) (does : Does board setting.slave .ended code after) :
    Traced start { setting with slave := after, pending := [] } := by
  cases does with
  | idle failed => exact traced_same traced rfl rfl .idle
  | closed failed =>
      exact traced_touched traced (fun _ => Or.inl rfl)
        (fun _ _ opened => Or.inl (close_opened opened)) (fun timer => Or.inl ⟨timer, rfl⟩) .idle
  | @chosen _ held partition restartTimer opened update image =>
      refine traced_touched traced (fun _ => Or.inl rfl)
        (fun _ _ opened => Or.inl (close_opened opened)) ?_ .idle
      intro _
      -- every handle of this run of the slave is of the one partition behind the running one
      have one : held = partition :=
        Option.some.inj ((sound.opened _ _ opened).1.symm.trans (sound.update _ update))
      rw [one] at opened
      exact Or.inr (traced.opened _ _ opened)

theorem does_traced [DecidableEq Partition] (traced : Traced start setting)
    (sound : Sound board setting.slave) (pending : setting.pending = asked :: rest)
    (does : Does board setting.slave asked.request code after)
    (heard : asked.result = espOk → code.map (told asked.request) = some espOk) :
    Traced start { setting with slave := after, pending := rest } := by
  have heads := progress_heads (pending ▸ traced.progress)
  cases heads with
  | begun member first =>
      have other : Request.begun ≠ .ended := Request.noConfusion
      exact begun_traced traced member first does fun well => told_well other (heard well)
  | write member split stops filled =>
      have other (bytes : List UInt8) : Request.write bytes ≠ .ended := Request.noConfusion
      exact write_traced traced member split stops filled does
        fun well => told_well (other _) (heard well)
  | ended member => exact ended_traced traced sound does

end Exchange

section Restarts
variable {board : Board Partition} {start slave : Seen Partition}
  {before : Setting (Flash Partition) Partition}

/-- A restart leaves what is in the partitions and forgets the open handles. -/
theorem boots_traced (traced : Traced start before) (boots : Boots board before.slave slave) :
    Traced start { before with slave := slave } := by
  have kept {partition : Partition} : Came before.history slave.flash partition ↔
      Came before.history before.slave.flash partition := by
    rw [Came, boots.content]
    rfl
  refine ⟨?_, ?_, ?_, ?_⟩
  · intro partition
    change slave.flash.content partition = _ ∨ Came before.history slave.flash partition
    rw [kept, boots.content]
    exact traced.origin partition
  · intro handle other opened
    change slave.flash.opened handle = some other at opened
    rw [boots.opened] at opened
    cases opened
  · intro timer
    change slave.restartTimer = true at timer
    rw [boots.timer] at timer
    cases timer
  · have progress := traced.progress
    generalize before.pending = pending at progress
    cases progress with
    | idle => exact .idle
    | unbegun member => exact .unbegun member
    | writing member split stops filled =>
        refine .writing member split stops ?_
        intro other opened
        rw [boots.opened] at opened
        cases opened
    | ending member => exact .ending member

theorem came_later {history : List Update} {flash : Flash Partition} {partition : Partition}
    {update : Update} (came : Came history flash partition) :
    Came (history ++ [update]) flash partition := by
  obtain ⟨earlier, member, front⟩ := came
  exact ⟨earlier, List.mem_append_left _ member, front⟩

theorem begins_sound (begins : Begins board start) : Sound board start where
  opened := by
    intro handle partition opened
    rw [begins.opened] at opened
    cases opened
  update := by
    intro partition update
    rw [begins.update] at update
    cases update
  running := begins.running

theorem begins_traced (begins : Begins board start) : Traced start ⟨start, [], []⟩ where
  origin := fun _ => Or.inl rfl
  opened := by
    intro handle partition opened
    rw [begins.opened] at opened
    cases opened
  timer := by
    intro timer
    rw [begins.timer] at timer
    cases timer
  progress := .idle

theorem heads_fresh {history : List Update} {asked : Asked} {rest : List Asked} (heads : Heads history slave asked rest) :
    ∀ later ∈ rest, later.request ≠ .begun := by
  have tail {writes : List Write} {ota : Ota} :
      ∀ later ∈ writes.map asksWrite ++ asksEnd ota, later.request ≠ .begun := by
    intro later member
    rcases List.mem_append.mp member with write | ended
    · obtain ⟨write, _, same⟩ := List.mem_map.mp write
      rw [← same]
      exact Request.noConfusion
    · obtain ⟨result, _, same⟩ := List.mem_map.mp ended
      rw [← same]
      exact Request.noConfusion
  cases heads with
  | begun member first => exact tail
  | write member split stops filled => exact tail
  | ended member => exact List.forall_mem_nil _

/-- An image that is sent as it is, and of which no front is taken for one. -/
def Sealed (board : Board Partition) (update : Update) : Prop :=
  update.Clean ∧ ∀ part, part <+: update.image → board.valid part = true → part = update.image

theorem came_whole {history : List Update} {flash : Flash Partition} {partition : Partition}
    (came : Came history flash partition) (image : board.valid (flash.content partition) = true)
    (seals : ∀ update ∈ history, Sealed board update) :
    ∃ update ∈ history, flash.content partition = update.image := by
  obtain ⟨update, member, front⟩ := came
  have whole := seals update member
  exact ⟨update, member, whole.2 _ (front.trans (sent_image whole.1)) image⟩

end Restarts

section Steps
variable [DecidableEq Partition] {board : Board Partition} {start : Seen Partition}
  {before after : Setting (Flash Partition) Partition} {act : Act}

/-- What a step can do to what is seen: an update begins, a request is exchanged, or the slave
restarts. -/
inductive Steps (board : Board Partition) (before : Setting (Flash Partition) Partition) :
    Act → Setting (Flash Partition) Partition → Prop where
  | update {update : Update} (idle : before.pending = []) :
      Steps board before (.update update)
        { before with pending := asks update.ota, history := before.history ++ [update] }
  | exchange {fate : Fate} {luck : Luck} {asked : Asked} {rest : List Asked}
      {code : Option Int} {slave : Seen Partition} (pending : before.pending = asked :: rest)
      (does : Does board before.slave asked.request code slave)
      (heard : asked.result = espOk → code.map (told asked.request) = some espOk) :
      Steps board before (.exchange fate luck) { before with slave := slave, pending := rest }
  | restart {slave : Seen Partition} (boots : Boots board before.slave slave) :
      Steps board before .restart { before with slave := slave }

theorem step_steps {sdk : Sdk World Partition} (documented : Documented sdk)
    {before after : Setting World Partition} (taken : step sdk before act = some after) :
    Steps sdk.board (before.seen sdk) act (after.seen sdk) := by
  cases act with
  | update update =>
      rw [step] at taken
      split at taken
      · rename_i idle
        cases taken
        exact @Steps.update _ _ sdk.board (before.seen sdk) _ (List.isEmpty_iff.mp idle.1)
      · cases taken
  | exchange fate luck =>
      rw [step] at taken
      cases pending : before.pending with
      | nil =>
          rw [pending] at taken
          cases taken
      | cons asked rest =>
          rw [pending] at taken
          obtain ⟨slave, exchanged, rfl⟩ := Option.map_eq_some_iff.mp taken
          obtain ⟨code, does, heard⟩ := exchange_does documented exchanged
          exact @Steps.exchange _ _ sdk.board (before.seen sdk) _ _ _ _ _ _ pending does heard
  | restart =>
      rw [step] at taken
      obtain ⟨slave, booted, rfl⟩ := Option.map_eq_some_iff.mp taken
      exact @Steps.restart _ _ sdk.board (before.seen sdk) _ (restart_boots documented booted)

theorem steps_sound (sound : Sound board before.slave) (steps : Steps board before act after) :
    Sound board after.slave := by
  cases steps with
  | update idle => exact sound
  | exchange pending does heard => exact does_sound does sound
  | restart boots => exact boots_sound boots

theorem steps_traced (traced : Traced start before) (sound : Sound board before.slave)
    (steps : Steps board before act after) : Traced start after := by
  cases steps with
  | update idle =>
      exact
        { origin := fun partition => (traced.origin partition).imp_right came_later
          opened := fun handle partition opened =>
            came_later (traced.opened handle partition opened)
          timer := fun timer => came_later (traced.timer timer)
          progress := .unbegun (List.mem_append_right _ List.mem_cons_self) }
  | exchange pending does heard => exact does_traced traced sound pending does heard
  | restart boots => exact boots_traced traced boots

/-- While an update has still to be begun, the slave runs what it has chosen. -/
structure Bootable (board : Board Partition) (setting : Setting (Flash Partition) Partition) :
    Prop where
  image : board.valid (setting.slave.flash.content setting.slave.flash.boot) = true
  shut : setting.slave.flash.opened setting.slave.handle ≠ some setting.slave.flash.boot
  fresh : ∀ asked ∈ setting.pending, asked.request = .begun →
    setting.slave.flash.boot = setting.slave.flash.running

theorem does_bootable {after : Seen Partition} {asked : Asked} {rest : List Asked}
    {code : Option Int} (bootable : Bootable board before)
    (pending : before.pending = asked :: rest) (later : ∀ later ∈ rest, later.request ≠ .begun)
    (does : Does board before.slave asked.request code after) :
    Bootable board { before with slave := after, pending := rest } := by
  have fresh {after : Seen Partition} : ∀ later ∈ rest, later.request = .begun →
      after.flash.boot = after.flash.running :=
    fun other member begun => absurd begun (later other member)
  have untouched {partition : Partition} {bytes : List UInt8}
      (apart : before.slave.flash.boot ≠ partition) :
      board.valid ((before.slave.flash.put partition bytes).content before.slave.flash.boot) =
        true := by
    rw [put_other apart]
    exact bootable.image
  have chosen (begun : asked.request = .begun) :
      before.slave.flash.boot = before.slave.flash.running :=
    bootable.fresh asked (pending ▸ List.mem_cons_self) begun
  generalize same : asked.request = request at does
  cases does with
  | idle failed => exact ⟨bootable.image, bootable.shut, fresh⟩
  | refused failed => exact ⟨bootable.image, bootable.shut, fresh⟩
  | @erased _ partition failed next apart =>
      refine ⟨untouched ?_, bootable.shut, fresh⟩
      rw [chosen same]
      exact apart
  | @begun partition handle next apart =>
      have booted : before.slave.flash.boot ≠ partition := by
        rw [chosen same]
        exact apart
      refine ⟨untouched booted, ?_, fresh⟩
      intro opened
      simp only [Flash.opens, Function.update_self] at opened
      exact booted (Option.some.inj opened).symm
  | @wrote bytes part _ partition opened front whole =>
      refine ⟨untouched ?_, bootable.shut, fresh⟩
      intro one
      exact bootable.shut (opened.trans (congrArg some one.symm))
  | closed failed => exact ⟨bootable.image, close_shut, fresh⟩
  | chosen opened update image => exact ⟨image, close_shut, fresh⟩

theorem steps_bootable (bootable : Bootable board before) (traced : Traced start before)
    (waits : ∀ update, act = .update update →
      before.slave.flash.boot = before.slave.flash.running)
    (steps : Steps board before act after) : Bootable board after := by
  cases steps with
  | @update update idle => exact ⟨bootable.image, bootable.shut, fun _ _ _ => waits update rfl⟩
  | exchange pending does heard =>
      exact does_bootable bootable pending
        (heads_fresh (progress_heads (pending ▸ traced.progress))) does
  -- it runs what was chosen, so it may begin an update again
  | @restart slave boots =>
      obtain ⟨running, boot⟩ := boots.chosen bootable.image
      refine ⟨?_, ?_, fun _ _ _ => boot.trans running.symm⟩
      · change board.valid (slave.flash.content slave.flash.boot) = true
        rw [boots.content, boot]
        exact bootable.image
      · intro same
        rw [boots.opened] at same
        cases same

end Steps

section Runs
variable [DecidableEq Partition] {sdk : Sdk World Partition} {start : Slave World Partition}
  {setting : Setting World Partition} {guard : Setting World Partition → Act → Prop}

/-- An update is begun only after the slave has restarted into the last one. -/
def patient (sdk : Sdk World Partition) (setting : Setting World Partition) : Act → Prop
  | .update _ =>
      (sdk.flash setting.slave.flash).boot = (sdk.flash setting.slave.flash).running
  | .exchange _ _ | .restart => True

omit [DecidableEq Partition] in
theorem patient_waits {act : Act} (allowed : patient sdk setting act) (update : Update)
    (updates : act = .update update) :
    (setting.slave.seen sdk).flash.boot = (setting.slave.seen sdk).flash.running := by
  rw [updates] at allowed
  exact allowed

variable (documented : Documented sdk) (begins : Begins sdk.board (start.seen sdk))
include documented begins

theorem run_sound (run : Run (step sdk) guard ⟨start, [], []⟩ setting) :
    Sound sdk.board (setting.slave.seen sdk) := by
  induction run with
  | refl => exact begins_sound begins
  | @next before after act run allowed taken sound =>
      exact @steps_sound _ _ _ (before.seen sdk) _ _ sound (step_steps documented taken)

theorem run_traced (run : Run (step sdk) guard ⟨start, [], []⟩ setting) :
    Traced (start.seen sdk) (setting.seen sdk) := by
  induction run with
  | refl => exact begins_traced begins
  | @next before after act run allowed taken traced =>
      exact steps_traced traced (run_sound documented begins run) (step_steps documented taken)

theorem run_bootable (run : Run (step sdk) (patient sdk) ⟨start, [], []⟩ setting) :
    Bootable sdk.board (setting.seen sdk) := by
  induction run with
  | refl =>
      refine ⟨?_, ?_, List.forall_mem_nil _⟩
      · change sdk.board.valid ((start.seen sdk).flash.content (start.seen sdk).flash.boot) = true
        rw [begins.boot]
        exact begins.running
      · intro same
        change (start.seen sdk).flash.opened _ = _ at same
        rw [begins.opened] at same
        cases same
  | @next before after act run allowed taken bootable =>
      exact steps_bootable bootable (run_traced documented begins run) (patient_waits allowed)
        (step_steps documented taken)

/-- Whatever is lost, fails or restarts, the slave can always be booted and runs an image, which
is one it had or, if images are sealed, all of one it was sent. If the host waits for the restart
before it updates again, the partition chosen for it holds an image too, and where the slave is
about to restart by itself it is all of one it was sent. -/
theorem updates_never_brick :
    (∀ setting, Run (step sdk) unguarded ⟨start, [], []⟩ setting →
      (∃ next, restart sdk setting.slave = some next) ∧
      sdk.board.valid ((sdk.flash setting.slave.flash).content
        (sdk.flash setting.slave.flash).running) = true ∧
      (∀ partition,
        (sdk.flash setting.slave.flash).content partition =
            (sdk.flash start.flash).content partition ∨
          Came setting.history (sdk.flash setting.slave.flash) partition) ∧
      ((∀ update ∈ setting.history, Sealed sdk.board update) →
        (sdk.flash setting.slave.flash).content (sdk.flash setting.slave.flash).running =
            (sdk.flash start.flash).content (sdk.flash setting.slave.flash).running ∨
          ∃ update ∈ setting.history,
            (sdk.flash setting.slave.flash).content (sdk.flash setting.slave.flash).running =
              update.image)) ∧
    ∀ setting, Run (step sdk) (patient sdk) ⟨start, [], []⟩ setting →
      sdk.board.valid ((sdk.flash setting.slave.flash).content
        (sdk.flash setting.slave.flash).boot) = true ∧
      (∀ next, restart sdk setting.slave = some next →
        (sdk.flash next.flash).running = (sdk.flash setting.slave.flash).boot) ∧
      (setting.slave.restartTimer = true →
        (∀ update ∈ setting.history, Sealed sdk.board update) →
        ∃ update ∈ setting.history,
          (sdk.flash setting.slave.flash).content (sdk.flash setting.slave.flash).boot =
            update.image) := by
  constructor
  · intro setting run
    have sound := run_sound documented begins run
    have traced := run_traced documented begins run
    refine ⟨sound_boots documented sound, sound.running, traced.origin, ?_⟩
    intro seals
    rcases traced.origin (sdk.flash setting.slave.flash).running with same | came
    · exact Or.inl same
    · exact Or.inr (came_whole came sound.running seals)
  · intro setting run
    have bootable := run_bootable documented begins run
    have traced := run_traced documented begins run
    refine ⟨bootable.image, ?_, ?_⟩
    · exact fun next booted => ((restart_boots documented booted).chosen bootable.image).1
    · exact fun timer seals => came_whole (traced.timer timer) bootable.image seals

end Runs

/-- An SDK for two partitions, whose next write is `torn` or goes well. -/
structure Bench where
  flash : Flash Bool
  handles : Nat
  torn : Bool

def Bench.begin_ (bench : Bench) (partition : Bool) : Begun Bench :=
  if bench.flash.running = partition then ⟨0x1501, 0, bench⟩
  else
    ⟨espOk, bench.handles + 1,
      { bench with
        flash := bench.flash.opens (bench.handles + 1) partition
        handles := bench.handles + 1 }⟩

def Bench.write (bench : Bench) (handle : Nat) (bytes : List UInt8) : Int × Bench :=
  match bench.flash.opened handle with
  | none => (0x102, bench)
  | some partition =>
      let written := if bench.torn then bytes.take 1 else bytes
      (if bench.torn then 0x6001 else espOk,
        { bench with
          flash := bench.flash.put partition (bench.flash.content partition ++ written)
          torn := false })

/-- An image is its magic byte and one of two more. -/
def image (bytes : List UInt8) : Bool := bytes = [0xE9, 1] || bytes = [0xE9, 2]

def Bench.end_ (bench : Bench) (handle : Nat) : Int × Bench :=
  match bench.flash.opened handle with
  | none => (0x105, bench)
  | some partition =>
      (if image (bench.flash.content partition) then espOk else 0x1503,
        { bench with flash := bench.flash.close handle })

def Bench.setBoot (bench : Bench) (partition : Option Bool) : Int × Bench :=
  match partition with
  | none => (0x102, bench)
  | some partition =>
      if image (bench.flash.content partition) then
        (espOk, { bench with flash := { bench.flash with boot := partition } })
      else (0x1503, bench)

def Bench.runs (bench : Bench) (partition : Bool) : Bench :=
  { bench with
    flash := { bench.flash with running := partition, opened := fun _ => none }
    handles := 0 }

def Bench.restart (bench : Bench) : Option Bench :=
  if image (bench.flash.content bench.flash.boot) then some (bench.runs bench.flash.boot)
  else if image (bench.flash.content !bench.flash.boot) then some (bench.runs !bench.flash.boot)
  else none

def twoPartitions : Sdk Bench Bool where
  board := { next := fun running => some !running, valid := image }
  otaBegin := Bench.begin_
  otaWrite := Bench.write
  otaEnd := Bench.end_
  otaSetBootPartition := Bench.setBoot
  restart := Bench.restart
  flash := Bench.flash

theorem bench_boots (bench : Bench) :
    (∀ partition, image (bench.flash.content partition) = true →
      ∃ next, bench.restart = some next) ∧
    ∀ next, bench.restart = some next →
      ∃ partition, image (bench.flash.content partition) = true ∧
        (image (bench.flash.content bench.flash.boot) = true → partition = bench.flash.boot) ∧
        next = bench.runs partition := by
  rw [Bench.restart]
  by_cases first : image (bench.flash.content bench.flash.boot) = true
  · rw [if_pos first]
    refine ⟨fun _ _ => ⟨_, rfl⟩, ?_⟩
    rintro _ ⟨⟩
    exact ⟨_, first, fun _ => rfl, rfl⟩
  · rw [if_neg first]
    by_cases second : image (bench.flash.content !bench.flash.boot) = true
    · rw [if_pos second]
      refine ⟨fun _ _ => ⟨_, rfl⟩, ?_⟩
      rintro _ ⟨⟩
      exact ⟨_, second, fun chosen => absurd chosen first, rfl⟩
    · rw [if_neg second]
      refine ⟨?_, ?_⟩
      · intro partition found
        by_cases same : partition = bench.flash.boot
        · exact absurd (same ▸ found) first
        · exact absurd (Bool.eq_not_of_ne same ▸ found) second
      · rintro _ ⟨⟩

theorem bench_documented : Documented twoPartitions where
  begun := by
    intro bench partition well
    simp only [twoPartitions, Bench.begin_] at well ⊢
    split at well
    · cases well
    · rename_i apart
      rw [if_neg apart]
      exact ⟨apart, rfl⟩
  unbegun := by
    intro bench partition failed
    simp only [twoPartitions, Bench.begin_] at failed ⊢
    split at failed
    · rename_i same
      rw [if_pos same]
      exact Or.inl rfl
    · exact absurd rfl failed
  wrote := by
    intro bench handle bytes partition opened
    change bench.flash.opened handle = some partition at opened
    refine ⟨if bench.torn then bytes.take 1 else bytes, ?_, ?_, ?_⟩
    · split
      · exact List.take_prefix _ _
      · exact List.prefix_refl _
    · simp only [twoPartitions, Bench.write, opened]
      cases bench.torn with
      | false => exact fun _ => rfl
      | true => exact fun well => absurd well (by decide)
    · simp only [twoPartitions, Bench.write, opened]
  unopened := by
    intro bench handle bytes closed
    change bench.flash.opened handle = none at closed
    simp only [twoPartitions, Bench.write, closed]
    exact ⟨by decide, trivial⟩
  ended := by
    intro bench handle partition opened
    change bench.flash.opened handle = some partition at opened
    simp only [twoPartitions, Bench.end_, opened]
  unended := by
    intro bench handle closed
    change bench.flash.opened handle = none at closed
    simp only [twoPartitions, Bench.end_, closed]
    exact ⟨by decide, trivial⟩
  chosen := by
    intro bench partition well
    cases partition with
    | none => cases well
    | some partition =>
        simp only [twoPartitions, Bench.setBoot] at well ⊢
        split at well
        · rename_i found
          rw [if_pos found]
          exact ⟨partition, rfl, found, rfl⟩
        · cases well
  unchosen := by
    intro bench partition failed
    cases partition with
    | none => rfl
    | some partition =>
        simp only [twoPartitions, Bench.setBoot] at failed ⊢
        split at failed
        · exact absurd rfl failed
        · rename_i found
          rw [if_neg found]
  restarted := by
    intro bench next booted
    obtain ⟨partition, found, _, rfl⟩ := (bench_boots bench).2 next booted
    exact ⟨rfl, fun _ => rfl, found⟩
  boots := fun bench partition found => (bench_boots bench).1 partition found
  bootsChosen := by
    intro bench next chosen booted
    obtain ⟨partition, _, same, rfl⟩ := (bench_boots bench).2 next booted
    exact ⟨same chosen, rfl⟩

def oldSlave : Slave Bench Bool where
  flash :=
    { flash :=
        { content := fun partition => if partition then [] else [0xE9, 1]
          boot := false
          running := false
          opened := fun _ => none }
      handles := 0
      torn := true }
  handle := 0
  updatePartition := none
  otaMsg := false
  restartTimer := false

/-- An update from a file whose write goes out with the given result. -/
def newFile (result : Int) : Update :=
  .file
    { malloc := true
      fopen := true
      seekEnd := true
      seekSet := true
      image := [0xE9, 2]
      begin_ := espOk
      rounds := [⟨1400, result⟩]
      end_ := espOk
      meter := steadyMeter }

def lucky : Luck := ⟨true, true, true⟩

/-- The first update is torn in its write and ended all the same, and the slave restarts; the
second one goes through. -/
def twoUpdates : List Act :=
  [.update (newFile 0x6001), .exchange .answered lucky, .exchange .answered lucky,
    .exchange .answered lucky, .restart, .update (newFile espOk), .exchange .answered lucky,
    .exchange .answered lucky, .exchange .answered lucky]

theorem oldSlave_begins : Begins twoPartitions.board (oldSlave.seen twoPartitions) where
  opened := fun _ => rfl
  update := rfl
  timer := rfl
  boot := rfl
  running := rfl

theorem updates_never_brick_twice :
    ∃ setting, Run (step twoPartitions) (patient twoPartitions) ⟨oldSlave, [], []⟩ setting ∧
      setting.slave.restartTimer = true ∧
      setting.slave.flash.flash.content setting.slave.flash.flash.boot = [0xE9, 2] ∧
      image (setting.slave.flash.flash.content setting.slave.flash.flash.boot) = true := by
  have waits : Admits (step twoPartitions) (patient twoPartitions) ⟨oldSlave, [], []⟩ twoUpdates :=
    ⟨rfl, trivial, trivial, trivial, trivial, rfl, trivial, trivial, trivial, trivial⟩
  have run := @admitted_run _ _ (step twoPartitions) (patient twoPartitions) ⟨oldSlave, [], []⟩ _
    twoUpdates waits rfl
  exact ⟨_, run, rfl, rfl, ((updates_never_brick bench_documented oldSlave_begins).2 _ run).1⟩

end EspHosted.OtaHistory

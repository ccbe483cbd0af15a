import EspHosted.GuardedRun

/-!
Procedures that are called through messages. A `Method` is how one procedure travels: what the
caller composes, what the callee takes out of it, and the same way back. A `Contract` says what
the callee is called with and what the caller gets. Over every run of calls, whatever becomes of
the messages, the callee is called as the contracts say, at most once for each call and in the
order of the calls. A run has no call that the caller's transport gives up before it is a
request. Nothing here mentions the modelled program.
-/

namespace EspHosted.RemoteCalls
open GuardedRun

/-- The codes a call returns. `noResponse` is what the caller returns when nothing came back. -/
structure Codes (Code : Type) where
  success : Code
  noResponse : Code
  differ : noResponse ≠ success

/-- What the caller makes of a call: a request, a refusal at once, or something that is dropped
where nobody can report it to the caller. -/
inductive Composing (Code Request : Type) where
  | request (request : Request)
  | refuse (code : Code)
  | dropped

/-- What the callee makes of a request. -/
inductive Taking (Code Arg : Type) where
  | call (arg : Arg)
  | refuse (code : Code)
  | broken

structure Method (Code : Type) where
  Arg : Type
  Request : Type
  Given : Type
  Response : Type
  Out : Type
  compose : Arg → Composing Code Request
  take : Request → Taking Code Arg
  give : Arg → Given → Response
  /-- What the caller writes into its variable; `none` when it cannot read the response. -/
  read : Response → Option (Out → Out)
  /-- What a reported failure does to the variable. -/
  spoil : Out → Out
  /-- The caller tests whether a response came. -/
  tested : Bool

variable {Code : Type} {codes : Codes Code}

structure Contract (codes : Codes Code) (method : Method Code) where
  sends : method.Arg → Prop
  sent : method.Arg → method.Arg
  received : method.Arg → method.Given → method.Out → method.Out
  carried : ∀ arg, sends arg →
    ∃ request, method.compose arg = .request request ∧ method.take request = .call (sent arg)
  refused : ∀ arg, ¬ sends arg → method.compose arg = .dropped ∨ ∃ code, code ≠ codes.success ∧
    (method.compose arg = .refuse code ∨
      ∃ request, method.compose arg = .request request ∧ method.take request = .refuse code)
  returned : ∀ arg, sends arg → ∀ given,
    method.read (method.give (sent arg) given) = some (received arg given)

/-- What becomes of the messages of a call that is sent. -/
inductive Fate (codes : Codes Code) where
  | answered
  | failed (executed : Bool) (report : Option { code : Code // code ≠ codes.success })

inductive Ended (Code Out : Type) where
  | returned (code : Code) (out : Out)
  | crashed

/-- What a procedure does to the callee's store. -/
structure Effect (Code Given Store : Type) where
  code : Code
  given : Given
  store : Store

section OneCall
variable {Store : Type}

/-- The caller's end when the answer does not come. -/
def giveUp (method : Method Code) (out : method.Out) :
    Option { code : Code // code ≠ codes.success } → Ended Code method.Out
  | some code => .returned code.1 (method.spoil out)
  | none => if method.tested then .returned codes.noResponse out else .crashed

/-- The callee's end. -/
def serve (method : Method Code) (procedure : method.Arg → Store → Effect Code method.Given Store)
    (request : method.Request) (store : Store) : Store :=
  match method.take request with
  | .call arg => (procedure arg store).store
  | .refuse _ | .broken => store

def answer [DecidableEq Code] (codes : Codes Code) (method : Method Code)
    (procedure : method.Arg → Store → Effect Code method.Given Store) (request : method.Request)
    (out : method.Out) (store : Store) : Ended Code method.Out :=
  match method.take request with
  | .broken => .crashed
  | .refuse code => .returned code (method.spoil out)
  | .call arg =>
      let effect := procedure arg store
      if effect.code = codes.success then
        match method.read (method.give arg effect.given) with
        | some write => .returned codes.success (write out)
        | none => .crashed
      else .returned effect.code (method.spoil out)

def remote [DecidableEq Code] (method : Method Code)
    (procedure : method.Arg → Store → Effect Code method.Given Store) (fate : Fate codes)
    (arg : method.Arg) (out : method.Out) (store : Store) : Option (Ended Code method.Out × Store) :=
  match method.compose arg with
  | .dropped => none
  | .refuse code => some (.returned code out, store)
  | .request request =>
      match fate with
      | .answered =>
          some (answer codes method procedure request out store, serve method procedure request store)
      | .failed executed report =>
          some (giveUp method out report,
            if executed then serve method procedure request store else store)

/-- What a call has to answer for: `store` is the callee's before, and `after` behind it. -/
structure Accounts {method : Method Code} (contract : Contract codes method)
    (procedure : method.Arg → Store → Effect Code method.Given Store) (fate : Fate codes)
    (arg : method.Arg) (out : method.Out) (store : Store) (ended : Ended Code method.Out)
    (after : Store) : Prop where
  once : after = store ∨
    contract.sends arg ∧ after = (procedure (contract.sent arg) store).store
  succeeded : ∀ got, ended = .returned codes.success got → contract.sends arg ∧
    after = (procedure (contract.sent arg) store).store ∧
    (procedure (contract.sent arg) store).code = codes.success ∧
    got = contract.received arg (procedure (contract.sent arg) store).given out
  failed : ∀ code got, ended = .returned code got → code ≠ codes.success →
    got = out ∨ got = method.spoil out
  answered : fate = .answered → contract.sends arg →
    after = (procedure (contract.sent arg) store).store ∧
    ∃ got, ended = .returned (procedure (contract.sent arg) store).code got
  crashed : ended = .crashed → method.tested = false ∧ ∃ executed, fate = .failed executed none

variable {method : Method Code} {contract : Contract codes method}
variable {procedure : method.Arg → Store → Effect Code method.Given Store}
variable {arg : method.Arg} {out : method.Out} {store : Store}

/-- A call that is refused, by either side, touches nothing. -/
theorem accounts_refused {fate : Fate codes} {code : Code} {got : method.Out}
    (refuses : ¬ contract.sends arg) (failed : code ≠ codes.success)
    (kept : got = out ∨ got = method.spoil out) :
    Accounts contract procedure fate arg out store (.returned code got) store where
  once := Or.inl rfl
  succeeded := by
    intro other same
    cases same
    exact absurd rfl failed
  failed := by
    intro other written same _
    cases same
    exact kept
  answered := fun _ sends => absurd sends refuses
  crashed := by
    intro same
    cases same

theorem accounts_given_up {executed : Bool} {after : Store}
    {report : Option { code : Code // code ≠ codes.success }}
    (once : after = store ∨
      contract.sends arg ∧ after = (procedure (contract.sent arg) store).store) :
    Accounts contract procedure (.failed executed report) arg out store
      (giveUp method out report) after where
  once := once
  succeeded := by
    intro got same
    cases report with
    | some code => exact absurd (Ended.returned.inj same).1 code.2
    | none =>
        rw [giveUp] at same
        split at same
        · exact absurd (Ended.returned.inj same).1 codes.differ
        · cases same
  failed := by
    intro code got same _
    cases report with
    | some code =>
        cases same
        exact Or.inr rfl
    | none =>
        rw [giveUp] at same
        split at same
        · exact Or.inl (Ended.returned.inj same).2.symm
        · cases same
  answered := by
    intro same
    cases same
  crashed := by
    intro same
    cases report with
    | some code => cases same
    | none =>
        rw [giveUp] at same
        split at same
        · cases same
        · rename_i untested
          exact ⟨by simpa using untested, executed, rfl⟩

theorem accounts_answered [DecidableEq Code] {request : method.Request} (sends : contract.sends arg)
    (takes : method.take request = .call (contract.sent arg)) :
    Accounts contract procedure .answered arg out store
      (answer codes method procedure request out store) (serve method procedure request store) := by
  have served : serve method procedure request store =
      (procedure (contract.sent arg) store).store := by
    rw [serve, takes]
  rw [served, answer, takes]
  simp only [contract.returned arg sends]
  by_cases well : (procedure (contract.sent arg) store).code = codes.success
  · rw [if_pos well]
    exact
      { once := Or.inr ⟨sends, rfl⟩
        succeeded := by
          intro got same
          cases same
          exact ⟨sends, rfl, well, rfl⟩
        failed := by
          intro code got same wrong
          cases same
          exact absurd rfl wrong
        answered := fun _ _ => ⟨rfl, _, by rw [well]⟩
        crashed := by
          intro same
          cases same }
  · rw [if_neg well]
    exact
      { once := Or.inr ⟨sends, rfl⟩
        succeeded := by
          intro got same
          exact absurd (Ended.returned.inj same).1 well
        failed := by
          intro code got same _
          cases same
          exact Or.inr rfl
        answered := fun _ _ => ⟨rfl, _, rfl⟩
        crashed := by
          intro same
          cases same }

theorem remote_accounts [DecidableEq Code] {fate : Fate codes}
    {done : Ended Code method.Out × Store}
    (called : remote method procedure fate arg out store = some done) :
    Accounts contract procedure fate arg out store done.1 done.2 := by
  rw [remote] at called
  by_cases sends : contract.sends arg
  · obtain ⟨request, composed, takes⟩ := contract.carried arg sends
    rw [composed] at called
    cases fate with
    | answered =>
        cases called
        exact accounts_answered sends takes
    | failed executed report =>
        cases called
        cases executed with
        | false => exact accounts_given_up (Or.inl rfl)
        | true =>
            have served : serve method procedure request store =
                (procedure (contract.sent arg) store).store := by
              rw [serve, takes]
            exact accounts_given_up (Or.inr ⟨sends, served⟩)
  · rcases contract.refused arg sends with
      dropped | ⟨code, wrong, refused | ⟨request, composed, refused⟩⟩
    · rw [dropped] at called
      cases called
    · rw [refused] at called
      cases called
      exact accounts_refused sends wrong (Or.inl rfl)
    · have untouched : serve method procedure request store = store := by
        rw [serve, refused]
      rw [composed] at called
      cases fate with
      | answered =>
          cases called
          simp only [answer, refused, untouched]
          exact accounts_refused sends wrong (Or.inr rfl)
      | failed executed report =>
          cases called
          simp only [untouched, ite_self]
          exact accounts_given_up (Or.inl rfl)

end OneCall

section Runs
variable {Call Store : Type} (codes : Codes Code) (method : Call → Method Code)

structure Entry where
  call : Call
  arg : (method call).Arg
  out : (method call).Out
  fate : Fate codes
  ended : Ended Code (method call).Out

structure Act where
  call : Call
  arg : (method call).Arg
  out : (method call).Out
  fate : Fate codes

/-- The callee's store, the calls so far, and whether the caller is still there. -/
structure Session (Store : Type) where
  store : Store
  log : List (Entry codes method)
  up : Bool

/-- The callee: a procedure for each method. -/
abbrev Callee (Store : Type) : Type :=
  (call : Call) → (method call).Arg → Store → Effect Code (method call).Given Store

variable {codes method}

def Ended.up {Out : Type} : Ended Code Out → Bool
  | .returned _ _ => true
  | .crashed => false

def Ended.well [DecidableEq Code] (codes : Codes Code) {Out : Type} : Ended Code Out → Bool
  | .returned code _ => code = codes.success
  | .crashed => false

def step [DecidableEq Code] (callee : Callee method Store) (session : Session codes method Store)
    (act : Act codes method) : Option (Session codes method Store) :=
  if session.up then
    (remote (method act.call) (callee act.call) act.fate act.arg act.out session.store).map
      fun done =>
        { store := done.2
          log := session.log ++ [⟨act.call, act.arg, act.out, act.fate, done.1⟩]
          up := done.1.up }
  else none

variable (contract : (call : Call) → Contract codes (method call)) (callee : Callee method Store)

/-- Each call of the log accounts for itself, from the store the calls before it left. -/
inductive Explained (start : Store) : List (Entry codes method) → Store → Prop where
  | nil : Explained start [] start
  | snoc {log : List (Entry codes method)} {entry : Entry codes method} {before after : Store}
      (explained : Explained start log before)
      (accounts : Accounts (contract entry.call) (callee entry.call) entry.fate entry.arg entry.out
        before entry.ended after) :
      Explained start (log ++ [entry]) after

/-- The calls as the callee sees them, one after the other. -/
def replay : List (Entry codes method) → Store → Store
  | [], store => store
  | entry :: rest, store =>
      replay rest (callee entry.call ((contract entry.call).sent entry.arg) store).store

variable {contract callee} {start after : Store} {log : List (Entry codes method)}

theorem replay_append (first rest : List (Entry codes method)) (store : Store) :
    replay contract callee (first ++ rest) store =
      replay contract callee rest (replay contract callee first store) := by
  induction first generalizing store with
  | nil => rfl
  | cons entry first ih => exact ih _

theorem run_explained [DecidableEq Code] {session : Session codes method Store}
    (run : Run (step callee) unguarded ⟨start, [], true⟩ session) :
    Explained contract callee start session.log session.store := by
  apply run.invariant
  · exact .nil
  · intro before act next _ explained _ taken
    rw [step] at taken
    split at taken
    · obtain ⟨done, called, rfl⟩ := Option.map_eq_some_iff.mp taken
      exact .snoc explained (remote_accounts called)
    · cases taken

/-- Some of the calls were done, each once and in their order, and among them all that were
reported to have gone well. -/
theorem explained_replay [DecidableEq Code] (explained : Explained contract callee start log after) :
    ∃ done, (log.filter fun entry => entry.ended.well codes).Sublist done ∧ done.Sublist log ∧
      (∀ entry ∈ done, (contract entry.call).sends entry.arg) ∧
      after = replay contract callee done start := by
  induction explained with
  | nil => exact ⟨[], List.Sublist.refl _, List.Sublist.refl _, List.forall_mem_nil _, rfl⟩
  | @snoc log entry before after _ accounts ih =>
      obtain ⟨done, wells, sublist, sends, same⟩ := ih
      have did : ∀ sent : (contract entry.call).sends entry.arg,
          after = (callee entry.call ((contract entry.call).sent entry.arg) before).store →
          ∃ done, ((log ++ [entry]).filter fun entry => entry.ended.well codes).Sublist done ∧
            done.Sublist (log ++ [entry]) ∧
            (∀ entry ∈ done, (contract entry.call).sends entry.arg) ∧
            after = replay contract callee done start := by
        intro sent moved
        refine ⟨done ++ [entry], ?_, sublist.append (List.Sublist.refl _), ?_, ?_⟩
        · rw [List.filter_append]
          exact wells.append List.filter_sublist
        · intro other member
          rcases List.mem_append.mp member with earlier | last
          · exact sends other earlier
          · rw [List.mem_singleton.mp last]
            exact sent
        · rw [replay_append, ← same]
          exact moved
      cases well : entry.ended.well codes with
      | true =>
          cases ended : entry.ended with
          | crashed =>
              rw [ended] at well
              cases well
          | returned code got =>
              rw [ended] at well
              have ok : code = codes.success := of_decide_eq_true well
              rw [ok] at ended
              obtain ⟨sent, moved, _⟩ := accounts.succeeded got ended
              exact did sent moved
      | false =>
          rcases accounts.once with stays | ⟨sent, moved⟩
          · refine ⟨done, ?_, sublist.trans (List.sublist_append_left log [entry]), sends, ?_⟩
            · rw [List.filter_append, List.filter_cons_of_neg (by simp [well]), List.filter_nil,
                List.append_nil]
              exact wells
            · rw [stays, same]
          · exact did sent moved

end Runs

end EspHosted.RemoteCalls

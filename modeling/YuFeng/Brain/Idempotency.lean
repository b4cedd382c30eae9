import Mathlib.Logic.Function.Basic
import YuFeng.Kernel.Rpc
import YuFeng.Library.Lists
import YuFeng.Library.Run
import YuFeng.Library.Text

/-!
# Idempotent calls

A mutating call reserves its key in a row of `idempotency_keys`, runs the
wrapped operation in a transaction of its own, and stores the response in
that transaction.  Each statement on the row is one atomic step; the calls
interleave freely between them.  A reservation older than the limit can be
taken over by another call, also while the first one still runs.
-/

namespace YuFeng.Idempotency

open YuFeng.Library

/-! ## The rows and the calls -/

def idempotencyKeyMaxLen : Nat := 128

def idempotencyPendingTTL : Int := 120000000000

structure Key where
  scope : String
  idemKey : String
  deriving DecidableEq

/-- What an execution commits: the response of the operation, or an error
that it wants stored together with its writes. -/
inductive Outcome where
  | response (body : String)
  | saved (err : RpcError)
  deriving DecidableEq

def Outcome.reply : Outcome → Except RpcError String
  | .response body => .ok body
  | .saved err => .error err

/-- `settled` is `none` while the status code is `pending`. -/
structure KeyRow where
  requestDigest : String
  settled : Option Outcome
  createdAt : Int
  deriving DecidableEq

structure Execution where
  digest : String
  outcome : Outcome
  deriving DecidableEq

/-- The row of one key, and the executions under it that have committed. -/
structure Ledger where
  row : Option KeyRow
  commits : List Execution

inductive Phase where
  | reserving
  | loading
  | takingOver (created : Int)
  | reinserting
  | running
  | inserting (outcome : Outcome)
  | aborting (err : RpcError)
  | answered (reply : Except RpcError String)
  deriving DecidableEq

def Phase.executing : Phase → Bool
  | .running => true
  | .inserting _ => true
  | .aborting _ => true
  | _ => false

structure Caller where
  key : Key
  digest : String
  phase : Phase
  deriving DecidableEq

/-- How the commit of the transaction ends for the call that asked for it. -/
inductive Fate where
  | committed
  | unacknowledged (err : RpcError)
  | rolledBack (err : RpcError)
  deriving DecidableEq

/-- One statement of a call on the database, with what the call cannot
choose: the clock, the outcome of the operation, a fault. -/
inductive Act where
  | reserve (now : Int)
  | load (now : Int)
  | takeover
  | reinsert (now : Int)
  | store (outcome : Outcome) (fate : Fate)
  | insert (now : Int) (fate : Fate)
  | fail (err : RpcError)
  | abort
  | quit (err : RpcError)
  deriving DecidableEq

/-! ## The statements -/

def inFlight : RpcError := ⟨.aborted, "idempotency key in flight"⟩

def keyReused : RpcError := ⟨.failedPrecondition, "idempotency key reused with different request"⟩

/-- `INSERT … ON CONFLICT DO NOTHING` of a pending row, and what follows
when a row was there already. -/
def insertPending (ledger : Ledger) (digest : String) (now : Int)
    (conflict : Phase) : Ledger × Phase :=
  match ledger.row with
  | none => ({ ledger with row := some ⟨digest, none, now⟩ }, .running)
  | some _ => (ledger, conflict)

def loaded (row : Option KeyRow) (digest : String) (now : Int) : Phase :=
  match row with
  | none => .answered (.error inFlight)
  | some r =>
    if r.requestDigest ≠ digest then .answered (.error keyReused)
    else
      match r.settled with
      | some outcome => .answered outcome.reply
      | none =>
        if now - r.createdAt > idempotencyPendingTTL then
          .takingOver r.createdAt
        else .answered (.error inFlight)

def reservedAt (row : Option KeyRow) (created : Int) : Bool :=
  match row with
  | none => false
  | some r => r.settled.isNone && r.createdAt == created

def commit (ledger : Ledger) (row : KeyRow) (execution : Execution) : Fate → Ledger × Phase
  | .committed =>
    (⟨some row, ledger.commits ++ [execution]⟩, .answered execution.outcome.reply)
  | .unacknowledged err =>
    (⟨some row, ledger.commits ++ [execution]⟩, .aborting err)
  | .rolledBack err => (ledger, .aborting err)

def abortIdempotency (ledger : Ledger) : Ledger :=
  match ledger.row with
  | some r => if r.settled.isNone then { ledger with row := none } else ledger
  | none => ledger

/-- The next statement of one call.  `idempotentProto` is the order of the
phases: `reserveIdempotency` down to `reinserting`, then the operation, then
`storeIdempotencyDB`, whose update does not look at the status. -/
def advance (ledger : Ledger) (digest : String) : Act → Phase → Ledger × Phase
  | .reserve now, .reserving => insertPending ledger digest now .loading
  | .load now, .loading => (ledger, loaded ledger.row digest now)
  | .takeover, .takingOver created =>
    if reservedAt ledger.row created then
      ({ ledger with row := none }, .reinserting)
    else (ledger, .answered (.error inFlight))
  | .reinsert now, .reinserting =>
    insertPending ledger digest now (.answered (.error inFlight))
  | .store outcome fate, .running =>
    match ledger.row with
    | some r =>
      commit ledger ⟨digest, some outcome, r.createdAt⟩ ⟨digest, outcome⟩ fate
    | none => (ledger, .inserting outcome)
  | .insert now fate, .inserting outcome =>
    -- a row that came in between keeps its place, and the writes commit
    commit ledger (ledger.row.getD ⟨digest, some outcome, now⟩) ⟨digest, outcome⟩ fate
  | .fail err, .running => (ledger, .aborting err)
  | .abort, .aborting err => (abortIdempotency ledger, .answered (.error err))
  | .quit _, .answered reply => (ledger, .answered reply)
  | .quit err, _ => (ledger, .answered (.error err))
  | _, phase => (ledger, phase)

/-! ## Interleavings -/

structure World where
  ledgers : Key → Ledger
  callers : List Caller

def World.empty : World where
  ledgers := fun _ => ⟨none, []⟩
  callers := []

inductive Op where
  | call (scope header request : String)
  | act (caller : Nat) (act : Act)
  deriving DecidableEq

section Runs

variable (sha256 : String → String)

def requestDigest (tool args idem : String) : String :=
  sha256 (tool ++ "\n" ++ args ++ "\n" ++ idem)

def requireIdempotencyKey (header : String) : Except RpcError String := do
  let key := trimSpace header
  require (key ≠ "") .invalidArgument "idempotency-key is required"
  require (key.utf8ByteSize ≤ idempotencyKeyMaxLen) .invalidArgument
    "idempotency-key exceeds 128 characters"
  return key

def beginIdempotentProto (scope header request : String) : Caller :=
  match requireIdempotencyKey header with
  | .error err => ⟨⟨scope, header⟩, "", .answered (.error err)⟩
  | .ok key => ⟨⟨scope, key⟩, requestDigest sha256 scope request key, .reserving⟩

def idempotencyStep (w : World) : Op → World
  | .call scope header request =>
    { w with
      callers := w.callers ++ [beginIdempotentProto sha256 scope header request] }
  | .act i act =>
    match w.callers[i]? with
    | none => w
    | some c =>
      let moved := advance (w.ledgers c.key) c.digest act c.phase
      { ledgers := Function.update w.ledgers c.key moved.1
        callers := w.callers.set i { c with phase := moved.2 } }

def deletesReservation (w : World) (c : Caller) (act : Act) : Bool :=
  match act, c.phase with
  | .takeover, .takingOver created => reservedAt (w.ledgers c.key).row created
  | _, _ => false

def Idle (w : World) (key : Key) : Prop := ∀ c ∈ w.callers, c.key = key → c.phase.executing = false

instance (w : World) (key : Key) : Decidable (Idle w key) :=
  inferInstanceAs (Decidable (∀ c ∈ w.callers, _ → _))

/-- A reservation is taken over only when no call of its key is executing
any more. -/
def Abandoned (w : World) : Op → Prop
  | .call _ _ _ => True
  | .act i act =>
    ∀ c ∈ w.callers[i]?, deletesReservation w c act = true → Idle w c.key

instance instDecidableAbandoned (w : World) :
    ∀ op, Decidable (Abandoned w op)
  | .call _ _ _ => inferInstanceAs (Decidable True)
  | .act i act =>
    inferInstanceAs (Decidable (∀ c ∈ w.callers[i]?,
      deletesReservation w c act = true → Idle w c.key))

end Runs

/-! ## The stages of a key -/

/-- A key is free, reserved by one call, or settled by one execution. -/
inductive Stage where
  | free
  | reserved (holder : Nat)
  | done (execution : Execution)

def Stage.Holds : Stage → Ledger → Prop
  | .free, ledger => ledger = ⟨none, []⟩
  | .reserved _, ledger =>
    ∃ digest created, ledger = ⟨some ⟨digest, none, created⟩, []⟩
  | .done e, ledger =>
    ∃ created, ledger = ⟨some ⟨e.digest, some e.outcome, created⟩, [e]⟩

def Stage.Allows (stage : Stage) (i : Nat) (digest : String) : Phase → Prop
  | .running => stage = .reserved i
  | .inserting _ => False
  | .aborting _ => stage = .reserved i ∨ ∃ e, stage = .done e
  | .answered (.ok body) => stage = .done ⟨digest, .response body⟩
  | _ => True

/-- How the stage changes when the call number `i` takes a step. -/
inductive Stage.Next (i : Nat) (idle : Prop) : Stage → Stage → Prop where
  | same (stage : Stage) : Next i idle stage stage
  | reserve : Next i idle .free (.reserved i)
  | settle (e : Execution) : Next i idle (.reserved i) (.done e)
  | release : Next i idle (.reserved i) .free
  | abandon (holder : Nat) (h : idle) : Next i idle (.reserved holder) .free

theorem Stage.Next.allows {i j stage stage'} {idle : Prop} {digest phase}
    (next : Stage.Next i idle stage stage') (other : i ≠ j) (quiet : idle → phase.executing = false)
    (h : stage.Allows j digest phase) : stage'.Allows j digest phase := by
  cases next with
  | same => exact h
  | reserve | settle | release =>
    cases phase with
    | answered reply => cases reply <;> simp_all [Stage.Allows]
    | _ => simp_all [Stage.Allows]
  | abandon _ abandoned =>
    have still := quiet abandoned
    cases phase with
    | answered reply => cases reply <;> simp_all [Stage.Allows]
    | _ => simp_all [Stage.Allows, Phase.executing]

def Moves (i : Nat) (digest : String) (idle : Prop) (stage : Stage)
    (moved : Ledger × Phase) : Prop :=
  ∃ stage', Stage.Next i idle stage stage' ∧ stage'.Holds moved.1 ∧ stage'.Allows i digest moved.2

section Steps

variable {i : Nat} {digest : String} {idle : Prop} {stage : Stage} {ledger : Ledger}

theorem moves_same {phase} (holds : stage.Holds ledger) (allowed : stage.Allows i digest phase) :
    Moves i digest idle stage (ledger, phase) :=
  ⟨stage, .same stage, holds, allowed⟩

section

variable (holds : stage.Holds ledger)

include holds

theorem insertPending_moves {now conflict} (allowed : stage.Allows i digest conflict) :
    Moves i digest idle stage (insertPending ledger digest now conflict) := by
  cases stage with
  | free =>
    cases holds
    exact ⟨.reserved i, .reserve, ⟨digest, now, rfl⟩, rfl⟩
  | reserved =>
    obtain ⟨owner, created, rfl⟩ := holds
    exact moves_same ⟨owner, created, rfl⟩ allowed
  | done =>
    obtain ⟨created, rfl⟩ := holds
    exact moves_same ⟨created, rfl⟩ allowed

theorem loaded_allowed {now} : stage.Allows i digest (loaded ledger.row digest now) := by
  cases stage with
  | free =>
    cases holds
    trivial
  | reserved =>
    obtain ⟨_, _, rfl⟩ := holds
    simp only [loaded]
    split
    · trivial
    · split <;> trivial
  | done e =>
    obtain ⟨_, rfl⟩ := holds
    simp only [loaded]
    split
    · trivial
    next same =>
      obtain ⟨owner, outcome⟩ := e
      cases outcome with
      | saved => trivial
      | response =>
        have owned : owner = digest := not_not.mp same
        rw [owned]
        rfl

theorem takeover_moves {created} (abandoned : reservedAt ledger.row created = true → idle) :
    Moves i digest idle stage (advance ledger digest .takeover (.takingOver created)) := by
  simp only [advance]
  by_cases expired : reservedAt ledger.row created = true
  · rw [if_pos expired]
    cases stage with
    | free =>
      cases holds
      contradiction
    | reserved holder =>
      obtain ⟨_, _, rfl⟩ := holds
      exact ⟨.free, .abandon holder (abandoned expired), rfl, trivial⟩
    | done =>
      obtain ⟨_, rfl⟩ := holds
      contradiction
  · rw [if_neg expired]
    exact moves_same holds trivial

theorem store_moves {outcome fate} (running : stage = .reserved i) :
    Moves i digest idle stage (advance ledger digest (.store outcome fate) .running) := by
  cases running
  obtain ⟨owner, created, rfl⟩ := holds
  have settled : (Stage.done ⟨digest, outcome⟩).Holds
      ⟨some ⟨digest, some outcome, created⟩, [⟨digest, outcome⟩]⟩ :=
    ⟨created, rfl⟩
  cases fate with
  | committed =>
    refine ⟨.done ⟨digest, outcome⟩, .settle _, settled, ?_⟩
    cases outcome with
    | response => rfl
    | saved => trivial
  | unacknowledged =>
    exact ⟨.done ⟨digest, outcome⟩, .settle _, settled, .inr ⟨_, rfl⟩⟩
  | rolledBack => exact moves_same ⟨owner, created, rfl⟩ (.inl rfl)

theorem abort_moves {err} (aborting : stage = .reserved i ∨ ∃ e, stage = .done e) :
    Moves i digest idle stage (abortIdempotency ledger, .answered (.error err)) := by
  obtain rfl | ⟨_, rfl⟩ := aborting
  · obtain ⟨_, _, rfl⟩ := holds
    exact ⟨.free, .release, rfl, trivial⟩
  · obtain ⟨created, rfl⟩ := holds
    exact moves_same ⟨created, rfl⟩ trivial

end

theorem advance_moves (act phase) (holds : stage.Holds ledger)
    (allowed : stage.Allows i digest phase)
    (abandoned : ∀ created, act = .takeover → phase = .takingOver created →
      reservedAt ledger.row created = true → idle) :
    Moves i digest idle stage (advance ledger digest act phase) := by
  unfold advance
  split
  · exact insertPending_moves holds trivial
  · exact moves_same holds (loaded_allowed holds)
  · exact takeover_moves holds (abandoned _ rfl rfl)
  · exact insertPending_moves holds trivial
  · exact store_moves holds allowed
  · cases allowed
  · exact moves_same holds (.inl allowed)
  · exact abort_moves holds allowed
  · exact moves_same holds allowed
  · exact moves_same holds trivial
  · exact moves_same holds allowed

end Steps

/-! ## Whole runs -/

structure InStage (key : Key) (stage : Stage) (w : World) : Prop where
  ledger : stage.Holds (w.ledgers key)
  callers : ∀ i c, w.callers[i]? = some c → c.key = key → stage.Allows i c.digest c.phase

section Runs

variable (sha256 : String → String) {key : Key} {stage : Stage} {w : World}

theorem beginIdempotentProto_allowed (scope header request) (stage : Stage) (i) :
    stage.Allows i (beginIdempotentProto sha256 scope header request).digest
      (beginIdempotentProto sha256 scope header request).phase := by
  unfold beginIdempotentProto
  split <;> trivial

theorem call_inStage (scope header request) (h : InStage key stage w) :
    InStage key stage (idempotencyStep sha256 w (.call scope header request)) := by
  constructor
  · exact h.ledger
  · intro i c found same
    simp only [idempotencyStep] at found
    obtain before | rfl := getElem?_concat_cases found
    · exact h.callers i c before same
    · exact beginIdempotentProto_allowed sha256 scope header request stage i

theorem other_inStage {i} {c c' : Caller} {ledger} (h : InStage key stage w) (same : c'.key = c.key)
    (other : c.key ≠ key) :
    InStage key stage ⟨Function.update w.ledgers c.key ledger, w.callers.set i c'⟩ := by
  constructor
  · dsimp only
    rw [Function.update_of_ne other.symm]
    exact h.ledger
  · intro j d found owned
    obtain ⟨rfl, rfl⟩ | ⟨_, found⟩ := getElem?_set_cases found
    · exact absurd (same.symm.trans owned) other
    · exact h.callers j d found owned

theorem own_inStage {i} {c : Caller} {moved : Ledger × Phase} (h : InStage c.key stage w)
    (moves : Moves i c.digest (Idle w c.key) stage moved) :
    ∃ stage', InStage c.key stage' ⟨Function.update w.ledgers c.key moved.1,
        w.callers.set i { c with phase := moved.2 }⟩ := by
  obtain ⟨stage', next, holds, allowed⟩ := moves
  refine ⟨stage', ?_, ?_⟩
  · dsimp only
    rw [Function.update_self]
    exact holds
  · intro j d found owned
    obtain ⟨rfl, rfl⟩ | ⟨apart, found⟩ := getElem?_set_cases found
    · exact allowed
    · have quiet : Idle w c.key → d.phase.executing = false :=
        fun idle => idle d (List.mem_of_getElem? found) owned
      exact next.allows apart quiet (h.callers j d found owned)

theorem act_inStage {i act} (abandoned : Abandoned w (.act i act)) (h : InStage key stage w) :
    ∃ stage', InStage key stage' (idempotencyStep sha256 w (.act i act)) := by
  cases found : w.callers[i]? with
  | none =>
    refine ⟨stage, ?_⟩
    simp only [idempotencyStep, found]
    exact h
  | some c =>
    simp only [idempotencyStep, found]
    by_cases owned : c.key = key
    · subst owned
      apply own_inStage h
      apply advance_moves act c.phase h.ledger (h.callers i c found rfl)
      rintro _ rfl phase expired
      have deletes : deletesReservation w c .takeover = true := by
        simp only [deletesReservation, phase]
        exact expired
      exact abandoned c found deletes
    · exact ⟨stage, other_inStage h rfl owned⟩

theorem step_inStage (key w op) (abandoned : Abandoned w op) (h : ∃ stage, InStage key stage w) :
    ∃ stage, InStage key stage (idempotencyStep sha256 w op) := by
  obtain ⟨stage, h⟩ := h
  cases op with
  | call scope header request =>
    exact ⟨stage, call_inStage sha256 scope header request h⟩
  | act => exact act_inStage sha256 abandoned h

theorem empty_inStage (key : Key) : InStage key .free World.empty := by
  constructor
  · rfl
  · nofun

theorem InStage.commits_le_one (h : InStage key stage w) : (w.ledgers key).commits.length ≤ 1 := by
  have holds := h.ledger
  cases stage with
  | free => simp [show w.ledgers key = _ from holds]
  | reserved =>
    obtain ⟨_, _, ledger⟩ := holds
    simp [ledger]
  | done =>
    obtain ⟨_, ledger⟩ := holds
    simp [ledger]

theorem InStage.success (h : InStage key stage w) {c body} (member : c ∈ w.callers)
    (owned : c.key = key) (answer : c.phase = .answered (.ok body)) :
    (w.ledgers key).commits = [⟨c.digest, .response body⟩] := by
  obtain ⟨i, found⟩ := List.getElem?_of_mem member
  have allowed := h.callers i c found owned
  rw [answer] at allowed
  have done : stage = .done ⟨c.digest, .response body⟩ := allowed
  subst done
  obtain ⟨_, ledger⟩ := h.ledger
  rw [ledger]

/-- Under every key at most one execution commits, and every call that is
answered with a response is answered with that of this execution, as long as
no reservation is taken over from a call that still executes. -/
theorem executes_once (ops : List Op) (key : Key)
    (h : Meets (idempotencyStep sha256) Abandoned World.empty ops) :
    ((run (idempotencyStep sha256) World.empty ops).ledgers key).commits.length ≤ 1 ∧
      ∀ c ∈ (run (idempotencyStep sha256) World.empty ops).callers,
        c.key = key → ∀ body, c.phase = .answered (.ok body) →
          ((run (idempotencyStep sha256) World.empty ops).ledgers
            key).commits = [⟨c.digest, .response body⟩] := by
  obtain ⟨_, reached⟩ := run_invariant (idempotencyStep sha256) Abandoned
    (fun w => ∃ stage, InStage key stage w) (step_inStage sha256 key) h
    ⟨.free, empty_inStage key⟩
  constructor
  · exact reached.commits_le_one
  · intro _ member owned _ answer
    exact reached.success member owned answer

end Runs

/-! ## A slow call that is taken over -/

def approval : List Op := [.call "approve" "k-1" "\x7b\x7d", .act 0 (.reserve 0)]

def secondCall : List Op :=
  [.call "approve" "k-1" "\x7b\x7d", .act 1 (.reserve 200000000000),
    .act 1 (.load 200000000000), .act 1 .takeover, .act 1 (.reinsert 200000000000)]

def respond (i : Nat) (body : String) : Op := .act i (.store (.response body) .committed)

theorem executes_once_after_crash : Meets (idempotencyStep id) Abandoned World.empty
      (approval ++ [.act 0 (.quit inFlight)] ++ secondCall ++ [respond 1 "b"]) ∧
      ((run (idempotencyStep id) World.empty (approval ++ [.act 0 (.quit inFlight)] ++ secondCall ++
          [respond 1 "b"])).ledgers ⟨"approve", "k-1"⟩).commits.length ≤ 1 := by
  have meets : Meets (idempotencyStep id) Abandoned World.empty
      (approval ++ [.act 0 (.quit inFlight)] ++ secondCall ++ [respond 1 "b"]) := by
    decide +kernel
  exact ⟨meets, (executes_once id _ ⟨"approve", "k-1"⟩ meets).1⟩

/-- Both executions commit, and each call gets its own response. -/
theorem executes_twice_after_takeover : ((run (idempotencyStep id) World.empty
        (approval ++ secondCall ++ [respond 1 "b", respond 0 "a"])).ledgers
          ⟨"approve", "k-1"⟩).commits =
        [⟨requestDigest id "approve" "\x7b\x7d" "k-1", .response "b"⟩,
          ⟨requestDigest id "approve" "\x7b\x7d" "k-1", .response "a"⟩] ∧
      (run (idempotencyStep id) World.empty
        (approval ++ secondCall ++ [respond 1 "b", respond 0 "a"])).callers.map
          (·.phase) = [.answered (.ok "a"), .answered (.ok "b")] := by
  decide +kernel

end YuFeng.Idempotency

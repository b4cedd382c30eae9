import Mathlib.Data.List.Sort
import YuFeng.Library.Run
import YuFeng.Library.Table
import YuFeng.Saga.Transitions

/-!
# How runs end

A run ends through its worker, through a user, when its deadline passes, or
when the brain starts again and has lost the evidence of an investigation.
Only the worker's `FailWork` asks whether the saga is settled, and not for
investigations.

The budgets, the tokens, the turn and the error text that a run closes with
are not part of the model; a transaction that fails on them changes nothing.
-/

namespace YuFeng.Saga

open YuFeng.Library

variable {saga saga' : RunSaga} {now : Int} {lease : LeaseRef}

/-! ## Runs with deadlines and leases -/

structure Lease where
  id : String
  worker : String
  epoch : Int
  deadline : Int
  deriving DecidableEq

structure TimedRun where
  run : BrainRun
  deadline : Option Int
  lease : Option Lease
  leaseEpoch : Int
  /-- The work item carries the ticket of an event. -/
  investigationEvent : Bool
  /-- The work item belongs to an investigation case. -/
  investigationCase : Bool
  deriving DecidableEq

def created (deadline : Option Int) (event case' : Bool) : TimedRun where
  run := createdRun
  deadline := deadline
  lease := none
  leaseEpoch := 0
  investigationEvent := event
  investigationCase := case'

def TimedRun.investigation (r : TimedRun) : Bool := r.investigationEvent || r.investigationCase

def TimedRun.overdue (r : TimedRun) (now : Int) : Bool := r.deadline.any (· ≤ now)

structure LeaseRef where
  id : String
  worker : String
  epoch : Int
  deriving DecidableEq

def TimedRun.holds (r : TimedRun) (lease : LeaseRef) (now : Int) : Bool :=
  r.run.work = .live && r.lease.any fun held =>
    held.id = lease.id && held.worker = lease.worker &&
      held.epoch = lease.epoch && now < held.deadline

def notLeased : RpcError := ⟨.failedPrecondition, "work item is not leased to this lease"⟩

def deadlineExceeded : RpcError := ⟨.resourceExhausted, "run execution deadline exceeded"⟩

def instrLeaseTTL : Int := 15 * 60 * 1000000000

def closeWork (work : WorkStatus) (status : WorkStatus) : WorkStatus :=
  if work = .live then status else work

def TimedRun.due (r : TimedRun) (now : Int) : Bool := !isRunTerminal r.run.status && r.overdue now

def expireRunDeadline (r : TimedRun) (now : Int) : TimedRun :=
  if r.due now then
    { r with run := ⟨r.run.saga, .failed, closeWork r.run.work .failed⟩ }
  else r

def leaseWork (r : TimedRun) (worker id : String) (now : Int) : TimedRun :=
  if r.run.work = .live && r.lease.all (·.deadline < now) &&
      !isRunTerminal r.run.status && !r.overdue now then
    { r with
      lease := some ⟨id, worker, r.leaseEpoch + 1, now + instrLeaseTTL⟩
      leaseEpoch := r.leaseEpoch + 1 }
  else r

def extendLease (r : TimedRun) (lease : LeaseRef) (now : Int) : TimedRun × Option RpcError :=
  if !r.holds lease now then
    (r, some ⟨.failedPrecondition, "work item lease is expired or not held"⟩)
  else if r.overdue now then
    (expireRunDeadline r now, some deadlineExceeded)
  else
    ({ r with
      lease := r.lease.map ({ · with deadline := now + instrLeaseTTL }) }, none)

def progressWork (D : Digests) (r : TimedRun) (lease : LeaseRef) (now : Int)
    (progress : SagaProgress) : TimedRun × Option RpcError :=
  if !r.holds lease now then (r, some notLeased)
  else
    match reportProgress D r.run progress with
    | .error err => (r, some err)
    | .ok run => ({ r with run := run }, none)

def cancelTimed (r : TimedRun) (hasModelEffects : Bool) : TimedRun :=
  { r with run := cancelRun r.run hasModelEffects }

/-- The transaction of `CompleteWork`.  `accepted` is the answer of the
checks on the receipt of an investigation. -/
def completeTimed (r : TimedRun) (lease : LeaseRef) (now : Int)
    (accepted : Except RpcError Unit) : TimedRun × Option RpcError :=
  if r.due now then (expireRunDeadline r now, some deadlineExceeded)
  else if r.overdue now then (r, some deadlineExceeded)
  else if !r.holds lease now then (r, some notLeased)
  else if r.investigation then
    match accepted with
    | .error err => (r, some err)
    | .ok _ =>
      ({ r with
        run := ⟨{ r.run.saga with state := .ready }, .succeeded, .succeeded⟩ }, none)
  else
    match completeWork r.run with
    | .error err => (r, some err)
    | .ok run => ({ r with run := run }, none)

def failInvestigation (run : BrainRun) : BrainRun :=
  if run.saga.cancelRequested then
    ⟨{ run.saga with state := .compensated }, .cancelled, .cancelled⟩
  else ⟨{ run.saga with state := .compensated }, .failed, .failed⟩

def failTimed (r : TimedRun) (lease : LeaseRef) (now : Int) : TimedRun × Option RpcError :=
  if r.due now then (expireRunDeadline r now, none)
  else if r.overdue now then (r, some deadlineExceeded)
  else if !r.holds lease now then (r, some notLeased)
  else if r.investigation then
    ({ r with run := failInvestigation r.run }, none)
  else
    match failWork r.run with
    | .error err => (r, some err)
    | .ok run => ({ r with run := run }, none)

/-- `ResetSensitiveEvidenceRequests`, for a run of a case whose evidence the
brain has lost. -/
def resetEvidence (r : TimedRun) : TimedRun :=
  if r.investigationCase && r.run.status = .active then
    { r with
      run := ⟨r.run.saga, .failed, closeWork r.run.work .failed⟩
      lease := none }
  else r

/-- The start of the brain finds a model call of the run interrupted. -/
def recoverModel (r : TimedRun) : TimedRun :=
  { r with
    run := ⟨{ r.run.saga with state := .outcomeUnknown }, .outcomeUnknown,
      closeWork r.run.work .failed⟩
    lease := none }

inductive RunOp where
  | lease (worker id : String) (now : Int)
  | extend (lease : LeaseRef) (now : Int)
  | progress (lease : LeaseRef) (now : Int) (progress : SagaProgress)
  | cancel (hasModelEffects : Bool)
  | complete (lease : LeaseRef) (now : Int) (accepted : Except RpcError Unit)
  | fail (lease : LeaseRef) (now : Int)
  | expire (now : Int)
  | resetEvidence
  | recoverModel

def runStep (D : Digests) (r : TimedRun) : RunOp → TimedRun
  | .lease worker id now => leaseWork r worker id now
  | .extend lease now => (extendLease r lease now).1
  | .progress lease now progress => (progressWork D r lease now progress).1
  | .cancel hasModelEffects => cancelTimed r hasModelEffects
  | .complete lease now accepted => (completeTimed r lease now accepted).1
  | .fail lease now => (failTimed r lease now).1
  | .expire now => expireRunDeadline r now
  | .resetEvidence => resetEvidence r
  | .recoverModel => recoverModel r

/-! ## Endings without an open effect -/

/-- No step has started an effect that it can compensate and has not, unless
the outcome is unknown. -/
def NoOpenEffect (saga : RunSaga) : Prop :=
  saga.steps.any uncompensated = false ∨ saga.state = .outcomeUnknown

def Ended (status : RunStatus) : Prop := status = .failed ∨ status = .cancelled

def Closable (saga : RunSaga) : Prop := hasSagaEffects saga = false ∨ saga.state = .compensated

def Endable (saga : RunSaga) : Prop := Closable saga ∨ saga.state = .outcomeUnknown

/-- The endings that do not look at the saga find it settled. -/
def EndsSettled (r : TimedRun) : RunOp → Prop
  | .extend _ now => r.due now = true → Endable r.run.saga
  | .complete _ now _ => r.due now = true → Endable r.run.saga
  | .fail _ now =>
    (r.due now = true → Endable r.run.saga) ∧
      (r.due now = false → r.investigation = true → Closable r.run.saga)
  | .expire now => r.due now = true → Endable r.run.saga
  | .resetEvidence => r.investigationCase = true → Endable r.run.saga
  | _ => True

structure Orderly (r : TimedRun) : Prop where
  unplanned : r.run.saga.planDigest = "" → r.run.saga.steps = []
  compensated : r.run.saga.state = .compensated → r.run.saga.steps.any uncompensated = false
  ended : Ended r.run.status → NoOpenEffect r.run.saga
  closed : isRunTerminal r.run.status = true → r.run.work ≠ .live

theorem no_effect (h : hasSagaEffects saga = false) : saga.steps.any uncompensated = false := by
  simp only [hasSagaEffects, List.any_eq_false, uncompensated] at h ⊢
  intro row member started
  have quiet := h row member
  simp_all

theorem refreshedState_compensated {cancelRequested steps}
    (h : refreshedState cancelRequested steps = .compensated) :
    steps.any uncompensated = false := by
  unfold refreshedState at h
  split_ifs at h <;> simp_all

theorem recordRunSaga_refreshes {receipt} (h : recordRunSaga saga receipt = .ok saga') :
    saga' = saga ∨ saga'.planDigest = saga.planDigest ∧ saga.planDigest ≠ "" ∧
      (saga'.state = .outcomeUnknown ∨
        saga'.state = refreshedState saga.cancelRequested saga'.steps) := by
  rw [recordRunSaga, guard_ok, guard_ok, guard_ok] at h
  obtain ⟨-, -, bound, h⟩ := h
  split at h
  · cases h
    exact .inl rfl
  split at h
  · contradiction
  rw [guard_ok, guard_ok] at h
  obtain ⟨-, -, h⟩ := h
  split at h
  · cases h
    exact .inl rfl
  split at h
  · contradiction
  next action compensation _ =>
    cases h
    refine .inr ⟨by simp, bound, ?_⟩
    rw [commitReceipt_state]
    split
    · exact .inl rfl
    · exact .inr rfl

section Steps

variable {D : Digests} {r : TimedRun}

theorem Endable.noOpenEffect (compensated : saga.state = .compensated →
      saga.steps.any uncompensated = false) (h : Endable saga) :
    NoOpenEffect saga := by
  rcases h with (quiet | done) | unknown
  · exact .inl (no_effect quiet)
  · exact .inl (compensated done)
  · exact .inr unknown

theorem closeWork_ne (work) : closeWork work .failed ≠ .live := by
  cases work <;> decide

theorem Orderly.failed (h : Orderly r) (settled : Endable r.run.saga) (lease) :
    Orderly { r with
      run := ⟨r.run.saga, .failed, closeWork r.run.work .failed⟩
      lease := lease } where
  unplanned := h.unplanned
  compensated := h.compensated
  ended := fun _ => settled.noOpenEffect h.compensated
  closed := fun _ => closeWork_ne r.run.work

theorem expireRunDeadline_orderly (h : Orderly r)
    (settled : r.due now = true → Endable r.run.saga) :
    Orderly (expireRunDeadline r now) := by
  unfold expireRunDeadline
  split_ifs with due
  · exact h.failed (settled due) r.lease
  · exact h

theorem Orderly.leased (h : Orderly r) (lease epoch) :
    Orderly { r with lease := lease, leaseEpoch := epoch } :=
  ⟨h.unplanned, h.compensated, h.ended, h.closed⟩

theorem leaseWork_orderly (h : Orderly r) (worker id now) :
    Orderly (leaseWork r worker id now) := by
  unfold leaseWork
  split_ifs
  · exact h.leased _ _
  · exact h

theorem extendLease_orderly (h : Orderly r) (settled : r.due now = true → Endable r.run.saga) :
    Orderly (extendLease r lease now).1 := by
  unfold extendLease
  split_ifs
  · exact h
  · exact expireRunDeadline_orderly h settled
  · exact h.leased _ r.leaseEpoch

theorem sagaProgress_orderly {progress} (h : sagaProgress D saga progress = .ok saga')
    (unplanned : saga.planDigest = "" → saga.steps = [])
    (compensated : saga.state = .compensated → saga.steps.any uncompensated = false) :
    (saga'.planDigest = "" → saga'.steps = []) ∧ (saga'.state = .compensated →
        saga'.steps.any uncompensated = false) := by
  cases progress with
  | plan =>
    obtain ⟨named, digest, -, ⟨-, -, rfl⟩ | ⟨-, rfl⟩⟩ := bindRunSaga_ok h
    · refine ⟨fun blank => absurd blank named, ?_⟩
      intro state
      cases state
    · exact ⟨unplanned, compensated⟩
  | receipt =>
    rcases recordRunSaga_refreshes h with rfl | ⟨digest, named, state⟩
    · exact ⟨unplanned, compensated⟩
    · refine ⟨fun blank => absurd (digest.symm.trans blank) named, ?_⟩
      intro done
      rcases state with unknown | fresh
      · rw [unknown] at done
        cases done
      · exact refreshedState_compensated (fresh.symm.trans done)

theorem Orderly.live (h : Orderly r) (live : r.run.work = .live) :
    isRunTerminal r.run.status = false := by
  cases terminal : isRunTerminal r.run.status with
  | false => rfl
  | true => exact absurd live (h.closed terminal)

theorem Ended.terminal {status} (h : Ended status) : isRunTerminal status = true := by
  rcases h with rfl | rfl <;> rfl

theorem progressWork_orderly {progress} (h : Orderly r) :
    Orderly (progressWork D r lease now progress).1 := by
  unfold progressWork reportProgress
  split_ifs with held working
  · exact h
  · exact h
  · have open' := h.live (not_not.mp working)
    cases answer : sagaProgress D r.run.saga progress with
    | error => exact h
    | ok =>
      obtain ⟨unplanned, compensated⟩ := sagaProgress_orderly answer h.unplanned h.compensated
      refine ⟨unplanned, compensated, fun ended => ?_, h.closed⟩
      have terminal := ended.terminal
      rw [open'] at terminal
      contradiction

theorem cancelTimed_orderly (h : Orderly r) (hasModelEffects : Bool) :
    Orderly (cancelTimed r hasModelEffects) := by
  unfold cancelTimed cancelRun
  split_ifs with terminal effects live
  · exact h
  · constructor
    · exact h.unplanned
    · nofun
    · rintro (status | status) <;> cases status
    · nofun
  all_goals
    have quiet : hasSagaEffects r.run.saga = false := by simp_all
    constructor
    · exact h.unplanned
    · exact fun _ => no_effect quiet
    · exact fun _ => .inl (no_effect quiet)
    · intro _
      simp_all

theorem ensureRunSagaTerminal_ready
    (h : ensureRunSagaTerminal saga true = .ok saga') : saga' = saga := by
  unfold ensureRunSagaTerminal at h
  rw [if_pos rfl] at h
  split_ifs at h
  cases h
  rfl

theorem completeTimed_orderly {accepted} (h : Orderly r)
    (settled : r.due now = true → Endable r.run.saga) :
    Orderly (completeTimed r lease now accepted).1 := by
  unfold completeTimed
  split_ifs with due late held special
  · exact expireRunDeadline_orderly h settled
  · exact h
  · exact h
  · cases accepted with
    | error => exact h
    | ok =>
      constructor
      · exact h.unplanned
      · nofun
      · rintro (status | status) <;> cases status
      · nofun
  · cases answer : completeWork r.run with
    | error => exact h
    | ok =>
      unfold completeWork at answer
      split_ifs at answer
      cases check : ensureRunSagaTerminal r.run.saga true with
      | error => simp [check] at answer
      | ok =>
        simp only [check, Except.ok.injEq] at answer
        subst answer
        have same := ensureRunSagaTerminal_ready check
        subst same
        constructor
        · exact h.unplanned
        · exact h.compensated
        · rintro (status | status) <;> cases status
        · nofun

theorem ensureRunSagaTerminal_settled (unplanned : saga.planDigest = "" → saga.steps = [])
    (compensated : saga.state = .compensated → saga.steps.any uncompensated = false)
    (h : ensureRunSagaTerminal saga false = .ok saga') :
    saga'.steps = saga.steps ∧ saga'.planDigest = saga.planDigest ∧ (saga'.state = .outcomeUnknown ∨
        saga'.state = .compensated ∧ saga'.steps.any uncompensated = false) := by
  unfold ensureRunSagaTerminal at h
  rw [if_neg (by decide)] at h
  split_ifs at h with bare open'
  · cases h
    simp [unplanned bare.2]
  · cases h
    refine ⟨rfl, rfl, ?_⟩
    by_cases done : saga.state = .compensated
    · exact .inr ⟨done, compensated done⟩
    · exact .inl (by tauto)

theorem Orderly.failWork {run} (h : Orderly r) (answer : Saga.failWork r.run = .ok run) :
    Orderly { r with run := run } := by
  unfold Saga.failWork at answer
  split_ifs at answer
  cases check : ensureRunSagaTerminal r.run.saga false with
  | error => simp [check] at answer
  | ok saga =>
    obtain ⟨steps, digest, state⟩ := ensureRunSagaTerminal_settled h.unplanned h.compensated check
    have unplanned : saga.planDigest = "" → saga.steps = [] := by
      rw [steps, digest]
      exact h.unplanned
    have compensated : saga.state = .compensated → saga.steps.any uncompensated = false := by
      intro done
      rcases state with unknown | ⟨-, closed⟩
      · rw [unknown] at done
        cases done
      · exact closed
    have closed : NoOpenEffect saga := by
      rcases state with unknown | ⟨-, closed⟩
      · exact .inr unknown
      · exact .inl closed
    simp only [check] at answer
    split_ifs at answer
    all_goals
      cases answer
      refine ⟨unplanned, compensated, fun _ => closed, ?_⟩
      intro _ live
      cases live

theorem failTimed_orderly (h : Orderly r) (settled : EndsSettled r (.fail lease now)) :
    Orderly (failTimed r lease now).1 := by
  unfold failTimed
  split_ifs with due late held special
  · exact expireRunDeadline_orderly h settled.1
  · exact h
  · exact h
  · have closed : r.run.saga.steps.any uncompensated = false := by
      rcases settled.2 (by simpa using due) special with quiet | done
      · exact no_effect quiet
      · exact h.compensated done
    unfold failInvestigation
    split_ifs
    all_goals
      constructor
      · exact h.unplanned
      · exact fun _ => closed
      · exact fun _ => .inl closed
      · nofun
  · cases answer : failWork r.run with
    | error => exact h
    | ok => exact h.failWork answer

theorem resetEvidence_orderly (h : Orderly r)
    (settled : r.investigationCase = true → Endable r.run.saga) :
    Orderly (resetEvidence r) := by
  unfold resetEvidence
  split_ifs with lost
  · rw [Bool.and_eq_true] at lost
    exact h.failed (settled lost.1) none
  · exact h

theorem recoverModel_orderly (h : Orderly r) : Orderly (recoverModel r) where
  unplanned := h.unplanned
  compensated := fun state => by cases state
  ended := fun ended => by rcases ended with status | status <;> cases status
  closed := fun _ => closeWork_ne r.run.work

theorem runStep_orderly (r op) (settled : EndsSettled r op) (h : Orderly r) :
    Orderly (runStep D r op) := by
  cases op with
  | lease worker id now => exact leaseWork_orderly h worker id now
  | extend => exact extendLease_orderly h settled
  | progress => exact progressWork_orderly h
  | cancel hasModelEffects => exact cancelTimed_orderly h hasModelEffects
  | complete => exact completeTimed_orderly h settled
  | fail => exact failTimed_orderly h settled
  | expire => exact expireRunDeadline_orderly h settled
  | resetEvidence => exact resetEvidence_orderly h settled
  | recoverModel => exact recoverModel_orderly h

end Steps

theorem created_orderly (deadline event case') : Orderly (created deadline event case') := by
  constructor
  · exact fun _ => rfl
  · nofun
  · rintro (status | status) <;> cases status
  · nofun

/-- A run that has failed or was cancelled has no open effect. -/
theorem ended_without_open_effect (D : Digests) (deadline : Option Int)
    (event case' : Bool) (ops : List RunOp)
    (meets : Meets (runStep D) EndsSettled (created deadline event case') ops) :
    let r := run (runStep D) (created deadline event case') ops
    Ended r.run.status → NoOpenEffect r.run.saga := by
  intro r ended
  have orderly : Orderly r := run_invariant (runStep D) EndsSettled Orderly
    runStep_orderly meets (created_orderly deadline event case')
  exact orderly.ended ended

/-! ## A deadline in the middle of a saga -/

def isolation : SagaStepPlan := ⟨1, "isolate", .never, true, .idempotent⟩

def plainDigests : Digests := ⟨fun _ _ => "00", fun _ _ _ _ _ => "00"⟩

def firstLease : LeaseRef := ⟨"lease-1", "worker-a", 1⟩

def isolating : List RunOp :=
  [.lease "worker-a" "lease-1" 0, .progress firstLease 1
      (.plan ⟨sagaSchemaVersion, [isolation], "sha256:00"⟩),
    .progress firstLease 2 (.receipt ⟨1, "isolate", .actionIntent, "", "", ""⟩),
    .progress firstLease 3 (.receipt ⟨1, "isolate", .actionEffect, "", "", ""⟩)]

def compensating : List RunOp :=
  [.progress firstLease 4 (.receipt ⟨1, "isolate", .actionFailed, "", "", "refused"⟩),
    .progress firstLease 5 (.receipt ⟨1, "isolate", .compensationIntent, "", "", ""⟩),
    .progress firstLease 6 (.receipt ⟨1, "isolate", .compensationEffect, "", "", ""⟩),
    .progress firstLease 7 (.receipt ⟨1, "isolate", .compensated, "", "", ""⟩)]

theorem ended_without_open_effect_compensated :
    let r := run (runStep plainDigests) (created (some 10) false false)
      (isolating ++ compensating ++ [RunOp.expire 10])
    Ended r.run.status ∧ NoOpenEffect r.run.saga := by
  have ended : Ended (run (runStep plainDigests) (created (some 10) false false)
      (isolating ++ compensating ++ [RunOp.expire 10])).run.status :=
    .inl (by decide)
  refine ⟨ended, ?_⟩
  apply ended_without_open_effect plainDigests (some 10) false false
  · refine ⟨trivial, trivial, trivial, trivial, trivial, trivial, trivial, trivial, ?_, trivial⟩
    exact fun _ => .inl (.inr (by decide))
  · exact ended

/-- The deadline passes after the effect has started: the run fails, and the
step stays as it is. -/
theorem ended_with_open_effect_overdue :
    let r := run (runStep plainDigests) (created (some 10) false false)
      (isolating ++ [RunOp.expire 10])
    r.run.status = .failed ∧ r.run.saga.state = .running ∧
      r.run.saga.steps.any uncompensated = true ∧ r.run.work ≠ .live := by
  decide

/-! ## The sweep over all runs -/

/-- The condition of the query.  A run whose outcome is unknown passes it. -/
def TimedRun.selected (r : TimedRun) (now : Int) : Bool :=
  r.run.status ≠ .succeeded && r.run.status ≠ .failed && r.run.status ≠ .cancelled && r.overdue now

/-- The hundred runs with the oldest deadlines. -/
def dueRuns (runs : Table String TimedRun) (now : Int) : List (String × TimedRun) :=
  ((runs.rows.filter (·.2.selected now)).insertionSort fun a b =>
    a.2.deadline.getD 0 ≤ b.2.deadline.getD 0).take 100

def expireRun (now : Int) (swept : Table String TimedRun × Nat) (id : String) :
    Table String TimedRun × Nat :=
  match swept.1.find? id with
  | none => swept
  | some r => (swept.1.set id (expireRunDeadline r now), if r.due now then swept.2 + 1 else swept.2)

def expireDueRuns (runs : Table String TimedRun) (now : Int) : Table String TimedRun × Nat :=
  ((dueRuns runs now).map Prod.fst).foldl (expireRun now) (runs, 0)

section Sweep

variable {runs : Table String TimedRun} {id : String} {r : TimedRun}

theorem expireRun_find? (swept : Table String TimedRun × Nat) (id other) :
    (expireRun now swept id).1.find? other =
      (swept.1.find? other).map fun r => if other = id then expireRunDeadline r now else r := by
  unfold expireRun
  by_cases same : other = id
  · subst same
    cases found : swept.1.find? other <;> simp [found]
  · cases swept.1.find? id <;> simp [same, Table.find?_set_of_ne]

theorem expireRuns_find? (ids : List String) (swept : Table String TimedRun × Nat) (id) :
    (ids.foldl (expireRun now) swept).1.find? id =
      (swept.1.find? id).map fun r => if id ∈ ids then expireRunDeadline r now else r := by
  induction ids generalizing swept with
  | nil => simp
  | cons first rest ih =>
    rw [List.foldl_cons, ih, expireRun_find?, Option.map_map]
    congr 1
    funext r
    by_cases here : id = first
    · -- A run that has expired is terminal, and a second visit leaves it.
      have again : expireRunDeadline (expireRunDeadline r now) now = expireRunDeadline r now := by
        unfold expireRunDeadline
        split_ifs <;> simp_all [TimedRun.due, isRunTerminal]
      simp [here, again]
    · simp [here]

theorem dueRuns_mem (h : (id, r) ∈ dueRuns runs now) :
    runs.find? id = some r ∧ r.overdue now = true := by
  have selected := (List.perm_insertionSort _ _).mem_iff.mp (List.mem_of_mem_take h)
  rw [List.mem_filter, Table.mem_iff_find?, TimedRun.selected, Bool.and_eq_true] at selected
  exact ⟨selected.1, selected.2.2⟩

theorem expireDueRuns_find? (found : runs.find? id = some r) :
    (expireDueRuns runs now).1.find? id =
      some (if (id, r) ∈ dueRuns runs now then expireRunDeadline r now else r) := by
  have picked : id ∈ (dueRuns runs now).map Prod.fst ↔ (id, r) ∈ dueRuns runs now := by
    rw [List.mem_map]
    constructor
    · rintro ⟨⟨_, r'⟩, member, rfl⟩
      obtain rfl : r = r' := Option.mem_unique found (dueRuns_mem member).1
      exact member
    · exact fun member => ⟨_, member, rfl⟩
  rw [expireDueRuns, expireRuns_find?, found, Option.map_some, if_congr picked rfl rfl]

end Sweep

def SomeDue (runs : Table String TimedRun) (now : Int) : Prop :=
  ∃ id r, runs.find? id = some r ∧ r.due now = true

/-- A due run is failed if there is one, and no other run is touched. -/
def SweepsOn (runs : Table String TimedRun) (now : Int) : Prop :=
  (SomeDue runs now → ∃ id r r', runs.find? id = some r ∧ r.due now = true ∧
    (expireDueRuns runs now).1.find? id = some r' ∧ r'.run.status = .failed) ∧
  ∀ id r, runs.find? id = some r → r.due now = false → (expireDueRuns runs now).1.find? id = some r

theorem sweepsOn_iff (runs : Table String TimedRun) (now : Int) :
    SweepsOn runs now ↔ (SomeDue runs now →
      ∃ row ∈ dueRuns runs now, isRunTerminal row.2.run.status = false) := by
  constructor
  · rintro ⟨moves, -⟩ waiting
    obtain ⟨id, r, r', found, due, after, failed⟩ := moves waiting
    rw [TimedRun.due, Bool.and_eq_true, Bool.not_eq_true'] at due
    rw [expireDueRuns_find? found] at after
    split at after
    next member => exact ⟨_, member, due.1⟩
    · cases after
      rw [failed] at due
      cases due.1
  · refine fun picked => ⟨fun waiting => ?_, fun id r found idle => ?_⟩
    · obtain ⟨⟨id, r⟩, member, active⟩ := picked waiting
      obtain ⟨found, overdue⟩ := dueRuns_mem member
      have due : r.due now = true := by simp [TimedRun.due, overdue, active]
      refine ⟨id, r, _, found, due, expireDueRuns_find? found, ?_⟩
      simp [member, expireRunDeadline, due]
    · have kept : expireRunDeadline r now = r := if_neg (by simp [idle])
      rw [expireDueRuns_find? found, kept, ite_self]

/-- A hundred runs with an unknown outcome are older than the one that is due. -/
def stalledRuns : Table String TimedRun where
  rows := (List.range 100).map (fun n => (n.repr, recoverModel (created (some 0) false false))) ++
    [("late", created (some 1) false false)]
  unique := by decide +kernel

theorem stalledRuns_kept : SomeDue stalledRuns 2 ∧ (expireDueRuns stalledRuns 2).2 = 0 ∧
    (expireDueRuns stalledRuns 2).1.rows = stalledRuns.rows ∧ ¬ SweepsOn stalledRuns 2 := by
  have late : SomeDue stalledRuns 2 := ⟨"late", created (some 1) false false, by decide +kernel⟩
  have idle : (expireDueRuns stalledRuns 2).2 = 0 ∧
      (expireDueRuns stalledRuns 2).1.rows = stalledRuns.rows := by decide +kernel
  refine ⟨late, idle.1, idle.2, fun sweeps => ?_⟩
  obtain ⟨_, _, _, found, due, after, failed⟩ := sweeps.1 late
  rw [Table.ext idle.2, found] at after
  cases after
  simp [TimedRun.due, failed, isRunTerminal] at due

end YuFeng.Saga

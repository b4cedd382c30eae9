import YuFeng.Saga.Lifecycle

/-!
# The recoverable executor

`executeRecoverable` walks the steps of a run against the journal kept by the
brain.  Everything outside the executor is an `Environment`: the results of
the step functions, the state of the context at each check, journal calls
that fail before or after they commit, and cancel requests that other clients
commit in between.  An executor that crashes behaves as one whose next journal
call fails, since it returns at once in both cases.
-/

namespace YuFeng.Saga

open YuFeng.Library

/-! ## Snapshots -/

structure SagaStepSnapshot where
  plan : SagaStepPlan
  actionPhase : Option SagaPhase
  compensationPhase : Option SagaPhase
  guardDigest : String
  actionReceiptRef : String
  compensationReceiptRef : String
  error : String
  actionEffectStarted : Bool
  deriving DecidableEq

structure SagaSnapshot where
  state : SagaState
  planDigest : String
  cancelRequested : Bool
  steps : List SagaStepSnapshot
  cause : String
  deriving DecidableEq

def actionPhaseProto : ActionPhase → Option SagaPhase
  | .pending => none
  | .intentRecorded => some .actionIntent
  | .effectStarted => some .actionEffect
  | .succeeded => some .actionSucceeded
  | .failed => some .actionFailed
  | .outcomeUnknown => some .outcomeUnknown

def compensationPhaseProto : CompensationPhase → Option SagaPhase
  | .pending => none
  | .intentRecorded => some .compensationIntent
  | .effectStarted => some .compensationEffect
  | .compensated => some .compensated
  | .failed => some .compensationFailed
  | .outcomeUnknown => some .outcomeUnknown

def stepSnapshot (row : StepRow) : SagaStepSnapshot where
  plan := row.plan
  actionPhase := actionPhaseProto row.actionPhase
  compensationPhase := compensationPhaseProto row.compensationPhase
  guardDigest := row.guardDigest
  actionReceiptRef := row.actionReceiptRef
  compensationReceiptRef := row.compensationReceiptRef
  error := row.error
  actionEffectStarted := row.actionEffectStarted

def loadRunSagaSnapshot (saga : RunSaga) : SagaSnapshot where
  state := saga.state
  planDigest := saga.planDigest
  cancelRequested := saga.cancelRequested
  steps := saga.steps.map stepSnapshot
  cause := saga.cause

def sagaStepAt (snapshot : SagaSnapshot) (index : Nat) (name : String) :
    Except String SagaStepSnapshot :=
  match snapshot.steps[index]? with
  | none => .error "failed_precondition: saga snapshot is incomplete"
  | some step =>
    if step.plan.sequence ≠ index + 1 ∨ step.plan.stepKey ≠ name then
      .error "failed_precondition: saga snapshot step mismatch"
    else
      .ok step

/-! ## Environment and world -/

inductive Fault where
  | none
  | notApplied
  | responseLost
  deriving DecidableEq, Repr

/--
`fault` and `cancels` are indexed by the journal calls of one execution: how
the call goes, and which cancel requests commit right after it (each with its
`hasModelEffects`).  `ctxErr` is the context error seen at a step when the
brain's cancel flag has the given value.  `runErr` and `compensateErr` are the
results of the step functions.
-/
structure Environment where
  fault : Nat → Fault
  cancels : Nat → List Bool
  ctxErr : Nat → Bool → Option String
  runErr : Nat → Option String
  compensateErr : Nat → Option String
  budgets : Budgets

structure Call where
  env : Environment
  steps : List Step
  sandbox : Bool
  limit : ResourceLimit

inductive Effect where
  | action (index : Nat)
  | compensation (index : Nat)
  deriving DecidableEq

inductive Request where
  | progress (progress : SagaProgress)
  | cancel (hasModelEffects : Bool)
  | complete
  | fail
  deriving DecidableEq

structure Commit where
  request : Request
  before : BrainRun
  after : BrainRun
  deriving DecidableEq

/-- The persisted run with all transactions that led to it. -/
structure Session where
  run : BrainRun
  commits : List Commit
  deriving DecidableEq

structure World extends Session where
  calls : Nat
  events : List String
  effects : List Effect
  budgets : Budgets

inductive JournalError where
  | brain (err : RpcError)
  | transport
  deriving DecidableEq

inductive Outcome where
  | completed
  | failed (cause : String)
  | outcomeUnknown
  | invalidPlan (message : String)
  | precondition (message : String)
  | journal (context : String) (err : JournalError)
  | compensationFailed (cause step err : String)
  | compensationUnrecorded (cause : String) (err : JournalError)
  deriving DecidableEq

def Session.commit (s : Session) (request : Request) (after : BrainRun) : Session :=
  ⟨after, s.commits ++ [⟨request, s.run, after⟩]⟩

def Session.cancel (s : Session) (hasModelEffects : Bool) : Session :=
  s.commit (.cancel hasModelEffects) (cancelRun s.run hasModelEffects)

def World.event (w : World) (event : String) : World :=
  { w with events := w.events ++ [event] }

def World.effect (w : World) (effect : Effect) : World :=
  { w with effects := w.effects ++ [effect] }

def delivered (D : Digests) (env : Environment) (progress : SagaProgress)
    (w : World) : Except JournalError SagaSnapshot × Session :=
  match env.fault w.calls, reportProgress D w.run progress with
  | .notApplied, _ => (.error .transport, w.toSession)
  | .responseLost, .error _ => (.error .transport, w.toSession)
  | .responseLost, .ok after =>
    (.error .transport, w.toSession.commit (.progress progress) after)
  | .none, .error err => (.error (.brain err), w.toSession)
  | .none, .ok after =>
    (.ok (loadRunSagaSnapshot after.saga), w.toSession.commit (.progress progress) after)

/-- One journal call: the brain's transaction, its response, later cancels. -/
def exchange (D : Digests) (env : Environment) (progress : SagaProgress)
    (w : World) : Except JournalError SagaSnapshot × World :=
  let result := delivered D env progress w
  (result.1, { w with
    toSession := (env.cancels w.calls).foldl Session.cancel result.2
    calls := w.calls + 1 })

def recordSaga (D : Digests) (env : Environment) (context : String)
    (receipt : SagaReceipt) (w : World) : Except Outcome SagaSnapshot × World :=
  match exchange D env (.receipt receipt) w with
  | (.error err, w) => (.error (.journal context err), w)
  | (.ok snapshot, w) => (.ok snapshot, w)

/-- Record a receipt whose snapshot is not used, where it is needed. -/
def recordWhen (D : Digests) (env : Environment) (needed : Bool)
    (context : String) (receipt : SagaReceipt) (w : World) :
    Option Outcome × World :=
  if needed then
    match recordSaga D env context receipt w with
    | (.error outcome, w) => (some outcome, w)
    | (.ok _, w) => (none, w)
  else
    (none, w)

def markOutcomeUnknown (D : Digests) (env : Environment) (plan : SagaStepPlan)
    (reason : String) (w : World) : Outcome × World :=
  match recordSaga D env "record outcome unknown" {
      sequence := plan.sequence, stepKey := plan.stepKey,
      phase := .outcomeUnknown, error := reason } w with
  | (.error outcome, w) => (outcome, w)
  | (.ok _, w) => (.outcomeUnknown, w)

/-! ## Compensation -/

def callCompensation (D : Digests) (env : Environment) (index : Nat)
    (step : Step) (plan : SagaStepPlan) (cause : String) (w : World) :
    Except Outcome SagaSnapshot × World :=
  let w := (w.event ("compensate:" ++ step.name)).effect (.compensation index)
  match env.compensateErr index with
  | some err =>
    match exchange D env (.receipt {
        sequence := index + 1, stepKey := step.name,
        phase := .compensationFailed, error := err }) w with
    | (.error recordErr, w) =>
      (.error (.compensationUnrecorded cause recordErr), w)
    | (.ok _, w) =>
      if plan.compensationReplay = .never then
        let marked := markOutcomeUnknown D env plan err w
        (.error marked.1, marked.2)
      else
        (.error (.compensationFailed cause step.name err), w)
  | none =>
    recordSaga D env "record compensation settlement" {
      sequence := index + 1, stepKey := step.name, phase := .compensated,
      receiptRef := "ok" } w

/--
Compensate a step whose compensation is open: record the intent and the effect
boundary as far as they are missing, then call it.  An error result is what the
executor returns.
-/
def runCompensation (D : Digests) (env : Environment) (index : Nat)
    (step : Step) (state : SagaStepSnapshot) (cause : String) (w : World) :
    Except Outcome SagaSnapshot × World :=
  match recordWhen D env (state.compensationPhase = none ∨
        state.compensationPhase = some .compensationFailed)
      "record compensation intent" {
        sequence := index + 1, stepKey := step.name,
        phase := .compensationIntent } w with
  | (some outcome, w) => (.error outcome, w)
  | (none, w) =>
    match recordWhen D env (state.compensationPhase ≠ some .compensationEffect)
        "record compensation effect boundary" {
          sequence := index + 1, stepKey := step.name,
          phase := .compensationEffect } w with
    | (some outcome, w) => (.error outcome, w)
    | (none, w) => callCompensation D env index step state.plan cause w

def compensateStep (D : Digests) (env : Environment) (index : Nat)
    (step : Step) (state : SagaStepSnapshot) (cause : String)
    (snapshot : SagaSnapshot) (w : World) :
    Except Outcome SagaSnapshot × World :=
  if !step.compensate || !state.actionEffectStarted then
    (.ok snapshot, w)
  else if state.actionPhase = some .actionEffect ∧ state.plan.actionReplay = .never then
    let marked := markOutcomeUnknown D env state.plan
      "action settlement missing after effect started" w
    (.error marked.1, marked.2)
  else if state.compensationPhase = some .compensated then
    (.ok snapshot, w)
  else if state.compensationPhase = some .outcomeUnknown then
    (.error .outcomeUnknown, w)
  else if (state.compensationPhase = some .compensationEffect ∨
        state.compensationPhase = some .compensationFailed) ∧
      state.plan.compensationReplay = .never then
    let marked := markOutcomeUnknown D env state.plan
      "compensation settlement missing or failed after effect started" w
    (.error marked.1, marked.2)
  else
    runCompensation D env index step state cause w

/--
The reverse loop.  The argument is one more than the index it starts from, so
that an empty loop is `0`.
-/
def compensateRecoverable (D : Digests) (c : Call) :
    Nat → SagaSnapshot → String → World → Outcome × World
  | 0, _, cause, w => (.failed cause, w)
  | index + 1, snapshot, cause, w =>
    match c.steps[index]? with
    | none => (.precondition "index out of range", w)
    | some step =>
      match sagaStepAt snapshot index step.name with
      | .error message => (.precondition message, w)
      | .ok state =>
        match compensateStep D c.env index step state cause snapshot w with
        | (.error outcome, w) => (outcome, w)
        | (.ok snapshot, w) =>
          compensateRecoverable D c index snapshot cause w

/-! ## Execution -/

def settleAction (D : Digests) (c : Call) (index : Nat) (step : Step)
    (w : World) : Except (Outcome × World) (SagaSnapshot × World) :=
  let guardDigest := stepGuardDigest D step c.sandbox c.limit
  let runErr : Option String :=
    if step.fail then some ("step " ++ step.name ++ " failed")
    else if step.run then c.env.runErr index
    else none
  match runErr with
  | some err =>
    match recordSaga D c.env "record action failure" {
        sequence := index + 1, stepKey := step.name, phase := .actionFailed,
        guardDigest := guardDigest, error := err }
        (w.event ("fail:" ++ step.name)) with
    | (.error outcome, w) => .error (outcome, w)
    | (.ok snapshot, w) =>
      .error (compensateRecoverable D c (index + 1) snapshot err w)
  | none =>
    match recordSaga D c.env "record action settlement" {
        sequence := index + 1, stepKey := step.name,
        phase := .actionSucceeded, guardDigest := guardDigest,
        receiptRef := "ok" }
        (w.event ("ok:" ++ step.name)) with
    | (.error outcome, w) => .error (outcome, w)
    | (.ok snapshot, w) =>
      if snapshot.cancelRequested then
        .error (compensateRecoverable D c (index + 1) snapshot "context canceled" w)
      else
        .ok (snapshot, w)

def startAction (D : Digests) (c : Call) (index : Nat) (step : Step)
    (state : SagaStepSnapshot) (w : World) :
    Except (Outcome × World) (SagaSnapshot × World) :=
  let guardDigest := stepGuardDigest D step c.sandbox c.limit
  match validateStepGuard step c.sandbox c.limit w.budgets with
  | (some guardErr, budgets) =>
    match recordSaga D c.env "record guard failure" {
        sequence := index + 1, stepKey := step.name, phase := .actionFailed,
        guardDigest := guardDigest, error := guardErr }
        ({ w with budgets := budgets }.event ("reject:" ++ step.name)) with
    | (.error outcome, w) => .error (outcome, w)
    | (.ok snapshot, w) =>
      .error (compensateRecoverable D c index snapshot guardErr w)
  | (none, budgets) =>
    match recordWhen D c.env (state.actionPhase ≠ some .actionEffect)
        "record action effect boundary" {
          sequence := index + 1, stepKey := step.name,
          phase := .actionEffect, guardDigest := guardDigest }
        { w with budgets := budgets } with
    | (some outcome, w) => .error (outcome, w)
    | (none, w) =>
      let w := w.event ("start:" ++ step.name)
      settleAction D c index step (if step.fail || !step.run then w else w.effect (.action index))

def executeStep (D : Digests) (c : Call) (index : Nat) (step : Step)
    (state : SagaStepSnapshot) (snapshot : SagaSnapshot) (w : World) :
    Except (Outcome × World) (SagaSnapshot × World) :=
  let guardDigest := stepGuardDigest D step c.sandbox c.limit
  if state.guardDigest ≠ "" ∧ state.guardDigest ≠ guardDigest then
    .error (.precondition ("failed_precondition: guard digest changed for step " ++ step.name), w)
  else
    match c.env.ctxErr index w.run.saga.cancelRequested with
    | some err => .error (compensateRecoverable D c index snapshot err w)
    | none =>
      if state.actionPhase = none then
        match recordSaga D c.env "record action intent" {
            sequence := index + 1, stepKey := step.name,
            phase := .actionIntent, guardDigest := guardDigest } w with
        | (.error outcome, w) => .error (outcome, w)
        | (.ok snapshot, w) =>
          if snapshot.cancelRequested then
            .error (compensateRecoverable D c index snapshot "context canceled" w)
          else
            startAction D c index step state w
      else
        startAction D c index step state w

def executeSteps (D : Digests) (c : Call) : Nat → List Step → SagaSnapshot → World → Outcome × World
  | _, [], _, w => (.completed, w)
  | index, step :: steps, snapshot, w =>
    match sagaStepAt snapshot index step.name with
    | .error message => (.precondition message, w)
    | .ok state =>
      match state.actionPhase with
      | some .actionSucceeded =>
        executeSteps D c (index + 1) steps snapshot w
      | some .actionFailed =>
        compensateRecoverable D c (if state.actionEffectStarted then index + 1 else index)
          snapshot (firstNonEmpty state.error "step failed") w
      | some .outcomeUnknown => (.outcomeUnknown, w)
      | _ =>
        if state.actionPhase = some .actionEffect ∧ state.plan.actionReplay = .never then
          markOutcomeUnknown D c.env state.plan "action settlement missing after effect started" w
        else
          match executeStep D c index step state snapshot w with
          | .error result => result
          | .ok (snapshot, w) =>
            executeSteps D c (index + 1) steps snapshot w

def startWorld (s : Session) (budgets : Budgets) : World := ⟨s, 0, [], [], budgets⟩

def executeRecoverable (D : Digests) (c : Call) (s : Session) : Outcome × World :=
  let w := startWorld s c.env.budgets
  match buildSagaPlan D c.steps with
  | .error message => (.invalidPlan message, w)
  | .ok plan =>
    match exchange D c.env (.plan plan) w with
    | (.error err, w) => (.journal "bind saga plan" err, w)
    | (.ok snapshot, w) =>
      if snapshot.planDigest ≠ plan.planDigest then
        (.precondition "failed_precondition: saga plan digest mismatch", w)
      else if snapshot.state = .outcomeUnknown then
        (.outcomeUnknown, w)
      else if snapshot.cancelRequested then
        compensateRecoverable D c c.steps.length snapshot "context canceled" w
      else
        executeSteps D c 0 c.steps snapshot w

end YuFeng.Saga

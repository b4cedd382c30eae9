import YuFeng.Saga.Journal

/-!
# Run lifecycle

A run owns its saga, its own status and the status of its work item.  Saga
progress is accepted only while the work item is live; a lease that is lost
in between shows up as a failing journal call of the executor.
-/

namespace YuFeng.Saga

inductive RunStatus where
  | active
  | cancelling
  | succeeded
  | failed
  | cancelled
  | outcomeUnknown
  deriving DecidableEq, Repr

/-- `live` covers a pending or leased work item; the rest is terminal. -/
inductive WorkStatus where
  | live
  | succeeded
  | failed
  | cancelled
  deriving DecidableEq, Repr

structure BrainRun where
  saga : RunSaga
  status : RunStatus
  work : WorkStatus
  deriving DecidableEq

def createdRun : BrainRun where
  saga := ⟨.pending, "", false, "", []⟩
  status := .active
  work := .live

def isRunTerminal : RunStatus → Bool
  | .succeeded | .failed | .cancelled | .outcomeUnknown => true
  | .active | .cancelling => false

inductive SagaProgress where
  | plan (plan : SagaPlan)
  | receipt (receipt : SagaReceipt)
  deriving DecidableEq

def sagaProgress (D : Digests) (saga : RunSaga) : SagaProgress → Except RpcError RunSaga
  | .plan plan => bindRunSaga D saga plan
  | .receipt receipt => recordRunSaga saga receipt

def reportProgress (D : Digests) (run : BrainRun) (progress : SagaProgress) :
    Except RpcError BrainRun :=
  if run.work ≠ .live then
    .error ⟨.failedPrecondition, "work item is not leased to this lease"⟩
  else
    match sagaProgress D run.saga progress with
    | .error err => .error err
    | .ok saga => .ok { run with saga := saga }

def hasSagaEffects (saga : RunSaga) : Bool :=
  saga.steps.any fun row =>
    row.actionEffectStarted || row.actionPhase = .outcomeUnknown

/--
A user cancels the run.  `hasModelEffects` is the result of the query over
model attempts.  A terminal run is left alone.
-/
def cancelRun (run : BrainRun) (hasModelEffects : Bool) : BrainRun :=
  if isRunTerminal run.status then
    run
  else if hasSagaEffects run.saga || hasModelEffects then
    { run with
      saga := { run.saga with cancelRequested := true, state := .cancelling }
      status := .cancelling }
  else
    { saga := { run.saga with cancelRequested := true, state := .compensated }
      status := .cancelled
      work := if run.work = .live then .cancelled else run.work }

def ensureRunSagaTerminal (saga : RunSaga) (complete : Bool) : Except RpcError RunSaga :=
  if complete then
    if saga.state ≠ .ready ∨ saga.cancelRequested then
      .error ⟨.failedPrecondition, "saga is not ready to complete"⟩
    else
      .ok saga
  else if saga.state = .pending ∧ saga.planDigest = "" then
    .ok { saga with state := .compensated }
  else if saga.state ≠ .compensated ∧ saga.state ≠ .outcomeUnknown then
    .error ⟨.failedPrecondition, "saga is not settled: " ++ saga.state.text⟩
  else
    .ok saga

def completeWork (run : BrainRun) : Except RpcError BrainRun :=
  if run.work ≠ .live then
    .error ⟨.failedPrecondition, "work item is not leased to this lease"⟩
  else
    match ensureRunSagaTerminal run.saga true with
    | .error err => .error err
    | .ok saga => .ok ⟨saga, .succeeded, .succeeded⟩

def failWork (run : BrainRun) : Except RpcError BrainRun :=
  if run.work ≠ .live then
    .error ⟨.failedPrecondition, "work item is not leased to this lease"⟩
  else
    match ensureRunSagaTerminal run.saga false with
    | .error err => .error err
    | .ok saga =>
      if saga.state = .outcomeUnknown then
        .ok ⟨saga, .outcomeUnknown, .failed⟩
      else if saga.cancelRequested then
        .ok ⟨saga, .cancelled, .cancelled⟩
      else
        .ok ⟨saga, .failed, .failed⟩

end YuFeng.Saga

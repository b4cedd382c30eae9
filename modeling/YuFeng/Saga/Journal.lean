import YuFeng.Kernel.Rpc
import YuFeng.Saga.Plan

/-!
# The persisted saga

The brain keeps one saga row and one row per step for every run.  A plan is
bound once; afterwards a receipt moves one phase of one step and the saga
state is recomputed from all step rows.  `cancelRun`, `completeWork` and
`failWork` are the operations that end a run.

Audit records, budgets and agent turns written by the same transactions are
not part of the model: no saga operation reads them.
-/

namespace YuFeng.Saga

open YuFeng.Library

inductive ActionPhase where
  | pending
  | intentRecorded
  | effectStarted
  | succeeded
  | failed
  | outcomeUnknown
  deriving DecidableEq, Repr

inductive CompensationPhase where
  | pending
  | intentRecorded
  | effectStarted
  | compensated
  | failed
  | outcomeUnknown
  deriving DecidableEq, Repr

inductive SagaPhase where
  | actionIntent
  | actionEffect
  | actionSucceeded
  | actionFailed
  | compensationIntent
  | compensationEffect
  | compensated
  | compensationFailed
  | outcomeUnknown
  deriving DecidableEq, Repr

inductive SagaState where
  | pending
  | running
  | compensating
  | cancelling
  | ready
  | compensated
  | outcomeUnknown
  deriving DecidableEq, Repr

def SagaState.text : SagaState → String
  | .pending => "pending"
  | .running => "running"
  | .compensating => "compensating"
  | .cancelling => "cancelling"
  | .ready => "ready"
  | .compensated => "compensated"
  | .outcomeUnknown => "outcome_unknown"

structure SagaReceipt where
  sequence : Nat
  stepKey : String
  phase : SagaPhase
  guardDigest : String := ""
  receiptRef : String := ""
  error : String := ""
  deriving DecidableEq

structure StepRow where
  plan : SagaStepPlan
  actionPhase : ActionPhase := .pending
  compensationPhase : CompensationPhase := .pending
  actionEffectStarted : Bool := false
  guardDigest : String := ""
  actionReceiptRef : String := ""
  compensationReceiptRef : String := ""
  error : String := ""
  deriving DecidableEq

structure RunSaga where
  state : SagaState
  planDigest : String
  cancelRequested : Bool
  cause : String
  steps : List StepRow
  deriving DecidableEq

/-! ## Binding a plan -/

def checkPlanSteps : Nat → List String → List SagaStepPlan → Bool
  | _, _, [] => true
  | index, seen, step :: steps =>
    step.sequence = index + 1 && trimSpace step.stepKey ≠ "" && step.stepKey.utf8ByteSize ≤ 128 &&
      step.stepKey ∉ seen && checkPlanSteps (index + 1) (step.stepKey :: seen) steps

def bindRunSaga (D : Digests) (saga : RunSaga) (plan : SagaPlan) : Except RpcError RunSaga :=
  if plan.schemaVersion ≠ sagaSchemaVersion ∨ plan.steps = [] ∨ 128 < plan.steps.length then
    .error ⟨.invalidArgument, "saga plan is invalid"⟩
  else if !checkPlanSteps 0 [] plan.steps then
    .error ⟨.invalidArgument, "saga plan steps must have contiguous sequence and unique keys"⟩
  else if plan.planDigest ≠ runSagaPlanDigest D plan.schemaVersion plan.steps then
    .error ⟨.invalidArgument, "saga plan digest mismatch"⟩
  else if saga.planDigest ≠ "" ∧ saga.planDigest ≠ plan.planDigest then
    .error ⟨.failedPrecondition, "saga plan is already bound to a different digest"⟩
  else if saga.planDigest = "" then
    .ok { saga with
      steps := plan.steps.map fun step => { plan := step }
      planDigest := plan.planDigest
      state := .running }
  else
    .ok saga

/-! ## Recording a receipt -/

def currentPhaseMatches (phase : SagaPhase) (row : StepRow) : Bool :=
  match phase with
  | .actionIntent => row.actionPhase = .intentRecorded
  | .actionEffect => row.actionPhase = .effectStarted
  | .actionSucceeded => row.actionPhase = .succeeded
  | .actionFailed => row.actionPhase = .failed
  | .compensationIntent => row.compensationPhase = .intentRecorded
  | .compensationEffect => row.compensationPhase = .effectStarted
  | .compensated => row.compensationPhase = .compensated
  | .compensationFailed => row.compensationPhase = .failed
  | .outcomeUnknown =>
    row.actionPhase = .outcomeUnknown || row.compensationPhase = .outcomeUnknown

def nextPhases (phase : SagaPhase) (row : StepRow) : Option (ActionPhase × CompensationPhase) :=
  match phase with
  | .actionIntent =>
    if row.actionPhase ≠ .pending then none
    else some (.intentRecorded, row.compensationPhase)
  | .actionEffect =>
    if row.actionPhase ≠ .intentRecorded ∧ (row.actionPhase ≠ .effectStarted ∨
          row.plan.actionReplay = .never) then none
    else some (.effectStarted, row.compensationPhase)
  | .actionSucceeded =>
    if row.actionPhase ≠ .effectStarted then none
    else some (.succeeded, row.compensationPhase)
  | .actionFailed =>
    if row.actionPhase ≠ .intentRecorded ∧ row.actionPhase ≠ .effectStarted then none
    else some (.failed, row.compensationPhase)
  | .compensationIntent =>
    if !row.plan.hasCompensation ∨ !row.actionEffectStarted ∨ (row.actionPhase ≠ .effectStarted ∧
          row.actionPhase ≠ .succeeded ∧ row.actionPhase ≠ .failed) then
      none
    else if row.compensationPhase ≠ .pending ∧ (row.compensationPhase ≠ .failed ∨
          row.plan.compensationReplay = .never) then none
    else some (row.actionPhase, .intentRecorded)
  | .compensationEffect =>
    if row.compensationPhase ≠ .intentRecorded ∧ (row.compensationPhase ≠ .effectStarted ∨
          row.plan.compensationReplay = .never) then none
    else some (row.actionPhase, .effectStarted)
  | .compensated =>
    if row.compensationPhase ≠ .effectStarted then none
    else some (row.actionPhase, .compensated)
  | .compensationFailed =>
    if row.compensationPhase ≠ .effectStarted then none
    else some (row.actionPhase, .failed)
  | .outcomeUnknown =>
    if (row.actionPhase ≠ .effectStarted ∨ row.plan.actionReplay ≠ .never) ∧
        ((row.compensationPhase ≠ .effectStarted ∧ row.compensationPhase ≠ .failed) ∨
          row.plan.compensationReplay ≠ .never) then none
    else if row.compensationPhase = .effectStarted ∨ row.compensationPhase = .failed then
      some (row.actionPhase, .outcomeUnknown)
    else some (.outcomeUnknown, row.compensationPhase)

def settleRow (receipt : SagaReceipt) (action : ActionPhase)
    (compensation : CompensationPhase) (row : StepRow) : StepRow :=
  { row with
    actionPhase := action
    compensationPhase := compensation
    guardDigest := firstNonEmpty row.guardDigest receipt.guardDigest
    actionReceiptRef :=
      if receipt.phase = .actionSucceeded ∧ receipt.receiptRef ≠ "" then
        receipt.receiptRef
      else row.actionReceiptRef
    compensationReceiptRef :=
      if receipt.phase = .compensated ∧ receipt.receiptRef ≠ "" then
        receipt.receiptRef
      else row.compensationReceiptRef
    error := firstNonEmpty receipt.error row.error
    actionEffectStarted := row.actionEffectStarted || receipt.phase = .actionEffect }

def uncompensated (row : StepRow) : Bool :=
  row.plan.hasCompensation && row.actionEffectStarted && row.compensationPhase ≠ .compensated

def refreshedState (cancelRequested : Bool) (steps : List StepRow) : SagaState :=
  if cancelRequested then
    if steps.any uncompensated then .cancelling else .compensated
  else if steps.any fun row => row.actionPhase = .failed then
    if steps.any uncompensated then .compensating else .compensated
  else if steps.all fun row => row.actionPhase = .succeeded then .ready
  else .running

def refreshRunSagaState (saga : RunSaga) (cause : String) : RunSaga :=
  { saga with
    state := refreshedState saga.cancelRequested saga.steps
    cause := firstNonEmpty cause saga.cause }

def updateStep (saga : RunSaga) (sequence : Nat) (f : StepRow → StepRow) : RunSaga :=
  { saga with
    steps := saga.steps.map fun row =>
      if row.plan.sequence = sequence then f row else row }

def commitReceipt (saga : RunSaga) (receipt : SagaReceipt)
    (action : ActionPhase) (compensation : CompensationPhase) : RunSaga :=
  let updated := updateStep saga receipt.sequence (settleRow receipt action compensation)
  if receipt.phase = .outcomeUnknown then
    { updated with state := .outcomeUnknown, cause := receipt.error }
  else
    refreshRunSagaState updated receipt.error

def recordRunSaga (saga : RunSaga) (receipt : SagaReceipt) : Except RpcError RunSaga :=
  if receipt.sequence = 0 ∨ trimSpace receipt.stepKey = "" then
    .error ⟨.invalidArgument, "saga receipt is invalid"⟩
  else if 128 < receipt.guardDigest.utf8ByteSize ∨ 2048 < receipt.receiptRef.utf8ByteSize ∨
      2048 < receipt.error.utf8ByteSize then
    .error ⟨.invalidArgument, "saga receipt field is too large"⟩
  else if saga.planDigest = "" then
    .error ⟨.failedPrecondition, "saga plan is not bound"⟩
  else if saga.state = .outcomeUnknown then
    .ok saga
  else
    match saga.steps.find? fun row =>
        row.plan.sequence = receipt.sequence with
    | none =>
      .error ⟨.failedPrecondition, "saga step is not in the bound plan"⟩
    | some row =>
      if row.plan.stepKey ≠ receipt.stepKey then
        .error ⟨.failedPrecondition, "saga step key does not match sequence"⟩
      else if row.guardDigest ≠ "" ∧ receipt.guardDigest ≠ "" ∧
          row.guardDigest ≠ receipt.guardDigest then
        .error ⟨.failedPrecondition, "saga guard digest changed"⟩
      else if currentPhaseMatches receipt.phase row then
        .ok saga
      else
        match nextPhases receipt.phase row with
        | none =>
          .error ⟨.failedPrecondition, "invalid saga state transition"⟩
        | some (action, compensation) =>
          .ok (commitReceipt saga receipt action compensation)

end YuFeng.Saga

import YuFeng.Library.Text

/-!
# Saga plans

The fixed command plan of a recoverable run: replay policies, the steps given
to the executor, the plan that is persisted before any action, and the guard
that is checked before an action crosses its effect boundary.

JSON encoding followed by SHA-256 occurs in two places, the plan digest and
the guard digest.  Both hexadecimal digests are parameters of the model.
-/

namespace YuFeng.Saga

open YuFeng.Library

inductive ReplayPolicy where
  | safe
  | idempotent
  | never
  deriving DecidableEq, Repr

def normalizeReplay : Option ReplayPolicy → ReplayPolicy
  | some policy => policy
  | none => .never

structure ResourceLimit where
  memoryBytes : Nat
  cpuSeconds : Nat
  files : Nat
  deriving DecidableEq

def exceedsLimit (used max : Nat) : Bool := 0 < max && max < used

/--
A command of the run.  `budget` names the call budget the step draws on, as
several steps may share one.  `compensate` and `run` say whether the step
carries the function; the results of calling them come from the environment.
-/
structure Step where
  name : String
  dangerous : Bool
  fail : Bool
  replay : Option ReplayPolicy
  compensationReplay : Option ReplayPolicy
  budget : Option Nat
  memBytes : Nat
  compensate : Bool
  run : Bool
  deriving DecidableEq

structure SagaStepPlan where
  sequence : Nat
  stepKey : String
  actionReplay : ReplayPolicy
  hasCompensation : Bool
  compensationReplay : ReplayPolicy
  deriving DecidableEq

structure SagaPlan where
  schemaVersion : String
  steps : List SagaStepPlan
  planDigest : String
  deriving DecidableEq

def sagaSchemaVersion : String := "run-saga/v1"

structure Digests where
  plan : String → List SagaStepPlan → String
  guard : Bool → Bool → Nat → Bool → ResourceLimit → String

def runSagaPlanDigest (D : Digests) (schemaVersion : String) (steps : List SagaStepPlan) : String :=
  "sha256:" ++ D.plan schemaVersion steps

def stepPlan (index : Nat) (step : Step) : SagaStepPlan where
  sequence := index + 1
  stepKey := step.name
  actionReplay := normalizeReplay step.replay
  hasCompensation := step.compensate
  compensationReplay := normalizeReplay step.compensationReplay

def planSteps : Nat → List String → List Step → Except String (List SagaStepPlan)
  | _, _, [] => .ok []
  | index, seen, step :: steps =>
    if step.name = "" ∨ step.name ∈ seen then
      .error "invalid saga step key"
    else
      match planSteps (index + 1) (step.name :: seen) steps with
      | .error message => .error message
      | .ok rest => .ok (stepPlan index step :: rest)

def buildSagaPlan (D : Digests) (steps : List Step) : Except String SagaPlan :=
  match planSteps 0 [] steps with
  | .error message => .error message
  | .ok planned =>
    .ok {
      schemaVersion := sagaSchemaVersion
      steps := planned
      planDigest := runSagaPlanDigest D sagaSchemaVersion planned }

def stepGuardDigest (D : Digests) (step : Step) (sandbox : Bool) (limit : ResourceLimit) : String :=
  "sha256:" ++ D.guard step.dangerous step.fail step.memBytes sandbox limit

/-- Remaining calls of every budget, by budget name. -/
abbrev Budgets := Nat → Int

def consume (budgets : Budgets) : Option Nat → Option String × Budgets
  | none => (none, budgets)
  | some name =>
    if budgets name ≤ 0 then
      (some "resource_exhausted", budgets)
    else
      (none, fun other =>
        if other = name then budgets name - 1 else budgets other)

def validateStepGuard (step : Step) (sandbox : Bool) (limit : ResourceLimit)
    (budgets : Budgets) : Option String × Budgets :=
  if step.dangerous && !sandbox then
    (some ("dangerous step " ++ step.name ++ ": failed_precondition"), budgets)
  else if exceedsLimit step.memBytes limit.memoryBytes then
    (some "resource_exhausted", budgets)
  else
    consume budgets step.budget

theorem planDigest_ne_empty (D version steps) : runSagaPlanDigest D version steps ≠ "" := by
  intro h
  have lengths := congrArg String.length h
  simp [runSagaPlanDigest] at lengths

end YuFeng.Saga

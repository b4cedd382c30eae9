import YuFeng.Host.Executor
import YuFeng.Kernel.Rpc
import YuFeng.Library.Run

/-!
# Commands on the brain

The brain leases a command to a unit and takes the receipts of its steps.  Of a
stored receipt only the phase is read again, so a command keeps one phase for
each step.
-/

namespace YuFeng.Commands

open YuFeng.Library
open YuFeng.Host (StepPhase StepReceipt)

inductive CommandStatus where
  | pending
  | leased
  | running
  | failed
  | succeeded
  | outcomeUnknown
  deriving DecidableEq, Repr

structure CommandRow where
  commandId : String
  unitId : String
  status : CommandStatus
  leaseId : String
  leaseEpoch : Nat
  leaseDeadline : Option Nat
  stepCount : Nat
  receipts : Nat → Option StepPhase

/-! ## Leasing -/

/-- Seconds. -/
def leaseTime : Nat := 600

/-- `leaseCommands` for one command: what it becomes when it is handed out. -/
def leaseCommands (now : Nat) (leaseId : String) (row : CommandRow) : Option CommandRow :=
  if row.status = .pending ∨ row.status = .leased ∧ row.leaseDeadline.any (· < now) then
    some { row with
      status := .leased
      leaseId := leaseId
      leaseEpoch := row.leaseEpoch + 1
      leaseDeadline := some (now + leaseTime) }
  else none

/-! ## Receipts -/

structure ReportStepRequest where
  commandId : String
  unitId : String
  leaseId : String
  leaseEpoch : Nat
  receipts : List StepReceipt

def validCommandStepTransition (current : Option StepPhase) (next : StepPhase) : Bool :=
  match current with
  | none => next = .intentRecorded
  | some .intentRecorded => next = .effectStarted || next = .failed
  | some .effectStarted =>
    next = .succeeded || next = .failed || next = .outcomeUnknown
  | some .succeeded => next = .compensationStarted
  | some .failed => next = .compensationStarted
  | some .compensationStarted =>
    next = .compensated || next = .outcomeUnknown
  | some .compensated | some .outcomeUnknown => false

def defaultJSONObject (raw : String) : String :=
  if trimSpace raw = "" then "\x7b\x7d" else raw

def CommandRow.store (row : CommandRow) (index : Nat) (phase : StepPhase) : CommandRow :=
  { row with
    receipts := fun i => if i = index then some phase else row.receipts i }

def storeReceipts (jsonValid : String → Bool) :
    List Nat → List StepReceipt → CommandRow → Except RpcError CommandRow
  | _, [], row => .ok row
  | seen, receipt :: receipts, row =>
    if row.stepCount ≤ receipt.stepIndex ∨ receipt.stepIndex ∈ seen ∨
        16384 < receipt.outputJson.utf8ByteSize ∨ 2048 < receipt.error.utf8ByteSize ∨
        256 < receipt.receiptRef.utf8ByteSize ∨ 256 < receipt.compensationReceiptRef.utf8ByteSize ∨
        jsonValid (defaultJSONObject receipt.outputJson) = false then
      .error ⟨.invalidArgument, "step receipt is invalid or exceeds limits"⟩
    else
      match receipt.phase with
      | none => .error ⟨.invalidArgument, "step receipt phase is required"⟩
      | some phase =>
        if row.receipts receipt.stepIndex = some phase then
          storeReceipts jsonValid (receipt.stepIndex :: seen) receipts row
        else if validCommandStepTransition (row.receipts receipt.stepIndex) phase then
          storeReceipts jsonValid (receipt.stepIndex :: seen) receipts
            (row.store receipt.stepIndex phase)
        else
          .error ⟨.failedPrecondition, "step receipt phase transition is invalid"⟩

def CommandRow.count (row : CommandRow) (phases : StepPhase → Bool) : Nat :=
  ((List.range row.stepCount).filter fun i =>
    (row.receipts i).any phases).length

def CommandRow.next (row : CommandRow) : CommandStatus :=
  if 0 < row.count fun phase => phase = .outcomeUnknown then .outcomeUnknown
  else if 0 < row.count fun phase =>
      phase = .failed || phase = .compensated then .failed
  else if (row.count fun _ => true) = row.stepCount ∧
      (row.count fun phase => phase = .succeeded) = row.stepCount then
    .succeeded
  else .running

def leaseHeld (unitId : String) (now : Nat) (row : CommandRow) (req : ReportStepRequest) : Bool :=
  row.unitId = unitId && row.leaseId = req.leaseId &&
    row.leaseEpoch = req.leaseEpoch && row.leaseDeadline.any (now < ·)

def reportStep (jsonValid : String → Bool) (unitId : String) (now : Nat)
    (row : CommandRow) (req : ReportStepRequest) :
    Except RpcError CommandRow :=
  if req.unitId ≠ "" ∧ req.unitId ≠ unitId then
    .error ⟨.permissionDenied, "unit_id does not match authenticated unit"⟩
  else if trimSpace req.commandId = "" ∨ trimSpace req.leaseId = "" ∨
      req.leaseEpoch = 0 ∨ req.receipts = [] then
    .error ⟨.invalidArgument, "command_id, lease and receipts are required"⟩
  else if row.commandId ≠ req.commandId then
    .error ⟨.notFound, "command not found"⟩
  else if !leaseHeld unitId now row req then
    .error ⟨.failedPrecondition, "command lease is invalid or expired"⟩
  else if row.status ≠ .leased ∧ row.status ≠ .running ∧ row.status ≠ .failed then
    .error ⟨.failedPrecondition, "command is not accepting step receipts"⟩
  else
    match storeReceipts jsonValid [] req.receipts row with
    | .error err => .error err
    | .ok row => .ok { row with status := row.next }

/-! ## Histories -/

inductive CommandEvent where
  | lease (now : Nat) (leaseId : String)
  | report (unitId : String) (now : Nat) (req : ReportStepRequest)

def CommandStatus.terminal : CommandStatus → Bool
  | .pending | .leased | .running => false
  | .failed | .succeeded | .outcomeUnknown => true

section Histories

variable (jsonValid : String → Bool) {row row' : CommandRow} {event : CommandEvent}
  {unitId : String} {now : Nat} {req : ReportStepRequest}

variable {jsonValid}

/-- A step has ended badly. -/
def CommandRow.Broken (row : CommandRow) : Prop :=
  ∃ i < row.stepCount, ∃ phase, row.receipts i = some phase ∧
    (phase = .failed ∨ phase = .compensated ∨ phase = .outcomeUnknown)

def CommandRow.Finished (row : CommandRow) : Prop :=
  ∀ i < row.stepCount, row.receipts i = some .succeeded

/-- No receipt is stored, or one says that a step ended badly, or all say that it succeeded. -/
def Settled (row : CommandRow) : Prop :=
  (∀ i, row.receipts i = none) ∨ row.Broken ∨ row.Finished

theorem storeReceipts_ok {seen : List Nat} {receipts : List StepReceipt}
    (h : storeReceipts jsonValid seen receipts row = .ok row') :
    ∃ stored, row' = { row with receipts := stored } ∧
      (∀ i, row.receipts i ≠ none → stored i ≠ none) ∧
      ∀ receipt ∈ receipts, stored receipt.stepIndex ≠ none := by
  fun_induction storeReceipts jsonValid seen receipts row with
  | case1 =>
    cases h
    exact ⟨_, rfl, fun _ known => known, by simp⟩
  | case2 | case3 | case6 => cases h
  | case4 _ _ _ _ _ _ _ same ih =>
    obtain ⟨stored, rfl, stays, others⟩ := ih h
    exact ⟨stored, rfl, stays, List.forall_mem_cons.mpr ⟨stays _ (by simp [same]), others⟩⟩
  | case5 _ _ _ _ _ _ _ _ _ ih =>
    obtain ⟨stored, rfl, stays, others⟩ := ih h
    refine ⟨stored, rfl, fun i known => stays i ?_,
      List.forall_mem_cons.mpr ⟨stays _ (by simp [CommandRow.store]), others⟩⟩
    simp only [CommandRow.store]
    split <;> simp [known]

theorem reportStep_stored (h : reportStep jsonValid unitId now row req = .ok row') :
    leaseHeld unitId now row req = true ∧ req.receipts ≠ [] ∧ ∃ stored,
      storeReceipts jsonValid [] req.receipts row = .ok stored ∧
        row' = { stored with status := stored.next } := by
  simp only [reportStep, guard_ok, not_or] at h
  obtain ⟨-, ⟨-, -, -, given⟩, -, held, -, h⟩ := h
  split at h
  · cases h
  next stored result =>
    cases h
    exact ⟨by simpa using held, given, stored, result, rfl⟩

/-- A command with receipts, which give its status. -/
structure Reported (row : CommandRow) : Prop where
  status : row.status = row.next
  filled : ∃ i, row.receipts i ≠ none
  leased : ∃ deadline, row.leaseDeadline = some deadline

theorem Reported.moved (h : Reported row) : row.status ≠ .pending ∧ row.status ≠ .leased := by
  rw [h.status, CommandRow.next]
  repeat' split
  all_goals simp

theorem reportStep_reported (h : reportStep jsonValid unitId now row req = .ok row') :
    Reported row' := by
  obtain ⟨held, given, stored, result, rfl⟩ := reportStep_stored h
  obtain ⟨phases, rfl, -, recorded⟩ := storeReceipts_ok result
  obtain ⟨receipt, first⟩ := List.exists_mem_of_ne_nil _ given
  simp only [leaseHeld, Bool.and_eq_true, Option.any_eq_true] at held
  exact ⟨rfl, ⟨_, recorded receipt first⟩, held.2.imp fun _ => And.left⟩

/-- A command waits without receipts, or its receipts give its status. -/
def Kept (row : CommandRow) : Prop :=
  (row.status = .pending ∨ row.status = .leased) ∧ (∀ i, row.receipts i = none) ∨ Reported row

/-- A receipt for the only step of the command, under its first lease. -/
def received (phase : StepPhase) : CommandEvent :=
  .report "unit-1" 1 ⟨"cmd-1", "unit-1", "lease-1", 1, [⟨0, some phase, "", "", "", "", ""⟩]⟩

end Histories

end YuFeng.Commands

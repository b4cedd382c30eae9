import YuFeng.Saga.Lifecycle

/-!
# What a saga transaction can do

One accepted receipt leaves the saga alone or moves a single step row along
the transition table.  This file states that once, for rows and for the whole
saga, together with the two facts every later argument rests on: the order in
which steps are worked off, and the parts of a saga that never change back.
-/

namespace YuFeng.Saga

open YuFeng.Library List

variable {row row' : StepRow} {receipt : SagaReceipt} {steps : List StepRow}
  {index : Nat} {saga : RunSaga} {phase : SagaPhase} {action : ActionPhase}
  {compensation : CompensationPhase} {saga' : RunSaga} {seen : List String} {step : SagaStepPlan}
  {D : Digests} {plan : SagaPlan}

/-! ## Rows -/

inductive Moves (receipt : SagaReceipt) (row : StepRow) : StepRow → Prop
  | stays (h : currentPhaseMatches receipt.phase row = true) : Moves receipt row row
  | advances {action : ActionPhase} {compensation : CompensationPhase}
      (h : nextPhases receipt.phase row = some (action, compensation)) :
      Moves receipt row (settleRow receipt action compensation row)

/-- The parts of a row that are final once they are reached. -/
structure RowExtends (row row' : StepRow) : Prop where
  plan : row'.plan = row.plan
  started : row.actionEffectStarted = true → row'.actionEffectStarted = true
  succeeded : row.actionPhase = .succeeded → row'.actionPhase = .succeeded
  failed : row.actionPhase = .failed → row'.actionPhase = .failed
  compensated : row.compensationPhase = .compensated → row'.compensationPhase = .compensated

theorem RowExtends.refl (row : StepRow) : RowExtends row row := ⟨rfl, id, id, id, id⟩

theorem RowExtends.trans {row''} (first : RowExtends row row') (second : RowExtends row' row'') :
    RowExtends row row'' :=
  ⟨second.plan.trans first.plan, second.started ∘ first.started,
    second.succeeded ∘ first.succeeded, second.failed ∘ first.failed,
    second.compensated ∘ first.compensated⟩

section

variable (receipt action compensation row)

@[simp] theorem settleRow_plan : (settleRow receipt action compensation row).plan = row.plan := rfl

@[simp] theorem settleRow_actionPhase :
    (settleRow receipt action compensation row).actionPhase = action := rfl

@[simp] theorem settleRow_compensationPhase :
    (settleRow receipt action compensation row).compensationPhase = compensation := rfl

@[simp] theorem settleRow_started :
    (settleRow receipt action compensation row).actionEffectStarted =
      (row.actionEffectStarted || receipt.phase = .actionEffect) := rfl

@[simp] theorem settleRow_guardDigest : (settleRow receipt action compensation row).guardDigest =
      firstNonEmpty row.guardDigest receipt.guardDigest := rfl

end

/-- The transition table: the phases a receipt may move a row to. -/
inductive Transition (row : StepRow) :
    SagaPhase → ActionPhase → CompensationPhase → Prop
  | actionIntent (h : row.actionPhase = .pending) :
      Transition row .actionIntent .intentRecorded row.compensationPhase
  | actionEffect (h : row.actionPhase = .intentRecorded ∨ row.actionPhase = .effectStarted) :
      Transition row .actionEffect .effectStarted row.compensationPhase
  | actionSucceeded (h : row.actionPhase = .effectStarted) :
      Transition row .actionSucceeded .succeeded row.compensationPhase
  | actionFailed (h : row.actionPhase = .intentRecorded ∨ row.actionPhase = .effectStarted) :
      Transition row .actionFailed .failed row.compensationPhase
  | compensationIntent (started : row.actionEffectStarted = true)
      (h : row.compensationPhase = .pending ∨ row.compensationPhase = .failed) :
      Transition row .compensationIntent row.actionPhase .intentRecorded
  | compensationEffect (h : row.compensationPhase = .intentRecorded ∨
        row.compensationPhase = .effectStarted) :
      Transition row .compensationEffect row.actionPhase .effectStarted
  | compensated (h : row.compensationPhase = .effectStarted) :
      Transition row .compensated row.actionPhase .compensated
  | compensationFailed (h : row.compensationPhase = .effectStarted) :
      Transition row .compensationFailed row.actionPhase .failed
  | actionUnknown (h : row.actionPhase = .effectStarted) :
      Transition row .outcomeUnknown .outcomeUnknown row.compensationPhase
  | compensationUnknown (h : row.compensationPhase = .effectStarted ∨
        row.compensationPhase = .failed) :
      Transition row .outcomeUnknown row.actionPhase .outcomeUnknown

theorem nextPhases_transition (h : nextPhases phase row = some (action, compensation)) :
    Transition row phase action compensation := by
  cases phase <;> simp only [nextPhases, ite_not, Option.ite_none_left_eq_some,
    Option.ite_none_right_eq_some, Option.some.injEq, Prod.mk.injEq] at h
  case actionIntent =>
    obtain ⟨pending, rfl, rfl⟩ := h
    exact .actionIntent pending
  case actionEffect =>
    obtain ⟨allowed, rfl, rfl⟩ := h
    exact .actionEffect (by grind)
  case actionSucceeded =>
    obtain ⟨started, rfl, rfl⟩ := h
    exact .actionSucceeded started
  case actionFailed =>
    obtain ⟨allowed, rfl, rfl⟩ := h
    exact .actionFailed (by grind)
  case compensationIntent =>
    obtain ⟨allowed, open', rfl, rfl⟩ := h
    exact .compensationIntent (by grind) (by grind)
  case compensationEffect =>
    obtain ⟨allowed, rfl, rfl⟩ := h
    exact .compensationEffect (by grind)
  case compensated =>
    obtain ⟨started, rfl, rfl⟩ := h
    exact .compensated started
  case compensationFailed =>
    obtain ⟨started, rfl, rfl⟩ := h
    exact .compensationFailed started
  case outcomeUnknown =>
    obtain ⟨allowed, h⟩ := h
    split at h
    next opened =>
      cases h
      exact .compensationUnknown opened
    · cases h
      exact .actionUnknown (by grind)

theorem Transition.keeps_final (h : Transition row phase action compensation) :
    (row.actionPhase = .succeeded → action = .succeeded) ∧
    (row.actionPhase = .failed → action = .failed) ∧
    (row.compensationPhase = .compensated → compensation = .compensated) := by
  cases h <;> grind

theorem Moves.extends (h : Moves receipt row row') : RowExtends row row' := by
  cases h with
  | stays => exact .refl row
  | advances next =>
    obtain ⟨succeeded, failed, compensated⟩ := (nextPhases_transition next).keeps_final
    exact ⟨rfl, by simp +contextual, succeeded, failed, compensated⟩

theorem Moves.reached (h : Moves receipt row row') :
    currentPhaseMatches receipt.phase row' = true := by
  cases h with
  | stays same => exact same
  | advances next =>
    have table := nextPhases_transition next
    generalize receipt.phase = phase at table
    cases table <;> simp [currentPhaseMatches]

/-! ## Receipts on a saga -/

def Contiguous (steps : List StepRow) : Prop :=
  ∀ (i : Nat) (row : StepRow), steps[i]? = some row → row.plan.sequence = i + 1

theorem Contiguous.find (h : Contiguous steps) {sequence}
    (found : (steps.find? fun row => row.plan.sequence = sequence) = some row) :
    ∃ index, sequence = index + 1 ∧ steps[index]? = some row := by
  obtain ⟨index, position⟩ := mem_iff_getElem?.mp (mem_of_find?_eq_some found)
  have number : row.plan.sequence = sequence := by
    simpa using find?_some found
  exact ⟨index, by rw [← number, h index row position], position⟩

theorem Contiguous.find_row (h : Contiguous steps) (position : steps[index]? = some row) :
    (steps.find? fun other => other.plan.sequence = row.plan.sequence) = some row := by
  cases found : steps.find? fun other =>
      other.plan.sequence = row.plan.sequence with
  | none =>
    have absent := find?_eq_none.mp found row (mem_of_getElem? position)
    simp at absent
  | some other =>
    obtain ⟨at', number, place⟩ := h.find found
    rw [h index row position] at number
    obtain rfl : at' = index := by omega
    rw [position] at place
    exact place.symm

theorem Contiguous.map_eq_set (h : Contiguous steps)
    (position : steps[index]? = some row) (f : StepRow → StepRow) :
    (steps.map fun row => if row.plan.sequence = index + 1 then f row else row)
      = steps.set index (f row) := by
  apply ext_getElem?
  intro i
  rw [getElem?_map, getElem?_set]
  cases other : steps[i]? with
  | none =>
    have beyond : steps.length ≤ i := List.getElem?_eq_none_iff.mp other
    have within : index < steps.length := (List.getElem?_eq_some_iff.mp position).1
    rw [if_neg (by omega)]
    rfl
  | some row' =>
    have number := h i row' other
    by_cases same : index = i
    · subst same
      have : row' = row := by simpa [other] using position
      subst this
      simp [number, (List.getElem?_eq_some_iff.mp position).1]
    · simp [number, same, Ne.symm same]

section

variable (saga receipt action compensation)

@[simp] theorem commitReceipt_cancelRequested :
    (commitReceipt saga receipt action compensation).cancelRequested = saga.cancelRequested := by
  unfold commitReceipt
  split <;> rfl

@[simp] theorem commitReceipt_planDigest :
    (commitReceipt saga receipt action compensation).planDigest = saga.planDigest := by
  unfold commitReceipt
  split <;> rfl

theorem commitReceipt_steps :
    (commitReceipt saga receipt action compensation).steps = saga.steps.map fun row =>
        if row.plan.sequence = receipt.sequence then
          settleRow receipt action compensation row
        else row := by
  unfold commitReceipt
  split <;> rfl

theorem commitReceipt_state : (commitReceipt saga receipt action compensation).state =
      if receipt.phase = .outcomeUnknown then .outcomeUnknown
      else refreshedState saga.cancelRequested
        (commitReceipt saga receipt action compensation).steps := by
  unfold commitReceipt
  split <;> rfl

end

structure Recorded (saga : RunSaga) (receipt : SagaReceipt)
    (saga' : RunSaga) (index : Nat) (row row' : StepRow) : Prop where
  sequence : receipt.sequence = index + 1
  position : saga.steps[index]? = some row
  moves : Moves receipt row row'
  steps : saga'.steps = saga.steps.set index row'
  cancelRequested : saga'.cancelRequested = saga.cancelRequested
  planDigest : saga'.planDigest = saga.planDigest
  state : saga' = saga ∨ saga'.state =
      if receipt.phase = .outcomeUnknown then .outcomeUnknown
      else refreshedState saga.cancelRequested saga'.steps

theorem recordRunSaga_ok (numbered : Contiguous saga.steps)
    (h : recordRunSaga saga receipt = .ok saga') :
    saga.planDigest ≠ "" ∧ (saga.state = .outcomeUnknown ∧ saga' = saga ∨
        saga.state ≠ .outcomeUnknown ∧
          ∃ index row row', Recorded saga receipt saga' index row row') := by
  rw [recordRunSaga, guard_ok, guard_ok, guard_ok] at h
  obtain ⟨-, -, bound, h⟩ := h
  refine ⟨bound, ?_⟩
  split at h
  next unknown =>
    cases h
    exact .inl ⟨unknown, rfl⟩
  rename_i known
  refine .inr ⟨known, ?_⟩
  split at h
  · contradiction
  rename_i row found
  obtain ⟨index, sequence, position⟩ := numbered.find found
  rw [guard_ok, guard_ok] at h
  obtain ⟨-, -, h⟩ := h
  split at h
  next matching =>
    cases h
    obtain ⟨within, value⟩ := List.getElem?_eq_some_iff.mp position
    exact ⟨index, row, row, sequence, position, .stays matching,
      by rw [← value, set_getElem_self], rfl, rfl, .inl rfl⟩
  split at h
  · contradiction
  next action compensation next =>
    cases h
    refine ⟨index, row, settleRow receipt action compensation row, sequence,
      position, .advances next, ?_, by simp, by simp, .inr (commitReceipt_state ..)⟩
    rw [commitReceipt_steps, sequence, numbered.map_eq_set position]

structure Fits (receipt : SagaReceipt) : Prop where
  guardDigest : receipt.guardDigest.utf8ByteSize ≤ 128
  receiptRef : receipt.receiptRef.utf8ByteSize ≤ 2048
  error : receipt.error.utf8ByteSize ≤ 2048

structure Acceptable (saga : RunSaga) (receipt : SagaReceipt) (index : Nat)
    (row : StepRow) : Prop where
  position : saga.steps[index]? = some row
  sequence : receipt.sequence = row.plan.sequence
  key : receipt.stepKey = row.plan.stepKey
  named : trimSpace row.plan.stepKey ≠ ""
  fits : Fits receipt
  guard : row.guardDigest = "" ∨ receipt.guardDigest = "" ∨ row.guardDigest = receipt.guardDigest
  phase : currentPhaseMatches receipt.phase row = true ∨
    (nextPhases receipt.phase row).isSome = true

theorem recordRunSaga_accepts (contiguous : Contiguous saga.steps)
    (bound : saga.planDigest ≠ "") (h : Acceptable saga receipt index row) :
    ∃ saga', recordRunSaga saga receipt = .ok saga' := by
  have number := contiguous index row h.position
  obtain ⟨guardFits, refFits, errorFits⟩ := h.fits
  unfold recordRunSaga
  rw [if_neg (by simp [h.sequence, number, h.key, h.named]), if_neg (by omega), if_neg bound]
  split
  · exact ⟨saga, rfl⟩
  rw [h.sequence, contiguous.find_row h.position]
  dsimp only
  rw [if_neg (by simp [h.key]), if_neg (by have := h.guard; tauto)]
  split
  · exact ⟨saga, rfl⟩
  rename_i other
  obtain ⟨phases, next⟩ := Option.isSome_iff_exists.mp (h.phase.resolve_left other)
  rw [next]
  exact ⟨_, rfl⟩

/-! ## Binding -/

theorem checkPlanSteps_sequence {steps} (h : checkPlanSteps index seen steps = true) {i}
    (position : steps[i]? = some step) : step.sequence = index + i + 1 := by
  induction steps generalizing index seen i with
  | nil => simp at position
  | cons first _ ih =>
    simp only [checkPlanSteps, Bool.and_eq_true, decide_eq_true_eq] at h
    obtain ⟨⟨⟨⟨sequence, -⟩, -⟩, -⟩, later⟩ := h
    cases i with
    | zero =>
      have : first = step := by simpa using position
      rw [← this, sequence]
    | succ =>
      have := ih later (by simpa using position)
      omega

theorem checkPlanSteps_key {steps} (h : checkPlanSteps index seen steps = true)
    (member : step ∈ steps) : trimSpace step.stepKey ≠ "" ∧ step.stepKey.utf8ByteSize ≤ 128 := by
  induction steps generalizing index seen with
  | nil => simp at member
  | cons _ _ ih =>
    simp only [checkPlanSteps, Bool.and_eq_true, decide_eq_true_eq] at h
    obtain ⟨⟨⟨⟨-, named⟩, short⟩, -⟩, later⟩ := h
    rcases mem_cons.mp member with rfl | old
    · exact ⟨named, short⟩
    · exact ih later old

theorem bindRunSaga_ok (h : bindRunSaga D saga plan = .ok saga') :
    plan.planDigest ≠ "" ∧ saga'.planDigest = plan.planDigest ∧
      checkPlanSteps 0 [] plan.steps = true ∧
      (saga.planDigest = "" ∧ plan.steps ≠ [] ∧
          saga' = { saga with
            steps := plan.steps.map fun step => { plan := step }
            planDigest := plan.planDigest
            state := .running } ∨
        saga.planDigest ≠ "" ∧ saga' = saga) := by
  rw [bindRunSaga, guard_ok, guard_ok, guard_ok, guard_ok] at h
  obtain ⟨shape, checked, digest, same, h⟩ := h
  have nonempty : plan.planDigest ≠ "" := by
    rw [not_ne_iff.mp digest]
    exact planDigest_ne_empty D _ _
  refine ⟨nonempty, ?_⟩
  split at h
  next unbound =>
    cases h
    exact ⟨rfl, by simpa using checked, .inl ⟨unbound, by tauto, rfl⟩⟩
  next bound =>
    cases h
    exact ⟨by tauto, by simpa using checked, .inr ⟨bound, rfl⟩⟩

end YuFeng.Saga

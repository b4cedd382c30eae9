import YuFeng.Saga.Operations

/-!
# Compensation of started steps

What a failing execution leaves behind.  The reverse loop compensates every
started step below its start index, in decreasing order.  Whether nothing is
left above that index depends on the step the execution stopped at: a
replayable step whose effect had been started by an earlier execution is
passed over when the context ends or its guard fails.
-/

namespace YuFeng.Saga

open YuFeng.Library List

variable {D : Digests}

variable {index count : Nat} {saga saga' : RunSaga} {row' : StepRow}
  {env : Environment} {receipt : SagaReceipt} {w : World}
  {snapshot : SagaSnapshot} {steps left : List Step} {step : Step}
  {cause : String} {c : Call} {missed : Prop} {cancelRequested : Bool}
  {budgets : Budgets} {s : Session} {context : String} {state : SagaStepSnapshot} {plan : SagaPlan}
  {s' : Session}

/-! ## Single rows -/

variable {row : StepRow}

theorem Moves.actionIntent (h : Moves receipt row row') (phase : receipt.phase = .actionIntent) :
    row'.actionPhase = .intentRecorded := by
  simpa [phase, currentPhaseMatches] using h.reached

/-! ## The steps of the plan -/

theorem Matching.stepAt (h : Matching steps w.run.saga)
    (synced : Synced snapshot w) (position : steps[index]? = some step) :
    ∃ row, w.run.saga.steps[index]? = some row ∧ row.plan = stepPlan index step ∧
      sagaStepAt snapshot index step.name = .ok (stepSnapshot row) := by
  obtain ⟨row, found, plan⟩ := h.row position
  refine ⟨row, found, plan, ?_⟩
  simp [sagaStepAt, synced.steps, found, stepSnapshot, plan, stepPlan]

/-! ## The reverse loop -/

def CompensatedBelow (steps : List Step) (saga : RunSaga) (count : Nat) : Prop :=
  ∀ (i : Nat) (step : Step) (row : StepRow), i < count →
    steps[i]? = some step → saga.steps[i]? = some row →
    step.compensate = true → row.actionEffectStarted = true → row.compensationPhase = .compensated

theorem compensateRecoverable_complete (bounded : count ≤ c.steps.length)
    (synced : Synced snapshot w) (matching : Matching c.steps w.run.saga)
    (ordinary : OrdinaryFailure (compensateRecoverable D c count snapshot cause w).1 = true) :
    let w' := (compensateRecoverable D c count snapshot cause w).2
    CompensatedBelow c.steps w'.run.saga count ∧ (∀ i : Nat, count ≤ i →
        w'.run.saga.steps[i]? = w.run.saga.steps[i]?) ∧
      ∃ called, compensations w'.effects = compensations w.effects ++ called ∧
        called.Pairwise (· > ·) ∧ ∀ i ∈ called, i < count := by
  induction count generalizing snapshot w with
  | zero =>
    refine ⟨?_, fun _ _ => rfl, [], by simp [compensateRecoverable], .nil, by simp⟩
    intro i step row below
    omega
  | succ index ih =>
    obtain ⟨step, position⟩ : ∃ step, c.steps[index]? = some step :=
      ⟨_, getElem?_eq_getElem (by omega)⟩
    obtain ⟨row, found, plan, at'⟩ := matching.stepAt synced position
    have one : Compensates D c c.steps.length index step w
        (compensateStep D c.env index step (stepSnapshot row) cause snapshot w) :=
      compensateStep_compensates synced (synced.stands_row found (by rw [plan]; rfl)) bounded
        position
    simp only [compensateRecoverable, position, at'] at ordinary ⊢
    cases result : compensateStep D c.env index step (stepSnapshot row) cause snapshot w with
    | mk answer w₁ =>
    rw [result] at one
    simp only [result] at ordinary ⊢
    cases answer with
    | error outcome => simp [one.2] at ordinary
    | ok snapshot₁ =>
      obtain ⟨below, above, called, effects, decreasing, bound⟩ :=
        ih (by omega) one.2.synced (matching.touched one.2.touched) ordinary
      refine ⟨?_, ?_, ?_⟩
      · intro i step' row' less atStep atRow compensable started
        rcases Nat.lt_succ_iff_lt_or_eq.mp less with less | rfl
        · exact below i step' row' less atStep atRow compensable started
        · obtain rfl := Option.mem_unique atStep position
          rw [above i (Nat.le_refl i)] at atRow
          exact one.2.settled row' atRow compensable started
      · intro i least
        rw [above i (by omega), one.2.touched.others i (by omega)]
      · rcases one.2.called with same | more
        · refine ⟨called, by rw [effects, same], decreasing, ?_⟩
          intro i member
          have := bound i member
          omega
        · refine ⟨index :: called, by rw [effects, more]; simp,
            pairwise_cons.mpr ⟨bound, decreasing⟩, ?_⟩
          intro i member
          rcases mem_cons.mp member with rfl | old
          · omega
          · have := bound i old
            omega

/-! ## The forward loop -/

/-- What a failing execution should leave: every started step with a
compensation is compensated, and compensations ran in decreasing order. -/
structure CompensationsDone (steps : List Step) (w : World) : Prop where
  complete : CompensatedBelow steps w.run.saga steps.length
  decreasing : (compensations w.effects).Pairwise (· > ·)

def UnstartedAbove (saga : RunSaga) (index : Nat) : Prop :=
  ∀ (i : Nat) (row : StepRow), index ≤ i → saga.steps[i]? = some row →
    row.actionEffectStarted = false

theorem compensateRecoverable_done (bounded : count ≤ c.steps.length)
    (synced : Synced snapshot w) (matching : Matching c.steps w.run.saga)
    (fresh : compensations w.effects = [])
    (ordinary : OrdinaryFailure (compensateRecoverable D c count snapshot cause w).1 = true)
    (above : UnstartedAbove w.run.saga count) :
    CompensationsDone c.steps (compensateRecoverable D c count snapshot cause w).2 := by
  obtain ⟨below, rest, called, effects, decreasing, -⟩ :=
    compensateRecoverable_complete bounded synced matching ordinary
  refine ⟨?_, by rw [effects, fresh]; simpa using decreasing⟩
  intro i step row less atStep atRow compensable started
  by_cases inside : i < count
  · exact below i step row inside atStep atRow compensable started
  · rw [rest i (by omega)] at atRow
    have := above i row (by omega) atRow
    simp [started] at this

def Owed (step : Step) (row : StepRow) : Prop :=
  step.compensate = true ∧ row.actionEffectStarted = true ∧ row.compensationPhase ≠ .compensated

theorem compensateRecoverable_passes (synced : Synced snapshot w)
    (matching : Matching c.steps w.run.saga) (fresh : compensations w.effects = [])
    (ordinary : OrdinaryFailure (compensateRecoverable D c count snapshot cause w).1 = true)
    (atStep : c.steps[count]? = some step) (atRow : w.run.saga.steps[count]? = some row)
    (above : UnstartedAbove w.run.saga (count + 1)) :
    CompensationsDone c.steps (compensateRecoverable D c count snapshot cause w).2 ↔
        ¬ Owed step row := by
  have inside : count < c.steps.length := (List.getElem?_eq_some_iff.mp atStep).1
  obtain ⟨below, rest, called, effects, decreasing, -⟩ :=
    compensateRecoverable_complete (by omega) synced matching ordinary
  have kept := rest count (Nat.le_refl count)
  rw [atRow] at kept
  constructor
  · rintro done ⟨compensable, started, missing⟩
    exact missing (done.complete count step row inside atStep kept compensable started)
  · intro paid
    refine ⟨?_, by rw [effects, fresh]; simpa using decreasing⟩
    intro i other found less atOther atFound compensable started
    rcases Nat.lt_trichotomy i count with less | rfl | more
    · exact below i other found less atOther atFound compensable started
    · obtain rfl := Option.mem_unique atOther atStep
      obtain rfl := Option.mem_unique atFound kept
      by_contra missing
      exact paid ⟨compensable, started, missing⟩
    · rw [rest i (by omega)] at atFound
      have unstarted := above i found more atFound
      simp [started] at unstarted

def PendingAbove (saga : RunSaga) (index : Nat) : Prop :=
  ∀ (i : Nat) (row : StepRow), index ≤ i → saga.steps[i]? = some row → row.actionPhase = .pending

theorem PendingAbove.unstarted (h : PendingAbove saga index) (ordered : Ordered saga) :
    UnstartedAbove saga index := by
  intro i row least found
  exact (ordered.rows row (mem_of_getElem? found)).unstarted (.inl (h i row least found))

theorem PendingAbove.touched (h : PendingAbove saga (index + 1))
    (touched : Touched index saga saga') :
    PendingAbove saga' (index + 1) := by
  intro i row least found
  rw [touched.others i (by omega)] at found
  exact h i row least found

theorem Ordered.pendingAbove (h : Ordered saga) (position : saga.steps[index]? = some row)
    (unsettled : row.actionPhase ≠ .succeeded) : PendingAbove saga (index + 1) := by
  intro i other least found
  by_contra worked
  exact unsettled (h.inOrder index i row other (by omega) position found worked)

/-- Nothing was compensated and the steps after `index` are untouched. -/
structure Working (c : Call) (index : Nat) (w : World) : Prop where
  ordered : Ordered w.run.saga
  known : w.run.saga.state ≠ .outcomeUnknown
  matching : Matching c.steps w.run.saga
  fresh : compensations w.effects = []
  pending : PendingAbove w.run.saga (index + 1)

theorem Working.unstarted (h : Working c index w) : UnstartedAbove w.run.saga (index + 1) :=
  h.pending.unstarted h.ordered

theorem Working.noted {w'} (h : Working c index w) (session : w'.toSession = w.toSession)
    (effects : compensations w'.effects = compensations w.effects) : Working c index w' := by
  refine ⟨?_, ?_, ?_, effects.trans h.fresh, ?_⟩ <;> rw [session]
  · exact h.ordered
  · exact h.known
  · exact h.matching
  · exact h.pending

theorem Working.wrote {w'} (wrote : Wrote index receipt w w' row row') (h : Working c index w) :
    Working c index w' where
  ordered := wrote.ordered
  known := wrote.known
  matching := h.matching.touched wrote.touched
  fresh := by rw [wrote.effects, h.fresh]
  pending := h.pending.touched wrote.touched

/--
A stage that ends the execution leaves everything compensated unless `missed`
holds; a stage that goes on has not missed anything.
-/
def Stage (c : Call) (index : Nat) (missed : Prop) :
    Except (Outcome × World) (SagaSnapshot × World) → Prop
  | .error (outcome, w) => OrdinaryFailure outcome = true → (CompensationsDone c.steps w ↔ ¬ missed)
  | .ok (_, w) => ¬ missed ∧ Working c index w

theorem Stage.of_not_ordinary {outcome} (h : OrdinaryFailure outcome = false) :
    Stage c index missed (.error (outcome, w)) := by
  intro ordinary
  simp [h] at ordinary

theorem Stage.of_done {result} (none : ¬ missed)
    (h : OrdinaryFailure result.1 = true → CompensationsDone c.steps result.2) :
    Stage c index missed (.error result) :=
  fun ordinary => iff_of_true (h ordinary) none

theorem Stage.congr {missed' : Prop} {result} (h : Stage c index missed result)
    (same : missed ↔ missed') : Stage c index missed' result := by
  rwa [← propext same]

theorem settleAction_stage (bounded : index < c.steps.length) (working : Working c index w) :
    Stage c index False (settleAction D c index step w) := by
  unfold settleAction
  dsimp only
  split
  next err _ =>
    split
    next result =>
      obtain ⟨err, rfl⟩ := recordSaga_error result
      exact .of_not_ordinary rfl
    next snapshot w₁ result =>
      obtain ⟨synced, row, row', wrote⟩ :=
        recordSaga_wrote result working.ordered working.known nofun (by simp) rfl
      have after := Working.wrote wrote (working.noted rfl rfl)
      exact .of_done id fun ordinary => compensateRecoverable_done bounded synced after.matching
        after.fresh ordinary after.unstarted
  · split
    next result =>
      obtain ⟨err, rfl⟩ := recordSaga_error result
      exact .of_not_ordinary rfl
    rename_i snapshot w₁ result
    obtain ⟨synced, row, row', wrote⟩ :=
      recordSaga_wrote result working.ordered working.known nofun (by simp) rfl
    have after := Working.wrote wrote (working.noted rfl rfl)
    split
    · exact .of_done id fun ordinary => compensateRecoverable_done bounded synced after.matching
        after.fresh ordinary after.unstarted
    · exact ⟨id, after⟩

theorem startAction_stage (atStep : c.steps[index]? = some step)
    (atRow : w.run.saga.steps[index]? = some row) (working : Working c index w) :
    Stage c index ((validateStepGuard step c.sandbox c.limit w.budgets).1 ≠ none ∧ Owed step row)
      (startAction D c index step state w) := by
  unfold startAction
  dsimp only
  split
  next guardErr budgets guarded =>
    split
    next result =>
      obtain ⟨err, rfl⟩ := recordSaga_error result
      exact .of_not_ordinary rfl
    next snapshot w₁ result =>
      obtain ⟨synced, old, new, wrote⟩ :=
        recordSaga_wrote result working.ordered working.known nofun (by simp) rfl
      obtain rfl : old = row := by simpa using wrote.was.symm.trans atRow
      obtain ⟨-, started, phase⟩ := wrote.moves.failed rfl
      have after := Working.wrote wrote (working.noted rfl rfl)
      intro ordinary
      rw [compensateRecoverable_passes synced after.matching after.fresh ordinary atStep wrote.now
        after.unstarted]
      simp [Owed, started, phase, guarded]
  next budgets guarded =>
    refine Stage.congr ?_ (show False ↔ _ by simp [guarded])
    split
    next result =>
      obtain ⟨err, rfl⟩ := recordSaga_error (recordWhen_some result).2
      exact .of_not_ordinary rfl
    rename_i w₁ result
    have after : Working c index w₁ := by
      rcases recordWhen_none result with ⟨-, rfl⟩ | ⟨-, snapshot, recorded⟩
      · exact working.noted rfl rfl
      · obtain ⟨-, row, row', wrote⟩ :=
          recordSaga_wrote recorded working.ordered working.known nofun (by simp) rfl
        exact Working.wrote wrote (working.noted rfl rfl)
    have bounded := (List.getElem?_eq_some_iff.mp atStep).1
    split
    · exact settleAction_stage bounded (after.noted rfl rfl)
    · exact settleAction_stage bounded
        (after.noted rfl (by simp [World.effect, World.event, compensations]))

/-! ## Steps that are left behind -/

def GuardChanged (D : Digests) (c : Call) (step : Step) (row : StepRow) : Prop :=
  row.guardDigest ≠ "" ∧ row.guardDigest ≠ stepGuardDigest D step c.sandbox c.limit

/--
At an open step, an execution leaves a started step behind if the recorded
guard differs while some compensation is owed, or if the effect of this very
step is owed and the context has ended or the guard now fails.
-/
def LeavesBehind (D : Digests) (c : Call) (cancelRequested : Bool)
    (budgets : Budgets) (saga : RunSaga) (index : Nat) (step : Step)
    (row : StepRow) : Prop :=
  GuardChanged D c step row ∧ ¬ CompensatedBelow c.steps saga c.steps.length ∨
    ¬ GuardChanged D c step row ∧ row.actionPhase = .effectStarted ∧ Owed step row ∧
      (c.env.ctxErr index cancelRequested ≠ none ∨
        (validateStepGuard step c.sandbox c.limit budgets).1 ≠ none)

/-- Where the forward loop stands before the step `index`. -/
structure Ready (c : Call) (index : Nat) (snapshot : SagaSnapshot) (w : World) : Prop where
  synced : Synced snapshot w
  matching : Matching c.steps w.run.saga
  before : SucceededBefore w.run.saga index
  fresh : compensations w.effects = []

theorem executeStep_stage (ready : Ready c index snapshot w)
    (atStep : c.steps[index]? = some step) (atRow : w.run.saga.steps[index]? = some row)
    (phase : row.actionPhase = .pending ∨
      row.actionPhase = .intentRecorded ∨ row.actionPhase = .effectStarted) :
    Stage c index (LeavesBehind D c w.run.saga.cancelRequested w.budgets w.run.saga index step row)
      (executeStep D c index step (stepSnapshot row) snapshot w) := by
  obtain ⟨synced, matching, before, fresh⟩ := ready
  have working : Working c index w :=
    ⟨synced.ordered, synced.known, matching, fresh, synced.ordered.pendingAbove atRow (by grind)⟩
  have owed : Owed step row → row.actionPhase = .effectStarted := by
    rintro ⟨-, started, -⟩
    by_contra other
    have := (synced.ordered.rows row (mem_of_getElem? atRow)).unstarted (by grind)
    simp [started] at this
  unfold executeStep
  dsimp only
  split
  next changed =>
    have changed : GuardChanged D c step row := changed
    intro ordinary
    simp only [LeavesBehind, changed, true_and, not_true_eq_false, false_and, or_false, not_not]
    constructor
    · exact fun done => done.complete
    · exact fun complete => ⟨complete, by rw [fresh]; exact .nil⟩
  rename_i unchanged
  have unchanged : ¬ GuardChanged D c step row := unchanged
  split
  next err cancelled =>
    intro ordinary
    rw [compensateRecoverable_passes synced matching fresh ordinary atStep atRow working.unstarted]
    simp only [LeavesBehind, unchanged, false_and, false_or, not_false_eq_true, true_and, cancelled]
    grind
  rename_i running
  split
  next untouched =>
    have was : row.actionPhase = .pending := by simpa using untouched
    have none : ¬ LeavesBehind D c w.run.saga.cancelRequested w.budgets
        w.run.saga index step row := by
      simp [LeavesBehind, unchanged, was]
    split
    next result =>
      obtain ⟨err, rfl⟩ := recordSaga_error result
      exact .of_not_ordinary rfl
    rename_i snapshot₁ w₁ result
    obtain ⟨synced₁, old, new, wrote⟩ := recordSaga_wrote result
      synced.ordered synced.known (fun _ => by simpa using before) (by simp)
      rfl
    have after := Working.wrote wrote (working.noted rfl rfl)
    have unstarted : new.actionEffectStarted = false :=
      (synced₁.ordered.rows new (mem_of_getElem? wrote.now)).unstarted
        (.inr (wrote.moves.actionIntent rfl))
    split
    · refine .of_done none fun ordinary =>
        compensateRecoverable_done (Nat.le_of_lt (List.getElem?_eq_some_iff.mp atStep).1) synced₁
          after.matching after.fresh ordinary ?_
      intro i other least found
      by_cases same : i = index
      · subst same
        obtain rfl := Option.mem_unique found wrote.now
        exact unstarted
      · exact after.unstarted i other (by omega) found
    · refine Stage.congr (startAction_stage atStep wrote.now after) ?_
      simp [Owed, unstarted, none]
  next touched =>
    refine Stage.congr (startAction_stage atStep atRow working) ?_
    simp only [LeavesBehind, unchanged, false_and, false_or, not_false_eq_true, true_and, running]
    grind

/-- The first open step of the saga is one where a step is left behind. -/
def Stranded (D : Digests) (c : Call) (cancelRequested : Bool)
    (budgets : Budgets) (saga : RunSaga) : Prop :=
  ∃ (index : Nat) (step : Step) (row : StepRow),
    SucceededBefore saga index ∧ c.steps[index]? = some step ∧ saga.steps[index]? = some row ∧
    (row.actionPhase = .intentRecorded ∨
      row.actionPhase = .effectStarted ∧ row.plan.actionReplay ≠ .never) ∧
    LeavesBehind D c cancelRequested budgets saga index step row

theorem stranded_iff (before : SucceededBefore saga index) (atStep : c.steps[index]? = some step)
    (atRow : saga.steps[index]? = some row) (unsettled : row.actionPhase ≠ .succeeded) :
    Stranded D c cancelRequested budgets saga ↔ (row.actionPhase = .intentRecorded ∨
        row.actionPhase = .effectStarted ∧ row.plan.actionReplay ≠ .never) ∧
      LeavesBehind D c cancelRequested budgets saga index step row := by
  constructor
  · rintro ⟨i, other, found, earlier, atOther, atFound, phase, leaves⟩
    have notBefore : ¬ i < index := by
      intro less
      have := before i found less atFound
      grind
    have notAfter : ¬ index < i := fun less =>
      unsettled (earlier index row less atRow)
    obtain rfl : i = index := by omega
    obtain rfl := Option.mem_unique atOther atStep
    obtain rfl := Option.mem_unique atFound atRow
    exact ⟨phase, leaves⟩
  · rintro ⟨phase, leaves⟩
    exact ⟨index, step, row, before, atStep, atRow, phase, leaves⟩

theorem leavesBehind_pending (ordered : RowOrdered row) (pending : row.actionPhase = .pending) :
    ¬ LeavesBehind D c cancelRequested budgets saga index step row := by
  simp [LeavesBehind, GuardChanged, ordered.unguarded pending, pending]

theorem not_stranded_of_pending (before : SucceededBefore saga index)
    (pending : PendingAbove saga index) : ¬ Stranded D c cancelRequested budgets saga := by
  rintro ⟨i, step, row, -, -, atRow, phase, -⟩
  rcases Nat.lt_or_ge i index with less | least
  · simp [before i row less atRow] at phase
  · simp [pending i row least atRow] at phase

theorem executeSteps_open (at' : sagaStepAt snapshot index step.name = .ok (stepSnapshot row))
    (phase : row.actionPhase = .pending ∨
      row.actionPhase = .intentRecorded ∨ row.actionPhase = .effectStarted)
    (replayable : row.actionPhase = .effectStarted → row.plan.actionReplay ≠ .never) :
    executeSteps D c index (step :: left) snapshot w =
      match executeStep D c index step (stepSnapshot row) snapshot w with
      | .error result => result
      | .ok (snapshot, w) => executeSteps D c (index + 1) left snapshot w := by
  rw [executeSteps, at']
  -- The three open phases show as no phase, the intent and the effect.
  have shown : (stepSnapshot row).actionPhase = actionPhaseProto row.actionPhase := rfl
  have plan : (stepSnapshot row).plan = row.plan := rfl
  cases executed : executeStep D c index step (stepSnapshot row) snapshot w <;>
    rcases phase with phase | phase | phase <;>
    simp [shown, plan, actionPhaseProto, executed, phase, replayable]

theorem executeSteps_open_iff (ready : Ready c index snapshot w)
    (atStep : c.steps[index]? = some step) (atRow : w.run.saga.steps[index]? = some row)
    (at' : sagaStepAt snapshot index step.name = .ok (stepSnapshot row))
    (key : row.plan.stepKey = step.name)
    (phase : row.actionPhase = .pending ∨
      row.actionPhase = .intentRecorded ∨ row.actionPhase = .effectStarted)
    (replayable : row.actionPhase = .effectStarted → row.plan.actionReplay ≠ .never)
    (ordinary : OrdinaryFailure (executeSteps D c index (step :: left) snapshot w).1 = true)
    (later : ∀ {snapshot w}, Ready c (index + 1) snapshot w →
      OrdinaryFailure (executeSteps D c (index + 1) left snapshot w).1 = true →
      (CompensationsDone c.steps (executeSteps D c (index + 1) left snapshot w).2 ↔
        ¬ Stranded D c w.run.saga.cancelRequested w.budgets w.run.saga)) :
    CompensationsDone c.steps (executeSteps D c index (step :: left) snapshot w).2 ↔
        ¬ Stranded D c w.run.saga.cancelRequested w.budgets w.run.saga := by
  have stranded : Stranded D c w.run.saga.cancelRequested w.budgets
      w.run.saga ↔ LeavesBehind D c w.run.saga.cancelRequested w.budgets
        w.run.saga index step row := by
    rw [stranded_iff ready.before atStep atRow (by grind)]
    refine and_iff_right_of_imp fun leaves => ?_
    rcases phase with pending | intent | effect
    · exact absurd leaves (leavesBehind_pending
        (ready.synced.ordered.rows row (mem_of_getElem? atRow)) pending)
    · exact .inl intent
    · exact .inr ⟨effect, replayable effect⟩
  rw [stranded]
  have stage := executeStep_stage (D := D) ready atStep atRow phase
  have advances : Advances D c c.steps.length index w
      (executeStep D c index step (stepSnapshot row) snapshot w) :=
    executeStep_advances ready.synced (ready.synced.stands_row atRow key)
      (List.getElem?_eq_some_iff.mp atStep).1
      (phase.imp_right (.imp_right fun effect => ⟨effect, replayable effect⟩)) ready.before
  rw [executeSteps_open at' phase replayable] at ordinary ⊢
  cases result : executeStep D c index step (stepSnapshot row) snapshot w with
  | error outcome =>
    rw [result] at stage ordinary
    exact stage ordinary
  | ok next =>
    rw [result] at stage advances ordinary
    obtain ⟨none, working⟩ := stage
    obtain ⟨-, synced, before⟩ := advances
    refine iff_of_true ((later ⟨synced, working.matching, before, working.fresh⟩ ordinary).mpr ?_)
      none
    exact not_stranded_of_pending before working.pending

theorem executeSteps_done_iff (rest : c.steps.drop index = left) (ready : Ready c index snapshot w)
    (ordinary : OrdinaryFailure (executeSteps D c index left snapshot w).1 = true) :
    CompensationsDone c.steps (executeSteps D c index left snapshot w).2 ↔
      ¬ Stranded D c w.run.saga.cancelRequested w.budgets w.run.saga := by
  induction left generalizing index snapshot w with
  | nil => simp [executeSteps, OrdinaryFailure] at ordinary
  | cons step left ih =>
    obtain ⟨atStep, next⟩ := drop_cons rest
    have synced := ready.synced
    obtain ⟨row, atRow, planned, at'⟩ := ready.matching.stepAt synced atStep
    have plan : (stepSnapshot row).plan = row.plan := rfl
    have open' := fun phase replayable => executeSteps_open_iff ready atStep atRow at'
      (by rw [planned]; rfl) phase replayable ordinary (ih next)
    cases phase : row.actionPhase with
    | pending => exact open' (.inl phase) (by simp [phase])
    | intentRecorded => exact open' (.inr (.inl phase)) (by simp [phase])
    | effectStarted =>
      by_cases never : row.plan.actionReplay = .never
      · have shown : (stepSnapshot row).actionPhase = some .actionEffect := by simpa using phase
        rw [executeSteps, at'] at ordinary
        simp only [shown, plan, never, and_self, if_true,
          markOutcomeUnknown_not_ordinary, Bool.false_eq_true] at ordinary
      · exact open' (.inr (.inr phase)) (fun _ => never)
    | succeeded =>
      have shown : (stepSnapshot row).actionPhase = some .actionSucceeded := by simpa using phase
      rw [executeSteps, at'] at ordinary ⊢
      simp only [shown] at ordinary ⊢
      refine ih next ⟨synced, ready.matching, ready.before.step ?_, ready.fresh⟩ ordinary
      intro other found
      obtain rfl := Option.mem_unique found atRow
      exact phase
    | failed =>
      have shown : (stepSnapshot row).actionPhase = some .actionFailed := by simpa using phase
      have bounded : index < c.steps.length := (List.getElem?_eq_some_iff.mp atStep).1
      have above := synced.ordered.pendingAbove atRow (by simp [phase])
      have none : ¬ Stranded D c w.run.saga.cancelRequested w.budgets
          w.run.saga := by
        rw [stranded_iff ready.before atStep atRow (by simp [phase])]
        simp [phase]
      rw [executeSteps, at'] at ordinary ⊢
      simp only [shown] at ordinary ⊢
      refine iff_of_true
        (compensateRecoverable_done ?_ synced ready.matching ready.fresh ordinary ?_) none
      · split <;> omega
      · split
        · exact above.unstarted synced.ordered
        next unstarted =>
          intro i other least found
          by_cases same : i = index
          · subst same
            obtain rfl := Option.mem_unique found atRow
            simpa [stepSnapshot] using unstarted
          · exact above.unstarted synced.ordered i other (by omega) found
    | outcomeUnknown =>
      have shown : (stepSnapshot row).actionPhase = some .outcomeUnknown := by
        simp [stepSnapshot, actionPhaseProto, phase]
      rw [executeSteps, at'] at ordinary
      simp [shown, OrdinaryFailure] at ordinary

/-! ## Whole executions -/

theorem planSteps_getElem? {seen planned} (h : planSteps index seen steps = .ok planned) (i : Nat) :
    planned[i]? = (steps[i]?).map (stepPlan (index + i)) := by
  induction steps generalizing index seen planned i with
  | nil =>
    obtain rfl : [] = planned := by simpa [planSteps] using h
    simp
  | cons step steps ih =>
    rw [planSteps] at h
    split at h
    · contradiction
    split at h
    · contradiction
    rename_i rest built
    cases h
    cases i with
    | zero => simp
    | succ i =>
      simp only [getElem?_cons_succ]
      rw [ih built i]
      congr 2
      omega

theorem buildSagaPlan_steps (h : buildSagaPlan D steps = .ok plan) (i : Nat) :
    plan.steps[i]? = (steps[i]?).map (stepPlan i) := by
  unfold buildSagaPlan at h
  split at h
  · contradiction
  next planned built =>
    cases h
    simpa using planSteps_getElem? built i

def Planned (D : Digests) (steps : List Step) (saga : RunSaga) : Prop :=
  saga.planDigest ≠ "" → (∃ plan, buildSagaPlan D steps = .ok plan) ∧ Matching steps saga

@[simp] theorem cancelRun_planDigest (run hasModelEffects) :
    (cancelRun run hasModelEffects).saga.planDigest = run.saga.planDigest := by
  unfold cancelRun
  split
  · rfl
  split <;> rfl

theorem SessionStep.planned (h : SessionStep D steps s s') (ordered : Ordered s.run.saga)
    (planned : Planned D steps s.run.saga) :
    Planned D steps s'.run.saga := by
  cases h with
  | @progress progress after accepted permitted =>
    obtain ⟨-, saga, stored, rfl⟩ := reportProgress_ok accepted
    cases progress with
    | plan plan =>
      obtain ⟨-, -, -, ⟨-, -, rfl⟩ | ⟨-, rfl⟩⟩ := bindRunSaga_ok stored
      · intro _
        refine ⟨⟨plan, permitted⟩, fun i => ?_⟩
        simp only [Session.commit, getElem?_map, Option.map_map]
        rw [← buildSagaPlan_steps permitted i]
        exact Option.map_id'
      · exact planned
    | receipt receipt =>
      obtain ⟨bound, ⟨-, rfl⟩ | ⟨-, index, row, row', recorded⟩⟩ :=
        recordRunSaga_ok ordered.contiguous stored
      · exact planned
      · intro _
        obtain ⟨built, matching⟩ := planned bound
        exact ⟨built, matching.touched (.of_set recorded.position
          recorded.moves.extends.plan recorded.steps)⟩
  | cancel hasModelEffects =>
    intro bound
    simp only [Session.cancel, Session.commit, cancelRun_planDigest] at bound
    obtain ⟨built, matching⟩ := planned bound
    refine ⟨built, fun i => ?_⟩
    simp only [Session.cancel, Session.commit, cancelRun_steps]
    exact matching i

theorem SessionSteps.planned (h : SessionSteps D steps s s') (ordered : Ordered s.run.saga)
    (planned : Planned D steps s.run.saga) : Planned D steps s'.run.saga :=
  SessionSteps.keeps SessionStep.planned h ordered planned

theorem run_planned {ops} (same : ∀ call, .execute call ∈ ops → call.steps = steps) :
    Ordered (run (operate D) createdSession ops).run.saga ∧
      Planned D steps (run (operate D) createdSession ops).run.saga :=
  run_keeps SessionStep.planned (fun _ _ planned => planned)
    (fun bound => absurd rfl bound) same

def cancelledAtStart (c : Call) (run : BrainRun) : Bool :=
  run.saga.cancelRequested || !(c.env.cancels 0).isEmpty && !isRunTerminal run.status

theorem cancelRun_cancelRequested (run hasModelEffects) :
    (cancelRun run hasModelEffects).saga.cancelRequested =
      (run.saga.cancelRequested || !isRunTerminal run.status) := by
  unfold cancelRun
  split
  next terminal => simp [terminal]
  next active => split <;> simp [active]

theorem cancels_cancelRequested (cancels : List Bool) (s : Session) :
    (cancels.foldl Session.cancel s).run.saga.cancelRequested = (s.run.saga.cancelRequested ||
        !cancels.isEmpty && !isRunTerminal s.run.status) := by
  induction cancels generalizing s with
  | nil => simp
  | cons m cancels ih =>
    rw [foldl_cons, ih]
    simp only [Session.cancel, Session.commit, cancelRun_cancelRequested,
      isEmpty_cons, Bool.not_false, Bool.true_and]
    cases terminal : isRunTerminal s.run.status with
    | false => simp
    | true => simp [cancelRun, terminal]

theorem cancels_planDigest (cancels : List Bool) (s : Session) :
    (cancels.foldl Session.cancel s).run.saga.planDigest =
      s.run.saga.planDigest := by
  induction cancels generalizing s with
  | nil => rfl
  | cons m cancels ih =>
    rw [foldl_cons, ih]
    exact cancelRun_planDigest s.run m

theorem stranded_congr (steps : saga'.steps = saga.steps) :
    Stranded D c cancelRequested budgets saga' ↔ Stranded D c cancelRequested budgets saga := by
  simp only [Stranded, SucceededBefore, LeavesBehind, CompensatedBelow, steps]

theorem exchange_plan_rows (h : exchange D c.env (.plan plan) (startWorld s c.env.budgets) =
      (.ok snapshot, w)) (ordered : Ordered s.run.saga) :
    snapshot.planDigest = plan.planDigest ∧ snapshot.cancelRequested = s.run.saga.cancelRequested ∧
      w.run.saga.planDigest ≠ "" ∧ w.run.saga.cancelRequested = cancelledAtStart c s.run ∧
      w.budgets = c.env.budgets ∧ w.effects = [] ∧ (w.run.saga.steps = s.run.saga.steps ∨
        PendingAbove s.run.saga 0 ∧ PendingAbove w.run.saga 0) := by
  obtain ⟨after, accepted, rfl, later, -, effects, budgets⟩ := exchange_ok h
  obtain ⟨-, saga, stored, rfl⟩ := reportProgress_ok accepted
  obtain ⟨nonempty, digest, -, bound⟩ := bindRunSaga_ok stored
  have flag : saga.cancelRequested = s.run.saga.cancelRequested := by
    rcases bound with ⟨-, -, rfl⟩ | ⟨-, rfl⟩ <;> rfl
  refine ⟨digest, flag, ?_, ?_, budgets, effects, ?_⟩
  · rw [later, cancels_planDigest]
    exact digest ▸ nonempty
  · rw [later, cancels_cancelRequested]
    simp only [Session.commit, flag]
    rfl
  · rw [later, cancels_steps]
    rcases bound with ⟨unbound, -, rfl⟩ | ⟨-, rfl⟩
    · right
      refine ⟨?_, ?_⟩
      · intro i row _ found
        simp [ordered.unbound unbound] at found
      · intro i row _ found
        simp only [cancels_steps, Session.commit, getElem?_map, Option.map_eq_some_iff] at found
        obtain ⟨step, -, rfl⟩ := found
        rfl
    · exact .inl rfl

/--
An execution of a saga whose earlier executions had the same steps, and which
ends in an ordinary failure, leaves every started step compensated exactly if
the run had been cancelled before or no step is left behind at the first open
one.
-/
theorem compensationsDone_iff (D : Digests) (c : Call) (ops : List Operation)
    (same : ∀ call, .execute call ∈ ops → call.steps = c.steps)
    (ordinary : OrdinaryFailure (executeRecoverable D c
      (run (operate D) createdSession ops)).1 = true) :
    CompensationsDone c.steps (executeRecoverable D c (run (operate D) createdSession ops)).2 ↔
      ((run (operate D) createdSession ops).run.saga.cancelRequested = true ∨
        ¬ Stranded D c (cancelledAtStart c (run (operate D) createdSession ops).run)
          c.env.budgets (run (operate D) createdSession ops).run.saga) := by
  obtain ⟨ordered, planned⟩ := run_planned (D := D) same
  generalize run (operate D) createdSession ops = s at ordered planned ordinary
  unfold executeRecoverable at ordinary ⊢
  dsimp only at ordinary ⊢
  cases built : buildSagaPlan D c.steps with
  | error message =>
    have unbound : s.run.saga.planDigest = "" := by
      by_contra bound
      obtain ⟨⟨plan, other⟩, -⟩ := planned bound
      simp [built] at other
    have empty := ordered.unbound unbound
    dsimp only
    refine iff_of_true ⟨?_, .nil⟩ (.inr ?_)
    · intro i step row _ _ atRow
      simp [startWorld, empty] at atRow
    · rintro ⟨i, step, row, -, -, atRow, -⟩
      simp [empty] at atRow
  | ok plan =>
    simp only [built] at ordinary ⊢
    cases sent : exchange D c.env (.plan plan) (startWorld s c.env.budgets) with
    | mk answer w =>
    simp only [sent] at ordinary ⊢
    cases answer with
    | error err => simp [OrdinaryFailure] at ordinary
    | ok snapshot =>
      obtain ⟨digest, flag, bound, now, budgets, effects, rows⟩ := exchange_plan_rows sent ordered
      have session : SessionSteps D c.steps s w.toSession :=
        (exchange_sessionSteps sent built :)
      obtain ⟨-, matching⟩ := SessionSteps.planned session ordered planned bound
      have fresh : compensations w.effects = [] := by
        rw [effects]
        rfl
      dsimp only at ordinary ⊢
      rw [if_neg (by simp [digest])] at ordinary ⊢
      by_cases unknown : snapshot.state = .outcomeUnknown
      · simp [unknown, OrdinaryFailure] at ordinary
      have synced := exchange_plan_synced sent ordered unknown
      rw [if_neg unknown] at ordinary ⊢
      cases cancelled : s.run.saga.cancelRequested with
      | true =>
        rw [if_pos (flag.trans cancelled)] at ordinary ⊢
        refine iff_of_true (compensateRecoverable_done
          (Nat.le_refl _) synced matching fresh ordinary ?_) (.inl rfl)
        intro i row least atRow
        have beyond := matching i
        simp [atRow, getElem?_eq_none least] at beyond
      | false =>
        rw [if_neg (by simp [flag, cancelled])] at ordinary ⊢
        rw [executeSteps_done_iff drop_zero
          ⟨synced, matching, fun i row less => by omega, fresh⟩ ordinary, now, budgets]
        simp only [Bool.false_eq_true, false_or]
        rcases rows with steps | ⟨pending, pending'⟩
        · rw [stranded_congr steps]
        · exact iff_of_true (not_stranded_of_pending (fun _ _ less => by omega) pending')
            (not_stranded_of_pending (fun _ _ less => by omega) pending)

/-- An execution that dies after the effect of `reserve` was started. -/
def crashedInReserve : List Operation :=
  [.execute (reserveNotify { calm with
    fault := fun call => if call = 3 then .notApplied else .none })]

/-- The context has ended when the crashed execution is taken up again. -/
def endedContext : Call := reserveNotify { calm with ctxErr := fun _ _ => some "context canceled" }

/--
`reserve` was started before the crash.  The execution that takes the run up
fails with the cancelled context and never compensates it.
-/
theorem compensationsDone_endedContext :
    ¬ (OrdinaryFailure (executeRecoverable reserveNotifyDigests endedContext
        (run (operate reserveNotifyDigests) createdSession crashedInReserve)).1 = true →
      CompensationsDone endedContext.steps (executeRecoverable reserveNotifyDigests endedContext
          (run (operate reserveNotifyDigests) createdSession crashedInReserve)).2) := by
  intro h
  have done := (h (by decide)).complete 0 reserveStep
  obtain ⟨row, atRow, started, open'⟩ : ∃ row, (executeRecoverable reserveNotifyDigests endedContext
        (run (operate reserveNotifyDigests) createdSession
          crashedInReserve)).2.run.saga.steps[0]? = some row ∧
      row.actionEffectStarted = true ∧
      row.compensationPhase = .pending := ⟨_, rfl, by decide, by decide⟩
  have compensated := done row (by decide) rfl atRow rfl started
  simp [open'] at compensated

/-- The same crash, taken up by an execution whose `notify` fails. -/
theorem compensationsDone_failedNotify : CompensationsDone [reserveStep, notifyStep]
        (executeRecoverable reserveNotifyDigests (reserveNotify { calm with
            runErr := fun index =>
              if index = 1 then some "smtp down" else none })
          (run (operate reserveNotifyDigests) createdSession crashedInReserve)).2 := by
  refine (compensationsDone_iff reserveNotifyDigests (reserveNotify { calm with
      runErr := fun index => if index = 1 then some "smtp down" else none })
    crashedInReserve ?_ (by decide)).mpr (.inr ?_)
  · intro call member
    obtain rfl : call = _ := by simpa [crashedInReserve] using member
    rfl
  · rintro ⟨index, step, row, -, atStep, atRow, -, leaves⟩
    have guards : ∀ row ∈ (run (operate reserveNotifyDigests) createdSession
        crashedInReserve).run.saga.steps, row.guardDigest = "" ∨
          row.guardDigest = stepGuardDigest reserveNotifyDigests reserveStep
            false ⟨0, 0, 0⟩ := by decide
    have calmGuard : ∀ step ∈ [reserveStep, notifyStep],
        (validateStepGuard step false ⟨0, 0, 0⟩ fun _ => 0).1 = none := by
      decide
    rcases leaves with ⟨⟨recorded, changed⟩, -⟩ | ⟨-, -, -, ctx | guard⟩
    · exact (guards row (mem_of_getElem? atRow)).elim recorded changed
    · exact ctx rfl
    · exact guard (calmGuard step (mem_of_getElem? atStep))

end YuFeng.Saga

import YuFeng.Saga.Execution

/-!
# The path of an execution

The executor is followed function by function, once.  It moves by receipts for
which it knows the row of the step to be ready, and by calls whose effect
boundary is recorded.  It ends with an outcome of its own or at a receipt that
was not recorded.  What holds of every execution follows from what these steps
keep.
-/

namespace YuFeng.Saga

open YuFeng.Library List

def Effect.index : Effect → Nat
  | .action index | .compensation index => index

def Effect.once (row : StepRow) : Effect → Bool
  | .action _ => row.plan.actionReplay = .never
  | .compensation _ => row.plan.compensationReplay = .never

def Effect.unbounded (row : StepRow) : Effect → Bool
  | .action _ =>
    row.actionPhase = .pending || row.actionPhase = .intentRecorded
  | .compensation _ =>
    row.compensationPhase = .pending || row.compensationPhase = .intentRecorded

variable {D : Digests} {c : Call} {bound index count : Nat} {row' : StepRow}
  {receipt : SagaReceipt} {saga saga' : RunSaga} {env : Environment} {context cause : String}
  {w w' w₁ : World} {state : SagaStepSnapshot} {snapshot : SagaSnapshot} {outcome : Outcome}
  {result : Outcome × World} {steps : List Step} {needed : Bool}

/-! ## Single rows -/

/-- Only the row at `index` changes, and it keeps its plan. -/
structure Touched (index : Nat) (saga saga' : RunSaga) : Prop where
  others : ∀ i : Nat, i ≠ index → saga'.steps[i]? = saga.steps[i]?
  plans : ∀ i : Nat, (saga'.steps[i]?).map StepRow.plan = (saga.steps[i]?).map StepRow.plan

theorem Touched.refl (index saga) : Touched index saga saga :=
  ⟨fun _ _ => rfl, fun _ => rfl⟩

theorem Touched.trans {first second third} (h₁ : Touched index first second)
    (h₂ : Touched index second third) : Touched index first third :=
  ⟨fun i other => (h₂.others i other).trans (h₁.others i other),
    fun i => (h₂.plans i).trans (h₁.plans i)⟩

theorem SucceededBefore.touched (h : SucceededBefore saga index)
    (touched : Touched index saga saga') : SucceededBefore saga' index := by
  intro i row before found
  rw [touched.others i (by omega)] at found
  exact h i row before found

theorem SucceededBefore.step (h : SucceededBefore saga index)
    (here : ∀ row, saga.steps[index]? = some row →
      row.actionPhase = .succeeded) : SucceededBefore saga (index + 1) := by
  intro i row before found
  by_cases same : i = index
  · subst same
    exact here row found
  · exact h i row (by omega) found

def Matching (steps : List Step) (saga : RunSaga) : Prop :=
  ∀ i : Nat, (saga.steps[i]?).map StepRow.plan = (steps[i]?).map (stepPlan i)

theorem Matching.touched (h : Matching steps saga)
    (touched : Touched index saga saga') : Matching steps saga' :=
  fun i => (touched.plans i).trans (h i)

theorem Matching.row {step} (h : Matching steps saga) (position : steps[index]? = some step) :
    ∃ row, saga.steps[index]? = some row ∧ row.plan = stepPlan index step := by
  have plan := h index
  rw [position, Option.map_some, Option.map_eq_some_iff] at plan
  exact plan

variable {row : StepRow} {step : Step}

theorem Touched.of_set (position : saga.steps[index]? = some row) (plan : row'.plan = row.plan)
    (steps : saga'.steps = saga.steps.set index row') : Touched index saga saga' := by
  refine ⟨?_, ?_⟩
  · intro i other
    rw [steps, getElem?_set_ne (Ne.symm other)]
  · intro i
    rw [steps]
    by_cases same : index = i
    · subst same
      simp [getElem?_set_of_some position row', position, plan]
    · rw [getElem?_set_ne same]

theorem Matching.plan (h : Matching steps saga) (atStep : steps[index]? = some step)
    (atRow : saga.steps[index]? = some row) : row.plan = stepPlan index step := by
  have plan := h index
  rw [atStep, atRow] at plan
  exact Option.some.inj plan

structure Wrote (index : Nat) (receipt : SagaReceipt) (w w' : World)
    (row row' : StepRow) : Prop where
  ordered : Ordered w'.run.saga
  known : w'.run.saga.state ≠ .outcomeUnknown
  effects : w'.effects = w.effects
  touched : Touched index w.run.saga w'.run.saga
  was : w.run.saga.steps[index]? = some row
  now : w'.run.saga.steps[index]? = some row'
  moves : Moves receipt row row'

theorem recordSaga_wrote (h : recordSaga D env context receipt w = (.ok snapshot, w'))
    (ordered : Ordered w.run.saga)
    (known : w.run.saga.state ≠ .outcomeUnknown)
    (inTurn : InTurn w.run.saga receipt)
    (settles : receipt.phase ≠ .outcomeUnknown)
    (sequence : receipt.sequence = index + 1) :
    Synced snapshot w' ∧ ∃ row row', Wrote index receipt w w' row row' := by
  obtain ⟨synced, effects, -, at', row, row', numbered, position, moves,
    rows⟩ := recordSaga_ok h ordered known inTurn settles
  obtain rfl : at' = index := by omega
  refine ⟨synced, row, row', synced.ordered, synced.known, effects,
    .of_set position moves.extends.plan rows, position, ?_, moves⟩
  rw [rows]
  exact getElem?_set_of_some position row'

theorem recordWhen_none (h : recordWhen D env needed context receipt w = (none, w')) :
    needed = false ∧ w' = w ∨ needed = true ∧
        ∃ snapshot, recordSaga D env context receipt w = (.ok snapshot, w') := by
  unfold recordWhen at h
  split at h
  next wanted =>
    split at h
    · simp at h
    next snapshot w₁ result =>
      obtain rfl : w₁ = w' := by simpa using h
      exact .inr ⟨wanted, snapshot, result⟩
  next unwanted => exact .inl ⟨by simpa using unwanted, by simpa [eq_comm] using h⟩

theorem recordWhen_some (h : recordWhen D env needed context receipt w = (some outcome, w')) :
    needed = true ∧ recordSaga D env context receipt w = (.error outcome, w') := by
  unfold recordWhen at h
  split at h
  next wanted =>
    split at h
    next found w₁ result =>
      obtain ⟨rfl, rfl⟩ : found = outcome ∧ w₁ = w' := by simpa using h
      exact ⟨wanted, result⟩
    · simp at h
  · simp at h

/-! ## The steps of the executor -/

/-- Error texts of the step functions fit the journal. -/
structure Terse (env : Environment) : Prop where
  run : ∀ (index : Nat) (err : String), env.runErr index = some err → err.utf8ByteSize ≤ 2048
  compensate : ∀ (index : Nat) (err : String),
    env.compensateErr index = some err → err.utf8ByteSize ≤ 2048

def GuardsFit (D : Digests) : Prop :=
  ∀ (step : Step) (sandbox : Bool) (limit : ResourceLimit),
    (stepGuardDigest D step sandbox limit).utf8ByteSize ≤ 128

/-- What the executor knows of a row when it sends a receipt for it. -/
structure Issued (D : Digests) (c : Call) (saga : RunSaga)
    (index : Nat) (row : StepRow) (receipt : SagaReceipt) : Prop where
  position : saga.steps[index]? = some row
  sequence : receipt.sequence = index + 1
  key : receipt.stepKey = row.plan.stepKey
  guard : row.guardDigest = "" ∨ receipt.guardDigest = "" ∨ row.guardDigest = receipt.guardDigest
  fits : Terse c.env → GuardsFit D → row.plan.stepKey.utf8ByteSize ≤ 128 → Fits receipt
  next : Matching c.steps saga → row.actionPhase ≠ .outcomeUnknown →
    (nextPhases receipt.phase row).isSome = true
  inTurn : InTurn saga receipt

theorem Issued.permitted (h : Issued D c saga index row receipt) :
    Permitted D [] saga (.receipt receipt) := h.inTurn

/-- The indices of the steps are below the bound.  A call is preceded by the
receipt of its effect boundary, unless that was recorded before. -/
inductive WorldStep (D : Digests) (c : Call) (bound : Nat) : World → World → Prop
  | note {w w' : World} (session : w'.toSession = w.toSession)
      (effects : w'.effects = w.effects) : WorldStep D c bound w w'
  | receipt {w w' : World} {index : Nat} {row : StepRow} {receipt : SagaReceipt}
      {snapshot : SagaSnapshot} (below : index < bound)
      (issued : Issued D c w.run.saga index row receipt)
      (settles : receipt.phase ≠ .outcomeUnknown)
      (sent : exchange D c.env (.receipt receipt) w = (.ok snapshot, w')) :
      WorldStep D c bound w w'
  | call (effect : Effect) {w w₁ w' : World} {row row₁ : StepRow}
      (recorded : WorldStep D c bound w w₁) (quiet : w₁.effects = w.effects)
      (was : w.run.saga.steps[effect.index]? = some row)
      (fresh : effect.once row = true → effect.unbounded row = true)
      (now : w₁.run.saga.steps[effect.index]? = some row₁) (plan : row₁.plan = row.plan)
      (bounded : effect.unbounded row₁ = false) (session : w'.toSession = w₁.toSession)
      (effects : w'.effects = w₁.effects ++ [effect]) : WorldStep D c bound w w'

abbrev Path (D : Digests) (c : Call) (bound : Nat) : World → World → Prop :=
  Relation.ReflTransGen (WorldStep D c bound)

/-- The answer of the brain to the receipt an execution stopped at. -/
def refusal : Outcome → Option RpcError
  | .journal context (.brain err) =>
    if context = "bind saga plan" then none else some err
  | .compensationUnrecorded _ (.brain err) => some err
  | _ => none

/-- An ordinary failure: no unknown outcome, journal error or failed
compensation. -/
def OrdinaryFailure : Outcome → Bool
  | .failed _ | .invalidPlan _ | .precondition _ => true
  | _ => false

/-- How an execution ends: by itself, or with a receipt that is not recorded or
records an unknown outcome. -/
inductive Finishes (D : Digests) (c : Call) (bound : Nat) (w : World) :
    Outcome × World → Prop
  | own {outcome : Outcome} {w' : World} (path : Path D c bound w w')
      (answered : refusal outcome = none) :
      Finishes D c bound w (outcome, w')
  | sent {outcome : Outcome} {w₁ w' : World} {index : Nat} {row : StepRow}
      {receipt : SagaReceipt} {answer : Except JournalError SagaSnapshot}
      (path : Path D c bound w w₁) (below : index < bound)
      (issued : Issued D c w₁.run.saga index row receipt)
      (sent : exchange D c.env (.receipt receipt) w₁ = (answer, w'))
      (shown : outcome = .outcomeUnknown ∨ ∃ err text, answer = .error err ∧
        (outcome = .journal text err ∨ outcome = .compensationUnrecorded text err)) :
      Finishes D c bound w (outcome, w')

theorem Finishes.after (before : Path D c bound w w₁)
    (h : Finishes D c bound w₁ result) : Finishes D c bound w result := by
  cases h with
  | own path answered => exact .own (before.trans path) answered
  | sent path below issued sent shown =>
    exact .sent (before.trans path) below issued sent shown

theorem WorldStep.sessionSteps (h : WorldStep D c bound w w') :
    SessionSteps D steps w.toSession w'.toSession := by
  induction h with
  | note session => rw [session]
  | receipt _ issued _ sent => exact exchange_sessionSteps sent issued.inTurn
  | call _ _ _ _ _ _ _ _ session _ ih => rwa [session]

theorem Path.sessionSteps (h : Path D c bound w w') :
    SessionSteps D steps w.toSession w'.toSession := by
  induction h with
  | refl => exact .refl
  | tail _ step ih => exact ih.trans step.sessionSteps

theorem Path.ordered (h : Path D c bound w w') (ordered : Ordered w.run.saga) :
    Ordered w'.run.saga :=
  SessionSteps.ordered (@Path.sessionSteps D c bound w w' [] h) ordered

theorem Path.event (w event) : Path D c bound w (w.event event) :=
  .single (.note rfl rfl)

/-! ## Receipts -/

/-- The row the executor works at. -/
structure Stands (saga : RunSaga) (index : Nat) (step : Step) (row : StepRow) : Prop where
  ordered : Ordered saga
  known : saga.state ≠ .outcomeUnknown
  position : saga.steps[index]? = some row
  key : row.plan.stepKey = step.name

theorem Wrote.stands (h : Wrote index receipt w w' row row')
    (stands : Stands w.run.saga index step row) : Stands w'.run.saga index step row' :=
  ⟨h.ordered, h.known, h.now, by rw [h.moves.extends.plan, stands.key]⟩

theorem recordSaga_exchange (h : recordSaga D env context receipt w = (.ok snapshot, w')) :
    exchange D env (.receipt receipt) w = (.ok snapshot, w') := by
  unfold recordSaga at h
  split at h
  · cases h
  next sent =>
    cases h
    exact sent

theorem recordSaga_finishes (h : recordSaga D c.env context receipt w = (.error outcome, w'))
    (issued : Issued D c w.run.saga index row receipt) (below : index < bound) :
    Finishes D c bound w (outcome, w') ∧ OrdinaryFailure outcome = false := by
  unfold recordSaga at h
  split at h
  next err _ sent =>
    cases h
    exact ⟨.sent .refl below issued sent (.inr ⟨err, context, rfl, .inl rfl⟩), rfl⟩
  · cases h

theorem recordSaga_of_exchange (context)
    (sent : exchange D env (.receipt receipt) w = (.ok snapshot, w')) :
    recordSaga D env context receipt w = (.ok snapshot, w') := by
  rw [recordSaga, sent]

/-- What the executor has of a receipt. -/
def Sent (D : Digests) (c : Call) (bound index : Nat) (receipt : SagaReceipt)
    (row : StepRow) (w : World) : Except Outcome SagaSnapshot × World → Prop
  | (.error outcome, w') =>
    Finishes D c bound w (outcome, w') ∧ OrdinaryFailure outcome = false
  | (.ok snapshot, w') => WorldStep D c bound w w' ∧ Synced snapshot w' ∧
      ∃ row', Wrote index receipt w w' row row'

theorem recordSaga_sent {result} (h : recordSaga D c.env context receipt w = result)
    (stands : Stands w.run.saga index step row)
    (issued : Issued D c w.run.saga index row receipt) (below : index < bound)
    (settles : receipt.phase ≠ .outcomeUnknown) :
    Sent D c bound index receipt row w result := by
  obtain ⟨outcome | snapshot, w'⟩ := result
  · exact recordSaga_finishes h issued below
  · obtain ⟨synced, was, row', wrote⟩ := recordSaga_wrote h stands.ordered stands.known
      issued.inTurn settles issued.sequence
    obtain rfl := Option.mem_unique wrote.was stands.position
    exact ⟨.receipt below issued settles (recordSaga_exchange h), synced, row', wrote⟩

def SentWhen (D : Digests) (c : Call) (bound index : Nat) (receipt : SagaReceipt)
    (row : StepRow) (needed : Prop) (w : World) : Option Outcome × World → Prop
  | (some outcome, w') =>
    Finishes D c bound w (outcome, w') ∧ OrdinaryFailure outcome = false
  | (none, w') => WorldStep D c bound w w' ∧
      (needed ∧ (∃ row', Wrote index receipt w w' row row') ∨ ¬ needed ∧ w' = w)

theorem recordWhen_sent {needed : Prop} [Decidable needed] {result}
    (h : recordWhen D c.env needed context receipt w = result)
    (stands : Stands w.run.saga index step row)
    (issued : needed → Issued D c w.run.saga index row receipt) (below : index < bound)
    (settles : receipt.phase ≠ .outcomeUnknown) :
    SentWhen D c bound index receipt row needed w result := by
  obtain ⟨_ | outcome, w'⟩ := result
  · rcases recordWhen_none h with ⟨idle, rfl⟩ | ⟨wanted, snapshot, recorded⟩
    · exact ⟨.note rfl rfl, .inr ⟨by simpa using idle, rfl⟩⟩
    · have wanted : needed := by simpa using wanted
      obtain ⟨moved, -, wrote⟩ := recordSaga_sent recorded stands (issued wanted) below settles
      exact ⟨moved, .inl ⟨wanted, wrote⟩⟩
  · obtain ⟨wanted, recorded⟩ := recordWhen_some h
    exact recordSaga_finishes recorded (issued (by simpa using wanted)) below

theorem Synced.stands_row (h : Synced snapshot w) (position : w.run.saga.steps[index]? = some row)
    (key : row.plan.stepKey = step.name) : Stands w.run.saga index step row :=
  ⟨h.ordered, h.known, position, key⟩

theorem Synced.stands (h : Synced snapshot w)
    (found : sagaStepAt snapshot index step.name = .ok state) :
    ∃ row, Stands w.run.saga index step row ∧ state = stepSnapshot row := by
  unfold sagaStepAt at found
  split at found
  · contradiction
  rename_i step' atSnapshot
  split at found
  · contradiction
  next numbered =>
    cases found
    rw [h.steps, getElem?_map, Option.map_eq_some_iff] at atSnapshot
    obtain ⟨row, position, rfl⟩ := atSnapshot
    refine ⟨row, ⟨h.ordered, h.known, position, ?_⟩, rfl⟩
    by_contra other
    exact numbered (.inr other)

@[simp] theorem stepSnapshot_actionPhase (row) :
    ((stepSnapshot row).actionPhase = some .actionSucceeded ↔ row.actionPhase = .succeeded) ∧
    ((stepSnapshot row).actionPhase = some .actionFailed ↔ row.actionPhase = .failed) ∧
    ((stepSnapshot row).actionPhase = some .actionEffect ↔ row.actionPhase = .effectStarted) ∧
    ((stepSnapshot row).actionPhase = none ↔ row.actionPhase = .pending) := by
  cases h : row.actionPhase <;> simp [stepSnapshot, actionPhaseProto, h]

@[simp] theorem stepSnapshot_compensationPhase (row) :
    ((stepSnapshot row).compensationPhase = some .compensationEffect ↔
      row.compensationPhase = .effectStarted) ∧
    ((stepSnapshot row).compensationPhase = some .compensated ↔
      row.compensationPhase = .compensated) := by
  cases h : row.compensationPhase <;> simp [stepSnapshot, compensationPhaseProto, h]

/-! ## Compensation -/

theorem nextPhases_outcomeUnknown (never : row.plan.actionReplay = .never)
    (unsettled : row.actionPhase = .effectStarted) :
    (nextPhases .outcomeUnknown row).isSome = true := by
  simp only [nextPhases]
  rw [if_neg (by simp [never, unsettled])]
  split <;> rfl

theorem markOutcomeUnknown_finishes {reason} (stands : Stands w.run.saga index step row)
    (below : index < bound) (short : Terse c.env → reason.utf8ByteSize ≤ 2048)
    (next : (nextPhases .outcomeUnknown row).isSome = true) :
    Finishes D c bound w (markOutcomeUnknown D c.env row.plan reason w) ∧
      OrdinaryFailure (markOutcomeUnknown D c.env row.plan reason w).1 = false := by
  have issued : Issued D c w.run.saga index row
      ⟨row.plan.sequence, row.plan.stepKey, .outcomeUnknown, "", "", reason⟩ :=
    ⟨stands.position, stands.ordered.contiguous index row stands.position, rfl, .inr (.inl rfl),
      fun terse _ _ => ⟨by simp, by simp, short terse⟩, fun _ _ => next, nofun⟩
  unfold markOutcomeUnknown
  split
  next sent => exact recordSaga_finishes sent issued below
  next sent => exact ⟨.sent .refl below issued (recordSaga_exchange sent) (.inl rfl), rfl⟩

def compensations (effects : List Effect) : List Nat :=
  effects.filterMap fun
    | .compensation index => some index
    | .action _ => none

theorem markOutcomeUnknown_not_ordinary (env plan reason w) :
    OrdinaryFailure (markOutcomeUnknown D env plan reason w).1 = false := by
  unfold markOutcomeUnknown
  split
  next result =>
    obtain ⟨err, rfl⟩ := recordSaga_error result
    rfl
  · rfl

structure Compensated (index : Nat) (step : Step) (snapshot : SagaSnapshot)
    (w w' : World) : Prop where
  synced : Synced snapshot w'
  touched : Touched index w.run.saga w'.run.saga
  settled : ∀ row, w'.run.saga.steps[index]? = some row →
    step.compensate = true → row.actionEffectStarted = true → row.compensationPhase = .compensated
  called : compensations w'.effects = compensations w.effects ∨
    compensations w'.effects = compensations w.effects ++ [index]

/-- A step is compensated and the loop goes on, or the execution ends. -/
def Compensates (D : Digests) (c : Call) (bound index : Nat) (step : Step)
    (w : World) : Except Outcome SagaSnapshot × World → Prop
  | (.error outcome, w') =>
    Finishes D c bound w (outcome, w') ∧ OrdinaryFailure outcome = false
  | (.ok snapshot, w') => Path D c bound w w' ∧ Compensated index step snapshot w w'

theorem callCompensation_compensates (stands : Stands w₁.run.saga index step row)
    (below : index < bound) (effect : row.compensationPhase = .effectStarted)
    (before : Path D c bound w
      ((w₁.event ("compensate:" ++ step.name)).effect (.compensation index)))
    (touched : Touched index w.run.saga w₁.run.saga) (quiet : w₁.effects = w.effects) :
    Compensates D c bound index step w
      (callCompensation D c.env index step row.plan cause w₁) := by
  unfold callCompensation
  dsimp only
  split
  next err failed =>
    have issued : Issued D c w₁.run.saga index row
        ⟨index + 1, step.name, .compensationFailed, "", "", err⟩ :=
      ⟨stands.position, rfl, stands.key.symm, .inr (.inl rfl),
        fun terse _ _ => ⟨by simp, by simp, terse.compensate index err failed⟩,
        fun _ _ => by simp [nextPhases, effect], by simp [InTurn]⟩
    split
    next err _ sent =>
      exact ⟨.sent before below issued sent (.inr ⟨err, cause, rfl, .inr rfl⟩), rfl⟩
    next sent =>
      obtain ⟨moved, -, row', wrote⟩ :=
        recordSaga_sent (recordSaga_of_exchange "" sent) stands issued below (by simp)
      split
      next never =>
        have unsettled : row'.compensationPhase = .failed := by
          simpa [currentPhaseMatches] using wrote.moves.reached
        rw [← wrote.moves.extends.plan] at never ⊢
        exact (markOutcomeUnknown_finishes (wrote.stands stands) below
          (fun terse => terse.compensate index err failed)
          (by simp [nextPhases, unsettled, never])).imp_left (.after (before.tail moved))
      · exact ⟨.own (before.tail moved) rfl, rfl⟩
  · have issued : Issued D c w₁.run.saga index row
        ⟨index + 1, step.name, .compensated, "", "ok", ""⟩ :=
      ⟨stands.position, rfl, stands.key.symm, .inr (.inl rfl),
        fun _ _ _ => ⟨by simp, by dsimp only; decide, by simp⟩,
        fun _ _ => by simp [nextPhases, effect], by simp [InTurn]⟩
    generalize recorded : recordSaga D c.env _ _ _ = result
    have sent := recordSaga_sent recorded stands issued below (by simp)
    obtain ⟨_ | _, _⟩ := result
    · exact sent.imp_left (.after before)
    obtain ⟨moved, synced, row', wrote⟩ := sent
    refine ⟨before.tail moved, synced, touched.trans wrote.touched, ?_, .inr ?_⟩
    · intro other found _ _
      obtain rfl := Option.mem_unique wrote.now found
      simpa [currentPhaseMatches] using wrote.moves.reached
    · rw [wrote.effects]
      simp [compensations, World.effect, World.event, quiet]

theorem runCompensation_compensates (stands : Stands w.run.saga index step row)
    (below : index < bound) (atStep : c.steps[index]? = some step)
    (compensate : step.compensate = true) (started : row.actionEffectStarted = true)
    (open' : row.compensationPhase = .pending ∨ row.compensationPhase = .intentRecorded ∨
      (row.compensationPhase = .effectStarted ∨ row.compensationPhase = .failed) ∧
        row.plan.compensationReplay ≠ .never) :
    Compensates D c bound index step w
      (runCompensation D c.env index step (stepSnapshot row) cause w) := by
  have opened : (stepSnapshot row).compensationPhase = none ∨
      (stepSnapshot row).compensationPhase = some .compensationFailed →
      Issued D c w.run.saga index row
        ⟨index + 1, step.name, .compensationIntent, "", "", ""⟩ := by
    intro needed
    refine ⟨stands.position, rfl, stands.key.symm, .inr (.inl rfl),
      fun _ _ _ => ⟨by simp, by simp, by simp⟩, ?_, by simp [InTurn]⟩
    intro matching certain
    have planned : row.plan.hasCompensation = true := by
      rw [matching.plan atStep stands.position]
      exact compensate
    have worked := (stands.ordered.rows row (mem_of_getElem? stands.position)).unstarted
    have settled : row.actionPhase = .effectStarted ∨
        row.actionPhase = .succeeded ∨ row.actionPhase = .failed := by
      cases phase : row.actionPhase <;> simp_all
    have untouched : row.compensationPhase = .pending ∨ row.compensationPhase = .failed ∧
        row.plan.compensationReplay ≠ .never := by
      rcases open' with h | h | ⟨h | h, _⟩ <;>
        simp_all [stepSnapshot, compensationPhaseProto]
    simp only [nextPhases, planned, started]
    rw [if_neg (by grind), if_neg (by grind)]
    rfl
  unfold runCompensation
  generalize recorded : recordWhen D c.env _ _ _ _ = result
  have intent := recordWhen_sent recorded stands opened below (by simp)
  obtain ⟨_ | outcome, w₁⟩ := result
  rotate_left
  · exact intent
  obtain ⟨first, moved⟩ := intent
  -- The row is at its boundary or has the intent, whether or not that was recorded now.
  obtain ⟨row₁, stands₁, plan₁, touched₁, quiet₁, phase₁⟩ : ∃ row₁,
      Stands w₁.run.saga index step row₁ ∧ row₁.plan = row.plan ∧
      Touched index w.run.saga w₁.run.saga ∧ w₁.effects = w.effects ∧
        (row₁.compensationPhase = .intentRecorded ∧
          row.compensationPhase ≠ .effectStarted ∨
        row₁.compensationPhase = .effectStarted ∧ row.compensationPhase = .effectStarted ∧
          row.plan.compensationReplay ≠ .never) := by
    rcases moved with ⟨needed, row₁, wrote⟩ | ⟨unneeded, rfl⟩
    · refine ⟨row₁, wrote.stands stands, wrote.moves.extends.plan, wrote.touched, wrote.effects,
        .inl ⟨?_, ?_⟩⟩
      · simpa [currentPhaseMatches] using wrote.moves.reached
      · intro effect
        simp [stepSnapshot, compensationPhaseProto, effect] at needed
    · refine ⟨row, stands, rfl, .refl _ _, rfl, ?_⟩
      rcases open' with h | h | ⟨h | h, _⟩ <;>
        simp_all [stepSnapshot, compensationPhaseProto]
  have bounding : (stepSnapshot row).compensationPhase ≠ some .compensationEffect →
      Issued D c w₁.run.saga index row₁
        ⟨index + 1, step.name, .compensationEffect, "", "", ""⟩ := by
    intro boundary
    have intent := (phase₁.resolve_right fun late => boundary (by simpa using late.2.1)).1
    exact ⟨stands₁.position, rfl, stands₁.key.symm, .inr (.inl rfl),
      fun _ _ _ => ⟨by simp, by simp, by simp⟩, fun _ _ => by simp [nextPhases, intent],
      by simp [InTurn]⟩
  dsimp only
  generalize recorded : recordWhen D c.env _ _ _ _ = result
  have effect := recordWhen_sent recorded stands₁ bounding below (by simp)
  obtain ⟨_ | outcome, w₂⟩ := result
  rotate_left
  · exact effect.imp_left (.after (.single first))
  obtain ⟨second, moved₂⟩ := effect
  obtain ⟨row₂, stands₂, plan₂, touched₂, quiet₂, phase₂⟩ : ∃ row₂,
      Stands w₂.run.saga index step row₂ ∧ row₂.plan = row₁.plan ∧
      Touched index w₁.run.saga w₂.run.saga ∧ w₂.effects = w₁.effects ∧
      row₂.compensationPhase = .effectStarted := by
    rcases moved₂ with ⟨_, row₂, wrote⟩ | ⟨passed, rfl⟩
    · exact ⟨row₂, wrote.stands stands₁, wrote.moves.extends.plan, wrote.touched, wrote.effects,
        by simpa [currentPhaseMatches] using wrote.moves.reached⟩
    · exact ⟨row₁, stands₁, rfl, .refl _ _, rfl,
        (phase₁.resolve_left fun early => passed (by simpa using early.2)).1⟩
  have called : WorldStep D c bound w₁
      ((w₂.event ("compensate:" ++ step.name)).effect (.compensation index)) := by
    refine .call (.compensation index) second quiet₂ stands₁.position ?_ stands₂.position plan₂ ?_
      rfl rfl
    · rcases phase₁ with ⟨intent, -⟩ | ⟨-, -, again⟩
      · simp [Effect.unbounded, intent]
      · simp [Effect.once, plan₁, again]
    · simp [Effect.unbounded, phase₂]
  change Compensates D c bound index step w
    (callCompensation D c.env index step row.plan cause w₂)
  rw [← plan₁, ← plan₂]
  exact callCompensation_compensates stands₂ below phase₂ (.tail (.single first) called)
    (touched₁.trans touched₂) (quiet₂.trans quiet₁)

theorem compensateStep_compensates (synced : Synced snapshot w)
    (stands : Stands w.run.saga index step row) (below : index < bound)
    (atStep : c.steps[index]? = some step) :
    Compensates D c bound index step w
      (compensateStep D c.env index step (stepSnapshot row) cause snapshot w) := by
  have here : ∀ other, w.run.saga.steps[index]? = some other → other = row := by
    intro other found
    simpa [stands.position] using found.symm
  unfold compensateStep
  split
  next skipped =>
    refine ⟨.refl, synced, .refl _ _, ?_, .inl rfl⟩
    intro other found compensable started
    obtain rfl := here other found
    simp [compensable, stepSnapshot, started] at skipped
  rename_i both
  have both : step.compensate = true ∧ row.actionEffectStarted = true := by
    simpa [stepSnapshot] using both
  split
  next unsettled =>
    have unsettled : row.actionPhase = .effectStarted ∧ row.plan.actionReplay = .never :=
      ⟨by simpa using unsettled.1, unsettled.2⟩
    exact markOutcomeUnknown_finishes stands below (fun _ => by decide)
      (nextPhases_outcomeUnknown unsettled.2 unsettled.1)
  split
  next compensated =>
    refine ⟨.refl, synced, .refl _ _, ?_, .inl rfl⟩
    intro other found _ _
    obtain rfl := here other found
    simpa using compensated
  rename_i uncompensated
  split
  · exact ⟨.own .refl rfl, rfl⟩
  rename_i known
  split
  next stuck =>
    refine markOutcomeUnknown_finishes stands below (fun _ => by decide) ?_
    cases phase : row.compensationPhase <;>
      simp_all [stepSnapshot, compensationPhaseProto, nextPhases]
  next resumable =>
    refine runCompensation_compensates stands below atStep both.1 both.2 ?_
    cases phase : row.compensationPhase <;>
      simp_all [stepSnapshot, compensationPhaseProto]

theorem compensateRecoverable_finishes (synced : Synced snapshot w) (below : count ≤ bound) :
    Finishes D c bound w (compensateRecoverable D c count snapshot cause w) := by
  induction count generalizing snapshot w with
  | zero => exact .own .refl rfl
  | succ index ih =>
    unfold compensateRecoverable
    split
    · exact .own .refl rfl
    rename_i step atStep
    split
    · exact .own .refl rfl
    rename_i state found
    obtain ⟨row, stands, rfl⟩ := synced.stands found
    have one : Compensates D c bound index step w
        (compensateStep D c.env index step (stepSnapshot row) cause snapshot w) :=
      compensateStep_compensates synced stands below atStep
    split
    next result =>
      rw [result] at one
      exact one.1
    next result =>
      rw [result] at one
      exact .after one.1 (ih one.2.synced (by omega))

/-! ## Execution -/

theorem Moves.failed (h : Moves receipt row row') (phase : receipt.phase = .actionFailed) :
    row'.actionPhase = .failed ∧ row'.actionEffectStarted = row.actionEffectStarted ∧
      row'.compensationPhase = row.compensationPhase := by
  cases h with
  | stays same =>
    exact ⟨by simpa [phase, currentPhaseMatches] using same, rfl, rfl⟩
  | advances next =>
    have table := nextPhases_transition next
    rw [phase] at table
    cases table
    simp [phase]

def GuardKept (D : Digests) (c : Call) (step : Step) (row : StepRow) : Prop :=
  row.guardDigest = "" ∨ row.guardDigest = stepGuardDigest D step c.sandbox c.limit

theorem GuardKept.moved (h : GuardKept D c step row) (moves : Moves receipt row row')
    (guard : receipt.guardDigest = stepGuardDigest D step c.sandbox c.limit) :
    GuardKept D c step row' := by
  cases moves with
  | stays => exact h
  | advances =>
    unfold GuardKept at h ⊢
    rw [settleRow_guardDigest, guard]
    unfold firstNonEmpty
    split
    · exact .inr rfl
    · exact h

theorem Stands.guarded (h : Stands saga index step row) (kept : GuardKept D c step row)
    (sequence : receipt.sequence = index + 1) (key : receipt.stepKey = step.name)
    (digest : receipt.guardDigest = stepGuardDigest D step c.sandbox c.limit)
    (ref : receipt.receiptRef.utf8ByteSize ≤ 2048)
    (error : Terse c.env → step.name.utf8ByteSize ≤ 128 → receipt.error.utf8ByteSize ≤ 2048)
    (next : (nextPhases receipt.phase row).isSome = true) (inTurn : InTurn saga receipt) :
    Issued D c saga index row receipt where
  position := h.position
  sequence := sequence
  key := key.trans h.key.symm
  guard := by rw [digest]; exact kept.imp_right .inr
  fits terse guards short :=
    ⟨by rw [digest]; exact guards step c.sandbox c.limit, ref, error terse (h.key ▸ short)⟩
  next _ _ := next
  inTurn := inTurn

/-- A step is worked off and the loop goes on, or the execution ends. -/
def Advances (D : Digests) (c : Call) (bound index : Nat) (w : World) :
    Except (Outcome × World) (SagaSnapshot × World) → Prop
  | .error result => Finishes D c bound w result
  | .ok (snapshot, w') => Path D c bound w w' ∧ Synced snapshot w' ∧
      SucceededBefore w'.run.saga (index + 1)

theorem Advances.after {result} (before : Path D c bound w w₁)
    (h : Advances D c bound index w₁ result) : Advances D c bound index w result := by
  obtain _ | ⟨_, _⟩ := result
  · exact Finishes.after before h
  · exact ⟨before.trans h.1, h.2⟩

theorem Sent.failed (h : Sent D c bound index receipt row w (.ok snapshot, w'))
    (below : count ≤ bound) :
    Finishes D c bound w (compensateRecoverable D c count snapshot cause w') :=
  .after (.single h.1) (compensateRecoverable_finishes h.2.1 below)

theorem settleAction_advances (stands : Stands w.run.saga index step row) (below : index < bound)
    (kept : GuardKept D c step row) (effect : row.actionPhase = .effectStarted)
    (before : SucceededBefore w.run.saga index) :
    Advances D c bound index w (settleAction D c index step w) := by
  unfold settleAction
  dsimp only
  split
  next err failed =>
    have issued : Issued D c w.run.saga index row ⟨index + 1, step.name, .actionFailed,
        stepGuardDigest D step c.sandbox c.limit, "", err⟩ := by
      refine stands.guarded kept rfl rfl rfl (by simp) (fun terse named => ?_)
        (by simp [nextPhases, effect]) (by simp [InTurn])
      split at failed
      · cases failed
        simp only [String.utf8ByteSize_append]
        have first : "step ".utf8ByteSize = 5 := by decide
        have last : " failed".utf8ByteSize = 7 := by decide
        omega
      split at failed
      · exact terse.run index err failed
      · simp at failed
    generalize recorded : recordSaga D c.env _ _ _ = result
    have sent := recordSaga_sent recorded stands issued below (by simp)
    obtain ⟨_ | _, _⟩ := result
    · exact Finishes.after (Path.event w _) sent.1
    · exact Finishes.after (Path.event w _) (sent.failed below)
  · have issued : Issued D c w.run.saga index row ⟨index + 1, step.name, .actionSucceeded,
        stepGuardDigest D step c.sandbox c.limit, "ok", ""⟩ :=
      stands.guarded kept rfl rfl rfl (by dsimp only; decide) (fun _ _ => by simp)
        (by simp [nextPhases, effect]) (by simp [InTurn])
    refine Advances.after (Path.event w ("ok:" ++ step.name)) ?_
    generalize recorded : recordSaga D c.env _ _ _ = result
    have sent := recordSaga_sent recorded stands issued below (by simp)
    obtain ⟨outcome | snapshot, w₁⟩ := result
    · exact sent.1
    obtain ⟨moved, synced, row', wrote⟩ := sent
    refine Advances.after (.single moved) ?_
    dsimp only
    split
    next requested =>
      exact compensateRecoverable_finishes synced below
    · refine ⟨.refl, synced, (before.touched wrote.touched).step ?_⟩
      intro other found
      obtain rfl := Option.mem_unique wrote.now found
      simpa [currentPhaseMatches] using wrote.moves.reached

theorem validateStepGuard_short {sandbox limit budgets budgets' err}
    (h : validateStepGuard step sandbox limit budgets = (some err, budgets'))
    (short : step.name.utf8ByteSize ≤ 128) : err.utf8ByteSize ≤ 2048 := by
  have exhausted : "resource_exhausted".utf8ByteSize = 18 := by decide
  unfold validateStepGuard at h
  split at h
  · have first : "dangerous step ".utf8ByteSize = 15 := by decide
    have last : ": failed_precondition".utf8ByteSize = 21 := by decide
    obtain ⟨rfl, -⟩ : "dangerous step " ++ step.name ++
        ": failed_precondition" = err ∧ budgets = budgets' := by simpa using h
    simp only [String.utf8ByteSize_append]
    omega
  split at h
  · obtain ⟨rfl, -⟩ : "resource_exhausted" = err ∧ budgets = budgets' := by
      simpa using h
    omega
  · unfold consume at h
    split at h
    · simp at h
    split at h
    · obtain ⟨rfl, -⟩ : "resource_exhausted" = err ∧ budgets = budgets' := by
        simpa using h
      omega
    · simp at h

/-- The snapshot of the step shows that its effect was started exactly if it was,
and then it may be started again. -/
structure Startable (state : SagaStepSnapshot) (row : StepRow) : Prop where
  intent : state.actionPhase ≠ some .actionEffect → row.actionPhase = .intentRecorded
  effect : state.actionPhase = some .actionEffect →
    row.actionPhase = .effectStarted ∧ row.plan.actionReplay ≠ .never

theorem startAction_advances (stands : Stands w.run.saga index step row) (below : index < bound)
    (kept : GuardKept D c step row) (startable : Startable state row)
    (before : SucceededBefore w.run.saga index) :
    Advances D c bound index w (startAction D c index step state w) := by
  unfold startAction
  dsimp only
  split
  next guardErr budgets rejected =>
    have failing : (nextPhases .actionFailed row).isSome = true := by
      by_cases resumed : state.actionPhase = some .actionEffect
      · simp [nextPhases, startable.effect resumed]
      · simp [nextPhases, startable.intent resumed]
    have issued : Issued D c w.run.saga index row ⟨index + 1, step.name, .actionFailed,
        stepGuardDigest D step c.sandbox c.limit, "", guardErr⟩ :=
      stands.guarded kept rfl rfl rfl (by simp) (fun _ => validateStepGuard_short rejected)
        failing (by simp [InTurn])
    have noted : Path D c bound w
        ({ w with budgets := budgets }.event ("reject:" ++ step.name)) := .single (.note rfl rfl)
    generalize recorded : recordSaga D c.env _ _ _ = result
    have sent := recordSaga_sent recorded stands issued below (by simp)
    obtain ⟨_ | _, _⟩ := result
    · exact Finishes.after noted sent.1
    · exact Finishes.after noted (sent.failed (Nat.le_of_lt below))
  next budgets _ =>
    have noted : Path D c bound w { w with budgets := budgets } := .single (.note rfl rfl)
    refine Advances.after noted ?_
    have bounding : state.actionPhase ≠ some .actionEffect →
        Issued D c w.run.saga index row ⟨index + 1, step.name, .actionEffect,
          stepGuardDigest D step c.sandbox c.limit, "", ""⟩ := fun open' =>
      stands.guarded kept rfl rfl rfl (by simp) (fun _ _ => by simp)
        (by simp [nextPhases, startable.intent open']) (by simp [InTurn])
    generalize recorded : recordWhen D c.env _ _ _ _ = result
    have sent := recordWhen_sent recorded stands bounding below (by simp)
    obtain ⟨_ | outcome, w₁⟩ := result
    rotate_left
    · exact sent.1
    obtain ⟨first, moved⟩ := sent
    obtain ⟨row₁, stands₁, kept₁, effect₁, plan₁, before₁, quiet⟩ : ∃ row₁,
        Stands w₁.run.saga index step row₁ ∧ GuardKept D c step row₁ ∧
        row₁.actionPhase = .effectStarted ∧ row₁.plan = row.plan ∧
        SucceededBefore w₁.run.saga index ∧ w₁.effects = w.effects := by
      rcases moved with ⟨-, row₁, wrote⟩ | ⟨resumed, rfl⟩
      · exact ⟨row₁, wrote.stands stands, kept.moved wrote.moves rfl,
          by simpa [currentPhaseMatches] using wrote.moves.reached, wrote.moves.extends.plan,
          before.touched wrote.touched, wrote.effects⟩
      · exact ⟨row, stands, kept, (startable.effect (by simpa using resumed)).1, rfl, before, rfl⟩
    dsimp only
    split
    · exact Advances.after (.trans (.single first) (Path.event w₁ _))
        (settleAction_advances stands₁ below kept₁ effect₁ before₁)
    · have called : WorldStep D c bound { w with budgets := budgets }
          ((w₁.event ("start:" ++ step.name)).effect (.action index)) := by
        refine .call (.action index) first quiet stands.position ?_ stands₁.position plan₁ ?_ rfl
          rfl
        · by_cases resumed : state.actionPhase = some .actionEffect
          · simp [Effect.once, startable.effect resumed]
          · simp [Effect.unbounded, startable.intent resumed]
        · simp [Effect.unbounded, effect₁]
      exact Advances.after (.single called)
        (settleAction_advances stands₁ below kept₁ effect₁ before₁)

theorem executeStep_advances (synced : Synced snapshot w)
    (stands : Stands w.run.saga index step row) (below : index < bound)
    (open' : row.actionPhase = .pending ∨ row.actionPhase = .intentRecorded ∨
      row.actionPhase = .effectStarted ∧ row.plan.actionReplay ≠ .never)
    (before : SucceededBefore w.run.saga index) :
    Advances D c bound index w
      (executeStep D c index step (stepSnapshot row) snapshot w) := by
  unfold executeStep
  dsimp only
  split
  · exact .own .refl rfl
  rename_i unchanged
  have kept : GuardKept D c step row := by
    by_cases fresh : row.guardDigest = ""
    · exact .inl fresh
    · exact .inr (by simpa [stepSnapshot, fresh] using unchanged)
  split
  next err cancelled =>
    exact compensateRecoverable_finishes synced (Nat.le_of_lt below)
  split
  next pending =>
    have pending : row.actionPhase = .pending := by simpa using pending
    have issued : Issued D c w.run.saga index row ⟨index + 1, step.name,
        .actionIntent, stepGuardDigest D step c.sandbox c.limit, "", ""⟩ :=
      stands.guarded kept rfl rfl rfl (by simp) (fun _ _ => by simp) (by simp [nextPhases, pending])
        (fun _ => by simpa using before)
    generalize recorded : recordSaga D c.env _ _ _ = result
    have sent := recordSaga_sent recorded stands issued below (by simp)
    obtain ⟨outcome | snapshot₁, w₁⟩ := result
    · exact sent.1
    obtain ⟨moved, synced₁, row₁, wrote⟩ := sent
    refine Advances.after (.single moved) ?_
    dsimp only
    split
    next requested =>
      exact compensateRecoverable_finishes synced₁ (Nat.le_of_lt below)
    · refine startAction_advances (wrote.stands stands) below (kept.moved wrote.moves rfl)
        ⟨fun _ => ?_, fun started => ?_⟩ (before.touched wrote.touched)
      · simpa [currentPhaseMatches] using wrote.moves.reached
      · simp [pending] at started
  next recorded =>
    have recorded : row.actionPhase ≠ .pending := by simpa using recorded
    have late := open'.resolve_left recorded
    refine startAction_advances stands below kept ⟨fun unstarted => ?_, fun started => ?_⟩ before
    · exact late.resolve_right fun effect => unstarted (by simpa using effect.1)
    · have started : row.actionPhase = .effectStarted := by simpa using started
      exact late.resolve_left (by simp [started])

theorem executeSteps_finishes {left} (synced : Synced snapshot w)
    (before : SucceededBefore w.run.saga index) (below : index + left.length ≤ bound) :
    Finishes D c bound w (executeSteps D c index left snapshot w) := by
  induction left generalizing index snapshot w with
  | nil => exact .own .refl rfl
  | cons step _ ih =>
    rw [length_cons] at below
    unfold executeSteps
    split
    · exact .own .refl rfl
    rename_i state found
    obtain ⟨row, stands, rfl⟩ := synced.stands found
    split
    next succeeded =>
      refine ih synced (before.step ?_) (by omega)
      intro other found
      obtain rfl := Option.mem_unique found stands.position
      simpa using succeeded
    next failed =>
      exact compensateRecoverable_finishes synced (by split <;> omega)
    · exact .own .refl rfl
    rename_i unsucceeded unfailed known
    split
    next unsettled =>
      exact (markOutcomeUnknown_finishes stands (by omega) (fun _ => by decide)
        (nextPhases_outcomeUnknown unsettled.2 (by simpa using unsettled.1))).1
    next replayable =>
      have open' : row.actionPhase = .pending ∨ row.actionPhase = .intentRecorded ∨
          row.actionPhase = .effectStarted ∧ row.plan.actionReplay ≠ .never := by
        cases phase : row.actionPhase <;>
          simp_all [stepSnapshot, actionPhaseProto]
      have stage : Advances D c bound index w
          (executeStep D c index step (stepSnapshot row) snapshot w) :=
        executeStep_advances synced stands (by omega) open' before
      split
      next result =>
        rw [result] at stage
        exact stage
      next result =>
        rw [result] at stage
        exact .after stage.1 (ih stage.2.1 stage.2.2 (by omega))

/-- An execution ends before it has a snapshot of the bound saga, or it follows
a path from there. -/
theorem executeRecoverable_cases {s} (ordered : Ordered s.run.saga) :
    (refusal (executeRecoverable D c s).1 = none ∧
        (executeRecoverable D c s).2.effects = [] ∧
        SessionSteps D c.steps s (executeRecoverable D c s).2.toSession) ∨
      ∃ plan snapshot w, buildSagaPlan D c.steps = .ok plan ∧
        exchange D c.env (.plan plan) (startWorld s c.env.budgets) = (.ok snapshot, w) ∧
        snapshot.state ≠ .outcomeUnknown ∧
        Finishes D c c.steps.length w (executeRecoverable D c s) := by
  unfold executeRecoverable
  dsimp only
  split
  · exact .inl ⟨rfl, rfl, .refl⟩
  rename_i plan built
  generalize sent : exchange D c.env _ _ = answer
  have effects : answer.2.effects = [] := by rw [← sent]; rfl
  have session : SessionSteps D c.steps s answer.2.toSession := (exchange_sessionSteps sent built :)
  obtain ⟨err | snapshot, w⟩ := answer
  · exact .inl ⟨by cases err <;> simp [refusal], effects, session⟩
  dsimp only
  split
  · exact .inl ⟨rfl, effects, session⟩
  split
  · exact .inl ⟨rfl, effects, session⟩
  rename_i known
  have synced : Synced snapshot w := exchange_plan_synced sent ordered known
  refine .inr ⟨plan, snapshot, w, built, sent, known, ?_⟩
  split
  next requested =>
    exact compensateRecoverable_finishes synced (Nat.le_refl _)
  · refine executeSteps_finishes synced (fun _ _ before => ?_) (by omega)
    omega

theorem Finishes.sessionSteps (h : Finishes D c bound w result) :
    SessionSteps D steps w.toSession result.2.toSession := by
  cases h with
  | own path => exact path.sessionSteps
  | sent path _ issued sent =>
    exact path.sessionSteps.trans (exchange_sessionSteps sent issued.inTurn)

theorem executeRecoverable_sessionSteps {s} (ordered : Ordered s.run.saga) :
    SessionSteps D c.steps s (executeRecoverable D c s).2.toSession := by
  obtain ⟨-, -, session⟩ | ⟨plan, snapshot, w, built, sent, -, ends⟩ :=
    executeRecoverable_cases (D := D) (c := c) ordered
  · exact session
  · exact (exchange_sessionSteps sent built :).trans ends.sessionSteps

end YuFeng.Saga

import YuFeng.Saga.Replay

/-!
# Effects whose outcome is unknown

An action that must not be replayed and was started without a settlement has
to be recorded as outcome unknown.  The forward loop does so at every such
step.  The reverse loop passes over steps without a compensation before it
looks at the policy, so a cancelled run leaves such a step as it is.
-/

namespace YuFeng.Saga

open YuFeng.Library List

variable {D : Digests}

variable {row : StepRow} {saga : RunSaga} {index : Nat} {step : Step}
  {cause : String} {steps : List Step} {s : Session}

def Surfaced (index : Nat) (saga : RunSaga) : Prop :=
  ∃ row, saga.steps[index]? = some row ∧ (row.actionPhase = .outcomeUnknown ∨
      row.compensationPhase = .outcomeUnknown)

/-- The execution returns outcome unknown, and the journal has it for the
step or had it for the saga before. -/
def SurfacesUnknown (D : Digests) (c : Call) (s : Session) (index : Nat) : Prop :=
  (executeRecoverable D c s).1 = .outcomeUnknown ∧ (s.run.saga.state = .outcomeUnknown ∨
      Surfaced index (executeRecoverable D c s).2.run.saga)

def Environment.Works (env : Environment) : Prop := ∀ call, env.fault call = .none

/-! ## Recording the outcome -/

variable {receipt : SagaReceipt}

theorem Moves.outcomeUnknown {row'} (h : Moves receipt row row')
    (phase : receipt.phase = .outcomeUnknown) :
    row'.actionPhase = .outcomeUnknown ∨ row'.compensationPhase = .outcomeUnknown := by
  simpa [phase, currentPhaseMatches] using h.reached

def unknownReceipt (plan : SagaStepPlan) (reason : String) : SagaReceipt where
  sequence := plan.sequence
  stepKey := plan.stepKey
  phase := .outcomeUnknown
  error := reason

theorem recordRunSaga_unknown {reason} (contiguous : Contiguous saga.steps)
    (bound : saga.planDigest ≠ "") (known : saga.state ≠ .outcomeUnknown)
    (position : saga.steps[index]? = some row) (never : row.plan.actionReplay = .never)
    (unsettled : row.actionPhase = .effectStarted) (named : trimSpace row.plan.stepKey ≠ "")
    (short : reason.utf8ByteSize ≤ 2048) :
    ∃ saga', recordRunSaga saga (unknownReceipt row.plan reason) = .ok saga' ∧
      Surfaced index saga' := by
  have number := contiguous index row position
  have acceptable : Acceptable saga (unknownReceipt row.plan reason) index
      row := {
    position := position
    sequence := rfl
    key := rfl
    named := named
    fits := ⟨by simp [unknownReceipt], by simp [unknownReceipt], short⟩
    guard := .inr (.inl rfl)
    phase := .inr (nextPhases_outcomeUnknown never unsettled) }
  obtain ⟨saga', stored⟩ := recordRunSaga_accepts contiguous bound acceptable
  refine ⟨saga', stored, ?_⟩
  obtain ⟨-, ⟨unknown, -⟩ | ⟨-, at', row₁, row', recorded⟩⟩ :=
    recordRunSaga_ok contiguous stored
  · exact absurd unknown known
  · have here : at' = index := by
      have sequence := recorded.sequence
      rw [show (unknownReceipt row.plan reason).sequence = row.plan.sequence
        from rfl, number] at sequence
      omega
    subst here
    refine ⟨row', ?_, recorded.moves.outcomeUnknown rfl⟩
    rw [recorded.steps]
    exact getElem?_set_of_some recorded.position row'

variable {env : Environment}

theorem exchange_accepted (works : env.Works) {progress w after}
    (accepted : reportProgress D w.run progress = .ok after) :
    ∃ w', exchange D env progress w = (.ok (loadRunSagaSnapshot after.saga), w') ∧
      w'.run = ((env.cancels w.calls).foldl Session.cancel
        (w.toSession.commit (.progress progress) after)).run := by
  refine ⟨(exchange D env progress w).2, ?_, ?_⟩ <;>
    simp [exchange, delivered, works w.calls, accepted]

theorem reportProgress_live {run progress} (live : run.work = .live)
    (stored : sagaProgress D run.saga progress = .ok saga) :
    reportProgress D run progress = .ok { run with saga := saga } := by
  simp [reportProgress, live, stored]

theorem markOutcomeUnknown_surfaces (works : env.Works) {w index row reason}
    (live : w.run.work = .live) (ordered : Ordered w.run.saga) (bound : w.run.saga.planDigest ≠ "")
    (known : w.run.saga.state ≠ .outcomeUnknown) (position : w.run.saga.steps[index]? = some row)
    (never : row.plan.actionReplay = .never) (unsettled : row.actionPhase = .effectStarted)
    (named : trimSpace row.plan.stepKey ≠ "") (short : reason.utf8ByteSize ≤ 2048) :
    (markOutcomeUnknown D env row.plan reason w).1 = .outcomeUnknown ∧
      Surfaced index (markOutcomeUnknown D env row.plan reason w).2.run.saga := by
  obtain ⟨saga, stored, surfaced⟩ := recordRunSaga_unknown
    ordered.contiguous bound known position never unsettled named short
  obtain ⟨w', sent, later⟩ := @exchange_accepted D env works
    (.receipt (unknownReceipt row.plan reason)) w _
    (reportProgress_live live stored)
  have marked : markOutcomeUnknown D env row.plan reason w = (.outcomeUnknown, w') := by
    unfold unknownReceipt at sent
    unfold markOutcomeUnknown recordSaga
    rw [sent]
  rw [marked]
  refine ⟨rfl, ?_⟩
  obtain ⟨row', found, unknown⟩ := surfaced
  refine ⟨row', ?_, unknown⟩
  rw [later, cancels_steps]
  exact found

/-! ## The reverse loop leaves the rows above it alone -/

theorem exchange_above {w w' answer} (ordered : Ordered w.run.saga)
    (sent : exchange D env (.receipt receipt) w = (answer, w'))
    (sequence : receipt.sequence = index + 1) {i} (other : i ≠ index) :
    w'.run.saga.steps[i]? = w.run.saga.steps[i]? := by
  have stored : ∀ {saga}, recordRunSaga w.run.saga receipt = .ok saga →
      saga.steps[i]? = w.run.saga.steps[i]? := by
    intro saga stored
    obtain ⟨-, ⟨-, rfl⟩ | ⟨-, at', row, row', recorded⟩⟩ :=
      recordRunSaga_ok ordered.contiguous stored
    · rfl
    · have number := recorded.sequence
      rw [recorded.steps, getElem?_set_ne (by omega)]
  obtain rfl : (exchange D env (.receipt receipt) w).2 = w' := by rw [sent]
  change (foldl Session.cancel _ _).run.saga.steps[i]? = _
  rw [cancels_steps]
  unfold delivered
  split
  · rfl
  · rfl
  next accepted =>
    obtain ⟨-, _, kept, rfl⟩ := reportProgress_ok accepted
    exact stored kept
  · rfl
  next accepted =>
    obtain ⟨-, _, kept, rfl⟩ := reportProgress_ok accepted
    exact stored kept

theorem WorldStep.above {c bound i w w'} (h : WorldStep D c bound w w')
    (ordered : Ordered w.run.saga) (above : bound ≤ i) :
    w'.run.saga.steps[i]? = w.run.saga.steps[i]? := by
  induction h with
  | note session => rw [session]
  | receipt below issued _ sent => exact exchange_above ordered sent issued.sequence (by omega)
  | call _ _ _ _ _ _ _ _ session _ ih =>
    rw [session]
    exact ih ordered

theorem Path.above {c bound i w w'} (h : Path D c bound w w') (ordered : Ordered w.run.saga)
    (above : bound ≤ i) : w'.run.saga.steps[i]? = w.run.saga.steps[i]? := by
  induction h with
  | refl => rfl
  | tail path step ih => exact (step.above (Path.ordered path ordered) above).trans ih

theorem compensateRecoverable_above {c count snapshot w} (synced : Synced snapshot w) {i}
    (above : count ≤ i) :
    (compensateRecoverable D c count snapshot cause w).2.run.saga.steps[i]? =
      w.run.saga.steps[i]? := by
  have ends : Finishes D c count w (compensateRecoverable D c count snapshot cause w) :=
    compensateRecoverable_finishes synced (Nat.le_refl count)
  generalize compensateRecoverable D c count snapshot cause w = result at ends
  cases ends with
  | own path => exact path.above synced.ordered above
  | sent path below issued sent =>
    rw [exchange_above (path.ordered synced.ordered) sent issued.sequence (by omega)]
    exact path.above synced.ordered above

/-! ## What an earlier execution has established -/

/-- The plan of a bound saga was accepted, and only steps with a compensation
have one recorded. -/
structure Resumable (D : Digests) (steps : List Step) (saga : RunSaga) :
    Prop where
  accepted : saga.planDigest ≠ "" → ∃ plan before after,
    buildSagaPlan D steps = .ok plan ∧ plan.planDigest = saga.planDigest ∧
      bindRunSaga D before plan = .ok after
  compensable : ∀ row ∈ saga.steps, row.compensationPhase ≠ .pending →
    row.plan.hasCompensation = true

theorem nextPhases_compensable {phase action compensation}
    (next : nextPhases phase row = some (action, compensation))
    (was : row.compensationPhase ≠ .pending →
      row.plan.hasCompensation = true) (now : compensation ≠ .pending) :
    row.plan.hasCompensation = true := by
  by_cases intent : phase = .compensationIntent
  · subst intent
    simp only [nextPhases, Option.ite_none_left_eq_some] at next
    by_contra missing
    exact next.1 (.inl (by simpa using missing))
  · apply was
    have table := nextPhases_transition next
    cases table <;> grind

theorem Moves.compensable {row'} (h : Moves receipt row row')
    (was : row.compensationPhase ≠ .pending → row.plan.hasCompensation = true)
    (now : row'.compensationPhase ≠ .pending) : row'.plan.hasCompensation = true := by
  cases h with
  | stays => exact was now
  | advances next =>
    rw [settleRow_plan]
    exact nextPhases_compensable next was now

theorem SessionStep.resumable {s'} (h : SessionStep D steps s s')
    (ordered : Ordered s.run.saga) (resumable : Resumable D steps s.run.saga) :
    Resumable D steps s'.run.saga := by
  cases h with
  | @progress progress _ accepted permitted =>
    obtain ⟨-, saga, stored, rfl⟩ := reportProgress_ok accepted
    cases progress with
    | plan plan =>
      obtain ⟨-, digest, -, bound⟩ := bindRunSaga_ok stored
      refine ⟨fun _ => ⟨plan, s.run.saga, saga, permitted, digest.symm, stored⟩, ?_⟩
      rcases bound with ⟨-, -, rfl⟩ | ⟨-, rfl⟩
      · intro row found recorded
        obtain ⟨step, -, rfl⟩ := mem_map.mp found
        exact absurd rfl recorded
      · exact resumable.compensable
    | receipt =>
      obtain ⟨-, ⟨-, rfl⟩ | ⟨-, index, row, row', recorded⟩⟩ :=
        recordRunSaga_ok ordered.contiguous stored
      · exact resumable
      refine ⟨?_, ?_⟩
      · simp only [Session.commit, recorded.planDigest]
        exact resumable.accepted
      · intro other found
        simp only [Session.commit, recorded.steps] at found
        rcases mem_or_eq_of_mem_set found with old | rfl
        · exact resumable.compensable other old
        · exact recorded.moves.compensable (resumable.compensable row
            (mem_of_getElem? recorded.position))
  | cancel =>
    refine ⟨?_, ?_⟩
    · simp only [Session.cancel, Session.commit, cancelRun_planDigest]
      exact resumable.accepted
    · simp only [Session.cancel, Session.commit, cancelRun_steps]
      exact resumable.compensable

theorem run_resumable {ops} (same : ∀ call, .execute call ∈ ops → call.steps = steps) :
    Resumable D steps (run (operate D) createdSession ops).run.saga :=
  (run_keeps SessionStep.resumable
    (fun _ _ resumable => ⟨resumable.accepted, resumable.compensable⟩)
    ⟨fun bound => absurd rfl bound, by simp [createdRun]⟩ same).2

/-! ## Binding the plan again -/

theorem bindRunSaga_again {before after plan} (h : bindRunSaga D before plan = .ok after)
    (digest : plan.planDigest = saga.planDigest) (bound : saga.planDigest ≠ "") :
    bindRunSaga D saga plan = .ok saga := by
  rw [bindRunSaga, guard_ok, guard_ok, guard_ok] at h
  obtain ⟨shape, checked, signed, -⟩ := h
  unfold bindRunSaga
  rw [if_neg shape, if_neg checked, if_neg signed, if_neg (by simp [digest]), if_neg bound]

theorem cancelRun_live {run} (hasModelEffects : Bool) (live : run.work = .live)
    (started : hasSagaEffects run.saga = true) : (cancelRun run hasModelEffects).work = .live := by
  unfold cancelRun
  split
  · exact live
  · rw [if_pos (by simp [started])]
    exact live

theorem cancels_live (cancels : List Bool) (live : s.run.work = .live)
    (started : hasSagaEffects s.run.saga = true) :
    (cancels.foldl Session.cancel s).run.work = .live := by
  induction cancels generalizing s with
  | nil => exact live
  | cons m _ ih =>
    refine ih (cancelRun_live m live started) ?_
    simpa [hasSagaEffects, Session.cancel, Session.commit] using started

theorem hasSagaEffects_of_started (member : row ∈ saga.steps)
    (started : row.actionEffectStarted = true) :
    hasSagaEffects saga = true := by
  simp only [hasSagaEffects, any_eq_true]
  exact ⟨row, member, by simp [started]⟩

/-- Where an execution of a bound saga stands once its plan is bound again. -/
structure Resumed (D : Digests) (c : Call) (s : Session)
    (snapshot : SagaSnapshot) (w : World) : Prop where
  steps : w.run.saga.steps = s.run.saga.steps
  bound : w.run.saga.planDigest ≠ ""
  snapshotState : snapshot.state = s.run.saga.state
  cancelRequested : snapshot.cancelRequested = s.run.saga.cancelRequested
  live : hasSagaEffects s.run.saga = true → w.run.work = .live
  result : executeRecoverable D c s =
    if snapshot.state = .outcomeUnknown then (.outcomeUnknown, w)
    else if snapshot.cancelRequested then
      compensateRecoverable D c c.steps.length snapshot "context canceled" w
    else executeSteps D c 0 c.steps snapshot w
  synced : snapshot.state ≠ .outcomeUnknown → Synced snapshot w

theorem executeRecoverable_resumed {c} (works : c.env.Works) (live : s.run.work = .live)
    (ordered : Ordered s.run.saga) (resumable : Resumable D c.steps s.run.saga)
    (bound : s.run.saga.planDigest ≠ "") : ∃ snapshot w, Resumed D c s snapshot w := by
  obtain ⟨plan, before, after, built, digest, accepted⟩ := resumable.accepted bound
  have stored : sagaProgress D s.run.saga (.plan plan) = .ok s.run.saga :=
    bindRunSaga_again accepted digest bound
  obtain ⟨w, sent, later⟩ := @exchange_accepted D c.env works (.plan plan)
    (startWorld s c.env.budgets) _ (reportProgress_live live stored)
  refine ⟨loadRunSagaSnapshot s.run.saga, w, ?_, ?_, rfl, rfl, ?_, ?_, ?_⟩
  · rw [later, cancels_steps]
    rfl
  · rw [later, cancels_planDigest]
    exact bound
  · intro started
    rw [later]
    exact cancels_live _ live started
  · unfold executeRecoverable
    simp only [built, sent]
    rw [if_neg]
    simp [loadRunSagaSnapshot, digest]
  · intro known
    exact exchange_plan_synced sent ordered known

/-! ## Reaching the step -/

def missingSettlement : String := "action settlement missing after effect started"

section Reaching

variable {c : Call} {index : Nat} {row : StepRow} {snapshot : SagaSnapshot} {w : World}

theorem executeSteps_marks {start left} (rest : c.steps.drop start = left)
    (synced : Synced snapshot w) (matching : Matching c.steps w.run.saga)
    (before : SucceededBefore w.run.saga index) (atRow : w.run.saga.steps[index]? = some row)
    (never : row.plan.actionReplay = .never) (unsettled : row.actionPhase = .effectStarted)
    (ahead : start ≤ index) (inside : index < c.steps.length) :
    executeSteps D c start left snapshot w =
      markOutcomeUnknown D c.env row.plan missingSettlement w := by
  induction left generalizing start with
  | nil =>
    have ended := congrArg List.length rest
    simp only [length_drop, length_nil] at ended
    omega
  | cons _ _ ih =>
    obtain ⟨atStep, next⟩ := drop_cons rest
    obtain ⟨found, atFound, -, at'⟩ := matching.stepAt synced atStep
    rw [executeSteps, at']
    rcases Nat.lt_or_eq_of_le ahead with less | rfl
    · have shown : (stepSnapshot found).actionPhase = some .actionSucceeded := by
        simpa using before start found less atFound
      simp only [shown]
      exact ih next less
    · obtain rfl := Option.mem_unique atFound atRow
      have shown : (stepSnapshot found).actionPhase = some .actionEffect := by simpa using unsettled
      have plan : (stepSnapshot found).plan = found.plan := rfl
      simp only [shown, plan, never, and_self, if_true]
      rfl

theorem compensateRecoverable_descends {count} (synced : Synced snapshot w)
    (matching : Matching c.steps w.run.saga) (unstarted : UnstartedAbove w.run.saga (index + 1))
    (above : index + 1 ≤ count) (bounded : count ≤ c.steps.length) :
    compensateRecoverable D c count snapshot cause w =
      compensateRecoverable D c (index + 1) snapshot cause w := by
  induction count with
  | zero => omega
  | succ count ih =>
    rcases Nat.lt_or_eq_of_le above with less | same
    · obtain ⟨step, atStep⟩ : ∃ step, c.steps[count]? = some step :=
        ⟨_, getElem?_eq_getElem (by omega)⟩
      obtain ⟨found, atFound, -, at'⟩ := matching.stepAt synced atStep
      have skipped : compensateStep D c.env count step (stepSnapshot found)
          cause snapshot w = (.ok snapshot, w) := by
        unfold compensateStep
        rw [if_pos]
        simp [stepSnapshot, unstarted count found (by omega) atFound]
      rw [compensateRecoverable]
      simp only [atStep, at', skipped]
      exact ih (by omega) (by omega)
    · rw [same]

/-- At a step with a compensation the reverse loop records the outcome;
another one it passes over. -/
theorem compensateRecoverable_at (synced : Synced snapshot w)
    (matching : Matching c.steps w.run.saga)
    (atStep : c.steps[index]? = some step)
    (atRow : w.run.saga.steps[index]? = some row)
    (never : row.plan.actionReplay = .never)
    (unsettled : row.actionPhase = .effectStarted) :
    compensateRecoverable D c (index + 1) snapshot cause w =
      if step.compensate then
        markOutcomeUnknown D c.env row.plan missingSettlement w
      else compensateRecoverable D c index snapshot cause w := by
  obtain ⟨found, atFound, -, at'⟩ := matching.stepAt synced atStep
  obtain rfl := Option.mem_unique atFound atRow
  have started := (synced.ordered.rows found (mem_of_getElem? atRow)).effect unsettled
  have shown : (stepSnapshot found).actionPhase = some .actionEffect := by
    simpa using unsettled
  rw [compensateRecoverable]
  simp only [atStep, at', compensateStep, shown]
  cases compensable : step.compensate with
  | false => simp
  | true => simp [stepSnapshot, started, never, missingSettlement]

end Reaching

/--
A run resumes, with a working journal, a saga in which the action of a step
that must not be replayed was started and not settled.  The outcome is
surfaced exactly if it was recorded before, no cancel was requested, or the
step has a compensation.
-/
theorem surfacesUnknown_iff (D : Digests) (c : Call) (ops : List Operation)
    (same : ∀ call, .execute call ∈ ops → call.steps = c.steps)
    (works : c.env.Works)
    (live : (run (operate D) createdSession ops).run.work = .live)
    {index : Nat} {step : Step} {row : StepRow}
    (atStep : c.steps[index]? = some step)
    (atRow : (run (operate D) createdSession ops).run.saga.steps[index]? = some row)
    (never : row.plan.actionReplay = .never)
    (unsettled : row.actionPhase = .effectStarted) :
    SurfacesUnknown D c (run (operate D) createdSession ops) index ↔
      (run (operate D) createdSession ops).run.saga.state = .outcomeUnknown ∨
        (run (operate D) createdSession ops).run.saga.cancelRequested = false ∨
        step.compensate = true := by
  obtain ⟨ordered, planned⟩ := run_planned (D := D) same
  have resumable := run_resumable (D := D) same
  generalize run (operate D) createdSession ops = s at *
  have member := mem_of_getElem? atRow
  have bound : s.run.saga.planDigest ≠ "" := by
    intro unbound
    simp [ordered.unbound unbound] at atRow
  have matching := (planned bound).2
  obtain ⟨snapshot, w, resumed⟩ := executeRecoverable_resumed works live ordered resumable bound
  have atW : w.run.saga.steps[index]? = some row := by
    rw [resumed.steps, atRow]
  have matchingW : Matching c.steps w.run.saga := by
    intro i
    rw [resumed.steps]
    exact matching i
  have inside : index < c.steps.length := (List.getElem?_eq_some_iff.mp atStep).1
  have started : hasSagaEffects s.run.saga = true :=
    hasSagaEffects_of_started member ((ordered.rows row member).effect unsettled)
  have named : trimSpace row.plan.stepKey ≠ "" := by
    obtain ⟨plan, before, after, built, -, accepted⟩ := resumable.accepted bound
    have planStep := buildSagaPlan_steps built index
    rw [atStep] at planStep
    obtain ⟨found, atFound, plan'⟩ := matching.row atStep
    obtain rfl := Option.mem_unique atFound atRow
    rw [plan']
    obtain ⟨-, -, checked, -⟩ := bindRunSaga_ok accepted
    exact (checkPlanSteps_key checked (mem_of_getElem? planStep)).1
  unfold SurfacesUnknown
  rw [resumed.result, resumed.snapshotState, resumed.cancelRequested]
  by_cases unknown : s.run.saga.state = .outcomeUnknown
  · simp [unknown]
  have synced := resumed.synced (by rw [resumed.snapshotState]; exact unknown)
  have marked := @markOutcomeUnknown_surfaces D c.env works w index row
    missingSettlement (resumed.live started) synced.ordered resumed.bound
    synced.known atW never unsettled named (by decide)
  simp only [unknown, if_false, false_or]
  cases cancelled : s.run.saga.cancelRequested with
  | false =>
    have before : SucceededBefore w.run.saga index := by
      intro i other less found
      exact synced.ordered.inOrder i index other row less found atW (by simp [unsettled])
    simp only [Bool.false_eq_true, if_false, true_or, iff_true]
    rw [executeSteps_marks drop_zero synced matchingW before atW never unsettled
      (Nat.zero_le index) inside]
    exact marked
  | true =>
    have above : UnstartedAbove w.run.saga (index + 1) :=
      (synced.ordered.pendingAbove atW (by simp [unsettled])).unstarted synced.ordered
    simp only [if_true, Bool.true_eq_false, false_or]
    rw [compensateRecoverable_descends synced matchingW above inside (Nat.le_refl _),
      compensateRecoverable_at synced matchingW atStep atW never unsettled]
    cases compensable : step.compensate with
    | true => simpa using marked
    | false =>
      simp only [Bool.false_eq_true, if_false, iff_false, not_and]
      rintro - ⟨other, found, surfaced⟩
      rw [compensateRecoverable_above synced (Nat.le_refl _), atW] at found
      obtain rfl : row = other := by simpa using found
      rcases surfaced with action | compensation
      · simp [unsettled] at action
      · have has := resumable.compensable row member (by simp [compensation])
        obtain ⟨found, atFound, plan'⟩ := matching.row atStep
        obtain rfl := Option.mem_unique atFound atRow
        simp [plan', stepPlan, compensable] at has

/-- The run is cancelled after the crash.  The charge cannot be undone, so the
resumed execution passes it over and reports an ordinary failure. -/
theorem surfacesUnknown_uncompensable :
    let s := run (operate reserveNotifyDigests) createdSession
      [crashedInCharge false, .cancelRun false]
    (s.run.saga.steps.map fun row =>
        (row.plan.actionReplay, row.actionPhase)) = [(.never, .effectStarted), (.safe, .pending)] ∧
      s.run.work = .live ∧ (executeRecoverable reserveNotifyDigests (charge false calm) s).1 =
        .failed "context canceled" ∧
      ¬ SurfacesUnknown reserveNotifyDigests (charge false calm) s 0 := by
  refine ⟨by decide +kernel, by decide +kernel, by decide +kernel, ?_⟩
  rintro ⟨returned, -⟩
  revert returned
  decide +kernel

/-- With a compensation the outcome is surfaced, cancelled or not. -/
theorem surfacesUnknown_compensable : SurfacesUnknown reserveNotifyDigests (charge true calm)
      (run (operate reserveNotifyDigests) createdSession
        [crashedInCharge true, .cancelRun false]) 0 := by
  obtain ⟨row, atRow, never, unsettled⟩ : ∃ row, (run (operate reserveNotifyDigests) createdSession
        [crashedInCharge true, .cancelRun false]).run.saga.steps[0]? = some row ∧
      row.plan.actionReplay = .never ∧ row.actionPhase = .effectStarted :=
    ⟨_, rfl, by decide +kernel, by decide +kernel⟩
  refine (surfacesUnknown_iff reserveNotifyDigests (charge true calm)
    [crashedInCharge true, .cancelRun false] ?_ (fun _ => rfl)
    (by decide +kernel) rfl atRow never unsettled).mpr (.inr (.inr rfl))
  intro call member
  simp only [mem_cons, crashedInCharge, Operation.execute.injEq,
    not_mem_nil, or_false, reduceCtorEq] at member
  rw [member]
  rfl

end YuFeng.Saga

import YuFeng.Library.Lists
import YuFeng.Saga.Transitions

/-!
# Order of work and permanence

Two relations carry the arguments about executions.  `Ordered` is an invariant
of the persisted rows: steps are worked off from the front, and what a row says
about its effect, its guard and its compensation is consistent.  `SagaExtends`
is the order along which a saga moves: cancellation, settled actions and
finished compensations are never taken back.
-/

namespace YuFeng.Saga

open YuFeng.Library List

variable {row : StepRow} {receipt : SagaReceipt} {saga saga' : RunSaga}

/-! ## Row consistency -/

structure RowOrdered (row : StepRow) : Prop where
  unstarted :
    row.actionPhase = .pending ∨ row.actionPhase = .intentRecorded → row.actionEffectStarted = false
  effect : row.actionPhase = .effectStarted → row.actionEffectStarted = true
  unguarded : row.actionPhase = .pending → row.guardDigest = ""
  compensating : row.compensationPhase ≠ .pending → row.actionEffectStarted = true

theorem RowOrdered.pending_transition (h : RowOrdered row) (pending : row.actionPhase = .pending)
    {phase action compensation} (table : Transition row phase action compensation) :
    phase = .actionIntent ∧ action = .intentRecorded := by
  have unstarted := h.unstarted (.inl pending)
  have untouched : row.compensationPhase = .pending := by
    by_contra touched
    simp [h.compensating touched] at unstarted
  cases table <;> simp_all

theorem RowOrdered.moves {row'} (h : RowOrdered row) (moves : Moves receipt row row') :
    RowOrdered row' := by
  cases moves with
  | stays => exact h
  | @advances _ _ next =>
    have table := nextPhases_transition next
    generalize hphase : receipt.phase = phase at table
    refine ⟨?_, ?_, ?_, ?_⟩
    · intro early
      have unstarted := h.unstarted
      simp only [settleRow_started, settleRow_actionPhase, hphase] at early ⊢
      cases table <;> grind
    · intro effect
      have started := h.effect
      simp only [settleRow_started, settleRow_actionPhase, hphase] at effect ⊢
      cases table <;> grind
    · intro pending
      simp only [settleRow_actionPhase] at pending
      by_cases was : row.actionPhase = .pending
      · have := (h.pending_transition was table).2
        simp [pending] at this
      · cases table <;> simp_all
    · intro touched
      have started := h.compensating
      simp only [settleRow_started, settleRow_compensationPhase, hphase] at touched ⊢
      cases table <;> grind

/-! ## Saga order -/

structure Ordered (saga : RunSaga) : Prop where
  unbound : saga.planDigest = "" → saga.steps = []
  contiguous : Contiguous saga.steps
  rows : ∀ row ∈ saga.steps, RowOrdered row
  inOrder :
    ∀ (i j : Nat) (row row' : StepRow), i < j →
      saga.steps[i]? = some row → saga.steps[j]? = some row' →
      row'.actionPhase ≠ .pending → row.actionPhase = .succeeded

def SucceededBefore (saga : RunSaga) (index : Nat) : Prop :=
  ∀ (i : Nat) (row : StepRow), i < index → saga.steps[i]? = some row → row.actionPhase = .succeeded

def InTurn (saga : RunSaga) (receipt : SagaReceipt) : Prop :=
  receipt.phase = .actionIntent → SucceededBefore saga (receipt.sequence - 1)

theorem contiguous_set {steps} (h : Contiguous steps) {index row'}
    (position : steps[index]? = some row) (plan : row'.plan = row.plan) :
    Contiguous (steps.set index row') := by
  intro i other found
  rcases getElem?_set_cases found with ⟨rfl, rfl⟩ | ⟨-, old⟩
  · rw [plan]
    exact h index row position
  · exact h i other old

theorem Ordered.record (h : Ordered saga) (inTurn : InTurn saga receipt)
    (accepted : recordRunSaga saga receipt = .ok saga') : Ordered saga' := by
  obtain ⟨bound, ⟨-, rfl⟩ | ⟨-, index, row, _, recorded⟩⟩ :=
    recordRunSaga_ok h.contiguous accepted
  · exact h
  have position := recorded.position
  have member : row ∈ saga.steps := mem_of_getElem? position
  have extended := recorded.moves.extends
  refine ⟨?_, ?_, ?_, ?_⟩
  · intro unbound
    rw [recorded.planDigest] at unbound
    exact absurd unbound bound
  · rw [recorded.steps]
    exact contiguous_set h.contiguous position extended.plan
  · intro other found
    rw [recorded.steps] at found
    rcases mem_or_eq_of_mem_set found with old | new
    · exact h.rows other old
    · rw [new]
      exact (h.rows row member).moves recorded.moves
  · intro i j first second before atFirst atSecond worked
    rw [recorded.steps] at atFirst atSecond
    rcases getElem?_set_cases atSecond with ⟨rfl, rfl⟩ | ⟨-, oldSecond⟩
    · rcases getElem?_set_cases atFirst with ⟨_, -⟩ | ⟨-, oldFirst⟩
      · omega
      by_cases was : row.actionPhase = .pending
      · cases recorded.moves with
        | stays => exact absurd was worked
        | advances next =>
          have intent := (h.rows row member).pending_transition was (nextPhases_transition next)
          exact inTurn intent.1 i first (by rw [recorded.sequence]; simpa using before) oldFirst
      · exact h.inOrder i index first row before oldFirst position was
    · rcases getElem?_set_cases atFirst with ⟨rfl, rfl⟩ | ⟨-, oldFirst⟩
      · exact extended.succeeded (h.inOrder index j row second before position oldSecond worked)
      · exact h.inOrder i j first second before oldFirst oldSecond worked

theorem Ordered.bind {D plan} (h : Ordered saga) (accepted : bindRunSaga D saga plan = .ok saga') :
    Ordered saga' := by
  obtain ⟨nonempty, -, checked, ⟨-, -, rfl⟩ | ⟨-, rfl⟩⟩ := bindRunSaga_ok accepted
  · refine ⟨?_, ?_, ?_, ?_⟩
    · intro unbound
      exact absurd unbound nonempty
    · intro _ _ found
      simp only [getElem?_map, Option.map_eq_some_iff] at found
      obtain ⟨_, position, rfl⟩ := found
      simpa using checkPlanSteps_sequence checked position
    · intro _ found
      simp only [mem_map] at found
      obtain ⟨_, -, rfl⟩ := found
      exact ⟨fun _ => rfl, nofun, fun _ => rfl, fun touched => absurd rfl touched⟩
    · intro _ _ _ _ _ _ atSecond worked
      simp only [getElem?_map, Option.map_eq_some_iff] at atSecond
      obtain ⟨_, -, rfl⟩ := atSecond
      exact absurd rfl worked
  · exact h

theorem Ordered.cancel {run} (h : Ordered run.saga) (hasModelEffects : Bool) :
    Ordered (cancelRun run hasModelEffects).saga := by
  unfold cancelRun
  split
  · exact h
  split <;> exact ⟨h.unbound, h.contiguous, h.rows, h.inOrder⟩

theorem ordered_created : Ordered createdRun.saga where
  unbound _ := rfl
  contiguous i row found := by simp [createdRun] at found
  rows row found := by simp [createdRun] at found
  inOrder i j row row' _ found := by simp [createdRun] at found

/-! ## Permanence -/

structure SagaExtends (saga saga' : RunSaga) : Prop where
  cancelRequested : saga.cancelRequested = true → saga'.cancelRequested = true
  rows : ∀ (i : Nat) (row : StepRow), saga.steps[i]? = some row →
    ∃ row', saga'.steps[i]? = some row' ∧ RowExtends row row'

theorem SagaExtends.refl (saga : RunSaga) : SagaExtends saga saga :=
  ⟨id, fun _ row found => ⟨row, found, .refl row⟩⟩

theorem SagaExtends.trans {first second third} (h₁ : SagaExtends first second)
    (h₂ : SagaExtends second third) : SagaExtends first third := by
  refine ⟨h₂.cancelRequested ∘ h₁.cancelRequested, ?_⟩
  intro i row found
  obtain ⟨row', found', extends'⟩ := h₁.rows i row found
  obtain ⟨row'', found'', extends''⟩ := h₂.rows i row' found'
  exact ⟨row'', found'', extends'.trans extends''⟩

theorem SagaExtends.record (h : Ordered saga) (accepted : recordRunSaga saga receipt = .ok saga') :
    SagaExtends saga saga' := by
  obtain ⟨-, ⟨-, rfl⟩ | ⟨-, index, row, row', recorded⟩⟩ :=
    recordRunSaga_ok h.contiguous accepted
  · exact .refl saga'
  refine ⟨fun cancelled => by rw [recorded.cancelRequested, cancelled], ?_⟩
  intro i other found
  rw [recorded.steps]
  by_cases same : index = i
  · subst same
    have : other = row := by simpa [found] using recorded.position
    subst this
    exact ⟨row', getElem?_set_of_some found row', recorded.moves.extends⟩
  · rw [getElem?_set_ne same]
    exact ⟨other, found, .refl other⟩

theorem SagaExtends.bind {D plan} (h : Ordered saga)
    (accepted : bindRunSaga D saga plan = .ok saga') : SagaExtends saga saga' := by
  obtain ⟨-, -, -, ⟨unbound, -, rfl⟩ | ⟨-, rfl⟩⟩ := bindRunSaga_ok accepted
  · refine ⟨id, ?_⟩
    intro _ _ found
    simp [h.unbound unbound] at found
  · exact .refl saga'

theorem SagaExtends.cancel (run : BrainRun) (hasModelEffects : Bool) :
    SagaExtends run.saga (cancelRun run hasModelEffects).saga := by
  unfold cancelRun
  split
  · exact .refl run.saga
  split <;> exact ⟨fun _ => rfl, fun _ row found => ⟨row, found, .refl row⟩⟩

end YuFeng.Saga

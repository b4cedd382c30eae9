import Mathlib.Logic.Relation
import YuFeng.Saga.Executor
import YuFeng.Saga.Order

/-!
# What an execution can do

Every execution is a sequence of transactions.  `SessionStep` names them
together with what the executor knows when it issues one: a plan is that of its
steps, and an action intent is recorded in turn.  Invariants of executions are
invariants of `SessionStep`.
-/

namespace YuFeng.Saga

open YuFeng.Library

variable {D : Digests} {progress : SagaProgress} {steps : List Step}
  {s s' : Session} {env : Environment} {w w' : World}
  {snapshot : SagaSnapshot} {context : String} {receipt : SagaReceipt}

def Permitted (D : Digests) (steps : List Step)
    (saga : RunSaga) : SagaProgress → Prop
  | .plan plan => buildSagaPlan D steps = .ok plan
  | .receipt receipt => InTurn saga receipt

inductive SessionStep (D : Digests) (steps : List Step) :
    Session → Session → Prop
  | progress {s : Session} {progress : SagaProgress} {after : BrainRun}
      (accepted : reportProgress D s.run progress = .ok after)
      (permitted : Permitted D steps s.run.saga progress) :
      SessionStep D steps s (s.commit (.progress progress) after)
  | cancel (s : Session) (hasModelEffects : Bool) :
      SessionStep D steps s (s.cancel hasModelEffects)

abbrev SessionSteps (D : Digests) (steps : List Step) : Session → Session → Prop :=
  Relation.ReflTransGen (SessionStep D steps)

theorem reportProgress_ok {run run'} (h : reportProgress D run progress = .ok run') :
    run.work = .live ∧ ∃ saga, sagaProgress D run.saga progress = .ok saga ∧
        run' = { run with saga := saga } := by
  unfold reportProgress at h
  split at h
  · contradiction
  rename_i live
  split at h
  · contradiction
  next saga accepted =>
    cases h
    exact ⟨by simpa using live, saga, accepted, rfl⟩

theorem SessionStep.ordered (h : SessionStep D steps s s') (ordered : Ordered s.run.saga) :
    Ordered s'.run.saga := by
  cases h with
  | @progress progress _ accepted permitted =>
    obtain ⟨-, _, stored, rfl⟩ := reportProgress_ok accepted
    cases progress with
    | plan => exact ordered.bind stored
    | receipt => exact ordered.record permitted stored
  | cancel hasModelEffects => exact ordered.cancel hasModelEffects

theorem SessionStep.extends (h : SessionStep D steps s s') (ordered : Ordered s.run.saga) :
    SagaExtends s.run.saga s'.run.saga := by
  cases h with
  | @progress progress _ accepted =>
    obtain ⟨-, _, stored, rfl⟩ := reportProgress_ok accepted
    cases progress with
    | plan => exact .bind ordered stored
    | receipt => exact .record ordered stored
  | cancel hasModelEffects => exact .cancel s.run hasModelEffects

theorem SessionSteps.ordered (h : SessionSteps D steps s s') (ordered : Ordered s.run.saga) :
    Ordered s'.run.saga := by
  induction h with
  | refl => exact ordered
  | tail _ step ih => exact step.ordered ih

theorem SessionSteps.keeps {Inv : RunSaga → Prop}
    (kept : ∀ {s s'}, SessionStep D steps s s' → Ordered s.run.saga → Inv s.run.saga →
      Inv s'.run.saga)
    (h : SessionSteps D steps s s') (ordered : Ordered s.run.saga)
    (inv : Inv s.run.saga) : Inv s'.run.saga := by
  induction h with
  | refl => exact inv
  | tail moves step ih => exact kept step (SessionSteps.ordered moves ordered) ih

theorem SessionSteps.extends (h : SessionSteps D steps s s') (ordered : Ordered s.run.saga) :
    SagaExtends s.run.saga s'.run.saga := by
  induction h with
  | refl => exact .refl s.run.saga
  | tail steps step ih =>
    exact ih.trans (step.extends (SessionSteps.ordered steps ordered))

/-! ## Cancels between journal calls -/

@[simp] theorem cancelRun_steps (run hasModelEffects) :
    (cancelRun run hasModelEffects).saga.steps = run.saga.steps := by
  unfold cancelRun
  split
  · rfl
  split <;> rfl

theorem cancelRun_known {run} (hasModelEffects : Bool) (known : run.saga.state ≠ .outcomeUnknown) :
    (cancelRun run hasModelEffects).saga.state ≠ .outcomeUnknown := by
  unfold cancelRun
  split
  · exact known
  split <;> simp

theorem cancels_steps (cancels : List Bool) (s : Session) :
    (cancels.foldl Session.cancel s).run.saga.steps = s.run.saga.steps := by
  induction cancels generalizing s with
  | nil => rfl
  | cons m _ ih =>
    rw [List.foldl_cons, ih]
    exact cancelRun_steps s.run m

theorem cancels_known (cancels : List Bool) (known : s.run.saga.state ≠ .outcomeUnknown) :
    (cancels.foldl Session.cancel s).run.saga.state ≠ .outcomeUnknown := by
  induction cancels generalizing s with
  | nil => exact known
  | cons m _ ih => exact ih (cancelRun_known m known)

theorem cancels_sessionSteps (D steps) (cancels : List Bool) (s) :
    SessionSteps D steps s (cancels.foldl Session.cancel s) := by
  induction cancels generalizing s with
  | nil => exact .refl
  | cons m _ ih => exact (ih (s.cancel m)).head (.cancel s m)

theorem exchange_sessionSteps {answer} (sent : exchange D env progress w = (answer, w'))
    (permitted : Permitted D steps w.run.saga progress) :
    SessionSteps D steps w.toSession w'.toSession := by
  have first : SessionSteps D steps w.toSession (delivered D env progress w).2 := by
    unfold delivered
    split
    · exact .refl
    · exact .refl
    next accepted => exact .single (.progress accepted permitted)
    · exact .refl
    next accepted => exact .single (.progress accepted permitted)
  obtain rfl : (exchange D env progress w).2 = _ := by rw [sent]
  exact first.trans (cancels_sessionSteps D steps _ _)

/-! ## Journal calls seen from the executor -/

/-- The executor's snapshot shows the persisted rows. -/
structure Synced (snapshot : SagaSnapshot) (w : World) : Prop where
  ordered : Ordered w.run.saga
  known : w.run.saga.state ≠ .outcomeUnknown
  steps : snapshot.steps = w.run.saga.steps.map stepSnapshot

theorem refreshedState_ne_outcomeUnknown (cancelRequested steps) :
    refreshedState cancelRequested steps ≠ .outcomeUnknown := by
  unfold refreshedState
  repeat' split
  all_goals simp

theorem exchange_ok (h : exchange D env progress w = (.ok snapshot, w')) :
    ∃ after, reportProgress D w.run progress = .ok after ∧
      snapshot = loadRunSagaSnapshot after.saga ∧
      w'.run = ((env.cancels w.calls).foldl Session.cancel
        (w.toSession.commit (.progress progress) after)).run ∧
      w'.events = w.events ∧ w'.effects = w.effects ∧ w'.budgets = w.budgets := by
  unfold exchange at h
  cases fault : env.fault w.calls with
  | notApplied => simp [delivered, fault] at h
  | responseLost =>
    cases accepted : reportProgress D w.run progress <;>
      simp [delivered, fault, accepted] at h
  | none =>
    cases accepted : reportProgress D w.run progress with
    | error => simp [delivered, fault, accepted] at h
    | ok after =>
      simp only [delivered, fault, accepted, Prod.mk.injEq, Except.ok.injEq] at h
      obtain ⟨rfl, rfl⟩ := h
      exact ⟨after, rfl, rfl, rfl, rfl, rfl, rfl⟩

theorem Synced.of_cancels (D : Digests) {cancels : List Bool}
    (later : w'.run = (cancels.foldl Session.cancel s).run) (ordered : Ordered s.run.saga)
    (known : s.run.saga.state ≠ .outcomeUnknown) :
    Synced (loadRunSagaSnapshot s.run.saga) w' := by
  refine ⟨?_, ?_, ?_⟩ <;> rw [later]
  · exact SessionSteps.ordered (cancels_sessionSteps D [] cancels s) ordered
  · exact cancels_known _ known
  · rw [cancels_steps]
    rfl

theorem exchange_plan_synced {plan} (h : exchange D env (.plan plan) w = (.ok snapshot, w'))
    (ordered : Ordered w.run.saga) (known : snapshot.state ≠ .outcomeUnknown) :
    Synced snapshot w' := by
  obtain ⟨_, accepted, rfl, later, -⟩ := exchange_ok h
  obtain ⟨-, _, stored, rfl⟩ := reportProgress_ok accepted
  exact .of_cancels D later (ordered.bind stored) known

theorem recordSaga_ok (h : recordSaga D env context receipt w = (.ok snapshot, w'))
    (ordered : Ordered w.run.saga)
    (known : w.run.saga.state ≠ .outcomeUnknown)
    (inTurn : InTurn w.run.saga receipt)
    (settles : receipt.phase ≠ .outcomeUnknown) :
    Synced snapshot w' ∧ w'.effects = w.effects ∧ w'.budgets = w.budgets ∧
      ∃ index row row', receipt.sequence = index + 1 ∧
        w.run.saga.steps[index]? = some row ∧ Moves receipt row row' ∧
        w'.run.saga.steps = w.run.saga.steps.set index row' := by
  unfold recordSaga at h
  split at h
  · simp at h
  rename_i returned w₁ sent
  obtain ⟨rfl, rfl⟩ : returned = _ ∧ _ = _ := by simpa using h
  obtain ⟨_, accepted, rfl, later, -, effects, budgets⟩ := exchange_ok sent
  obtain ⟨-, saga, stored, rfl⟩ := reportProgress_ok accepted
  have orderedAfter : Ordered saga := ordered.record inTurn stored
  obtain ⟨-, ⟨unknown, -⟩ | ⟨-, index, row, row', recorded⟩⟩ :=
    recordRunSaga_ok ordered.contiguous stored
  · exact absurd unknown known
  have knownAfter : saga.state ≠ .outcomeUnknown := by
    rcases recorded.state with rfl | state
    · exact known
    · rw [state, if_neg settles]
      exact refreshedState_ne_outcomeUnknown _ _
  refine ⟨.of_cancels D later orderedAfter knownAfter, effects, budgets,
    index, row, row', recorded.sequence, recorded.position, recorded.moves, ?_⟩
  rw [later, cancels_steps]
  exact recorded.steps

theorem recordSaga_error {outcome} (h : recordSaga D env context receipt w = (.error outcome, w')) :
    ∃ err, outcome = .journal context err := by
  unfold recordSaga at h
  split at h
  next err w₁ sent => exact ⟨err, by simpa [eq_comm] using congrArg Prod.fst h⟩
  · simp at h

end YuFeng.Saga

import YuFeng.Library.Run
import YuFeng.Saga.Traversal

/-!
# Operations on a run

Runs of whole operations: executions, cancel requests, completion and failure
of the work item.  An operation is a sequence of transactions, or it ends the
work, so what each transaction keeps is kept by every run.
-/

namespace YuFeng.Saga

open YuFeng.Library List

inductive Operation where
  | execute (call : Call)
  | cancelRun (hasModelEffects : Bool)
  | completeWork
  | failWork

def operate (D : Digests) (s : Session) : Operation → Session
  | .execute call => (executeRecoverable D call s).2.toSession
  | .cancelRun hasModelEffects => s.cancel hasModelEffects
  | .completeWork =>
    match completeWork s.run with
    | .ok run => s.commit .complete run
    | .error _ => s
  | .failWork =>
    match failWork s.run with
    | .ok run => s.commit .fail run
    | .error _ => s

def createdSession : Session := ⟨createdRun, []⟩

variable {D : Digests} {saga : RunSaga} {s s' : Session} {run' : BrainRun} {op : Operation}

theorem SessionSteps.commits_grow {steps} (h : SessionSteps D steps s s') :
    s.commits <+: s'.commits := by
  induction h with
  | refl => exact prefix_rfl
  | tail _ step ih =>
    cases step <;> exact ih.trans (prefix_append _ _)

/-! ## One operation -/

theorem completeWork_ok {run} (h : completeWork run = .ok run') : run'.saga = run.saga := by
  unfold completeWork ensureRunSagaTerminal at h
  split at h
  · contradiction
  simp only [if_true] at h
  split at h
  · contradiction
  next accepted =>
    split at accepted
    · contradiction
    · cases accepted
      cases h
      rfl

theorem ensureRunSagaTerminal_failed {saga'} (h : ensureRunSagaTerminal saga false = .ok saga') :
    saga' = saga ∨ saga.planDigest = "" ∧ saga' = { saga with state := .compensated } := by
  unfold ensureRunSagaTerminal at h
  rw [if_neg (by simp)] at h
  split at h
  next unbound =>
    cases h
    exact .inr ⟨unbound.2, rfl⟩
  split at h
  · contradiction
  · cases h
    exact .inl rfl

theorem failWork_ok {run} (h : failWork run = .ok run') :
    run'.saga = run.saga ∨ run.saga.planDigest = "" ∧
      run'.saga = { run.saga with state := .compensated } := by
  unfold failWork at h
  split at h
  · contradiction
  split at h
  · contradiction
  rename_i saga accepted
  have settled := ensureRunSagaTerminal_failed accepted
  split at h
  · cases h
    exact settled
  split at h <;> cases h
  all_goals exact settled

/-- An operation is a row of journal transactions and cancels, or it ends the
work of the run. -/
inductive Operated (D : Digests) (op : Operation) (s : Session) : Session → Prop
  | steps {s' : Session}
      (session : ∀ steps, (∀ call, op = .execute call → call.steps = steps) →
        SessionSteps D steps s s') : Operated D op s s'
  | ended (request : Request) {run : BrainRun}
      (saga : run.saga = s.run.saga ∨ s.run.saga.planDigest = "" ∧
        run.saga = { s.run.saga with state := .compensated }) :
      Operated D op s (s.commit request run)

theorem operate_operated (D op) (ordered : Ordered s.run.saga) :
    Operated D op s (operate D s op) := by
  cases op with
  | execute call =>
    refine .steps fun steps same => ?_
    obtain rfl := same call rfl
    exact executeRecoverable_sessionSteps ordered
  | cancelRun hasModelEffects => exact .steps fun _ _ => .single (.cancel s hasModelEffects)
  | completeWork =>
    simp only [operate]
    split
    next ended => exact .ended _ (.inl (completeWork_ok ended))
    · exact .steps fun _ _ => .refl
  | failWork =>
    simp only [operate]
    split
    next ended => exact .ended _ (failWork_ok ended)
    · exact .steps fun _ _ => .refl

theorem Operation.exists_steps (op : Operation) :
    ∃ steps, ∀ call, op = .execute call → call.steps = steps := by
  cases op with
  | execute call => exact ⟨call.steps, by simp⟩
  | _ => exact ⟨[], nofun⟩

theorem operate_commits_grow (ordered : Ordered s.run.saga) :
    s.commits <+: (operate D s op).commits := by
  have operated := operate_operated D op ordered
  generalize operate D s op = s' at operated ⊢
  cases operated with
  | steps session =>
    obtain ⟨steps, same⟩ := op.exists_steps
    exact SessionSteps.commits_grow (session steps same)
  | ended => exact prefix_append _ _

/-! ## Runs -/

variable {Inv : RunSaga → Prop}

theorem operate_keeps {steps} (ordered : Ordered s.run.saga)
    (same : ∀ call, op = .execute call → call.steps = steps)
    (kept : ∀ {s s'}, SessionStep D steps s s' → Ordered s.run.saga → Inv s.run.saga →
      Inv s'.run.saga)
    (ended : ∀ saga state, Inv saga → Inv { saga with state := state }) (inv : Inv s.run.saga) :
    Inv (operate D s op).run.saga := by
  have operated := operate_operated D op ordered
  generalize operate D s op = s' at operated ⊢
  cases operated with
  | steps session => exact SessionSteps.keeps kept (session steps same) ordered inv
  | ended _ saga =>
    rcases saga with saga | ⟨-, saga⟩
    · simpa only [Session.commit, saga] using inv
    · simpa only [Session.commit, saga] using ended _ _ inv

theorem operate_ordered (ordered : Ordered s.run.saga) : Ordered (operate D s op).run.saga := by
  obtain ⟨steps, same⟩ := op.exists_steps
  exact operate_keeps ordered same (fun step ordered _ => step.ordered ordered)
    (fun _ _ h => ⟨h.unbound, h.contiguous, h.rows, h.inOrder⟩) ordered

variable {ops : List Operation}

/-- The rule for invariants of the saga over the operations of one plan. -/
theorem run_keeps {steps}
    (kept : ∀ {s s'}, SessionStep D steps s s' → Ordered s.run.saga → Inv s.run.saga →
      Inv s'.run.saga)
    (ended : ∀ saga state, Inv saga → Inv { saga with state := state })
    (created : Inv createdRun.saga) (same : ∀ call, .execute call ∈ ops → call.steps = steps) :
    Ordered (run (operate D) createdSession ops).run.saga ∧
      Inv (run (operate D) createdSession ops).run.saga := by
  refine run_invariant (operate D) (fun _ op => ∀ call, op = .execute call → call.steps = steps)
    (fun s => Ordered s.run.saga ∧ Inv s.run.saga)
    ?_ (meets_of_mem _ ?_ _) ⟨ordered_created, created⟩
  · intro s op same ⟨ordered, inv⟩
    exact ⟨operate_ordered ordered, operate_keeps ordered same kept ended inv⟩
  · rintro s op member call rfl
    exact same call member

theorem run_commits_grow (ordered : Ordered s.run.saga) (ops) :
    s.commits <+: (run (operate D) s ops).commits := by
  induction ops generalizing s with
  | nil => exact prefix_rfl
  | cons _ _ ih =>
    exact (operate_commits_grow ordered).trans (ih (operate_ordered ordered))

theorem run_extends (ordered : Ordered s.run.saga) (ops) :
    Ordered (run (operate D) s ops).run.saga ∧
      SagaExtends s.run.saga (run (operate D) s ops).run.saga := by
  refine run_always (operate D)
    (fun s' => Ordered s'.run.saga ∧ SagaExtends s.run.saga s'.run.saga)
    (fun s' op h => ?_) ⟨ordered, .refl _⟩ ops
  obtain ⟨steps, same⟩ := op.exists_steps
  exact ⟨operate_ordered h.1, operate_keeps h.1 same
    (fun step ordered before => before.trans (step.extends ordered))
    (fun _ _ before => ⟨before.cancelRequested, before.rows⟩) h.2⟩

/-- Nothing in the journal is undone by what is done later. -/
theorem journal_permanent (D : Digests) (before later : List Operation) :
    SagaExtends (run (operate D) createdSession before).run.saga
        (run (operate D) createdSession (before ++ later)).run.saga ∧
      (run (operate D) createdSession before).commits <+:
        (run (operate D) createdSession (before ++ later)).commits := by
  have ordered := (@run_extends D createdSession ordered_created before).1
  rw [run_append]
  exact ⟨(run_extends ordered later).2, run_commits_grow ordered later⟩

/-! ## A reservation and a notice -/

def reserveNotifyDigests : Digests where
  plan _ _ := "24af5e3f71bb0ddaf77977bf09b9616d416c181b9d9f9538cbc92985e8ce74bf"
  guard _ _ _ _ _ := "0c1c5386ea463d9b56d3ca9746a28e6942980c53fd0186ea2862f77643b6125b"

def reserveStep : Step where
  name := "reserve"
  dangerous := false
  fail := false
  replay := some .idempotent
  compensationReplay := some .idempotent
  budget := none
  memBytes := 0
  compensate := true
  run := true

def notifyStep : Step where
  name := "notify"
  dangerous := false
  fail := false
  replay := some .safe
  compensationReplay := none
  budget := none
  memBytes := 0
  compensate := false
  run := true

def calm : Environment where
  fault _ := .none
  cancels _ := []
  ctxErr _ _ := none
  runErr _ := none
  compensateErr _ := none
  budgets _ := 0

def reserveNotify (env : Environment) : Call := ⟨env, [reserveStep, notifyStep], false, ⟨0, 0, 0⟩⟩

end YuFeng.Saga

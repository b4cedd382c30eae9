import YuFeng.Saga.Compensation

/-!
# Effects that are not replayed

An action is called after its effect boundary is recorded, and so is a
compensation.  A step whose policy forbids a repetition is called only when
the boundary was open before, and a recorded boundary is never opened again.
So the persisted phases bound the number of calls, over any number of
executions, crashes and lost responses.
-/

namespace YuFeng.Saga

open YuFeng.Library List

variable {D : Digests}

variable {row row' : StepRow} {receipt : SagaReceipt} {effects : List Effect}
  {saga : RunSaga} {w w' : World} {env : Environment} {context cause : String}
  {step : Step} {c : Call} {snapshot : SagaSnapshot} {saga' : RunSaga}

/-! ## Effects and rows -/

theorem Effect.once_congr (e : Effect) (plan : row'.plan = row.plan) :
    e.once row' = e.once row := by
  cases e with
  | action | compensation => rw [Effect.once, Effect.once, plan]

theorem Moves.bounded (h : Moves receipt row row') {e : Effect}
    (once : e.once row = true) (bounded : e.unbounded row = false) :
    e.unbounded row' = false := by
  cases h with
  | stays => exact bounded
  | @advances action compensation next =>
    have table := nextPhases_transition next
    generalize phase : receipt.phase = named at table next
    cases e with
    | action =>
      simp only [Effect.unbounded, Bool.or_eq_false_iff, decide_eq_false_iff_not] at bounded
      simp only [Effect.unbounded, settleRow_actionPhase]
      cases table with
      | actionIntent pending => exact absurd pending bounded.1
      | compensationIntent | compensationEffect | compensated
      | compensationFailed | compensationUnknown => simp [bounded]
      | _ => rfl
    | compensation =>
      simp only [Effect.unbounded, Bool.or_eq_false_iff, decide_eq_false_iff_not] at bounded
      simp only [Effect.unbounded, settleRow_compensationPhase]
      cases table with
      | compensationIntent _ early =>
        -- A failed compensation is opened again only by other policies.
        have never : row.plan.compensationReplay = .never := by
          simpa [Effect.once] using once
        have failed := early.resolve_left bounded.1
        simp [nextPhases, failed, never] at next
      | compensationEffect | compensated | compensationFailed
      | compensationUnknown => rfl
      | _ => simp [bounded]

/-- Every call has a row, its boundary is recorded, and a call that must not
be repeated was made at most once. -/
structure Once (effects : List Effect) (saga : RunSaga) : Prop where
  known : ∀ e ∈ effects, ∃ row, saga.steps[e.index]? = some row
  bounded : ∀ e ∈ effects, ∀ row, saga.steps[e.index]? = some row →
    e.once row = true → e.unbounded row = false
  single : ∀ e row, saga.steps[e.index]? = some row → e.once row = true → effects.count e ≤ 1

theorem Once.congr (h : Once effects saga) (steps : saga'.steps = saga.steps) :
    Once effects saga' := by
  refine ⟨?_, ?_, ?_⟩
  · rw [steps]
    exact h.known
  · rw [steps]
    exact h.bounded
  · rw [steps]
    exact h.single

theorem Once.set {index} (h : Once effects saga) (position : saga.steps[index]? = some row)
    (moves : Moves receipt row row') (steps : saga'.steps = saga.steps.set index row') :
    Once effects saga' := by
  have plan := moves.extends.plan
  have earlier : ∀ (e : Effect) (other : StepRow),
      saga'.steps[e.index]? = some other → e.once other = true →
        ∃ before, saga.steps[e.index]? = some before ∧ e.once before = true ∧
          (e.unbounded before = false → e.unbounded other = false) := by
    intro e other found once
    rw [steps] at found
    rcases getElem?_set_cases found with ⟨same, rfl⟩ | ⟨-, old⟩
    · rw [e.once_congr plan] at once
      exact ⟨row, same ▸ position, once, moves.bounded once⟩
    · exact ⟨other, old, once, id⟩
  refine ⟨?_, ?_, ?_⟩
  · intro e called
    obtain ⟨before, found⟩ := h.known e called
    rw [steps]
    by_cases same : index = e.index
    · exact ⟨row', same ▸ getElem?_set_of_some position row'⟩
    · exact ⟨before, by rw [getElem?_set_ne same, found]⟩
  · intro e called other found once
    obtain ⟨before, old, policy, bounded⟩ := earlier e other found once
    exact bounded (h.bounded e called before old policy)
  · intro e other found once
    obtain ⟨before, old, policy, -⟩ := earlier e other found once
    exact h.single e before old policy

theorem SessionStep.once {steps} {s s'} (h : SessionStep D steps s s')
    (ordered : Ordered s.run.saga) (once : Once effects s.run.saga) : Once effects s'.run.saga := by
  cases h with
  | @progress progress _ accepted =>
    obtain ⟨-, saga, stored, rfl⟩ := reportProgress_ok accepted
    cases progress with
    | plan =>
      obtain ⟨-, -, -, ⟨unbound, -⟩ | ⟨-, rfl⟩⟩ := bindRunSaga_ok stored
      · -- An unbound saga has no rows, so nothing was called yet.
        have empty : effects = [] := by
          rw [eq_nil_iff_forall_not_mem]
          intro e called
          obtain ⟨_, found⟩ := once.known e called
          rw [ordered.unbound unbound] at found
          contradiction
        subst empty
        exact ⟨by simp, by simp, by simp⟩
      · exact once
    | receipt =>
      obtain ⟨-, ⟨-, rfl⟩ | ⟨-, _, _, _, recorded⟩⟩ :=
        recordRunSaga_ok ordered.contiguous stored
      · exact once
      · exact once.set recorded.position recorded.moves recorded.steps
  | cancel hasModelEffects =>
    exact once.congr (cancelRun_steps s.run hasModelEffects)

theorem Once.call (h : Once effects saga) {e} (position : saga.steps[e.index]? = some row)
    (bounded : e.unbounded row = false) (fresh : e.once row = true → e ∉ effects) :
    Once (effects ++ [e]) saga := by
  refine ⟨?_, ?_, ?_⟩
  · intro other called
    rcases mem_append.mp called with earlier | now
    · exact h.known other earlier
    · rw [mem_singleton.mp now]
      exact ⟨row, position⟩
  · intro other called at' found once
    rcases mem_append.mp called with earlier | now
    · exact h.bounded other earlier at' found once
    · obtain rfl := mem_singleton.mp now
      rw [position] at found
      cases found
      exact bounded
  · intro other at' found once
    rw [count_append]
    by_cases same : other = e
    · subst same
      rw [position] at found
      cases found
      rw [count_eq_zero_of_not_mem (fresh once)]
      simp
    · have none : [e].count other = 0 := count_eq_zero_of_not_mem (by simp [same])
      have single := h.single other at' found once
      omega

/-! ## Executions -/

structure OnceIn (prior : List Effect) (w : World) : Prop where
  ordered : Ordered w.run.saga
  once : Once (prior ++ w.effects) w.run.saga

section Executions

variable {prior : List Effect} {steps : List Step} {bound : Nat}

theorem OnceIn.later (h : OnceIn prior w)
    (session : SessionSteps D steps w.toSession w'.toSession)
    (effects : w'.effects = w.effects) : OnceIn prior w' := by
  have all : Ordered w'.run.saga ∧ Once (prior ++ w.effects) w'.run.saga := by
    generalize w'.toSession = s at session
    induction session with
    | refl => exact ⟨h.ordered, h.once⟩
    | tail _ step ih => exact ⟨step.ordered ih.1, step.once ih.1 ih.2⟩
  refine ⟨all.1, ?_⟩
  rw [effects]
  exact all.2

theorem OnceIn.exchanged {progress answer} (h : OnceIn prior w)
    (sent : exchange D env progress w = (answer, w'))
    (permitted : Permitted D steps w.run.saga progress) : OnceIn prior w' := by
  refine h.later (exchange_sessionSteps sent permitted) ?_
  obtain rfl : (exchange D env progress w).2 = w' := by rw [sent]
  rfl

theorem WorldStep.once (step : WorldStep D c bound w w') (h : OnceIn prior w) :
    OnceIn prior w' := by
  induction step with
  | note session effects =>
    refine ⟨?_, ?_⟩
    · rw [session]
      exact h.ordered
    · rw [session, effects]
      exact h.once
  | receipt _ issued _ sent => exact h.exchanged sent issued.permitted
  | @call effect _ w₁ _ row _ _ quiet was fresh now plan bounded session effects ih =>
    have after := ih h
    refine ⟨session ▸ after.ordered, ?_⟩
    rw [session, effects, ← append_assoc]
    refine after.once.call now bounded fun once called => ?_
    -- A call before the boundary would have found it recorded.
    rw [quiet] at called
    rw [effect.once_congr plan] at once
    simpa [fresh once] using h.once.bounded effect called row was once

theorem Path.once (h : Path D c bound w w') (once : OnceIn prior w) : OnceIn prior w' := by
  induction h with
  | refl => exact once
  | tail _ step ih => exact step.once ih

theorem executeRecoverable_once {s} (ordered : Ordered s.run.saga) (once : Once prior s.run.saga) :
    OnceIn prior (executeRecoverable D c s).2 := by
  have initial : OnceIn prior (startWorld s c.env.budgets) :=
    ⟨ordered, by simpa [startWorld] using once⟩
  obtain ⟨-, effects, session⟩ | ⟨plan, snapshot, w, built, sent, -, ends⟩ :=
    executeRecoverable_cases (D := D) (c := c) ordered
  · exact initial.later session effects
  have permitted : Permitted D c.steps s.run.saga (.plan plan) := built
  have bound : OnceIn prior w := initial.exchanged sent permitted
  generalize executeRecoverable D c s = result at ends
  cases ends with
  | own path => exact path.once bound
  | sent path _ issued sent => exact (path.once bound).exchanged sent issued.permitted

end Executions

/-! ## Histories of one run -/

structure Trail where
  session : Session
  effects : List Effect

def Trail.operate (D : Digests) (t : Trail) (op : Operation) : Trail where
  session := Saga.operate D t.session op
  effects := t.effects ++ match op with
    | .execute call => (executeRecoverable D call t.session).2.effects
    | _ => []

def createdTrail : Trail := ⟨createdSession, []⟩

theorem trail_session (ops t) :
    (run (Trail.operate D) t ops).session = run (Saga.operate D) t.session ops := by
  induction ops generalizing t with
  | nil => rfl
  | cons op _ ih => exact ih (t.operate D op)

theorem operate_once {t : Trail} {op} (ordered : Ordered t.session.run.saga)
    (once : Once t.effects t.session.run.saga) :
    Once (t.operate D op).effects (t.operate D op).session.run.saga := by
  cases op with
  | execute => exact (executeRecoverable_once ordered once).once
  | cancelRun =>
    simp only [Trail.operate, append_nil]
    exact once.congr (cancelRun_steps _ _)
  | completeWork =>
    simp only [Trail.operate, append_nil, Saga.operate]
    split
    next run ended => exact once.congr (by simp [Session.commit, completeWork_ok ended])
    · exact once
  | failWork =>
    simp only [Trail.operate, append_nil, Saga.operate]
    split
    next run ended =>
      obtain saga | ⟨-, saga⟩ := failWork_ok ended <;>
        exact once.congr (by simp [Session.commit, saga])
    · exact once

theorem run_once (ops) : Once (run (Trail.operate D) createdTrail ops).effects
      (run (Trail.operate D) createdTrail ops).session.run.saga := by
  have both : Ordered (run (Trail.operate D) createdTrail ops).session.run.saga ∧
      Once (run (Trail.operate D) createdTrail ops).effects
        (run (Trail.operate D) createdTrail ops).session.run.saga := by
    refine run_always (Trail.operate D) (fun t => Ordered t.session.run.saga ∧
        Once t.effects t.session.run.saga) ?_ ⟨ordered_created,
      ⟨by simp [createdTrail], by simp [createdTrail], by simp [createdTrail]⟩⟩ ops
    rintro _ _ ⟨ordered, once⟩
    exact ⟨operate_ordered ordered, operate_once ordered once⟩
  exact both.2

/-- Over any number of executions of one plan, with crashes, lost responses
and cancels anywhere, an action that must not be replayed is called at most
once, and so is such a compensation. -/
theorem neverReplay_once (D : Digests) {steps : List Step} {ops : List Operation}
    (same : ∀ call, .execute call ∈ ops → call.steps = steps)
    {index : Nat} {step : Step} (position : steps[index]? = some step) :
    (normalizeReplay step.replay = .never →
        (run (Trail.operate D) createdTrail ops).effects.count (.action index) ≤ 1) ∧
      (normalizeReplay step.compensationReplay = .never →
        (run (Trail.operate D) createdTrail ops).effects.count (.compensation index) ≤ 1) := by
  have once := @run_once D ops
  obtain ⟨ordered, planned⟩ := @run_planned D steps ops same
  rw [trail_session] at once
  have bounded : ∀ e : Effect, e.index = index → (∀ row : StepRow, row.plan = stepPlan index step →
        e.once row = true) →
      (run (Trail.operate D) createdTrail ops).effects.count e ≤ 1 := by
    intro e here policy
    by_cases called : e ∈ (run (Trail.operate D) createdTrail ops).effects
    · obtain ⟨row, found⟩ := once.known e called
      have bound : (run (operate D) createdSession ops).run.saga.planDigest ≠ "" := by
        intro unbound
        have empty := ordered.unbound unbound
        change (run (operate D) createdSession ops).run.saga.steps[e.index]? = some row at found
        rw [empty] at found
        contradiction
      obtain ⟨row', found', plan⟩ := (planned bound).2.row position
      exact once.single e row' (here ▸ found') (policy row' plan)
    · rw [count_eq_zero_of_not_mem called]
      exact Nat.zero_le 1
  refine ⟨fun never => bounded (.action index) rfl fun row plan => ?_,
    fun never => bounded (.compensation index) rfl fun row plan => ?_⟩
  all_goals simp [Effect.once, plan, stepPlan, never]

/-! ## A charge -/

def chargeStep (compensate : Bool) : Step :=
  { reserveStep with
    name := "charge"
    replay := some .never
    compensationReplay := some .never
    compensate := compensate }

def charge (compensate : Bool) (env : Environment) : Call :=
  ⟨env, [chargeStep compensate, notifyStep], false, ⟨0, 0, 0⟩⟩

/-- The execution dies after the charge, before its settlement is recorded. -/
def crashedInCharge (compensate : Bool) : Operation :=
  .execute (charge compensate { calm with
    fault := fun call => if call = 3 then .notApplied else .none })

/-- The charge is made before the crash and not again after it. -/
theorem neverReplay_once_charge :
    let ops := [crashedInCharge true, .execute (charge true calm)]
    (run (Trail.operate reserveNotifyDigests) createdTrail ops).effects = [.action 0] ∧
      (run (Trail.operate reserveNotifyDigests) createdTrail
        ops).effects.count (.action 0) ≤ 1 := by
  refine ⟨by decide +kernel, ?_⟩
  refine (@neverReplay_once reserveNotifyDigests [chargeStep true, notifyStep]
    [crashedInCharge true, .execute (charge true calm)] ?_ 0
    (chargeStep true) rfl).1 rfl
  intro _ member
  simp only [mem_cons, crashedInCharge, Operation.execute.injEq, not_mem_nil, or_false] at member
  rcases member with rfl | rfl <;> rfl

end YuFeng.Saga

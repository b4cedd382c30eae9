import YuFeng.Saga.Surfacing

/-!
# The executor and the journal conform

The executor and the brain compute the plan digest independently, and each has
its own idea of the phases a step goes through.  The two digests are equal for
every plan.  The receipts of an execution are accepted as long as the error
texts fit the journal and no cancel request has hidden an unknown outcome.
-/

namespace YuFeng.Saga

open YuFeng.Library List

variable {steps : List Step} {plan : SagaPlan} {receipt : SagaReceipt}
  {w' : World} {saga saga' : RunSaga} {row row' : StepRow} {index : Nat}
  {s : Session}

/-! ## Plan digests -/

inductive RunStepReplayPolicy where
  | unspecified
  | safe
  | idempotent
  | neverReplay
  deriving DecidableEq, Repr

structure RunSagaStepPlan where
  sequence : Nat
  stepKey : String
  actionReplay : RunStepReplayPolicy
  hasCompensation : Bool
  compensationReplay : RunStepReplayPolicy
  deriving DecidableEq

structure RunSagaPlan where
  schemaVersion : String
  steps : List RunSagaStepPlan
  planDigest : String
  deriving DecidableEq

def ReplayPolicy.text : ReplayPolicy → String
  | .safe => "safe"
  | .idempotent => "idempotent"
  | .never => "never_replay"

def replayToProto : ReplayPolicy → RunStepReplayPolicy
  | .safe => .safe
  | .idempotent => .idempotent
  | .never => .neverReplay

def replayName : RunStepReplayPolicy → String
  | .safe => "safe"
  | .idempotent => "idempotent"
  | .neverReplay => "never_replay"
  | .unspecified => ""

def sagaStepPlanToProto (step : SagaStepPlan) : RunSagaStepPlan where
  sequence := step.sequence
  stepKey := step.stepKey
  actionReplay := replayToProto step.actionReplay
  hasCompensation := step.hasCompensation
  compensationReplay := replayToProto step.compensationReplay

def sagaPlanToProto (plan : SagaPlan) : RunSagaPlan where
  schemaVersion := plan.schemaVersion
  steps := plan.steps.map sagaStepPlanToProto
  planDigest := plan.planDigest

section Digest

variable (quote sha : String → String) (guard : Bool → Bool → Nat → Bool → ResourceLimit → String)

def jsonObject (fields : List (String × String)) : String :=
  "\x7b" ++ ",".intercalate (fields.map fun field => quote field.1 ++ ":" ++ field.2) ++ "\x7d"

def jsonArray (items : List String) : String := "[" ++ ",".intercalate items ++ "]"

def jsonBool (value : Bool) : String :=
  if value then "true" else "false"

def sagaStepPlanJson (step : SagaStepPlan) : String :=
  jsonObject quote [("sequence", toString step.sequence), ("step_key", quote step.stepKey),
    ("action_replay", quote step.actionReplay.text),
    ("has_compensation", jsonBool step.hasCompensation),
    ("compensation_replay", quote step.compensationReplay.text)]

def sagaPlanJson (schemaVersion : String) (steps : List SagaStepPlan) : String :=
  jsonObject quote [("schema_version", quote schemaVersion),
    ("steps", jsonArray (steps.map (sagaStepPlanJson quote)))]

def digestStepJson (step : RunSagaStepPlan) : String :=
  jsonObject quote [("sequence", toString step.sequence), ("step_key", quote step.stepKey),
    ("action_replay", quote (replayName step.actionReplay)),
    ("has_compensation", jsonBool step.hasCompensation),
    ("compensation_replay", quote (replayName step.compensationReplay))]

def runSagaPlanJson (plan : RunSagaPlan) : String :=
  jsonObject quote [("schema_version", quote plan.schemaVersion),
    ("steps", jsonArray (plan.steps.map (digestStepJson quote)))]

/-- `runSagaPlanDigest` of the brain, over the plan it receives. -/
def receivedPlanDigest (plan : RunSagaPlan) : String :=
  "sha256:" ++ sha (runSagaPlanJson quote plan)

def jsonDigests : Digests where
  plan schemaVersion steps := sha (sagaPlanJson quote schemaVersion steps)
  guard := guard

@[simp] theorem replayName_replayToProto (policy) :
    replayName (replayToProto policy) = policy.text := by
  cases policy <;> rfl

theorem digestStepJson_toProto (step) :
    digestStepJson quote (sagaStepPlanToProto step) = sagaStepPlanJson quote step := by
  simp [digestStepJson, sagaStepPlanJson, sagaStepPlanToProto]

theorem runSagaPlanJson_toProto (plan) : runSagaPlanJson quote (sagaPlanToProto plan) =
      sagaPlanJson quote plan.schemaVersion plan.steps := by
  simp [runSagaPlanJson, sagaPlanJson, sagaPlanToProto, Function.comp_def, digestStepJson_toProto]

theorem receivedPlanDigest_built
    (h : buildSagaPlan (jsonDigests quote sha guard) steps = .ok plan) :
    receivedPlanDigest quote sha (sagaPlanToProto plan) = plan.planDigest := by
  rw [receivedPlanDigest, runSagaPlanJson_toProto]
  unfold buildSagaPlan at h
  split at h
  · contradiction
  · cases h
    rfl

end Digest

/-! ## Refused receipts -/

def unleased : RpcError := ⟨.failedPrecondition, "work item is not leased to this lease"⟩

/--
No receipt of the execution was refused, other than for the lease.  A call
that gets no answer shows nothing here: the same receipt is sent, and its
refusal seen, in the environment that answers that call.
-/
def Answered (outcome : Outcome) : Prop := ∀ err, refusal outcome = some err → err = unleased

variable {D : Digests} {env : Environment} {w : World} {s' : Session} {hasModelEffects : Bool}

theorem exchange_refused {err} (accepted : recordRunSaga w.run.saga receipt = .ok saga)
    (h : exchange D env (.receipt receipt) w = (.error (.brain err), w')) : err = unleased := by
  unfold exchange delivered at h
  cases fault : env.fault w.calls with
  | notApplied => simp [fault] at h
  | responseLost =>
    cases answer : reportProgress D w.run (.receipt receipt) <;>
      simp [fault, answer] at h
  | none =>
    by_cases live : w.run.work = .live
    · simp [fault, reportProgress, live, sagaProgress, accepted] at h
    · simp only [fault, reportProgress, live, ne_eq, not_false_eq_true,
        if_true, Prod.mk.injEq, Except.error.injEq, JournalError.brain.injEq] at h
      exact h.1.symm

/-! ## What the executor relies on -/

def KeysAccepted (steps : List Step) : Prop :=
  ∀ step ∈ steps, trimSpace step.name ≠ "" ∧ step.name.utf8ByteSize ≤ 128

structure Attending (steps : List Step) (saga : RunSaga) : Prop where
  ordered : Ordered saga
  known : saga.state ≠ .outcomeUnknown
  matching : Matching steps saga
  settled : ∀ row ∈ saga.steps, row.actionPhase ≠ .outcomeUnknown

theorem Moves.settled (h : Moves receipt row row') (settles : receipt.phase ≠ .outcomeUnknown)
    (was : row.actionPhase ≠ .outcomeUnknown) :
    row'.actionPhase ≠ .outcomeUnknown := by
  cases h with
  | stays => exact was
  | advances next =>
    have table := nextPhases_transition next
    generalize receipt.phase = phase at table settles
    rw [settleRow_actionPhase]
    cases table <;> simp_all

section Receipts

variable {c : Call} {bound : Nat}

theorem Attending.wrote (h : Attending steps w.run.saga) (wrote : Wrote index receipt w w' row row')
    (settles : receipt.phase ≠ .outcomeUnknown) :
    Attending steps w'.run.saga := by
  refine ⟨wrote.ordered, wrote.known, h.matching.touched wrote.touched, ?_⟩
  intro other member
  obtain ⟨i, found⟩ := mem_iff_getElem?.mp member
  by_cases same : i = index
  · subst same
    rw [wrote.now] at found
    cases found
    exact wrote.moves.settled settles (h.settled row (mem_of_getElem? wrote.was))
  · rw [wrote.touched.others i same] at found
    exact h.settled other (mem_of_getElem? found)

theorem WorldStep.attending (h : WorldStep D c bound w w')
    (attending : Attending steps w.run.saga) : Attending steps w'.run.saga := by
  induction h with
  | note session => rwa [session]
  | receipt _ issued settles sent =>
    obtain ⟨-, _, _, wrote⟩ := recordSaga_wrote (recordSaga_of_exchange "" sent)
      attending.ordered attending.known issued.inTurn settles issued.sequence
    exact attending.wrote wrote settles
  | call _ _ _ _ _ _ _ _ session _ ih =>
    rw [session]
    exact ih attending

theorem Path.attending (h : Path D c bound w w') (attending : Attending steps w.run.saga) :
    Attending steps w'.run.saga := by
  induction h with
  | refl => exact attending
  | tail _ step ih => exact step.attending ih

theorem Issued.accepted (h : Issued D c saga index row receipt)
    (attending : Attending c.steps saga) (keys : KeysAccepted c.steps) (guards : GuardsFit D)
    (terse : Terse c.env) : ∃ saga', recordRunSaga saga receipt = .ok saga' := by
  have number := attending.ordered.contiguous index row h.position
  obtain ⟨named, short⟩ : trimSpace row.plan.stepKey ≠ "" ∧
      row.plan.stepKey.utf8ByteSize ≤ 128 := by
    have plan := attending.matching index
    rw [h.position, Option.map_some, eq_comm, Option.map_eq_some_iff] at plan
    obtain ⟨step, atStep, plan⟩ := plan
    rw [← plan]
    exact keys step (mem_of_getElem? atStep)
  have acceptable : Acceptable saga receipt index row := {
    position := h.position
    sequence := h.sequence.trans number.symm
    key := h.key
    named := named
    fits := h.fits terse guards short
    guard := h.guard
    phase := .inr (h.next attending.matching (attending.settled row (mem_of_getElem? h.position))) }
  refine recordRunSaga_accepts attending.ordered.contiguous ?_ acceptable
  intro unbound
  have position := h.position
  simp [attending.ordered.unbound unbound] at position

end Receipts

/-! ## Histories -/

/-- A step of unknown outcome shows in the state of the saga. -/
def Disclosed (saga : RunSaga) : Prop :=
  saga.state ≠ .outcomeUnknown → ∀ row ∈ saga.steps, row.actionPhase ≠ .outcomeUnknown

/-- No cancel request of the session found an active run of unknown outcome. -/
def CancelsKnown (s : Session) : Prop :=
  ∀ commit ∈ s.commits, ∀ hasModelEffects, commit.request = .cancel hasModelEffects →
      isRunTerminal commit.before.status = true ∨ commit.before.saga.state ≠ .outcomeUnknown

theorem CancelsKnown.of_longer (h : CancelsKnown s')
    (before : s.commits <+: s'.commits) : CancelsKnown s :=
  fun commit member => h commit (before.subset member)

theorem CancelsKnown.last (h : CancelsKnown (s.cancel hasModelEffects)) :
    isRunTerminal s.run.status = true ∨ s.run.saga.state ≠ .outcomeUnknown :=
  h ⟨.cancel hasModelEffects, s.run, _⟩ (mem_append_right _ (mem_singleton.mpr rfl)) _ rfl

theorem Disclosed.record (h : Disclosed saga) (contiguous : Contiguous saga.steps)
    (accepted : recordRunSaga saga receipt = .ok saga') :
    Disclosed saga' := by
  obtain ⟨-, ⟨-, rfl⟩ | ⟨known, index, row, row', recorded⟩⟩ :=
    recordRunSaga_ok contiguous accepted
  · exact h
  rcases recorded.state with rfl | state
  · exact h
  intro known' other member
  have settles : receipt.phase ≠ .outcomeUnknown := by
    intro unknown
    simp [state, unknown] at known'
  rw [recorded.steps] at member
  rcases mem_or_eq_of_mem_set member with old | rfl
  · exact h known other old
  · exact recorded.moves.settled settles (h known row (mem_of_getElem? recorded.position))

theorem Disclosed.bind (h : Disclosed saga) (accepted : bindRunSaga D saga plan = .ok saga') :
    Disclosed saga' := by
  obtain ⟨-, -, -, ⟨-, -, rfl⟩ | ⟨-, rfl⟩⟩ := bindRunSaga_ok accepted
  · intro _ row member
    simp only [mem_map] at member
    obtain ⟨step, -, rfl⟩ := member
    simp
  · exact h

theorem Disclosed.cancel (h : Disclosed s.run.saga)
    (known : isRunTerminal s.run.status = true ∨ s.run.saga.state ≠ .outcomeUnknown) :
    Disclosed (s.cancel hasModelEffects).run.saga := by
  intro state row member
  simp only [Session.cancel, Session.commit] at state member
  rcases known with terminal | known
  · rw [show cancelRun s.run hasModelEffects = s.run by
      simp [cancelRun, terminal]] at state member
    exact h state row member
  · rw [cancelRun_steps] at member
    exact h known row member

theorem SessionSteps.disclosed
    (h : SessionSteps D steps s s') (ordered : Ordered s.run.saga)
    (known : CancelsKnown s') (disclosed : Disclosed s.run.saga) :
    Disclosed s'.run.saga := by
  induction h with
  | refl => exact disclosed
  | tail moves step ih =>
    have before := SessionSteps.commits_grow (Relation.ReflTransGen.single step)
    have here := ih (known.of_longer before)
    cases step with
    | @progress progress _ accepted =>
      obtain ⟨-, saga, stored, rfl⟩ := reportProgress_ok accepted
      cases progress with
      | plan => exact here.bind stored
      | receipt =>
        exact here.record (SessionSteps.ordered moves ordered).contiguous stored
    | cancel => exact here.cancel known.last

theorem Planned.same {steps'} (h : Planned D steps saga)
    (same : buildSagaPlan D steps' = buildSagaPlan D steps) : Planned D steps' saga := by
  intro bound
  obtain ⟨⟨plan, built⟩, matching⟩ := h bound
  refine ⟨⟨plan, same.trans built⟩, fun i => ?_⟩
  rw [matching i, ← buildSagaPlan_steps built i, ← buildSagaPlan_steps (same.trans built) i]

structure Journaled (D : Digests) (steps : List Step) (s : Session) :
    Prop where
  ordered : Ordered s.run.saga
  planned : Planned D steps s.run.saga
  disclosed : CancelsKnown s → Disclosed s.run.saga

theorem Journaled.after {op} (h : Journaled D steps s)
    (same : ∀ call, op = .execute call → buildSagaPlan D call.steps = buildSagaPlan D steps) :
    Journaled D steps (operate D s op) := by
  obtain ⟨called, named, plans⟩ : ∃ called, (∀ call, op = .execute call → call.steps = called) ∧
      buildSagaPlan D called = buildSagaPlan D steps := by
    cases op with
    | execute call => exact ⟨call.steps, by simp, same call rfl⟩
    | _ => exact ⟨steps, nofun, rfl⟩
  have ordered : Ordered (operate D s op).run.saga := operate_ordered h.ordered
  have operated := operate_operated D op h.ordered
  generalize operate D s op = s' at operated ordered ⊢
  cases operated with
  | steps session =>
    have moved := session called named
    refine ⟨ordered, ?_, ?_⟩
    · exact (SessionSteps.planned moved h.ordered (h.planned.same plans)).same plans.symm
    · intro known
      exact SessionSteps.disclosed moved h.ordered known
        (h.disclosed (known.of_longer (SessionSteps.commits_grow moved)))
  | @ended _ run saga =>
    rcases saga with saga | ⟨unbound, saga⟩
    · refine ⟨ordered, by simpa [Session.commit, saga] using h.planned, ?_⟩
      intro known
      simpa [Session.commit, saga] using h.disclosed (known.of_longer (prefix_append _ _))
    · refine ⟨ordered, by simpa [Session.commit, saga, Planned, Matching] using h.planned, ?_⟩
      intro _ _ row member
      simp [Session.commit, saga, h.ordered.unbound unbound] at member

theorem run_journaled {ops} (same : ∀ call, .execute call ∈ ops →
      buildSagaPlan D call.steps = buildSagaPlan D steps) :
    Journaled D steps (run (operate D) createdSession ops) := by
  refine run_invariant (operate D) (fun _ op => ∀ call, op = .execute call →
      buildSagaPlan D call.steps = buildSagaPlan D steps)
    (Journaled D steps) ?_ (meets_of_mem _ ?_ _) ?_
  · intro s op same journaled
    exact journaled.after same
  · rintro s op member call rfl
    exact same call member
  · refine ⟨ordered_created, fun bound => absurd rfl bound, ?_⟩
    intro _ _ row member
    simp [createdSession, createdRun] at member

theorem bindRunSaga_keys {before after} (built : buildSagaPlan D steps = .ok plan)
    (accepted : bindRunSaga D before plan = .ok after) : KeysAccepted steps := by
  intro step member
  obtain ⟨i, position⟩ := mem_iff_getElem?.mp member
  have planned := buildSagaPlan_steps built i
  rw [position, Option.map_some] at planned
  obtain ⟨-, -, checked, -⟩ := bindRunSaga_ok accepted
  have key := checkPlanSteps_key checked (mem_of_getElem? planned)
  simpa only [stepPlan] using key

theorem executeRecoverable_answered {c} (guards : GuardsFit D) (terse : Terse c.env)
    (journaled : Journaled D c.steps s) (known : CancelsKnown s) :
    Answered (executeRecoverable D c s).1 := by
  obtain ⟨quiet, -⟩ | ⟨plan, snapshot, w, built, result, shown, ends⟩ :=
    executeRecoverable_cases (D := D) (c := c) journaled.ordered
  · simp [Answered, quiet]
  have synced : Synced snapshot w := exchange_plan_synced result journaled.ordered shown
  obtain ⟨after, accepted, rfl, later, -⟩ := exchange_ok result
  obtain ⟨-, saga, stored, rfl⟩ := reportProgress_ok accepted
  have keys := bindRunSaga_keys built stored
  have step : SessionStep D c.steps s
      (s.commit (.progress (.plan plan)) { s.run with saga := saga }) :=
    .progress accepted built
  have planned := step.planned journaled.ordered journaled.planned
  have attending : Attending c.steps w.run.saga := by
    refine ⟨synced.ordered, synced.known, ?_, ?_⟩
    · intro i
      rw [later, cancels_steps]
      refine (planned ?_).2 i
      obtain ⟨nonempty, digest, -⟩ := bindRunSaga_ok stored
      exact digest ▸ nonempty
    · intro row member
      rw [later, cancels_steps] at member
      exact (journaled.disclosed known).bind stored shown row member
  generalize executeRecoverable D c s = ended at ends
  cases ends with
  | own _ answered => simp [Answered, answered]
  | sent path _ issued sent shown =>
    rcases shown with rfl | ⟨err, text, rfl, shown⟩
    · simp [Answered, refusal]
    · intro seen refused
      obtain ⟨_, accepted⟩ := issued.accepted (path.attending attending) keys guards terse
      obtain rfl : err = .brain seen := by
        rcases shown with rfl | rfl <;> cases err <;> simp_all [refusal]
      exact exchange_refused accepted sent

/--
The executor and the brain agree on the digest of every plan.  In a history of
executions of one plan, crashed or resumed, the brain refuses no receipt but
for the lease, provided the error texts of the steps fit the journal and no
cancel request was committed on an active run of unknown outcome.
-/
theorem receipts_conform (quote sha : String → String)
    (guard : Bool → Bool → Nat → Bool → ResourceLimit → String)
    (hex : ∀ dangerous fail memBytes sandbox limit,
      (guard dangerous fail memBytes sandbox limit).utf8ByteSize = 64)
    (c : Call) (ops : List Operation)
    (same : ∀ call, .execute call ∈ ops → buildSagaPlan (jsonDigests quote sha guard) call.steps =
        buildSagaPlan (jsonDigests quote sha guard) c.steps)
    (known : CancelsKnown (run (operate (jsonDigests quote sha guard)) createdSession ops))
    (terse : Terse c.env) :
    (∀ plan, buildSagaPlan (jsonDigests quote sha guard) c.steps = .ok plan →
      receivedPlanDigest quote sha (sagaPlanToProto plan) = plan.planDigest) ∧
    Answered (executeRecoverable (jsonDigests quote sha guard) c
      (run (operate (jsonDigests quote sha guard)) createdSession ops)).1 := by
  have guards : GuardsFit (jsonDigests quote sha guard) := by
    intro step sandbox limit
    have digest := hex step.dangerous step.fail step.memBytes sandbox limit
    have first : "sha256:".utf8ByteSize = 7 := by decide
    simp only [stepGuardDigest, jsonDigests, String.utf8ByteSize_append]
    omega
  constructor
  · intro plan built
    exact receivedPlanDigest_built quote sha guard built
  · exact executeRecoverable_answered guards terse (run_journaled same) known

/-! ## An error text that does not fit -/

def plainQuote (text : String) : String := "\"" ++ text ++ "\""

def reserveNotifySha (_ : String) : String :=
  "24af5e3f71bb0ddaf77977bf09b9616d416c181b9d9f9538cbc92985e8ce74bf"

def reserveNotifyGuard (_ _ : Bool) (_ : Nat) (_ : Bool) (_ : ResourceLimit) : String :=
  "0c1c5386ea463d9b56d3ca9746a28e6942980c53fd0186ea2862f77643b6125b"

def reserveNotifyJson : Digests := jsonDigests plainQuote reserveNotifySha reserveNotifyGuard

def notifyFails (text : String) : Call :=
  reserveNotify { calm with
    runErr := fun index => if index = 1 then some text else none }

/-- `reserve` has crashed after its effect; `notify` fails once resumed. -/
theorem receipts_conform_crashed :
    Answered (executeRecoverable reserveNotifyJson (notifyFails "smtp down")
      (run (operate reserveNotifyJson) createdSession crashedInReserve)).1 := by
  refine (receipts_conform plainQuote reserveNotifySha reserveNotifyGuard ?_
    (notifyFails "smtp down") crashedInReserve ?_ ?_ ?_).2
  · intro dangerous fail memBytes sandbox limit
    unfold reserveNotifyGuard
    decide
  · intro call member
    obtain rfl : call = _ := by simpa [crashedInReserve] using member
    rfl
  · intro commit member hasModelEffects cancelled
    have none : ∀ commit ∈ (run (operate reserveNotifyJson) createdSession
        crashedInReserve).commits, ∀ hasModelEffects,
          commit.request ≠ .cancel hasModelEffects := by decide
    exact absurd cancelled (none commit member hasModelEffects)
  · constructor
    · intro index err failed
      have text : "smtp down" = err := by
        simp only [notifyFails, reserveNotify] at failed
        split at failed
        · simpa using failed
        · simp at failed
      rw [← text]
      decide
    · intro index err failed
      simp [notifyFails, reserveNotify, calm] at failed

set_option maxRecDepth 100000 in
/--
The error of `notify` has 2049 bytes.  The brain refuses the receipt, and
`reserve`, whose effect has happened, is never compensated.
-/
theorem receipt_refused_long_error : ¬ Answered (executeRecoverable reserveNotifyJson
        (notifyFails (String.ofList (List.replicate 2049 'x')))
        createdSession).1 ∧
      (executeRecoverable reserveNotifyJson (notifyFails (String.ofList (List.replicate 2049 'x')))
        createdSession).2.run.saga.steps.any uncompensated = true := by
  constructor
  · intro answered
    have refused : refusal (executeRecoverable reserveNotifyJson
        (notifyFails (String.ofList (List.replicate 2049 'x')))
        createdSession).1 = some ⟨.invalidArgument, "saga receipt field is too large"⟩ := by
      decide +kernel
    have lease := answered _ refused
    simp [unleased] at lease
  · decide +kernel

end YuFeng.Saga

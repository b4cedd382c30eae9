import YuFeng.Brain.Commands
import YuFeng.Host.Rollback

/-!
# Receipts between host and brain

The host executes a command each time the brain hands it out, and reports to
the brain over a network that loses requests and answers.  A command is handed
out only while no receipt of it is stored.  The phases the two sides keep can
differ when an execution ends early, but then no further execution starts, so
that every receipt meets the phase it expects.
-/

namespace YuFeng.Host

open YuFeng.Library
open YuFeng.Commands

variable {row : CommandRow} {w : HostWorld} {phase : StepPhase} {step : CommandStep}
  {row' : CommandRow}

/-! ## The system -/

structure SentReceipt where
  index : Nat
  phase : Option StepPhase
  stored : Option StepPhase
  held : Bool
  deriving DecidableEq

structure Brain where
  row : CommandRow
  sent : List SentReceipt

inductive Fate where
  | lost (err : Failure)
  | unanswered (err : Failure)
  | answered
  deriving DecidableEq

/--
One turn of the host loop: when and under which lease the brain hands the
command out, how its execution goes, and for each receipt the time at which it
is sent and its fate on the network.
-/
structure Turn where
  now : Nat
  leaseId : String
  env : Environment
  sentAt : StepReceipt → Nat
  fate : StepReceipt → Fate

structure Link where
  codec : Codec
  jsonValid : String → Bool
  unitId : String

section System

variable (link : Link)

def request (cmd : Command) (epoch : Nat) (receipt : StepReceipt) : ReportStepRequest where
  commandId := cmd.commandId
  unitId := link.unitId
  leaseId := cmd.leaseId
  leaseEpoch := epoch
  receipts := [receipt]

def reporter (cmd : Command) (epoch : Nat) (turn : Turn) : Reporter Brain :=
  fun receipt b =>
    let now := turn.sentAt receipt
    let req := request link cmd epoch receipt
    let logged : Brain := { b with
      sent := b.sent ++ [{
        index := receipt.stepIndex
        phase := receipt.phase
        stored := b.row.receipts receipt.stepIndex
        held := leaseHeld link.unitId now b.row req }] }
    match turn.fate receipt, reportStep link.jsonValid link.unitId now b.row req with
    | .lost err, _ => (some err, logged)
    | .unanswered err, .error _ => (some err, logged)
    | .unanswered err, .ok row => (some err, { logged with row := row })
    | .answered, .error err => (some ⟨err.message, none⟩, logged)
    | .answered, .ok row => (none, { logged with row := row })

/-- The host's own state and the brain's. -/
abbrev Site := Machine Brain

def takeTurn (cmd : Command) (site : Site) (turn : Turn) : Site :=
  match leaseCommands turn.now turn.leaseId site.reporter.row with
  | none => site
  | some row =>
    let leased := { cmd with leaseId := turn.leaseId }
    (execute link.codec leased turn.env (reporter link leased row.leaseEpoch turn)
      { site with reporter := { site.reporter with row := row } }).2

end System

/-- The receipt repeats the stored phase or moves it by an allowed step. -/
def Acceptable (stored : Option StepPhase) (phase : StepPhase) : Prop :=
  stored = some phase ∨ validCommandStepTransition stored phase = true

def SentReceipt.Good (s : SentReceipt) : Prop :=
  s.held = true → ∃ phase, s.phase = some phase ∧ Acceptable s.stored phase

/-! ## What the brain stores -/

def Stored (row : CommandRow) : Prop :=
  row.status = .pending ∨ row.status = .leased → ∀ i, row.receipts i = none

theorem leaseCommands_some {now leaseId} (h : leaseCommands now leaseId row = some row') :
    (row.status = .pending ∨ row.status = .leased) ∧ row'.receipts = row.receipts := by
  unfold leaseCommands at h
  split at h
  next due =>
    cases h
    exact ⟨due.imp_right And.left, rfl⟩
  · contradiction

theorem reportStep_ok {jsonValid : String → Bool} {unitId now req receipt}
    (one : req.receipts = [receipt]) (h : reportStep jsonValid unitId now row req = .ok row') :
    Stored row' ∧ ∃ phase, receipt.phase = some phase ∧ row'.receipts = fun i =>
        if i = receipt.stepIndex then some phase else row.receipts i := by
  obtain ⟨-, -, stored, result, rfl⟩ := reportStep_stored h
  refine ⟨fun waiting => ?_, ?_⟩
  · have moved := (reportStep_reported h).moved
    rcases waiting with pending | leased
    · exact absurd pending moved.1
    · exact absurd leased moved.2
  rw [one, storeReceipts] at result
  split at result
  · cases result
  split at result
  · cases result
  rename_i phase named
  refine ⟨phase, named, ?_⟩
  split at result
  next repeated =>
    simp only [storeReceipts, Except.ok.injEq] at result
    subst result
    funext i
    split
    next same => rw [same, repeated]
    · rfl
  split at result
  · simp only [storeReceipts, Except.ok.injEq] at result
    subst result
    rfl
  · cases result

/-! ## Single receipts -/

section Walk

variable {link : Link} {cmd : Command} {epoch : Nat} {turn : Turn}
  {env : Environment} {m m' : Site} {index : Nat} {answer : Option Failure} {entry : JournalStep}
  {result : Option Ending × Site} {cause err : Failure} {codec : Codec}
  {compensation : Option FileCompensation}

def storedPhase (m : Site) (index : Nat) : Option StepPhase := m.reporter.row.receipts index

def Untouched (entry : JournalStep) : Prop :=
  (entry.phase = none ∨ entry.phase = some .intentRecorded) ∧ entry.compensation = none

def Started (m : Site) : Prop := ∃ i, storedPhase m i ≠ none

/-- What every execution keeps: good receipts, and a journal that goes beyond
an intent only if the brain has stored a receipt. -/
structure Kept (m : Site) : Prop where
  good : ∀ s ∈ m.reporter.sent, s.Good
  stored : Stored m.reporter.row
  linked : (∀ i, storedPhase m i = none) → ∀ i, Untouched (m.world.journal i)

structure Reported (index : Nat) (m m' : Site) : Prop where
  kept : Kept m'
  others : ∀ i, i ≠ index → storedPhase m' i = storedPhase m i

theorem reporter_cases {receipt b b'} (h : reporter link cmd epoch turn receipt b = (answer, b')) :
    (∃ held, b'.sent = b.sent ++ [⟨receipt.stepIndex, receipt.phase,
        b.row.receipts receipt.stepIndex, held⟩]) ∧
      (b'.row = b.row ∧ answer ≠ none ∨ Stored b'.row ∧ ∃ phase, receipt.phase = some phase ∧
          b'.row.receipts = fun i => if i = receipt.stepIndex then some phase
            else b.row.receipts i) := by
  unfold reporter at h
  dsimp only at h
  split at h
  · cases h
    exact ⟨⟨_, rfl⟩, .inl ⟨rfl, by simp⟩⟩
  · cases h
    exact ⟨⟨_, rfl⟩, .inl ⟨rfl, by simp⟩⟩
  next row accepted =>
    cases h
    exact ⟨⟨_, rfl⟩, .inr (reportStep_ok rfl accepted)⟩
  · cases h
    exact ⟨⟨_, rfl⟩, .inl ⟨rfl, by simp⟩⟩
  next row accepted =>
    cases h
    exact ⟨⟨_, rfl⟩, .inr (reportStep_ok rfl accepted)⟩

theorem send_reported (sent : send (reporter link cmd epoch turn) index m = (answer, m'))
    (kept : Kept m) (named : (m.world.journal index).phase = some phase)
    (acceptable : Acceptable (storedPhase m index) phase) :
    Reported index m m' ∧ (answer = none → storedPhase m' index = some phase) := by
  unfold send at sent
  generalize asked : reporter link cmd epoch turn _ _ = result at sent
  obtain ⟨other, b⟩ := result
  cases sent
  obtain ⟨⟨held, logged⟩, answered⟩ := reporter_cases asked
  have good : ∀ s ∈ b.sent, s.Good := by
    intro s member
    simp only [logged, List.mem_append, List.mem_singleton] at member
    rcases member with old | rfl
    · exact kept.good s old
    · intro _
      exact ⟨phase, named, acceptable⟩
  rcases answered with ⟨same, failing⟩ | ⟨stored, other, names, receipts⟩
  · have unchanged : ∀ i, b.row.receipts i = storedPhase m i := by
      intro i
      rw [same]
      rfl
    refine ⟨⟨⟨good, ?_, ?_⟩, fun i _ => unchanged i⟩, ?_⟩
    · simp only [same]
      exact kept.stored
    · intro none
      exact kept.linked fun i => by rw [← unchanged i]; exact none i
    · intro answered
      exact absurd answered failing
  · obtain rfl : other = phase := by
      simpa [makeReceipt, named] using names.symm
    have here : b.row.receipts index = some other := by
      simp [receipts, makeReceipt]
    refine ⟨⟨⟨good, stored, ?_⟩, ?_⟩, fun _ => here⟩
    · intro none
      have missing := none index
      simp [storedPhase, here] at missing
    · intro i different
      simp [storedPhase, receipts, makeReceipt, different]

theorem Kept.setStep (kept : Kept m) (linked : Untouched entry ∨ Started m) :
    Kept { m with world := m.world.setStep index entry } := by
  refine ⟨kept.good, kept.stored, ?_⟩
  intro none i
  rcases linked with plain | ⟨j, stored⟩
  · by_cases same : i = index
    · subst same
      simpa [HostWorld.setStep] using plain
    · simpa [HostWorld.setStep, same] using kept.linked none i
  · exact absurd (none j) stored

theorem Kept.world (kept : Kept m) (journal : w.journal = m.world.journal) :
    Kept { m with world := w } := by
  refine ⟨kept.good, kept.stored, ?_⟩
  intro none i
  rw [journal]
  exact kept.linked none i

theorem save_kept {answer} (saved : save env index phase entry m = (answer, m')) (kept : Kept m)
    (linked : Untouched { entry with phase := some phase } ∨ Started m) :
    Kept m' ∧ ∀ i, storedPhase m' i = storedPhase m i := by
  unfold save at saved
  split at saved
  · cases saved
    exact ⟨kept, fun _ => rfl⟩
  · dsimp only at saved
    split at saved <;> cases saved <;>
      exact ⟨kept.setStep linked, fun _ => rfl⟩

structure Advanced (index : Nat) (phase : StepPhase) (entry : JournalStep)
    (m : Site) (result : Option Ending × Site) : Prop where
  kept : Kept result.2
  others : ∀ i, i ≠ index → storedPhase result.2 i = storedPhase m i
  world : result.1 = none → result.2.world =
    m.world.setStep index { entry with phase := some phase }
  here : result.1 = none → storedPhase result.2 index = some phase

theorem advance_kept (h : advance env (reporter link cmd epoch turn) index phase entry m = result)
    (kept : Kept m) (acceptable : Acceptable (storedPhase m index) phase)
    (linked : Untouched { entry with phase := some phase } ∨ Started m) :
    Advanced index phase entry m result := by
  subst h
  unfold advance
  split
  next saved =>
    obtain ⟨kept', same⟩ := save_kept saved kept linked
    exact ⟨kept', fun i _ => same i, by simp, by simp⟩
  next m' saved =>
    obtain ⟨kept', same⟩ := save_kept saved kept linked
    have journal := ((save_world saved).resolve_left (by simp)).1
    generalize sent : send _ index m' = result
    have named : (m'.world.journal index).phase = some phase := by
      simp [journal]
    obtain ⟨reported, answered⟩ := send_reported sent kept' named (by rwa [same])
    have others : ∀ i, i ≠ index → storedPhase result.2 i = storedPhase m i := by
      intro i different
      rw [reported.others i different, same]
    obtain ⟨_ | err, m''⟩ := result
    · refine ⟨reported.kept, others, fun _ => ?_, fun _ => answered rfl⟩
      rw [← journal]
      exact send_world sent
    · exact ⟨reported.kept, others, by simp, by simp⟩

/-! ## Compensation -/

def Ready (m : Site) (index : Nat) : Prop :=
  (m.world.journal index).compensation ≠ none → storedPhase m index = some .succeeded ∨
      storedPhase m index = some .failed

theorem rollBack_kept {c answer}
    (rolled : rollBack link.codec cmd env (reporter link cmd epoch turn) index
      c m = (answer, m')) (kept : Kept m)
    (stored : storedPhase m index = some .succeeded ∨ storedPhase m index = some .failed) :
    Kept m' ∧ (answer = none → ∀ i, i ≠ index → m'.world.journal i = m.world.journal i ∧
        storedPhase m' i = storedPhase m i) := by
  have started : Started m := by
    rcases stored with h | h <;> exact ⟨index, by simp [h]⟩
  unfold rollBack at rolled
  generalize advanced : advance env _ index _ _ m = result at rolled
  have first := advance_kept advanced kept
    (by rcases stored with h | h <;> rw [h] <;> exact .inr rfl) (.inr started)
  obtain ⟨_ | ending, opened⟩ := result
  rotate_left
  · cases rolled
    exact ⟨first.kept, by simp⟩
  have here : storedPhase opened index = _ := first.here rfl
  have world : opened.world = _ := first.world rfl
  dsimp only at rolled
  generalize restoring : restoreFile _ _ index c opened.world = restored at rolled
  obtain ⟨executed, w⟩ := restored
  have journal := restoreFile_journal restoring
  have moved : Kept { opened with world := w } := first.kept.world journal
  -- the file is put back under the phase `compensationStarted`
  have second : ∀ (phase : StepPhase) (entry : JournalStep) (result : Option Ending × Site),
      validCommandStepTransition (some .compensationStarted) phase = true →
      advance env (reporter link cmd epoch turn) index phase entry
        { opened with world := w } = result →
      Advanced index phase entry { opened with world := w } result := by
    intro phase entry result allowed advanced
    refine advance_kept advanced moved (.inr ?_) (.inr ⟨index, ?_⟩)
    · exact here.symm ▸ allowed
    · exact fun missing => by simp [storedPhase] at here missing; simp_all
  cases executed with
  | crashed =>
    cases rolled
    exact ⟨moved, by simp⟩
  | failed =>
    dsimp only at rolled
    split at rolled <;> rename_i marked <;> cases rolled <;>
      exact ⟨(second _ _ _ rfl marked).kept, by simp⟩
  | done =>
    have compensated := second _ _ _ rfl rolled
    refine ⟨compensated.kept, fun done i different => ?_⟩
    rw [compensated.world done, compensated.others i different]
    refine ⟨?_, first.others i different⟩
    rw [setStep_of_ne different, journal, world, setStep_of_ne different]

theorem compensate_kept {failedIndex count} (kept : Kept m) (ready : ∀ i < count, Ready m i) :
    Kept (compensate link.codec cmd env (reporter link cmd epoch turn) failedIndex count m).2 := by
  induction count generalizing m with
  | zero => exact kept
  | succ index ih =>
    have below : ∀ i < index, Ready m i := fun i less => ready i (by omega)
    unfold compensate
    dsimp only
    split
    · exact ih kept below
    rename_i c recorded
    split
    · have here := ready index (by omega)
      split <;> rename_i rolled <;> obtain ⟨after, same⟩ :=
        rollBack_kept rolled kept (here (by simp [recorded]))
      · exact after
      · refine ih after fun i less => ?_
        obtain ⟨journal, stored⟩ := same rfl i (by omega)
        unfold Ready
        rw [journal, stored]
        exact below i less
    · exact ih kept below

/-! ## Failing a step -/

structure FailureSettled (index : Nat) (entry : JournalStep) (m : Site)
    (result : Except Ending (Option Failure) × Site) : Prop where
  kept : Kept result.2
  others : ∀ i, i ≠ index → storedPhase result.2 i = storedPhase m i
  answered : result.1 = .ok none → storedPhase result.2 index = some .failed
  journal : ∀ answer, result.1 = .ok answer →
    (∀ i, i ≠ index → result.2.world.journal i = m.world.journal i) ∧
      (result.2.world.journal index).compensation = entry.compensation

theorem settleFailure_kept {result}
    (h : settleFailure link.codec env (reporter link cmd epoch turn) index entry cause m = result)
    (kept : Kept m) (acceptable : Acceptable (storedPhase m index) .failed) (started : Started m) :
    FailureSettled index entry m result := by
  subst h
  unfold settleFailure
  split <;> rename_i m' saved <;>
    obtain ⟨kept', same⟩ := save_kept saved kept (.inr started)
  · exact ⟨kept', fun i _ => same i, by simp, by simp⟩
  have journal := ((save_world saved).resolve_left (by simp)).1
  have named : (m'.world.journal index).phase = some .failed := by
    simp [journal]
  obtain ⟨reported, answered⟩ := send_reported
    (rfl : send (reporter link cmd epoch turn) index m' = (_, _)) kept' named
    (by rwa [same])
  refine ⟨reported.kept, ?_, ?_, fun _ _ => ⟨?_, ?_⟩⟩
  · intro i different
    rw [← same i]
    exact reported.others i different
  · intro none
    exact answered (by simpa [send] using none)
  · intro i different
    simp only [send, journal]
    exact setStep_of_ne different
  · simp [send, journal]

/-- The reverse loop starts below a failure the brain has stored.  Only a
failure with a context error goes on without the brain's answer, and the steps
that can fail so have nothing to put back. -/
theorem settleAndCompensate_kept
    (kept : Kept m) (acceptable : Acceptable (storedPhase m index) .failed)
    (started : Started m)
    (below : ∀ i < index, storedPhase m i = some .succeeded)
    (plain : entry.compensation = none ∨ cause.context = none) :
    Kept (settleAndCompensate link.codec cmd env
      (reporter link cmd epoch turn) index entry cause m).2 := by
  unfold settleAndCompensate
  generalize failing : settleFailure _ _ _ _ _ _ _ = result
  have settled := settleFailure_kept failing kept acceptable started
  obtain ⟨ending | answer, m'⟩ := result
  · exact settled.kept
  dsimp only
  split
  · exact settled.kept
  rename_i unfiltered
  obtain ⟨journal, compensation⟩ := settled.journal answer rfl
  have ready : ∀ i < index + 1, Ready m' i := by
    intro i less recorded
    rcases Nat.lt_or_eq_of_le (Nat.le_of_lt_succ less) with before | rfl
    · left
      rw [← below i before]
      exact settled.others i (by omega)
    · right
      apply settled.answered
      rcases plain with nothing | free
      · exact absurd (compensation.trans nothing) recorded
      · cases answer with
        | none => rfl
        | some => simp [Option.filter, isCause, free] at unfiltered
  have after := @compensate_kept link cmd epoch turn env m' index (index + 1) settled.kept ready
  split <;> rename_i rolled <;> rw [rolled] at after <;> exact after

/-! ## Going through the steps -/

/-- Both sides agree on the steps below `index`, and the rest is open. -/
structure Level (m : Site) (index : Nat) : Prop where
  kept : Kept m
  below : ∀ i < index, storedPhase m i = some .succeeded
  above : ∀ i, index ≤ i → storedPhase m i = none ∧ Untouched (m.world.journal i)

structure Around (m : Site) (index : Nat) : Prop where
  below : ∀ i < index, storedPhase m i = some .succeeded
  above : ∀ i, index < i → storedPhase m i = none ∧ Untouched (m.world.journal i)

/-- The step at `index` is under way, and the brain has its phase. -/
structure Under (m : Site) (index : Nat) (phase : StepPhase) : Prop extends Around m index where
  kept : Kept m
  here : storedPhase m index = some phase

theorem Around.moved (around : Around m index)
    (others : ∀ i, i ≠ index → storedPhase m' i = storedPhase m i)
    (journal : ∀ i, i ≠ index → m'.world.journal i = m.world.journal i) : Around m' index := by
  refine ⟨fun i less => ?_, fun i more => ?_⟩
  · rw [others i (by omega)]
    exact around.below i less
  · rw [others i (by omega), journal i (by omega)]
    exact around.above i more

theorem Under.started (under : Under m index phase) : Started m := ⟨index, by simp [under.here]⟩

theorem Under.level (under : Under m index .succeeded) : Level m (index + 1) := by
  refine ⟨under.kept, fun i less => ?_, fun i above => ?_⟩
  · rcases Nat.lt_or_eq_of_le (Nat.le_of_lt_succ less) with before | rfl
    · exact under.below i before
    · exact under.here
  · exact under.above i (by omega)

theorem Under.world (under : Under m index phase) (journal : w.journal = m.world.journal) :
    Under { m with world := w } index phase :=
  ⟨under.moved (fun _ _ => rfl) (fun _ _ => by rw [journal]), under.kept.world journal, under.here⟩

theorem Advanced.under (advanced : Advanced index phase entry m result) (h : result.1 = none)
    (around : Around m index) : Under result.2 index phase := by
  refine ⟨around.moved advanced.others fun i different => ?_, advanced.kept, advanced.here h⟩
  rw [advanced.world h, setStep_of_ne different]

theorem Under.advance {next} (under : Under m index phase)
    (h : Host.advance env (reporter link cmd epoch turn) index next entry m = result)
    (allowed : validCommandStepTransition (some phase) next = true) :
    Advanced index next entry m result :=
  advance_kept h under.kept (.inr (by rw [under.here]; exact allowed)) (.inr under.started)

theorem prepare_plain {w'} (h : prepare codec cmd env index step w = (.ok compensation, w'))
    (other : step.primitive ≠ .fileAtomicReplace) : compensation = none := by
  unfold prepare at h
  split at h
  · simp at h
  split at h
  next replaces => exact absurd replaces other
  · simp only [Prod.mk.injEq, Except.ok.injEq] at h
    exact h.1.symm

theorem withoutContext_failed {result} (h : (withoutContext result).1 = .failed err) :
    err.context = none := by
  unfold withoutContext at h
  split at h
  · cases h
    rfl
  next free => exact (free err result.2 (Prod.ext h rfl)).elim

theorem executePrepared_failed (replaces : step.primitive = .fileAtomicReplace)
    (h : (executePrepared codec env index step compensation w).1 =
      .failed err) : err.context = none := by
  simp only [executePrepared, replaces] at h
  split at h
  · cases h
    rfl
  · cases h
    rfl
  · exact withoutContext_failed h

def StepEnds (index : Nat) : Except (Ending × Site) Site → Prop
  | .error result => Kept result.2
  | .ok m => Level m (index + 1)

theorem startStep_ends (under : Under m index .intentRecorded)
    (plain : (m.world.journal index).compensation = none) :
    StepEnds index (startStep link.codec cmd env (reporter link cmd epoch turn) index step m) := by
  have refuses : ∀ (cause : Failure) (w : HostWorld), w.journal = m.world.journal →
      Kept (settleAndCompensate link.codec cmd env
        (reporter link cmd epoch turn) index (m.world.journal index) cause
        { m with world := w }).2 := by
    intro cause w journal
    have moved := under.world journal
    exact settleAndCompensate_kept moved.kept
      (.inr (by rw [moved.here]; rfl)) moved.started moved.below (.inl plain)
  unfold startStep
  dsimp only
  split
  · exact refuses _ m.world rfl
  split
  next err w failed => exact refuses err w (by rw [prepare_error failed])
  rename_i compensation w prepared
  have moved := under.world (prepare_ok prepared).journal
  split
  · exact refuses _ w (prepare_ok prepared).journal
  split <;> rename_i started result <;>
    have effect := moved.advance result rfl
  · exact effect.kept
  have opened : Under started index _ := effect.under rfl moved.toAround
  have world : started.world = _ := effect.world rfl
  -- the effect of the step leaves the journal alone
  have confined := @executePrepared_confined link.codec env started.world index
    step compensation (prepare_ok prepared).target
  split <;> rename_i acted <;> rw [acted] at confined
  · exact opened.kept.world confined.journal
  next err w' =>
    have acting := opened.world confined.journal
    refine settleAndCompensate_kept acting.kept
      (.inr (by rw [acting.here]; rfl)) acting.started acting.below ?_
    by_cases replaces : step.primitive = .fileAtomicReplace
    · exact .inr (executePrepared_failed replaces (by rw [acted]))
    · left
      rw [world]
      simp [prepare_plain prepared replaces]
  next output w' =>
    have acting := opened.world confined.journal
    split <;> rename_i answer <;>
      have succeeded := acting.advance answer rfl
    · exact succeeded.kept
    · exact (succeeded.under rfl acting.toAround).level

theorem openStep_ends {step} (level : Level m index) :
    StepEnds index (openStep link.codec cmd env (reporter link cmd epoch turn) index step m) := by
  obtain ⟨unstored, untouched⟩ := level.above index (Nat.le_refl index)
  have first : Acceptable (storedPhase m index) .intentRecorded := .inr (by rw [unstored]; rfl)
  have around : Around m index := ⟨level.below, fun i more => level.above i (by omega)⟩
  unfold openStep
  split
  · split <;> rename_i answer <;> have intent :=
      advance_kept answer level.kept first (.inl ⟨.inr rfl, rfl⟩)
    · exact intent.kept
    · refine startStep_ends (intent.under rfl around) ?_
      rw [intent.world rfl]
      simp
  next phase recorded =>
    obtain rfl : phase = .intentRecorded := by
      rcases untouched.1 with none | some
      · simp [none] at recorded
      · simpa [some] using recorded.symm
    split <;> rename_i sent <;> obtain ⟨reported, answered⟩ :=
      send_reported sent level.kept recorded first
    · exact reported.kept
    · have world := send_world sent
      refine startStep_ends ⟨around.moved reported.others fun _ _ => ?_, reported.kept,
        answered rfl⟩ ?_ <;> rw [world]
      exact untouched.2

theorem executeSteps_kept {steps} (level : Level m index) :
    Kept (executeSteps link.codec cmd env (reporter link cmd epoch turn) index steps m).2 := by
  induction steps generalizing m index with
  | nil => exact level.kept
  | cons step _ ih =>
    have ends := @openStep_ends link cmd epoch turn env m index step level
    obtain ⟨-, untouched, -⟩ := level.above index (Nat.le_refl index)
    unfold executeSteps
    rcases untouched with here | here <;> simp only [here] <;> split <;>
      rename_i result <;> rw [result] at ends
    · exact ends
    · exact ih ends
    · exact ends
    · exact ih ends

theorem failWithoutEffect_kept {message} (level : Level m 0) :
    Kept (failWithoutEffect link.codec env (reporter link cmd epoch turn)
      index step message m).2 := by
  unfold failWithoutEffect
  dsimp only
  split <;> rename_i opened answer <;> have intent := advance_kept answer
    level.kept (.inr (by rw [(level.above index (Nat.zero_le _)).1]; rfl))
    (.inl ⟨.inr rfl, rfl⟩)
  · exact intent.kept
  have here : storedPhase opened index = _ := intent.here rfl
  split <;> rename_i settled <;> exact (settleFailure_kept settled
    intent.kept (.inr (by rw [here]; rfl)) ⟨index, by simp [here]⟩).kept

theorem execute_kept (level : Level m 0) :
    Kept (execute link.codec cmd env (reporter link cmd epoch turn) m).2 := by
  unfold execute
  split
  · exact level.kept
  split
  · exact level.kept
  split
  · exact failWithoutEffect_kept level
  · exact executeSteps_kept level

/-! ## Runs -/

theorem Kept.leased (kept : Kept m) (unstored : ∀ i, storedPhase m i = none)
    (same : row.receipts = m.reporter.row.receipts) :
    Level { m with reporter := { m.reporter with row := row } } 0 := by
  have none : ∀ i, row.receipts i = none := by
    intro i
    rw [same]
    exact unstored i
  refine ⟨⟨kept.good, fun _ => none, fun _ => kept.linked unstored⟩,
    fun i less => absurd less (by omega), fun i _ => ?_⟩
  exact ⟨none i, kept.linked unstored i⟩

theorem takeTurn_kept (kept : Kept m) : Kept (takeTurn link cmd m turn) := by
  unfold takeTurn
  cases leased : leaseCommands turn.now turn.leaseId m.reporter.row with
  | none => exact kept
  | some =>
    obtain ⟨due, same⟩ := leaseCommands_some leased
    exact execute_kept (kept.leased (kept.stored due) same)

end Walk

structure Unseen (site : Site) : Prop where
  journal : ∀ i, site.world.journal i = {}
  receipts : ∀ i, site.reporter.row.receipts i = none
  sent : site.reporter.sent = []

theorem Unseen.kept {site} (unseen : Unseen site) : Kept site := by
  refine ⟨?_, fun _ => unseen.receipts, fun _ i => ?_⟩
  · simp [unseen.sent]
  · rw [unseen.journal i]
    exact ⟨.inl rfl, rfl⟩

theorem receipts_acceptable (link : Link) (cmd : Command) (site : Site)
    (unseen : Unseen site) (turns : List Turn) :
    ∀ s ∈ (run (takeTurn link cmd) site turns).reporter.sent, s.held = true →
      ∃ phase, s.phase = some phase ∧ (s.stored = some phase ∨
        validCommandStepTransition s.stored phase = true) :=
  (List.foldlRecOn turns _ unseen.kept fun _ kept _ _ => takeTurn_kept kept).good

def siteLink : Link where
  codec := siteCodec
  jsonValid _ := true
  unitId := "unit-1"

def siteOrigin : Site where
  world := siteHost
  reporter := {
    row := {
      commandId := "cmd-1"
      unitId := "unit-1"
      status := .pending
      leaseId := ""
      leaseEpoch := 0
      leaseDeadline := none
      stepCount := 3
      receipts := fun _ => none }
    sent := [] }

/-- The first receipt is lost, and the command handed out again later. -/
def siteTurns : List Turn :=
  [{ now := 0, leaseId := "lease-1", env := (failingReload fun _ => none).env,
     sentAt := fun _ => 1, fate := fun _ => .lost ⟨"unavailable", none⟩ },
   { now := 601, leaseId := "lease-2",
     env := (failingReload fun _ => none).env,
     sentAt := fun _ => 602, fate := fun _ => .answered }]

theorem receipts_acceptable_resent :
    (run (takeTurn siteLink siteCommand) siteOrigin siteTurns).reporter.sent.map SentReceipt.phase =
      [some .intentRecorded, some .intentRecorded, some .effectStarted,
        some .succeeded, some .intentRecorded, some .effectStarted,
        some .succeeded, some .intentRecorded, some .effectStarted,
        some .failed, some .compensationStarted, some .compensated] ∧
      ∀ s ∈ (run (takeTurn siteLink siteCommand) siteOrigin
          siteTurns).reporter.sent, s.held = true →
        ∃ phase, s.phase = some phase ∧ (s.stored = some phase ∨
          validCommandStepTransition s.stored phase = true) :=
  ⟨by decide +kernel, receipts_acceptable siteLink siteCommand siteOrigin
    ⟨fun _ => rfl, fun _ => rfl, rfl⟩ siteTurns⟩

end YuFeng.Host

import Mathlib.Data.Nat.Find
import YuFeng.Host.Executor
import YuFeng.Library.Run

/-!
# Rollback of replaced files

A command that fails puts back the files its steps have replaced.  `rewind`
undoes the recorded steps from the last one down; while a command runs, undoing
everything leads back to the files it found.  The reverse loop of the executor
does just that, so what matters is where it can be cut short.
-/

namespace YuFeng.Host

open YuFeng.Library

variable {ρ : Type} {codec : Codec} {cmd : Command} {env : Environment}
  {report : Reporter ρ} {m : Machine ρ} {w : HostWorld}

variable {m' : Machine ρ} {w' after : HostWorld} {count index failedIndex : Nat}
  {entry : JournalStep} {c : FileCompensation} {original : Contents}
  {step : CommandStep} {compensation : Option FileCompensation}

/-! ## Undoing recorded steps -/

abbrev Contents := String → Option String

def contents (w : HostWorld) : Contents := fun path => (w.files path).map File.content

def undo (codec : Codec) (backup : Option String) (entry : JournalStep)
    (found : Contents) : Contents :=
  match entry.compensation with
  | none => found
  | some c => fun path =>
    if path = codec.place c.target then
      if c.existed then backup else none
    else found path

def rewind (codec : Codec) (w : HostWorld) : Nat → Contents → Contents
  | 0, found => found
  | index + 1, found =>
    rewind codec w index (undo codec (w.backups index) (w.journal index) found)

theorem rewind_congr (found) (journal : ∀ i < count, w'.journal i = w.journal i)
    (backups : ∀ i < count, w'.backups i = w.backups i) :
    rewind codec w' count found = rewind codec w count found := by
  induction count generalizing found with
  | zero => rfl
  | succ index ih =>
    rw [rewind, rewind, journal index (by omega), backups index (by omega)]
    exact ih _ (fun i below => journal i (by omega)) (fun i below => backups i (by omega))

variable {backup : Option String}

theorem undo_of_none (h : entry.compensation = none) (found) :
    undo codec backup entry found = found := by
  simp [undo, h]

theorem undo_write (h : entry.compensation = some c) (file) :
    undo codec backup entry (contents (w.write (codec.place c.target) file)) =
      undo codec backup entry (contents w) := by
  funext path
  simp only [undo, h]
  split
  · rfl
  next other => simp [contents, HostWorld.write, other]

@[simp] theorem setStep_self (index entry) : (w.setStep index entry).journal index = entry := by
  simp [HostWorld.setStep]

theorem setStep_of_ne {i} (h : i ≠ index) : (w.setStep index entry).journal i = w.journal i := by
  simp [HostWorld.setStep, h]

@[simp] theorem contents_setStep (index entry) :
    contents (w.setStep index entry) = contents w := rfl

theorem rewind_setStep (below : count ≤ index) (found) :
    rewind codec (w.setStep index entry) count found = rewind codec w count found := by
  refine rewind_congr found (fun i less => ?_) (fun _ _ => rfl)
  exact setStep_of_ne (by omega)

/-! ## Where an execution stands -/

def SucceededBefore (w : HostWorld) (index : Nat) : Prop :=
  ∀ i < index, (w.journal i).phase = some .succeeded

/-- Steps are open from `index` on, and undoing the others leads back. -/
structure Running (codec : Codec) (original : Contents) (index : Nat)
    (w : HostWorld) : Prop where
  before : SucceededBefore w index
  here : (w.journal index).phase = none ∨ (w.journal index).phase = some .intentRecorded ∨
    (w.journal index).phase = some .effectStarted
  plain : (w.journal index).phase ≠ some .effectStarted → (w.journal index).compensation = none
  after : ∀ i, index < i → w.journal i = {}
  kept : rewind codec w (index + 1) (contents w) = original

structure HaltedAt (w : HostWorld) (index : Nat) (phase : StepPhase) :
    Prop where
  before : SucceededBefore w index
  here : (w.journal index).phase = some phase

inductive Rest (codec : Codec) (original : Contents) (count : Nat)
    (w : HostWorld) : Prop
  | running (index : Nat) (h : Running codec original index w)
  | rolledBack (index : Nat) (phase : StepPhase) (h : HaltedAt w index phase)
      (final : phase = .failed ∨ phase = .compensated)
      (restored : contents w = original)
  | restoring (index : Nat) (within : index < count) (h : HaltedAt w index .compensationStarted)
  | unknown (index : Nat) (h : HaltedAt w index .outcomeUnknown)

/-! ## Saving and reporting -/

variable {answer : Option Ending}

theorem save_world {phase} (h : save env index phase entry m = (answer, m')) :
    m'.world = m.world ∧ answer.isSome = true ∧ env.saveErr index phase ≠ none ∨
      m'.world = m.world.setStep index { entry with phase := some phase } ∧
        (answer.isSome = true → env.crash index phase = true) := by
  unfold save at h
  cases failing : env.saveErr index phase with
  | some =>
    rw [failing] at h
    cases h
    exact .inl ⟨rfl, rfl, by simp⟩
  | none =>
    rw [failing] at h
    dsimp only at h
    split at h
    next crashed =>
      cases h
      exact .inr ⟨rfl, fun _ => crashed⟩
    · cases h
      exact .inr ⟨rfl, nofun⟩

theorem send_world {answer} (h : send report index m = (answer, m')) : m'.world = m.world := by
  cases h
  rfl

theorem advance_world {phase} (h : advance env report index phase entry m = (answer, m')) :
    m'.world = m.world ∧ answer.isSome = true ∧ env.saveErr index phase ≠ none ∨
      m'.world = m.world.setStep index { entry with phase := some phase } := by
  unfold advance at h
  split at h
  next saved =>
    cases h
    exact (save_world saved).imp_right And.left
  next saved =>
    have stored := (save_world saved).resolve_left (by simp)
    split at h <;> rename_i sent <;> cases h <;>
      exact .inr ((send_world sent).trans stored.1)

theorem advance_keeps {phase} {P : HostWorld → Prop}
    (h : advance env report index phase entry m = (answer, m')) (before : P m.world)
    (stored : P (m.world.setStep index { entry with phase := some phase })) : P m'.world := by
  rcases advance_world h with ⟨same, -⟩ | saved
  · rwa [same]
  · rwa [saved]

theorem advance_saved {phase} (h : advance env report index phase entry m = (none, m')) :
    m'.world = m.world.setStep index { entry with phase := some phase } :=
  (advance_world h).resolve_left (by simp)

theorem advance_passes {index phase entry} (saved : env.saveErr index phase = none)
    (running : env.crash index phase = false)
    (answered : ∀ receipt s, receipt.phase = some phase → (report receipt s).1 = none) :
    (advance env report index phase entry m).1 = none := by
  unfold advance save
  simp only [saved, running, Bool.false_eq_true, if_false]
  split
  next err m' answer =>
    have asked := answered (makeReceipt index { entry with
      phase := some phase }) m.reporter rfl
    simp [send, asked] at answer
  · rfl

/-! ## The reverse loop -/

structure Uninterrupted (env : Environment) (report : Reporter ρ) :
    Prop where
  saves : ∀ index, env.saveErr index .compensationStarted = none
  failed : ∀ index, env.crash index .failed = false
  compensated : ∀ index, env.crash index .compensated = false
  answers : ∀ receipt s, receipt.phase = some .failed ∨ receipt.phase = some .compensated →
      (report receipt s).1 = none

/-- The steps from `count` on are rolled back, those below are not. -/
structure Rewinding (codec : Codec) (original : Contents) (failedIndex : Nat)
    (count : Nat) (w : HostWorld) : Prop where
  before : SucceededBefore w (min count failedIndex)
  current : failedIndex < count → (w.journal failedIndex).phase = some .failed
  done : ∀ i, count ≤ i → i ≤ failedIndex → (w.journal i).phase = some .succeeded ∨
      (w.journal i).phase = some .failed ∨ (w.journal i).phase = some .compensated
  final : count ≤ failedIndex → (w.journal failedIndex).phase = some .failed ∨
      (w.journal failedIndex).phase = some .compensated
  kept : rewind codec w count (contents w) = original

def Stuck (failedIndex : Nat) (w : HostWorld) : Prop :=
  ∃ index ≤ failedIndex, HaltedAt w index .compensationStarted ∨ HaltedAt w index .outcomeUnknown

def RewindResult (codec : Codec) (original : Contents) (failedIndex : Nat)
    (count : Nat) : Option Ending × Machine ρ → Prop
  | (none, m) => Rewinding codec original failedIndex count m.world
  | (some _, m) => Stuck failedIndex m.world

theorem SucceededBefore.setStep {index entry} (h : SucceededBefore w index) :
    SucceededBefore (w.setStep index entry) index := by
  intro i less
  rw [setStep_of_ne (by omega)]
  exact h i less

theorem HaltedAt.of_setStep {index : Nat} {phase : StepPhase}
    {entry : JournalStep} (h : SucceededBefore w index) :
    HaltedAt (w.setStep index { entry with phase := some phase }) index phase :=
  ⟨h.setStep, by simp⟩

theorem Rewinding.skip (h : Rewinding codec original failedIndex (index + 1) w)
    (within : index ≤ failedIndex)
    (none : (w.journal index).compensation = none) :
    Rewinding codec original failedIndex index w := by
  have here : (w.journal index).phase = some .succeeded ∨
      (w.journal index).phase = some .failed := by
    by_cases last : index = failedIndex
    · subst last
      exact .inr (h.current (by omega))
    · exact .inl (h.before index (by omega))
  refine ⟨fun i less => h.before i (by omega), fun above => by omega, ?_, ?_, ?_⟩
  · intro i least within
    by_cases same : i = index
    · subst same
      tauto
    · exact h.done i (by omega) within
  · intro _
    by_cases last : index = failedIndex
    · subst last
      exact .inl (h.current (by omega))
    · exact h.final (by omega)
  · have kept := h.kept
    rwa [rewind, undo_of_none none] at kept

theorem contents_restored (compensation : entry.compensation = some c)
    (h : restored codec index c w = some after) :
    contents after = undo codec (w.backups index) entry (contents w) ∧
      after.journal = w.journal ∧ after.backups = w.backups := by
  unfold restored at h
  split at h
  next existed =>
    obtain ⟨content, backup, rfl⟩ := Option.map_eq_some_iff.mp h
    refine ⟨?_, rfl, rfl⟩
    funext path
    by_cases same : path = codec.place c.target <;>
      simp [contents, undo, compensation, HostWorld.write, same, existed, backup]
  next missing =>
    cases h
    refine ⟨?_, rfl, rfl⟩
    funext path
    by_cases same : path = codec.place c.target <;>
      simp [contents, undo, compensation, HostWorld.write, same, missing]

theorem act_world (result before after) :
    (act result before after).2 = before ∨ (act result before after).2 = after := by
  unfold act
  split <;> simp

theorem restoreFile_journal {result} (h : restoreFile codec env index c w = (result, w')) :
    w'.journal = w.journal := by
  unfold restoreFile at h
  split at h
  · cases h
    rfl
  next after back =>
    have acted := act_world (env.restore index) w after
    rw [h] at acted
    rcases acted with rfl | rfl
    · rfl
    · exact (@contents_restored codec w w' index { compensation := some c } c rfl back).2.1

theorem restoreFile_done {output} (h : restoreFile codec env index c w = (.done output, after)) :
    restored codec index c w = some after := by
  unfold restoreFile at h
  cases back : restored codec index c w with
  | none => simp [back] at h
  | some =>
    simp only [back] at h
    unfold act at h
    split at h <;> simp_all

theorem HaltedAt.congr {phase} (h : HaltedAt w index phase) (journal : w'.journal = w.journal) :
    HaltedAt w' index phase := by
  refine ⟨fun i less => ?_, ?_⟩
  · rw [journal]
    exact h.before i less
  · rw [journal]
    exact h.here

theorem Rewinding.restored {started} (h : Rewinding codec original failedIndex (index + 1) w)
    (within : index ≤ failedIndex) (compensation : (w.journal index).compensation = some c)
    (kept : started.compensation = some c)
    (back : Host.restored codec index c (w.setStep index started) = some after) :
    Rewinding codec original failedIndex index
      (after.setStep index { entry with phase := some .compensated }) := by
  obtain ⟨found, journal, backups⟩ := contents_restored kept back
  have other : ∀ i, i ≠ index → ((after.setStep index { entry with
      phase := some .compensated }).journal i) = w.journal i := by
    intro i different
    rw [setStep_of_ne different, journal, setStep_of_ne different]
  refine ⟨?_, fun above => by omega, ?_, ?_, ?_⟩
  · intro i less
    rw [other i (by omega)]
    exact h.before i (by omega)
  · intro i least top
    by_cases same : i = index
    · subst same
      simp
    · rw [other i same]
      exact h.done i (by omega) top
  · intro _
    by_cases last : failedIndex = index
    · subst last
      simp
    · rw [other failedIndex last]
      exact h.final (by omega)
  · rw [rewind_setStep (Nat.le_refl index), contents_setStep, found]
    have undone : undo codec ((w.setStep index started).backups index)
        started (contents (w.setStep index started)) =
          undo codec (w.backups index) (w.journal index) (contents w) := by
      simp only [undo, kept, compensation, contents_setStep]
      rfl
    rw [undone, rewind_congr _ (w := w) (fun i less => ?_) (fun i less => by rw [backups]; rfl)]
    · exact h.kept
    · rw [journal, setStep_of_ne (by omega)]

theorem advance_compensated (quiet : Uninterrupted env report) {started s}
    (within : index ≤ failedIndex) (h : Rewinding codec original failedIndex (index + 1) w)
    (compensation : (w.journal index).compensation = some c) (kept : started.compensation = some c)
    (back : Host.restored codec index c (w.setStep index started) = some after)
    (halted : HaltedAt (w.setStep index started) index .compensationStarted) :
    RewindResult codec original failedIndex index
      (advance env report index .compensated entry ⟨after, s⟩) := by
  have journal := (contents_restored kept back).2.1
  cases failing : env.saveErr index .compensated with
  | some =>
    simp only [advance, save, failing]
    exact ⟨index, within, .inl (halted.congr journal)⟩
  | none =>
    have passed := @advance_passes ρ env report ⟨after, s⟩ index
      .compensated entry failing (quiet.compensated index)
      (fun receipt s phase => quiet.answers receipt s (.inr phase))
    generalize advanced : advance env report index .compensated entry
      ⟨after, s⟩ = result at passed ⊢
    obtain ⟨ending, m'⟩ := result
    obtain rfl : ending = none := passed
    simp only [RewindResult]
    rw [advance_saved advanced]
    exact h.restored within compensation kept back

theorem rollBack_rewinds (quiet : Uninterrupted env report)
    {original : Contents} {failedIndex index : Nat} {c : FileCompensation}
    (within : index ≤ failedIndex)
    (h : Rewinding codec original failedIndex (index + 1) m.world)
    (compensation : (m.world.journal index).compensation = some c) :
    RewindResult codec original failedIndex index (rollBack codec cmd env report index c m) := by
  have before : SucceededBefore m.world index := fun i less => h.before i (by omega)
  unfold rollBack
  split
  next ending m₁ result =>
    rcases advance_world result with ⟨-, -, failing⟩ | saved
    · exact absurd (quiet.saves index) failing
    · simp only [RewindResult]
      rw [saved]
      exact ⟨index, within, .inl (.of_setStep before)⟩
  rename_i m₁ result
  have saved := advance_saved result
  have halted : HaltedAt m₁.world index .compensationStarted := by
    rw [saved]
    exact .of_setStep before
  dsimp only
  split
  next w₂ crashed => exact ⟨index, within, .inl (halted.congr (restoreFile_journal crashed))⟩
  next err w₂ failing =>
    have halted := halted.congr (restoreFile_journal failing)
    split <;> rename_i marked <;> exact advance_keeps (P := Stuck failedIndex) marked
      ⟨index, within, .inl halted⟩ ⟨index, within, .inr (.of_setStep halted.before)⟩
  next output w₂ done =>
    have back := restoreFile_done done
    rw [saved] at back halted
    exact advance_compensated quiet within h compensation (by exact compensation) back halted

theorem compensate_rewinds (quiet : Uninterrupted env report) {original failedIndex count}
    (within : count ≤ failedIndex + 1) (h : Rewinding codec original failedIndex count m.world) :
    RewindResult codec original failedIndex 0
      (compensate codec cmd env report failedIndex count m) := by
  induction count generalizing m with
  | zero => exact h
  | succ index ih =>
    have top : index ≤ failedIndex := by omega
    rw [compensate]
    split
    next none => exact ih (by omega) (h.skip top none)
    rename_i c compensation
    have due : index = failedIndex ∧ (m.world.journal index).phase = some .failed ∨
        index < failedIndex ∧ (m.world.journal index).phase = some .succeeded := by
      by_cases last : index = failedIndex
      · subst last
        exact .inl ⟨rfl, h.current (by omega)⟩
      · exact .inr ⟨by omega, h.before index (by omega)⟩
    rw [if_pos due]
    have one := @rollBack_rewinds ρ codec cmd env report m quiet original
      failedIndex index c top h compensation
    split
    next result =>
      rw [result] at one
      exact one
    next result =>
      rw [result] at one
      exact ih (by omega) one

theorem Stuck.rest (h : Stuck failedIndex w) (within : failedIndex < count) :
    Rest codec original count w := by
  obtain ⟨index, top, restoring | unknown⟩ := h
  · exact .restoring index (by omega) restoring
  · exact .unknown index unknown

theorem Rewinding.rest (h : Rewinding codec original failedIndex 0 w) :
    Rest codec original count w := by
  have open' : ∃ i, i ≤ failedIndex ∧ (w.journal i).phase ≠ some .succeeded := by
    refine ⟨failedIndex, le_refl _, ?_⟩
    rcases h.final (Nat.zero_le _) with here | here <;> simp [here]
  obtain ⟨within, unsucceeded⟩ := Nat.find_spec open'
  have before : SucceededBefore w (Nat.find open') := by
    intro i less
    have least := Nat.find_min open' less
    rw [not_and, not_not] at least
    exact least (by omega)
  have restored : contents w = original := h.kept
  rcases h.done _ (Nat.zero_le _) within with here | here | here
  · exact absurd here unsucceeded
  · exact .rolledBack _ .failed ⟨before, here⟩ (.inl rfl) restored
  · exact .rolledBack _ .compensated ⟨before, here⟩ (.inr rfl) restored

/-! ## Failing a step -/

theorem Running.failed {error} (h : Running codec original index w) :
    Rewinding codec original index (index + 1) (w.setStep index { w.journal index with
        phase := some .failed, error := error }) := by
  refine ⟨?_, fun _ => by simp, fun i least top => by omega, fun above => by omega, ?_⟩
  · intro i less
    rw [setStep_of_ne (by omega)]
    exact h.before i (by omega)
  · have kept := h.kept
    rw [rewind] at kept ⊢
    rw [rewind_setStep (Nat.le_refl index), setStep_self, contents_setStep]
    exact kept

theorem settleAndCompensate_rest (quiet : Uninterrupted env report) {original index count cause}
    (within : index < count) (h : Running codec original index m.world) :
    Rest codec original count (settleAndCompensate codec cmd env report index
      (m.world.journal index) cause m).2.world := by
  unfold settleAndCompensate settleFailure
  split
  next ending m₁ result =>
    split at result
    next stop m₂ stopped =>
      obtain ⟨-, rfl⟩ : stop = ending ∧ m₂ = m₁ := by simpa using result
      rcases save_world stopped with ⟨same, -⟩ | ⟨-, crashed⟩
      · rw [same]
        exact .running index h
      · have running := quiet.failed index
        simp [crashed rfl] at running
    · simp at result
  next answer m₁ result =>
    split at result
    · simp at result
    rename_i m₂ passed
    obtain ⟨world, -⟩ := (save_world passed).resolve_left (by simp)
    have answered : (send report index m₂).1 = none := by
      refine quiet.answers _ _ (.inl ?_)
      simp [makeReceipt, world]
    simp only [answered, Prod.mk.injEq, Except.ok.injEq] at result
    obtain ⟨rfl, rfl⟩ := result
    have rewinding : Rewinding codec original index (index + 1) (send report index m₂).2.world := by
      rw [show (send report index m₂).2.world = m₂.world from rfl, world]
      exact h.failed
    have result := @compensate_rewinds ρ codec cmd env report _ quiet original
      index (index + 1) (le_refl _) rewinding
    dsimp only [Option.filter]
    split <;> rename_i outcome <;> rw [outcome] at result
    · exact result.rest within
    · exact result.rest within
    · exact result.rest within
    · exact result.rest

/-! ## Working off a step -/

theorem Running.setStep {original index entry} (h : Running codec original index w)
    (here : entry.phase = some .intentRecorded ∨ entry.phase = some .effectStarted)
    (plain : entry.phase ≠ some .effectStarted → entry.compensation = none)
    (undone : undo codec (w.backups index) entry (contents w) =
      undo codec (w.backups index) (w.journal index) (contents w)) :
    Running codec original index (w.setStep index entry) := by
  refine ⟨h.before.setStep, ?_, ?_, ?_, ?_⟩
  · rw [setStep_self]
    exact .inr here
  · rw [setStep_self]
    exact plain
  · intro i above
    rw [setStep_of_ne (by omega)]
    exact h.after i above
  · have kept := h.kept
    rw [rewind] at kept ⊢
    rw [rewind_setStep (Nat.le_refl index), setStep_self, contents_setStep]
    rw [← kept, ← undone]
    rfl

theorem Running.succeeded (h : Running codec original index w)
    (compensation : entry.compensation = (w.journal index).compensation) :
    Running codec original (index + 1)
      (w.setStep index { entry with phase := some .succeeded }) := by
  have next : (w.setStep index { entry with
      phase := some .succeeded }).journal (index + 1) = {} := by
    rw [setStep_of_ne (by omega)]
    exact h.after (index + 1) (by omega)
  refine ⟨?_, ?_, ?_, ?_, ?_⟩
  · intro i less
    by_cases same : i = index
    · subst same
      simp
    · rw [setStep_of_ne same]
      exact h.before i (by omega)
  · rw [next]
    exact .inl rfl
  · rw [next]
    exact fun _ => rfl
  · intro i above
    rw [setStep_of_ne (by omega)]
    exact h.after i (by omega)
  · have kept := h.kept
    rw [rewind, next, undo_of_none rfl, rewind]
    rw [rewind_setStep (Nat.le_refl index), setStep_self, contents_setStep, ← kept]
    simp only [undo, compensation]
    rfl

structure Prepared (codec : Codec) (index : Nat) (step : CommandStep)
    (compensation : Option FileCompensation) (w w' : HostWorld) : Prop where
  journal : w'.journal = w.journal
  found : contents w' = contents w
  backups : ∀ i, i ≠ index → w'.backups i = w.backups i
  undone : ∀ entry : JournalStep, entry.compensation = compensation →
    undo codec (w'.backups index) entry (contents w') = contents w'
  target : step.primitive = .fileAtomicReplace → ∃ c, compensation = some c ∧
      codec.decodeTarget step.argsJson = .ok c.target

theorem prepare_ok : prepare codec cmd env index step w = (.ok compensation, w') →
    Prepared codec index step compensation w w' := by
  fun_cases prepare codec cmd env index step w
  all_goals
    intro h
    cases h
  next _ replaces target decoded _ missing =>
    refine ⟨rfl, rfl, fun _ _ => rfl, ?_, fun _ => ⟨_, rfl, decoded⟩⟩
    intro entry same
    funext path
    simp only [undo, same]
    split
    next here => simp [contents, here, missing]
    · rfl
  next _ replaces target decoded _ file exists' =>
    refine ⟨rfl, rfl, ?_, ?_, fun _ => ⟨_, rfl, decoded⟩⟩
    · intro i other
      simp [HostWorld.backUp, other]
    · intro entry same
      funext path
      simp only [undo, same]
      split
      next here => simp [contents, HostWorld.backUp, here, exists']
      · rfl
  next other =>
    exact ⟨rfl, rfl, fun _ _ => rfl, fun _ missing => undo_of_none missing _,
      fun same => absurd same other⟩

theorem prepare_error {err} :
    prepare codec cmd env index step w = (.error err, w') → w' = w := by
  fun_cases prepare codec cmd env index step w
  all_goals
    intro h
    cases h
  all_goals rfl

theorem Running.congr (h : Running codec original index w) (journal : w'.journal = w.journal)
    (kept : rewind codec w' (index + 1) (contents w') = original) :
    Running codec original index w' := by
  refine ⟨fun i less => ?_, ?_, ?_, fun i above => ?_, kept⟩ <;> rw [journal]
  · exact h.before i less
  · exact h.here
  · exact h.plain
  · exact h.after i above

theorem Running.prepared (h : Running codec original index w)
    (unstarted : (w.journal index).phase ≠ some .effectStarted)
    (prepared : Prepared codec index step compensation w w') :
    Running codec original index w' := by
  have kept := h.kept
  rw [rewind, undo_of_none (h.plain unstarted)] at kept
  refine h.congr prepared.journal ?_
  rw [rewind, prepared.journal, undo_of_none (h.plain unstarted), prepared.found]
  rw [rewind_congr _ (w := w) (fun i _ => by rw [prepared.journal])
    (fun i less => prepared.backups i (by omega))]
  exact kept

theorem withoutContext_world (result : Executed × HostWorld) :
    (withoutContext result).2 = result.2 := by
  unfold withoutContext
  split <;> rfl

structure Confined (codec : Codec) (compensation : Option FileCompensation)
    (w w' : HostWorld) : Prop where
  journal : w'.journal = w.journal
  backups : w'.backups = w.backups
  undone : ∀ (backup : Option String) (entry : JournalStep), entry.compensation = compensation →
      undo codec backup entry (contents w') = undo codec backup entry (contents w)

theorem Confined.refl (compensation w) : Confined codec compensation w w :=
  ⟨rfl, rfl, fun _ _ _ => rfl⟩

theorem Confined.act (h : Confined codec compensation w after) (result) :
    Confined codec compensation w (Host.act result w after).2 := by
  rcases act_world result w after with same | same <;> rw [same]
  · exact .refl _ _
  · exact h

theorem executePrepared_confined {index step compensation}
    (target : step.primitive = .fileAtomicReplace → ∃ c, compensation = some c ∧
        codec.decodeTarget step.argsJson = .ok c.target) :
    Confined codec compensation w (executePrepared codec env index step compensation w).2 := by
  unfold executePrepared
  split
  · apply Confined.act
    exact ⟨rfl, rfl, fun _ _ _ => rfl⟩
  next replaces =>
    obtain ⟨c, rfl, decoded⟩ := target replaces
    rw [decoded]
    split
    · exact .refl _ _
    · exact .refl _ _
    next other payload same _ =>
      obtain rfl : c.target = other := by simpa using same
      rw [withoutContext_world]
      apply Confined.act
      exact ⟨rfl, rfl, fun backup entry same => undo_write same _⟩
  · exact .act (.refl _ _) _

theorem Running.confined (h : Running codec original index w)
    (entry : (w.journal index).compensation = compensation)
    (confined : Confined codec compensation w w') :
    Running codec original index w' := by
  have kept := h.kept
  refine h.congr confined.journal ?_
  rw [rewind] at kept ⊢
  rw [confined.journal, confined.backups, confined.undone _ _ entry,
    rewind_congr _ (w := w) (fun i _ => by rw [confined.journal])
      (fun i _ => by rw [confined.backups])]
  exact kept

def StepRest (codec : Codec) (original : Contents) (count index : Nat) :
    Except (Ending × Machine ρ) (Machine ρ) → Prop
  | .error result => Rest codec original count result.2.world
  | .ok m => Running codec original (index + 1) m.world

theorem advance_succeeded (h : Running codec original index m.world)
    (compensation : entry.compensation = (m.world.journal index).compensation) :
    StepRest codec original count index (match advance env report index .succeeded entry m with
      | (some ending, m) => .error (ending, m)
      | (none, m) => .ok m) := by
  split
  next result =>
    exact advance_keeps (P := Rest codec original count) result (.running index h)
      (.running (index + 1) (h.succeeded compensation))
  next result =>
    simp only [StepRest]
    rw [advance_saved result]
    exact h.succeeded compensation

theorem startStep_rest (quiet : Uninterrupted env report)
    (within : index < count) (h : Running codec original index m.world)
    (intent : (m.world.journal index).phase = some .intentRecorded) :
    StepRest codec original count index (startStep codec cmd env report index step m) := by
  have unstarted : (m.world.journal index).phase ≠ some .effectStarted := by
    simp [intent]
  unfold startStep
  dsimp only
  split
  · exact settleAndCompensate_rest quiet within h
  split
  next err w₁ failing =>
    obtain rfl := prepare_error failing
    exact settleAndCompensate_rest quiet within h
  rename_i compensation w₁ ready
  have prepared := prepare_ok ready
  have h₁ := h.prepared unstarted prepared
  rw [← prepared.journal]
  split
  · exact @settleAndCompensate_rest ρ codec cmd env report
      { m with world := w₁ } quiet original index count _ within h₁
  have undone : ∀ entry : JournalStep, entry.compensation = compensation →
      undo codec (w₁.backups index) entry (contents w₁) =
        undo codec (w₁.backups index) (w₁.journal index) (contents w₁) := by
    intro entry same
    rw [prepared.undone entry same, prepared.journal, undo_of_none (h.plain unstarted)]
  have started : Running codec original index (w₁.setStep index { w₁.journal index with
        phase := some .effectStarted, compensation := compensation }) :=
    h₁.setStep (.inr rfl) (fun other => absurd rfl other) (undone _ rfl)
  split
  next result =>
    exact .running index (advance_keeps (P := Running codec original index) result h₁ started)
  rename_i m₂ result
  have saved := advance_saved result
  have h₂ : Running codec original index m₂.world := by
    rw [saved]
    exact started
  have entry : (m₂.world.journal index).compensation = compensation := by
    rw [saved, setStep_self]
  have h₃ := h₂.confined entry (@executePrepared_confined codec env m₂.world index step compensation
      prepared.target)
  have journal := (@executePrepared_confined codec env m₂.world index step
    compensation prepared.target).journal
  split
  next w₃ crashed =>
    rw [crashed] at h₃
    exact .running index h₃
  next err w₃ failing =>
    rw [failing] at h₃ journal
    rw [← journal]
    exact @settleAndCompensate_rest ρ codec cmd env report
      { m₂ with world := w₃ } quiet original index count err within h₃
  next output w₃ done =>
    rw [done] at h₃ journal
    exact advance_succeeded h₃ (by rw [journal])

theorem openStep_rest (quiet : Uninterrupted env report) {original count index step}
    (within : index < count) (h : Running codec original index m.world)
    (open' : (m.world.journal index).phase = none ∨
      (m.world.journal index).phase = some .intentRecorded) :
    StepRest codec original count index (openStep codec cmd env report index step m) := by
  unfold openStep
  split
  next fresh =>
    have intended : Running codec original index (m.world.setStep index {
          guardDigest := codec.digestText step.guard,
          phase := some .intentRecorded }) := by
      refine h.setStep (.inl rfl) (fun _ => rfl) ?_
      rw [undo_of_none rfl, undo_of_none (h.plain (by simp [fresh]))]
    split
    next result =>
      exact .running index (advance_keeps (P := Running codec original index) result h intended)
    next m₁ result =>
      have saved := advance_saved result
      refine startStep_rest quiet within ?_ ?_
      · rw [saved]
        exact intended
      · rw [saved, setStep_self]
  next phase recorded =>
    have intent : (m.world.journal index).phase = some .intentRecorded := by
      rcases open' with fresh | intent
      · simp [fresh] at recorded
      · exact intent
    split
    next result => exact .running index (by rw [send_world result]; exact h)
    next result =>
      refine startStep_rest quiet within ?_ ?_ <;> rw [send_world result]
      · exact h
      · exact intent

theorem Rest.open (h : Rest codec original count w) (before : SucceededBefore w index)
    (open' : (w.journal index).phase = none ∨ (w.journal index).phase = some .intentRecorded) :
    Running codec original index w := by
  have halts : ∀ {k : Nat} {phase : StepPhase}, HaltedAt w k phase →
      phase ≠ .succeeded → phase ≠ .intentRecorded → False := by
    intro k phase halted unsucceeded unopened
    rcases Nat.lt_trichotomy k index with less | same | more
    · have := before k less
      rw [halted.here] at this
      exact unsucceeded (by simpa using this)
    · subst same
      rw [halted.here] at open'
      simp [unopened] at open'
    · have := halted.before index more
      simp [this] at open'
  cases h with
  | running k h =>
    rcases Nat.lt_trichotomy k index with less | same | more
    · have := before k less
      have here := h.here
      simp [this] at here
    · subst same
      exact h
    · have := h.before index more
      simp [this] at open'
  | rolledBack _ _ h final =>
    rcases final with rfl | rfl <;> exact (halts h (by simp) (by simp)).elim
  | restoring _ _ h | unknown k h => exact (halts h (by simp) (by simp)).elim

theorem executeSteps_rest (quiet : Uninterrupted env report)
    {steps : List CommandStep} (within : index + steps.length = count)
    (before : SucceededBefore m.world index)
    (h : Rest codec original count m.world) :
    Rest codec original count (executeSteps codec cmd env report index steps m).2.world := by
  induction steps generalizing index m with
  | nil => exact h
  | cons step steps ih =>
    have left : index + 1 + steps.length = count := by
      simp only [List.length_cons] at within
      omega
    have opened : (m.world.journal index).phase = none ∨
          (m.world.journal index).phase = some .intentRecorded →
        Rest codec original count (match openStep codec cmd env report index step m with
          | .error result => result
          | .ok m => executeSteps codec cmd env report (index + 1) steps m).2.world := by
      intro open'
      have one := @openStep_rest ρ codec cmd env report m quiet original
        count index step (by simp only [List.length_cons] at within; omega)
        (h.open before open') open'
      split
      next result =>
        rw [result] at one
        exact one
      next m₁ result =>
        rw [result] at one
        have running : Running codec original (index + 1) m₁.world := one
        exact ih left running.before (.running _ running)
    rw [executeSteps]
    split
    iterate 2
      · split <;> rename_i marked <;> exact advance_keeps (P := Rest codec original count) marked h
          (.unknown index (.of_setStep before))
    · exact h
    · exact h
    · exact h
    next succeeded =>
      split
      next result =>
        rw [send_world result]
        exact h
      next m₁ result =>
        have same := send_world result
        refine ih left ?_ (by rw [same]; exact h)
        intro i less
        rw [same]
        by_cases last : i = index
        · subst last
          exact succeeded
        · exact before i (by omega)
    next intent => exact opened (.inr intent)
    next fresh => exact opened (.inl fresh)

/-! ## Commands outside the closed set -/

theorem settleFailure_contents {answer cause}
    (h : settleFailure codec env report index entry cause m = (answer, m')) :
    contents m'.world = contents m.world := by
  have stored : ∀ (ending : Option Ending) (m₁ : Machine ρ), save env index .failed
          { entry with error := codec.boundedError cause.text } m =
        (ending, m₁) → contents m₁.world = contents m.world := by
    intro ending m₁ saved
    rcases save_world saved with ⟨same, -⟩ | ⟨same, -⟩
    · rw [same]
    · rw [same, contents_setStep]
  unfold settleFailure at h
  split at h <;> rename_i saved <;> cases h <;> exact (stored _ _ saved :)

theorem failWithoutEffect_contents (index step message) :
    contents (failWithoutEffect codec env report index step message
      m).2.world = contents m.world := by
  unfold failWithoutEffect
  dsimp only
  split
  next result => exact advance_keeps (P := (contents · = contents m.world)) result rfl rfl
  rename_i result
  rw [← advance_keeps (P := (contents · = contents m.world)) result rfl rfl]
  split <;> rename_i settled <;> exact settleFailure_contents settled

/-! ## Deliveries -/

/-- No delivery before the deadline changes anything any more. -/
def Exhausted (codec : Codec) (cmd : Command) (w : HostWorld) : Prop :=
  ∀ d : Delivery, d.env.expired = false → deliver codec cmd w d = w

def Failed (w : HostWorld) : Prop :=
  ∃ i, (w.journal i).phase = some .failed ∨ (w.journal i).phase = some .compensationStarted ∨
    (w.journal i).phase = some .compensated

/-- Every file replaced by a step that had succeeded is as it was found. -/
def Restored (codec : Codec) (original w : HostWorld) : Prop :=
  ∀ i c, (w.journal i).compensation = some c → (w.journal i).phase = some .succeeded ∨
      (w.journal i).phase = some .compensated →
    contents w (codec.place c.target) = contents original (codec.place c.target)

def MarkedUnknown (w : HostWorld) : Prop := ∃ i, (w.journal i).phase = some .outcomeUnknown

def Accepted (cmd : Command) : Prop :=
  ¬ (trimSpace cmd.commandId = "" ∨ trimSpace cmd.leaseId = "") ∧ refusedStep 0 cmd.steps = none

theorem execute_of_accepted (accepted : Accepted cmd) (early : env.expired = false) :
    execute codec cmd env report m = executeSteps codec cmd env report 0 cmd.steps m := by
  unfold execute
  rw [if_neg accepted.1, early, accepted.2]
  rfl

theorem deliver_rest {d} (accepted : Accepted cmd) (quiet : Uninterrupted d.env d.reporter)
    (h : Rest codec original cmd.steps.length w) :
    Rest codec original cmd.steps.length (deliver codec cmd w d) := by
  unfold deliver
  cases early : d.env.expired with
  | true =>
    unfold execute
    rw [if_neg accepted.1, early]
    exact h
  | false =>
    rw [execute_of_accepted accepted early]
    exact executeSteps_rest quiet (Nat.zero_add _) (fun i less => by omega) h

theorem deliver_contents {d} (refused : ¬ Accepted cmd) :
    contents (deliver codec cmd w d) = contents w := by
  unfold deliver execute
  split
  · rfl
  rename_i named
  split
  · rfl
  split
  · exact failWithoutEffect_contents _ _ _
  next allowed => exact absurd ⟨named, allowed⟩ refused

def smooth : Delivery where
  env := {
    expired := false
    saveErr := fun _ _ => none
    crash := fun _ _ => false
    ctxErr := fun _ _ => none
    prepareErr := fun _ => none
    payload := fun _ => ""
    effect := fun _ => .done "null"
    restore := fun _ => .done "null" }
  answers := fun _ => none

theorem smooth_advance (index phase entry) (s : Machine Unit) :
    advance smooth.env smooth.reporter index phase entry s =
      (none, ⟨s.world.setStep index { entry with phase := some phase }, s.reporter⟩) := by
  simp [advance, save, send, smooth, Delivery.reporter]

theorem executeSteps_marks {index gap steps s} (within : gap < steps.length)
    (halted : HaltedAt s.world (index + gap) .compensationStarted) :
    ((executeSteps codec cmd smooth.env smooth.reporter index steps
      s).2.world.journal (index + gap)).phase = some .outcomeUnknown := by
  induction gap generalizing index steps with
  | zero =>
    cases steps with
    | nil => simp at within
    | cons =>
      have here : (s.world.journal index).phase =
          some .compensationStarted := by simpa using halted.here
      simp only [executeSteps, here, smooth_advance]
      simp
  | succ gap ih =>
    cases steps with
    | nil => simp at within
    | cons =>
      have here := halted.before index (by omega)
      have asked : send smooth.reporter index s = (none, s) := rfl
      simp only [executeSteps, here, asked]
      rw [show index + (gap + 1) = index + 1 + gap by omega] at halted ⊢
      exact ih (by simpa using within) halted

theorem Exhausted.not_restoring (h : Exhausted codec cmd w)
    (accepted : Accepted cmd) (within : index < cmd.steps.length) :
    ¬ HaltedAt w index .compensationStarted := by
  intro halted
  have same := h smooth rfl
  unfold deliver at same
  rw [execute_of_accepted accepted rfl] at same
  have marked := @executeSteps_marks codec cmd 0 index cmd.steps ⟨w, ()⟩
    within (by simpa using halted)
  rw [same] at marked
  simp [halted.here] at marked

theorem rest_of_fresh (fresh : ∀ i, w.journal i = {}) (count : Nat) :
    Rest codec (contents w) count w := by
  refine .running 0 ⟨fun i less => by omega, .inl (by rw [fresh]),
    fun _ => by rw [fresh], fun i _ => fresh i, ?_⟩
  rw [rewind, rewind, undo_of_none (by rw [fresh])]

theorem Rest.settled {original} (h : Rest codec (contents original) cmd.steps.length w)
    (accepted : Accepted cmd) (failed : Failed w) (exhausted : Exhausted codec cmd w) :
    MarkedUnknown w ∨ Restored codec original w := by
  cases h with
  | running index h =>
    obtain ⟨i, phase⟩ := failed
    rcases Nat.lt_trichotomy i index with less | same | more
    · simp [h.before i less] at phase
    · subst same
      rcases h.here with here | here | here <;> simp [here] at phase
    · simp [h.after i more] at phase
  | rolledBack _ _ _ _ restored =>
    right
    intro i c _ _
    rw [restored]
  | restoring _ within h =>
    exact absurd h (exhausted.not_restoring accepted within)
  | unknown index h => exact .inl ⟨index, h.here⟩

/--
A command that failed, and that no further delivery can change, has put back
every file its succeeded steps had replaced or is marked unknown, provided no
execution was cut short between two steps of its rollback.
-/
theorem rollback_survives (codec : Codec) (cmd : Command)
    (original : HostWorld) (fresh : ∀ i, original.journal i = {})
    (deliveries : List Delivery)
    (quiet : ∀ d ∈ deliveries, Uninterrupted d.env d.reporter)
    (failed : Failed (run (deliver codec cmd) original deliveries))
    (exhausted : Exhausted codec cmd (run (deliver codec cmd) original deliveries)) :
    MarkedUnknown (run (deliver codec cmd) original deliveries) ∨
      Restored codec original (run (deliver codec cmd) original deliveries) := by
  by_cases accepted : Accepted cmd
  · have rest := run_invariant (deliver codec cmd) (fun _ d => Uninterrupted d.env d.reporter)
      (Rest codec (contents original) cmd.steps.length)
      (fun w d quiet h => deliver_rest accepted quiet h)
      (meets_of_mem _ (fun _ d member => quiet d member) _)
      (rest_of_fresh fresh _)
    exact rest.settled accepted failed exhausted
  · have same : contents (run (deliver codec cmd) original deliveries) = contents original :=
      run_always (deliver codec cmd) (fun w => contents w = contents original)
        (fun w d h => (deliver_contents accepted).trans h) rfl deliveries
    right
    intro i c _ _
    rw [same]

/-! ## A report that is lost -/

theorem executeSteps_halted {index gap steps phase} (halted : HaltedAt m.world (index + gap) phase)
    (final : phase = .failed ∨ phase = .compensated ∨ phase = .outcomeUnknown) :
    (executeSteps codec cmd env report index steps m).2.world = m.world := by
  induction gap generalizing index steps m with
  | zero =>
    have here : (m.world.journal index).phase = some phase := by
      simpa using halted.here
    cases steps with
    | nil => rfl
    | cons =>
      rcases final with rfl | rfl | rfl <;> simp [executeSteps, here]
  | succ gap ih =>
    cases steps with
    | nil => rfl
    | cons =>
      have here := halted.before index (by omega)
      simp only [executeSteps, here]
      split
      next result => exact send_world result
      next m₁ result =>
        have same := send_world result
        rw [show index + (gap + 1) = index + 1 + gap by omega, ← same] at halted
        rw [← same]
        exact ih halted

theorem exhausted_of_halted {index phase} (accepted : Accepted cmd)
    (halted : HaltedAt w index phase) (final : phase = .failed ∨ phase = .compensated ∨
      phase = .outcomeUnknown) : Exhausted codec cmd w := by
  intro d early
  unfold deliver
  rw [execute_of_accepted accepted early]
  exact @executeSteps_halted Unit codec cmd d.env d.reporter ⟨w, ()⟩ 0 index
    cmd.steps phase (by simpa using halted) final

def sitePath : String := "/etc/nginx/app.conf"

def siteCodec : Codec where
  digestText text := "sha256:" ++ text
  receiptReference command _ _ := "sha256:" ++ command
  boundedError text := text
  decodeTarget _ := .ok sitePath
  place path := path

/-- Stage an artifact, replace the configuration, reload the service. -/
def siteCommand : Command where
  commandId := "cmd-1"
  leaseId := "lease-1"
  artifactRef := "artifact-1"
  steps := [⟨.artifactStage, "", ""⟩,
    ⟨.fileAtomicReplace, "\x7b\"target\":\"/etc/nginx/app.conf\"\x7d", ""⟩,
    ⟨.serviceReload, "\x7b\"service\":\"nginx\"\x7d", ""⟩]

def siteHost : HostWorld where
  journal _ := {}
  files path := if path = sitePath then some ⟨"old", 0o644⟩ else none
  backups _ := none
  staged := none

def failingReload (answers : StepReceipt → Option Failure) : Delivery where
  env := { smooth.env with
    payload := fun _ => "new"
    effect := fun index =>
      if index = 2 then .failedBefore ⟨"exit status 1", none⟩
      else .done "null" }
  answers := answers

def lostFailure : Delivery :=
  failingReload fun receipt =>
    if receipt.phase = some .failed then some ⟨"unavailable", none⟩ else none

theorem siteCommand_accepted : Accepted siteCommand := by
  refine ⟨?_, rfl⟩
  decide

/--
The configuration stays replaced: the journal says failed, and every further
delivery takes that for the end.
-/
theorem rollback_lost_report : Failed (run (deliver siteCodec siteCommand) siteHost [lostFailure]) ∧
      Exhausted siteCodec siteCommand (run (deliver siteCodec siteCommand) siteHost [lostFailure]) ∧
      ¬ (MarkedUnknown (run (deliver siteCodec siteCommand) siteHost [lostFailure]) ∨
        Restored siteCodec siteHost
          (run (deliver siteCodec siteCommand) siteHost [lostFailure])) := by
  refine ⟨⟨2, by decide⟩, ?_, ?_⟩
  · refine @exhausted_of_halted siteCodec siteCommand _ 2 .failed
      siteCommand_accepted ⟨?_, ?_⟩ (.inl rfl)
    · unfold SucceededBefore
      decide
    · decide
  · rintro (⟨i, unknown⟩ | restored)
    · match i with
      | 0 | 1 | 2 => revert unknown; decide
      | i + 3 => cases unknown
    · have back := restored 1 ⟨sitePath, true, 0o644⟩ (by decide) (.inl (by decide))
      revert back
      decide

/-- With every report answered the configuration is put back. -/
theorem rollback_survives_answered :
    MarkedUnknown (run (deliver siteCodec siteCommand) siteHost [failingReload fun _ => none]) ∨
      Restored siteCodec siteHost (run (deliver siteCodec siteCommand) siteHost
          [failingReload fun _ => none]) := by
  refine rollback_survives siteCodec siteCommand siteHost (fun _ => rfl)
    [failingReload fun _ => none] ?_ ⟨2, by decide⟩ ?_
  · intro d member
    obtain rfl := List.mem_singleton.mp member
    exact ⟨fun _ => rfl, fun _ => rfl, fun _ => rfl, fun _ _ _ => rfl⟩
  · refine @exhausted_of_halted siteCodec siteCommand _ 1 .compensated
      siteCommand_accepted ⟨?_, ?_⟩ (.inr (.inl rfl))
    · unfold SucceededBefore
      decide
    · decide

end YuFeng.Host

import YuFeng.Brain.Statements
import YuFeng.Library.Path

/-!
# The lifecycle of a release

The committed states of a release are a path from draft, and its rows in the
timeline are the steps of that path in the order of their numbers.  Row locks
keep this up for every writer that reads the state under its lock.  The
transaction that supersedes a release reads the state before it locks the
row, so the path holds in runs in which the state is still the same when the
row is updated.
-/

namespace YuFeng.Brain

open YuFeng.Library YuFeng.Kernel List Table

variable {path : List ReleaseState} {tables tables' : Tables}
  {releaseId : String} {source : ReleaseState} {tx : Tx} {s : Store} {id : Nat}
  {seen : String → List ReleaseState}

def Tables.timelineOf (tables : Tables) (releaseId : String) : List TimelineRow :=
  tables.timeline.filter (·.releaseId = releaseId)

def Moves (source target : ReleaseState) : Prop :=
  source ≠ target ∧ releaseTransitionAllowed source target = true

/-- The committed states of a release during a run, without repetitions. -/
def visited (releaseId : String) : Store → List Event → List ReleaseState → List ReleaseState
  | _, [], seen => seen
  | s, event :: events, seen =>
    visited releaseId (s.step event) events
      (extend seen ((s.step event).tables.db.stateOf releaseId))

def TimelineRow.move (row : TimelineRow) : ReleaseState × ReleaseState := (row.source, row.target)

/-- What the tables hold of a release that went through the states. -/
structure Lifecycle (tables : Tables) (releaseId : String)
    (path : List ReleaseState) : Prop where
  first : ∀ state, path.head? = some state → state = .draft
  allowed : path.IsChain Moves
  state : tables.db.stateOf releaseId = path.getLast?
  rows : (tables.timelineOf releaseId).map TimelineRow.move = steps path
  order : (tables.timelineOf releaseId).Pairwise (·.sequence < ·.sequence)
  ended : ∀ i, path[i]? = some .retired → i + 1 = path.length

/-- A release that is about to be retired for its successor still is in the
state in which it was selected. -/
def Event.steady (s : Store) : Event → Bool
  | .advance id =>
    match (s.txs.find? id).map Tx.phase with
    | some (.picked old source) =>
      s.locked id old || s.tables.db.stateOf old = some source
    | _ => true
  | _ => true

/-! ## One release -/

def ReleaseState.rank : ReleaseState → Nat
  | .draft => 0
  | .signed => 1
  | .shadow => 2
  | .canary => 3
  | .enforce => 4
  | .retired => 5

theorem Moves.rank_lt (source target) (h : Moves source target) : source.rank < target.rank := by
  obtain ⟨_, _⟩ := h
  cases source <;> cases target <;>
    simp_all [releaseTransitionAllowed, ReleaseState.rank]

theorem ended_of_path (h : path.IsChain Moves) (i : Nat)
    (retired : path[i]? = some .retired) : i + 1 = path.length := by
  obtain ⟨_, here⟩ := List.getElem?_eq_some_iff.mp retired
  by_contra short
  have next := isChain_iff_getElem.mp h i (by omega)
  rw [here] at next
  have grows := next.rank_lt
  revert grows
  cases path[i + 1] <;> simp [ReleaseState.rank]

theorem lifecycle_empty (releaseId) : Lifecycle {} releaseId [] where
  first _ h := by cases h
  allowed := isChain_nil
  state := rfl
  rows := rfl
  order := Pairwise.nil
  ended i h := by simp at h

section

variable (h : Lifecycle tables releaseId path)

include h

theorem Lifecycle.stays (state : tables'.db.stateOf releaseId = tables.db.stateOf releaseId)
    (rows : tables'.timelineOf releaseId = tables.timelineOf releaseId) :
    Lifecycle tables' releaseId (extend path (tables'.db.stateOf releaseId)) := by
  rw [state, h.state, extend_last]
  exact ⟨h.first, h.allowed, state.trans h.state, rows ▸ h.rows, rows ▸ h.order, h.ended⟩

theorem Lifecycle.born (fresh : tables.db.stateOf releaseId = none)
    (state : tables'.db.stateOf releaseId = some .draft)
    (rows : tables'.timelineOf releaseId = tables.timelineOf releaseId) :
    Lifecycle tables' releaseId (extend path (tables'.db.stateOf releaseId)) := by
  have empty : path = [] := by
    rw [← getLast?_eq_none_iff, ← h.state]
    exact fresh
  subst empty
  rw [state]
  refine ⟨?_, isChain_singleton _, state, rows ▸ h.rows,
    rows ▸ h.order, ended_of_path (isChain_singleton _)⟩
  intro _ here
  cases here
  rfl

theorem Lifecycle.moves {row} (move : Moves row.source row.target)
    (source : tables.db.stateOf releaseId = some row.source)
    (target : tables'.db.stateOf releaseId = some row.target)
    (rows : tables'.timelineOf releaseId = tables.timelineOf releaseId ++ [row])
    (later : ∀ old ∈ tables.timelineOf releaseId, old.sequence < row.sequence) :
    Lifecycle tables' releaseId (extend path (tables'.db.stateOf releaseId)) := by
  have last : path.getLast? = some row.source := h.state ▸ source
  have new : path.getLast? ≠ some row.target := by
    rw [last]
    exact fun same => move.1 (Option.some.inj same)
  have chain : (path ++ [row.target]).IsChain Moves := by
    refine isChain_append.mpr ⟨h.allowed, isChain_singleton _, ?_⟩
    intro _ lastA _ firstB
    rw [last] at lastA
    cases lastA
    cases firstB
    exact move
  rw [target, extend_next new]
  refine ⟨?_, chain, by rw [target, getLast?_concat], ?_, ?_, ended_of_path chain⟩
  · intro _ here
    apply h.first
    cases path with
    | nil => cases last
    | cons => exact here
  · rw [rows, map_append, h.rows, steps_concat last]
    rfl
  · rw [rows, pairwise_append]
    refine ⟨h.order, pairwise_singleton _ _, ?_⟩
    intro old present _ same
    rw [mem_singleton.mp same]
    exact later old present

theorem Lifecycle.noted_iff {target} (here : tables.db.stateOf releaseId = some source)
    (allowed : releaseTransitionAllowed source target = true) (entered : target ≠ .draft) :
    (∃ row ∈ tables.timeline, row.releaseId = releaseId ∧
      row.target = target) ↔ source = target := by
  have last : path.getLast? = some source := h.state ▸ here
  have targets : (tables.timelineOf releaseId).map (·.target) =
      path.tail := by
    rw [← map_snd_steps, ← h.rows, map_map]
    rfl
  have member : (∃ row ∈ tables.timeline, row.releaseId = releaseId ∧
      row.target = target) ↔ target ∈ path.tail := by
    rw [← targets, mem_map]
    simp [Tables.timelineOf, and_assoc]
  rw [member]
  cases path with
  | nil => cases last
  | cons first rest =>
    have draft : first = .draft := h.first first rfl
    constructor
    · intro later
      have placed := rank_le_last Moves.rank_lt h.allowed last (mem_cons_of_mem first later)
      by_contra different
      have grows := Moves.rank_lt source target ⟨different, allowed⟩
      rcases placed with same | _
      · exact different same.symm
      · omega
    · rintro rfl
      cases rest with
      | nil =>
        cases last
        exact absurd draft entered
      | cons =>
        rw [getLast?_cons_cons] at last
        exact mem_of_getLast? last

end

/-! ## Open transactions -/

def Tx.unnoted (tx : Tx) : Option String :=
  match tx.job, tx.phase with
  | .change w, .written _ => some w.rel.id
  | .change _, .replaced old _ => some old
  | _, _ => none

/-- Every row that the transaction wrote is locked, and its timeline row goes
from the committed state to the written one. -/
structure Tx.Recorded (tables : Tables) (tx : Tx) : Prop where
  held : ∀ id row, tx.releases.find? id = some row → id ∈ tx.locks
  moves : ∀ id row, tx.releases.find? id = some row → ∃ source, tables.db.stateOf id = some source ∧
      releaseTransitionAllowed source row.state = true ∧
      (tx.timeline.filter (·.releaseId = id)).map TimelineRow.move =
        if source = row.state ∨ tx.unnoted = some id then []
        else [(source, row.state)]
  named : ∀ row ∈ tx.timeline, (tx.releases.find? row.releaseId).isSome

def Tx.Knows (tables : Tables) (tx : Tx) : Prop :=
  match tx.job, tx.phase with
  | .register _ _, _ => tx.releases = .empty ∧ tx.timeline = []
  | .change _, .start => tx.releases = .empty ∧ tx.timeline = []
  | .change w, .locked row =>
    tx.releases = .empty ∧ tx.timeline = [] ∧ w.rel.id ∈ tx.locks ∧
      tables.db.releases.find? w.rel.id = some row ∧
      releaseTransitionAllowed row.state w.rel.state = true
  | .change w, .written source =>
    tables.db.stateOf w.rel.id = some source ∧ ∃ row, tx.releases.find? w.rel.id = some row ∧
        row.state = w.rel.state
  | .change _, .picked old source =>
    source.live = true ∧ ∀ row, tx.releases.find? old = some row → row.state = source
  | .change _, .replaced old source =>
    source.live = true ∧ tables.db.stateOf old = some source ∧
      ∃ row, tx.releases.find? old = some row ∧ row.state = .retired
  | _, _ => True

structure Tx.Sound (tables : Tables) (tx : Tx) : Prop where
  recorded : tx.Recorded tables
  knows : tx.Knows tables
  entered : ∀ w, tx.job = .change w → w.rel.state ≠ .draft

structure Store.Sound (s : Store) : Prop where
  exclusive : ∀ i j tx tx', s.txs.find? i = some tx →
    s.txs.find? j = some tx' → i ≠ j → ∀ id ∈ tx.locks, id ∉ tx'.locks
  txs : ∀ i tx, s.txs.find? i = some tx → tx.Sound s.tables
  drawn : ∀ row ∈ s.tables.timeline, row.sequence ≤ s.timelineSeq
  later : ∀ i tx, s.txs.find? i = some tx → ∀ row ∈ tx.timeline, row.sequence ≤ s.timelineSeq ∧
      ∀ old ∈ s.tables.timelineOf row.releaseId, old.sequence < row.sequence

theorem Tx.Sound.transfer (h : tx.Sound tables)
    (kept : ∀ id ∈ tx.locks, ∀ row, tables.db.releases.find? id = some row →
      tables'.db.releases.find? id = some row) : tx.Sound tables' := by
  have states : ∀ id ∈ tx.locks, ∀ state, tables.db.stateOf id = some state →
      tables'.db.stateOf id = some state := by
    intro id held _ here
    obtain ⟨row, found, rfl⟩ := Option.map_eq_some_iff.mp here
    rw [Governance.stateOf, kept id held row found]
    rfl
  refine ⟨⟨h.recorded.held, ?_, h.recorded.named⟩, ?_, h.entered⟩
  · intro id row written
    obtain ⟨source, here, rest⟩ := h.recorded.moves id row written
    exact ⟨source, states id (h.recorded.held id row written) _ here, rest⟩
  · have knows := h.knows
    have held := h.recorded.held
    unfold Tx.Knows at knows ⊢
    split at knows
    · exact knows
    · exact knows
    · obtain ⟨rows, timeline, locked, found, allowed⟩ := knows
      exact ⟨rows, timeline, locked, kept _ locked _ found, allowed⟩
    · obtain ⟨source, row, written, state⟩ := knows
      exact ⟨states _ (held _ _ written) _ source, row, written, state⟩
    · exact knows
    · obtain ⟨live, source, row, written, state⟩ := knows
      exact ⟨live, states _ (held _ _ written) _ source, row, written, state⟩
    · trivial

/-! ## One statement -/

structure Continues (s : Store) (id : Nat) (tx tx' : Tx)
    (timelineSeq : Nat) : Prop where
  sound : tx'.Sound s.tables
  locks : ∀ releaseId ∈ tx'.locks, releaseId ∈ tx.locks ∨ s.locked id releaseId = false
  timeline : tx'.timeline = tx.timeline ∧ timelineSeq = s.timelineSeq ∨
    ∃ row, tx'.timeline = tx.timeline ++ [row] ∧
      row.sequence = s.timelineSeq + 1 ∧ timelineSeq = s.timelineSeq + 1

section Statement

variable {s : Store} {id : Nat} {tx tx' : Tx} {timelineSeq feedSeq : Nat} {w : AuditedWrite}

theorem Tx.Recorded.congr (h : tx.Recorded tables)
    (releases : tx'.releases = tx.releases) (locks : tx'.locks = tx.locks)
    (timeline : tx'.timeline = tx.timeline)
    (unnoted : tx'.unnoted = tx.unnoted) : tx'.Recorded tables := by
  refine ⟨?_, ?_, ?_⟩
  · rw [releases, locks]
    exact h.held
  · rw [releases, timeline, unnoted]
    exact h.moves
  · rw [releases, timeline]
    exact h.named

theorem Tx.Recorded.of_empty (releases : tx.releases = .empty) (timeline : tx.timeline = []) :
    tx.Recorded tables := by
  refine ⟨fun _ _ written => ?_, fun _ _ written => ?_, by simp [timeline]⟩
  all_goals
    rw [releases] at written
    cases written

theorem lockRow_continues (sound : tx.Sound s.tables)
    (job : tx.job = .change w) (phase : tx.phase = .start)
    (h : tx.lockRow s id w = .goes tx' timelineSeq feedSeq) :
    Continues s id tx tx' timelineSeq := by
  revert h
  fun_cases Tx.lockRow tx s id w
  all_goals
    intro h
    cases h
  next free row found allowed =>
    have knows := sound.knows
    simp only [Tx.Knows, job, phase] at knows
    refine ⟨⟨.of_empty knows.1 knows.2, ?_, sound.entered⟩, ?_, .inl ⟨rfl, rfl⟩⟩
    · simp only [Tx.Knows, job]
      exact ⟨knows.1, knows.2, mem_singleton_self _, found, allowed⟩
    · intro _ held
      rw [mem_singleton.mp held]
      exact .inr (Bool.eq_false_iff.mpr free)

theorem writeRow_continues {row} (sound : tx.Sound s.tables) (job : tx.job = .change w)
    (phase : tx.phase = .locked row) (h : tx.writeRow s w row = .goes tx' timelineSeq feedSeq) :
    Continues s id tx tx' timelineSeq := by
  unfold Tx.writeRow at h
  split at h
  · cases h
  next row' wrote =>
    cases h
    have knows := sound.knows
    simp only [Tx.Knows, job, phase] at knows
    obtain ⟨releases, timeline, held, found, allowed⟩ := knows
    have state : s.tables.db.stateOf w.rel.id = some row.state := by
      rw [Governance.stateOf, found]
      rfl
    have entered := write_state wrote
    have written : ∀ other new, (tx.releases.set w.rel.id row').find? other = some new →
          other = w.rel.id ∧ new = row' := by
      intro other _ found
      rw [releases] at found
      exact (find?_set_some found).resolve_right fun old => by cases old.2
    refine ⟨⟨⟨?_, ?_, ?_⟩, ?_, sound.entered⟩, fun _ locked => .inl locked, .inl ⟨rfl, rfl⟩⟩
    · intro other new found
      rw [(written other new found).1]
      exact held
    · intro other new found
      obtain ⟨rfl, rfl⟩ := written other new found
      refine ⟨row.state, state, entered ▸ allowed, ?_⟩
      simp [timeline, Tx.unnoted, job]
    · intro note present
      change note ∈ tx.timeline at present
      rw [timeline] at present
      cases present
    · simp only [Tx.Knows, job]
      exact ⟨state, row', find?_set_self .., entered⟩

/-- The release whose move is still to be noted gets its notes. -/
theorem Tx.Recorded.noted {old row notes} (h : tx.Recorded tables) (unnoted : tx.unnoted = some old)
    (state : tables.db.stateOf old = some source) (written : tx.releases.find? old = some row)
    (own : ∀ note ∈ notes, note.releaseId = old)
    (moves : notes.map TimelineRow.move = if source = row.state then [] else [(source, row.state)])
    (releases : tx'.releases = tx.releases) (locks : tx'.locks = tx.locks)
    (timeline : tx'.timeline = tx.timeline ++ notes) (settled : tx'.unnoted = none) :
    tx'.Recorded tables := by
  refine ⟨by rw [releases, locks]; exact h.held, fun other new found => ?_, ?_⟩
  · rw [releases] at found
    obtain ⟨from', here, step, rows⟩ := h.moves other new found
    refine ⟨from', here, step, ?_⟩
    rw [unnoted] at rows
    rw [timeline, settled, filter_append, map_append]
    by_cases this : other = old
    · subst this
      cases written.symm.trans found
      cases state.symm.trans here
      rw [if_pos (.inr rfl)] at rows
      rw [rows, filter_eq_self.mpr (by simpa using own), moves]
      simp
    · have others : notes.filter (·.releaseId = other) = [] :=
        filter_eq_nil_iff.mpr fun note present => by simpa [own note present] using Ne.symm this
      rw [others, rows]
      simp [Ne.symm this]
  · rw [releases, timeline]
    intro note present
    rcases mem_append.mp present with before | new
    · exact h.named note before
    · rw [own note new, written]
      rfl

/-- The row that is missing in the timeline is added, or it was there since
the release already had the state. -/
theorem noteRow_continues (sound : tx.Sound s.tables)
    (job : tx.job = .change w) (phase : tx.phase = .written source)
    (life : Lifecycle s.tables w.rel.id path)
    (h : tx.noteRow s w source = .goes tx' timelineSeq feedSeq) :
    Continues s id tx tx' timelineSeq := by
  have knows := sound.knows
  simp only [Tx.Knows, job, phase] at knows
  obtain ⟨state, row, written, entered⟩ := knows
  have unnoted : tx.unnoted = some w.rel.id := by
    simp [Tx.unnoted, job, phase]
  obtain ⟨_, state', allowed, own⟩ := sound.recorded.moves w.rel.id row written
  rw [state] at state'
  cases state'
  rw [if_pos (.inr unnoted), map_eq_nil_iff] at own
  rw [entered] at allowed
  have noted := life.noted_iff state allowed (sound.entered w job)
  -- The transaction has no row of the release itself.
  have seen : ((tx.sees s.tables).timeline.any fun note =>
      note.releaseId = w.rel.id && note.target = w.rel.state) = true ↔ source = w.rel.state := by
    rw [← noted]
    simp only [Tx.sees, any_append, Bool.or_eq_true, any_eq_true,
      Bool.and_eq_true, decide_eq_true_eq]
    constructor
    · rintro (committed | ⟨note, pending, here, -⟩)
      · exact committed
      · have member : note ∈ tx.timeline.filter (·.releaseId = w.rel.id) :=
          mem_filter.mpr ⟨pending, decide_eq_true here⟩
        rw [own] at member
        cases member
    · exact .inl
  unfold Tx.noteRow at h
  split at h
  next present =>
    have same := seen.mp present
    cases h
    refine ⟨⟨?_, by simp [Tx.Knows, job], sound.entered⟩, fun _ locked => .inl locked,
      .inl ⟨rfl, rfl⟩⟩
    exact sound.recorded.noted unnoted state written (by simp) (by simp [same, entered]) rfl rfl
      (append_nil _).symm (by simp [Tx.unnoted, job])
  next absent =>
    have different : source ≠ w.rel.state := fun same =>
      absent (seen.mpr same)
    cases h
    refine ⟨⟨?_, by simp [Tx.Knows, job], sound.entered⟩, fun _ locked => .inl locked,
      .inr ⟨_, rfl, rfl, rfl⟩⟩
    exact sound.recorded.noted unnoted state written (by simp)
      (by simp [different, entered, TimelineRow.move]) rfl rfl rfl (by simp [Tx.unnoted, job])

theorem rephase_continues {phase unitAssets feed} (sound : tx.Sound s.tables)
    (unnoted : { tx with phase := phase }.unnoted = tx.unnoted)
    (knows : { tx with phase := phase }.Knows s.tables) :
    Continues s id tx
      { tx with phase := phase, unitAssets := unitAssets, feed := feed }
      s.timelineSeq := by
  refine ⟨⟨?_, knows, sound.entered⟩, fun _ held => .inl held, .inl ⟨rfl, rfl⟩⟩
  exact sound.recorded.congr rfl rfl rfl unnoted

theorem pick_continues (sound : tx.Sound s.tables)
    (job : tx.job = .change w) (phase : tx.phase = .fed)
    (h : tx.pick s w = .goes tx' timelineSeq feedSeq) :
    Continues s id tx tx' timelineSeq := by
  unfold Tx.pick at h
  split at h
  · cases h
    apply rephase_continues sound
    · simp [Tx.unnoted, job, phase]
    · simp [Tx.Knows, job]
  · split at h
    · cases h
      apply rephase_continues sound
      · simp [Tx.unnoted, job, phase]
      · simp [Tx.Knows, job]
    next entry live =>
      cases h
      have chosen := mem_filter.mp (highest_mem live)
      rw [Bool.and_eq_true] at chosen
      apply rephase_continues sound
      · simp [Tx.unnoted, job, phase]
      · simp only [Tx.Knows, job]
        refine ⟨chosen.2.2, ?_⟩
        intro _ written
        have seen : (s.tables.db.releases.overlay tx.releases).find?
            entry.1 = some entry.2 := mem_iff_find?.mp chosen.1
        rw [find?_overlay, written] at seen
        rw [← Option.some.inj seen]

theorem live_retires (live : source.live = true) :
    source ≠ .retired ∧ releaseTransitionAllowed source .retired = true := by
  cases source <;> simp_all [ReleaseState.live, releaseTransitionAllowed]

/-- The selected release is retired from the state in which it was
selected. -/
theorem replace_continues {old} (sound : tx.Sound s.tables) (job : tx.job = .change w)
    (phase : tx.phase = .picked old source)
    (steady : s.locked id old = true ∨ s.tables.db.stateOf old = some source)
    (h : tx.replace s id w old source = .goes tx' timelineSeq feedSeq) :
    Continues s id tx tx' timelineSeq := by
  unfold Tx.replace at h
  split at h
  · cases h
  next free =>
    have state := steady.resolve_left free
    split at h
    · cases h
    next row found =>
      cases h
      have knows := sound.knows
      simp only [Tx.Knows, job, phase] at knows
      obtain ⟨live, selected⟩ := knows
      have settled : tx.unnoted = none := by simp [Tx.unnoted, job, phase]
      -- Nothing of the selected release is in the timeline yet.
      have silent : tx.timeline.filter (·.releaseId = old) = [] := by
        cases written : tx.releases.find? old with
        | none =>
          rw [filter_eq_nil_iff]
          intro note present same
          have named := sound.recorded.named note present
          rw [of_decide_eq_true same, written] at named
          cases named
        | some new =>
          obtain ⟨_, here, -, rows⟩ := sound.recorded.moves old new written
          rw [state] at here
          cases here
          rw [if_pos (.inl (selected new written).symm), map_eq_nil_iff] at rows
          exact rows
      refine ⟨⟨⟨?_, ?_, ?_⟩, ?_, sound.entered⟩, ?_, .inl ⟨rfl, rfl⟩⟩
      · intro other new written
        by_cases this : other = old
        · rw [this]
          exact mem_cons_self
        · rw [find?_set_of_ne this] at written
          exact mem_cons_of_mem _ (sound.recorded.held other new written)
      · intro other new written
        rcases find?_set_some written with ⟨rfl, rfl⟩ | ⟨this, written⟩
        · refine ⟨source, state, (live_retires live).2, ?_⟩
          simp [silent, Tx.unnoted, job]
        · obtain ⟨from', here, step, rows⟩ := sound.recorded.moves other new written
          refine ⟨from', here, step, ?_⟩
          rw [settled] at rows
          have unlike : old ≠ other := Ne.symm this
          simpa [Tx.unnoted, job, unlike] using rows
      · intro note present
        by_cases this : note.releaseId = old
        · rw [this, find?_set_self]
          rfl
        · rw [find?_set_of_ne this]
          exact sound.recorded.named note present
      · simp only [Tx.Knows, job]
        exact ⟨live, state, _, find?_set_self .., rfl⟩
      · intro _ held
        rcases mem_cons.mp held with rfl | before
        · exact .inr (Bool.eq_false_iff.mpr free)
        · exact .inl before

theorem recordReplaced_continues {old} (sound : tx.Sound s.tables) (job : tx.job = .change w)
    (phase : tx.phase = .replaced old source)
    (h : tx.recordReplaced s w old source = .goes tx' timelineSeq feedSeq) :
    Continues s id tx tx' timelineSeq := by
  have knows := sound.knows
  simp only [Tx.Knows, job, phase] at knows
  obtain ⟨live, state, _, written, retired⟩ := knows
  have unnoted : tx.unnoted = some old := by simp [Tx.unnoted, job, phase]
  cases h
  refine ⟨⟨?_, by simp [Tx.Knows, job], sound.entered⟩, fun _ locked => .inl locked,
    .inr ⟨_, rfl, rfl, rfl⟩⟩
  exact sound.recorded.noted unnoted state written (by simp)
    (by simp [retired, (live_retires live).1, TimelineRow.move]) rfl rfl rfl
    (by simp [Tx.unnoted, job])

theorem next_continues (sound : tx.Sound s.tables) (open' : s.txs.find? id = some tx)
    (lives : ∀ releaseId, ∃ path, Lifecycle s.tables releaseId path)
    (steady : (Event.advance id).steady s = true)
    (h : tx.next s id = .goes tx' timelineSeq feedSeq) :
    Continues s id tx tx' timelineSeq := by
  have knows := sound.knows
  unfold Tx.next at h
  split at h
  case h_1 w job phase => exact lockRow_continues sound job phase h
  case h_2 w row job phase => exact writeRow_continues sound job phase h
  case h_3 w source job phase =>
    obtain ⟨_, life⟩ := lives w.rel.id
    exact noteRow_continues sound job phase life h
  case h_4 w job phase =>
    cases h
    apply rephase_continues sound
    · simp [Tx.unnoted, job, phase]
    · simp [Tx.Knows, job]
  case h_5 w job phase => exact pick_continues sound job phase h
  case h_6 w old source job phase =>
    apply replace_continues sound job phase ?_ h
    simpa [Event.steady, open', phase] using steady
  case h_7 w old source job phase =>
    exact recordReplaced_continues sound job phase h
  case h_8 w old job phase =>
    split at h
    · cases h
    · cases h
      apply rephase_continues sound
      · simp [Tx.unnoted, job, phase]
      · simp [Tx.Knows, job]
  case h_9 job phase | h_10 job phase =>
    cases h
    apply rephase_continues sound
    · simp [Tx.unnoted, job]
    · simpa only [Tx.Knows, job] using knows
  case h_11 => cases h
  case h_12 => cases h

end Statement

/-! ## Commits -/

theorem stateOf_sees (tx : Tx) (tables : Tables) (releaseId) :
    (tx.sees tables).db.stateOf releaseId = ((tx.releases.find? releaseId).map (·.state)).or
        (tables.db.stateOf releaseId) := by
  unfold Governance.stateOf Tx.sees
  rw [find?_overlay, Option.map_or]

theorem timelineOf_sees (tx : Tx) (tables : Tables) (releaseId) :
    (tx.sees tables).timelineOf releaseId = tables.timelineOf releaseId ++
        tx.timeline.filter (·.releaseId = releaseId) := by
  unfold Tables.timelineOf Tx.sees
  exact filter_append ..

theorem commit_lifecycle (sound : s.Sound) (found : s.txs.find? id = some tx)
    (noted : tx.unnoted = none) (life : Lifecycle s.tables releaseId path) :
    Lifecycle (tx.sees s.tables) releaseId
      (extend path ((tx.sees s.tables).db.stateOf releaseId)) := by
  have recorded := (sound.txs id tx found).recorded
  cases written : tx.releases.find? releaseId with
  | none =>
    apply life.stays
    · rw [stateOf_sees, written]
      rfl
    · rw [timelineOf_sees, filter_eq_nil_iff.mpr, append_nil]
      intro note present same
      have named := recorded.named note present
      rw [of_decide_eq_true same, written] at named
      cases named
  | some row =>
    obtain ⟨_, here, allowed, rows⟩ := recorded.moves releaseId row written
    have after : (tx.sees s.tables).db.stateOf releaseId = some row.state := by
      rw [stateOf_sees, written]
      rfl
    rw [noted] at rows
    split at rows
    next same =>
      have still := same.resolve_right (by simp)
      apply life.stays
      · rw [after, here, still]
      · rw [timelineOf_sees, map_eq_nil_iff.mp rows, append_nil]
    next other =>
      obtain ⟨note, single, move⟩ := map_eq_singleton_iff.mp rows
      simp only [TimelineRow.move, Prod.mk.injEq] at move
      obtain ⟨rfl, target⟩ := move
      rw [← target] at allowed after other
      have member : note ∈ tx.timeline.filter (·.releaseId = releaseId) := by
        rw [single]
        exact mem_singleton_self _
      obtain ⟨present, same⟩ := mem_filter.mp member
      have later := (sound.later id tx found note present).2
      rw [of_decide_eq_true same] at later
      have step : Moves note.source note.target := ⟨fun same => other (.inl same), allowed⟩
      apply life.moves step here after ?_ later
      rw [timelineOf_sees, single]

theorem mem_timelineOf {row} :
    row ∈ tables.timelineOf releaseId ↔ row ∈ tables.timeline ∧ row.releaseId = releaseId := by
  simp [Tables.timelineOf]

theorem Store.Sound.abort (h : s.Sound) (id) : { s with txs := s.txs.erase id }.Sound := by
  refine ⟨?_, ?_, h.drawn, ?_⟩
  · intro i j tx tx' found found'
    exact h.exclusive i j tx tx' (find?_erase_some found).2 (find?_erase_some found').2
  · intro i tx found
    exact h.txs i tx (find?_erase_some found).2
  · intro i tx found
    exact h.later i tx (find?_erase_some found).2

theorem Store.Sound.commit (h : s.Sound) (found : s.txs.find? id = some tx) :
    { s with tables := tx.sees s.tables, txs := s.txs.erase id }.Sound := by
  have own := (h.txs id tx found).recorded
  -- What the transaction wrote is locked by no other one.
  have apart : ∀ i tx', i ≠ id → s.txs.find? i = some tx' →
      ∀ releaseId ∈ tx'.locks, tx.releases.find? releaseId = none := by
    intro i tx' other present releaseId held
    cases written : tx.releases.find? releaseId with
    | none => rfl
    | some row =>
      exact absurd (own.held releaseId row written)
        (h.exclusive i id tx' tx present found other releaseId held)
  refine ⟨(h.abort id).exclusive, ?_, ?_, ?_⟩
  · intro i tx' remaining
    obtain ⟨other, present⟩ := find?_erase_some remaining
    apply (h.txs i tx' present).transfer
    intro releaseId held _ before
    change (s.tables.db.releases.overlay tx.releases).find? releaseId = _
    rw [find?_overlay, apart i tx' other present releaseId held]
    exact before
  · intro row present
    rcases mem_append.mp present with committed | pending
    · exact h.drawn row committed
    · exact (h.later id tx found row pending).1
  · intro i tx' remaining row pending
    obtain ⟨other, present⟩ := find?_erase_some remaining
    obtain ⟨drawn, later⟩ := h.later i tx' present row pending
    refine ⟨drawn, ?_⟩
    intro old committed
    rw [timelineOf_sees] at committed
    rcases mem_append.mp committed with before | new
    · exact later old before
    · obtain ⟨mine, same⟩ := mem_filter.mp new
      have named := own.named old mine
      have recorded := (h.txs i tx' present).recorded
      obtain ⟨_, written⟩ := Option.isSome_iff_exists.mp (recorded.named row pending)
      rw [of_decide_eq_true same, apart i tx' other present row.releaseId
        (recorded.held _ _ written)] at named
      cases named

/-! ## Runs -/

theorem locked_eq_false (h : s.locked id releaseId = false) {i} (found : s.txs.find? i = some tx)
    (other : i ≠ id) : releaseId ∉ tx.locks := by
  intro held
  have here := any_eq_false.mp h (i, tx) (mem_iff_find?.mpr found)
  exact here (by simp [other, held])

theorem Store.Sound.put {tx' timelineSeq} (h : s.Sound) (sound : tx'.Sound s.tables)
    (apart : ∀ i other, i ≠ id → s.txs.find? i = some other →
      ∀ releaseId ∈ tx'.locks, releaseId ∉ other.locks) (grows : s.timelineSeq ≤ timelineSeq)
    (later : ∀ row ∈ tx'.timeline, row.sequence ≤ timelineSeq ∧
      ∀ old ∈ s.tables.timelineOf row.releaseId, old.sequence < row.sequence) (feedSeq : Nat) :
    { s with
      timelineSeq := timelineSeq
      feedSeq := feedSeq
      txs := s.txs.set id tx' }.Sound := by
  refine ⟨?_, ?_, fun row present => (h.drawn row present).trans grows, ?_⟩
  · intro i j first second present present' different releaseId held
    rcases find?_set_some present with ⟨rfl, rfl⟩ | ⟨away, before⟩
    · rcases find?_set_some present' with ⟨rfl, -⟩ | ⟨away', before'⟩
      · exact absurd rfl different
      · exact apart j second away' before' releaseId held
    · rcases find?_set_some present' with ⟨rfl, rfl⟩ | ⟨_, before'⟩
      · exact fun mine => apart i first away before releaseId mine held
      · exact h.exclusive i j first second before before' different releaseId held
  · exact forall_set sound h.txs
  · exact forall_set later fun i other before row pending =>
      (h.later i other before row pending).imp_left (·.trans grows)

theorem Store.Sound.goes {tx' timelineSeq} (h : s.Sound) (found : s.txs.find? id = some tx)
    (continues : Continues s id tx tx' timelineSeq) (feedSeq : Nat) :
    { s with
      timelineSeq := timelineSeq
      feedSeq := feedSeq
      txs := s.txs.set id tx' }.Sound := by
  refine h.put continues.sound ?_ ?_ ?_ feedSeq
  · intro i other different present releaseId held
    rcases continues.locks releaseId held with before | free
    · exact h.exclusive id i tx other found present (Ne.symm different) releaseId before
    · exact locked_eq_false free present different
  · rcases continues.timeline with ⟨-, _⟩ | ⟨_, -, -, _⟩ <;> omega
  · intro row pending
    rcases continues.timeline with ⟨same, rfl⟩ | ⟨_, rows, number, rfl⟩
    · rw [same] at pending
      exact h.later id tx found row pending
    · rw [rows] at pending
      rcases mem_append.mp pending with old | fresh
      · exact (h.later id tx found row old).imp_left Nat.le_succ_of_le
      · rw [mem_singleton.mp fresh]
        refine ⟨Nat.le_of_eq number, ?_⟩
        intro old committed
        have drawn := h.drawn old (mem_timelineOf.mp committed).1
        omega

theorem Store.Sound.enter (h : s.Sound) (id : Nat) {job}
    (entered : ∀ w, job = .change w → w.rel.state ≠ .draft) : (s.enter id job).Sound := by
  unfold Store.enter
  split
  · exact h
  · have empty : Tx.Sound s.tables { job := job } := by
      refine ⟨.of_empty rfl rfl, ?_, entered⟩
      cases job with
      | change | register => exact ⟨rfl, rfl⟩
    exact h.put empty (by simp) (Nat.le_refl _) (by simp) s.feedSeq

theorem Store.Sound.keeps {s' : Store} (h : s.Sound) (txs : s'.txs = s.txs)
    (seq : s'.timelineSeq = s.timelineSeq)
    (timeline : s'.tables.timeline = s.tables.timeline)
    (kept : ∀ id row, s.tables.db.releases.find? id = some row →
      s'.tables.db.releases.find? id = some row) : s'.Sound := by
  have rows : ∀ id, s'.tables.timelineOf id = s.tables.timelineOf id := by
    intro _
    rw [Tables.timelineOf, Tables.timelineOf, timeline]
  refine ⟨?_, ?_, ?_, ?_⟩
  · rw [txs]
    exact h.exclusive
  · rw [txs]
    intro i tx found
    exact (h.txs i tx found).transfer fun id _ => kept id
  · rw [timeline, seq]
    exact h.drawn
  · rw [txs, seq]
    simp only [rows]
    exact h.later

theorem write_entered {env} {call : ReleaseCall} {w : AuditedWrite} (h : call.write env = some w) :
    w.rel.state ≠ .draft := by
  cases call <;> cases h <;> intro draft <;> cases draft

structure Traced (s : Store) (seen : String → List ReleaseState) : Prop where
  sound : s.Sound
  lives : ∀ releaseId, Lifecycle s.tables releaseId (seen releaseId)

theorem Traced.unchanged {s'} (h : Traced s seen) (sound : s'.Sound)
    (releases : s'.tables.db.releases = s.tables.db.releases)
    (timeline : s'.tables.timeline = s.tables.timeline) :
    Traced s' fun releaseId =>
      extend (seen releaseId) (s'.tables.db.stateOf releaseId) := by
  refine ⟨sound, ?_⟩
  intro releaseId
  apply (h.lives releaseId).stays
  · rw [Governance.stateOf, Governance.stateOf, releases]
  · rw [Tables.timelineOf, Tables.timelineOf, timeline]

theorem advance_traced (h : Traced s seen) (steady : (Event.advance id).steady s = true) :
    Traced (s.step (.advance id)) fun releaseId =>
      extend (seen releaseId) ((s.step (.advance id)).tables.db.stateOf releaseId) := by
  cases found : s.txs.find? id with
  | none =>
    have same : s.step (.advance id) = s := by
      rw [Store.step, found]
    rw [same]
    exact h.unchanged h.sound rfl rfl
  | some tx =>
    have stepped : s.step (.advance id) = s.settle id tx (tx.next s id) := by
      rw [Store.step, found]
    rw [stepped]
    cases next : tx.next s id with
    | waits => exact h.unchanged h.sound rfl rfl
    | fails => exact h.unchanged (h.sound.abort id) rfl rfl
    | goes _ _ feedSeq =>
      have continues := next_continues (h.sound.txs id tx found) found
        (fun releaseId => ⟨_, h.lives releaseId⟩) steady next
      exact h.unchanged (h.sound.goes found continues feedSeq) rfl rfl
    | commits =>
      have finished : tx.phase = .finished := next_fits next
      have noted : tx.unnoted = none := by
        simp [Tx.unnoted, finished]
      exact ⟨h.sound.commit found, fun releaseId =>
        commit_lifecycle h.sound found noted (h.lives releaseId)⟩

theorem propose_traced (h : Traced s seen) (p : Proposal) :
    Traced (s.step (.propose p)) fun releaseId =>
      extend (seen releaseId) ((s.step (.propose p)).tables.db.stateOf releaseId) := by
  cases proposed : propose p s.tables.db with
  | error =>
    have same : s.step (.propose p) = s := by
      rw [Store.step, proposed]
      rfl
    rw [same]
    exact h.unchanged h.sound rfl rfl
  | ok db =>
    have stepped : s.step (.propose p) =
        { s with tables := { s.tables with db := db } } := by
      rw [Store.step, proposed]
      rfl
    rw [stepped]
    simp only [propose, seq_ok, require_ok, pure_ok, Option.isNone_iff_eq_none] at proposed
    obtain ⟨_, fresh, rfl⟩ := proposed
    refine ⟨h.sound.keeps rfl rfl rfl ?_, ?_⟩
    · intro _ _ found
      rw [find?_set_of_ne]
      · exact found
      · rintro rfl
        rw [fresh] at found
        cases found
    · intro releaseId
      by_cases own : releaseId = p.releaseId
      · subst own
        apply (h.lives p.releaseId).born
        · rw [Governance.stateOf, fresh]
          rfl
        · rw [Governance.stateOf, find?_set_self]
          rfl
        · rfl
      · apply (h.lives releaseId).stays
        · rw [Governance.stateOf, find?_set_of_ne own]
          rfl
        · rfl

theorem enter_traced (h : Traced s seen) (id : Nat) {job}
    (entered : ∀ w, job = .change w → w.rel.state ≠ .draft) :
    Traced (s.enter id job) fun releaseId =>
      extend (seen releaseId) ((s.enter id job).tables.db.stateOf releaseId) := by
  have tables : (s.enter id job).tables = s.tables := by
    unfold Store.enter
    split <;> rfl
  exact h.unchanged (h.sound.enter id entered) (by rw [tables]) (by rw [tables])

theorem step_traced (h : Traced s seen) {event : Event} (steady : event.steady s = true) :
    Traced (s.step event) fun releaseId =>
      extend (seen releaseId) ((s.step event).tables.db.stateOf releaseId) := by
  cases event with
  | propose p => exact propose_traced h p
  | start id =>
    simp only [Store.step]
    split
    · exact h.unchanged h.sound rfl rfl
    next w given =>
      apply enter_traced h id
      intro _ same
      cases same
      exact write_entered given
  | register id =>
    apply enter_traced h id
    intro _ same
    cases same
  | advance => exact advance_traced h steady
  | abort id => exact h.unchanged (h.sound.abort id) rfl rfl
  | attach =>
    simp only [Store.step]
    split
    · exact h.unchanged h.sound rfl rfl
    · exact h.unchanged (h.sound.keeps rfl rfl rfl fun _ _ found => found) rfl rfl
  | backfill | detach =>
    exact h.unchanged (h.sound.keeps rfl rfl rfl fun _ _ found => found) rfl rfl

theorem sound_empty : Store.Sound {} := by
  refine ⟨fun _ _ _ _ found => ?_, fun _ _ found => ?_, nofun, fun _ _ found => ?_⟩ <;> cases found

theorem run_traced {events} (h : Traced s seen)
    (steady : Meets Store.step (fun s event => event.steady s = true) s events) :
    Traced (run Store.step s events) fun releaseId =>
      visited releaseId s events (seen releaseId) := by
  induction events generalizing s seen with
  | nil => exact h
  | cons _ _ ih => exact ih (step_traced h steady.1) steady.2

/-- In every interleaving in which superseded releases are still in the state
in which they were selected, the committed states of each release are a path
from draft that its timeline records step by step. -/
theorem lifecycle_of_steady (events : List Event)
    (steady : Meets Store.step (fun s event => event.steady s = true) {}
      events) (releaseId : String) :
    Lifecycle (run Store.step {} events).tables releaseId (visited releaseId {} events []) :=
  (run_traced ⟨sound_empty, lifecycle_empty⟩ steady).lives releaseId

/-! ## A promotion between the selection and the update -/

def aloneEvents (tx : Nat) (call : ReleaseCall) : List Event :=
  .start tx auditEnv call :: List.replicate 6 (.advance tx)

def watchEvents (tx : Nat) (releaseId : String) (rule : Artifact) : List Event :=
  .propose {
      releaseId := releaseId
      artifact := rule
      assetIds := []
      createdBy := "ops"
      now := 10 } ::
    (aloneEvents tx (.gate "user" "ops" releaseId rule "builtin") ++
      aloneEvents tx (.startShadow "user" "ops" releaseId rule))

def successionEvents (between : List Event) : List Event :=
  watchEvents 1 "rel1" (plainRule "rule1" "") ++ watchEvents 1 "rel2" (plainRule "rule2" "rule1") ++
    .start 1 auditEnv (.promoteEnforce "ops" "rel2" (plainRule "rule2" "rule1")) ::
    List.replicate 5 (.advance 1) ++ between ++ List.replicate 4 (.advance 1)

/-- The rule is promoted to canary after it was selected in shadow. -/
theorem lifecycle_overtaken :
    let events := successionEvents (aloneEvents 2
      (.promoteCanary "eve" "rel1" (plainRule "rule1" "") 5))
    let tables := (run Store.step {} events).tables
    visited "rel1" {} events [] = [.draft, .signed, .shadow, .canary, .retired] ∧
      (tables.timelineOf "rel1").map TimelineRow.move =
        [(.draft, .signed), (.signed, .shadow), (.shadow, .canary), (.shadow, .retired)] ∧
      ¬ Lifecycle tables "rel1" (visited "rel1" {} events []) := by
  have states : visited "rel1" {} (successionEvents (aloneEvents 2
      (.promoteCanary "eve" "rel1" (plainRule "rule1" "") 5))) [] =
        [.draft, .signed, .shadow, .canary, .retired] := by
    decide +kernel
  have rows : ((run Store.step {} (successionEvents (aloneEvents 2
      (.promoteCanary "eve" "rel1" (plainRule "rule1" "")
        5)))).tables.timelineOf "rel1").map TimelineRow.move =
        [(.draft, .signed), (.signed, .shadow), (.shadow, .canary), (.shadow, .retired)] := by
    decide +kernel
  refine ⟨states, rows, ?_⟩
  intro life
  have recorded := life.rows
  rw [states, rows] at recorded
  exact absurd recorded (by decide)

theorem lifecycle_of_steady_alone :
    visited "rel1" {} (successionEvents []) [] = [.draft, .signed, .shadow, .retired] ∧
      Lifecycle (run Store.step {} (successionEvents [])).tables "rel1"
        (visited "rel1" {} (successionEvents []) []) := by
  refine ⟨by decide +kernel, lifecycle_of_steady (successionEvents []) ?_ _⟩
  decide +kernel

end YuFeng.Brain

import YuFeng.Brain.Audit

/-!
# Release changes, statement by statement

The transactions of the brain run under READ COMMITTED: a statement sees what
is committed when it starts and what its own transaction wrote.  A release is
changed by `SELECT … FOR UPDATE`, an update of its row, an insert into the
timeline and one into the feed.  Then a superseded release is selected
without a lock and updated, whatever its state is by then.  A statement that
finds a row locked waits.

Numbers of timeline and feed rows are drawn when a row is inserted, and rows
are visible when their transaction commits.  The locks on the audit log and on
the generations are taken last and kept to the end; they only delay commits
and are left out, as are the tables that these statements do not read.
-/

namespace YuFeng.Brain

open YuFeng.Library YuFeng.Kernel

structure TimelineRow where
  sequence : Nat
  releaseId : String
  source : ReleaseState
  target : ReleaseState
  actor : String
  reason : String
  deriving DecidableEq

structure FeedRow where
  seq : Nat := 0
  unitId : String
  assetId : String
  releaseId : String
  mode : String
  canaryPercent : Int
  retired : Bool
  retireReason : String
  artifact : Artifact
  deriving DecidableEq

structure Tables where
  db : Governance := {}
  timeline : List TimelineRow := []
  feed : List FeedRow := []

/-- The next statement of a release change, with what the earlier ones
read. -/
inductive Phase where
  | start
  | locked (row : ReleaseRow)
  | written (source : ReleaseState)
  | noted
  | fed
  | picked (old : String) (source : ReleaseState)
  | replaced (old : String) (source : ReleaseState)
  | recorded (old : String)
  | finished
  deriving DecidableEq

inductive Job where
  | change (w : AuditedWrite)
  /-- The registration of a unit with its asset. -/
  | register (unitId assetId : String)

/-- An open transaction, the rows that it locked and those that it wrote. -/
structure Tx where
  job : Job
  phase : Phase := .start
  locks : List String := []
  releases : Table String ReleaseRow := .empty
  unitAssets : List (String × String) := []
  timeline : List TimelineRow := []
  feed : List FeedRow := []

structure Store where
  tables : Tables := {}
  timelineSeq : Nat := 0
  feedSeq : Nat := 0
  txs : Table Nat Tx := .empty

/-! ## Statements -/

def Tx.sees (tx : Tx) (tables : Tables) : Tables where
  db := { tables.db with
    releases := tables.db.releases.overlay tx.releases
    unitAssets := tables.db.unitAssets ++ tx.unitAssets }
  timeline := tables.timeline ++ tx.timeline
  feed := tables.feed ++ tx.feed

def Store.locked (s : Store) (id : Nat) (releaseId : String) : Bool :=
  s.txs.rows.any fun entry =>
    entry.1 ≠ id && entry.2.locks.contains releaseId

inductive Outcome where
  | waits
  | fails
  | goes (tx : Tx) (timelineSeq feedSeq : Nat)
  | commits

def Release.envelope : Release → Artifact
  | .draft _ a _ | .signed _ a | .shadow _ a | .canary _ a _
  | .enforce _ a | .retired _ a _ => a

def releaseModeForState : ReleaseState → String
  | .canary => "canary"
  | .enforce => "enforce"
  | _ => "shadow"

def canaryPercent : Release → Int
  | .canary _ _ percent => percent
  | _ => 0

def publishFeed (db : Governance) (rel : Release) (retired : Bool)
    (reason : RetireReason) : List FeedRow :=
  (db.unitAssets.filter fun pair => db.bound rel.id pair.2).map fun pair =>
    { unitId := pair.1
      assetId := pair.2
      releaseId := rel.id
      mode := if retired then "retired" else releaseModeForState rel.state
      canaryPercent := canaryPercent rel
      retired := retired
      retireReason := (retireReasonString reason).toOption.getD ""
      artifact := rel.envelope }

def backfillUnitLiveFeed (tables : Tables) (unitId assetId : String) : List FeedRow :=
  (tables.db.releases.rows.filter fun row =>
    tables.db.bound row.1 assetId && row.2.state.live && !tables.feed.any fun f =>
        f.unitId = unitId && f.releaseId = row.1 &&
          f.mode = row.2.state.text && !f.retired).map fun row =>
    { unitId := unitId
      assetId := assetId
      releaseId := row.1
      mode := row.2.state.text
      canaryPercent := row.2.canaryPercent
      retired := false
      retireReason := ""
      artifact := row.2.artifact }

def numberRows (feedSeq : Nat) (rows : List FeedRow) : List FeedRow :=
  (rows.zipIdx (feedSeq + 1)).map fun entry =>
    { entry.1 with seq := entry.2 }

def Tx.publish (tx : Tx) (s : Store) (rows : List FeedRow) (phase : Phase) : Outcome :=
  .goes { tx with
      phase := phase
      feed := tx.feed ++ numberRows s.feedSeq rows }
    s.timelineSeq (s.feedSeq + rows.length)

/-- `SELECT state … FOR UPDATE` and the check of the transition. -/
def Tx.lockRow (tx : Tx) (s : Store) (id : Nat) (w : AuditedWrite) : Outcome :=
  if s.locked id w.rel.id then .waits
  else match s.tables.db.releases.find? w.rel.id with
    | none => .fails
    | some row =>
      if releaseTransitionAllowed row.state w.rel.state then
        .goes { tx with phase := .locked row, locks := [w.rel.id] } s.timelineSeq s.feedSeq
      else .fails

def Tx.writeRow (tx : Tx) (s : Store) (w : AuditedWrite) (row : ReleaseRow) : Outcome :=
  match w.rel.write w.now row with
  | .error _ => .fails
  | .ok row' =>
    .goes { tx with
        phase := .written row.state
        releases := tx.releases.set w.rel.id row' }
      s.timelineSeq s.feedSeq

def Tx.noteRow (tx : Tx) (s : Store) (w : AuditedWrite) (source : ReleaseState) : Outcome :=
  if (tx.sees s.tables).timeline.any fun row =>
      row.releaseId = w.rel.id && row.target = w.rel.state then
    .goes { tx with phase := .noted } s.timelineSeq s.feedSeq
  else
    .goes { tx with
        phase := .noted
        timeline := tx.timeline ++ [{
          sequence := s.timelineSeq + 1
          releaseId := w.rel.id
          source := source
          target := w.rel.state
          actor := "system"
          reason := "" }] }
      (s.timelineSeq + 1) s.feedSeq

def Tx.pick (tx : Tx) (s : Store) (w : AuditedWrite) : Outcome :=
  if w.supersedeArtifact = "" then
    .goes { tx with phase := .finished } s.timelineSeq s.feedSeq
  else match (tx.sees s.tables).db.liveOf w.supersedeArtifact with
    | none => .goes { tx with phase := .finished } s.timelineSeq s.feedSeq
    | some entry =>
      .goes { tx with phase := .picked entry.1 entry.2.state } s.timelineSeq s.feedSeq

def Tx.replace (tx : Tx) (s : Store) (id : Nat) (w : AuditedWrite)
    (old : String) (source : ReleaseState) : Outcome :=
  if s.locked id old then .waits
  else match (tx.sees s.tables).db.releases.find? old with
    | none => .fails
    | some row =>
      .goes { tx with
          phase := .replaced old source
          locks := old :: tx.locks
          releases := tx.releases.set old (row.supersededAt w.now) }
        s.timelineSeq s.feedSeq

def Tx.recordReplaced (tx : Tx) (s : Store) (w : AuditedWrite)
    (old : String) (source : ReleaseState) : Outcome :=
  .goes { tx with
      phase := .recorded old
      timeline := tx.timeline ++ [{
        sequence := s.timelineSeq + 1
        releaseId := old
        source := source
        target := .retired
        actor := w.actorId
        reason := "superseded" }] }
    (s.timelineSeq + 1) s.feedSeq

def Tx.next (tx : Tx) (s : Store) (id : Nat) : Outcome :=
  match tx.job, tx.phase with
  | .change w, .start => tx.lockRow s id w
  | .change w, .locked row => tx.writeRow s w row
  | .change w, .written source => tx.noteRow s w source
  | .change w, .noted =>
    tx.publish s (if w.feed then publishFeed (tx.sees s.tables).db w.rel
      w.retired w.reason else []) .fed
  | .change w, .fed => tx.pick s w
  | .change w, .picked old source => tx.replace s id w old source
  | .change w, .replaced old source => tx.recordReplaced s w old source
  | .change _, .recorded old =>
    match (tx.sees s.tables).db.releases.find? old with
    | none => .fails
    | some row =>
      tx.publish s (publishFeed (tx.sees s.tables).db (row.release old) true .superseded) .finished
  | .register unitId assetId, .start =>
    .goes { tx with
        phase := .fed
        unitAssets :=
          if s.tables.db.unitAssets.contains (unitId, assetId) then []
          else [(unitId, assetId)] }
      s.timelineSeq s.feedSeq
  | .register unitId assetId, .fed =>
    tx.publish s (backfillUnitLiveFeed (tx.sees s.tables) unitId assetId) .finished
  | _, .finished => .commits
  | .register _ _, _ => .fails

def Outcome.Fits (s : Store) (tx : Tx) : Outcome → Prop
  | .waits | .fails => True
  | .commits => tx.phase = .finished
  | .goes tx' _ feedSeq =>
    ∃ rows, tx'.feed = tx.feed ++ numberRows s.feedSeq rows ∧ feedSeq = s.feedSeq + rows.length

theorem Outcome.Fits.quiet {s tx tx' timelineSeq} (feed : tx'.feed = tx.feed) :
    (Outcome.goes tx' timelineSeq s.feedSeq).Fits s tx := by
  refine ⟨[], ?_, rfl⟩
  rw [feed]
  exact (List.append_nil _).symm

theorem next_fits {s id} {tx : Tx} {outcome : Outcome} (h : tx.next s id = outcome) :
    outcome.Fits s tx := by
  subst h
  unfold Tx.next
  split
  · unfold Tx.lockRow
    repeat' split
    all_goals first | trivial | exact .quiet rfl
  · unfold Tx.writeRow
    split
    · trivial
    · exact .quiet rfl
  · unfold Tx.noteRow
    split <;> exact .quiet rfl
  · exact ⟨_, rfl, rfl⟩
  · unfold Tx.pick
    repeat' split
    all_goals exact .quiet rfl
  · unfold Tx.replace
    repeat' split
    all_goals first | trivial | exact .quiet rfl
  · exact .quiet rfl
  · split
    · trivial
    · exact ⟨_, rfl, rfl⟩
  · exact .quiet rfl
  · exact ⟨_, rfl, rfl⟩
  · assumption
  · trivial

/-! ## Interleavings -/

inductive Event where
  | propose (p : Proposal)
  | start (tx : Nat) (env : Env) (call : ReleaseCall)
  | register (tx : Nat) (unitId assetId : String)
  | advance (tx : Nat)
  /-- A fault, or the victim of a deadlock. -/
  | abort (tx : Nat)
  /-- `AttachUnit` binds and backfills in two transactions. -/
  | attach (unitId assetId : String)
  | backfill (unitId assetId : String)
  | detach (unitId assetId : String)

def Store.enter (s : Store) (id : Nat) (job : Job) : Store :=
  match s.txs.find? id with
  | some _ => s
  | none => { s with txs := s.txs.set id { job := job } }

def Store.settle (s : Store) (id : Nat) (tx : Tx) : Outcome → Store
  | .waits => s
  | .fails => { s with txs := s.txs.erase id }
  | .goes tx' timelineSeq feedSeq =>
    { s with
      timelineSeq := timelineSeq
      feedSeq := feedSeq
      txs := s.txs.set id tx' }
  | .commits => { s with tables := tx.sees s.tables, txs := s.txs.erase id }

def Store.step (s : Store) : Event → Store
  | .propose p =>
    { s with tables := { s.tables with
        db := (propose p s.tables.db).toOption.getD s.tables.db } }
  | .start id env call =>
    match call.write env with
    | none => s
    | some w => s.enter id (.change w)
  | .register id unitId assetId => s.enter id (.register unitId assetId)
  | .advance id =>
    match s.txs.find? id with
    | none => s
    | some tx => s.settle id tx (tx.next s id)
  | .abort id => { s with txs := s.txs.erase id }
  | .attach unitId assetId =>
    if s.tables.db.unitAssets.contains (unitId, assetId) then s
    else { s with tables := { s.tables with
      db := { s.tables.db with
        unitAssets := s.tables.db.unitAssets ++ [(unitId, assetId)] } } }
  | .backfill unitId assetId =>
    let rows := backfillUnitLiveFeed s.tables unitId assetId
    { s with
      feedSeq := s.feedSeq + rows.length
      tables := { s.tables with
        feed := s.tables.feed ++ numberRows s.feedSeq rows } }
  | .detach unitId assetId =>
    { s with tables := { s.tables with
      db := { s.tables.db with
        unitAssets := s.tables.db.unitAssets.filter fun pair =>
          !(pair.1 = unitId && pair.2 = assetId) } } }

end YuFeng.Brain

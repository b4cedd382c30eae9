import YuFeng.Brain.Promotion

/-!
# What transactions do to rows and evidence

A committed change rewrites the row of its release and may retire one more
release.  It leaves counters and feedback as they are, and at most starts the
guard of its own release.  A heartbeat touches the counters of its unit and
forgets guards.
-/

namespace YuFeng.Brain

open YuFeng.Library YuFeng.Kernel List Table

variable {db db' : Governance} {releaseId : String}

def Governance.guardBaseline (db : Governance) (releaseId : String) : GuardRow where
  requests := total (·.requests) (db.countersOf releaseId)
  blocks := total (·.blocks) (db.countersOf releaseId)
  denies := countDenies db releaseId
  consecutiveBad := 0

theorem ensureGuardBaseline_find? (releaseId other db) :
    (ensureGuardBaseline releaseId db).guards.find? other =
      if other = releaseId then
        some ((db.guards.find? releaseId).getD (db.guardBaseline releaseId))
      else db.guards.find? other := by
  unfold ensureGuardBaseline
  split
  next row found =>
    split
    next same =>
      rw [same, found]
      rfl
    · rfl
  next missing =>
    split
    next same =>
      rw [same, find?_set_self, missing]
      rfl
    next different => exact find?_set_of_ne different ..

structure SameEvidence (db db' : Governance) : Prop where
  counters : db'.counters = db.counters
  denies : db'.denies = db.denies
  units : db'.units = db.units
  unitAssets : db'.unitAssets = db.unitAssets

theorem ensureGuardBaseline_evidence (releaseId db) :
    SameEvidence db (ensureGuardBaseline releaseId db) := by
  obtain ⟨_, same⟩ := ensureGuardBaseline_tables releaseId db
  rw [same]
  exact ⟨rfl, rfl, rfl, rfl⟩

def ReleaseState.guarded (state : ReleaseState) : Bool := state = .canary || state = .enforce

theorem persistRelease_evidence {now rel} (h : persistRelease now rel db = .ok db') :
    SameEvidence db db' ∧ ∀ id, db'.guards.find? id =
      if rel.state.guarded then
        (ensureGuardBaseline rel.id db).guards.find? id
      else db.guards.find? id := by
  unfold persistRelease at h
  split at h
  · simp at h
  · simp only [seq_ok, pure_ok] at h
    obtain ⟨_, -, row, -, rfl⟩ := h
    have guards : ∀ id, (ensureGuardBaseline rel.id
        { db with releases := db.releases.set rel.id row }).guards.find? id =
        (ensureGuardBaseline rel.id db).guards.find? id := by
      intro _
      rw [ensureGuardBaseline_find?, ensureGuardBaseline_find?]
      rfl
    have kept := ensureGuardBaseline_evidence rel.id
      { db with releases := db.releases.set rel.id row }
    cases rel with
    | canary id a percent | enforce id a =>
      exact ⟨⟨kept.counters, kept.denies, kept.units, kept.unitAssets⟩, guards⟩
    | _ => exact ⟨⟨rfl, rfl, rfl, rfl⟩, fun _ => rfl⟩

theorem retireOld_evidence (w : ReleaseWrite) (db) :
    ∃ releases, w.retireOld db = { db with releases := releases } := by
  unfold ReleaseWrite.retireOld supersede
  split
  · exact ⟨db.releases, rfl⟩
  · split
    · exact ⟨db.releases, rfl⟩
    · exact ⟨_, rfl⟩

def ReleaseRow.supersededAt (row : ReleaseRow) (now : Int) : ReleaseRow :=
  { row with
    state := .retired, retiredAt := some now
    retireReason := "superseded", updatedAt := now }

theorem retireOld_find? (w : ReleaseWrite) (db : Governance) (id) :
    (w.retireOld db).releases.find? id = db.releases.find? id ∨
      ∃ row, db.releases.find? id = some row ∧
        (w.retireOld db).releases.find? id = some (row.supersededAt w.now) := by
  unfold ReleaseWrite.retireOld supersede
  split
  · exact .inl rfl
  · split
    · exact .inl rfl
    next old row chosen =>
      by_cases here : id = old
      · subst here
        have present := (mem_filter.mp (highest_mem chosen)).1
        exact .inr ⟨row, mem_iff_find?.mp present, find?_set_self ..⟩
      · exact .inl (find?_set_of_ne here ..)

structure Committed (w : ReleaseWrite) (db db' : Governance) : Prop where
  evidence : SameEvidence db db'
  guards : ∀ id, db'.guards.find? id =
    if w.rel.state.guarded then
      (ensureGuardBaseline w.rel.id db).guards.find? id
    else db.guards.find? id
  rows : ∃ row written, db.releases.find? w.rel.id = some row ∧
    releaseTransitionAllowed row.state w.rel.state = true ∧
    w.rel.write w.now row = .ok written ∧ ∀ id, db'.releases.find? id =
          (db.releases.set w.rel.id written).find? id ∨
        ∃ old, (db.releases.set w.rel.id written).find? id = some old ∧
          db'.releases.find? id = some (old.supersededAt w.now)

theorem commitReleaseChange_committed {w} (h : commitReleaseChange w db = .ok db') :
    Committed w db db' := by
  obtain ⟨mid, persisted, published⟩ := commitReleaseChange_ok.mp h
  obtain ⟨row, written, found, allowed, wrote, rewrites⟩ := persistRelease_ok persisted
  obtain ⟨evidence, guards⟩ := persistRelease_evidence persisted
  obtain ⟨_, retired⟩ := retireOld_evidence w mid
  have rows := retireOld_find? w mid
  rw [rewrites.releases] at rows
  have adds : ∃ gens, db' =
      { w.retireOld mid with
        generations := (w.retireOld mid).generations ++ gens } := by
    cases feeds : w.feed with
    | false =>
      rw [feeds] at published
      cases published
      exact ⟨[], by simp⟩
    | true =>
      rw [feeds] at published
      obtain ⟨gens, same, -⟩ := publish_all_adds published
      exact ⟨gens, same⟩
  obtain ⟨_, rfl⟩ := adds
  refine ⟨?_, ?_, row, written, found, allowed, wrote, rows⟩
  · rw [retired]
    exact ⟨evidence.counters, evidence.denies, evidence.units, evidence.unitAssets⟩
  · rw [retired]
    exact guards

theorem Committed.row {w} (h : Committed w db db') {id row'}
    (found : db'.releases.find? id = some row') (present : row'.state ≠ .retired) :
    id ≠ w.rel.id ∧ db.releases.find? id = some row' ∨
      id = w.rel.id ∧ ∃ row, db.releases.find? id = some row ∧
        releaseTransitionAllowed row.state w.rel.state = true ∧
        w.rel.write w.now row = .ok row' := by
  obtain ⟨row, written, before, allowed, wrote, rows⟩ := h.rows
  have kept : (db.releases.set w.rel.id written).find? id = some row' := by
    rcases rows id with same | ⟨_, -, retired⟩
    · rw [← same]
      exact found
    · rw [retired] at found
      cases found
      exact absurd rfl present
  rcases find?_set_some kept with ⟨rfl, rfl⟩ | ⟨here, kept⟩
  · exact .inr ⟨rfl, row, before, allowed, wrote⟩
  · exact .inl ⟨here, kept⟩

def Change.guardAfter (db : Governance) (id : String) : Change → Option GuardRow
  | .commit w =>
    if w.rel.state.guarded then
      (ensureGuardBaseline w.rel.id db).guards.find? id
    else db.guards.find? id
  | _ => db.guards.find? id

theorem apply_evidence {change : Change} (h : change.apply db = .ok db') :
    SameEvidence db db' ∧ ∀ id, db'.guards.find? id = change.guardAfter db id := by
  cases change with
  | propose =>
    simp only [Change.apply, propose, seq_ok, pure_ok] at h
    obtain ⟨_, -, rfl⟩ := h
    exact ⟨⟨rfl, rfl, rfl, rfl⟩, fun _ => rfl⟩
  | setting =>
    simp only [Change.apply, writeSetting, seq_ok] at h
    obtain ⟨_, -, published⟩ := h
    obtain ⟨_, rfl, -⟩ := publish_adds published
    exact ⟨⟨rfl, rfl, rfl, rfl⟩, fun _ => rfl⟩
  | commit =>
    have committed := commitReleaseChange_committed h
    exact ⟨committed.evidence, committed.guards⟩

theorem step_evidence (change : Change) (db) : SameEvidence db (change.step db) := by
  unfold Change.step
  cases applied : change.apply db with
  | error => exact ⟨rfl, rfl, rfl, rfl⟩
  | ok => exact (apply_evidence applied).1

theorem countDenies_congr (h : db'.denies = db.denies) (releaseId) :
    countDenies db' releaseId = countDenies db releaseId := by
  rw [countDenies, countDenies, h]

theorem sumCounters_congr (h : db'.counters = db.counters) (releaseId mode) :
    sumCounters db' releaseId mode = sumCounters db releaseId mode := by
  rw [sumCounters, sumCounters, Governance.countersOf, Governance.countersOf, h]

/-! ## Feedback -/

theorem denyFeedback_ok {eventId actor} (h : denyFeedback releaseId eventId actor db = .ok db') :
    ∃ denies, db' = { ensureGuardBaseline releaseId db with
        denies := denies } ∧
      (denies = db.denies ∨ denies = db.denies.set (releaseId, eventId) actor) := by
  obtain ⟨_, baseline⟩ := ensureGuardBaseline_tables releaseId db
  unfold denyFeedback at h
  split at h
  · simp at h
  · simp only [seq_ok, pure_ok] at h
    obtain ⟨_, -, rfl⟩ := h
    rw [baseline]
    split
    · exact ⟨db.denies, rfl, .inl rfl⟩
    · exact ⟨_, rfl, .inr rfl⟩

end YuFeng.Brain

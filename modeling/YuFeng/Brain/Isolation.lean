import YuFeng.Brain.Evidence

/-!
# Isolation of evidence

Heartbeats write three tables: units, counters and guards.  Everything else
is the core of the database, and release changes depend on the core alone.
-/

namespace YuFeng.Brain

open YuFeng.Library YuFeng.Kernel List Table

variable {db db' : Governance} {msg : HeartbeatRequest}

/-! ## The core -/

def Governance.core (db : Governance) : Governance :=
  { db with counters := .empty, guards := .empty, units := .empty }

theorem exists_of_core (h : db.core = db'.core) : ∃ counters guards units, db' =
      { db with counters := counters, guards := guards, units := units } := by
  refine ⟨db'.counters, db'.guards, db'.units, ?_⟩
  cases db
  cases db'
  simp only [Governance.core, Governance.mk.injEq] at h ⊢
  simp [h]

structure SameTables (db db' : Governance) : Prop where
  releases : db.releases = db'.releases
  releaseAssets : db.releaseAssets = db'.releaseAssets
  generations : db.generations = db'.generations
  denies : db.denies = db'.denies
  unitAssets : db.unitAssets = db'.unitAssets

theorem tables_of_core (h : db.core = db'.core) : SameTables db db' := by
  obtain ⟨_, _, _, rfl⟩ := exists_of_core h
  exact ⟨rfl, rfl, rfl, rfl, rfl⟩

theorem publish_respects (signing now genId assetId rollback) :
    Respects Governance.core (publishAssetGeneration signing now genId assetId rollback) := by
  intro db _ same
  obtain ⟨_, _, _, rfl⟩ := exists_of_core same
  unfold publishAssetGeneration
  cases signing with
  | none => rfl
  | some signer =>
    by_cases unnamed : assetId = ""
    · simp only [unnamed, if_true]
      rfl
    · simp only [unnamed, if_false]
      change ((signer.sign (db.nextGeneration now genId assetId rollback)).mapError _ >>= _).map _ =
        ((signer.sign (db.nextGeneration now genId assetId rollback)).mapError _ >>= _).map _
      cases signer.sign (db.nextGeneration now genId assetId rollback) with
      | error => rfl
      | ok =>
        change (require (db.generations.all _) .unknown _ >>= _).map _ =
          (require (db.generations.all _) .unknown _ >>= _).map _
        cases db.generations.all fun g => g.generationId ≠ genId with
        | false | true => rfl

theorem core_ensureGuardBaseline (releaseId db) :
    (ensureGuardBaseline releaseId db).core = db.core := by
  obtain ⟨_, same⟩ := ensureGuardBaseline_tables releaseId db
  rw [same]
  rfl

theorem persistRelease_respects (now rel) : Respects Governance.core (persistRelease now rel) := by
  intro db _ same
  obtain ⟨_, _, _, rfl⟩ := exists_of_core same
  unfold persistRelease
  dsimp only
  cases db.releases.find? rel.id with
  | none => rfl
  | some row =>
    dsimp only
    cases releaseTransitionAllowed row.state rel.state with
    | false => rfl
    | true =>
      cases rel.write now row with
      | error => rfl
      | ok =>
        cases rel with
        | canary id a percent | enforce id a =>
          apply congrArg Except.ok
          rw [core_ensureGuardBaseline, core_ensureGuardBaseline]
          rfl
        | _ => rfl

theorem retireOld_core (w : ReleaseWrite) (same : db.core = db'.core) :
    (w.retireOld db).core = (w.retireOld db').core := by
  obtain ⟨counters, guards, units, rfl⟩ := exists_of_core same
  unfold ReleaseWrite.retireOld supersede
  split
  · rfl
  · have live : ({ db with
        counters := counters, guards := guards
        units := units } : Governance).liveOf w.supersedeArtifact =
          db.liveOf w.supersedeArtifact := rfl
    rw [live]
    cases db.liveOf w.supersedeArtifact with
    | none | some => rfl

theorem commit_respects (w) : Respects Governance.core (commitReleaseChange w) := by
  apply (persistRelease_respects w.now w.rel).seq
  intro db db' same
  have retired := retireOld_core w same
  have assets : releaseAssetIDs (w.retireOld db) w.rel.id =
      releaseAssetIDs (w.retireOld db') w.rel.id := by
    rw [releaseAssetIDs, releaseAssetIDs, (tables_of_core retired).releaseAssets]
  cases w.feed with
  | false => exact congrArg Except.ok retired
  | true =>
    simp only [if_true]
    rw [assets]
    have each : ∀ assetId, Respects Governance.core
        (publishAssetGeneration w.signing w.now (w.genId assetId) assetId
          (w.retired && w.reason = .rollback)) :=
      fun assetId => publish_respects _ _ _ _ _
    exact Respects.foldlM each _ _ _ retired

theorem change_respects (change : Change) : Respects Governance.core change.apply := by
  cases change with
  | propose p =>
    intro db _ same
    obtain ⟨_, _, _, rfl⟩ := exists_of_core same
    simp only [Change.apply, propose]
    cases (db.releases.find? p.releaseId).isNone with
    | false | true => rfl
  | setting w =>
    intro _ _ same
    obtain ⟨_, _, _, rfl⟩ := exists_of_core same
    simp only [Change.apply, writeSetting]
    cases w.signing.isSome with
    | false => rfl
    | true => exact publish_respects _ _ _ _ _ _ _ rfl
  | commit w => exact commit_respects w

theorem denyFeedback_respects (releaseId eventId actor) :
    Respects Governance.core (denyFeedback releaseId eventId actor) := by
  intro db _ same
  obtain ⟨counters, guards, units, rfl⟩ := exists_of_core same
  unfold denyFeedback
  dsimp only
  cases db.releases.find? releaseId with
  | none => rfl
  | some row =>
    dsimp only
    cases row.state = .canary || row.state = .enforce with
    | false => rfl
    | true =>
      obtain ⟨_, left⟩ := ensureGuardBaseline_tables releaseId db
      obtain ⟨_, right⟩ := ensureGuardBaseline_tables releaseId
        { db with counters := counters, guards := guards, units := units }
      rw [left, right]
      apply congrArg Except.ok
      dsimp only
      cases db.denies.find? (releaseId, eventId) with
      | none | some => rfl

/-! ## Counters of one release -/

def Governance.reported (db : Governance) (releaseId : String) :
    Table (String × String) CounterRow :=
  db.counters.select fun key => key.2 = releaseId

theorem find?_reported (db : Governance) (unitId releaseId) :
    (db.reported releaseId).find? (unitId, releaseId) = db.counters.find? (unitId, releaseId) := by
  rw [Governance.reported, find?_select, if_pos (by simp)]

theorem upserts_select (unitId releaseId generation) (cs : List ReportedCounter)
    (counters : Table (String × String) CounterRow) :
    (cs.foldl (upsertCounter unitId generation) counters).select (fun key => key.2 = releaseId) =
      (cs.filter (·.releaseId = releaseId)).foldl (upsertCounter unitId generation)
        (counters.select fun key => key.2 = releaseId) := by
  induction cs generalizing counters with
  | nil => rfl
  | cons c _ ih =>
    rw [foldl_cons, ih]
    by_cases here : c.releaseId = releaseId
    · subst here
      rw [filter_cons_of_pos (by simp), foldl_cons]
      congr 1
      rw [upsertCounter, select_set_of_pos (by simp), upsertCounter, find?_select, if_pos (by simp)]
    · rw [filter_cons_of_neg (by simp [here])]
      congr 1
      exact select_set_of_neg (by simp [here]) _

/-! ## Databases that look alike -/

/-- The databases differ at most in what a unit did outside a release. -/
structure AlikeDb (unitId releaseId : String) (db db' : Governance) :
    Prop where
  core : db.core = db'.core
  reported : db.reported releaseId = db'.reported releaseId
  guard : db.guards.find? releaseId = db'.guards.find? releaseId
  keys : db.units.rows.map Prod.fst = db'.units.rows.map Prod.fst
  epochs : ∀ other, other ≠ unitId → db.units.find? other = db'.units.find? other
  unreported : db.counters.find? (unitId, releaseId) = none

section Alike

variable {unitId releaseId : String} {db db' : Governance}

section

variable (h : AlikeDb unitId releaseId db db')

include h

theorem AlikeDb.countersOf : db.countersOf releaseId = db'.countersOf releaseId :=
  congrArg Table.rows h.reported

theorem AlikeDb.stored (other) :
    db.counters.find? (other, releaseId) = db'.counters.find? (other, releaseId) := by
  rw [← find?_reported, ← find?_reported, h.reported]

theorem AlikeDb.countDenies : Brain.countDenies db releaseId = Brain.countDenies db' releaseId :=
  countDenies_congr (tables_of_core h.core).denies _

theorem AlikeDb.baseline (other) : (ensureGuardBaseline other db).guards.find? releaseId =
      (ensureGuardBaseline other db').guards.find? releaseId := by
  rw [ensureGuardBaseline_find?, ensureGuardBaseline_find?]
  split
  next same =>
    subst same
    rw [h.guard, Governance.guardBaseline, Governance.guardBaseline, h.countersOf, h.countDenies]
  · exact h.guard

end

theorem units_report (msg) (db : Governance) :
    (db.report msg).units.rows.map Prod.fst = db.units.rows.map Prod.fst := by
  rw [Governance.report]
  dsimp only
  split
  next epoch found => exact keys_set found _
  · rfl

theorem report_silent (h : AlikeDb unitId releaseId db db') (own : msg.unitId = unitId)
    (other : ∀ c ∈ msg.releaseCounters, c.releaseId ≠ releaseId) :
    AlikeDb unitId releaseId (db.report msg) db' where
  core := h.core
  reported := by
    have none : msg.releaseCounters.filter (·.releaseId = releaseId) = [] := by
      rw [filter_eq_nil_iff]
      simpa using other
    refine Eq.trans ?_ h.reported
    refine (upserts_select msg.unitId releaseId msg.generation
      msg.releaseCounters db.counters).trans ?_
    rw [none]
    rfl
  guard := by
    rw [← h.guard, Governance.report]
    dsimp only
    split
    · rw [Governance.forgetGuards, find?_select, own, h.unreported]
      rfl
    · rfl
  keys := (units_report msg db).trans h.keys
  epochs other different := by
    rw [← h.epochs other different, Governance.report]
    dsimp only
    split
    · rw [own]
      exact find?_set_of_ne different ..
    · rfl
  unreported := by
    refine Eq.trans ?_ h.unreported
    exact upserts_find?_other (.inr other)

theorem report_alike (h : AlikeDb unitId releaseId db db') (foreign : msg.unitId ≠ unitId) :
    AlikeDb unitId releaseId (db.report msg) (db'.report msg) where
  core := h.core
  reported := by
    refine (upserts_select msg.unitId releaseId msg.generation
      msg.releaseCounters db.counters).trans ?_
    refine Eq.trans ?_ (upserts_select msg.unitId releaseId msg.generation
      msg.releaseCounters db'.counters).symm
    exact congrArg (fun counters => List.foldl _ counters _) h.reported
  guard := by
    rw [Governance.report, Governance.report, h.epochs _ foreign]
    dsimp only
    split
    · rw [Governance.forgetGuards, find?_select,
        Governance.forgetGuards, find?_select, h.stored, h.guard]
    · exact h.guard
  keys := by
    rw [units_report, units_report]
    exact h.keys
  epochs other different := by
    rw [Governance.report, Governance.report, h.epochs _ foreign]
    dsimp only
    split
    · by_cases here : other = msg.unitId
      · subst here
        rw [find?_set_self, find?_set_self]
      · rw [find?_set_of_ne here, find?_set_of_ne here]
        exact h.epochs other different
    · exact h.epochs other different
  unreported := by
    refine Eq.trans ?_ h.unreported
    exact upserts_find?_other (.inl (Ne.symm foreign))

theorem heartbeat_transfer {after} (h : db.core = db'.core) (left : heartbeat msg db = .ok after) :
    heartbeat msg db' = .ok (db'.report msg) := by
  obtain ⟨_, _, _, rfl⟩ := exists_of_core h
  simp only [heartbeat, seq_ok] at left ⊢
  obtain ⟨u, first, v, second, w, third, x, fourth, -⟩ := left
  exact ⟨u, first, v, second, w, third, x, fourth, rfl⟩

section

variable (h : AlikeDb unitId releaseId db db')

include h

theorem heartbeat_silent (own : msg.unitId = unitId)
    (other : ∀ c ∈ msg.releaseCounters, c.releaseId ≠ releaseId) :
    AlikeDb unitId releaseId ((heartbeat msg db).toOption.getD db) db' := by
  cases applied : heartbeat msg db with
  | error => exact h
  | ok =>
    rw [heartbeat_ok applied]
    exact report_silent h own other

theorem heartbeat_alike (foreign : msg.unitId ≠ unitId) :
    AlikeDb unitId releaseId ((heartbeat msg db).toOption.getD db)
      ((heartbeat msg db').toOption.getD db') := by
  cases left : heartbeat msg db with
  | error =>
    cases right : heartbeat msg db' with
    | error => exact h
    | ok =>
      rw [heartbeat_transfer h.core.symm right] at left
      contradiction
  | ok =>
    rw [heartbeat_transfer h.core left, heartbeat_ok left]
    exact report_alike h foreign

theorem AlikeDb.of_core {after after'} (core : after.core = after'.core)
    (counters : after.counters = db.counters) (counters' : after'.counters = db'.counters)
    (units : after.units = db.units) (units' : after'.units = db'.units)
    (guard : after.guards.find? releaseId = after'.guards.find? releaseId) :
    AlikeDb unitId releaseId after after' where
  core := core
  reported := by
    rw [Governance.reported, counters, Governance.reported, counters']
    exact h.reported
  guard := guard
  keys := by
    rw [units, units']
    exact h.keys
  epochs := by
    rw [units, units']
    exact h.epochs
  unreported := by
    rw [counters]
    exact h.unreported

theorem AlikeDb.guardAfter (change : Change) :
    change.guardAfter db releaseId = change.guardAfter db' releaseId := by
  cases change with
  | propose | setting => exact h.guard
  | commit w =>
    rw [Change.guardAfter, Change.guardAfter]
    split
    · exact h.baseline w.rel.id
    · exact h.guard

theorem change_alike (change : Change) :
    AlikeDb unitId releaseId (change.step db) (change.step db') := by
  have kept := step_evidence change db
  have kept' := step_evidence change db'
  refine h.of_core ((change_respects change).commit h.core) kept.counters
    kept'.counters kept.units kept'.units ?_
  unfold Change.step
  rcases (change_respects change).cases h.core with
    ⟨_, left, right⟩ | ⟨_, _, left, right, -⟩
  · rw [left, right]
    exact h.guard
  · rw [left, right]
    exact ((apply_evidence left).2 releaseId).trans ((h.guardAfter change).trans
        ((apply_evidence right).2 releaseId).symm)

theorem deny_alike (denied eventId actor) :
    AlikeDb unitId releaseId ((denyFeedback denied eventId actor db).toOption.getD db)
      ((denyFeedback denied eventId actor db').toOption.getD db') := by
  have respects := denyFeedback_respects denied eventId actor
  have core := respects.commit h.core
  rcases respects.cases h.core with
    ⟨_, left, right⟩ | ⟨_, _, left, right, -⟩
  · rw [left, right]
    exact h
  · rw [left, right] at core ⊢
    obtain ⟨_, rfl, -⟩ := denyFeedback_ok left
    obtain ⟨_, rfl, -⟩ := denyFeedback_ok right
    have kept := ensureGuardBaseline_evidence denied db
    have kept' := ensureGuardBaseline_evidence denied db'
    exact h.of_core core kept.counters kept'.counters kept.units kept'.units (h.baseline denied)

theorem window_alike {id guard guard'} (same : id = releaseId → guard = guard') :
    AlikeDb unitId releaseId
      { db with guards := db.guards.set id guard }
      { db' with guards := db'.guards.set id guard' } := by
  refine h.of_core h.core rfl rfl rfl rfl ?_
  by_cases here : id = releaseId
  · rw [same here, here]
    exact (find?_set_self ..).trans (find?_set_self ..).symm
  · refine (find?_set_of_ne (Ne.symm here) ..).trans ?_
    exact h.guard.trans (find?_set_of_ne (Ne.symm here) ..).symm

theorem answer_alike (demo now reads) (query : Query) :
    query.answer demo now db releaseId reads = query.answer demo now db' releaseId reads := by
  have tables := tables_of_core h.core
  cases query with
  | listed | live => simp only [Query.answer, tables.releases]
  | skip => simp only [Query.answer, skipAutoPromote, tables.releases]
  | units =>
    obtain ⟨_, _, _, rfl⟩ := exists_of_core h.core
    rfl
  | started => simp only [Query.answer, releaseTime, tables.releases]
  | excluded =>
    simp [Query.answer, proposerUnitIDs, tables.releases, tables.unitAssets, h.keys]
  | requests =>
    simp [Query.answer, sumCountersExcept, h.countersOf]
  | denies => simp only [Query.answer, h.countDenies]
  | release => simp only [Query.answer, loadRelease, tables.releases]
  | totals | quality =>
    simp [Query.answer, Governance.countersIn, h.countersOf]
  | previous => simp only [Query.answer, h.guard]

end

end Alike

end YuFeng.Brain

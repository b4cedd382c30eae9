import YuFeng.Brain.EnforceGate

/-!
# Superseding an artifact

An artifact can name the artifact that it supersedes.  The handler of
`PromoteEnforce` hands that name to the transaction, which retires the live
release of the named artifact that was written last; the scheduler commits
the same transition without it.  Other releases of the artifact, and those
that are signed but not watched yet, stay as they are.
-/

namespace YuFeng.Brain

open YuFeng.Library YuFeng.Kernel Table

variable {db db' : Governance} {w : ReleaseWrite} {id : String} {a : Artifact}

def ReleaseState.current : ReleaseState → Bool
  | .draft | .retired => false
  | _ => true

/-- Another release of the artifact is current on an asset of the release. -/
def Governance.rival (db : Governance) (id artifactId other : String) : Bool :=
  other ≠ id && (db.releases.find? other).any (fun row =>
      row.artifactId = artifactId && row.state.current) &&
    db.releaseAssets.any fun pair => pair.1 = id && db.bound other pair.2

def Superseded (db : Governance) (id artifactId : String) : Prop :=
  ∀ other, db.rival id artifactId other = false

def ReleaseRow.enforcedAs (row : ReleaseRow) (now : Int) (a : Artifact) : ReleaseRow :=
  { row with
    state := .enforce, artifactId := a.id, artifact := a
    enforcedAt := row.enforcedAt.or (some now), updatedAt := now }

def Governance.enforcing (db : Governance) (now : Int) (id : String) (a : Artifact) : Governance :=
  match db.releases.find? id with
  | none => db
  | some row =>
    { db with releases := db.releases.set id (row.enforcedAs now a) }

/-- The live release of the superseded artifact that was written last, when
the successor is in force. -/
def Governance.lastLive (db : Governance) (now : Int) (id : String)
    (a : Artifact) : Option String :=
  ((db.enforcing now id a).liveOf a.supersedes).map Prod.fst

/-! ## What the transaction changes -/

theorem retireOld_releases (w : ReleaseWrite) {other} (same : db.releases = other.releases) :
    (w.retireOld db).releases = (w.retireOld other).releases := by
  unfold ReleaseWrite.retireOld supersede Governance.liveOf
  rw [same]
  split
  · exact same
  · split
    · exact same
    · rfl

theorem commit_tables (h : commitReleaseChange w db = .ok db') :
    ∃ row written, db.releases.find? w.rel.id = some row ∧
      releaseTransitionAllowed row.state w.rel.state = true ∧ w.rel.write w.now row = .ok written ∧
      db'.releases = (w.retireOld
        { db with releases := db.releases.set w.rel.id written }).releases ∧
      db'.releaseAssets = db.releaseAssets := by
  obtain ⟨mid, persisted, published⟩ := commitReleaseChange_ok.mp h
  obtain ⟨row, written, found, allowed, wrote, rewrites⟩ := persistRelease_ok persisted
  have tables : db'.releases = (w.retireOld mid).releases ∧
      db'.releaseAssets = (w.retireOld mid).releaseAssets := by
    cases feeds : w.feed with
    | false =>
      rw [feeds] at published
      cases published
      exact ⟨rfl, rfl⟩
    | true =>
      rw [feeds] at published
      obtain ⟨_, rfl, -⟩ := publish_all_adds published
      exact ⟨rfl, rfl⟩
  refine ⟨row, written, found, allowed, wrote, ?_, ?_⟩
  · rw [tables.1]
    exact retireOld_releases w rewrites.releases
  · rw [tables.2, (retireOld_tables w mid).2, rewrites.releaseAssets]

theorem commit_enforcing (enforces : w.rel = .enforce id a)
    (h : commitReleaseChange w db = .ok db') :
    db'.releases = (w.retireOld (db.enforcing w.now id a)).releases ∧
      db'.releaseAssets = db.releaseAssets := by
  obtain ⟨row, written, found, -, wrote, releases, assets⟩ := commit_tables h
  rw [enforces] at found wrote releases
  have same : row.enforcedAs w.now a = written := Except.ok.inj wrote
  rw [releases, ← same, Governance.enforcing, show db.releases.find? id = some row from found]
  exact ⟨rfl, assets⟩

theorem enforcing_find?_of_ne {other} (different : other ≠ id) (db : Governance) (now a) :
    (db.enforcing now id a).releases.find? other = db.releases.find? other := by
  unfold Governance.enforcing
  split
  · rfl
  · exact find?_set_of_ne different ..

theorem supersede_find? (now artifactId other db) :
    (supersede now artifactId db).releases.find? other =
      if (db.liveOf artifactId).map Prod.fst = some other then
        (db.releases.find? other).map (·.supersededAt now)
      else db.releases.find? other := by
  unfold supersede
  cases picked : db.liveOf artifactId with
  | none => simp
  | some entry =>
    obtain ⟨id, _⟩ := entry
    by_cases here : id = other
    · subst here
      have present := (List.mem_filter.mp (highest_mem picked)).1
      rw [find?_set_self, mem_iff_find?.mp present]
      simp [ReleaseRow.supersededAt]
    · rw [find?_set_of_ne (Ne.symm here)]
      simp [here]

theorem rival_after (enforces : w.rel = .enforce id a) (named : w.supersedeArtifact = "" ∨
      w.supersedeArtifact = a.supersedes) (h : commitReleaseChange w db = .ok db') (other) :
    db'.rival id a.supersedes other = true ↔ db.rival id a.supersedes other = true ∧
        (w.supersedeArtifact = "" ∨ db.lastLive w.now id a ≠ some other) := by
  obtain ⟨releases, assets⟩ := commit_enforcing enforces h
  have bindings := bound_of_releaseAssets assets
  unfold Governance.rival
  rw [releases, assets, bindings]
  by_cases own : other = id
  · simp [own]
  · have before := enforcing_find?_of_ne own db w.now a
    unfold ReleaseWrite.retireOld
    split
    next unnamed => simp [before, unnamed]
    next given =>
      have supersedes : w.supersedeArtifact = a.supersedes := named.resolve_left given
      rw [supersede_find?, before, supersedes]
      rw [supersedes] at given
      unfold Governance.lastLive
      split
      next picked =>
        cases db.releases.find? other with
        | none => simp
        | some =>
          simp [ReleaseRow.supersededAt, ReleaseState.current, given, picked]
      next kept => simp [given, kept]

theorem decide_supersedes {cfg reads} {promotion : Promotion} {old}
    (h : promotion.decide cfg reads = .ok (.enforce id a, old)) :
    promotion = .manualEnforce ∧ old = a.supersedes ∨ promotion = .autoEnforce ∧ old = "" := by
  cases promotion with
  | manualCanary | autoCanary =>
    simp only [Promotion.decide] at h
    split at h
    · simp [promoteCanary, seq_ok, pure, Except.pure] at h
    · simp at h
  | manualEnforce =>
    simp only [Promotion.decide] at h
    split at h
    · simp only [seq_ok, pure_ok, Prod.mk.injEq, Release.enforce.injEq] at h
      obtain ⟨_, -, _, -, ⟨-, rfl⟩, rfl⟩ := h
      exact .inl ⟨rfl, rfl⟩
    · simp only [seq_ok, pure_ok, Prod.mk.injEq, Release.enforce.injEq] at h
      obtain ⟨_, -, ⟨-, rfl⟩, rfl⟩ := h
      exact .inl ⟨rfl, rfl⟩
    · simp at h
  | autoEnforce =>
    simp only [Promotion.decide] at h
    split at h
    · simp only [seq_ok, pure_ok, Prod.mk.injEq] at h
      obtain ⟨_, -, -, rfl⟩ := h
      exact .inr ⟨rfl, rfl⟩
    · simp at h

/-- A promotion leaves no rival of its release exactly if an operator made it
and the release that the transaction retires was the only one. -/
theorem superseded_iff {cfg : Settings} {now : Int}
    {genId : String → String} {reads : Reads} {promotion : Promotion}
    {w : ReleaseWrite} {db db' : Governance} {id : String} {a : Artifact}
    (decided : (Action.promote promotion).decision cfg now genId reads = some (.ok w))
    (enforces : w.rel = .enforce id a) (declared : a.supersedes ≠ "")
    (committed : commitReleaseChange w db = .ok db') :
    Superseded db' id a.supersedes ↔ ∀ other, db.rival id a.supersedes other = true →
        promotion = .manualEnforce ∧ db.lastLive now id a = some other := by
  simp only [Action.decision, Option.some.injEq, map_ok] at decided
  obtain ⟨⟨_, _⟩, decided, rfl⟩ := decided
  simp only at enforces
  subst enforces
  have path := decide_supersedes decided
  have after := rival_after rfl (path.symm.imp (·.2) (·.2)) committed
  constructor
  · intro superseded other rival
    rcases path with ⟨manual, _⟩ | ⟨-, unnamed⟩
    · refine ⟨manual, ?_⟩
      by_contra kept
      have still := (after other).mpr ⟨rival, .inr kept⟩
      rw [superseded other] at still
      cases still
    · have still := (after other).mpr ⟨rival, .inl unnamed⟩
      rw [superseded other] at still
      cases still
  · intro only other
    rw [← Bool.not_eq_true]
    intro still
    obtain ⟨rival, kept⟩ := (after other).mp still
    obtain ⟨manual, picked⟩ := only other rival
    rcases kept with unnamed | kept
    · rcases path with ⟨-, named⟩ | ⟨auto, -⟩
      · exact declared (named ▸ unnamed)
      · rw [manual] at auto
        cases auto
    · exact kept picked

/-! ## A rule and its successor -/

def provenRule (id supersedes : String) : Artifact :=
  { plainRule id supersedes with
    replayReport := some { passed := true, maliciousTotal := 1, maliciousBlocked := 1 } }

def demoSettings : Settings where
  shadowMinDuration := 0
  shadowMinRequests := 0
  canaryMinDuration := 0
  canaryMinRequests := 0
  demo := true
  signing := none

def shadowedSuccessor (steps : Nat) : List PlaneOp :=
  ((ruleChanges "rel1" (provenRule "rule1" "") ["shop"] 0).take steps ++
    (ruleChanges "rel2" (provenRule "rule2" "rule1") ["shop"] 10).take 3).map .change

def promoteOps (attempt : Nat) (promotion : Promotion) (releaseId : String) : List PlaneOp :=
  .start attempt (.promotion promotion) releaseId :: (Task.promotion promotion).program.map fun _ =>
      .advance attempt fun _ => "gen"

def successorPlane (ops : List PlaneOp) : Plane :=
  run (Plane.step demoSettings) (Plane.initial .empty [] 20) ops

def enforcedRule : List PlaneOp := shadowedSuccessor 3 ++ promoteOps 1 .manualEnforce "rel1"

/-- The scheduler enforces the successor next to the enforced rule, and an
operator next to the signed one. -/
theorem superseded_beside :
    let scheduled := successorPlane (enforcedRule ++
      promoteOps 2 .autoCanary "rel2" ++ promoteOps 3 .autoEnforce "rel2")
    let manual := successorPlane (shadowedSuccessor 2 ++ promoteOps 1 .manualEnforce "rel2")
    (scheduled.db.releases.rows.map fun row => (row.1, row.2.state)) =
        [("rel1", .enforce), ("rel2", .enforce)] ∧
      ¬ Superseded scheduled.db "rel2" "rule1" ∧
      (manual.db.releases.rows.map fun row => (row.1, row.2.state)) =
        [("rel1", .signed), ("rel2", .enforce)] ∧
      ¬ Superseded manual.db "rel2" "rule1" := by
  refine ⟨by decide +kernel, ?_, by decide +kernel, ?_⟩
  all_goals
    intro superseded
    exact absurd (superseded "rel1") (by decide +kernel)

theorem rivals_of_rows {artifactId} {P : String → Prop} (h : ∀ row ∈ db.releases.rows,
      db.rival id artifactId row.1 = true → P row.1) (other)
    (rival : db.rival id artifactId other = true) : P other := by
  have found := rival
  simp only [Governance.rival, Bool.and_eq_true] at found
  obtain ⟨row, present, -⟩ := (Option.any_eq_true _ _).mp found.1.2
  exact h (other, row) (mem_iff_find?.mpr present) rival

def successorReads : Reads where
  units := 1
  release := some (.shadow "rel2" (provenRule "rule2" "rule1"))

def successorWrite : ReleaseWrite where
  rel := .enforce "rel2" (provenRule "rule2" "rule1")
  feed := true
  supersedeArtifact := "rule1"
  signing := none
  now := 20
  genId := fun _ => "gen"

theorem superseded_only :
    ∃ db', commitReleaseChange successorWrite (successorPlane enforcedRule).db = .ok db' ∧
      (db'.releases.rows.map fun row => (row.1, row.2.state)) =
        [("rel1", .retired), ("rel2", .enforce)] ∧
      Superseded db' "rel2" "rule1" := by
  have commits : ((commitReleaseChange successorWrite
      (successorPlane enforcedRule).db).toOption.map fun db' =>
        db'.releases.rows.map fun row => (row.1, row.2.state)) =
      some [("rel1", .retired), ("rel2", .enforce)] := by
    decide +kernel
  cases committed : commitReleaseChange successorWrite (successorPlane enforcedRule).db with
  | error =>
    rw [committed] at commits
    cases commits
  | ok db' =>
    rw [committed] at commits
    refine ⟨db', rfl, Option.some.inj commits, ?_⟩
    have decided : (Action.promote .manualEnforce).decision demoSettings 20
        (fun _ => "gen") successorReads = some (.ok successorWrite) := rfl
    apply (superseded_iff decided rfl (by decide) committed).mpr
    apply rivals_of_rows
    decide +kernel

end YuFeng.Brain

import Mathlib.Data.List.Dedup
import YuFeng.Brain.Governance
import YuFeng.Library.Run

/-!
# Published generations and live releases

The latest generation of an asset should hold the live releases of the asset
and its settings.  A change of one release publishes the assets of that
release; a release that it supersedes may be bound to other assets, and those
keep it in their latest generation.
-/

namespace YuFeng.Brain

open YuFeng.Library YuFeng.Kernel List

variable {signing : Option Signing} {now : Int} {genId assetId : String}
  {rollback : Bool} {db db' : Governance} {assetIds : List String}
  {w : ReleaseWrite}

def Governance.shown (db : Governance) (assetId : String) : List ReleaseItem :=
  ((db.latest assetId).map (·.members)).getD []

/-- Every asset shows its live releases and its settings. -/
def Consistent (db : Governance) : Prop :=
  ∀ assetId, assetId ≠ "" → db.shown assetId = db.members assetId

/-! ## Publishing -/

theorem publishAssetGeneration_ok :
    publishAssetGeneration signing now genId assetId rollback db = .ok db' ↔
      (signing = none ∨ assetId = "") ∧ db' = db ∨
      ∃ signer signature, signing = some signer ∧ assetId ≠ "" ∧
        signer.sign (db.nextGeneration now genId assetId rollback) = .ok signature ∧
        (∀ g ∈ db.generations, g.generationId ≠ genId) ∧
        db' = db.insertGeneration (db.nextGeneration now genId assetId rollback) signature := by
  unfold publishAssetGeneration
  cases signing with
  | none => simp [eq_comm]
  | some signer =>
    by_cases unnamed : assetId = ""
    · simp [unnamed, eq_comm]
    · simp only [unnamed, if_false, seq_ok, mapError_ok, require_ok,
        all_eq_true, decide_eq_true_eq, pure_ok, reduceCtorEq, or_self, false_and, false_or,
        Option.some.injEq]
      constructor
      · rintro ⟨signature, signed, _, fresh, rfl⟩
        exact ⟨signer, signature, rfl, unnamed, signed, fresh, rfl⟩
      · rintro ⟨_, signature, rfl, -, signed, fresh, rfl⟩
        exact ⟨signature, signed, (), fresh, rfl⟩

theorem latest_append_other {gens} (h : ∀ g ∈ gens, g.assetId ≠ assetId) :
    ({ db with generations := db.generations ++ gens } :
      Governance).latest assetId = db.latest assetId := by
  have none : gens.filter (·.assetId = assetId) = [] := by
    rw [filter_eq_nil_iff]
    intro g present
    simpa using h g present
  simp [Governance.latest, none]

theorem latest_insertGeneration (db : Governance) (now genId assetId rollback signature) :
    (db.insertGeneration (db.nextGeneration now genId assetId rollback) signature).latest assetId =
      some { db.nextGeneration now genId assetId rollback with
        envelopeSignature := some signature } := by
  have last : (db.insertGeneration (db.nextGeneration now genId assetId rollback)
        signature).generations.filter (·.assetId = assetId) =
      db.generations.filter (·.assetId = assetId) ++
        [{ db.nextGeneration now genId assetId rollback with
          envelopeSignature := some signature }] := by
    simp [Governance.insertGeneration, Governance.nextGeneration]
  rw [Governance.latest, last]
  apply highest_append_larger
  intro g latest
  have found : db.latest assetId = some g := latest
  simp only [Governance.nextGeneration, found, Option.map_some, Option.getD_some]
  omega

def Adds (assetIds : List String) (db db' : Governance) : Prop :=
  ∃ gens, db' = { db with generations := db.generations ++ gens } ∧ ∀ g ∈ gens, g.assetId ∈ assetIds

theorem Adds.members (h : Adds assetIds db db') (assetId) :
    db'.members assetId = db.members assetId := by
  obtain ⟨_, rfl, -⟩ := h
  rfl

theorem Adds.shown (h : Adds assetIds db db') (other : assetId ∉ assetIds) :
    db'.shown assetId = db.shown assetId := by
  obtain ⟨_, rfl, assets⟩ := h
  rw [Governance.shown, latest_append_other, Governance.shown]
  rintro g present rfl
  exact other (assets g present)

theorem publish_adds (h : publishAssetGeneration signing now genId assetId rollback db =
      .ok db') : Adds [assetId] db db' := by
  rcases publishAssetGeneration_ok.mp h with
    ⟨-, rfl⟩ | ⟨_, _, -, -, -, -, rfl⟩
  · exact ⟨[], by simp, by simp⟩
  · exact ⟨_, rfl, by simp [Governance.nextGeneration]⟩

theorem publish_shown (keyed : signing.isSome) (named : assetId ≠ "")
    (h : publishAssetGeneration signing now genId assetId rollback db =
      .ok db') : db'.shown assetId = db.members assetId := by
  rcases publishAssetGeneration_ok.mp h with
    ⟨missing | unnamed, -⟩ | ⟨_, _, -, -, -, -, rfl⟩
  · simp [missing] at keyed
  · exact absurd unnamed named
  · rw [Governance.shown, latest_insertGeneration]
    rfl

theorem Adds.cons {mid} (h : Adds [assetId] db mid) (h' : Adds assetIds mid db') :
    Adds (assetId :: assetIds) db db' := by
  obtain ⟨gens, rfl, assets⟩ := h
  obtain ⟨gens', rfl, assets'⟩ := h'
  refine ⟨gens ++ gens', by simp, ?_⟩
  intro g present
  rcases mem_append.mp present with first | second
  · exact mem_cons.mpr (.inl (mem_singleton.mp (assets g first)))
  · exact mem_cons_of_mem _ (assets' g second)

theorem publish_all_adds (h : w.publish db assetIds = .ok db') : Adds assetIds db db' := by
  induction assetIds generalizing db with
  | nil =>
    simp only [ReleaseWrite.publish, foldlM_nil, pure_ok] at h
    exact ⟨[], by simp [h], by simp⟩
  | cons _ _ ih =>
    rw [ReleaseWrite.publish, foldlM_cons] at h
    obtain ⟨_, first, rest⟩ := seq_ok.mp h
    exact (publish_adds first).cons (ih rest)

theorem publish_all_shown (keyed : w.signing.isSome)
    (h : w.publish db assetIds = .ok db') (named : assetId ≠ "")
    (present : assetId ∈ assetIds) :
    db'.shown assetId = db.members assetId := by
  induction assetIds generalizing db with
  | nil => simp at present
  | cons first assetIds ih =>
    rw [ReleaseWrite.publish, foldlM_cons] at h
    obtain ⟨_, published, rest⟩ := seq_ok.mp h
    by_cases again : assetId ∈ assetIds
    · rw [ih rest again, (publish_adds published).members]
    · have here : first = assetId := by
        rcases mem_cons.mp present with here | later
        · exact here.symm
        · exact absurd later again
      subst here
      rw [(publish_all_adds rest).shown again, publish_shown keyed named published]

/-! ## Changing a release -/

theorem write_state {row row' : ReleaseRow} {rel : Release}
    (h : rel.write now row = .ok row') : row'.state = rel.state := by
  cases rel <;> simp only [Release.write, Except.ok.injEq, map_ok] at h
  case retired =>
    obtain ⟨_, -, rfl⟩ := h
    rfl
  all_goals
    subst h
    rfl

structure Rewrites (id : String) (row : ReleaseRow) (db db' : Governance) :
    Prop where
  releases : db'.releases = db.releases.set id row
  releaseAssets : db'.releaseAssets = db.releaseAssets
  settings : db'.settings = db.settings
  generations : db'.generations = db.generations

theorem ensureGuardBaseline_tables (id db) :
    ∃ guards, ensureGuardBaseline id db = { db with guards := guards } := by
  unfold ensureGuardBaseline
  split
  · exact ⟨db.guards, rfl⟩
  · exact ⟨_, rfl⟩

theorem persistRelease_ok {rel} (h : persistRelease now rel db = .ok db') :
    ∃ row row', db.releases.find? rel.id = some row ∧
      releaseTransitionAllowed row.state rel.state = true ∧
      rel.write now row = .ok row' ∧ Rewrites rel.id row' db db' := by
  unfold persistRelease at h
  split at h
  · simp at h
  next row found =>
    simp only [seq_ok, require_ok, pure_ok] at h
    obtain ⟨_, allowed, row', written, rfl⟩ := h
    refine ⟨row, row', found, allowed, written, ?_⟩
    obtain ⟨_, baseline⟩ := ensureGuardBaseline_tables rel.id
      { db with releases := db.releases.set rel.id row' }
    split
    all_goals
      first
        | exact ⟨rfl, rfl, rfl, rfl⟩
        | (rw [baseline]; exact ⟨rfl, rfl, rfl, rfl⟩)

def ReleaseWrite.republishes (w : ReleaseWrite) : Prop := w.feed = true ∧ w.signing.isSome = true

/-- Every asset whose live releases change is published. -/
structure Covered (db : Governance) (w : ReleaseWrite) : Prop where
  changed : ∀ assetId, assetId ≠ "" → db.bound w.rel.id assetId = true →
    w.republishes ∨ w.rel.state.live = false ∧
      ∀ row, db.releases.find? w.rel.id = some row → row.state.live = false
  superseded : w.supersedeArtifact ≠ "" → ∀ id row, (id, row) ∈ db.releases.rows →
      row.artifactId = w.supersedeArtifact → row.state.live = true →
      ∀ assetId, assetId ≠ "" → db.bound id assetId = true →
        w.republishes ∧ db.bound w.rel.id assetId = true

theorem members_of_rows (releases : (db'.releases.rows.filter fun row =>
        db'.bound row.1 assetId && row.2.state.live) =
      db.releases.rows.filter fun row =>
        db.bound row.1 assetId && row.2.state.live)
    (settings : (db'.settings.rows.filter fun row => row.1.1 = assetId) =
      db.settings.rows.filter fun row => row.1.1 = assetId) :
    db'.members assetId = db.members assetId := by
  simp [Governance.members, Governance.releaseMembers, Governance.settingMembers, releases,
    settings]

theorem Rewrites.members {id row} (h : Rewrites id row db db')
    (unseen : db.bound id assetId = true → row.state.live = false ∧
      ∀ before, db.releases.find? id = some before → before.state.live = false) :
    db'.members assetId = db.members assetId := by
  have bindings : db'.bound = db.bound := by
    funext release asset
    rw [Governance.bound, Governance.bound, h.releaseAssets]
  apply members_of_rows
  · rw [bindings, h.releases]
    apply filter_put
    · cases seen : db.bound id assetId with
      | false => rfl
      | true => simp [(unseen seen).1]
    · intro before present
      cases seen : db.bound id assetId with
      | false => rfl
      | true =>
        simp [(unseen seen).2 before (Table.mem_iff_find?.mp present)]
  · rw [h.settings]

theorem supersede_cases (now artifactId db) :
    supersede now artifactId db = db ∨ ∃ id row row',
      (id, row) ∈ db.releases.rows ∧ row.artifactId = artifactId ∧
        row.state.live = true ∧ row'.state = .retired ∧
        Rewrites id row' db (supersede now artifactId db) := by
  unfold supersede
  split
  · exact .inl rfl
  next id row found =>
    have chosen := mem_filter.mp (highest_mem found)
    rw [Bool.and_eq_true, decide_eq_true_eq] at chosen
    exact .inr ⟨id, row, _, chosen.1, chosen.2.1, chosen.2.2, rfl, ⟨rfl, rfl, rfl, rfl⟩⟩

theorem commitReleaseChange_ok :
    commitReleaseChange w db = .ok db' ↔ ∃ mid, persistRelease w.now w.rel db = .ok mid ∧
        ((if w.feed then w.publish (w.retireOld mid) (releaseAssetIDs (w.retireOld mid) w.rel.id)
          else .ok (w.retireOld mid)) = .ok db') := by
  simp only [commitReleaseChange, seq_ok]
  rfl

theorem publish_unkeyed (unkeyed : w.signing = none) (assetIds) :
    w.publish db assetIds = .ok db := by
  have skips : ∀ assetId mid, publishAssetGeneration w.signing w.now
      (w.genId assetId) assetId (w.retired && w.reason = .rollback) mid = .ok mid := by
    intro _ _
    exact publishAssetGeneration_ok.mpr (.inl ⟨.inl unkeyed, rfl⟩)
  induction assetIds with
  | nil => rfl
  | cons _ _ ih =>
    rw [ReleaseWrite.publish, foldlM_cons, skips]
    exact ih

theorem mem_releaseAssetIDs {releaseId} :
    assetId ∈ releaseAssetIDs db releaseId ↔ db.bound releaseId assetId = true ∧ assetId ≠ "" := by
  simp only [releaseAssetIDs, mem_filterMap, Governance.bound, decide_eq_true_eq]
  constructor
  · rintro ⟨⟨_, _⟩, present, chosen⟩
    split at chosen
    next matching =>
      cases chosen
      exact ⟨matching.1 ▸ present, matching.2⟩
    · simp at chosen
  · rintro ⟨present, named⟩
    exact ⟨(releaseId, assetId), present, by simp [named]⟩

theorem shown_of_generations (h : db'.generations = db.generations) (assetId) :
    db'.shown assetId = db.shown assetId := by
  rw [Governance.shown, Governance.latest, h]
  rfl

theorem retireOld_members (unseen : w.supersedeArtifact ≠ "" → ∀ id row,
      (id, row) ∈ db.releases.rows → row.artifactId = w.supersedeArtifact →
      row.state.live = true → db.bound id assetId = false) :
    (w.retireOld db).members assetId = db.members assetId := by
  unfold ReleaseWrite.retireOld
  split
  · rfl
  next named =>
    rcases supersede_cases w.now w.supersedeArtifact db with
      same | ⟨id, row, _, present, artifact, live, -, rewrites⟩
    · rw [same]
    · apply rewrites.members
      intro seen
      rw [unseen named id row present artifact live] at seen
      contradiction

theorem retireOld_tables (w : ReleaseWrite) (db : Governance) :
    (w.retireOld db).generations = db.generations ∧
      (w.retireOld db).releaseAssets = db.releaseAssets := by
  unfold ReleaseWrite.retireOld
  split
  · exact ⟨rfl, rfl⟩
  · rcases supersede_cases w.now w.supersedeArtifact db with
      same | ⟨_, _, _, -, -, -, -, rewrites⟩
    · rw [same]
      exact ⟨rfl, rfl⟩
    · exact ⟨rewrites.generations, rewrites.releaseAssets⟩

theorem bound_of_releaseAssets (h : db'.releaseAssets = db.releaseAssets) :
    db'.bound = db.bound := by
  funext release asset
  rw [Governance.bound, Governance.bound, h]

theorem commit_members {mid} (covered : Covered db w) (h : persistRelease w.now w.rel db = .ok mid)
    (named : assetId ≠ "") (unseen : ¬(w.republishes ∧ db.bound w.rel.id assetId = true)) :
    (w.retireOld mid).members assetId = db.members assetId := by
  obtain ⟨_, row', _, -, written, rewrites⟩ := persistRelease_ok h
  have silent : db.bound w.rel.id assetId = true →
      row'.state.live = false ∧ ∀ before, db.releases.find? w.rel.id = some before →
          before.state.live = false := by
    intro seen
    rcases covered.changed assetId named seen with published | silent
    · exact absurd ⟨published, seen⟩ unseen
    · rw [write_state written]
      exact silent
  rw [retireOld_members, rewrites.members silent]
  intro superseding id old present artifact live
  rw [bound_of_releaseAssets rewrites.releaseAssets, Bool.eq_false_iff]
  intro seen
  rw [rewrites.releases] at present
  rcases Table.mem_set.mp present with changed | ⟨kept, -⟩
  · cases changed
    rw [(silent seen).1] at live
    contradiction
  · exact unseen (covered.superseded superseding id old kept artifact live assetId named seen)

theorem commit_consistent (covered : Covered db w)
    (h : commitReleaseChange w db = .ok db') (consistent : Consistent db) :
    Consistent db' := by
  intro assetId named
  obtain ⟨mid, persisted, published⟩ := commitReleaseChange_ok.mp h
  obtain ⟨_, _, -, -, -, rewrites⟩ := persistRelease_ok persisted
  have generations : (w.retireOld mid).generations = db.generations :=
    (retireOld_tables w mid).1.trans rewrites.generations
  have bindings : (w.retireOld mid).bound = db.bound :=
    bound_of_releaseAssets ((retireOld_tables w mid).2.trans rewrites.releaseAssets)
  by_cases seen : w.republishes ∧ db.bound w.rel.id assetId = true
  · obtain ⟨⟨feeds, keyed⟩, seen⟩ := seen
    rw [feeds] at published
    rw [publish_all_shown keyed published named, (publish_all_adds published).members]
    rw [mem_releaseAssetIDs, bindings]
    exact ⟨seen, named⟩
  · have kept : db'.shown assetId = (w.retireOld mid).shown assetId ∧
        db'.members assetId = (w.retireOld mid).members assetId := by
      cases feeds : w.feed with
      | false =>
        simp only [feeds, Bool.false_eq_true, if_false, Except.ok.injEq] at published
        rw [published]
        exact ⟨rfl, rfl⟩
      | true =>
        rw [feeds] at published
        refine ⟨?_, (publish_all_adds published).members assetId⟩
        cases keyed : w.signing with
        | none =>
          rw [if_pos rfl, publish_unkeyed keyed] at published
          cases published
          rfl
        | some =>
          apply (publish_all_adds published).shown
          rw [mem_releaseAssetIDs, bindings]
          intro present
          exact seen ⟨⟨feeds, by simp [keyed]⟩, present.1⟩
    rw [kept.1, kept.2, shown_of_generations generations,
      consistent assetId named, commit_members covered persisted named seen]

/-! ## Drafts and settings -/

theorem propose_consistent {p : Proposal} (h : propose p db = .ok db')
    (consistent : Consistent db) :
    Consistent db' := by
  simp only [propose, seq_ok, require_ok, Option.isNone_iff_eq_none, pure_ok] at h
  obtain ⟨_, fresh, rfl⟩ := h
  intro assetId named
  refine (consistent assetId named).trans (Eq.symm ?_)
  apply members_of_rows
  · -- The new row is a draft; the other rows keep their bindings.
    refine (filter_put (by simp [ReleaseState.live]) ?_).trans ?_
    · intro _ present
      rw [Table.mem_iff_find?, fresh] at present
      contradiction
    · apply filter_congr
      rintro ⟨id, _⟩ present
      have other : id ≠ p.releaseId := by
        rintro rfl
        rw [Table.mem_iff_find?, fresh] at present
        contradiction
      simp [Governance.bound, other.symm]
  · rfl

theorem writeSetting_consistent {w} (h : writeSetting w db = .ok db') (consistent : Consistent db) :
    Consistent db' := by
  simp only [writeSetting, seq_ok, require_ok] at h
  obtain ⟨_, keyed, published⟩ := h
  intro assetId named
  rw [(publish_adds published).members]
  by_cases here : w.assetId = assetId
  · rw [← here] at named ⊢
    exact publish_shown keyed named published
  · have other : assetId ∉ [w.assetId] := by
      simpa using Ne.symm here
    rw [(publish_adds published).shown other]
    refine (consistent assetId named).trans (Eq.symm ?_)
    exact members_of_rows rfl (filter_put (by simpa using here) (by simp [here]))

/-! ## Runs -/

/-- The transactions that write releases, settings or generations. -/
inductive Change where
  | propose (p : Proposal)
  | setting (w : SettingWrite)
  | commit (w : ReleaseWrite)

def Change.apply (db : Governance) : Change → Except RpcError Governance
  | .propose p => Brain.propose p db
  | .setting w => writeSetting w db
  | .commit w => commitReleaseChange w db

def Change.step (db : Governance) (change : Change) : Governance :=
  (change.apply db).toOption.getD db

def Change.covered (db : Governance) : Change → Prop
  | .commit w => (commitReleaseChange w db).toBool = true → Covered db w
  | _ => True

theorem step_consistent {change : Change} (covered : change.covered db)
    (consistent : Consistent db) :
    Consistent (change.step db) := by
  unfold Change.step
  cases applied : change.apply db with
  | error => exact consistent
  | ok db' =>
    cases change with
    | propose => exact propose_consistent applied consistent
    | setting => exact writeSetting_consistent applied consistent
    | commit w =>
      have committed : commitReleaseChange w db = .ok db' := applied
      exact commit_consistent (covered (by rw [committed]; rfl)) committed consistent

theorem consistent_empty : Consistent {} := by
  intro _ _
  rfl

/-- In a run of covered changes, the latest generation of every asset holds
its live releases and its settings after every transaction. -/
theorem consistent_of_covered {changes : List Change}
    (covered : Meets Change.step (fun db change => change.covered db) {}
      changes) : Consistent (run Change.step {} changes) :=
  run_invariant _ _ Consistent (fun _ _ => step_consistent) covered consistent_empty

/-! ## A rule and its successor -/

def brainKey : Signing := ⟨fun gen => .ok ⟨"brain", "signed " ++ gen.generationId⟩⟩

def plainRule (id supersedes : String) : Artifact :=
  { id := id
    kind := .rule
    payload := "e30="
    payloadSchema := "yufeng.rule.v1"
    supersedes := supersedes }

def keyedWrite (rel : Release) (feed : Bool) (supersedes : String) (now : Int) : Change :=
  .commit {
    rel := rel
    feed := feed
    supersedeArtifact := supersedes
    signing := some brainKey
    now := now
    genId := fun assetId => rel.id ++ rel.state.text ++ assetId }

def ruleChanges (releaseId : String) (rule : Artifact)
    (assetIds : List String) (now : Int) : List Change :=
  [.propose {
      releaseId := releaseId
      artifact := rule
      assetIds := assetIds
      createdBy := "ops"
      now := now },
    keyedWrite (.signed releaseId rule) false "" (now + 1),
    keyedWrite (.shadow releaseId rule) true "" (now + 2),
    keyedWrite (.enforce releaseId rule) true rule.supersedes (now + 3)]

def succession (assetIds : List String) : List Change :=
  ruleChanges "rel1" (plainRule "rule1" "") ["shop", "blog"] 0 ++
    ruleChanges "rel2" (plainRule "rule2" "rule1") assetIds 10

/-- The successor on one asset retires the rule on both, and the generation
of the other asset keeps it. -/
theorem consistent_superseded_elsewhere :
    let db := run Change.step {} (succession ["shop"])
    (db.releases.find? "rel2").map (·.state) = some .enforce ∧
      (db.releases.find? "rel1").map (·.state) = some .retired ∧
      (db.shown "blog").map (·.releaseId) = ["rel1"] ∧
      db.members "blog" = [] ∧ ¬ Consistent db := by
  have shown : ((run Change.step {} (succession ["shop"])).shown
      "blog").map (·.releaseId) = ["rel1"] := by
    decide +kernel
  have live : (run Change.step {} (succession ["shop"])).members "blog" = [] := by
    decide +kernel
  refine ⟨by decide +kernel, by decide +kernel, shown, live, ?_⟩
  intro consistent
  rw [consistent "blog" (by decide), live] at shown
  contradiction

theorem covered_of_rows (changed : w.feed = true ∧ w.signing.isSome = true ∨
      w.rel.state.live = false ∧ ∀ row ∈ db.releases.find? w.rel.id, row.state.live = false)
    (superseded : w.supersedeArtifact = "" ∨ (w.feed = true ∧ w.signing.isSome = true) ∧
        ∀ entry ∈ db.releases.rows, entry.2.artifactId = w.supersedeArtifact →
          entry.2.state.live = true → ∀ pair ∈ db.releaseAssets, pair.1 = entry.1 →
            (w.rel.id, pair.2) ∈ db.releaseAssets) : Covered db w where
  changed _ _ _ := changed
  superseded named id row present artifact live assetId _ seen := by
    rcases superseded with unnamed | ⟨published, rows⟩
    · exact absurd unnamed named
    · refine ⟨published, decide_eq_true ?_⟩
      exact rows (id, row) present artifact live (id, assetId) (of_decide_eq_true seen) rfl

theorem consistent_of_covered_both :
    ((run Change.step {} (succession ["shop", "blog"])).shown "blog").map (·.releaseId) = ["rel2"] ∧
      Consistent (run Change.step {} (succession ["shop", "blog"])) := by
  refine ⟨by decide +kernel, ?_⟩
  apply consistent_of_covered
  refine ⟨trivial, ?_, ?_, ?_, trivial, ?_, ?_, ?_, trivial⟩
  all_goals
    intro _
    apply covered_of_rows <;> decide +kernel

end YuFeng.Brain

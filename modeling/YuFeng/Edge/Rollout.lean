import YuFeng.Edge.Restart
import YuFeng.Edge.Verdict

/-!
# Rolling out a release

A release goes from shadow through canaries of growing size to enforcement.
The gate judges it by the same payload at every stage, so a later stage blocks
whatever an earlier one blocks, and a canary of one hundred percent differs
from enforcement only in what it reports about itself.
-/

namespace YuFeng.Edge

open YuFeng.Library YuFeng.Kernel

inductive Stage where
  | shadow
  | canary (percent : Int)
  | enforce
  deriving DecidableEq

/-- The way of a release; a canary only grows. -/
inductive Stage.Precedes : Stage → Stage → Prop where
  | shadow (stage : Stage) : Precedes .shadow stage
  | canary {p q : Int} (grows : p ≤ q) : Precedes (.canary p) (.canary q)
  | enforce (stage : Stage) : Precedes stage .enforce

def ManagedRelease.atStage (r : ManagedRelease) : Stage → ManagedRelease
  | .shadow => { r with mode := .shadow }
  | .canary percent => { r with mode := .canary, canaryPercent := percent }
  | .enforce => { r with mode := .enforce }

def ReleaseSet.rollOut (set : ReleaseSet) (id : String) (stage : Stage) : ReleaseSet :=
  { set with releases := set.releases.modify id (·.atStage stage) }

/-! ## One release at two stages -/

section Release

variable {P : Platform} {req : Request} {found : Inspection} {view : CanonicalView}

theorem canaryBucket_mono {sum256 : String → Vector UInt8 32} {key p q} (grows : p ≤ q)
    (h : canaryBucket sum256 key p = true) : canaryBucket sum256 key q = true := by
  unfold canaryBucket at h ⊢
  by_cases positive : p ≤ 0
  · simp [positive] at h
  by_cases whole : 100 ≤ q
  · simp [whole, show ¬ q ≤ 0 by omega]
  · rw [if_neg positive, if_neg (by omega), decide_eq_true_eq] at h
    rw [if_neg (by omega), if_neg whole, decide_eq_true_eq]
    omega

theorem ManagedRelease.judge_atStage (r : ManagedRelease) (stage : Stage) :
    (r.atStage stage).judge P req found view = r.judge P req found view := by
  cases stage <;> rfl

theorem ManagedRelease.matched_atStage (r : ManagedRelease) (stage : Stage) :
    (r.atStage stage).matched P req found view = r.matched P req found view := by
  rw [matched, matched, judge_atStage]

theorem ManagedRelease.action_mono {r : ManagedRelease}
    {earlier later : Stage} (order : earlier.Precedes later)
    (h : (r.atStage earlier).action P req found view = .block) :
    (r.atStage later).action P req found view = .block := by
  rw [action_block_iff, matched_atStage] at h ⊢
  refine ⟨h.1, ?_⟩
  cases order with
  | shadow => simp [atStage] at h
  | canary grows =>
    simp only [atStage, reduceCtorEq, false_or, true_and] at h ⊢
    exact ⟨h.2.1, canaryBucket_mono grows h.2.2⟩
  | enforce => exact .inl rfl

theorem selectedForCanary_whole (r : ManagedRelease) (unit : req.unitId ≠ "") :
    selectedForCanary P req (r.atStage (.canary 100)) = true := by
  simp [selectedForCanary, ManagedRelease.atStage, unit, canarySelectedUnit, canaryBucket]

end Release

/-! ## The whole gate -/

def moved (id : String) (stage : Stage) (row : String × ManagedRelease) : ManagedRelease :=
  if row.1 = id then row.2.atStage stage else row.2

theorem ReleaseSet.live_rollOut (set : ReleaseSet) (id stage now) :
    (set.rollOut id stage).live now =
      (set.releases.rows.filter fun row => now < row.2.expiresAt).map (moved id stage) := by
  have keeps : ∀ row : String × ManagedRelease,
      (moved id stage row).expiresAt = row.2.expiresAt := by
    intro _
    unfold moved
    split
    · cases stage <;> rfl
    · rfl
  simp only [live, rollOut, Table.modify, List.map_map, List.filter_map]
  congr 1
  apply List.filter_congr
  intro row _
  simp only [Function.comp_apply]
  rw [← keeps row, moved]

def ReleaseObservation.outcome (o : ReleaseObservation) : String × String × Bool :=
  (o.releaseId, o.artifactId, o.matched)

/-- A decision up to the stages that its observations name. -/
structure Decision.Same (d e : Decision) : Prop where
  action : d.action = e.action
  wouldHaveBlocked : d.wouldHaveBlocked = e.wouldHaveBlocked
  verdicts : d.verdicts = e.verdicts
  inspection : d.inspection = e.inspection
  posture : d.posture = e.posture
  outcomes : d.observations.map (·.outcome) = e.observations.map (·.outcome)

structure Tally.Same (t u : Tally) : Prop where
  policyBlock : t.policyBlock = u.policyBlock
  ruleBlock : t.ruleBlock = u.ruleBlock
  shapeBlock : t.shapeBlock = u.shapeBlock
  combined : t.combined = u.combined
  verdicts : t.verdicts = u.verdicts
  outcomes : t.observations.map (·.outcome) = u.observations.map (·.outcome)

section Gate

variable {P : Platform} {posture : IngressPosture} {req : Request}
  {found : Inspection} {view : CanonicalView}

theorem gateRelease_same {t u r r'} (same : t.Same u) (id : r.releaseId = r'.releaseId)
    (artifact : r.artifactId = r'.artifactId) (policy : r.policy = r'.policy)
    (detector : r.detector = r'.detector) (shape : r.shape = r'.shape)
    (judged : r.judge P req found view = r'.judge P req found view)
    (acts : r.action P req found view = r'.action P req found view) :
    (gateRelease P posture req found view t r).Same
      (gateRelease P posture req found view u r') := by
  cases outcome : r'.judge P req found view with
  | none => simpa [gateRelease, judged, outcome] using same
  | some result =>
    obtain ⟨hit, _⟩ := result
    have action : actionForMode r.mode hit (selectedForCanary P req r) =
        actionForMode r'.mode hit (selectedForCanary P req r') := by
      simpa [ManagedRelease.action, ManagedRelease.matched, judged, outcome] using acts
    simp only [gateRelease, judged, outcome, action, policy, detector, shape, id, artifact]
    constructor
    · rw [same.policyBlock]
    · rw [same.ruleBlock]
    · rw [same.shapeBlock]
    · rw [same.combined]
    · rw [same.verdicts]
    · simp only [List.map_append, same.outcomes]
      rfl

theorem gateAll_same (P posture found view id) (unit : req.unitId ≠ "")
    (rows : List (String × ManagedRelease)) {t u} (same : t.Same u) :
    ((rows.map (moved id (.canary 100))).foldl (gateRelease P posture req found view) t).Same
      ((rows.map (moved id .enforce)).foldl (gateRelease P posture req found view) u) := by
  induction rows generalizing t u with
  | nil => exact same
  | cons row _ ih =>
    simp only [List.map_cons, List.foldl_cons]
    apply ih
    by_cases here : row.1 = id
    · simp only [moved, if_pos here]
      refine gateRelease_same same ?_ ?_ ?_ ?_ ?_ ?_ ?_
      iterate 5 rfl
      · rw [ManagedRelease.judge_atStage, ManagedRelease.judge_atStage]
      · have selected := selectedForCanary_whole (P := P) row.2 unit
        unfold ManagedRelease.action
        rw [selected, ManagedRelease.matched_atStage, ManagedRelease.matched_atStage]
        cases row.2.matched P req found view <;> rfl
    · simp only [moved, if_neg here]
      exact gateRelease_same same rfl rfl rfl rfl rfl rfl rfl

end Gate

/-- Promotion never loses a block, and the whole canary decides as
enforcement does. -/
theorem promotion_monotone (P : Platform) (now : Int) (set : ReleaseSet)
    (id : String) (req : Request) (found : Inspection)
    (view : CanonicalView) :
    (∀ earlier later : Stage, earlier.Precedes later →
      (gateWith P ((set.rollOut id earlier).live now) (resolvePosture set.posture) req found view
        set.counters).1.wouldHaveBlocked = true →
      (gateWith P ((set.rollOut id later).live now) (resolvePosture set.posture) req found view
        set.counters).1.wouldHaveBlocked = true) ∧
    (req.unitId ≠ "" → (gateWith P ((set.rollOut id (.canary 100)).live now)
        (resolvePosture set.posture) req found view set.counters).1.Same
      (gateWith P ((set.rollOut id .enforce).live now)
        (resolvePosture set.posture) req found view set.counters).1) := by
  constructor
  · intro _ later order blocked
    rw [gateWith_wouldHaveBlocked, ReleaseSet.live_rollOut] at blocked ⊢
    obtain ⟨_, member, blocks⟩ := blocked
    obtain ⟨row, live, rfl⟩ := List.mem_map.mp member
    refine ⟨moved id later row, List.mem_map.mpr ⟨row, live, rfl⟩, ?_⟩
    by_cases here : row.1 = id
    · simp only [moved, if_pos here] at blocks ⊢
      exact ManagedRelease.action_mono order blocks
    · simpa only [moved, if_neg here] using blocks
  · intro unit
    rw [ReleaseSet.live_rollOut, ReleaseSet.live_rollOut]
    have start : Tally.Same { counters := set.counters }
        { counters := set.counters } := ⟨rfl, rfl, rfl, rfl, rfl, rfl⟩
    have all := gateAll_same P (resolvePosture set.posture) found view id
      unit (set.releases.rows.filter fun row => now < row.2.expiresAt) start
    unfold gateWith
    constructor <;> dsimp only <;>
      simp [all.policyBlock, all.ruleBlock, all.shapeBlock, all.combined, all.verdicts,
        all.outcomes]

/-- The second rule of the shop, for a request to `/etc/passwd`. -/
theorem promotion_monotone_passwd :
    (gateWith shopEdge ((shopLoaded.rollOut "rel-2" (.canary 100)).live
        issued) .reverseProxy passwdRequest ⟨[], [], false⟩ passwdView
        shopLoaded.counters).1.wouldHaveBlocked = true ∧
      (gateWith shopEdge ((shopLoaded.rollOut "rel-2" .enforce).live
        issued) .reverseProxy passwdRequest ⟨[], [], false⟩ passwdView
        shopLoaded.counters).1.wouldHaveBlocked = true ∧
      (gateWith shopEdge ((shopLoaded.rollOut "rel-2" (.canary 100)).live
        issued) .reverseProxy passwdRequest ⟨[], [], false⟩ passwdView
        shopLoaded.counters).1.Same
      (gateWith shopEdge ((shopLoaded.rollOut "rel-2" .enforce).live
        issued) .reverseProxy passwdRequest ⟨[], [], false⟩ passwdView
        shopLoaded.counters).1 := by
  have posture : resolvePosture shopLoaded.posture = .reverseProxy := by
    decide +kernel
  have promoted := promotion_monotone shopEdge issued shopLoaded "rel-2"
    passwdRequest ⟨[], [], false⟩ passwdView
  rw [posture] at promoted
  have blocked : (gateWith shopEdge
      ((shopLoaded.rollOut "rel-2" (.canary 100)).live issued) .reverseProxy
      passwdRequest ⟨[], [], false⟩ passwdView
      shopLoaded.counters).1.wouldHaveBlocked = true := by
    decide +kernel
  exact ⟨blocked, promoted.1 _ _ (.enforce _) blocked, promoted.2 (by decide)⟩

end YuFeng.Edge

import YuFeng.Edge.Coverage
import YuFeng.Edge.Verdict

/-!
# Inspectors that fail

The coverage of a merged inspection has an error on the query surface where an
inspector failed.  The gate reads its policies against the coverage of the
view, which is as it was before the inspectors ran, so the error is reported
with the decision and does not change it.
-/

namespace YuFeng.Edge

open YuFeng.Library YuFeng.Kernel List

variable {surface : InspectionSurface}

def errorOn (coverage : List Coverage) (surface : InspectionSurface) : Bool :=
  coverage.any fun c => c.target = surface && c.status = .error

/-- The policy waits for full coverage and one of its keys names the
surface. -/
def PolicyPredicate.awaits (predicate : PolicyPredicate) (surface : InspectionSurface) : Bool :=
  predicate.coverageRequirement = .full && predicate.detectionKeys.any (·.targetLocation = surface)

def PolicyPredicate.readHit (predicate : PolicyPredicate)
    (found : List Detection) (view : CanonicalView) : Bool :=
  predicate.detectionKeys.any fun key =>
    (key.targetLocation = .unspecified || view.full key.targetLocation) && present found key

def ManagedRelease.blocking (P : Platform) (req : Request) (r : ManagedRelease) : Bool :=
  r.mode = .enforce || selectedForCanary P req r

/-- No detection fits the key on what the view has in full. -/
def DetectionKey.idle (key : DetectionKey) (view : CanonicalView) : Bool :=
  key.ruleId = "" && key.detectorId = "" ||
    key.targetLocation ≠ .unspecified && !view.full key.targetLocation

theorem DetectionKey.busy_iff {key : DetectionKey} {view} : key.idle view = false ↔
    (key.targetLocation = .unspecified || view.full key.targetLocation) = true ∧
      (key.ruleId ≠ "" || key.detectorId ≠ "") = true := by
  simp only [idle]
  cases view.full key.targetLocation <;> simp [imp_iff_not_or, and_comm]

/-- A policy of the release that waits for full coverage and is in force blocks on a match only,
and its keys have none. -/
def ManagedRelease.Withheld (P : Platform) (req : Request) (view : CanonicalView)
    (r : ManagedRelease) : Prop :=
  ∀ policy predicate, r.policy = some policy → policy.predicate = some predicate →
    predicate.coverageRequirement = .full → predicate.detectionKeys ≠ [] →
    r.blocking P req = true → policy.action ≠ "log" →
    policyScopeMatches P.matching policy.scope req view = true →
    predicate.requireMatchPresent = true ∧ ∀ key ∈ predicate.detectionKeys, key.idle view = true

variable {P : Platform} {now : Int} {set : ReleaseSet} {req : Request} {view : CanonicalView}
  {policy : PolicyCandidate} {predicate : PolicyPredicate}

theorem PolicyPredicate.awaits_full (h : predicate.awaits surface = true) :
    predicate.coverageRequirement = .full ∧ predicate.detectionKeys ≠ [] := by
  simp only [awaits, Bool.and_eq_true, decide_eq_true_eq] at h
  refine ⟨h.1, fun none => ?_⟩
  simp [none] at h

theorem ManagedRelease.action_awaiting {found : Inspection} {r : ManagedRelease}
    (holds : r.policy = some policy) (has : policy.predicate = some predicate)
    (awaits : predicate.awaits surface = true) :
    r.action P req found view = .block ↔ r.blocking P req = true ∧
      policy.inForce P.matching predicate found.detections view req = true ∧
      predicate.readHit found.detections view =
        predicate.requireMatchPresent := by
  obtain ⟨full, keys⟩ := predicate.awaits_full awaits
  have matched : r.matched P req found view =
      policyCandidateBlocksOn P.matching policy found.detections view req := by
    simp [ManagedRelease.matched, ManagedRelease.judge, holds]
  have hit : predicate.readHit found.detections view = true ↔
      Hits predicate found.detections view := by
    simp [PolicyPredicate.readHit, Hits]
  rw [ManagedRelease.action_block_iff, matched,
    policyCandidateBlocksOn_full has full, ← hit, and_comm]
  refine and_congr ?_ (and_congr_right fun _ => ?_)
  · simp [ManagedRelease.blocking, selectedForCanary, and_assoc]
  · cases predicate.requireMatchPresent with
    | true => simp
    | false => simp [keys]

/-! ## What inspectors may answer -/

def fitting (key : DetectionKey) (score : ℚ) : Detection :=
  ⟨key.detectorId, key.ruleId, .unmapped, score, key.targetLocation, key.targetSelector, key.phase,
    key.detectorVersion, key.detectorManifestDigest, key.normalizationProfileDigest⟩

def nameless (score : ℚ) : Detection :=
  ⟨"", "", .unmapped, score, .unspecified, "", "", "", "", ""⟩

theorem detectionMatchesKey_fitting (key score) :
    detectionMatchesKey (fitting key score) key = (key.ruleId ≠ "" || key.detectorId ≠ "") := by
  simp [detectionMatchesKey, fitting]

theorem detectionMatchesKey_nameless (key score) :
    detectionMatchesKey (nameless score) key = false := by
  by_cases rule : key.ruleId = ""
  · by_cases detector : key.detectorId = ""
    · simp [detectionMatchesKey, rule, detector]
    · simp [detectionMatchesKey, nameless, detector, Ne.symm detector]
  · simp [detectionMatchesKey, nameless, rule, Ne.symm rule]

theorem readHit_nameless (score) : predicate.readHit [nameless score] view = false := by
  simp [PolicyPredicate.readHit, present, detectionMatchesKey_nameless]

theorem readHit_fitting {key} (member : key ∈ predicate.detectionKeys)
    (busy : key.idle view = false) (score) : predicate.readHit [fitting key score] view = true := by
  obtain ⟨reads, named⟩ := DetectionKey.busy_iff.mp busy
  rw [PolicyPredicate.readHit, any_eq_true]
  refine ⟨key, member, ?_⟩
  rw [reads, present, any_cons, any_nil, detectionMatchesKey_fitting, named]
  rfl

theorem readHit_idle {found} (idle : ∀ key ∈ predicate.detectionKeys, key.idle view = true) :
    predicate.readHit found view = false := by
  rw [Bool.eq_false_iff, PolicyPredicate.readHit, Ne, any_eq_true]
  rintro ⟨key, member, hit⟩
  rw [Bool.and_eq_true, present, any_eq_true] at hit
  obtain ⟨reads, d, -, fits⟩ := hit
  rw [detectionMatchesKey, Bool.and_eq_true] at fits
  have busy := DetectionKey.busy_iff.mpr ⟨reads, fits.2⟩
  rw [idle key member] at busy
  cases busy

/-- One detection of the least score is enough. -/
theorem inForce_of_score {d : Detection} (score : d.score = predicate.minAnomalyScore)
    (action : policy.action ≠ "log")
    (scope : policyScopeMatches P.matching policy.scope req view = true) :
    policy.inForce P.matching predicate [d] view req = true := by
  have enough : ¬(0 < predicate.minAnomalyScore ∧
      maxDetectionScore [d] < predicate.minAnomalyScore) := by
    rintro ⟨positive, less⟩
    rw [maxDetectionScore, foldl_cons, foldl_nil, score, if_pos positive] at less
    exact Rat.lt_irrefl less
  simp only [PolicyCandidate.inForce, scope, Bool.and_true, Bool.and_eq_true, Bool.not_eq_true',
    decide_eq_true_eq]
  exact ⟨action, by simpa using enough⟩

/-- The first inspector fails after it has found something, the other one cannot read a surface. -/
def failing (d : Detection) (surface : InspectionSurface) (inspector : Inspector)
    (_ : CanonicalView) (_ : String) : Inspection × Bool :=
  if inspector.id = "first" then (⟨[d], [], false⟩, true)
  else (⟨[], [coverageError surface], false⟩, false)

def firstAndSecond : List Inspector := [⟨"first"⟩, ⟨"second"⟩]

theorem inspectWith_failing (P : Platform) (d surface view client) :
    (inspectWith { P with inspect := failing d surface } firstAndSecond none view
        client).detections = [d] ∧
      errorOn (inspectWith { P with inspect := failing d surface } firstAndSecond none view
        client).coverage surface = true := by
  simp [inspectWith, mergeInspections, firstAndSecond, inspectOne, failing, applyTaxonomy, errorOn,
    coverageError]

/-- Whatever the inspectors answer, a failed one keeps the policies that wait for full coverage of a
surface in error from blocking exactly if these can not block on the view. -/
theorem failure_withholds_iff : (∀ inspectors mapper inspect,
      inspectors.any (fun i => (inspect i view req.clientAddress).2) = true →
      ∀ surface, errorOn (inspectWith { P with inspect := inspect } inspectors mapper view
          req.clientAddress).coverage surface = true →
      ∀ r ∈ set.live now, ∀ policy predicate, r.policy = some policy →
        policy.predicate = some predicate → predicate.awaits surface = true →
        r.action { P with inspect := inspect } req (inspectWith { P with inspect := inspect }
          inspectors mapper view req.clientAddress) view ≠ .block) ↔
    ∀ r ∈ set.live now, r.Withheld P req view := by
  constructor
  · intro withholds r live policy predicate holds has full keys blocking action scope
    obtain ⟨key, member⟩ := exists_mem_of_ne_nil _ keys
    have awaits : predicate.awaits key.targetLocation = true := by
      simp only [PolicyPredicate.awaits, full, decide_true, Bool.true_and, any_eq_true]
      exact ⟨key, member, decide_eq_true rfl⟩
    have blocks : ∀ d : Detection, d.score = predicate.minAnomalyScore →
        predicate.readHit [d] view ≠ predicate.requireMatchPresent := by
      intro d score hit
      obtain ⟨found, error⟩ := inspectWith_failing P d key.targetLocation view req.clientAddress
      refine withholds firstAndSecond none (failing d key.targetLocation) rfl _ error r live policy
        predicate holds has awaits ?_
      rw [ManagedRelease.action_awaiting holds has awaits, found]
      exact ⟨blocking, inForce_of_score score action scope, hit⟩
    have needs : predicate.requireMatchPresent = true := by
      rw [← Bool.not_eq_false]
      intro negated
      exact blocks (nameless _) rfl ((readHit_nameless _).trans negated.symm)
    refine ⟨needs, fun key member => ?_⟩
    rw [← Bool.not_eq_false]
    intro busy
    exact blocks (fitting key _) rfl ((readHit_fitting member busy _).trans needs.symm)
  · intro withheld inspectors mapper inspect _ surface _ r live policy predicate holds has awaits
    rw [Ne, ManagedRelease.action_awaiting holds has awaits]
    rintro ⟨blocking, force, hit⟩
    obtain ⟨full, keys⟩ := predicate.awaits_full awaits
    simp only [PolicyCandidate.inForce, Bool.and_eq_true, decide_eq_true_eq] at force
    obtain ⟨needs, idle⟩ := withheld r live policy predicate holds has full keys blocking
      force.1.1 force.1.2
    rw [needs, readHit_idle idle] at hit
    cases hit

/-! ## A mark that is missed because the inspector failed -/

def brokenEdge : Platform :=
  { shopEdge with inspect := fun _ view _ => (⟨[], view.coverage, false⟩, true) }

def queryMark : PolicyPredicate :=
  { absentMark with
    detectionKeys := [⟨"crs", "", "", "942100", "", .query, "", ""⟩] }

def queryMarkRelease : ManagedRelease where
  releaseId := "mark"
  artifactId := "mark"
  detector := none
  routePrefix := ""
  policy := some { absentMarkPolicy with predicate := some queryMark }
  shape := none
  mode := .enforce
  canaryPercent := 0
  expiresAt := 1

def queryMarkSet : ReleaseSet where
  releases := Table.empty.set "mark" queryMarkRelease
  inspectors := [⟨"crs"⟩]
  edgeVersion := minimumEdgeVersion

def queryView : CanonicalView :=
  { passwdView with coverage := [⟨.query, .full, 0, 0⟩] }

/-- The only inspector failed, the query is in error, and the request is
blocked for a match that it would have had to find. -/
theorem failure_still_blocks : queryMarkSet.inspectors.any (fun i =>
        (brokenEdge.inspect i queryView "").2) = true ∧
      errorOn (inspectWith brokenEdge queryMarkSet.inspectors none queryView
        "").coverage .query = true ∧
      queryMark.awaits .query = true ∧ queryMarkSet.live 0 = [queryMarkRelease] ∧
      (inspectThenGate brokenEdge 0 queryMarkSet passwdRequest queryView).1.action = .block := by
  decide +kernel

end YuFeng.Edge

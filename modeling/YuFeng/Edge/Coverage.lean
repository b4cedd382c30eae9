import YuFeng.Edge.Restart

/-!
# Policies that require full coverage

A policy may demand that the surfaces it looks at were read in full.  Its keys
then match nothing on a surface that was not.  For a policy that blocks where
no match is present the same rule works the other way: what was not read
counts as absent.
-/

namespace YuFeng.Edge

open YuFeng.Library

def CanonicalView.full (view : CanonicalView) (surface : InspectionSurface) : Bool :=
  coverageOf view.coverage surface = .full

def present (found : List Detection) (key : DetectionKey) : Bool :=
  found.any fun d => detectionMatchesKey d key

def PolicyCandidate.inForce (M : Matching) (candidate : PolicyCandidate)
    (predicate : PolicyPredicate) (found : List Detection)
    (view : CanonicalView) (req : Request) : Bool :=
  candidate.action ≠ "log" && policyScopeMatches M candidate.scope req view &&
    !(0 < predicate.minAnomalyScore && maxDetectionScore found < predicate.minAnomalyScore)

/-- A block rests on what was read: on a key whose surface is full, and for a
block on an absence on all surfaces that the keys name. -/
structure RestsOnFull (predicate : PolicyPredicate) (found : List Detection)
    (view : CanonicalView) : Prop where
  onKey : ∃ key ∈ predicate.detectionKeys,
    (predicate.requireMatchPresent = true → present found key = true) ∧
      view.full key.targetLocation = true
  everywhere : predicate.requireMatchPresent = false →
    ∀ key ∈ predicate.detectionKeys, key.targetLocation ≠ .unspecified →
      view.full key.targetLocation = true

/-- Among the detections and the surfaces that were read, the keys can be
decided without a surface that was not. -/
def Readable (predicate : PolicyPredicate) (found : List Detection) (view : CanonicalView) : Prop :=
  if predicate.requireMatchPresent then
    (∃ key ∈ predicate.detectionKeys, view.full key.targetLocation = true ∧
      present found key = true) ∨
    ∀ key ∈ predicate.detectionKeys, key.targetLocation = .unspecified → present found key = false
  else
    predicate.detectionKeys = [] ∨
    (∃ key ∈ predicate.detectionKeys, (key.targetLocation = .unspecified ∨
      view.full key.targetLocation = true) ∧ present found key = true) ∨
    (∃ key ∈ predicate.detectionKeys, view.full key.targetLocation = true) ∧
    ∀ key ∈ predicate.detectionKeys, key.targetLocation ≠ .unspecified →
      view.full key.targetLocation = true

def Hits (predicate : PolicyPredicate) (found : List Detection) (view : CanonicalView) : Prop :=
  ∃ key ∈ predicate.detectionKeys, (key.targetLocation = .unspecified ∨
    view.full key.targetLocation = true) ∧ present found key = true

variable {found : List Detection} {view : CanonicalView}

/-- With full coverage required, a key matches what is present on a surface
that is full, or on any surface if it names none. -/
theorem policyMatchesDetectionKey_full {key} :
    policyMatchesDetectionKey found key true view.coverage = true ↔
      (key.targetLocation = .unspecified ∨ view.full key.targetLocation = true) ∧
      present found key = true := by
  unfold policyMatchesDetectionKey CanonicalView.full present
  rw [Bool.and_eq_true]
  refine and_congr_left fun _ => ?_
  by_cases named : key.targetLocation = .unspecified
  · simp [named]
  · by_cases read : coverageOf view.coverage key.targetLocation = .full
    · simp [read]
    · simp [named, read]

theorem policyCandidateBlocksOn_full {M candidate predicate req}
    (has : candidate.predicate = some predicate) (full : predicate.coverageRequirement = .full) :
    policyCandidateBlocksOn M candidate found view req = true ↔
      candidate.inForce M predicate found view req = true ∧
      if predicate.requireMatchPresent then Hits predicate found view
      else predicate.detectionKeys ≠ [] ∧ ¬ Hits predicate found view := by
  have hit : (predicate.detectionKeys.any fun key =>
      policyMatchesDetectionKey found key true view.coverage) = true ↔
      Hits predicate found view := by
    simp [Hits, policyMatchesDetectionKey_full]
  rw [← hit]
  unfold policyCandidateBlocksOn PolicyCandidate.inForce
  simp only [has, full, decide_true]
  by_cases log : candidate.action = "log"
  · simp [log]
  by_cases scope : policyScopeMatches M candidate.scope req view = true
  · by_cases score : 0 < predicate.minAnomalyScore ∧
        maxDetectionScore found < predicate.minAnomalyScore
    · simp [log, scope, score]
    · rw [not_and] at score
      cases present : predicate.requireMatchPresent with
      | true | false => simp [log, scope]
  · simp [log, scope]

/-- A policy that requires full coverage blocks on what was read, as long as
the detections at hand decide its keys. -/
theorem full_policy_reads {M : Matching} {candidate : PolicyCandidate}
    {predicate : PolicyPredicate} {found : List Detection}
    {view : CanonicalView} {req : Request}
    (has : candidate.predicate = some predicate)
    (full : predicate.coverageRequirement = .full) :
    (policyCandidateBlocksOn M candidate found view req = true → RestsOnFull predicate found view) ↔
      (candidate.inForce M predicate found view req = true → Readable predicate found view) := by
  rw [policyCandidateBlocksOn_full has full, and_imp]
  refine imp_congr_right fun _ => ?_
  unfold Readable
  cases mode : predicate.requireMatchPresent with
  | true =>
    simp only [if_true]
    constructor
    · intro rests
      by_cases blocks : Hits predicate found view
      · obtain ⟨key, member, hit, read⟩ := (rests blocks).onKey
        exact .inl ⟨key, member, read, hit mode⟩
      · refine .inr fun key member named => ?_
        rw [← Bool.not_eq_true]
        exact fun hit => blocks ⟨key, member, .inl named, hit⟩
    · rintro readable ⟨key, member, surface, hit⟩
      have onKey : ∃ key ∈ predicate.detectionKeys, view.full key.targetLocation = true ∧
            present found key = true := by
        rcases readable with onKey | silent
        · exact onKey
        · rcases surface with named | read
          · simp [silent key member named] at hit
          · exact ⟨key, member, read, hit⟩
      obtain ⟨key, member, read, hit⟩ := onKey
      exact ⟨⟨key, member, fun _ => hit, read⟩, fun absent => by simp [mode] at absent⟩
  | false =>
    simp only [Bool.false_eq_true, if_false]
    constructor
    · intro rests
      by_cases none : predicate.detectionKeys = []
      · exact .inl none
      by_cases hit : Hits predicate found view
      · exact .inr (.inl hit)
      · obtain ⟨⟨key, member, -, read⟩, everywhere⟩ := rests ⟨none, hit⟩
        exact .inr (.inr ⟨⟨key, member, read⟩, everywhere mode⟩)
    · rintro (none | hit | ⟨⟨key, member, read⟩, everywhere⟩) blocks
      · exact absurd none blocks.1
      · exact absurd hit blocks.2
      · exact ⟨⟨key, member, fun present => by simp [mode] at present, read⟩, fun _ => everywhere⟩

/-! ## An absence on a body that was read in part -/

def absentMark : PolicyPredicate where
  detectionKeys := [⟨"crs", "", "", "942100", "", .body, "", ""⟩]
  minAnomalyScore := 0
  requireMatchPresent := false
  coverageRequirement := .full

def absentMarkPolicy : PolicyCandidate where
  scope := none
  predicate := some absentMark
  action := "block"
  dependencies := none

def bodyView (status : CoverageStatus) : CanonicalView :=
  { passwdView with coverage := [⟨.body, status, 65536, 100000⟩] }

/-- The body was read in part, the match is not among the detections, and the
policy blocks. -/
theorem full_policy_reads_partial : policyCandidateBlocksOn shopMatching absentMarkPolicy []
        (bodyView .partialCoverage) passwdRequest = true ∧
      ¬ RestsOnFull absentMark [] (bodyView .partialCoverage) := by
  refine ⟨by decide +kernel, fun rests => ?_⟩
  have read := rests.everywhere rfl _ (List.mem_singleton.mpr rfl) (by decide)
  exact absurd read (by decide +kernel)

theorem full_policy_reads_whole :
    policyCandidateBlocksOn shopMatching absentMarkPolicy [] (bodyView .full) passwdRequest = true ∧
      RestsOnFull absentMark [] (bodyView .full) := by
  have blocks : policyCandidateBlocksOn shopMatching absentMarkPolicy []
      (bodyView .full) passwdRequest = true := by
    decide +kernel
  refine ⟨blocks, (full_policy_reads rfl rfl).mpr (fun _ => ?_) blocks⟩
  have read : ∀ key ∈ absentMark.detectionKeys,
      (bodyView .full).full key.targetLocation = true := by
    decide +kernel
  exact .inr (.inr ⟨⟨_, List.mem_singleton.mpr rfl,
    read _ (List.mem_singleton.mpr rfl)⟩, fun key member _ => read key member⟩)

end YuFeng.Edge

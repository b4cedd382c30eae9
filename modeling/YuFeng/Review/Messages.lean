import YuFeng.Edge.Gate
import YuFeng.Review.Route

/-!
# Traffic review messages

The policy of a generation, and the two kinds of messages an edge uploads:
statistics windows and review candidates.  Times are nanoseconds since the
Unix epoch; scores are rational numbers.
-/

namespace YuFeng.Review

open YuFeng.Library

/-! ## Times -/

def second : Int := 1000000000

structure Timestamp where
  seconds : Int
  nanos : Int
  deriving DecidableEq

def Timestamp.new (time : Int) : Timestamp := ⟨time / second, time % second⟩

def Timestamp.asTime (t : Timestamp) : Int := t.seconds * second + t.nanos

def Timestamp.isValid (t : Timestamp) : Bool :=
  -62135596800 ≤ t.seconds && t.seconds ≤ 253402300799 && 0 ≤ t.nanos && t.nanos < second

@[simp] theorem Timestamp.asTime_new (time : Int) : (Timestamp.new time).asTime = time := by
  simp only [Timestamp.new, Timestamp.asTime, second]
  omega

theorem Timestamp.isValid_new {time} (lower : -62135596800 * second ≤ time)
    (upper : time < 253402300800 * second) : (Timestamp.new time).isValid = true := by
  have low : -62135596800 ≤ time / second := by
    rw [Int.le_ediv_iff_mul_le (by decide)]
    exact lower
  have high : time / second ≤ 253402300799 :=
    Int.lt_add_one_iff.mp (Int.ediv_lt_of_lt_mul (by decide) upper)
  have nonneg : 0 ≤ time % second := Int.emod_nonneg time (by decide)
  have small : time % second < second := Int.emod_lt_of_pos time (by decide)
  simp [Timestamp.new, Timestamp.isValid, low, high, nonneg, small]

/-- A reading of the clock, in a year from 1 to 9998. -/
structure Reading where
  time : Int
  lower : -62135596800 * second ≤ time
  upper : time < 253370764800 * second

/-! ## Policies -/

inductive ReviewMode where
  | unspecified
  | off
  | statisticsOnly
  | redactedCases
  | evidenceOnApproval
  | shadowCandidates
  | unknown
  deriving DecidableEq, Repr

/-- The wire number; a number outside the enumeration is above it here. -/
def ReviewMode.number : ReviewMode → Nat
  | .unspecified => 0
  | .off => 1
  | .statisticsOnly => 2
  | .redactedCases => 3
  | .evidenceOnApproval => 4
  | .shadowCandidates => 5
  | .unknown => 6

structure TrafficReviewPolicy where
  windowSeconds : Int
  topRouteCells : Int
  maxCandidatesPerWindow : Int
  maxEvidenceBytes : Int
  vaultMaxBytes : Int
  evidenceTtlSeconds : Int
  mode : ReviewMode
  deriving DecidableEq

def trafficReviewWindow : Int := 300
def trafficReviewTopRoutes : Int := 32
def trafficReviewCandidatesPerWindow : Int := 4
def trafficReviewEvidenceBytes : Int := 8192
def trafficReviewVaultBytes : Int := 268435456
def trafficReviewEvidenceTTL : Int := 86400

def outside (low high value : Int) : Bool := value < low || high < value

def validateTrafficReviewPolicy : Option TrafficReviewPolicy → Option String
  | none => some "policy is required"
  | some policy =>
    if policy.mode.number < ReviewMode.off.number ∨
        ReviewMode.shadowCandidates.number < policy.mode.number then
      some "traffic review mode is invalid"
    else if policy.mode = .off then
      none
    else if policy.windowSeconds ≠ trafficReviewWindow then
      some "window_seconds must be 300"
    else if outside 1 trafficReviewTopRoutes policy.topRouteCells then
      some "top_route_cells is out of range"
    else if outside 1 trafficReviewCandidatesPerWindow policy.maxCandidatesPerWindow then
      some "max_candidates_per_window is out of range"
    else if outside 1 trafficReviewEvidenceBytes policy.maxEvidenceBytes then
      some "max_evidence_bytes is out of range"
    else if outside policy.maxEvidenceBytes trafficReviewVaultBytes policy.vaultMaxBytes then
      some "vault_max_bytes is out of range"
    else if outside 3600 trafficReviewEvidenceTTL policy.evidenceTtlSeconds then
      some "evidence_ttl_seconds is out of range"
    else
      none

structure Admitted (policy : TrafficReviewPolicy) : Prop where
  mode : policy.mode = .statisticsOnly ∨ policy.mode = .redactedCases ∨
    policy.mode = .evidenceOnApproval ∨ policy.mode = .shadowCandidates
  window : policy.windowSeconds = trafficReviewWindow
  routes : 1 ≤ policy.topRouteCells ∧ policy.topRouteCells ≤ trafficReviewTopRoutes
  candidates : 1 ≤ policy.maxCandidatesPerWindow ∧
    policy.maxCandidatesPerWindow ≤ trafficReviewCandidatesPerWindow
  ttl : 3600 ≤ policy.evidenceTtlSeconds ∧ policy.evidenceTtlSeconds ≤ trafficReviewEvidenceTTL

theorem Admitted.modeNumber {policy} (h : Admitted policy) :
    ReviewMode.statisticsOnly.number ≤ policy.mode.number ∧
      policy.mode.number ≤ ReviewMode.shadowCandidates.number := by
  rcases h.mode with mode | mode | mode | mode <;>
    · rw [mode]
      decide

theorem outside_false {low high value} (h : ¬ outside low high value = true) :
    low ≤ value ∧ value ≤ high := by
  simp only [outside, Bool.or_eq_true, decide_eq_true_eq] at h
  omega

theorem validateTrafficReviewPolicy_ok {policy}
    (h : validateTrafficReviewPolicy (some policy) = none) (on : policy.mode ≠ .off) :
    Admitted policy := by
  have passes : ∀ {c : Prop} [Decidable c] {err : String} {rest : Option String},
      (if c then some err else rest) = none ↔ ¬ c ∧ rest = none := by
    intro c _ _ _
    by_cases c <;> simp [*]
  simp only [validateTrafficReviewPolicy, if_neg on, passes] at h
  obtain ⟨known, window, routes, candidates, -, -, ttl, -⟩ := h
  refine ⟨?_, by simpa using window, outside_false routes,
    outside_false candidates, outside_false ttl⟩
  cases mode : policy.mode with
  | unspecified | unknown => simp [mode, ReviewMode.number] at known
  | off => exact absurd mode on
  | statisticsOnly | redactedCases | evidenceOnApproval | shadowCandidates => simp

/-! ## Windows and candidates -/

structure TrafficRouteCell where
  method : String
  routeTemplate : String
  requestCount : Int
  criticalCount : Int
  blockedCount : Int
  incompleteCount : Int
  deriving DecidableEq

structure TrafficWindow where
  windowId : String
  unitId : String
  assetId : String
  windowStart : Option Timestamp
  windowEnd : Option Timestamp
  generationId : String
  generationSeq : Int
  policyDigest : String
  requestCount : Int
  criticalCount : Int
  blockedCount : Int
  observedCount : Int
  incompleteCount : Int
  routeCells : List TrafficRouteCell
  other : Option TrafficRouteCell
  evidenceDroppedCount : Int
  reviewMode : ReviewMode
  evidenceDropReasons : Table String Int

structure EvidenceProjection where
  algorithm : Int
  maxSpanBytes : Int
  fields : Table String String

structure ReviewCandidate where
  candidateId : String
  windowId : String
  unitId : String
  assetId : String
  occurredAt : Option Timestamp
  requestId : String
  method : String
  routeTemplate : String
  riskScore : ℚ
  riskReasons : List String
  evidence : Option EvidenceProjection
  evidenceHandle : String
  evidenceDigest : String
  evidenceExpiresAt : Option Timestamp
  generationId : String
  generationSeq : Int
  baseline : Bool
  reviewMode : ReviewMode

end YuFeng.Review

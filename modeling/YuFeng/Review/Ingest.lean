import YuFeng.Review.Messages

/-!
# Ingestion of review messages

The checks that the brain makes on an uploaded traffic window and on an
uploaded review candidate before it stores them.  `none` means that a message
passes; otherwise the upload is answered with a code and a text.
-/

namespace YuFeng.Review

open YuFeng.Library

structure Rejection where
  code : String
  message : String
  deriving DecidableEq

def blank (s : String) : Bool := trimSpace s = ""

/-! ## Windows -/

def validTrafficRouteCell (cell : TrafficRouteCell) (other : Bool) : Bool :=
  if cell.requestCount < 0 ∨ cell.criticalCount < 0 ∨
      cell.blockedCount < 0 ∨ cell.incompleteCount < 0 ∨ cell.requestCount < cell.criticalCount ∨
      cell.requestCount < cell.blockedCount ∨ cell.requestCount < cell.incompleteCount then
    false
  else if other then
    cell.method = "" && cell.routeTemplate = ""
  else
    !blank cell.method && cell.method.utf8ByteSize ≤ 32 &&
      !blank cell.routeTemplate && cell.routeTemplate.utf8ByteSize ≤ 2048

def windowComplete (w : TrafficWindow) : Bool :=
  match w.windowStart, w.windowEnd with
  | some start, some stop =>
    !blank w.windowId && !blank w.assetId && start.isValid && stop.isValid &&
      stop.asTime - start.asTime = trafficReviewWindow * second &&
      !blank w.policyDigest && 0 ≤ w.requestCount && w.routeCells.length ≤ trafficReviewTopRoutes &&
      ReviewMode.statisticsOnly.number ≤ w.reviewMode.number &&
      w.reviewMode.number ≤ ReviewMode.shadowCandidates.number
  | _, _ => false

structure CellTotals where
  requests : Int
  critical : Int
  blocked : Int
  incomplete : Int
  deriving DecidableEq

def totalsOf (cell : TrafficRouteCell) : CellTotals :=
  ⟨cell.requestCount, cell.criticalCount, cell.blockedCount, cell.incompleteCount⟩

def CellTotals.add (a b : CellTotals) : CellTotals :=
  ⟨a.requests + b.requests, a.critical + b.critical, a.blocked + b.blocked,
    a.incomplete + b.incomplete⟩

def sumCells (totals : CellTotals) : List TrafficRouteCell → Option CellTotals
  | [] => some totals
  | cell :: rest =>
    if validTrafficRouteCell cell false then
      sumCells (totals.add (totalsOf cell)) rest
    else none

def allowedDropReasons : List String :=
  ["encoding_failed", "low_risk_capacity_reserved", "vault_capacity_exhausted", "vault_unavailable"]

def sumDrops (dropped : Int) : List (String × Int) → Option Int
  | [] => some dropped
  | (reason, count) :: rest =>
    if !allowedDropReasons.contains reason || count < 0 then none
    else sumDrops (dropped + count) rest

def invalidWindow (message : String) : Option Rejection := some ⟨"invalid_window", message⟩

def checkTrafficWindow : Option TrafficWindow → Option Rejection
  | none => invalidWindow "traffic window is incomplete or exceeds policy bounds"
  | some w =>
    match windowComplete w, w.other with
    | true, some other =>
      if !validTrafficRouteCell other true then
        invalidWindow "traffic window other cell is invalid"
      else
        match sumCells (totalsOf other) w.routeCells with
        | none => invalidWindow "traffic window route cell is invalid"
        | some totals =>
          if totals ≠ ⟨w.requestCount, w.criticalCount, w.blockedCount, w.incompleteCount⟩ ∨
              w.observedCount < 0 ∨ w.requestCount < w.observedCount then
            invalidWindow ("traffic window aggregate counts do not " ++ "match route cells")
          else
            match sumDrops 0 w.evidenceDropReasons.rows with
            | none => invalidWindow "traffic window evidence drop reason is invalid"
            | some dropped =>
              if dropped ≠ w.evidenceDroppedCount then
                invalidWindow ("traffic window evidence drop " ++ "count does not match reasons")
              else none
    | _, _ => invalidWindow "traffic window is incomplete or exceeds policy bounds"

theorem checkTrafficWindow_pass {w other} (complete : windowComplete w = true)
    (present : w.other = some other) (valid : validTrafficRouteCell other true = true)
    (summed : sumCells (totalsOf other) w.routeCells =
      some ⟨w.requestCount, w.criticalCount, w.blockedCount, w.incompleteCount⟩)
    (observed : 0 ≤ w.observedCount ∧ w.observedCount ≤ w.requestCount)
    (dropped : sumDrops 0 w.evidenceDropReasons.rows = some w.evidenceDroppedCount) :
    checkTrafficWindow (some w) = none := by
  rw [checkTrafficWindow, complete, present]
  dsimp only
  rw [valid, summed, dropped]
  dsimp only
  rw [if_neg (by simp), if_neg, if_neg (by simp)]
  rintro (different | negative | excessive)
  · exact different rfl
  · omega
  · omega

/-- The checks on the sender that follow; `bound` answers whether the asset is
bound to the unit. -/
def ingestTrafficWindow (unitID : String) (bound : String → Bool)
    (w : TrafficWindow) : Option Rejection :=
  match checkTrafficWindow (some w) with
  | some rejection => some rejection
  | none =>
    if w.unitId ≠ "" ∧ w.unitId ≠ unitID then
      some ⟨"permission_denied", "window unit does not match authenticated unit"⟩
    else if !bound w.assetId then
      some ⟨"permission_denied", "asset is not bound to unit"⟩
    else none

/-! ## Candidates -/

def validReviewCandidateProjection (c : ReviewCandidate) : Bool :=
  match c.evidence with
  | none => false
  | some projection =>
    if projection.algorithm ≠ 0 ∨ projection.maxSpanBytes ≠ 0 ∨
        projection.fields.rows.length ≠ 2 then false
    else
      (projection.fields.find? "method").getD "" = c.method &&
        (projection.fields.find? "route_template").getD "" = c.routeTemplate

def allowedRiskReasons : List String :=
  ["sync_detection", "suspected_miss", "unmitigated", "blocked",
    "inspection_incomplete", "unmapped_detection", "anomaly_score", "critical"]

def validReviewRiskReasons (seen : List String) : List String → Bool
  | [] => true
  | reason :: rest =>
    if !allowedRiskReasons.contains reason || seen.contains reason then
      false
    else validReviewRiskReasons (reason :: seen) rest

def isHexDigit (c : Char) : Bool := between '0' '9' c || between 'a' 'f' c || between 'A' 'F' c

def validSHA256Reference (value : String) : Bool :=
  startsWith "sha256:" value && value.utf8ByteSize = 7 + 64 && (value.toList.drop 7).all isHexDigit

def candidateComplete (now : Int) (c : ReviewCandidate) : Bool :=
  match c.occurredAt, c.evidenceExpiresAt with
  | some occurred, some expires =>
    !blank c.candidateId && !blank c.windowId && !blank c.assetId &&
      occurred.isValid && expires.isValid && now < expires.asTime &&
      expires.asTime ≤ occurred.asTime + trafficReviewEvidenceTTL * second &&
      !Rat.blt c.riskScore (Rat.ofInt 0) && !Rat.blt (Rat.ofInt 100) c.riskScore &&
      ReviewMode.redactedCases.number ≤ c.reviewMode.number &&
      c.reviewMode.number ≤ ReviewMode.shadowCandidates.number && c.method.utf8ByteSize ≤ 32 &&
      c.routeTemplate.utf8ByteSize ≤ 2048 && c.riskReasons.length ≤ 16 &&
      c.routeTemplate = trafficRouteTemplate c.routeTemplate &&
      c.baseline = decide (c.riskScore = Rat.ofInt 0) && validReviewCandidateProjection c &&
      validReviewRiskReasons [] c.riskReasons
  | _, _ => false

def invalidCandidate (message : String) : Option Rejection := some ⟨"invalid_candidate", message⟩

structure WindowRow where
  unitId : String
  assetId : String
  windowStart : Int
  windowEnd : Int
  generationId : String
  generationSeq : Int
  reviewMode : ReviewMode
  deriving DecidableEq

def windowRow (unitID : String) (w : TrafficWindow) : Option WindowRow :=
  match w.windowStart, w.windowEnd with
  | some start, some stop =>
    some ⟨unitID, w.assetId, start.asTime, stop.asTime, w.generationId,
      w.generationSeq, w.reviewMode⟩
  | _, _ => none

def bindsWindow (unitID : String) (row : WindowRow) (c : ReviewCandidate) : Bool :=
  match c.occurredAt with
  | none => false
  | some occurred =>
    row.unitId = unitID && row.assetId = c.assetId && row.windowStart ≤ occurred.asTime &&
      occurred.asTime < row.windowEnd && row.generationId = c.generationId &&
      row.generationSeq = c.generationSeq && row.reviewMode = c.reviewMode

/-- The checks of `ingestReviewCandidate` at the time `now`: on the fields,
on the sender, and against the stored row of the candidate's window. -/
def ingestReviewCandidate (now : Int) (unitID : String)
    (bound : String → Bool) (stored : Option WindowRow)
    (c : ReviewCandidate) : Option Rejection :=
  if !candidateComplete now c then
    invalidCandidate "review candidate is incomplete or exceeds policy bounds"
  else if ReviewMode.evidenceOnApproval.number ≤ c.reviewMode.number ∧
      (blank c.evidenceHandle ∨ !validSHA256Reference c.evidenceDigest) then
    invalidCandidate ("evidence-enabled candidate requires an opaque " ++
      "evidence handle and digest")
  else if c.reviewMode = .redactedCases ∧ (c.evidenceHandle ≠ "" ∨ c.evidenceDigest ≠ "") then
    invalidCandidate "redacted candidate must not carry an evidence reference"
  else if c.unitId ≠ "" ∧ c.unitId ≠ unitID then
    some ⟨"permission_denied", "candidate unit does not match authenticated unit"⟩
  else if !bound c.assetId then
    some ⟨"permission_denied", "asset is not bound to unit"⟩
  else
    match stored with
    | some row =>
      if bindsWindow unitID row c then none
      else some ⟨"window_binding_mismatch",
        "review candidate does not match an accepted traffic window"⟩
    | none => some ⟨"window_binding_mismatch",
        "review candidate does not match an accepted traffic window"⟩

theorem ingestReviewCandidate_pass {now unitID} {bound : String → Bool} {row c}
    (complete : candidateComplete now c = true)
    (evidence : ReviewMode.evidenceOnApproval.number ≤ c.reviewMode.number →
      blank c.evidenceHandle = false ∧ validSHA256Reference c.evidenceDigest = true)
    (redacted : c.reviewMode = .redactedCases → c.evidenceHandle = "" ∧ c.evidenceDigest = "")
    (unit : c.unitId = unitID) (asset : bound c.assetId = true)
    (binds : bindsWindow unitID row c = true) :
    ingestReviewCandidate now unitID bound (some row) c = none := by
  rw [ingestReviewCandidate, if_neg (by simp [complete]), if_neg, if_neg,
    if_neg (fun other => other.2 unit), if_neg (by simp [asset])]
  · rw [if_pos binds]
  · rintro ⟨mode, handle | digest⟩
    · exact handle (redacted mode).1
    · exact digest (redacted mode).2
  · rintro ⟨mode, handle | digest⟩
    · rw [(evidence mode).1] at handle
      contradiction
    · rw [(evidence mode).2] at digest
      contradiction

theorem ingestReviewCandidate_fixed {now unitID} {bound : String → Bool} {stored c}
    (passed : ingestReviewCandidate now unitID bound stored c = none) :
    c.routeTemplate = trafficRouteTemplate c.routeTemplate := by
  unfold ingestReviewCandidate at passed
  by_cases complete : (!candidateComplete now c) = true
  · rw [if_pos complete] at passed
    contradiction
  simp only [Bool.not_eq_true', Bool.not_eq_false] at complete
  rw [candidateComplete] at complete
  split at complete
  · simp only [Bool.and_eq_true, decide_eq_true_eq] at complete
    exact complete.1.1.1.2
  · contradiction

end YuFeng.Review

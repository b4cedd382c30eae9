import YuFeng.Library.Query
import YuFeng.Review.Messages

/-!
# The review collector

The collector counts the requests of a five-minute window by route and keeps
a few candidates for review.  A window is frozen when its time is over or the
unit, asset or generation changes; frozen windows wait in memory until they
are written to the spool.
-/

namespace YuFeng.Review

open YuFeng.Library

structure RouteKey where
  method : String
  route : String
  deriving DecidableEq

structure RouteCount where
  requests : Nat
  critical : Nat
  blocked : Nat
  incomplete : Nat
  deriving DecidableEq

def RouteCount.zero : RouteCount := ⟨0, 0, 0, 0⟩

def RouteCount.add (a b : RouteCount) : RouteCount :=
  ⟨a.requests + b.requests, a.critical + b.critical, a.blocked + b.blocked,
    a.incomplete + b.incomplete⟩

structure WindowState where
  start : Int
  stop : Int
  unitId : String
  assetId : String
  generation : String
  genSeq : Int
  policy : String
  total : RouteCount
  observed : Nat
  dropped : Int
  dropReasons : Table String Int
  routes : Table RouteKey RouteCount
  other : RouteCount
  candidates : List ReviewCandidate
  evidence : Table String Edge.Bytes

structure ReviewCollector where
  policy : TrafficReviewPolicy
  digest : String
  vaulted : Bool
  state : Option WindowState
  readyW : List TrafficWindow
  readyC : List ReviewCandidate
  readyVersion : Nat

structure VaultEntry where
  handle : Vector UInt8 16
  digest : Vector UInt8 32
  ttl : Int
  nonneg : 0 ≤ ttl
  bounded : ttl ≤ trafficReviewEvidenceTTL * second

inductive PutOutcome where
  | stored (entry : VaultEntry)
  | lowRiskCapacity
  | capacity
  | failed

/-- The answers of the vault during one freeze, by their position in it. -/
abbrev Vault := Nat → Edge.Bytes → ℚ → Int → PutOutcome

/-- What the collector calls: SHA-256, time formatting and the encoding of the
evidence document within a byte limit. -/
structure Services where
  sum256 : String → Vector UInt8 32
  formatTime : Int → String
  encodeEvidence : Edge.Request → Edge.Decision → String → Int → Option Edge.Bytes

/-! ## Judging a request -/

structure ReviewFlags where
  critical : Bool
  incomplete : Bool
  deriving DecidableEq

def reviewFlags (dec : Edge.Decision) : ReviewFlags :=
  let incomplete := dec.inspection.coverage.any fun c =>
    c.status ≠ .full && c.status ≠ .absent
  { critical := !dec.inspection.detections.isEmpty || dec.wouldHaveBlocked ||
      dec.action ≠ .allow || incomplete
    incomplete := incomplete }

def score (points : Int) : ℚ := Rat.ofInt points

def below (a b : ℚ) : Bool := Rat.blt a b

def raiseTo (points : Int) (risk : ℚ) : ℚ :=
  if below risk (score points) then score points else risk

def detectionRisk (risk : ℚ × List String) (d : Edge.Detection) : ℚ × List String :=
  let reasons :=
    if d.class = .unmapped ∧ "unmapped_detection" ∉ risk.2 then
      risk.2 ++ ["unmapped_detection"]
    else risk.2
  let reasons :=
    if below (score 0) d.score ∧ "anomaly_score" ∉ reasons then
      reasons ++ ["anomaly_score"]
    else reasons
  let raised := Rat.add (score 80) (Rat.mul d.score (score 20))
  (if below risk.1 raised then raised else risk.1, reasons)

def baseReasons (dec : Edge.Decision) (incomplete : Bool) : List String :=
  (if dec.inspection.detections.isEmpty then []
    else "sync_detection" :: if dec.action = .allow then ["suspected_miss"] else []) ++
  (if dec.wouldHaveBlocked ∨ dec.action = .observe then ["unmitigated"] else []) ++
  (if dec.action = .block then ["blocked"] else []) ++
  (if incomplete then ["inspection_incomplete"] else [])

def baseScore (dec : Edge.Decision) (incomplete : Bool) : ℚ :=
  let risk := if dec.inspection.detections.isEmpty then score 0 else score 80
  let risk :=
    if dec.wouldHaveBlocked ∨ dec.action = .observe then raiseTo 75 risk
    else risk
  let risk := if dec.action = .block then raiseTo 70 risk else risk
  if incomplete then raiseTo 60 risk else risk

def reviewRisk (dec : Edge.Decision) (flags : ReviewFlags) : ℚ × List String :=
  let risk := dec.inspection.detections.foldl detectionRisk
    (baseScore dec flags.incomplete, baseReasons dec flags.incomplete)
  if flags.critical ∧ risk.1 = score 0 then
    (score 50, risk.2 ++ ["critical"])
  else
    risk

/-! ## Windows -/

def windowText (S : Services) (unitId assetId : String) (start : Int)
    (generation : String) (genSeq : Int) (policy : String) : String :=
  unitId ++ "\x00" ++ assetId ++ "\x00" ++ S.formatTime start ++ "\x00" ++
    generation ++ "\x00" ++ toString genSeq ++ "\x00" ++ policy

def windowHash (S : Services) (text : String) : String := "tw-" ++ hexEncode (S.sum256 text).toList

def reviewWindowID (S : Services) (s : WindowState) : String :=
  windowHash S (windowText S s.unitId s.assetId s.start s.generation s.genSeq s.policy)

def keyText (key : RouteKey) : String := key.method ++ " " ++ key.route

/-- The order of route keys: bytes of the method, a space and the route. -/
def keyBefore (a b : RouteKey) : Bool := !textLe (keyText b).toList (keyText a).toList

def rarerRoute (best : Option (RouteKey × RouteCount))
    (row : RouteKey × RouteCount) : Option (RouteKey × RouteCount) :=
  match best with
  | none => some row
  | some least =>
    if row.2.requests < least.2.requests ||
        row.2.requests = least.2.requests && keyBefore row.1 least.1 then
      some row
    else best

def leastFrequentReviewRoute (routes : List (RouteKey × RouteCount)) :
    Option (RouteKey × RouteCount) :=
  routes.foldl rarerRoute none

def recordEvidenceDrop (s : WindowState) (reason : String) : WindowState :=
  { s with
    dropped := s.dropped + 1
    dropReasons := s.dropReasons.set reason ((s.dropReasons.find? reason).getD 0 + 1) }

def cellOf (key : RouteKey) (count : RouteCount) : TrafficRouteCell where
  method := key.method
  routeTemplate := key.route
  requestCount := count.requests
  criticalCount := count.critical
  blockedCount := count.blocked
  incompleteCount := count.incomplete

def pairBefore (a b : RouteKey × RouteCount) : Bool :=
  if a.2.requests = b.2.requests then keyBefore a.1 b.1
  else b.2.requests < a.2.requests

def insertPair (pair : RouteKey × RouteCount) :
    List (RouteKey × RouteCount) → List (RouteKey × RouteCount)
  | [] => [pair]
  | next :: rest =>
    if pairBefore next pair then next :: insertPair pair rest
    else pair :: next :: rest

def sortPairs (pairs : List (RouteKey × RouteCount)) : List (RouteKey × RouteCount) :=
  pairs.foldr insertPair []

def occurredTime (s : WindowState) (candidate : ReviewCandidate) : Int :=
  match candidate.occurredAt with
  | some t => if t.isValid then t.asTime else s.start
  | none => s.start

def withEvidence (candidate : ReviewCandidate) (handle digest : String)
    (expires : Int) : ReviewCandidate :=
  { candidate with
    evidenceHandle := handle
    evidenceDigest := digest
    evidenceExpiresAt := some (.new expires) }

def attachEvidence (candidate : ReviewCandidate) (entry : VaultEntry)
    (occurredAt : Int) : ReviewCandidate :=
  withEvidence candidate ("evh-" ++ hexEncode entry.handle.toList)
    ("sha256:" ++ hexEncode entry.digest.toList) (occurredAt + entry.ttl)

def fixEvidence (vault : Vault) (acc : WindowState × List ReviewCandidate)
    (numbered : ReviewCandidate × Nat) :
    WindowState × List ReviewCandidate :=
  let candidate := numbered.1
  let raw := (acc.1.evidence.find? candidate.candidateId).getD []
  let occurredAt := occurredTime acc.1 candidate
  match vault numbered.2 raw candidate.riskScore occurredAt with
  | .stored entry =>
    (acc.1, acc.2 ++ [attachEvidence candidate entry occurredAt])
  | .lowRiskCapacity =>
    (recordEvidenceDrop acc.1 "low_risk_capacity_reserved", acc.2)
  | .capacity =>
    (recordEvidenceDrop acc.1 "vault_capacity_exhausted", acc.2)
  | .failed => (recordEvidenceDrop acc.1 "vault_unavailable", acc.2)

def fixCandidates (vault : Vault) (c : ReviewCollector) (s : WindowState) :
    WindowState × List ReviewCandidate :=
  if c.policy.mode.number < ReviewMode.evidenceOnApproval.number then
    (s, s.candidates)
  else if !c.vaulted then
    (s.candidates.foldl (fun s _ => recordEvidenceDrop s "vault_unavailable") s, [])
  else
    s.candidates.zipIdx.foldl (fixEvidence vault) (s, [])

def windowMessage (S : Services) (c : ReviewCollector) (s : WindowState)
    (cells : List TrafficRouteCell) (other : RouteCount) :
    TrafficWindow where
  windowId := reviewWindowID S s
  unitId := s.unitId
  assetId := s.assetId
  windowStart := some (.new s.start)
  windowEnd := some (.new s.stop)
  generationId := s.generation
  generationSeq := s.genSeq
  policyDigest := s.policy
  requestCount := s.total.requests
  criticalCount := s.total.critical
  blockedCount := s.total.blocked
  observedCount := s.observed
  incompleteCount := s.total.incomplete
  routeCells := cells
  other := some (cellOf ⟨"", ""⟩ other)
  evidenceDroppedCount := s.dropped
  reviewMode := c.policy.mode
  evidenceDropReasons := s.dropReasons

def freeze (S : Services) (vault : Vault) (c : ReviewCollector)
    (s : WindowState) : TrafficWindow × List ReviewCandidate :=
  let fixed := fixCandidates vault c s
  let pairs := sortPairs fixed.1.routes.rows
  let limit := c.policy.topRouteCells.toNat
  -- routes beyond the limit are added to the other cell
  let other := ((pairs.drop limit).map Prod.snd).foldl RouteCount.add fixed.1.other
  (windowMessage S c fixed.1
    ((pairs.take limit).map fun pair => cellOf pair.1 pair.2) other, fixed.2)

def keepFrozen (S : Services) (vault : Vault) (c : ReviewCollector)
    (s : WindowState) : ReviewCollector :=
  let frozen := freeze S vault c s
  { c with
    readyW := c.readyW ++ [frozen.1]
    readyC := c.readyC ++ frozen.2
    readyVersion := c.readyVersion + 1 }

/-! ## Candidates -/

def candidateKey (method route : String) (reasons : List String) : String :=
  method ++ "\x00" ++ route ++ "\x00" ++ ",".intercalate reasons

def hasReviewCandidateKey (candidates : List ReviewCandidate) (key : String) : Bool :=
  candidates.any fun c =>
    candidateKey c.method c.routeTemplate c.riskReasons = key

def hasReviewBaseline (candidates : List ReviewCandidate) : Bool := candidates.any (·.baseline)

/-- The index of the first candidate of least risk that is no baseline. -/
def lowestRisk (candidates : List ReviewCandidate) : Option (Nat × ReviewCandidate) :=
  candidates.zipIdx.foldl (fun lowest row =>
    if row.1.baseline then lowest
    else match lowest with
      | none => some (row.2, row.1)
      | some low =>
        if below row.1.riskScore low.2.riskScore then some (row.2, row.1)
        else lowest) none

def reviewCandidateSlot (s : WindowState) (candidate : ReviewCandidate)
    (limit : Nat) : Option Nat :=
  if s.candidates.length < limit then
    some s.candidates.length
  else
    match lowestRisk s.candidates with
    | none => none
    | some low =>
      if candidate.baseline ∨ below low.2.riskScore candidate.riskScore then
        some low.1
      else
        none

def placeCandidate (s : WindowState) (slot : Nat) (candidate : ReviewCandidate) : WindowState :=
  if slot = s.candidates.length then
    { s with candidates := s.candidates ++ [candidate] }
  else
    { s with
      candidates := s.candidates.set slot candidate
      evidence :=
        match s.candidates[slot]? with
        | some old => s.evidence.erase old.candidateId
        | none => s.evidence }

/-- What the random source gives for an identifier. -/
inductive Draw where
  | bytes (value : Vector UInt8 16)
  | failed (nanos : Int)

def newEventID : Draw → String
  | .bytes value => hexEncode value.toList
  | .failed nanos => "evt-" ++ toString nanos

structure Observation where
  now : Reading
  unitId : String
  assetId : String
  requestId : String
  draw : Draw
  request : Edge.Request
  decision : Edge.Decision
  vault : Vault

def projectionOf (method route : String) : EvidenceProjection where
  algorithm := 0
  maxSpanBytes := 0
  fields := (Table.empty.set "method" method).set "route_template" route

def newCandidate (S : Services) (policy : TrafficReviewPolicy)
    (s : WindowState) (o : Observation) (route : String)
    (risk : ℚ × List String) : ReviewCandidate where
  candidateId := newEventID o.draw
  windowId := reviewWindowID S s
  unitId := s.unitId
  assetId := s.assetId
  occurredAt := some (.new o.now.time)
  requestId := o.requestId
  method := o.request.method
  routeTemplate := route
  riskScore := risk.1
  riskReasons := risk.2
  evidence := some (projectionOf o.request.method route)
  evidenceHandle := ""
  evidenceDigest := ""
  evidenceExpiresAt := some (.new (o.now.time + policy.evidenceTtlSeconds * second))
  generationId := o.decision.generationId
  generationSeq := o.decision.generationSeq
  baseline := risk.1 = score 0
  reviewMode := policy.mode

def maybeCandidate (S : Services) (policy : TrafficReviewPolicy)
    (s : WindowState) (o : Observation) (route : String)
    (flags : ReviewFlags) : WindowState :=
  if policy.mode.number < ReviewMode.redactedCases.number then s
  else
    let risk := reviewRisk o.decision flags
    let candidate := newCandidate S policy s o route risk
    if candidate.baseline && hasReviewBaseline s.candidates then s
    else if hasReviewCandidateKey s.candidates (candidateKey o.request.method route risk.2) then s
    else
      match reviewCandidateSlot s candidate policy.maxCandidatesPerWindow.toNat with
      | none => s
      | some slot =>
        if policy.mode.number < ReviewMode.evidenceOnApproval.number then
          placeCandidate s slot candidate
        else
          match S.encodeEvidence o.request o.decision route policy.maxEvidenceBytes with
          | none => recordEvidenceDrop s "encoding_failed"
          | some document =>
            placeCandidate { s with
              evidence := s.evidence.set candidate.candidateId document }
              slot candidate

/-! ## Observing -/

def bit (flag : Bool) : Nat := if flag then 1 else 0

def countOf (dec : Edge.Decision) (flags : ReviewFlags) : RouteCount where
  requests := 1
  critical := bit flags.critical
  blocked := bit (dec.action = .block)
  incomplete := bit flags.incomplete

def evictRoute (s : WindowState) : WindowState :=
  match leastFrequentReviewRoute s.routes.rows with
  | none => s
  | some least =>
    { s with
      other := s.other.add least.2
      routes := s.routes.erase least.1 }

def makeRoom (policy : TrafficReviewPolicy) (s : WindowState) : WindowState :=
  if (s.routes.rows.length : Int) < policy.topRouteCells then s
  else evictRoute s

def countRoute (policy : TrafficReviewPolicy) (s : WindowState)
    (key : RouteKey) (count : RouteCount) : WindowState :=
  match s.routes.find? key with
  | some cell => { s with routes := s.routes.set key (cell.add count) }
  | none =>
    let s := makeRoom policy s
    { s with routes := s.routes.set key count }

def truncate (policy : TrafficReviewPolicy) (now : Int) : Int :=
  now - now % (policy.windowSeconds * second)

def openWindow (c : ReviewCollector) (o : Observation) : WindowState where
  start := truncate c.policy o.now.time
  stop := truncate c.policy o.now.time + c.policy.windowSeconds * second
  unitId := o.unitId
  assetId := o.assetId
  generation := o.decision.generationId
  genSeq := o.decision.generationSeq
  policy := c.digest
  total := .zero
  observed := 0
  dropped := 0
  dropReasons := .empty
  routes := .empty
  other := .zero
  candidates := []
  evidence := .empty

def WindowState.covers (c : ReviewCollector) (s : WindowState) (o : Observation) : Bool :=
  s.start = truncate c.policy o.now.time && s.unitId = o.unitId &&
    s.assetId = o.assetId && s.generation = o.decision.generationId &&
    s.genSeq = o.decision.generationSeq

def ensureWindow (S : Services) (c : ReviewCollector) (o : Observation) :
    ReviewCollector × WindowState :=
  match c.state with
  | none => (c, openWindow c o)
  | some s =>
    if s.covers c o then (c, s)
    else (keepFrozen S o.vault c s, openWindow c o)

def countTotals (s : WindowState) (dec : Edge.Decision) (flags : ReviewFlags) : WindowState :=
  { s with
    total := s.total.add (countOf dec flags)
    observed := s.observed + bit (dec.action = .observe || dec.wouldHaveBlocked) }

def countRequest (policy : TrafficReviewPolicy) (s : WindowState)
    (o : Observation) (route : String) (flags : ReviewFlags) :
    WindowState :=
  countRoute policy (countTotals s o.decision flags)
    ⟨toUpper o.request.method, route⟩ (countOf o.decision flags)

def observe (S : Services) (c : ReviewCollector) (o : Observation) : ReviewCollector :=
  if c.policy.mode = .off then c
  else
    let opened := ensureWindow S c o
    let flags := reviewFlags o.decision
    let route := trafficRouteTemplate o.request.path
    let s := countRequest c.policy opened.2 o route flags
    { opened.1 with
      state := some (maybeCandidate S c.policy s o route flags) }

/-! ## Draining -/

def prepareDrain (S : Services) (vault : Vault) (c : ReviewCollector)
    (now : Reading) : ReviewCollector :=
  match c.state with
  | some s =>
    if s.stop ≤ now.time then
      { keepFrozen S vault c s with state := none }
    else c
  | none => c

def prepareFlush (S : Services) (vault : Vault) (c : ReviewCollector) : ReviewCollector :=
  match c.state with
  | some s => { keepFrozen S vault c s with state := none }
  | none => c

/-- Frozen windows are forgotten if none joined them since `version`. -/
def commitDrain (c : ReviewCollector) (version : Nat) : ReviewCollector :=
  if version = c.readyVersion then { c with readyW := [], readyC := [] }
  else c

def newReviewCollector (policy : TrafficReviewPolicy) (digest : String)
    (vaulted : Bool) : Except String ReviewCollector :=
  match validateTrafficReviewPolicy (some policy) with
  | some err => .error err
  | none => .ok ⟨policy, digest, vaulted, none, [], [], 0⟩

/-- The calls on a collector; each is made under its lock. -/
inductive CollectorOp where
  | observe (o : Observation)
  | drain (vault : Vault) (now : Reading)
  | flush (vault : Vault)
  | commit (version : Nat)

def collectorStep (S : Services) (c : ReviewCollector) : CollectorOp → ReviewCollector
  | .observe o => observe S c o
  | .drain vault now => prepareDrain S vault c now
  | .flush vault => prepareFlush S vault c
  | .commit version => commitDrain c version

end YuFeng.Review

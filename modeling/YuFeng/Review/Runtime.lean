import YuFeng.Review.Candidates

/-!
# The review runtime of an edge

The edge observes requests with the collector of their generation and writes
the frozen windows and candidates to the review spool, one frame for all that
wait.  A frame is uploaded as one batch; the answer is split by the
identifiers of the frame.
-/

namespace YuFeng.Review

open YuFeng.Library

/-! ## Answers -/

structure RejectedEvent where
  eventId : String
  retryable : Bool
  deriving DecidableEq

inductive SplitError where
  | source
  | rejection
  | unknown
  deriving DecidableEq, Repr

def SplitError.text (kind : String) : SplitError → String
  | .source => kind ++ " source identity is invalid"
  | .rejection => kind ++ " rejection identity is invalid"
  | .unknown => kind ++ " rejection references an unknown item"

def sourceIdentities (seen : List String) : List String → Bool
  | [] => true
  | id :: rest =>
    if blank id || seen.contains id then false
    else sourceIdentities (id :: seen) rest

def rejectionTable (byID : Table String RejectedEvent) :
    List RejectedEvent → Option (Table String RejectedEvent)
  | [] => some byID
  | item :: rest =>
    if item.eventId = "" ∨ (byID.find? item.eventId).isSome then none
    else rejectionTable (byID.set item.eventId item) rest

/-- The third loop: the records to retry, the records that are refused for
good, and the rejections that no record has. -/
def settleRecords {α : Type} (id : α → String) :
    List α → Table String RejectedEvent → List α × List α × Table String RejectedEvent
  | [], byID => ([], [], byID)
  | value :: rest, byID =>
    match byID.find? (id value) with
    | none => settleRecords id rest byID
    | some item =>
      let settled := settleRecords id rest (byID.erase (id value))
      if item.retryable then
        (value :: settled.1, settled.2.1, settled.2.2)
      else (settled.1, value :: settled.2.1, settled.2.2)

def splitRejected {α : Type} (id : α → String) (values : List α)
    (rejected : List RejectedEvent) : Except SplitError (List α × List α) :=
  if !sourceIdentities [] (values.map id) then .error .source
  else
    match rejectionTable .empty rejected with
    | none => .error .rejection
    | some byID =>
      let settled := settleRecords id values byID
      if settled.2.2.rows.isEmpty then .ok (settled.1, settled.2.1)
      else .error .unknown

def splitRejectedWindows : List TrafficWindow → List RejectedEvent →
    Except SplitError (List TrafficWindow × List TrafficWindow) :=
  splitRejected (·.windowId)

def splitRejectedCandidates : List ReviewCandidate → List RejectedEvent →
    Except SplitError (List ReviewCandidate × List ReviewCandidate) :=
  splitRejected (·.candidateId)

/-- The first check of `UploadTrafficWindows` and `UploadReviewCandidates`. -/
def batchExceeded {α : Type} (records : List α) : Bool := 100 < records.length

/-! ## Frames -/

/-- What becomes of a write: whether the frame is on disk, and whether an
error is returned. -/
structure WriteResult where
  written : Bool
  failed : Bool
  deriving DecidableEq

def appendFrame {α : Type} (frames : List (List α)) (records : List α)
    (result : WriteResult) : List (List α) × Bool :=
  if records.isEmpty then (frames, false)
  else (if result.written then frames ++ [records] else frames, result.failed)

structure EdgeReview where
  unitId : String
  assetId : String
  spooled : Bool
  collector : Option ReviewCollector
  reviewSeq : Int
  windowFrames : List (List TrafficWindow)
  candidateFrames : List (List ReviewCandidate)

def newEdgeReview (unitId assetId : String) (spooled : Bool) : EdgeReview :=
  ⟨unitId, assetId, spooled, none, 0, [], []⟩

structure Writes where
  windows : WriteResult
  candidates : WriteResult
  deriving DecidableEq

/-- `true` is an error; a failed write of the windows ends the attempt. -/
def persistReviewLocked (e : EdgeReview) (windows : List TrafficWindow)
    (candidates : List ReviewCandidate) (writes : Writes) :
    EdgeReview × Bool :=
  if !e.spooled then (e, true)
  else
    let first := appendFrame e.windowFrames windows writes.windows
    let e := { e with windowFrames := first.1 }
    if first.2 then (e, true)
    else
      let second := appendFrame e.candidateFrames candidates writes.candidates
      ({ e with candidateFrames := second.1 }, second.2)

def settleReady (e : EdgeReview) (c : ReviewCollector) (writes : Writes) : EdgeReview × Bool :=
  let persisted := persistReviewLocked e c.readyW c.readyC writes
  if persisted.2 then ({ persisted.1 with collector := some c }, true)
  else ({ persisted.1 with
    collector := some (commitDrain c c.readyVersion) }, false)

/-! ## Operations -/

/-- One call of `observeTrafficReview`: the policy of the release set, the
state of the vault, the request, and the results of the writes. -/
structure ReviewCall where
  policy : Option TrafficReviewPolicy
  digest : String
  vaulted : Bool
  observation : Observation
  writes : Writes

def ReviewCall.seq (r : ReviewCall) : Int := r.observation.decision.generationSeq

def EdgeReview.observation (e : EdgeReview) (r : ReviewCall) : Observation :=
  { r.observation with unitId := e.unitId, assetId := e.assetId }

def flushCollector (S : Services) (e : EdgeReview) (r : ReviewCall) : EdgeReview × Bool :=
  match e.collector with
  | none => (e, false)
  | some c =>
    settleReady e (prepareFlush S r.observation.vault c) r.writes

def observeWith (S : Services) (e : EdgeReview) (r : ReviewCall) : EdgeReview :=
  { e with collector := e.collector.map fun c =>
      observe S c (e.observation r) }

def switchCollector (S : Services) (e : EdgeReview)
    (policy : TrafficReviewPolicy) (r : ReviewCall) : EdgeReview :=
  let flushed := flushCollector S e r
  if flushed.2 then flushed.1
  else
    match newReviewCollector policy r.digest r.vaulted with
    | .error _ => flushed.1
    | .ok c => observeWith S { flushed.1 with collector := some c, reviewSeq := r.seq } r

def observeTrafficReview (S : Services) (e : EdgeReview) (r : ReviewCall) : EdgeReview :=
  match r.policy with
  | none => e
  | some policy =>
    if !e.spooled || policy.mode = .unspecified || policy.mode = .off then
      e
    else if e.collector.isNone || e.reviewSeq ≠ r.seq then
      switchCollector S e policy r
    else observeWith S e r

def drainTrafficReview (S : Services) (e : EdgeReview) (vault : Vault)
    (now : Reading) (writes : Writes) : EdgeReview :=
  match e.collector with
  | none => e
  | some c => (settleReady e (prepareDrain S vault c now) writes).1

inductive RuntimeOp where
  | observe (r : ReviewCall)
  | drain (vault : Vault) (now : Reading) (writes : Writes)
  | restart

def runtimeStep (S : Services) (e : EdgeReview) : RuntimeOp → EdgeReview
  | .observe r => observeTrafficReview S e r
  | .drain vault now writes => drainTrafficReview S e vault now writes
  | .restart => { e with collector := none, reviewSeq := 0 }

end YuFeng.Review

import Mathlib.Data.List.Sort
import YuFeng.Review.Evidence

/-!
# The brain's side of the evidence relay

An approval becomes one request for each unit that holds some of its
evidence, a poll leases the requests of a unit, and a submitted bundle is
checked against the request it answers.
-/

namespace YuFeng.Evidence

open YuFeng.Library
open YuFeng.Generation (newID)

/-! ## Approvals -/

inductive ApprovalState where
  | pending
  | approved
  | denied
  | consumed
  | expired
  deriving DecidableEq, Repr

structure EvidenceApproval where
  caseId : String
  assetId : String
  evidenceHandles : List String
  allowedFields : List String
  maxBytes : Int
  modelConfigDigest : String
  state : ApprovalState := .pending
  expiresAt : Int
  /-- The table checks the bounds. -/
  bounded : 1 ≤ maxBytes ∧ maxBytes ≤ 40960
  deriving DecidableEq

structure CandidateRow where
  assetId : String
  unitId : String
  evidenceHandle : String
  evidenceExpiresAt : Int
  deriving DecidableEq

inductive RequestState where
  | pending
  | leased
  | submitted
  | expired
  deriving DecidableEq, Repr

structure RequestRow where
  approvalId : String
  caseId : String
  assetId : String
  unitId : String
  evidenceHandles : List String
  allowedFields : List String
  maxBytes : Int
  modelConfigDigest : String
  expiresAt : Int
  bundleGroupId : String
  state : RequestState := .pending
  leaseId : String := ""
  leaseEpoch : Int := 0
  leaseDeadline : Option Int := none
  bundleDigest : String := ""
  sensitiveContentRef : String := ""
  deriving DecidableEq

structure Bound where
  found : List String := []
  byUnit : List (String × List String) := []
  deriving DecidableEq

def Bound.add (bound : Bound) (row : CandidateRow) : Except RpcError Bound := do
  ensure (row.unitId != "" && !bound.found.contains row.evidenceHandle)
    ⟨.unknown, "approved evidence binding is ambiguous"⟩
  return {
    found := row.evidenceHandle :: bound.found
    byUnit := put row.unitId ((bound.byUnit.lookup row.unitId).getD [] ++ [row.evidenceHandle])
      bound.byUnit }

def unitMaxBytes (maxBytes : Int) (own all : Nat) : Int := (maxBytes * own).tdiv all

def EvidenceApproval.request (approval : EvidenceApproval)
    (approvalId : String) (random : String → String)
    (group : String × List String) : Except RpcError (String × RequestRow) := do
  let bytes := unitMaxBytes approval.maxBytes group.2.length approval.evidenceHandles.length
  ensure (group.2.length ≤ bytes) ⟨.unknown, "approved evidence byte budget is too small"⟩
  return (newID "evidence" (random group.1), {
    approvalId := approvalId
    caseId := approval.caseId
    assetId := approval.assetId
    unitId := group.1
    evidenceHandles := group.2
    allowedFields := approval.allowedFields
    maxBytes := bytes
    modelConfigDigest := approval.modelConfigDigest
    expiresAt := approval.expiresAt
    bundleGroupId := approvalId })

def EvidenceApproval.requests (approval : EvidenceApproval)
    (approvalId : String) (now : Int) (candidates : List CandidateRow)
    (random : String → String) :
    Except RpcError (List (String × RequestRow)) := do
  ensure (!approval.evidenceHandles.isEmpty) ⟨.unknown, "approved evidence handles are invalid"⟩
  let rows := candidates.filter fun row =>
    row.assetId == approval.assetId && now < row.evidenceExpiresAt &&
      approval.evidenceHandles.contains row.evidenceHandle
  let bound ← (orderBy CandidateRow.unitId
    (orderBy CandidateRow.evidenceHandle rows)).foldlM Bound.add {}
  require (bound.found.length == approval.evidenceHandles.length)
    .failedPrecondition "approved evidence set changed or expired"
  bound.byUnit.mapM (approval.request approvalId random)

def EvidenceApproval.decideEvidence (approval : EvidenceApproval)
    (approvalId : String) (approved : Bool) (now : Int)
    (currentDigest : String) (candidates : List CandidateRow)
    (random : String → String) :
    Except RpcError (EvidenceApproval × List (String × RequestRow)) := do
  require (approval.state == .pending && now < approval.expiresAt)
    .failedPrecondition "approval is expired or already decided"
  if !approved then
    return ({ approval with state := .denied }, [])
  else if currentDigest != approval.modelConfigDigest then
    return ({ approval with state := .expired }, [])
  else do
    let created ← approval.requests approvalId now candidates random
    return ({ approval with state := .approved }, created)

/-! ## Leases -/

abbrev Requests := Table String RequestRow

def leaseMillis : Int := 60000

def RequestRow.due (unitId : String) (now : Int) (row : RequestRow) : Bool :=
  row.unitId == unitId && now < row.expiresAt && (row.state == .pending ||
      row.state == .leased && row.leaseDeadline.any (· ≤ now))

def RequestRow.lease (now : Int) (random : String) (row : RequestRow) : RequestRow :=
  { row with
    state := .leased
    leaseId := newID "evidence-lease" random
    leaseEpoch := row.leaseEpoch + 1
    leaseDeadline :=
      some (if row.expiresAt < now + leaseMillis then row.expiresAt else now + leaseMillis) }

def RequestRow.message (requestId : String) (row : RequestRow) : EvidenceRequest where
  requestId := requestId
  approvalId := row.approvalId
  caseId := row.caseId
  assetId := row.assetId
  unitId := row.unitId
  evidenceHandles := row.evidenceHandles
  allowedFields := row.allowedFields
  maxBytes := row.maxBytes
  modelConfigDigest := row.modelConfigDigest
  expiresAt := some row.expiresAt
  leaseId := row.leaseId
  leaseEpoch := row.leaseEpoch
  leaseDeadline := row.leaseDeadline
  bundleGroupId := row.bundleGroupId

def dueRequests (requests : Requests) (unitId : String) (now : Int) : List (String × RequestRow) :=
  let due := requests.rows.filter fun row : String × RequestRow => row.2.due unitId now
  (due.insertionSort fun x y => x.2.expiresAt ≤ y.2.expiresAt).take 4

def pollEvidence (requests : Requests) (unitId : String) (now : Int)
    (random : String → String) : List EvidenceRequest × Requests :=
  let leased := (dueRequests requests unitId now).map
    fun row : String × RequestRow => (row.1, row.2.lease now (random row.1))
  (leased.map fun row => row.2.message row.1,
    leased.foldl (fun table row => table.set row.1 row.2) requests)

/-! ## Submission -/

def stringSet (values : List String) : List String := values.filter (· != "")

def Services.sensitiveEntryDigest (S : Services) (fragments : List EvidenceFragment) : String :=
  S.digest (digestInput fragments)

structure Tally where
  seenFragments : List String := []
  coveredHandles : List String := []
  total : Int := 0
  deriving DecidableEq

def EvidenceFragment.key (fragment : EvidenceFragment) : String :=
  fragment.evidenceHandle ++ "\x00" ++ fragment.field

def Tally.add (tally : Tally) (fragment : EvidenceFragment) : Tally where
  seenFragments := fragment.key :: tally.seenFragments
  coveredHandles := fragment.evidenceHandle :: tally.coveredHandles
  total := tally.total + fragment.content.length

def Services.checkFragment (S : Services) (row : RequestRow) (tally : Tally)
    (fragment : EvidenceFragment) : Except RpcError Tally := do
  require ((stringSet row.evidenceHandles).contains fragment.evidenceHandle &&
      (stringSet row.allowedFields).contains fragment.field)
    .permissionDenied "evidence fragment exceeds approved fields or handles"
  require (!tally.seenFragments.contains fragment.key) .invalidArgument
    "evidence fragment is duplicated"
  require (equalFold fragment.contentDigest (S.digest fragment.content))
    .invalidArgument "evidence fragment digest mismatch"
  return tally.add fragment

/-- A bundle that passes is stored, unless the same one has been before. -/
inductive Submission where
  | stored (bytes : Int)
  | repeated (contentRef digest : String) (expiresAt : Int)
  deriving DecidableEq

/-- The checks of a submission.  What passes goes into the relay. -/
def Services.submitEvidenceBundle (S : Services) (requests : Requests)
    (unitId : String) (now : Int) (bundle : SubmitEvidenceBundleRequest) :
    Except RpcError Submission :=
  match requests.find? bundle.requestId with
  | none => .error ⟨.notFound, "evidence request not found"⟩
  | some row => do
      require (row.unitId == unitId && row.approvalId == bundle.approvalId &&
          row.caseId == bundle.caseId)
        .permissionDenied "evidence request binding mismatch"
      let digest := S.sensitiveEntryDigest bundle.fragments
      require (equalFold bundle.bundleDigest digest) .invalidArgument
        "evidence bundle digest mismatch"
      if row.state == .submitted then do
        require (equalFold row.bundleDigest digest) .alreadyExists
          "evidence request was submitted with different content"
        return .repeated row.sensitiveContentRef row.bundleDigest row.expiresAt
      else do
        require (now < row.expiresAt && row.state == .leased &&
            stillOpen row.leaseDeadline now && row.leaseId != "" && bundle.leaseId == row.leaseId &&
            bundle.leaseEpoch == row.leaseEpoch)
          .failedPrecondition "evidence request lease is invalid or expired"
        let tally ← bundle.fragments.foldlM (S.checkFragment row) {}
        require (row.evidenceHandles.all tally.coveredHandles.contains) .failedPrecondition
          "evidence bundle does not cover every approved representative"
        require (tally.total != 0 && tally.total ≤ row.maxBytes)
          .resourceExhausted "evidence bundle exceeds approved byte limit"
        return .stored tally.total

end YuFeng.Evidence

import YuFeng.Brain.Generation
import YuFeng.Library.Utf8

/-!
# Evidence requests and bundles

An approval is split into one request for each unit.  The unit leases its
request, takes the approved fields of the stored documents, as many bytes as
the request allows, and submits them.  The brain checks the bundle against
the request.
-/

namespace YuFeng.Evidence

open YuFeng.Library
open YuFeng.Generation (newID)

abbrev Bytes := List UInt8

/-! ## Documents -/

structure EvidenceField where
  selector : String
  surface : String
  length : Int
  charset : String
  digest : String
  /-- Any bytes, as the request had them. -/
  value : Bytes := []
  deriving DecidableEq

structure EvidenceDocument where
  method : String
  routeTemplate : String
  contentType : String := ""
  contentLength : Int := 0
  fields : List EvidenceField := []
  deriving DecidableEq

structure EvidenceBody where
  contentType : String
  contentLength : Int
  fields : List EvidenceField
  deriving DecidableEq

structure Services where
  decodeDocument : Bytes → Except String EvidenceDocument
  marshalFields : List EvidenceField → Bytes
  marshalBody : EvidenceBody → Bytes
  sum256 : Bytes → Vector UInt8 32
  toLower : String → String

def Services.digest (S : Services) (content : Bytes) : String :=
  "sha256:" ++ hexEncode (S.sum256 content).toList

def checkSurface (kind : Option String) (surface : String) : Except String Unit :=
  match kind with
  | some "query" =>
    ensure (surface == "query") "approved evidence document surface is invalid"
  | some "json" | some "body" | some "arg" =>
    ensure (surface == "body") "approved evidence document surface is invalid"
  | _ => .error "approved evidence document field is unsupported"

def Services.validateField (S : Services) (seen : List String)
    (field : EvidenceField) : Except String (List String) := do
  let selector := S.toLower (trimSpace field.selector)
  let parts := cutText '.' selector
  ensure (parts.any (fun p => p.2 != "") && 0 ≤ field.length &&
    !seen.contains selector) "approved evidence document field is invalid"
  checkSurface (parts.map Prod.fst) field.surface
  return selector :: seen

def Services.validateEvidenceDocument (S : Services)
    (document : EvidenceDocument) : Except String Unit := do
  ensure (trimSpace document.method != "" &&
    trimSpace document.routeTemplate != "" && 0 ≤ document.contentLength)
    "approved evidence document is incomplete"
  let _ ← document.fields.foldlM S.validateField []

def EvidenceDocument.queryFields (document : EvidenceDocument) : List EvidenceField :=
  document.fields.filter (·.surface == "query")

def EvidenceDocument.bodyFields (document : EvidenceDocument) : List EvidenceField :=
  document.fields.filter (·.surface == "body")

def EvidenceDocument.body (document : EvidenceDocument)
    (fields : List EvidenceField) : EvidenceBody :=
  ⟨document.contentType, document.contentLength, fields⟩

def Services.parts (S : Services) (document : EvidenceDocument) : List (String × Bytes) :=
  [("method", utf8 document.method), ("path", utf8 document.routeTemplate)] ++
    (if document.queryFields ≠ [] then
      [("query", S.marshalFields document.queryFields)] else []) ++
    (if document.contentType ≠ "" ∨ 0 < document.contentLength ∨ document.bodyFields ≠ [] then
      [("body", S.marshalBody (document.body document.bodyFields))] else [])

/-! ## Bundles -/

structure EvidenceRequest where
  requestId : String
  approvalId : String
  caseId : String
  assetId : String
  unitId : String
  evidenceHandles : List String
  allowedFields : List String
  maxBytes : Int
  modelConfigDigest : String
  expiresAt : Option Int
  leaseId : String := ""
  leaseEpoch : Int := 0
  leaseDeadline : Option Int := none
  bundleGroupId : String := ""
  deriving DecidableEq

structure EvidenceFragment where
  evidenceHandle : String
  field : String
  content : Bytes
  contentDigest : String
  deriving DecidableEq

structure SubmitEvidenceBundleRequest where
  requestId : String
  approvalId : String
  caseId : String
  leaseId : String
  leaseEpoch : Int
  fragments : List EvidenceFragment
  bundleDigest : String
  deriving DecidableEq

section Fitting

variable (limit : Int) (allowEmpty : Bool) (marshal : List EvidenceField → Bytes)

def fit (bounded : List EvidenceField) : Option Bytes :=
  if !allowEmpty && bounded.isEmpty then none
  else if (marshal bounded).length ≤ limit then some (marshal bounded)
  else none

def fitDropped : Nat → List EvidenceField → Bytes
  | 0, _ => []
  | n + 1, bounded =>
    match fit limit allowEmpty marshal bounded.dropLast with
    | some raw => raw
    | none => fitDropped n bounded.dropLast

def EvidenceField.cleared (field : EvidenceField) : EvidenceField :=
  { field with value := [] }

def fitCleared : Nat → List EvidenceField → Bytes
  | 0, bounded => fitDropped limit allowEmpty marshal bounded.length bounded
  | index + 1, bounded =>
    if bounded[index]?.all (·.value.isEmpty) then fitCleared index bounded
    else
      let cleared := bounded.modify index EvidenceField.cleared
      match fit limit allowEmpty marshal cleared with
      | some raw => raw
      | none => fitCleared index cleared

def fitStructuredEvidence (fields : List EvidenceField) : Bytes :=
  if limit ≤ 0 then []
  else match fit limit allowEmpty marshal fields with
    | some raw => raw
    | none => fitCleared limit allowEmpty marshal fields.length fields

end Fitting

def Services.fitPart (S : Services) (document : EvidenceDocument)
    (part : String × Bytes) (remaining : Int) : Bytes :=
  if part.2.length ≤ remaining then part.2
  else match part.1 with
    | "query" =>
      fitStructuredEvidence remaining false S.marshalFields document.queryFields
    | "body" =>
      fitStructuredEvidence remaining true (fun fields => S.marshalBody (document.body fields))
        document.bodyFields
    | _ => []

structure Collected where
  fragments : List EvidenceFragment := []
  bytes : Int := 0
  deriving DecidableEq

def Services.fragment (S : Services) (handle field : String) (content : Bytes) : EvidenceFragment :=
  ⟨handle, field, content, S.digest content⟩

def Services.addPart (S : Services) (allowed : List String)
    (handle : String) (document : EvidenceDocument) (budget : Int)
    (acc : Collected) (part : String × Bytes) : Collected :=
  if !allowed.contains part.1 || part.2.isEmpty || budget ≤ acc.bytes then
    acc
  else
    let content := S.fitPart document part (budget - acc.bytes)
    if content.isEmpty then acc
    else {
      fragments := acc.fragments ++ [S.fragment handle part.1 content]
      bytes := acc.bytes + content.length }

/-- The vault, as it answers at the time of the call. -/
abbrev Vault := String → Except String (Option Bytes)

def Services.collectHandle (S : Services) (vault : Vault)
    (allowed : List String) (budget : Int) (handle : String) :
    Except String Collected := do
  let stored ← vault handle
  match stored with
  | none => throw "approved evidence handle is unavailable"
  | some raw => do
      let document ← S.decodeDocument raw
      S.validateEvidenceDocument document
      let own := (S.parts document).foldl (S.addPart allowed handle document budget) {}
      ensure (own.bytes != 0) "approved evidence handle contains no available allowed field"
      return own

/-- Every handle may use an equal share of what the earlier ones left. -/
def Services.collect (S : Services) (vault : Vault) (allowed : List String)
    (limit : Int) : List String → Collected → Except String Collected
  | [], acc => .ok acc
  | handle :: rest, acc => do
      let budget := (limit - acc.bytes).tdiv (rest.length + 1)
      let own ← S.collectHandle vault allowed budget handle
      S.collect vault allowed limit rest {
        fragments := acc.fragments ++ own.fragments
        bytes := acc.bytes + own.bytes }

def supportedEvidenceBundleField (field : String) : Bool :=
  ["method", "path", "query", "body"].contains field

def trafficReviewModelEvidenceBytes : Int := 30720

def modelInputBytes (request : EvidenceRequest) : Int :=
  if trafficReviewModelEvidenceBytes < request.maxBytes then
    trafficReviewModelEvidenceBytes
  else request.maxBytes

def digestInput (fragments : List EvidenceFragment) : Bytes :=
  fragments.flatMap fun fragment =>
    utf8 fragment.evidenceHandle ++ [0] ++ utf8 fragment.field ++ [0] ++
      utf8 fragment.contentDigest ++ [0]

def Services.evidenceBundleDigest (S : Services) (fragments : List EvidenceFragment) : String :=
  S.digest (digestInput fragments)

def stillOpen (deadline : Option Int) (now : Int) : Bool := deadline.any fun time => now < time

def distinctAnd (accepted : String → Bool) : List String → Bool
  | [] => true
  | x :: xs => accepted x && !xs.contains x && distinctAnd accepted xs

def Services.buildEvidenceBundle (S : Services) (vault : Option Vault)
    (request : EvidenceRequest) (now : Int) :
    Except String SubmitEvidenceBundleRequest := do
  ensure (stillOpen request.expiresAt now) "evidence request is expired"
  ensure (stillOpen request.leaseDeadline now) "evidence request lease is expired"
  match vault with
  | none => throw "evidence vault is unavailable"
  | some vault => do
      ensure (distinctAnd (fun handle => trimSpace handle != "") request.evidenceHandles)
        "approved evidence handle identity is invalid"
      ensure (distinctAnd supportedEvidenceBundleField request.allowedFields)
        "approved evidence field is invalid"
      ensure (request.evidenceHandles.length ≤ modelInputBytes request)
        "evidence byte budget cannot cover every approved handle"
      let all ← S.collect vault request.allowedFields
        (modelInputBytes request) request.evidenceHandles {}
      ensure (!all.fragments.isEmpty)
        "approved evidence is unavailable or contains no allowed fields"
      return {
        requestId := request.requestId
        approvalId := request.approvalId
        caseId := request.caseId
        leaseId := request.leaseId
        leaseEpoch := request.leaseEpoch
        fragments := all.fragments
        bundleDigest := S.evidenceBundleDigest all.fragments }

end YuFeng.Evidence

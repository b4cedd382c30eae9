import YuFeng.Edge.Match
import YuFeng.Kernel.Artifact
import YuFeng.Library.Outcome

/-!
# The release set of an edge

The artifacts that an edge has loaded: rules, policies and shapes act in the
gate, detector manifests install inspectors, and the remaining kinds replace
one setting each.  Only artifacts of the gate expire.

The codecs of the payloads, the inspectors and the signature scheme are
parameters; a message that no modelled function looks into is kept as text.
-/

namespace YuFeng.Edge

open YuFeng.Library YuFeng.Kernel

inductive IngressPosture where
  | unspecified
  | reverseProxy
  | extAuthz
  | tapAlert
  | mirrorObserve
  deriving DecidableEq, Repr

def intercepts : IngressPosture → Bool
  | .reverseProxy | .extAuthz => true
  | _ => false

def observes : IngressPosture → Bool
  | .tapAlert | .mirrorObserve => true
  | _ => false

def resolvePosture : IngressPosture → IngressPosture
  | .unspecified => .reverseProxy
  | posture => posture

structure DetectorManifest where
  detectorId : String
  version : String
  tarballSha256 : String
  deriving DecidableEq

structure TaxonomyRule where
  ruleId : String
  attackClass : AttackClass
  rulePrefix : String
  deriving DecidableEq

structure TaxonomyMapper where
  rules : List TaxonomyRule
  deriving DecidableEq

structure Inspector where
  id : String
  deriving DecidableEq

structure Payloads where
  rules : String → Except String (List Rule)
  policy : String → Except String PolicyCandidate
  manifest : String → Except String DetectorManifest
  taxonomyMapper : String → Except String TaxonomyMapper
  profile : String → Except String HttpInspectionProfile
  message : Kind → String → Except String String
  validateTrafficReviewPolicy : String → Except String Unit
  normalizeModelProfile : String → Except String String
  shapeSource : String → Except String ShapeSource

structure Platform where
  verifier : Verifier
  http : Http
  matching : Matching
  payloads : Payloads
  /-- What an inspector finds in a view, and whether it failed. -/
  inspect : Inspector → CanonicalView → String → Inspection × Bool

structure ManagedRelease where
  releaseId : String
  artifactId : String
  detector : Option RuleDetector
  routePrefix : String
  policy : Option PolicyCandidate
  shape : Option CompiledShape
  mode : ReleaseMode
  canaryPercent : Int
  expiresAt : Int
  deriving DecidableEq

structure Counter where
  requests : Nat := 0
  blocks : Nat := 0
  observe : Nat := 0
  canarySel : Nat := 0
  deriving DecidableEq

structure ReleaseSet where
  releases : Table String ManagedRelease := .empty
  counters : Table String Counter := .empty
  inspectors : List Inspector := []
  inspectorByRel : Table String String := .empty
  mapper : Option TaxonomyMapper := none
  profile : Option HttpInspectionProfile := none
  digest : Option String := none
  evidencePol : Option String := none
  forward : Option String := none
  reviewPolicy : Option String := none
  reviewDigest : String := ""
  modelProfile : Option String := none
  modelDigest : String := ""
  posture : IngressPosture := .reverseProxy
  activeGen : Option AssetGeneration := none
  edgeVersion : String

def newReleaseSet (edgeVersion : String) : ReleaseSet where
  edgeVersion := firstNonEmpty (trimSpace edgeVersion) minimumEdgeVersion

def defaultReleaseTTL : Int := 24 * 3600 * 1000000000

/-! ## Inspectors -/

def crsVersion : String := "4.25.0"

def crsTarballSHA256 : String := "10370cad9f461e64abfa2fbf371a48e65715078b8acc81c3f5140c09618aee6a"

/-- The core rule set is the only inspector that an edge registers. -/
def compileInspector (manifest : DetectorManifest) : Except String Inspector :=
  if manifest.detectorId = "" then
    .error "detector manifest is incomplete"
  else if manifest.detectorId ≠ "crs" then
    .error ("inspector " ++ manifest.detectorId ++ " is not registered")
  else if manifest.version ≠ "" ∧ manifest.version ≠ crsVersion then
    .error ("unsupported crs version " ++ manifest.version)
  else if manifest.tarballSha256 ≠ "" ∧ manifest.tarballSha256 ≠ crsTarballSHA256 then
    .error "crs digest mismatch"
  else .ok ⟨"crs"⟩

def removeInspector (id : String) (inspectors : List Inspector) : List Inspector :=
  inspectors.eraseP (·.id = id)

/-! ## Members -/

/-- A member after its payload has been parsed and compiled. -/
inductive Member where
  | rule (detector : RuleDetector)
  | policy (candidate : PolicyCandidate)
  | shape (compiled : CompiledShape)
  | inspector (inspector : Inspector)
  | taxonomyMapper (mapper : TaxonomyMapper)
  | normalizerProfile (profile : HttpInspectionProfile)
  | evidencePolicy (message : String)
  | evidenceDigest (message : String)
  | forwardPolicy (message : String)
  | trafficReviewPolicy (message : String)
  | modelProfile (message : String)

def within (releaseId part : String) {α : Type} (result : Except String α) : Except String α :=
  result.mapError fun message =>
    "release " ++ releaseId ++ ": " ++ part ++ message

def compilePolicy (P : Platform) (releaseId payload : String) : Except String PolicyCandidate := do
  let candidate ← within releaseId "policy payload: " (P.payloads.policy payload)
  ensure (candidate.predicate.any (!·.detectionKeys.isEmpty))
    ("release " ++ releaseId ++ ": policy predicate detection_keys required")
  return candidate

def compileMember (P : Platform) (releaseId : String) (a : Artifact) : Except String Member :=
  let unsupported : Except String Member :=
    .error ("release " ++ releaseId ++ ": unsupported kind " ++ a.kind.text ++
      " schema " ++ a.payloadSchema)
  match a.kind with
  | .rule =>
    if a.payloadSchema = "rules/v1" then do
      let rules ← P.payloads.rules a.payload
      return .rule (← newRuleDetector P.matching a.id rules)
    else unsupported
  | .policy =>
    if a.payloadSchema = "policy/v1" then do
      return .policy (← compilePolicy P releaseId a.payload)
    else unsupported
  | .detectorManifest =>
    if a.payloadSchema = "detector-manifest/v1" ∨ a.payloadSchema = "" then do
      let manifest ← within releaseId "detector manifest: " (P.payloads.manifest a.payload)
      return .inspector (← compileInspector manifest)
    else unsupported
  | .taxonomyMapper =>
    if a.payloadSchema = "taxonomy/v1" then do
      return .taxonomyMapper (← within releaseId "taxonomy payload: "
        (P.payloads.taxonomyMapper a.payload))
    else unsupported
  | .normalizerProfile => do
      return .normalizerProfile (← within releaseId "normalizer payload: "
        (P.payloads.profile a.payload))
  | .evidencePolicy => do
      return .evidencePolicy (← within releaseId "evidence policy: "
        (P.payloads.message .evidencePolicy a.payload))
  | .evidenceDigest => do
      return .evidenceDigest (← within releaseId "evidence digest: "
        (P.payloads.message .evidenceDigest a.payload))
  | .forwardPolicy => do
      return .forwardPolicy (← within releaseId "forward policy: "
        (P.payloads.message .forwardPolicy a.payload))
  | .trafficReviewPolicy =>
    if a.payloadSchema = "traffic-review-policy/v1" then
      within releaseId "traffic review policy: " do
        let message ← P.payloads.message .trafficReviewPolicy a.payload
        P.payloads.validateTrafficReviewPolicy message
        return .trafficReviewPolicy message
    else unsupported
  | .modelProfile =>
    if a.payloadSchema = "model-profile/v1" then
      within releaseId "model profile: " do
        let message ← P.payloads.message .modelProfile a.payload
        return .modelProfile (← P.payloads.normalizeModelProfile message)
    else unsupported
  | .listenPlan =>
    .error ("release " ++ releaseId ++
      ": unit listen plan requires independent unit-scoped activation")
  | .shape => do
      let source ← within releaseId "shape payload: " (P.payloads.shapeSource a.payload)
      return .shape (← within releaseId "shape: " (compileShape source))
  | _ => unsupported

def expiry (a : Artifact) (now : Int) : Int :=
  match a.createdAt, a.ttl with
  | some createdAt, some ttl => createdAt + ttl
  | _, _ => now + defaultReleaseTTL

def putRelease (deadline : Int) (item : ReleaseItem) (a : Artifact)
    (detector : Option RuleDetector) (policy : Option PolicyCandidate)
    (shape : Option CompiledShape) (set : ReleaseSet) : ReleaseSet :=
  { set with
    releases := set.releases.set item.releaseId {
      releaseId := item.releaseId
      artifactId := a.id
      detector := detector
      routePrefix := (a.scope.map (·.routeSelector)).getD ""
      policy := policy
      shape := shape
      mode := item.mode
      canaryPercent := item.canaryPercent
      expiresAt := deadline }
    counters := match set.counters.find? item.releaseId with
      | some _ => set.counters
      | none => set.counters.set item.releaseId {} }

def admitRelease (now : Int) (item : ReleaseItem) (a : Artifact)
    (detector : Option RuleDetector) (policy : Option PolicyCandidate)
    (shape : Option CompiledShape) (set : ReleaseSet) :
    Except String ReleaseSet :=
  if item.mode = .canary ∧ (item.canaryPercent < canaryPercentMin ∨
      canaryPercentMax < item.canaryPercent) then
    .error ("release " ++ item.releaseId ++ ": canary percent " ++
      toString item.canaryPercent ++ " out of range [" ++
      toString canaryPercentMin ++ "," ++ toString canaryPercentMax ++ "]")
  else if expiry a now ≤ now then
    .error ("release " ++ item.releaseId ++ " is expired")
  else .ok (putRelease (expiry a now) item a detector policy shape set)

def installInspector (releaseId : String) (inspector : Inspector) (set : ReleaseSet) : ReleaseSet :=
  let kept := match set.inspectorByRel.find? releaseId with
    | some previous => removeInspector previous set.inspectors
    | none => set.inspectors
  { set with
    inspectors := kept ++ [inspector]
    inspectorByRel := set.inspectorByRel.set releaseId inspector.id }

def install (now : Int) (item : ReleaseItem) (a : Artifact)
    (set : ReleaseSet) : Member → Except String ReleaseSet
  | .rule detector => admitRelease now item a (some detector) none none set
  | .policy candidate => admitRelease now item a none (some candidate) none set
  | .shape compiled => admitRelease now item a none none (some compiled) set
  | .inspector inspector =>
    .ok (installInspector item.releaseId inspector set)
  | .taxonomyMapper mapper => .ok { set with mapper := some mapper }
  | .normalizerProfile profile => .ok { set with profile := some profile }
  | .evidencePolicy message => .ok { set with evidencePol := some message }
  | .evidenceDigest message => .ok { set with digest := some message }
  | .forwardPolicy message => .ok { set with forward := some message }
  | .trafficReviewPolicy message =>
    .ok { set with reviewPolicy := some message, reviewDigest := a.id }
  | .modelProfile message =>
    .ok { set with modelProfile := some message, modelDigest := a.id }

def applyMember (P : Platform) (now : Int) (item : ReleaseItem)
    (a : Artifact) (set : ReleaseSet) : Except String ReleaseSet := do
  let member ← compileMember P item.releaseId a
  install now item a set member

def retire (releaseId : String) (set : ReleaseSet) : ReleaseSet :=
  { set with
    inspectors := match set.inspectorByRel.find? releaseId with
      | some id => removeInspector id set.inspectors
      | none => set.inspectors
    inspectorByRel := set.inspectorByRel.erase releaseId
    releases := set.releases.erase releaseId
    counters := set.counters.erase releaseId }

def apply (P : Platform) (now : Int) (set : ReleaseSet)
    (item : ReleaseItem) : Except String ReleaseSet :=
  match item.artifact with
  | none => .error "release item is empty"
  | some a =>
    if item.retired then .ok (retire item.releaseId set)
    else do
      within item.releaseId "" (verifyArtifact P.verifier a)
      applyMember P now item a set

end YuFeng.Edge

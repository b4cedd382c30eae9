import YuFeng.Library.Text

/-!
# Signed artifacts and generations

An artifact is an immutable signed data package.  A release item puts an
artifact into effect with a mode, and a generation is the signed envelope of
all release items of one asset.  Fields that no modelled function reads are
left out; the canonical encodings are parameters and cover them.
-/

namespace YuFeng.Kernel

open YuFeng.Library

inductive Kind where
  | unspecified
  | rule
  | profile
  | procedure
  | skill
  | toolDescriptor
  | bpfObject
  | seccompProfile
  | nftablesRules
  | policy
  | shape
  | detectorManifest
  | normalizerProfile
  | taxonomyMapper
  | listenPlan
  | evidencePolicy
  | evidenceDigest
  | forwardPolicy
  | trafficReviewPolicy
  | modelProfile
  deriving DecidableEq, Repr

def Kind.text : Kind → String
  | .unspecified => "KIND_UNSPECIFIED"
  | .rule => "KIND_RULE"
  | .profile => "KIND_PROFILE"
  | .procedure => "KIND_PROCEDURE"
  | .skill => "KIND_SKILL"
  | .toolDescriptor => "KIND_TOOL_DESCRIPTOR"
  | .bpfObject => "KIND_BPF_OBJECT"
  | .seccompProfile => "KIND_SECCOMP_PROFILE"
  | .nftablesRules => "KIND_NFTABLES_RULES"
  | .policy => "KIND_POLICY"
  | .shape => "KIND_SHAPE"
  | .detectorManifest => "KIND_DETECTOR_MANIFEST"
  | .normalizerProfile => "KIND_NORMALIZER_PROFILE"
  | .taxonomyMapper => "KIND_TAXONOMY_MAPPER"
  | .listenPlan => "KIND_LISTEN_PLAN"
  | .evidencePolicy => "KIND_EVIDENCE_POLICY"
  | .evidenceDigest => "KIND_EVIDENCE_DIGEST"
  | .forwardPolicy => "KIND_FORWARD_POLICY"
  | .trafficReviewPolicy => "KIND_TRAFFIC_REVIEW_POLICY"
  | .modelProfile => "KIND_MODEL_PROFILE"

inductive ReleaseMode where
  | unspecified
  | shadow
  | canary
  | enforce
  deriving DecidableEq, Repr

structure Signature where
  keyId : String
  sig : String
  deriving DecidableEq

structure Scope where
  assetIds : List String
  routeSelector : String
  deriving DecidableEq

structure ReplayReport where
  passed : Bool
  maliciousTotal : Nat := 0
  maliciousBlocked : Nat := 0
  benignBlocked : Nat := 0
  managementBlocked : Nat := 0
  deriving DecidableEq

/-- Times are nanoseconds since the epoch. -/
structure Artifact where
  id : String
  kind : Kind
  payload : String
  payloadSchema : String
  scope : Option Scope := none
  ttl : Option Int := none
  supersedes : String := ""
  replayReport : Option ReplayReport := none
  signature : Option Signature := none
  createdAt : Option Int := none
  deriving DecidableEq

structure ReleaseItem where
  releaseId : String
  artifact : Option Artifact
  assetId : String
  mode : ReleaseMode
  canaryPercent : Int := 0
  retired : Bool := false
  deriving DecidableEq

structure AssetGeneration where
  generationId : String
  assetId : String
  generationSeq : Int
  parentGenerationId : String
  members : List ReleaseItem
  minEdgeVersion : String
  notBefore : Option Int := none
  envelopeSignature : Option Signature := none
  rollbackOf : Int := 0
  deriving DecidableEq

structure Verifier where
  canonicalBytes : Artifact → String
  generationCanonical : AssetGeneration → String
  sum256 : String → Vector UInt8 32
  publicKeySize : Nat
  verify : String → String → Bool

def Verifier.artifactID (V : Verifier) (a : Artifact) : String :=
  "sha256:" ++ hexEncode (V.sum256 (V.canonicalBytes { a with id := "", signature := none })).toList

def verifyArtifact (V : Verifier) (a : Artifact) : Except String Unit :=
  let want := V.artifactID a
  if a.id ≠ want then
    .error ("artifact id " ++ a.id ++ " does not match envelope hash (want " ++ want ++ ")")
  else match a.signature with
    | none => .error ("artifact " ++ a.id ++ ": missing signature")
    | some signature =>
      if signature.sig = "" then
        .error ("artifact " ++ a.id ++ ": missing signature")
      else if V.publicKeySize ≠ 32 then
        .error ("invalid public key length " ++ toString V.publicKeySize ++ " (want 32)")
      else if V.verify (V.canonicalBytes { a with id := "", signature := none })
          signature.sig then .ok ()
      else .error ("artifact " ++ a.id ++ ": signature verification failed")

def verifyGeneration (V : Verifier) (g : AssetGeneration) : Except String Unit :=
  match g.envelopeSignature with
  | none => .error "generation envelope missing signature"
  | some signature =>
    if signature.sig = "" then
      .error "generation envelope missing signature"
    else if V.publicKeySize ≠ 32 then
      .error ("invalid public key length " ++ toString V.publicKeySize)
    else if V.verify (V.generationCanonical { g with envelopeSignature := none })
        signature.sig then .ok ()
    else .error "generation envelope signature verification failed"

def clockSkew : Int := 60 * 1000000000

def minimumEdgeVersion : String := "dev"

def canaryPercentMin : Int := 1

def canaryPercentMax : Int := 25

end YuFeng.Kernel

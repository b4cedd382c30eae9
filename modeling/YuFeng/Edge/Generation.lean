import YuFeng.Edge.ReleaseSet

/-!
# Loading a generation

A generation is verified, checked against the generation in effect, compiled
member by member into a new release set and then swapped in as a whole.  Any
error leaves the edge with what it had.
-/

namespace YuFeng.Edge

open YuFeng.Library YuFeng.Kernel

/-! ## The envelope -/

def checkMember (P : Platform) (item : ReleaseItem) : Except String Unit :=
  match item.artifact with
  | none => .error "generation member missing release_id"
  | some a =>
    if item.releaseId = "" then
      .error "generation member missing release_id"
    else if a.kind = .listenPlan then
      .error "unit listen plan must not be included in asset generation"
    else verifyArtifact P.verifier a

def checkSuccession (current next : AssetGeneration) : Except String AssetGeneration :=
  if next.assetId ≠ current.assetId then
    .error "generation asset must not change"
  else if next.generationSeq = current.generationSeq then
    if next.generationId = current.generationId then .ok current
    else .error "generation sequence already has a different envelope"
  else if next.generationSeq < current.generationSeq ∧
      next.rollbackOf ≠ current.generationSeq then
    .error "older generation requires signed rollback"
  else if next.generationSeq < current.generationSeq ∧
      next.parentGenerationId ≠ current.generationId then
    .error "rollback generation parent does not match current envelope"
  else if current.generationSeq + 1 < next.generationSeq then
    .error "generation seq must not skip"
  else if next.generationSeq = current.generationSeq + 1 ∧
      next.parentGenerationId ≠ current.generationId then
    .error "generation parent does not match current envelope"
  else if next.rollbackOf ≠ 0 ∧ next.rollbackOf ≠ current.generationSeq then
    .error "rollback_of must identify current generation"
  else .ok next

def succession (current : Option AssetGeneration) (next : AssetGeneration) :
    Except String AssetGeneration :=
  match current with
  | none => .ok next
  | some current => checkSuccession current next

def load (P : Platform) (now : Int) (current : Option AssetGeneration)
    (next : AssetGeneration) : Except String AssetGeneration := do
  ensure (next.assetId ≠ "" && 0 < next.generationSeq) "generation envelope is incomplete"
  next.members.forM (checkMember P)
  verifyGeneration P.verifier next
  ensure (next.notBefore.all fun notBefore => notBefore - now ≤ clockSkew)
    "generation not_before not yet valid"
  succession current next

/-! ## Dependencies -/

def maxInt : Nat := 9223372036854775808

def parseVersion (raw : String) : Option (List Nat) :=
  let separator (c : Char) : Bool := c = '-' || c = '+'
  let core := (raw.toList.dropWhile separator).takeWhile (!separator ·)
  let number (digits : List Char) : Option Nat :=
    let value := digits.foldl (fun n c => 10 * n + (c.toNat - 48)) 0
    if digits ≠ [] ∧ digits.all Char.isDigit ∧ value < maxInt then some value
    else none
  let parts := core.splitOn '.'
  if parts.length = 3 then parts.mapM number else none

def trimVersion (raw : String) : String :=
  let trimmed := trimSpace raw
  if startsWith "v" trimmed then String.ofList trimmed.toList.tail
  else trimmed

def versionAtLeast : List Nat → List Nat → Bool
  | a :: actual, r :: required =>
    if a ≠ r then r < a else versionAtLeast actual required
  | _, _ => true

def edgeVersionCompatible (actual required : String) : Bool :=
  let actual := trimVersion actual
  let required := trimVersion required
  if required = "dev" then true
  else match parseVersion actual, parseVersion required with
    | some a, some r => versionAtLeast a r
    | _, _ => actual = required

def manifestDigests (P : Platform) : List ReleaseItem → Except String (List String)
  | [] => .ok []
  | item :: items =>
    match item.artifact.filter (·.kind = .detectorManifest) with
    | none => manifestDigests P items
    | some a => do
        let manifest ← P.payloads.manifest a.payload
        let digests ← manifestDigests P items
        return if manifest.tarballSha256 = "" then digests else manifest.tarballSha256 :: digests

def checkPolicyDependencies (gen : AssetGeneration) (digests : List String)
    (profileDigest : String) (release : ManagedRelease) :
    Except String Unit :=
  let complain (message : String) : Except String Unit :=
    .error ("release " ++ release.releaseId ++ ": " ++ message)
  match release.policy with
  | none => .ok ()
  | some policy =>
    match policy.dependencies with
    | none => complain "policy dependencies are incomplete"
    | some deps =>
      if deps.detectorManifestDigest = "" ∨
          deps.normalizerProfileDigest = "" ∨ deps.minEdgeVersion = "" then
        complain "policy dependencies are incomplete"
      else if deps.detectorManifestDigest ∉ digests then
        complain "detector manifest dependency mismatch"
      else if profileDigest = "" ∨ deps.normalizerProfileDigest ≠ profileDigest then
        complain "normalizer profile dependency mismatch"
      else if deps.minEdgeVersion ≠ gen.minEdgeVersion then
        complain "minimum edge version dependency mismatch"
      else .ok ()

def validateGenerationDependencies (P : Platform) (gen : AssetGeneration)
    (next : ReleaseSet) : Except String Unit := do
  ensure (gen.minEdgeVersion ≠ "") "generation min_edge_version is required"
  ensure (edgeVersionCompatible next.edgeVersion gen.minEdgeVersion)
    ("edge version " ++ quote next.edgeVersion ++
      " does not satisfy minimum " ++ quote gen.minEdgeVersion)
  let digests ← manifestDigests P gen.members
  let profilePresent := gen.members.any fun item =>
    item.artifact.any (·.kind = .normalizerProfile)
  let profileDigest := if profilePresent then
      P.http.profileDigest (next.profile.getD emptyInspectionProfile)
    else ""
  next.releases.rows.forM fun row =>
    checkPolicyDependencies gen digests profileDigest row.2

/-! ## Activation -/

/-- A counter survives as long as its release stays loaded. -/
def keepCounters (old : Table String Counter)
    (releases : Table String ManagedRelease) : Table String Counter where
  rows := releases.rows.map fun row =>
    (row.1, (old.find? row.1).getD {})
  unique := by simpa [Function.comp_def] using releases.unique

def swapFrom (set next : ReleaseSet) (active : AssetGeneration) : ReleaseSet :=
  { next with
    counters := keepCounters set.counters next.releases
    posture := set.posture
    activeGen := some active
    edgeVersion := set.edgeVersion }

def compileGeneration (P : Platform) (now : Int) (set : ReleaseSet)
    (gen : AssetGeneration) : Except String ReleaseSet :=
  gen.members.foldlM (apply P now) { newReleaseSet set.edgeVersion with posture := set.posture }

abbrev Persist := Option AssetGeneration → AssetGeneration → Except String Unit

def applyGeneration (P : Platform) (now : Int) (persist : Persist)
    (set : ReleaseSet) (gen : AssetGeneration) : Except String ReleaseSet := do
  let active ← load P now set.activeGen gen
  let next ← compileGeneration P now set gen
  validateGenerationDependencies P gen next
  (persist set.activeGen gen).mapError fun message =>
    "persist generation before activation: " ++ message
  return swapFrom set next active

end YuFeng.Edge

import YuFeng.Edge.ReleaseSet

/-!
# Inspection and gate

`inspectThenGate` runs the inspectors over a view and lets every release that
has not expired judge the request.  The releases are taken in the order of the
table; the program iterates over a map, so the order of verdicts and
observations is not part of its contract.
-/

namespace YuFeng.Edge

open YuFeng.Library YuFeng.Kernel

/-! ## Inspection -/

def mapAttackClass (mapper : TaxonomyMapper) (ruleId : String) : AttackClass :=
  let id := trimSpace ruleId
  let longer (best : Option TaxonomyRule) (rule : TaxonomyRule) : Option TaxonomyRule :=
    if rule.rulePrefix ≠ "" ∧ startsWith rule.rulePrefix id ∧ best.all fun b =>
          b.rulePrefix.utf8ByteSize < rule.rulePrefix.utf8ByteSize then
      some rule
    else best
  if id = "" then .unmapped
  else match mapper.rules.find? fun rule =>
      rule.ruleId ≠ "" && rule.ruleId = id with
    | some rule => rule.attackClass
    | none => ((mapper.rules.foldl longer none).map (·.attackClass)).getD .unmapped

def applyTaxonomy (mapper : Option TaxonomyMapper) (found : List Detection) : List Detection :=
  match mapper with
  | none => found
  | some mapper => found.map fun d =>
    { d with «class» := mapAttackClass mapper d.ruleId }

def coverageError (surface : InspectionSurface) : Coverage := ⟨surface, .error, 0, 0⟩

/-- A failed inspector leaves an error on the query surface. -/
def inspectOne (P : Platform) (view : CanonicalView) (clientAddress : String)
    (inspector : Inspector) : Inspection :=
  let (found, failed) := P.inspect inspector view clientAddress
  if failed then
    { found with coverage := view.coverage ++ [coverageError .query] }
  else found

def mergeInspections (view : CanonicalView) (parts : List Inspection) : Inspection where
  detections := parts.flatMap (·.detections)
  coverage := view.coverage ++ parts.flatMap fun part => part.coverage.filter (·.status = .error)
  rejected := view.rejected || parts.any (·.rejected)

def inspectWith (P : Platform) (inspectors : List Inspector)
    (mapper : Option TaxonomyMapper) (view : CanonicalView)
    (clientAddress : String) : Inspection :=
  let merged := mergeInspections view (inspectors.map (inspectOne P view clientAddress))
  { merged with detections := applyTaxonomy mapper merged.detections }

/-! ## Canary buckets -/

/-- The first eight bytes of the digest, modulo ten thousand. -/
def canaryBucket (sum256 : String → Vector UInt8 32) (key : String) (percent : Int) : Bool :=
  if percent ≤ 0 then false
  else if 100 ≤ percent then true
  else
    let number := ((sum256 key).toList.take 8).foldl (fun n byte => 256 * n + byte.toNat) 0
    (number % 10000 : Nat) < percent * 100

def canarySelectedUnit (P : Platform) (unitId releaseId : String) (percent : Int) : Bool :=
  canaryBucket P.verifier.sum256 (unitId ++ "\x00" ++ releaseId) percent

/-! ## Gate -/

inductive Action where
  | allow
  | observe
  | block
  deriving DecidableEq, Repr

structure Verdict where
  detectorId : String
  ruleId : String
  message : String
  deriving DecidableEq

structure ReleaseObservation where
  releaseId : String
  artifactId : String
  mode : ReleaseMode
  canaryPercent : Int
  canarySelected : Bool
  matched : Bool
  deriving DecidableEq

structure Decision where
  action : Action
  wouldHaveBlocked : Bool
  verdicts : List Verdict
  observations : List ReleaseObservation
  inspection : Inspection
  posture : IngressPosture
  generationId : String := ""
  generationSeq : Int := 0
  deriving DecidableEq

def actionForMode (mode : ReleaseMode) (matched selected : Bool) : Action :=
  if !matched then .allow
  else match mode with
    | .enforce => .block
    | .canary => if selected then .block else .observe
    | _ => .observe

def worseAction (a b : Action) : Action :=
  if a = .block ∨ b = .block then .block
  else if a = .observe ∨ b = .observe then .observe
  else .allow

def gateOrder (policyBlock ruleBlock shapeBlock : Bool) : Action :=
  if policyBlock then .block
  else if ruleBlock then .block
  else if shapeBlock then .block
  else .allow

def accountRelease (c : Counter) (action : Action) (selected : Bool) : Counter where
  requests := c.requests + 1
  blocks := if action = .block then c.blocks + 1 else c.blocks
  observe := if action = .observe then c.observe + 1 else c.observe
  canarySel := if selected then c.canarySel + 1 else c.canarySel

def ManagedRelease.ruleMatch (P : Platform) (d : RuleDetector)
    (r : ManagedRelease) (req : Request) : Option String :=
  if startsWith r.routePrefix req.path then d.match? P.matching req else none

def ManagedRelease.judge (P : Platform) (r : ManagedRelease) (req : Request)
    (found : Inspection) (view : CanonicalView) :
    Option (Bool × Option Verdict) :=
  match r.policy, r.detector, r.shape with
  | some policy, _, _ => some (policyCandidateBlocksOn P.matching policy found.detections view req,
        none)
  | none, some detector, _ =>
    match r.ruleMatch P detector req with
    | some ruleId => some (true, some ⟨r.artifactId, ruleId, "matched rule " ++ ruleId⟩)
    | none => some (false, none)
  | none, none, some shape =>
    if shape.violates P.matching req view then
      some (true, some ⟨r.artifactId, "shape", "request shape violated"⟩)
    else some (false, none)
  | none, none, none => none

structure Tally where
  policyBlock : Bool := false
  ruleBlock : Bool := false
  shapeBlock : Bool := false
  combined : Action := .allow
  verdicts : List Verdict := []
  observations : List ReleaseObservation := []
  counters : Table String Counter

def selectedForCanary (P : Platform) (req : Request) (r : ManagedRelease) : Bool :=
  r.mode = .canary && req.unitId ≠ "" && canarySelectedUnit P req.unitId r.releaseId r.canaryPercent

def gateRelease (P : Platform) (posture : IngressPosture) (req : Request)
    (found : Inspection) (view : CanonicalView) (tally : Tally)
    (r : ManagedRelease) : Tally :=
  match r.judge P req found view with
  | none => tally
  | some (matched, verdict) =>
    let selected := selectedForCanary P req r
    let action := actionForMode r.mode matched selected
    -- Blocks count as observations where the shell cannot block.
    let accounted := if !intercepts posture ∧ action = .block then .observe else action
    { policyBlock := tally.policyBlock || r.policy.isSome && action = .block
      ruleBlock := tally.ruleBlock || r.detector.isSome && action = .block
      shapeBlock := tally.shapeBlock || r.shape.isSome && action = .block
      combined := worseAction tally.combined action
      verdicts := tally.verdicts ++ verdict.toList.filter (·.ruleId ≠ "")
      observations := tally.observations ++ [⟨r.releaseId, r.artifactId,
        r.mode, r.canaryPercent, selected, matched⟩]
      counters := match tally.counters.find? r.releaseId with
        | none => tally.counters
        | some c => tally.counters.set r.releaseId (accountRelease c accounted selected) }

def gateWith (P : Platform) (releases : List ManagedRelease)
    (posture : IngressPosture) (req : Request) (found : Inspection)
    (view : CanonicalView) (counters : Table String Counter) :
    Decision × Table String Counter :=
  let tally := releases.foldl (gateRelease P posture req found view) { counters := counters }
  let action :=
    if gateOrder tally.policyBlock tally.ruleBlock tally.shapeBlock = .block
    then .block
    else tally.combined
  ({ action := if observes posture then .allow else action
     wouldHaveBlocked := action = .block
     verdicts := tally.verdicts
     observations := tally.observations
     inspection := found
     posture := posture }, tally.counters)

def ReleaseSet.live (set : ReleaseSet) (now : Int) : List ManagedRelease :=
  (set.releases.rows.map Prod.snd).filter fun r => now < r.expiresAt

def inspectThenGate (P : Platform) (now : Int) (set : ReleaseSet)
    (req : Request) (view : CanonicalView) : Decision × ReleaseSet :=
  let found := inspectWith P set.inspectors set.mapper view req.clientAddress
  let (decision, counters) := gateWith P (set.live now)
    (resolvePosture set.posture) req found view set.counters
  ({ decision with
     generationId := (set.activeGen.map (·.generationId)).getD ""
     generationSeq := (set.activeGen.map (·.generationSeq)).getD 0 },
    { set with counters := counters })

def ReleaseSet.profileOrDefault (set : ReleaseSet) : HttpInspectionProfile :=
  set.profile.getD defaultInspectionProfile

end YuFeng.Edge

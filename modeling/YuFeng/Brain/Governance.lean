import YuFeng.Kernel.Artifact
import YuFeng.Kernel.Rpc
import YuFeng.Library.Query

/-!
# Governance of releases

A release goes from draft to signed, shadow, canary, enforce and retired.
Every change is one transaction: it writes the row of the release, retires a
release that the new one supersedes and publishes a generation for each asset
of the changed release.  Generations of one asset are numbered under a lock
that is held until the transaction ends, so transactions are single steps.

The feed, the timeline, the audit log and the idempotency records are written
and not read by the functions below; they are left out.
-/

namespace YuFeng.Brain

open YuFeng.Library YuFeng.Kernel

/-! ## Releases -/

inductive ReleaseState where
  | draft
  | signed
  | shadow
  | canary
  | enforce
  | retired
  deriving DecidableEq, Repr

def ReleaseState.text : ReleaseState → String
  | .draft => "draft"
  | .signed => "signed"
  | .shadow => "shadow"
  | .canary => "canary"
  | .enforce => "enforce"
  | .retired => "retired"

def ReleaseState.live : ReleaseState → Bool
  | .shadow | .canary | .enforce => true
  | _ => false

def ReleaseState.mode : ReleaseState → ReleaseMode
  | .shadow => .shadow
  | .canary => .canary
  | .enforce => .enforce
  | _ => .unspecified

inductive RetireReason where
  | unspecified
  | rollback
  | manual
  | ttl
  | superseded
  | hardExpired
  deriving DecidableEq, Repr

def retireReasonString : RetireReason → Except RpcError String
  | .rollback => .ok "rollback"
  | .manual => .ok "manual"
  | .ttl => .ok "ttl"
  | .superseded => .ok "superseded"
  | _ => .error ⟨.unknown, "unknown retire reason"⟩

inductive Release where
  | draft (id : String) (envelope : Artifact) (createdBy : String)
  | signed (id : String) (envelope : Artifact)
  | shadow (id : String) (envelope : Artifact)
  | canary (id : String) (envelope : Artifact) (canaryPercent : Int)
  | enforce (id : String) (envelope : Artifact)
  | retired (id : String) (envelope : Artifact) (reason : RetireReason)
  deriving DecidableEq

def Release.id : Release → String
  | .draft id _ _ | .signed id _ | .shadow id _ | .canary id _ _
  | .enforce id _ | .retired id _ _ => id

def Release.state : Release → ReleaseState
  | .draft .. => .draft
  | .signed .. => .signed
  | .shadow .. => .shadow
  | .canary .. => .canary
  | .enforce .. => .enforce
  | .retired .. => .retired

/-! ## Tables -/

structure ReleaseRow where
  state : ReleaseState
  artifactId : String := ""
  artifact : Artifact
  canaryPercent : Int := 0
  createdBy : String := ""
  scopeRisk : String := ""
  evidenceClass : String := ""
  signedAt : Option Int := none
  shadowStartedAt : Option Int := none
  canaryStartedAt : Option Int := none
  enforcedAt : Option Int := none
  retiredAt : Option Int := none
  retireReason : String := ""
  updatedAt : Int
  deriving DecidableEq

/-- A row of `release_counters`: what a unit last reported of a release. -/
structure CounterRow where
  generation : Nat
  mode : ReleaseMode
  requests : Nat := 0
  blocks : Nat := 0
  observe : Nat := 0
  canarySelected : Nat := 0
  upstream5xx : Nat := 0
  latencyMicros : Nat := 0
  latencySamples : Nat := 0
  latencyP99 : Nat := 0
  deriving DecidableEq

/-- A row of `release_guards`: the totals at the end of the last window. -/
structure GuardRow where
  requests : Nat
  blocks : Nat
  denies : Nat
  consecutiveBad : Nat
  lastP99 : Nat := 0
  deriving DecidableEq

structure Governance where
  releases : Table String ReleaseRow := .empty
  /-- Release and asset. -/
  releaseAssets : List (String × String) := []
  /-- The settings of an asset, by asset and kind. -/
  settings : Table (String × String) Artifact := .empty
  generations : List AssetGeneration := []
  /-- By unit and release. -/
  counters : Table (String × String) CounterRow := .empty
  guards : Table String GuardRow := .empty
  /-- Feedback, by release and event. -/
  denies : Table (String × String) String := .empty
  /-- The counter epoch that a unit last announced. -/
  units : Table String Nat := .empty
  /-- Unit and asset. -/
  unitAssets : List (String × String) := []

/-! ## Queries -/

def Governance.countersOf (db : Governance) (releaseId : String) :
    List ((String × String) × CounterRow) :=
  db.counters.rows.filter fun row => row.1.2 = releaseId

def total (column : CounterRow → Nat) (rows : List ((String × String) × CounterRow)) : Nat :=
  rows.foldr (fun row sum => column row.2 + sum) 0

def countDenies (db : Governance) (releaseId : String) : Nat :=
  (db.denies.rows.filter fun row => row.1.1 = releaseId).length

def Governance.bound (db : Governance) (releaseId assetId : String) : Bool :=
  (releaseId, assetId) ∈ db.releaseAssets

def Governance.releaseMembers (db : Governance) (assetId : String) : List ReleaseItem :=
  let rows := db.releases.rows.filter fun row =>
    db.bound row.1 assetId && row.2.state.live
  (orderBy Prod.fst rows).map fun row =>
    { releaseId := row.1
      artifact := some row.2.artifact
      assetId := assetId
      mode := row.2.state.mode
      canaryPercent := row.2.canaryPercent }

def Governance.settingMembers (db : Governance) (assetId : String) : List ReleaseItem :=
  let rows := db.settings.rows.filter fun row => row.1.1 = assetId
  (orderBy (fun row => row.1.2) rows).map fun row =>
    { releaseId := "setting:" ++ row.1.2
      artifact := some row.2
      assetId := assetId
      mode := .enforce }

def Governance.members (db : Governance) (assetId : String) : List ReleaseItem :=
  db.releaseMembers assetId ++ db.settingMembers assetId

def Governance.latest (db : Governance) (assetId : String) : Option AssetGeneration :=
  highest (·.generationSeq) (db.generations.filter (·.assetId = assetId))

def releaseAssetIDs (db : Governance) (releaseId : String) : List String :=
  db.releaseAssets.filterMap fun pair =>
    if pair.1 = releaseId ∧ pair.2 ≠ "" then some pair.2 else none

/-! ## Writing a release -/

def releaseTransitionAllowed (source target : ReleaseState) : Bool :=
  source = target || match target with
    | .signed => source = .draft
    | .shadow => source = .signed
    | .canary => source = .shadow
    | .enforce => source = .shadow || source = .canary
    | .retired => source ≠ .retired
    | .draft => false

def ensureGuardBaseline (releaseId : String) (db : Governance) : Governance :=
  match db.guards.find? releaseId with
  | some _ => db
  | none =>
    { db with guards := db.guards.set releaseId {
        requests := total (·.requests) (db.countersOf releaseId)
        blocks := total (·.blocks) (db.countersOf releaseId)
        denies := countDenies db releaseId
        consecutiveBad := 0 } }

def Release.write (now : Int) (row : ReleaseRow) : Release → Except RpcError ReleaseRow
  | .draft _ a _ =>
    .ok { row with state := .draft, artifact := a, updatedAt := now }
  | .signed _ a =>
    .ok { row with
      state := .signed, artifactId := a.id, artifact := a
      signedAt := some now, updatedAt := now }
  | .shadow _ a =>
    .ok { row with
      state := .shadow, artifactId := a.id, artifact := a
      shadowStartedAt := row.shadowStartedAt.or (some now)
      updatedAt := now }
  | .canary _ a percent =>
    .ok { row with
      state := .canary, artifactId := a.id, artifact := a
      canaryPercent := percent
      canaryStartedAt := row.canaryStartedAt.or (some now)
      updatedAt := now }
  | .enforce _ a =>
    .ok { row with
      state := .enforce, artifactId := a.id, artifact := a
      enforcedAt := row.enforcedAt.or (some now), updatedAt := now }
  | .retired _ a reason =>
    (retireReasonString reason).map fun text =>
      { row with
        state := .retired, artifact := a, retiredAt := some now
        retireReason := text, updatedAt := now }

def persistRelease (now : Int) (rel : Release) (db : Governance) : Except RpcError Governance :=
  match db.releases.find? rel.id with
  | none => .error ⟨.unknown, "no rows in result set"⟩
  | some row => do
      require (releaseTransitionAllowed row.state rel.state) .aborted
        ("release state changed from expected predecessor: " ++
          row.state.text ++ " to " ++ rel.state.text)
      let row' ← rel.write now row
      let db' := { db with releases := db.releases.set rel.id row' }
      return match rel with
        | .canary .. | .enforce .. => ensureGuardBaseline rel.id db'
        | _ => db'

def Governance.liveOf (db : Governance) (artifactId : String) : Option (String × ReleaseRow) :=
  highest (·.2.updatedAt) (db.releases.rows.filter fun row =>
    row.2.artifactId = artifactId && row.2.state.live)

def supersede (now : Int) (oldArtifactId : String) (db : Governance) : Governance :=
  match db.liveOf oldArtifactId with
  | none => db
  | some (id, row) =>
    { db with releases := db.releases.set id { row with
        state := .retired, retiredAt := some now
        retireReason := "superseded", updatedAt := now } }

/-! ## Generations -/

/-- The private key of the brain, or the signer that holds it. -/
structure Signing where
  sign : AssetGeneration → Except String Signature

def Governance.nextGeneration (db : Governance) (now : Int)
    (genId assetId : String) (rollback : Bool) : AssetGeneration :=
  let latest := db.latest assetId
  let seq := (latest.map (·.generationSeq)).getD 0
  { generationId := genId
    assetId := assetId
    generationSeq := seq + 1
    parentGenerationId := (latest.map (·.generationId)).getD ""
    members := db.members assetId
    minEdgeVersion := minimumEdgeVersion
    notBefore := some now
    rollbackOf := if rollback then seq else 0 }

def Governance.insertGeneration (db : Governance) (gen : AssetGeneration)
    (signature : Signature) : Governance :=
  { db with generations := db.generations ++ [{ gen with envelopeSignature := some signature }] }

def publishAssetGeneration (signing : Option Signing) (now : Int)
    (genId assetId : String) (rollback : Bool) (db : Governance) :
    Except RpcError Governance :=
  match signing with
  | none => .ok db
  | some signer =>
    if assetId = "" then .ok db
    else do
      let gen := db.nextGeneration now genId assetId rollback
      let signature ← (signer.sign gen).mapError fun message =>
        ⟨.unknown, message⟩
      require (db.generations.all fun g => g.generationId ≠ genId) .unknown
        "duplicate key value violates unique constraint"
      return db.insertGeneration gen signature

/-! ## Transactions -/

structure ReleaseWrite where
  rel : Release
  feed : Bool
  retired : Bool := false
  reason : RetireReason := .unspecified
  supersedeArtifact : String := ""
  signing : Option Signing
  now : Int
  /-- The random identifier of the next generation of an asset. -/
  genId : String → String

def ReleaseWrite.retireOld (w : ReleaseWrite) (db : Governance) : Governance :=
  if w.supersedeArtifact = "" then db
  else supersede w.now w.supersedeArtifact db

def ReleaseWrite.publish (w : ReleaseWrite) (db : Governance)
    (assetIds : List String) : Except RpcError Governance :=
  let rollback := w.retired && w.reason = .rollback
  assetIds.foldlM (fun db assetId =>
    publishAssetGeneration w.signing w.now (w.genId assetId) assetId rollback db) db

/-- State, superseded release and generations in one transaction. -/
def commitReleaseChange (w : ReleaseWrite) (db : Governance) : Except RpcError Governance := do
  let db ← persistRelease w.now w.rel db
  let db := w.retireOld db
  if w.feed then w.publish db (releaseAssetIDs db w.rel.id) else return db

structure Proposal where
  releaseId : String
  artifact : Artifact
  assetIds : List String
  createdBy : String
  scopeRisk : String := ""
  evidenceClass : String := ""
  now : Int

def propose (p : Proposal) (db : Governance) : Except RpcError Governance := do
  require (db.releases.find? p.releaseId).isNone .unknown
    "duplicate key value violates unique constraint"
  return { db with
    releases := db.releases.set p.releaseId {
      state := .draft
      artifact := p.artifact
      createdBy := p.createdBy
      scopeRisk := p.scopeRisk
      evidenceClass := p.evidenceClass
      updatedAt := p.now }
    releaseAssets := db.releaseAssets ++
      (p.assetIds.map fun assetId => (p.releaseId, assetId)).dedup }

/-- A setting of an asset, signed and published in one transaction. -/
structure SettingWrite where
  assetId : String
  kind : String
  artifact : Artifact
  signing : Option Signing
  now : Int
  genId : String

def writeSetting (w : SettingWrite) (db : Governance) : Except RpcError Governance := do
  -- The artifact is signed first, and that fails without a key.
  require w.signing.isSome .unknown "invalid private key length 0"
  publishAssetGeneration w.signing w.now w.genId w.assetId false
    { db with settings := db.settings.set (w.assetId, w.kind) w.artifact }

end YuFeng.Brain

import YuFeng.Brain.Heartbeat
import YuFeng.Brain.Publication

/-!
# Promotions and guard windows

A promotion reads the release, its age, its counters and the feedback about it
one query after the other, decides, and then commits.  The reads are outside
the committing transaction, so other transactions may come between them.  The
guard of a release reads its totals in the same way, records the window and
rolls the release back after too many bad windows in a row.

Rates are compared by multiplying out; the program divides floating-point
numbers, with the same outcome for totals below 2^50.
-/

namespace YuFeng.Brain

open YuFeng.Library YuFeng.Kernel

structure Settings where
  shadowMinDuration : Int
  shadowMinRequests : Nat
  canaryMinDuration : Int
  canaryMinRequests : Nat
  canaryPercent : Int := 5
  denyThreshold : Nat := 1
  guardBadWindows : Nat := 2
  demo : Bool := false
  signing : Option Signing

/-! ## Queries -/

def retireReasonEnum (text : String) : RetireReason :=
  if text = "rollback" then .rollback
  else if text = "manual" then .manual
  else if text = "ttl" then .ttl
  else if text = "superseded" then .superseded
  else .unspecified

def ReleaseRow.release (row : ReleaseRow) (id : String) : Release :=
  match row.state with
  | .draft => .draft id row.artifact row.createdBy
  | .signed => .signed id row.artifact
  | .shadow => .shadow id row.artifact
  | .canary => .canary id row.artifact row.canaryPercent
  | .enforce => .enforce id row.artifact
  | .retired => .retired id row.artifact (retireReasonEnum row.retireReason)

def loadRelease (db : Governance) (releaseId : String) : Except RpcError Release :=
  match db.releases.find? releaseId with
  | none => .error ⟨.notFound, "release not found"⟩
  | some row => .ok (row.release releaseId)

/-- A release that has not entered the state is as old as a new one. -/
def releaseTime (db : Governance) (now : Int) (releaseId : String)
    (state : ReleaseState) : Option Int :=
  (db.releases.find? releaseId).map fun row =>
    (match state with
      | .signed => row.signedAt
      | .shadow => row.shadowStartedAt
      | .canary => row.canaryStartedAt
      | .enforce => row.enforcedAt
      | _ => none).getD now

def releaseBoundUnitCount (db : Governance) (releaseId : String) : Nat :=
  let ids := releaseAssetIDs db releaseId
  ((db.unitAssets.filter fun pair => pair.2 ∈ ids).map Prod.fst).dedup.length

def proposerUnitIDs (db : Governance) (releaseId : String) : List String :=
  match db.releases.find? releaseId with
  | none => []
  | some row =>
    if row.createdBy = "" then []
    else ((db.units.rows.map Prod.fst).filter (· = row.createdBy)) ++
      ((db.unitAssets.filter (·.2 = row.createdBy)).map Prod.fst)

def canaryPercentDefault : Int := 5

/-- The hundredth part of a canary share is at least one unit. -/
def canaryMinUnits (percent : Int) : Int :=
  let percent := if percent ≤ 0 then canaryPercentDefault else percent
  (100 + percent - 1) / percent

def gatePassed (report : ReplayReport) : Bool :=
  0 < report.maliciousTotal && report.maliciousBlocked = report.maliciousTotal &&
    report.benignBlocked = 0 && report.managementBlocked = 0

def replayReportPassed (a : Artifact) : Bool :=
  a.replayReport.any fun report => report.passed && gatePassed report

def autoPromoteBlocked (scopeRisk evidence : String) : Bool :=
  !((scopeRisk = "exact" || scopeRisk = "route") &&
    (evidence = "crs_mapped" || evidence = "human" || evidence = "replay"))

def skipAutoPromote (db : Governance) (releaseId : String) (demo : Bool) : Bool :=
  match db.releases.find? releaseId with
  | none => true
  | some row =>
    if row.artifact.kind = .shape then true
    else if row.artifact.kind = .rule then !demo
    else if demo && row.scopeRisk = "" && row.evidenceClass = "" then false
    else if autoPromoteBlocked row.scopeRisk row.evidenceClass then true
    else !demo && !replayReportPassed row.artifact

def durationThresholdMet (elapsed required : Int) : Bool := required ≤ 0 || required ≤ elapsed

/-! ## Guard windows -/

structure GuardSnapshot where
  requests : Int := 0
  blocks : Int := 0
  denies : Int := 0
  upstream5xx : Int := 0
  p99Micros : Int := 0
  deriving DecidableEq

def guardWindowReasons (prev cur : GuardSnapshot) (denyThreshold : Nat) : List String :=
  let dReq := cur.requests - prev.requests
  let dBlk := cur.blocks - prev.blocks
  let d5 := cur.upstream5xx - prev.upstream5xx
  let p5 := prev.upstream5xx
  -- The difference is converted to an unsigned number.
  (if denyThreshold ≤ (cur.denies - prev.denies) % 18446744073709551616 ∧
      0 < denyThreshold then ["unexpected_deny"] else []) ++
  -- More than half of the requests in the window were blocked.
  (if 0 < dReq ∧ 0 < dBlk ∧ dReq < 2 * dBlk then
    ["block_rate_jump"] else []) ++
  -- Twice the rate of errors, and half a percent more.
  (if 0 < dReq ∧ 0 < prev.requests ∧ 2 * p5 * dReq < d5 * prev.requests ∧
      5 * dReq * prev.requests ≤ 1000 * (d5 * prev.requests - p5 * dReq) then
    ["upstream_5xx"] else []) ++
  (if 0 < cur.p99Micros ∧ 0 < prev.p99Micros ∧ 11 * prev.p99Micros < 10 * cur.p99Micros ∧
      5000 ≤ cur.p99Micros - prev.p99Micros then ["p99_regression"] else [])

def guardWindowBad (prev cur : GuardSnapshot) (denyThreshold : Nat) : Bool :=
  !(guardWindowReasons prev cur denyThreshold).isEmpty

def denyFeedback (releaseId eventId actor : String) (db : Governance) :
    Except RpcError Governance :=
  match db.releases.find? releaseId with
  | none => .error ⟨.notFound, "release not found"⟩
  | some row => do
      require (row.state = .canary || row.state = .enforce)
        .failedPrecondition "release is not receiving traffic"
      let db := ensureGuardBaseline releaseId db
      return match db.denies.find? (releaseId, eventId) with
        | some _ => db
        | none => { db with denies := db.denies.set (releaseId, eventId) actor }

/-! ## Programs -/

inductive Query where
  | listed (state : ReleaseState)
  | skip
  | units
  | started (state : ReleaseState)
  | excluded
  | requests (mode : ReleaseMode)
  | denies
  | release
  | live
  | totals
  | previous
  | quality
  deriving DecidableEq

structure Reads where
  listed : Bool := false
  skip : Bool := true
  units : Nat := 0
  age : Option Int := none
  excluded : List String := []
  requests : Nat := 0
  denies : Option Nat := none
  release : Option Release := none
  state : Option ReleaseState := none
  current : GuardSnapshot := {}
  prior : GuardSnapshot := {}
  consecutive : Nat := 0
  deriving DecidableEq

def Governance.countersIn (db : Governance) (releaseId : String)
    (state : Option ReleaseState) : List ((String × String) × CounterRow) :=
  (db.countersOf releaseId).filter fun row =>
    some row.2.mode = state.map (·.mode)

def Query.answer (demo : Bool) (now : Int) (db : Governance)
    (releaseId : String) (reads : Reads) : Query → Reads
  | .listed state =>
    { reads with listed := (db.releases.find? releaseId).any (·.state = state) }
  | .skip => { reads with skip := skipAutoPromote db releaseId demo }
  | .units => { reads with units := releaseBoundUnitCount db releaseId }
  | .started state =>
    { reads with age := (releaseTime db now releaseId state).map (now - ·) }
  | .excluded => { reads with excluded := proposerUnitIDs db releaseId }
  | .requests mode =>
    { reads with requests := sumCountersExcept db releaseId mode reads.excluded }
  | .denies => { reads with denies := some (countDenies db releaseId) }
  | .release => { reads with release := (loadRelease db releaseId).toOption }
  | .live =>
    { reads with state := ((db.releases.find? releaseId).map
        (·.state)).filter fun state => state = .canary || state = .enforce }
  | .totals =>
    let rows := db.countersIn releaseId reads.state
    { reads with current := { reads.current with
        requests := total (·.requests) rows
        blocks := total (·.blocks) rows } }
  | .previous =>
    match db.guards.find? releaseId with
    | none => { reads with prior := {}, consecutive := 0 }
    | some row =>
      { reads with
        prior := {
          requests := row.requests, blocks := row.blocks
          denies := row.denies, p99Micros := row.lastP99 }
        consecutive := row.consecutiveBad }
  | .quality =>
    let rows := db.countersIn releaseId reads.state
    { reads with current := { reads.current with
        upstream5xx := total (·.upstream5xx) rows
        p99Micros := (rows.foldr (fun row p99 => max row.2.latencyP99 p99) 0 : Nat) } }

inductive Promotion where
  | manualCanary (percent : Int)
  | manualEnforce
  | autoCanary
  | autoEnforce
  deriving DecidableEq

def ReleaseState.enumText : ReleaseState → String
  | .draft => "RELEASE_STATE_DRAFT"
  | .signed => "RELEASE_STATE_SIGNED"
  | .shadow => "RELEASE_STATE_SHADOW"
  | .canary => "RELEASE_STATE_CANARY"
  | .enforce => "RELEASE_STATE_ENFORCE"
  | .retired => "RELEASE_STATE_RETIRED"

def gateConflict : Option Release → RpcError
  | none => ⟨.notFound, "release not found"⟩
  | some rel => ⟨.failedPrecondition,
      "release_state_conflict: release state " ++ rel.state.enumText ++
        " does not allow this transition"⟩

def gateError : RpcError := ⟨.failedPrecondition, "promotion gates not satisfied"⟩

def promoteCanary (id : String) (a : Artifact) (percent : Int) :
    Except RpcError (Release × String) := do
  require (canaryPercentMin ≤ percent && percent ≤ canaryPercentMax)
    .invalidArgument ("canary percent " ++ toString percent ++
      " out of range [" ++ toString canaryPercentMin ++ "," ++ toString canaryPercentMax ++ "]")
  return (.canary id a percent, "")

def Promotion.decide (cfg : Settings) (reads : Reads) :
    Promotion → Except RpcError (Release × String)
  | .manualCanary percent =>
    match reads.release with
    | some (.shadow id a) => do
        let percent := if percent = 0 then canaryPercentDefault else percent
        require (canaryMinUnits percent ≤ reads.units) .failedPrecondition "canary_cohort_too_small"
        ensure (reads.age.any (durationThresholdMet · cfg.shadowMinDuration)
            && cfg.shadowMinRequests ≤ reads.requests && replayReportPassed a) gateError
        promoteCanary id a percent
    | other => .error (gateConflict other)
  | .manualEnforce =>
    match reads.release with
    | some (.shadow id a) => do
        ensure (reads.units < canaryMinUnits canaryPercentMax) (gateConflict reads.release)
        ensure (replayReportPassed a) gateError
        return (.enforce id a, a.supersedes)
    | some (.canary id a _) => do
        ensure (reads.age.any (durationThresholdMet · cfg.canaryMinDuration)
            && cfg.canaryMinRequests ≤ reads.requests && reads.denies = some 0) gateError
        return (.enforce id a, a.supersedes)
    | other => .error (gateConflict other)
  | .autoCanary =>
    match reads.release with
    | some (.shadow id a) => do
        ensure (reads.listed && !reads.skip && (cfg.demo ||
            canaryMinUnits cfg.canaryPercent ≤ reads.units) &&
            reads.age.any (durationThresholdMet · cfg.shadowMinDuration) &&
            cfg.shadowMinRequests ≤ reads.requests) gateError
        promoteCanary id a cfg.canaryPercent
    | other => .error (gateConflict other)
  | .autoEnforce =>
    match reads.release with
    | some (.canary id a _) => do
        -- Neither feedback nor guard windows are asked for.
        ensure (reads.listed && !reads.skip &&
            reads.age.any (durationThresholdMet · cfg.canaryMinDuration) &&
            cfg.canaryMinRequests ≤ reads.requests) gateError
        return (.enforce id a, "")
    | other => .error (gateConflict other)

inductive Action where
  | ask (query : Query)
  | promote (promotion : Promotion)
  | recordWindow
  | rollback
  deriving DecidableEq

inductive Task where
  | promotion (promotion : Promotion)
  | guard
  deriving DecidableEq

/-- The queries of an attempt in the order of the source. -/
def Task.program : Task → List Action
  | .promotion (.manualCanary percent) =>
    [.ask .release, .ask .units, .ask (.started .shadow),
      .ask (.requests .shadow), .promote (.manualCanary percent)]
  | .promotion .manualEnforce =>
    [.ask .release, .ask .units, .ask (.started .canary),
      .ask (.requests .canary), .ask .denies, .promote .manualEnforce]
  | .promotion .autoCanary =>
    [.ask (.listed .shadow), .ask .skip, .ask .units,
      .ask (.started .shadow), .ask .excluded, .ask (.requests .shadow),
      .ask .release, .promote .autoCanary]
  | .promotion .autoEnforce =>
    [.ask (.listed .canary), .ask .skip, .ask (.started .canary),
      .ask .excluded, .ask (.requests .canary), .ask .release, .promote .autoEnforce]
  | .guard =>
    [.ask .live, .ask .totals, .ask .denies, .ask .previous, .ask .quality,
      .recordWindow, .ask .release, .rollback]

def Reads.window (reads : Reads) : GuardSnapshot :=
  { reads.current with denies := (reads.denies.getD 0 : Nat) }

def Reads.nextConsecutive (reads : Reads) (denyThreshold : Nat) : Nat :=
  if guardWindowBad reads.prior reads.window denyThreshold then
    reads.consecutive + 1
  else 0

def Action.observe (cfg : Settings) (now : Int) (db : Governance)
    (releaseId : String) (reads : Reads) : Action → Reads × Governance
  | .ask query => (query.answer cfg.demo now db releaseId reads, db)
  | .recordWindow =>
    if reads.state.isNone then (reads, db)
    else
      let consecutive := reads.nextConsecutive cfg.denyThreshold
      ({ reads with consecutive := consecutive },
        { db with guards := db.guards.set releaseId {
            requests := reads.window.requests.toNat
            blocks := reads.window.blocks.toNat
            denies := reads.window.denies.toNat
            consecutiveBad := consecutive
            lastP99 := reads.window.p99Micros.toNat } })
  | _ => (reads, db)

def Action.decision (cfg : Settings) (now : Int) (genId : String → String)
    (reads : Reads) : Action → Option (Except RpcError ReleaseWrite)
  | .promote promotion =>
    some ((promotion.decide cfg reads).map fun outcome =>
      { rel := outcome.1
        feed := true
        supersedeArtifact := outcome.2
        signing := cfg.signing
        now := now
        genId := genId })
  | .rollback =>
    if reads.state.isSome ∧ cfg.guardBadWindows ≤ reads.consecutive then
      some (match reads.release with
        | some (.shadow id a) | some (.canary id a _)
        | some (.enforce id a) =>
          .ok {
            rel := .retired id a .rollback
            feed := true
            retired := true
            reason := .rollback
            signing := cfg.signing
            now := now
            genId := genId }
        | some rel => .error ⟨.unknown, "release " ++ rel.id ++
            " in state " ++ rel.state.enumText ++ " is not active"⟩
        | none => .error (gateConflict none))
    else none
  | _ => none

structure Attempt where
  releaseId : String
  program : List Action
  reads : Reads := {}
  deriving DecidableEq

end YuFeng.Brain

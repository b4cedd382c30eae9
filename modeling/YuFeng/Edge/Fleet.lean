import YuFeng.Brain.Heartbeat
import YuFeng.Edge.CatchUp
import YuFeng.Edge.Counting

/-!
# Units and the counters they report

The units of a fleet judge requests, load generations and report their
counters to the brain.  A unit has one counter for a release and reports it
under the mode that the release has at that time; so what a unit has counted
in shadow mode is reported as canary traffic once the release is in canary.

Besides its release set, a unit keeps two numbers that exist in the model
only: how many requests it has judged with the watched release in canary mode,
and how many of them it had judged when it last reported.
-/

namespace YuFeng.Edge

open YuFeng.Library YuFeng.Kernel YuFeng.Brain

variable {releaseId : String} {unit : UnitState} {fleet : Fleet}

structure UnitState where
  set : ReleaseSet
  epoch : Nat
  evaluated : Nat := 0
  reported : Nat := 0

structure Fleet where
  units : Table String UnitState
  db : Governance

def ReleaseSet.reportCounters (set : ReleaseSet) : List ReportedCounter :=
  set.releases.rows.filterMap fun row =>
    (set.counters.find? row.1).map fun c =>
      { releaseId := row.1
        mode := row.2.mode
        requests := c.requests
        blocks := c.blocks
        observe := c.observe
        canarySelected := c.canarySel }

def UnitState.message (unit : UnitState) (unitId : String)
    (projection listenPlan : Except RpcError Unit) : HeartbeatRequest where
  unitId := unitId
  generation := unit.epoch
  releaseCounters := unit.set.reportCounters
  currentGenerationId := (unit.set.activeGen.map (·.generationId)).getD ""
  currentGenerationSeq := (unit.set.activeGen.map (·.generationSeq)).getD 0
  projection := projection
  listenPlan := listenPlan

inductive FleetOp where
  | request (unitId : String) (visit : Visit)
  | generation (unitId : String) (now : Int) (persist : Persist) (gen : AssetGeneration)
  | heartbeat (unitId : String) (projection listenPlan : Except RpcError Unit)
  | restart (unitId : String) (now : Int) (epoch : Nat)
      (codec : GenerationCodec) (unitVersion : String)
      (posture : IngressPosture) (file : String)

def FleetOp.unitId : FleetOp → String
  | .request unitId _ | .generation unitId _ _ _ | .heartbeat unitId _ _
  | .restart unitId _ _ _ _ _ _ => unitId

def FleetOp.act (P : Platform) (releaseId : String) (unit : UnitState)
    (db : Governance) : FleetOp → UnitState × Governance
  | .request _ visit =>
    let outcome := inspectThenGate P visit.now unit.set visit.req visit.view
    ({ unit with
       set := outcome.2
       evaluated := unit.evaluated + canaryEvaluations releaseId outcome.1 }, db)
  | .generation _ now persist gen =>
    match applyGeneration P now persist unit.set gen with
    | .ok set => ({ unit with set := set }, db)
    | .error _ => (unit, db)
  | .heartbeat unitId projection listenPlan =>
    match Brain.heartbeat (unit.message unitId projection listenPlan) db with
    | .ok db' => ({ unit with reported := unit.evaluated }, db')
    | .error _ => (unit, db)
  | .restart _ now epoch codec unitVersion posture file =>
    ({ unit with
       set := Edge.restart P now codec unitVersion posture file
       epoch := epoch }, db)

def Fleet.step (P : Platform) (releaseId : String) (fleet : Fleet) (op : FleetOp) : Fleet :=
  match fleet.units.find? op.unitId with
  | none => fleet
  | some unit =>
    let outcome := op.act P releaseId unit fleet.db
    { units := fleet.units.set op.unitId outcome.1, db := outcome.2 }

/-- The release total of the brain is what the units had judged in canary
mode when they last reported. -/
def CanaryTotal (releaseId : String) (fleet : Fleet) : Prop :=
  sumCounters fleet.db releaseId .canary = sumBy (fun row => row.2.reported) fleet.units.rows

/-- The counter of the release has counted canary traffic only. -/
def FleetOp.clean (releaseId : String) (fleet : Fleet) : FleetOp → Prop
  | .generation unitId _ _ gen =>
    ∀ unit ∈ fleet.units.find? unitId, (0 < unit.evaluated → carries gen releaseId .canary = true) ∧
      (carries gen releaseId .canary = true → unit.set.modeOf releaseId = some .canary ∨
          unit.set.requestsOf releaseId = 0)
  | .restart unitId _ epoch _ _ _ _ =>
    ∀ unit ∈ fleet.units.find? unitId, unit.evaluated = 0 ∧ unit.epoch ≤ epoch
  | _ => True

/-! ## What a unit reports -/

theorem reportCounters_distinct (set : ReleaseSet) :
    (set.reportCounters.map (·.releaseId)).Nodup := by
  have sub : (set.reportCounters.map (·.releaseId)).Sublist (set.releases.rows.map Prod.fst) := by
    unfold ReleaseSet.reportCounters
    induction set.releases.rows with
    | nil => simp
    | cons row _ ih =>
      cases counter : set.counters.find? row.1 with
      | none =>
        simpa [counter] using ih.cons row.1
      | some => simpa [counter] using ih
  exact set.releases.unique.sublist sub

theorem reportCounters_loaded {set} (counted : Counted set) {mode}
    (loaded : set.modeOf releaseId = some mode) :
    ∃ c ∈ set.reportCounters, c.releaseId = releaseId ∧ c.mode = mode ∧
      c.requests = set.requestsOf releaseId := by
  obtain ⟨r, found, same⟩ := Option.map_eq_some_iff.mp loaded
  obtain ⟨_, counter⟩ := counted.counter releaseId r found
  refine ⟨_, List.mem_filterMap.mpr ⟨(releaseId, r),
    Table.mem_iff_find?.mpr found, by rw [counter, Option.map_some]⟩, rfl, same, ?_⟩
  simp [ReleaseSet.requestsOf, counter]

theorem reportCounters_unloaded {set : ReleaseSet} (unloaded : set.modeOf releaseId = none) :
    ∀ c ∈ set.reportCounters, c.releaseId ≠ releaseId := by
  rintro _ reported rfl
  obtain ⟨_, stored, counter⟩ := List.mem_filterMap.mp reported
  obtain ⟨_, -, rfl⟩ := Option.map_eq_some_iff.mp counter
  rw [ReleaseSet.modeOf, Table.mem_iff_find?.mp stored] at unloaded
  simp at unloaded

def canaryShare (row : Option CounterRow) : Nat :=
  (row.map fun row => if row.mode = .canary then row.requests else 0).getD 0

theorem canaryShare_eq (unitId releaseId row) :
    (row.map fun row => requestsIn releaseId .canary
      ((unitId, releaseId), row)).getD 0 = canaryShare row := by
  cases row with
  | none => rfl
  | some => simp [requestsIn, canaryShare]

structure UnitInv (releaseId : String) (row : Option CounterRow)
    (unit : UnitState) : Prop where
  counted : Counted unit.set
  canary : unit.set.modeOf releaseId = some .canary → unit.set.requestsOf releaseId = unit.evaluated
  other : unit.set.modeOf releaseId ≠ some .canary → unit.evaluated = 0
  bounded : unit.reported ≤ unit.evaluated
  epoch : ∀ stored ∈ row, stored.generation ≤ unit.epoch
  share : canaryShare row = unit.reported

section Merge

variable {stored excluded : CounterRow} (newer : stored.generation ≤ excluded.generation)

include newer

theorem merge_generation : (stored.merge excluded).generation = excluded.generation := by
  simp only [CounterRow.merge]
  omega

theorem merge_mode : (stored.merge excluded).mode = excluded.mode := by
  simp [CounterRow.merge, newer]

theorem merge_requests (grown : canaryShare (some stored) ≤
    excluded.requests) (canary : excluded.mode = .canary) :
    (stored.merge excluded).requests = excluded.requests := by
  by_cases restarts : stored.restarts excluded = true
  · simp [CounterRow.merge, restarts]
  · have same : excluded.generation = stored.generation ∧ stored.mode = .canary := by
      simp only [CounterRow.restarts, canary, Bool.or_eq_true,
        Bool.and_eq_true, decide_eq_true_eq, not_or, not_and, not_not] at restarts
      have equal : excluded.generation = stored.generation := by omega
      exact ⟨equal, (restarts.2 equal).symm⟩
    simp only [canaryShare, Option.map_some, same.2, if_true, Option.getD_some] at grown
    simp only [CounterRow.merge, restarts, same.1, if_true, if_false, Bool.false_eq_true]
    omega

end Merge

theorem upserted_share {stored excluded}
    (newer : ∀ row ∈ stored, row.generation ≤ excluded.generation)
    (grown : excluded.mode = .canary → canaryShare stored ≤ excluded.requests) :
    ((stored.map (·.merge excluded)).getD excluded).generation = excluded.generation ∧
      canaryShare (some ((stored.map (·.merge excluded)).getD excluded)) =
        if excluded.mode = .canary then excluded.requests else 0 := by
  cases stored with
  | none => exact ⟨rfl, rfl⟩
  | some row =>
    have order := newer row rfl
    refine ⟨merge_generation order, ?_⟩
    simp only [Option.map_some, Option.getD_some, canaryShare, merge_mode order]
    split
    next canary => exact merge_requests order (grown canary) canary
    · rfl

theorem releaseModeString_canary {mode} : releaseModeString mode = .canary ↔ mode = .canary := by
  cases mode <;> simp [releaseModeString]

theorem UnitInv.reported {unitId} {counters : Table (String × String) CounterRow}
    (h : UnitInv releaseId (counters.find? (unitId, releaseId)) unit) :
    UnitInv releaseId ((unit.set.reportCounters.foldl
        (upsertCounter unitId unit.epoch) counters).find? (unitId, releaseId))
      { unit with reported := unit.evaluated } := by
  suffices row : ∀ row, (unit.set.reportCounters.foldl
      (upsertCounter unitId unit.epoch) counters).find? (unitId, releaseId) = row →
      (∀ stored ∈ row, stored.generation ≤ unit.epoch) ∧ canaryShare row = unit.evaluated by
    obtain ⟨epoch, share⟩ := row _ rfl
    exact ⟨h.counted, h.canary, h.other, Nat.le_refl _, epoch, share⟩
  rintro _ rfl
  cases loaded : unit.set.modeOf releaseId with
  | none =>
    rw [upserts_find?_other (.inr (reportCounters_unloaded loaded))]
    have none := h.other (by simp [loaded])
    have bounded := h.bounded
    refine ⟨h.epoch, ?_⟩
    rw [h.share]
    omega
  | some mode =>
    obtain ⟨c, sent, rfl, rfl, requests⟩ := reportCounters_loaded h.counted loaded
    rw [upserts_find?_named (reportCounters_distinct _) sent]
    have grown : (c.row unit.epoch).mode = .canary →
        canaryShare (counters.find? (unitId, c.releaseId)) ≤ (c.row unit.epoch).requests := by
      intro canary
      have mode := releaseModeString_canary.mp canary
      have bounded := h.bounded
      rw [h.share, show (c.row unit.epoch).requests = c.requests from rfl,
        requests, h.canary (by rw [loaded, mode])]
      exact bounded
    obtain ⟨generation, share⟩ := upserted_share h.epoch grown
    refine ⟨?_, ?_⟩
    · rintro _ ⟨⟩
      exact Nat.le_of_eq generation
    · rw [share]
      change (if releaseModeString c.mode = .canary then c.requests else 0) = unit.evaluated
      by_cases mode : c.mode = .canary
      · rw [if_pos (releaseModeString_canary.mpr mode)]
        exact requests.trans (h.canary (by rw [loaded, mode]))
      · rw [if_neg fun canary => mode (releaseModeString_canary.mp canary)]
        exact (h.other (by rw [loaded]; simpa using mode)).symm

/-! ## Steps -/

structure FleetInv (releaseId : String) (fleet : Fleet) : Prop where
  units : ∀ unitId unit, fleet.units.find? unitId = some unit →
    UnitInv releaseId (fleet.db.counters.find? (unitId, releaseId)) unit
  total : CanaryTotal releaseId fleet

theorem FleetInv.own {unitId unit'} (h : FleetInv releaseId fleet)
    (found : fleet.units.find? unitId = some unit) (same : unit'.reported = unit.reported)
    (kept : UnitInv releaseId (fleet.db.counters.find? (unitId, releaseId)) unit') :
    FleetInv releaseId
      { units := fleet.units.set unitId unit', db := fleet.db } := by
  refine ⟨Table.forall_set kept h.units, ?_⟩
  have sums := sumBy_set (fun row : String × UnitState => row.2.reported) fleet.units unitId unit'
  have total := h.total
  simp only [found, Option.map_some, Option.getD_some, same] at sums
  simp only [CanaryTotal] at total ⊢
  omega

theorem FleetInv.heartbeat {unitId projection listenPlan db} (h : FleetInv releaseId fleet)
    (found : fleet.units.find? unitId = some unit)
    (accepted : Brain.heartbeat (unit.message unitId projection listenPlan) fleet.db = .ok db) :
    FleetInv releaseId
      { units := fleet.units.set unitId
          { unit with reported := unit.evaluated }, db := db } := by
  cases heartbeat_ok accepted
  have before := h.units unitId unit found
  have after := before.reported
  refine ⟨?_, ?_⟩
  · intro other state found'
    obtain ⟨rfl, rfl⟩ | ⟨here, elsewhere⟩ := Table.find?_set_some found'
    · exact after
    · have kept : (fleet.db.report (unit.message unitId projection
          listenPlan)).counters.find? (other, releaseId) =
          fleet.db.counters.find? (other, releaseId) :=
        upserts_find?_other (.inl here)
      rw [kept]
      exact h.units other state elsewhere
  · have units := sumBy_set (fun row : String × UnitState => row.2.reported)
      fleet.units unitId { unit with reported := unit.evaluated }
    have rows := @sumBy_upserts unitId unit.epoch fleet.db.counters
      unit.set.reportCounters releaseId .canary
    simp only [found, Option.map_some, Option.getD_some] at units
    have share : canaryShare _ = unit.evaluated := after.share
    rw [canaryShare_eq, canaryShare_eq, before.share, share] at rows
    have total := h.total
    simp only [CanaryTotal, sumCounters_eq_sumBy] at total ⊢
    change sumBy _ (unit.set.reportCounters.foldl
      (upsertCounter unitId unit.epoch) fleet.db.counters).rows = _
    omega

theorem FleetInv.step {P op} (clean : op.clean releaseId fleet) (h : FleetInv releaseId fleet) :
    FleetInv releaseId (fleet.step P releaseId op) := by
  unfold Fleet.step
  cases found : fleet.units.find? op.unitId with
  | none => exact h
  | some unit =>
    have inv := h.units op.unitId unit found
    cases op with
    | request =>
      refine h.own found (by rfl) ?_
      refine ⟨inv.counted.gate, ?_, ?_, ?_, inv.epoch, inv.share⟩
      · intro canary
        have before : unit.set.modeOf releaseId = some .canary := canary
        exact (inspectThenGate_canary inv.counted before).trans
          (congrArg (· + _) (inv.canary before))
      · intro other
        have before : unit.set.modeOf releaseId ≠ some .canary := other
        change unit.evaluated + _ = 0
        rw [canaryEvaluations_eq_zero inv.counted before, inv.other before]
      · exact Nat.le_trans inv.bounded (Nat.le_add_right _ _)
    | generation _ now persist gen =>
      simp only [FleetOp.act]
      cases applied : applyGeneration P now persist unit.set gen with
      | error => exact h.own found rfl inv
      | ok =>
        refine h.own found (by rfl) ?_
        obtain ⟨stays, fresh⟩ := clean unit found
        have mode := applyGeneration_modeOf applied releaseId .canary
        have counter := applyGeneration_requestsOf applied releaseId
        refine ⟨.generation applied, ?_, ?_, inv.bounded, inv.epoch, inv.share⟩
        · intro canary
          rw [canary] at counter
          refine counter.trans ?_
          by_cases before : unit.set.modeOf releaseId = some .canary
          · exact inv.canary before
          · have zero := (fresh (mode.mp canary)).resolve_left before
            exact zero.trans (inv.other before).symm
        · intro other
          have none : ¬ 0 < unit.evaluated := fun some =>
            other (mode.mpr (stays some))
          change unit.evaluated = 0
          omega
    | heartbeat unitId projection listenPlan =>
      simp only [FleetOp.act]
      cases accepted : Brain.heartbeat (unit.message unitId projection listenPlan) fleet.db with
      | error => exact h.own found rfl inv
      | ok => exact h.heartbeat found accepted
    | restart _ now _ codec unitVersion posture file =>
      refine h.own found (by rfl) ?_
      obtain ⟨none, later⟩ := clean unit found
      have unused := restart_unused P now codec unitVersion posture file
      refine ⟨unused.toCounted, ?_, fun _ => none, inv.bounded, ?_, inv.share⟩
      · intro _
        exact (unused.zero releaseId).trans none.symm
      · intro stored present
        exact Nat.le_trans (inv.epoch stored present) later

/-! ## Runs -/

structure Fleet.Fresh (fleet : Fleet) : Prop where
  units : ∀ unitId unit, fleet.units.find? unitId = some unit →
    (∃ version, unit.set = newReleaseSet version) ∧ unit.evaluated = 0 ∧ unit.reported = 0
  counters : fleet.db.counters = .empty

theorem Fleet.Fresh.inv (h : fleet.Fresh) (releaseId) : FleetInv releaseId fleet := by
  refine ⟨?_, ?_⟩
  · intro unitId unit found
    obtain ⟨⟨version, start⟩, evaluated, reported⟩ := h.units unitId unit found
    have unused := newReleaseSet_unused version
    rw [← start] at unused
    refine ⟨unused.toCounted, ?_, fun _ => evaluated, by omega, ?_, ?_⟩
    · intro _
      rw [unused.zero, evaluated]
    · rw [h.counters]
      rintro _ ⟨⟩
    · rw [h.counters, reported]
      rfl
  · have none : sumBy (fun row : String × UnitState => row.2.reported)
        fleet.units.rows = sumBy (fun _ => 0) fleet.units.rows := by
      apply sumBy_congr
      rintro ⟨unitId, unit⟩ present
      exact (h.units unitId unit (Table.mem_iff_find?.mp present)).2.2
    rw [CanaryTotal, sumCounters_eq_sumBy, h.counters, none, sumBy_zero]
    rfl

/-- If the counter of the release only counts canary traffic on every unit,
then the brain sums up the requests judged in canary mode. -/
theorem canaryTotal_of_clean {P : Platform} {releaseId : String}
    {fleet : Fleet} {ops : List FleetOp} (fresh : fleet.Fresh)
    (clean : Meets (Fleet.step P releaseId) (fun fleet op => op.clean releaseId fleet) fleet ops) :
    CanaryTotal releaseId (run (Fleet.step P releaseId) fleet ops) :=
  (run_invariant _ _ (FleetInv releaseId) (fun _ _ => FleetInv.step) clean
    (fresh.inv releaseId)).total

/-! ## One unit that watches and then tries a rule -/

def modeGeneration (generationId parent : String) (seq : Int)
    (mode : ReleaseMode) : AssetGeneration where
  generationId := generationId
  assetId := "shop"
  generationSeq := seq
  parentGenerationId := parent
  members := [
    { releaseId := "rel-2", artifact := some passwdRule, assetId := "shop",
      mode := mode, canaryPercent := 5 }]
  minEdgeVersion := "dev"
  notBefore := some issued
  envelopeSignature := some ⟨"brain", "signed " ++ generationId⟩

def watched : AssetGeneration := modeGeneration "gen-a" "" 1 .shadow

def tried : AssetGeneration := modeGeneration "gen-b" "gen-a" 2 .canary

def shopFleet : Fleet where
  units := Table.empty.set "edge-1" { set := newReleaseSet "dev", epoch := 7 }
  db := {
    generations := [watched, tried]
    unitAssets := [("edge-1", "shop")]
    units := Table.empty.set "edge-1" 0 }

theorem shopFleet_fresh : shopFleet.Fresh := by
  refine ⟨?_, rfl⟩
  intro unitId _ found
  by_cases here : unitId = "edge-1"
  · subst here
    cases found
    exact ⟨⟨"dev", rfl⟩, rfl, rfl⟩
  · rw [shopFleet, Table.find?_set_of_ne here] at found
    contradiction

def shopVisit : Visit := ⟨issued + 1, passwdRequest, passwdView⟩

def loadAt (gen : AssetGeneration) : FleetOp := .generation "edge-1" (issued + 1) storeNothing gen

def report : FleetOp := .heartbeat "edge-1" (.ok ()) (.ok ())

/-- A request that was judged in shadow mode is counted as canary traffic. -/
theorem canaryTotal_relabelled :
    let fleet := run (Fleet.step historyEdge "rel-2") shopFleet
      [loadAt watched, .request "edge-1" shopVisit, loadAt tried, report]
    shopFleet.Fresh ∧ (fleet.units.find? "edge-1").map (·.evaluated) = some 0 ∧
      sumCounters fleet.db "rel-2" .canary = 1 ∧ ¬ CanaryTotal "rel-2" fleet := by
  have counted : sumCounters (run (Fleet.step historyEdge "rel-2") shopFleet
      [loadAt watched, .request "edge-1" shopVisit, loadAt tried,
        report]).db "rel-2" .canary = 1 := by
    decide +kernel
  have judged : sumBy (fun row : String × UnitState => row.2.reported)
      (run (Fleet.step historyEdge "rel-2") shopFleet
        [loadAt watched, .request "edge-1" shopVisit, loadAt tried, report]).units.rows = 0 := by
    decide +kernel
  refine ⟨shopFleet_fresh, by decide +kernel, counted, ?_⟩
  intro total
  rw [CanaryTotal, counted, judged] at total
  contradiction

theorem canaryTotal_tried :
    let fleet := run (Fleet.step historyEdge "rel-2") shopFleet
      [loadAt tried, .request "edge-1" shopVisit, report]
    sumCounters fleet.db "rel-2" .canary = 1 ∧ CanaryTotal "rel-2" fleet := by
  refine ⟨by decide +kernel, ?_⟩
  apply canaryTotal_of_clean shopFleet_fresh
  refine ⟨?_, trivial, trivial, trivial⟩
  rintro _ ⟨⟩
  exact ⟨fun some => absurd some (by decide), fun _ => .inr rfl⟩

end YuFeng.Edge

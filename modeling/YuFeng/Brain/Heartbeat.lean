import YuFeng.Brain.Governance

/-!
# Heartbeats

A unit reports the counters of its releases together with the epoch in which
it counts; an epoch begins when the unit starts.  A newer epoch or another
mode replaces the stored totals, the same epoch keeps the larger ones, and an
older epoch is ignored.  A newer epoch also forgets the guard windows of every
release that the unit has reported.

Whether capabilities, health and listen plan of the message are acceptable is
an input: no table below depends on them.
-/

namespace YuFeng.Brain

open YuFeng.Library YuFeng.Kernel List Table

structure ReportedCounter where
  releaseId : String
  mode : ReleaseMode
  requests : Nat := 0
  blocks : Nat := 0
  observe : Nat := 0
  canarySelected : Nat := 0
  upstream5xx : Nat := 0
  latencyMicros : Nat := 0
  latencySamples : Nat := 0
  latencyP99 : Nat := 0
  deriving DecidableEq

structure HeartbeatRequest where
  unitId : String
  generation : Nat
  releaseCounters : List ReportedCounter
  currentGenerationId : String := ""
  currentGenerationSeq : Int := 0
  /-- The outcome of the checks of capabilities and health. -/
  projection : Except RpcError Unit := .ok ()
  /-- The outcome of the check of the listen plan. -/
  listenPlan : Except RpcError Unit := .ok ()

def releaseModeString : ReleaseMode → ReleaseMode
  | .canary => .canary
  | .enforce => .enforce
  | _ => .shadow

def ReportedCounter.row (c : ReportedCounter) (generation : Nat) : CounterRow where
  generation := generation
  mode := releaseModeString c.mode
  requests := c.requests
  blocks := c.blocks
  observe := c.observe
  canarySelected := c.canarySelected
  upstream5xx := c.upstream5xx
  latencyMicros := c.latencyMicros
  latencySamples := c.latencySamples
  latencyP99 := c.latencyP99

def CounterRow.restarts (stored excluded : CounterRow) : Bool :=
  stored.generation < excluded.generation ||
    excluded.generation = stored.generation && excluded.mode ≠ stored.mode

def CounterRow.merge (stored excluded : CounterRow) : CounterRow :=
  let column (total : CounterRow → Nat) : Nat :=
    if stored.restarts excluded then total excluded
    else if excluded.generation = stored.generation then
      max (total stored) (total excluded)
    else total stored
  { generation := max stored.generation excluded.generation
    mode := if stored.restarts excluded then excluded.mode
      else if stored.generation ≤ excluded.generation then excluded.mode
      else stored.mode
    requests := column (·.requests)
    blocks := column (·.blocks)
    observe := column (·.observe)
    canarySelected := column (·.canarySelected)
    upstream5xx := column (·.upstream5xx)
    latencyMicros := column (·.latencyMicros)
    latencySamples := column (·.latencySamples)
    latencyP99 := column (·.latencyP99) }

def upsertCounter (unitId : String) (generation : Nat)
    (counters : Table (String × String) CounterRow) (c : ReportedCounter) :
    Table (String × String) CounterRow :=
  let row := c.row generation
  counters.set (unitId, c.releaseId)
    (((counters.find? (unitId, c.releaseId)).map (·.merge row)).getD row)

def Governance.runsGeneration (db : Governance) (unitId : String)
    (generationId : String) (seq : Int) : Bool :=
  db.generations.any fun gen => gen.generationId = generationId &&
    gen.generationSeq = seq && db.unitAssets.contains (unitId, gen.assetId)

def Governance.forgetGuards (db : Governance) (unitId : String) : Table String GuardRow :=
  db.guards.select fun releaseId =>
    (db.counters.find? (unitId, releaseId)).isNone

def Governance.report (db : Governance) (msg : HeartbeatRequest) : Governance :=
  let previous := (db.units.find? msg.unitId).getD 0
  { db with
    units := match db.units.find? msg.unitId with
      | some epoch => db.units.set msg.unitId (max epoch msg.generation)
      | none => db.units
    guards := if previous < msg.generation then db.forgetGuards msg.unitId else db.guards
    counters := msg.releaseCounters.foldl (upsertCounter msg.unitId msg.generation) db.counters }

def heartbeat (msg : HeartbeatRequest) (db : Governance) : Except RpcError Governance := do
  msg.projection
  require ((msg.currentGenerationId = "" ↔ msg.currentGenerationSeq = 0) ∧
      0 ≤ msg.currentGenerationSeq) .invalidArgument
    "current generation identity is incomplete"
  require (msg.currentGenerationId = "" ∨ db.runsGeneration msg.unitId
      msg.currentGenerationId msg.currentGenerationSeq) .failedPrecondition
    "current generation is not a signed generation for this unit"
  msg.listenPlan
  return db.report msg

theorem heartbeat_ok {msg db db'} (h : heartbeat msg db = .ok db') : db' = db.report msg := by
  simp only [heartbeat, seq_ok, pure_ok] at h
  obtain ⟨_, -, _, -, _, -, _, -, rfl⟩ := h
  rfl

/-! ## Sums -/

def sumCountersExcept (db : Governance) (releaseId : String)
    (mode : ReleaseMode) (exclude : List String) : Nat :=
  total (·.requests) ((db.countersOf releaseId).filter fun row =>
    row.2.mode = mode && row.1.1 ∉ exclude)

def sumCounters (db : Governance) (releaseId : String) (mode : ReleaseMode) : Nat :=
  total (·.requests) ((db.countersOf releaseId).filter fun row =>
    row.2.mode = mode)

def requestsIn (releaseId : String) (mode : ReleaseMode)
    (row : (String × String) × CounterRow) : Nat :=
  if row.1.2 = releaseId ∧ row.2.mode = mode then row.2.requests else 0

theorem sumCounters_eq_sumBy (db) (releaseId mode) :
    sumCounters db releaseId mode = sumBy (requestsIn releaseId mode) db.counters.rows := by
  rw [sumCounters, Governance.countersOf]
  induction db.counters.rows with
  | nil => rfl
  | cons row _ ih =>
    rw [sumBy, foldr_cons, ← sumBy, ← ih]
    by_cases here : row.1.2 = releaseId
    · by_cases same : row.2.mode = mode
      · simp [requestsIn, here, same, total]
      · simp [requestsIn, here, same]
    · simp [requestsIn, here]

theorem total_le_of_sublist {column : CounterRow → Nat} {rows rows'} (h : rows.Sublist rows') :
    total column rows ≤ total column rows' := by
  induction h with
  | slnil => exact Nat.le_refl _
  | cons _ _ ih => exact Nat.le_trans ih (Nat.le_add_left _ _)
  | cons_cons _ _ ih => exact Nat.add_le_add_left ih _

section Upserts

variable {unitId : String} {generation : Nat}

variable {counters : Table (String × String) CounterRow} {cs : List ReportedCounter}

theorem upserts_find?_other {key} (other : key.1 ≠ unitId ∨ ∀ c ∈ cs, c.releaseId ≠ key.2) :
    (cs.foldl (upsertCounter unitId generation) counters).find? key = counters.find? key := by
  induction cs generalizing counters with
  | nil => rfl
  | cons c _ ih =>
    have different : key ≠ (unitId, c.releaseId) := by
      rintro rfl
      rcases other with other | other
      · exact other rfl
      · exact other c mem_cons_self rfl
    rw [foldl_cons, ih, upsertCounter, find?_set_of_ne different]
    exact other.imp_right fun unnamed c' later =>
      unnamed c' (mem_cons_of_mem _ later)

theorem upserts_find?_named (distinct : (cs.map (·.releaseId)).Nodup) {c} (present : c ∈ cs) :
    (cs.foldl (upsertCounter unitId generation) counters).find? (unitId, c.releaseId) =
      some (((counters.find? (unitId, c.releaseId)).map
        (·.merge (c.row generation))).getD (c.row generation)) := by
  induction cs generalizing counters with
  | nil => simp at present
  | cons first _ ih =>
    rw [map_cons, nodup_cons] at distinct
    rw [foldl_cons]
    rcases mem_cons.mp present with rfl | later
    · rw [upserts_find?_other, upsertCounter, find?_set_self]
      refine .inr fun other later same => distinct.1 ?_
      exact mem_map.mpr ⟨other, later, same⟩
    · have different : c.releaseId ≠ first.releaseId := fun same =>
        distinct.1 (mem_map.mpr ⟨c, later, same⟩)
      rw [ih distinct.2 later, upsertCounter, find?_set_of_ne]
      simpa using different

theorem sumBy_upserts (counters : Table (String × String) CounterRow) (cs : List ReportedCounter)
    (releaseId mode) :
    sumBy (requestsIn releaseId mode) (cs.foldl (upsertCounter unitId generation) counters).rows +
        ((counters.find? (unitId, releaseId)).map fun row =>
          requestsIn releaseId mode ((unitId, releaseId), row)).getD 0 =
      sumBy (requestsIn releaseId mode) counters.rows +
        (((cs.foldl (upsertCounter unitId generation) counters).find?
          (unitId, releaseId)).map fun row =>
            requestsIn releaseId mode ((unitId, releaseId), row)).getD 0 := by
  induction cs generalizing counters with
  | nil => rfl
  | cons c _ ih =>
    rw [foldl_cons]
    have rest := ih (upsertCounter unitId generation counters c)
    have head := sumBy_set (requestsIn releaseId mode) counters (unitId, c.releaseId)
      (((counters.find? (unitId, c.releaseId)).map
        (·.merge (c.row generation))).getD (c.row generation))
    by_cases here : c.releaseId = releaseId
    · subst here
      rw [upsertCounter, find?_set_self, Option.map_some, Option.getD_some] at rest
      rw [upsertCounter]
      omega
    · have silent : ∀ row, requestsIn releaseId mode ((unitId, c.releaseId), row) = 0 := by
        intro _
        simp [requestsIn, here]
      have kept : (upsertCounter unitId generation counters c).find?
          (unitId, releaseId) = counters.find? (unitId, releaseId) :=
        find?_set_of_ne (by simp [Ne.symm here]) ..
      have before : ((counters.find? (unitId, c.releaseId)).map fun row => requestsIn releaseId mode
            ((unitId, c.releaseId), row)).getD 0 = 0 := by
        cases counters.find? (unitId, c.releaseId) with
        | none => rfl
        | some row => exact silent row
      rw [before, silent] at head
      rw [kept] at rest
      rw [upsertCounter] at rest ⊢
      omega

end Upserts

end YuFeng.Brain

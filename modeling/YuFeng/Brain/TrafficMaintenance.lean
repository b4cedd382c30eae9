import YuFeng.Library.Rollup
import YuFeng.Library.Run
import YuFeng.Review.Ingest

/-!
# Retention of traffic windows

The brain stores the windows that edges upload and sums them up by hour and
by day.  A maintenance run computes the sums of the windows that are still
stored, overwrites the buckets they belong to, and then deletes windows older
than seven days.  The cutoff is a moment, not the end of a bucket.

All times are nanoseconds since the epoch.  The session of the database is
in UTC, and a run is one step.
-/

namespace YuFeng.Traffic

open YuFeng.Library YuFeng.Review List

def hourLength : Int := 3600 * second

def dayLength : Int := 24 * hourLength

def daysAgo (days : Int) (now : Int) : Int := now - days * dayLength

def hourOf (time : Int) : Int := time / hourLength * hourLength

def dateOf (time : Int) : Int := time / dayLength

/-- The day of the year before, which depends on the calendar. -/
structure Calendar where
  yearAgo : Int → Int
  old : ∀ now, yearAgo now ≤ daysAgo 7 now

structure Metrics where
  requests : Int
  critical : Int
  blocked : Int
  observed : Int
  incomplete : Int
  evidenceDropped : Int
  deriving DecidableEq

def Metrics.zero : Metrics := ⟨0, 0, 0, 0, 0, 0⟩

def Metrics.add (a b : Metrics) : Metrics :=
  ⟨a.requests + b.requests, a.critical + b.critical, a.blocked + b.blocked,
    a.observed + b.observed, a.incomplete + b.incomplete, a.evidenceDropped + b.evidenceDropped⟩

/-- A row of `traffic.traffic_windows`, in the columns that are summed up. -/
structure Row where
  windowId : String
  assetId : String
  windowStart : Int
  counts : Metrics
  deriving DecidableEq

def total (rows : List Row) : Metrics := rows.foldr (fun row sum => row.counts.add sum) .zero

def hourBucket (row : Row) : String × Int := (row.assetId, hourOf row.windowStart)

def dayBucket (row : Row) : String × Int := (row.assetId, dateOf row.windowStart)

structure Receipt where
  windowStart : Int
  payloadDigest : String
  deriving DecidableEq

/-- The tables.  A window lies in the partition of its date if there is one,
and in the default partition otherwise. -/
structure Store where
  windows : List Row
  partitions : List Int
  receipts : Table String Receipt
  hourly : Table (String × Int) Metrics
  daily : Table (String × Int) Metrics

def Store.empty : Store := ⟨[], [], .empty, .empty, .empty⟩

/-! ## Windows come in -/

inductive Answer where
  | accepted
  | deduped
  | rejected (rejection : Rejection)

def rowOf (w : TrafficWindow) (start : Timestamp) : Row :=
  ⟨w.windowId, w.assetId, start.asTime,
    ⟨w.requestCount, w.criticalCount, w.blockedCount, w.observedCount,
      w.incompleteCount, w.evidenceDroppedCount⟩⟩

def insertWindow (s : Store) (row : Row) (digest : String) : Store × Answer :=
  match s.receipts.find? row.windowId with
  | some receipt =>
    if receipt.payloadDigest ≠ digest then
      (s, .rejected ⟨"stable_id_changed", "traffic window payload changed for a stable identifier"⟩)
    else (s, .deduped)
  | none =>
    ({ s with
      windows := s.windows ++ [row]
      receipts := s.receipts.set row.windowId ⟨row.windowStart, digest⟩ }, .accepted)

/-! ## Maintenance -/

def ensureTrafficPartition (partitions : List Int) (date : Int) : List Int :=
  if partitions.contains date then partitions else date :: partitions

/-- The day before the run, its own, and the two that follow. -/
def ensureTrafficPartitions (s : Store) (now : Int) : Store :=
  { s with
    partitions := [-1, 0, 1, 2].foldl (fun partitions offset =>
      ensureTrafficPartition partitions (dateOf now + offset)) s.partitions }

def dropExpiredTrafficPartitions (s : Store) (cutoff : Int) : Store × Nat :=
  let expired := s.partitions.filter (· < dateOf cutoff)
  let dropped := fun row : Row => expired.contains (dateOf row.windowStart)
  ({ s with
    partitions := s.partitions.filter (dateOf cutoff ≤ ·)
    windows := s.windows.filter (!dropped ·) }, s.windows.countP dropped)

def deleteExpiredWindows (s : Store) (cutoff : Int) : Store × Nat :=
  let kept := fun row : Row => decide (cutoff ≤ row.windowStart)
  ({ s with windows := s.windows.filter kept }, s.windows.countP (!kept ·))

def sumUp (calendar : Calendar) (s : Store) (now : Int) : Store :=
  { s with
    hourly := rollup hourBucket total
      (s.windows.filter fun row => daysAgo 8 now ≤ row.windowStart) s.hourly
    daily := rollup dayBucket total
      (s.windows.filter fun row => calendar.yearAgo now ≤ row.windowStart)
      s.daily }

def deleteExpiredMetrics (calendar : Calendar) (s : Store) (now : Int) : Store :=
  { s with
    hourly := s.hourly.select fun key => daysAgo 90 now ≤ key.2
    daily := s.daily.select fun key => dateOf (calendar.yearAgo now) ≤ key.2 }

/-- The part of `MaintainTrafficData` on the windows and their sums, with the
number of windows it deletes. -/
def maintainTrafficData (calendar : Calendar) (s : Store) (now : Int) : Store × Nat :=
  let cutoff := daysAgo 7 now
  let summed := sumUp calendar (ensureTrafficPartitions s now) now
  let dropped := dropExpiredTrafficPartitions summed cutoff
  let deleted := deleteExpiredWindows dropped.1 cutoff
  let left := { deleted.1 with
    receipts := deleted.1.receipts.selectRows (cutoff ≤ ·.windowStart) }
  (deleteExpiredMetrics calendar left now, dropped.2 + deleted.2)

/-! ## Histories -/

/-- The store, with a log of the windows it has accepted: those that a run
has seen, and those that came in since the last run. -/
structure History where
  store : Store
  seen : List Row
  fresh : List Row

def History.ingested (h : History) : List Row := h.seen ++ h.fresh

def History.empty : History := ⟨.empty, [], []⟩

inductive Op where
  | ingest (unitID : String) (bound : Bool) (w : TrafficWindow) (digest : String)
  | maintain (now : Int)

def ingest (h : History) (unitID : String) (bound : Bool)
    (w : TrafficWindow) (digest : String) : History :=
  match ingestTrafficWindow unitID (fun _ => bound) w, w.windowStart with
  | none, some start =>
    match insertWindow h.store (rowOf w start) digest with
    | (store, .accepted) =>
      { h with store := store, fresh := h.fresh ++ [rowOf w start] }
    | _ => h
  | _, _ => h

def trafficStep (calendar : Calendar) (h : History) : Op → History
  | .ingest unitID bound w digest => ingest h unitID bound w digest
  | .maintain now =>
    ⟨(maintainTrafficData calendar h.store now).1, h.ingested, []⟩

/-! ## When the sums stay right -/

/-- The window that an upload would store is for a day of which no window
has been deleted. -/
def DayComplete (h : History) (w : TrafficWindow) : Prop :=
  ∀ start ∈ w.windowStart, ∀ row ∈ h.ingested,
    dayBucket row = dayBucket (rowOf w start) → row ∈ h.store.windows

/-- No cutoff of the run lies between two windows of one bucket. -/
structure Unsplit (calendar : Calendar) (h : History) (now : Int) :
    Prop where
  deletion : ∀ v ∈ h.ingested, ∀ w ∈ h.ingested, dayBucket v = dayBucket w →
    (daysAgo 7 now ≤ v.windowStart ↔ daysAgo 7 now ≤ w.windowStart)
  hourly : ∀ v ∈ h.ingested, ∀ w ∈ h.ingested, hourBucket v = hourBucket w →
    (daysAgo 8 now ≤ v.windowStart ↔ daysAgo 8 now ≤ w.windowStart)
  daily : ∀ v ∈ h.ingested, ∀ w ∈ h.ingested, dayBucket v = dayBucket w →
    (calendar.yearAgo now ≤ v.windowStart ↔ calendar.yearAgo now ≤ w.windowStart)

def Aligned (calendar : Calendar) (h : History) : Op → Prop
  | .ingest _ _ w _ => DayComplete h w
  | .maintain now => Unsplit calendar h now

/-- The runs are frequent enough: a window is not yet older than seven days
at the first run that sees it. -/
def Frequent (h : History) : Op → Prop
  | .ingest _ _ _ _ => True
  | .maintain now => ∀ row ∈ h.fresh, daysAgo 7 now ≤ row.windowStart

/-! ## One step -/

/-- Both tables of sums agree with the windows that runs have seen, and the
windows that are left are those of whole days. -/
structure Kept (h : History) : Prop where
  hourly : Agrees hourBucket total h.seen h.store.hourly
  daily : Agrees dayBucket total h.seen h.store.daily
  whole : Whole dayBucket h.ingested h.store.windows
  fresh : ∀ row ∈ h.fresh, row ∈ h.store.windows

theorem hourBucket_inside {v w} (h : hourBucket v = hourBucket w) : dayBucket v = dayBucket w := by
  simp only [hourBucket, dayBucket, Prod.mk.injEq] at h ⊢
  refine ⟨h.1, ?_⟩
  have hours := h.2
  simp only [hourOf, dateOf, dayLength, hourLength, second] at hours ⊢
  omega

theorem dateOf_le {s t} (h : s ≤ t) : dateOf s ≤ dateOf t := by
  simp only [dateOf, dayLength, hourLength, second]
  omega

theorem deleteExpired_windows (s : Store) (cutoff : Int) :
    (deleteExpiredWindows (dropExpiredTrafficPartitions s cutoff).1 cutoff).1.windows =
      s.windows.filter fun row => decide (cutoff ≤ row.windowStart) := by
  simp only [deleteExpiredWindows, dropExpiredTrafficPartitions, filter_filter]
  apply filter_congr
  intro row _
  by_cases kept : cutoff ≤ row.windowStart
  · have date := dateOf_le kept
    simp only [kept, decide_true, Bool.true_and]
    simp only [contains_eq_mem, mem_filter, decide_eq_true_eq,
      Bool.not_eq_eq_eq_not, Bool.not_true, decide_eq_false_iff_not]
    omega
  · simp [kept]

theorem insertWindow_accepted {s store row digest}
    (h : insertWindow s row digest = (store, .accepted)) :
    store.windows = s.windows ++ [row] ∧ store.hourly = s.hourly ∧ store.daily = s.daily := by
  unfold insertWindow at h
  split at h
  · split at h <;> simp at h
  · simp only [Prod.mk.injEq, and_true] at h
    subst h
    exact ⟨rfl, rfl, rfl⟩

theorem whole_append {log rows row} (h : Whole dayBucket log rows)
    (complete : ∀ v ∈ log, dayBucket v = dayBucket row → v ∈ rows) :
    Whole dayBucket (log ++ [row]) (rows ++ [row]) := by
  intro key
  rw [groupOf_append, groupOf_append]
  by_cases same : dayBucket row = key
  · have equal : groupOf dayBucket rows key = groupOf dayBucket log key := by
      rcases h key with gone | all
      · rw [gone, eq_comm, eq_nil_iff_forall_not_mem]
        intro v member
        rw [mem_groupOf] at member
        have here := complete v member.1 (member.2.trans same.symm)
        have grouped := (mem_groupOf dayBucket).mpr ⟨here, member.2⟩
        rw [gone] at grouped
        contradiction
      · exact all
    exact .inr (by rw [equal])
  · have none_new : groupOf dayBucket [row] key = [] := by
      simp [groupOf, same]
    rw [none_new, append_nil, append_nil]
    exact h key

theorem ingest_kept {h unitID digest bound w} (complete : DayComplete h w) (kept : Kept h) :
    Kept (ingest h unitID bound w digest) := by
  unfold ingest
  split
  next start _ dated =>
    split
    next store inserted =>
      obtain ⟨windows, hourly, daily⟩ := insertWindow_accepted inserted
      have logged : (h.seen ++ (h.fresh ++ [rowOf w start])) = h.ingested ++ [rowOf w start] := by
        rw [History.ingested, append_assoc]
      constructor
      · rw [hourly]
        exact kept.hourly
      · rw [daily]
        exact kept.daily
      · simp only [History.ingested, windows, logged]
        exact whole_append kept.whole (complete start dated)
      · intro row member
        rw [windows]
        rcases mem_append.mp member with before | new
        · exact mem_append_left _ (kept.fresh row before)
        · exact mem_append_right _ new
    · exact kept
  · exact kept

section Maintain

variable {calendar : Calendar} {h : History} {now : Int}

theorem maintained_windows (s : Store) : (maintainTrafficData calendar s now).1.windows =
      s.windows.filter fun row => decide (daysAgo 7 now ≤ row.windowStart) :=
  deleteExpired_windows (sumUp calendar (ensureTrafficPartitions s now) now) (daysAgo 7 now)

theorem maintained_hourly (s : Store) : (maintainTrafficData calendar s now).1.hourly =
      (rollup hourBucket total (s.windows.filter fun row =>
        daysAgo 8 now ≤ row.windowStart) s.hourly).select fun key => daysAgo 90 now ≤ key.2 :=
  rfl

theorem maintained_daily (s : Store) : (maintainTrafficData calendar s now).1.daily =
      (rollup dayBucket total (s.windows.filter fun row =>
        calendar.yearAgo now ≤ row.windowStart) s.daily).select
          fun key => dateOf (calendar.yearAgo now) ≤ key.2 :=
  rfl

theorem daysAgo_eight_le : daysAgo 8 now ≤ daysAgo 7 now := by
  simp only [daysAgo, dayLength, hourLength, second]
  omega

theorem maintain_kept (frequent : Frequent h (.maintain now))
    (unsplit : Unsplit calendar h now) (kept : Kept h) :
    Kept (trafficStep calendar h (.maintain now)) := by
  have hours := kept.whole.refine dayBucket (fun _ _ => hourBucket_inside)
  constructor
  · rw [trafficStep, maintained_hourly]
    apply Agrees.select
    apply kept.hourly.rollup
    · apply hours.filter hourBucket
      simpa using unsplit.hourly
    · intro row member
      have recent := frequent row member
      have older := @daysAgo_eight_le now
      simp only [mem_filter, decide_eq_true_eq]
      exact ⟨kept.fresh row member, by omega⟩
  · rw [trafficStep, maintained_daily]
    apply Agrees.select
    apply kept.daily.rollup
    · apply kept.whole.filter dayBucket
      simpa using unsplit.daily
    · intro row member
      have recent := frequent row member
      have older := calendar.old now
      simp only [mem_filter, decide_eq_true_eq]
      exact ⟨kept.fresh row member, by omega⟩
  · rw [trafficStep, maintained_windows]
    simp only [History.ingested, append_nil]
    apply kept.whole.filter dayBucket
    simpa using unsplit.deletion
  · nofun

theorem trafficStep_kept (h : History) (op : Op)
    (meets : Frequent h op ∧ Aligned calendar h op) (kept : Kept h) :
    Kept (trafficStep calendar h op) := by
  cases op with
  | ingest => exact ingest_kept meets.2 kept
  | maintain => exact maintain_kept meets.1 meets.2 kept

theorem maintained_stored {s row} (left : row ∈ (maintainTrafficData calendar s now).1.windows) :
    ((maintainTrafficData calendar s now).1.hourly.find? (hourBucket row)).isSome = true ∧
      ((maintainTrafficData calendar s now).1.daily.find? (dayBucket row)).isSome = true := by
  rw [maintained_windows, mem_filter, decide_eq_true_eq] at left
  obtain ⟨stored, recent⟩ := left
  have older := @daysAgo_eight_le now
  have oldest := calendar.old now
  constructor
  · have member : row ∈ groupOf hourBucket (s.windows.filter fun row =>
        daysAgo 8 now ≤ row.windowStart) (hourBucket row) := by
      simp only [mem_groupOf, mem_filter, decide_eq_true_eq, and_true]
      exact ⟨stored, by omega⟩
    have kept : daysAgo 90 now ≤ (hourBucket row).2 := by
      simp only [daysAgo, hourBucket, hourOf, dayLength, hourLength, second] at recent ⊢
      omega
    rw [maintained_hourly, Table.find?_select, find?_rollup,
      if_pos (decide_eq_true kept), if_neg (ne_nil_of_mem member)]
    rfl
  · have member : row ∈ groupOf dayBucket (s.windows.filter fun row =>
        calendar.yearAgo now ≤ row.windowStart) (dayBucket row) := by
      simp only [mem_groupOf, mem_filter, decide_eq_true_eq, and_true]
      exact ⟨stored, by omega⟩
    have kept : dateOf (calendar.yearAgo now) ≤ (dayBucket row).2 := dateOf_le (by omega)
    rw [maintained_daily, Table.find?_select, find?_rollup,
      if_pos (decide_eq_true kept), if_neg (ne_nil_of_mem member)]
    rfl

end Maintain

/-! ## Whole histories -/

theorem empty_kept : Kept .empty := by
  constructor
  · nofun
  · nofun
  · intro _
    exact .inl rfl
  · nofun

/-- After every run each stored sum is that of all windows ingested for its
bucket, and no bucket of a window that is left is missing. -/
theorem aggregates_kept (calendar : Calendar) (ops : List Op) (now : Int)
    (frequent : Meets (trafficStep calendar) Frequent .empty (ops ++ [.maintain now]))
    (aligned : Meets (trafficStep calendar) (Aligned calendar) .empty (ops ++ [.maintain now])) :
    let h := run (trafficStep calendar) .empty (ops ++ [.maintain now])
    Agrees hourBucket total h.ingested h.store.hourly ∧
      Agrees dayBucket total h.ingested h.store.daily ∧
      ∀ row ∈ h.store.windows, (h.store.hourly.find? (hourBucket row)).isSome = true ∧
          (h.store.daily.find? (dayBucket row)).isSome = true := by
  intro h
  have kept : Kept h := run_invariant (trafficStep calendar) _ Kept
    trafficStep_kept (meets_and _ frequent aligned) empty_kept
  have last : h = trafficStep calendar (run (trafficStep calendar) .empty ops) (.maintain now) :=
    run_append (trafficStep calendar) .empty ops [.maintain now]
  have seen : h.ingested = h.seen := by
    rw [last]
    exact append_nil _
  rw [seen]
  refine ⟨kept.hourly, kept.daily, ?_⟩
  rw [last]
  intro _ left
  exact maintained_stored left

/-! ## A cutoff inside an hour -/

instance (calendar : Calendar) (h : History) (now : Int) : Decidable (Unsplit calendar h now) :=
  decidable_of_iff ((∀ v ∈ h.ingested, ∀ w ∈ h.ingested, dayBucket v = dayBucket w →
        (daysAgo 7 now ≤ v.windowStart ↔ daysAgo 7 now ≤ w.windowStart)) ∧
      (∀ v ∈ h.ingested, ∀ w ∈ h.ingested, hourBucket v = hourBucket w →
        (daysAgo 8 now ≤ v.windowStart ↔ daysAgo 8 now ≤ w.windowStart)) ∧
      ∀ v ∈ h.ingested, ∀ w ∈ h.ingested, dayBucket v = dayBucket w →
        (calendar.yearAgo now ≤ v.windowStart ↔ calendar.yearAgo now ≤ w.windowStart))
    ⟨fun h => ⟨h.1, h.2.1, h.2.2⟩, fun h => ⟨h.1, h.2, h.3⟩⟩

instance instDecidableAligned (calendar : Calendar) (h : History) :
    ∀ op, Decidable (Aligned calendar h op)
  | .ingest _ _ w _ => inferInstanceAs (Decidable (∀ start ∈ w.windowStart,
      ∀ row ∈ h.ingested, dayBucket row = dayBucket (rowOf w start) → row ∈ h.store.windows))
  | .maintain now => inferInstanceAs (Decidable (Unsplit calendar h now))

instance instDecidableFrequent (h : History) : ∀ op, Decidable (Frequent h op)
  | .ingest _ _ _ _ => inferInstanceAs (Decidable True)
  | .maintain now => inferInstanceAs (Decidable (∀ row ∈ h.fresh, daysAgo 7 now ≤ row.windowStart))

def calendar2026 : Calendar where
  yearAgo := daysAgo 365
  old now := by
    simp only [daysAgo, dayLength, hourLength, second]
    omega

def tenOClock : Int := 1767261600

def upload (id : String) (start requests : Int) : Op :=
  .ingest "edge-a" true {
    windowId := id
    unitId := "edge-a"
    assetId := "asset-a"
    windowStart := some ⟨start, 0⟩
    windowEnd := some ⟨start + 300, 0⟩
    generationId := ""
    generationSeq := 0
    policyDigest := "sha256:00"
    requestCount := requests
    criticalCount := 0
    blockedCount := 0
    observedCount := 0
    incompleteCount := 0
    routeCells := []
    other := some ⟨"", "", requests, 0, 0, 0⟩
    evidenceDroppedCount := 0
    reviewMode := .statisticsOnly
    evidenceDropReasons := .empty } id

def runAfter (seconds : Int) : Op := .maintain ((tenOClock + seconds) * second)

def week : Int := 7 * 24 * 3600

theorem aggregates_kept_single :
    let h := run (trafficStep calendar2026) .empty ([upload "w-1" tenOClock 3, runAfter 3720] ++
        [.maintain ((tenOClock + (week + 3720)) * second)])
    Agrees hourBucket total h.ingested h.store.hourly := by
  exact (aggregates_kept calendar2026 [upload "w-1" tenOClock 3, runAfter 3720]
    ((tenOClock + (week + 3720)) * second) (by decide +kernel)
    (by decide +kernel)).1

/-- The run of 10:02 a week later deletes the first of two windows, and the
run of 11:02 sums up the hour without it. -/
theorem aggregates_lost_cutoff :
    let ops := [upload "w-1" tenOClock 3, upload "w-2" (tenOClock + 300) 4,
      runAfter 3720, runAfter (week + 120), runAfter (week + 3720)]
    let h := run (trafficStep calendar2026) .empty ops
    let hour := ("asset-a", tenOClock * second)
    Meets (trafficStep calendar2026) Frequent .empty ops ∧
      (total (groupOf hourBucket h.ingested hour)).requests = 7 ∧
      (h.store.hourly.find? hour).map (·.requests) = some 4 := by
  decide +kernel

end YuFeng.Traffic

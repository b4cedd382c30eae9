import Mathlib.Data.List.Dedup
import Mathlib.Data.List.Sort
import YuFeng.Brain.TrafficMaintenance

/-!
# The daily quota of investigations

Cases that are created above the quota of the day are suppressed.  A
maintenance run picks as many suppressed cases as the deployment has left,
the most urgent first, and resumes those whose asset is below its own limit.
-/

namespace YuFeng.Traffic

open YuFeng.Library List

def trafficReviewDailyCases : Nat := 200

def trafficReviewDailyCasesPerAsset : Nat := 24

structure Representative where
  evidenceHandle : String := ""
  evidenceExpiresAt : Option Int := none
  deriving DecidableEq

inductive CaseState where
  | opened | waitingEvidenceApproval | queued | investigating | findingReady
  | shadowObserving | resolved | failed | evidenceExpired
  deriving DecidableEq

structure CaseRow where
  moduleId : String := "traffic-interception"
  assetId : String
  state : CaseState := .opened
  priority : Int
  createdAt : Int
  assignedAgentId : String := ""
  automationSuppressedReason : String
  representatives : List Representative
  deriving DecidableEq

structure CaseActivity where
  caseId : String
  refId : String
  occurredAt : Int

structure CaseTables where
  cases : Table String CaseRow
  activities : List CaseActivity

def today (now time : Int) : Bool := dateOf now * dayLength ≤ time

def startedCases (db : CaseTables) (now : Int) : List (String × CaseRow) :=
  db.cases.rows.filter fun row => row.2.moduleId = "traffic-interception" &&
    row.2.automationSuppressedReason = "" && today now row.2.createdAt

def resumedCases (db : CaseTables) (now : Int) : List String :=
  (db.activities.filter fun a =>
    startsWith "automation-resumed:" a.refId && today now a.occurredAt).map (·.caseId)

def globalToday (db : CaseTables) (now : Int) : Nat :=
  ((startedCases db now).map Prod.fst ++ resumedCases db now).dedup.length

def assetToday (db : CaseTables) (now : Int) (assetId : String) : Nat :=
  (((startedCases db now).filter (·.2.assetId = assetId)).map Prod.fst ++
    (resumedCases db now).filter fun id =>
      (db.cases.find? id).any (·.assetId = assetId)).dedup.length

/-- The asset has used up its limit of the day. -/
abbrev Saturated (db : CaseTables) (now : Int) (assetId : String) : Prop :=
  trafficReviewDailyCasesPerAsset ≤ assetToday db now assetId

def CaseRow.resumable (row : CaseRow) (now : Int) : Bool :=
  row.moduleId = "traffic-interception" && row.state = .opened && row.assignedAgentId = "" &&
    row.automationSuppressedReason = "daily_investigation_quota" &&
    row.representatives.any fun r => r.evidenceHandle = "" || r.evidenceExpiresAt.any (now < ·)

def CaseRow.before (a b : CaseRow) : Prop :=
  b.priority < a.priority ∨ a.priority = b.priority ∧ a.createdAt ≤ b.createdAt

instance (a b : CaseRow) : Decidable (a.before b) := inferInstanceAs (Decidable (_ ∨ _))

/-- The cases that are picked before the limits of their assets are known. -/
def suppressedCases (db : CaseTables) (now : Int) : List (String × CaseRow) :=
  ((db.cases.rows.filter (·.2.resumable now)).insertionSort fun a b => a.2.before b.2).take
    (trafficReviewDailyCases - globalToday db now)

/-- The counts of the assets seen so far are kept in a map. -/
def resumeCase (now : Int) (date : String) (s : CaseTables × (String → Option Nat))
    (item : String × CaseRow) : CaseTables × (String → Option Nat) :=
  let count := (s.2 item.2.assetId).getD (assetToday s.1 now item.2.assetId)
  if trafficReviewDailyCasesPerAsset ≤ count then
    (s.1, Function.update s.2 item.2.assetId (some count))
  else match s.1.cases.find? item.1 with
    | none => s
    | some row =>
      if row.automationSuppressedReason = "daily_investigation_quota" then
        ({ cases := s.1.cases.set item.1 { row with automationSuppressedReason := "" }
           activities := s.1.activities ++ [⟨item.1, "automation-resumed:" ++ date, now⟩] },
          Function.update s.2 item.2.assetId (some (count + 1)))
      else s

def releaseSuppressedTrafficCases (now : Int) (date : String) (db : CaseTables) : CaseTables :=
  if trafficReviewDailyCases ≤ globalToday db now then db
  else ((suppressedCases db now).foldl (resumeCase now date) (db, fun _ => none)).1

section Release

variable {db : CaseTables} {now : Int} {date id : String} {item : String × CaseRow}
  {s : CaseTables × (String → Option Nat)}

def Unsuppressed (db : CaseTables) (id : String) : Prop :=
  ∃ row, db.cases.find? id = some row ∧ row.automationSuppressedReason = ""

theorem resumeCase_unsuppressed (h : Unsuppressed s.1 id) :
    Unsuppressed (resumeCase now date s item).1 id := by
  obtain ⟨row, found, resumed⟩ := h
  unfold resumeCase
  dsimp only
  split
  · exact ⟨row, found, resumed⟩
  split
  · exact ⟨row, found, resumed⟩
  split
  next old suppressed =>
    by_cases here : id = item.1
    · subst here
      exact ⟨_, Table.find?_set_self .., rfl⟩
    · exact ⟨row, (Table.find?_set_of_ne here ..).trans found, resumed⟩
  · exact ⟨row, found, resumed⟩

/-- Nothing has been resumed, and the counts are those of the tables. -/
def Untouched (db : CaseTables) (now : Int) (s : CaseTables × (String → Option Nat)) : Prop :=
  s.1 = db ∧ ∀ assetId, (s.2 assetId).getD (assetToday db now assetId) = assetToday db now assetId

theorem Untouched.saturated (h : Untouched db now s) (full : Saturated db now item.2.assetId) :
    Untouched db now (resumeCase now date s item) := by
  obtain ⟨rfl, counts⟩ := h
  rw [resumeCase, counts, if_pos full]
  refine ⟨rfl, fun assetId => ?_⟩
  by_cases same : assetId = item.2.assetId
  · simp [same]
  · simp [same, counts]

theorem suppressedCases_mem (h : item ∈ suppressedCases db now) :
    db.cases.find? item.1 = some item.2 ∧
      item.2.automationSuppressedReason = "daily_investigation_quota" := by
  have picked := (perm_insertionSort _ _).mem_iff.mp (mem_of_mem_take h)
  simp only [mem_filter, CaseRow.resumable, Bool.and_eq_true, decide_eq_true_eq] at picked
  exact ⟨Table.mem_iff_find?.mp picked.1, picked.2.1.2⟩

theorem Untouched.resumes (h : Untouched db now s) (picked : item ∈ suppressedCases db now)
    (below : ¬ Saturated db now item.2.assetId) :
    Unsuppressed (resumeCase now date s item).1 item.1 := by
  obtain ⟨rfl, counts⟩ := h
  obtain ⟨found, suppressed⟩ := suppressedCases_mem picked
  rw [resumeCase, counts, if_neg below, found]
  simp only [suppressed, if_true]
  exact ⟨_, Table.find?_set_self .., rfl⟩

/-- The first case below the limit of its asset is resumed. -/
theorem resumeCases {items : List (String × CaseRow)} (h : Untouched db now s)
    (picked : ∀ item ∈ items, item ∈ suppressedCases db now) :
    (∃ item ∈ items, ¬ Saturated db now item.2.assetId ∧
      Unsuppressed (items.foldl (resumeCase now date) s).1 item.1) ∨
    (∀ item ∈ items, Saturated db now item.2.assetId) ∧
      (items.foldl (resumeCase now date) s).1 = db := by
  induction items generalizing s with
  | nil => exact .inr ⟨by simp, h.1⟩
  | cons item rest ih =>
    rw [forall_mem_cons] at picked
    by_cases full : Saturated db now item.2.assetId
    · rcases ih (h.saturated full) picked.2 with ⟨low, member, resumed⟩ | ⟨all, same⟩
      · exact .inl ⟨low, mem_cons_of_mem _ member, resumed⟩
      · exact .inr ⟨forall_mem_cons.mpr ⟨full, all⟩, same⟩
    · refine .inl ⟨item, mem_cons_self, full, ?_⟩
      exact foldlRecOn (motive := fun s : CaseTables × _ => Unsuppressed s.1 item.1) rest _
        (h.resumes picked.1 full) fun _ resumed _ _ => resumeCase_unsuppressed resumed

end Release

/-- A suppressed case may be resumed under both limits. -/
def Waiting (db : CaseTables) (now : Int) : Prop :=
  globalToday db now < trafficReviewDailyCases ∧
    ∃ id row, db.cases.find? id = some row ∧ row.resumable now = true ∧
      ¬ Saturated db now row.assetId

def Resumes (db after : CaseTables) : Prop :=
  ∃ id row, db.cases.find? id = some row ∧
    row.automationSuppressedReason = "daily_investigation_quota" ∧ Unsuppressed after id

theorem not_resumes {db after} (same : after.cases = db.cases) : ¬ Resumes db after := by
  rintro ⟨id, row, found, suppressed, row', after, resumed⟩
  rw [same, found] at after
  cases after
  simp [suppressed] at resumed

theorem progresses_iff (db : CaseTables) (now : Int) (date : String) :
    (Waiting db now → Resumes db (releaseSuppressedTrafficCases now date db)) ↔
      (Waiting db now → ∃ item ∈ suppressedCases db now,
        ¬ Saturated db now item.2.assetId) := by
  refine forall_congr' fun waiting => ?_
  rw [releaseSuppressedTrafficCases, if_neg (Nat.not_le.mpr waiting.1)]
  have start : Untouched db now (db, fun _ => none) := ⟨rfl, fun _ => rfl⟩
  rcases @resumeCases db now date _ _ start fun _ picked => picked with
    ⟨item, picked, below, resumed⟩ | ⟨full, same⟩
  · obtain ⟨found, suppressed⟩ := suppressedCases_mem picked
    exact iff_of_true ⟨item.1, item.2, found, suppressed, resumed⟩ ⟨item, picked, below⟩
  · exact iff_of_false (not_resumes (by rw [same])) (by simpa using full)

def crowdedCase (n : Nat) : CaseRow where
  assetId := if n < 200 then "shop" else "blog"
  priority := if n < 200 then 80 else 50
  createdAt := 0
  automationSuppressedReason := if n < 24 then "" else "daily_investigation_quota"
  representatives := [{}]

/-- An asset has used up its limit, and its suppressed cases take all that the
deployment has left. -/
def crowdedCases : CaseTables where
  cases := {
    rows := (range 201).map fun n => (String.ofList (replicate n '0'), crowdedCase n)
    unique := by
      rw [map_map]
      refine nodup_range.map fun m n same => ?_
      simpa using congrArg String.length same }
  activities := []

theorem crowdedCases_stuck : Waiting crowdedCases 0 ∧
    (releaseSuppressedTrafficCases 0 "1970-01-01" crowdedCases).cases = crowdedCases.cases ∧
    ¬ (Waiting crowdedCases 0 →
      Resumes crowdedCases (releaseSuppressedTrafficCases 0 "1970-01-01" crowdedCases)) := by
  have waiting : Waiting crowdedCases 0 :=
    ⟨by decide +kernel, String.ofList (replicate 200 '0'), crowdedCase 200, by decide +kernel⟩
  have kept : (releaseSuppressedTrafficCases 0 "1970-01-01" crowdedCases).cases =
      crowdedCases.cases := Table.ext (by decide +kernel)
  exact ⟨waiting, kept, fun progresses => not_resumes kept (progresses waiting)⟩

end YuFeng.Traffic

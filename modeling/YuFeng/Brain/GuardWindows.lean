import YuFeng.Brain.Promotion
import YuFeng.Edge.ReleaseSet

/-!
# What the scheduler counts

The request total behind an automatic promotion adds up every unit that is not
the proposer's, whatever its posture.  A guard window compares the totals with
the snapshot of the window before, which has no column for upstream errors and
whose deny count is subtracted as an unsigned number.
-/

namespace YuFeng.Brain

open YuFeng.Library YuFeng.Edge List

/-! ## Postures -/

theorem total_filter_eq_iff {column : CounterRow → Nat}
    {keep : (String × String) × CounterRow → Bool} {rows} :
    total column rows = total column (rows.filter keep) ↔
      ∀ row ∈ rows, keep row = false → column row.2 = 0 := by
  induction rows with
  | nil => simp
  | cons row rest ih =>
    have fewer : total column (rest.filter keep) ≤ total column rest :=
      total_le_of_sublist filter_sublist
    rw [forall_mem_cons, ← ih]
    cases kept : keep row with
    | true => simp [filter_cons_of_pos kept, total]
    | false =>
      rw [filter_cons_of_neg (by simp [kept]), total, foldr_cons, ← total]
      simp only [forall_const]
      omega

/-- The part of the canary total that intercepting units have reported. -/
def interceptedTotal (postures : String → IngressPosture) (db : Governance)
    (releaseId : String) : Nat :=
  total (·.requests) (((db.countersOf releaseId).filter fun row =>
    row.2.mode = .canary && row.1.1 ∉ proposerUnitIDs db releaseId).filter fun row =>
      intercepts (resolvePosture (postures row.1.1)))

theorem canaryTotal_intercepted_iff (postures : String → IngressPosture) (db : Governance)
    (releaseId : String) :
    sumCountersExcept db releaseId .canary (proposerUnitIDs db releaseId) =
        interceptedTotal postures db releaseId ↔
      ∀ row ∈ db.countersOf releaseId, row.2.mode = .canary →
        row.1.1 ∉ proposerUnitIDs db releaseId →
        intercepts (resolvePosture (postures row.1.1)) = false → row.2.requests = 0 := by
  rw [sumCountersExcept, interceptedTotal, total_filter_eq_iff]
  simp

def mirrored : Governance where
  counters := Table.empty.set ("mirror", "rel") {
    generation := 1, mode := .canary, requests := 1000 }

theorem mirrored_counted :
    sumCountersExcept mirrored "rel" .canary (proposerUnitIDs mirrored "rel") = 1000 ∧
      interceptedTotal (fun _ => .mirrorObserve) mirrored "rel" = 0 := by
  decide

/-! ## Differences -/

/-- No upstream error and no feedback is new; a total may have gone down. -/
structure Quiet (before cur : GuardSnapshot) : Prop where
  upstream5xx : cur.upstream5xx ≤ before.upstream5xx
  denies : cur.denies ≤ before.denies

def Unjudged (prev cur : GuardSnapshot) (denyThreshold : Nat) : Prop :=
  "upstream_5xx" ∉ guardWindowReasons prev cur denyThreshold ∧
    "unexpected_deny" ∉ guardWindowReasons prev cur denyThreshold

def GuardSnapshot.stored (w : GuardSnapshot) : GuardSnapshot := { w with upstream5xx := 0 }

theorem unjudged_stored_iff (before cur : GuardSnapshot) (denyThreshold : Nat) :
    Unjudged before.stored cur denyThreshold ↔
      ¬ (before.requests < cur.requests ∧ 0 < before.requests ∧ 0 < cur.upstream5xx ∧
          cur.requests - before.requests ≤ 200 * cur.upstream5xx) ∧
      (denyThreshold = 0 ∨
        (cur.denies - before.denies) % 18446744073709551616 < denyThreshold) := by
  have errors (requests : 0 < before.requests) (d : Int) :
      (0 < cur.upstream5xx * before.requests ∧
        5 * d * before.requests ≤ 1000 * (cur.upstream5xx * before.requests)) ↔
      0 < cur.upstream5xx ∧ d ≤ 200 * cur.upstream5xx := by
    rw [← Int.mul_assoc]
    constructor
    · rintro ⟨some, rate⟩
      have := Int.le_of_mul_le_mul_right rate requests
      exact ⟨Int.pos_of_mul_pos_left some requests, by omega⟩
    · rintro ⟨some, rate⟩
      exact ⟨Int.mul_pos some requests,
        Int.mul_le_mul_of_nonneg_right (by omega) (Int.le_of_lt requests)⟩
  simp only [Unjudged, guardWindowReasons, mem_append, mem_ite_nil_right, mem_singleton,
    String.reduceEq, and_false, or_false, false_or, and_true]
  simp only [GuardSnapshot.stored, Int.mul_zero, Int.zero_mul, Int.sub_zero, Int.sub_pos]
  constructor
  all_goals
    rintro ⟨quiet, denies⟩
    refine ⟨fun ⟨more, requests, rate⟩ => quiet ⟨more, requests, ?_⟩, by omega⟩
  · exact (errors requests _).mpr rate
  · exact (errors requests _).mp rate

theorem quiet_window_unjudged_iff (db : Governance) (releaseId : String) (reads : Reads)
    (demo : Bool) (now : Int) (cur : GuardSnapshot) (denyThreshold : Nat) :
    let prev := (Query.previous.answer demo now db releaseId reads).prior
    (∀ before : GuardSnapshot, before.stored = prev → Quiet before cur →
        Unjudged prev cur denyThreshold) ↔
      (cur.denies ≤ prev.denies →
        ¬ (prev.requests < cur.requests ∧ 0 < prev.requests ∧ 0 < cur.upstream5xx ∧
          cur.requests - prev.requests ≤ 200 * cur.upstream5xx) ∧
        (denyThreshold = 0 ∨
          (cur.denies - prev.denies) % 18446744073709551616 < denyThreshold)) := by
  intro prev
  have kept : prev.stored = prev := by
    unfold prev
    rw [Query.answer]
    split <;> rfl
  constructor
  · intro unjudged fewer
    have here := unjudged { prev with upstream5xx := cur.upstream5xx } kept ⟨Int.le_refl _, fewer⟩
    rwa [← kept, unjudged_stored_iff] at here
  · rintro condition before same ⟨-, fewer⟩
    rw [← same, unjudged_stored_iff]
    rw [← same] at condition
    exact condition fewer

def quietRound : Governance where
  guards := Table.empty.set "rel"
    { requests := 1000, blocks := 0, denies := 0, consecutiveBad := 0 }

/-- Ten errors, all older than the window, are held against its hundred requests. -/
theorem quietRound_judged :
    let before : GuardSnapshot := { requests := 1000, upstream5xx := 10 }
    let cur : GuardSnapshot := { requests := 1100, upstream5xx := 10 }
    let prev := (Query.previous.answer false 0 quietRound "rel" {}).prior
    before.stored = prev ∧ Quiet before cur ∧ guardWindowReasons prev cur 0 = ["upstream_5xx"] :=
  ⟨by decide, ⟨by decide, by decide⟩, by decide⟩

end YuFeng.Brain

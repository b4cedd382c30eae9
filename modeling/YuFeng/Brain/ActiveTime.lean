import YuFeng.Brain.RunBudget
import YuFeng.Library.Run

/-!
# The active time of a run

A lease starts the clock of the account and an extension starts it again, a
wait or the end of the run stops it, and reservations and settlements move its
reference.  Each of them charges the whole milliseconds since the reference and
forgets the rest.
-/

namespace YuFeng.RunBudget

open YuFeng.Library

variable {used : Int} {m : Meter} {op : ClockOp}

def RunBudgetAccount.charge (account : RunBudgetAccount) (now : Int) (started : Option Int) :
    RunBudgetAccount :=
  { account with
    activeMillisUsed := account.currentActiveMillis now
    activeStartedAt := started }

/-- Leases and extensions, reservations and settlements, waits and the end. -/
inductive ClockOp where
  | start (now : Int)
  | tick (now : Int)
  | stop (now : Int)
  deriving DecidableEq

def ClockOp.now : ClockOp → Int
  | .start now | .tick now | .stop now => now

/-- As `startRunBudgetActive` and `stopRunBudgetActive` do it. -/
def ClockOp.apply (account : RunBudgetAccount) : ClockOp → Except RpcError RunBudgetAccount
  | .start now =>
    if account.state ≠ .active ∨ account.executionDeadline ≤ now ∨
        account.maxActiveMillis ≤ account.currentActiveMillis now then
      .error ⟨.resourceExhausted, "run budget exhausted or expired"⟩
    else .ok (account.charge now (some now))
  | .tick now => .ok (account.tick now)
  | .stop now => .ok (account.charge now none)

/-- An account with the active interval that is open, the length of those that are closed, the
last operation, whether some charge left out a part of a millisecond, and the times charged. -/
structure Meter where
  account : RunBudgetAccount
  since : Option Int := none
  closed : Int := 0
  last : Option Int := none
  uneven : Bool := false
  spans : List (Int × Int) := []

/-- Before the first lease. -/
def Meter.fresh (account : RunBudgetAccount) : Meter :=
  { account := { account with activeStartedAt := none } }

def RunBudgetAccount.elapsed (account : RunBudgetAccount) (now : Int) : Int :=
  match account.activeStartedAt with
  | none => 0
  | some started => now - started

def Meter.step (m : Meter) (op : ClockOp) : Meter :=
  match op.apply m.account with
  | .error _ => m
  | .ok account =>
    { account := account
      since := match op with
        | .start now => some (m.since.getD now)
        | .tick _ => m.since
        | .stop _ => none
      closed := match op, m.since with
        | .stop now, some since => m.closed + (now - since)
        | _, _ => m.closed
      last := some op.now
      uneven := m.uneven || m.account.elapsed op.now % 1000 ≠ 0
      spans := match m.account.activeStartedAt with
        | none => m.spans
        | some started => if started < op.now then (started, op.now) :: m.spans else m.spans }

/-- The length of the active intervals, up to the last operation. -/
def Meter.active (m : Meter) : Int :=
  match m.since, m.account.activeStartedAt with
  | some since, some started => m.closed + (started - since)
  | _, _ => m.closed

/-- The active time that is not charged, in microseconds. -/
def Meter.rest (m : Meter) (used : Int) : Int :=
  m.active - 1000 * (m.account.activeMillisUsed - used)

def Apart (spans : List (Int × Int)) : Prop :=
  spans.Pairwise fun later earlier => earlier.2 ≤ later.1

/-- The times of operations do not go back, and while the clock runs they are whole milliseconds
apart, but for one. -/
def Orderly (m : Meter) (op : ClockOp) : Prop :=
  (∀ t ∈ m.last, t ≤ op.now) ∧
    ∀ started ∈ m.account.activeStartedAt, (op.now - started) % 1000 = 0 ∨ m.uneven = false

instance : Decidable (Orderly m op) := inferInstanceAs (Decidable (_ ∧ _))

/-- The clock runs while an interval is open, from the last operation on. -/
structure Metered (used : Int) (m : Meter) : Prop where
  runs : m.since.isSome = m.account.activeStartedAt.isSome
  reference : ∀ started, m.account.activeStartedAt = some started → m.last = some started
  least : 0 ≤ m.rest used
  most : m.rest used < 1000
  even : m.uneven = false → m.rest used = 0
  apart : Apart m.spans
  ended : ∀ span ∈ m.spans, ∃ t, m.last = some t ∧ span.2 ≤ t

theorem currentActiveMillis_eq {account : RunBudgetAccount} {now}
    (later : ∀ started, account.activeStartedAt = some started → started ≤ now) :
    account.currentActiveMillis now = account.activeMillisUsed + account.elapsed now / 1000 := by
  unfold RunBudgetAccount.currentActiveMillis RunBudgetAccount.elapsed
  cases clock : account.activeStartedAt with
  | none => simp
  | some started =>
    have := later started clock
    dsimp only
    split <;> omega

/-- The reference that the clock has after an operation. -/
def ClockOp.clock (op : ClockOp) (started : Option Int) : Option Int :=
  match op with
  | .start now => some now
  | .tick now => started.map fun _ => now
  | .stop _ => none

theorem ClockOp.apply_ok {account after} (h : op.apply account = .ok after) :
    after = account.charge op.now (op.clock account.activeStartedAt) := by
  cases op with
  | start now =>
    rw [apply] at h
    split at h
    · cases h
    · cases h
      rfl
  | tick now | stop now =>
    cases h
    rfl

/-- A charge leaves out what is no whole millisecond. -/
theorem Meter.step_rest {after} (used)
    (runs : m.since.isSome = m.account.activeStartedAt.isSome)
    (later : ∀ started, m.account.activeStartedAt = some started → started ≤ op.now)
    (done : op.apply m.account = .ok after) :
    (m.step op).rest used = m.rest used + m.account.elapsed op.now % 1000 := by
  have current := currentActiveMillis_eq later
  simp only [Meter.step, done, Meter.rest, Meter.active]
  cases ClockOp.apply_ok done
  unfold RunBudgetAccount.elapsed at current ⊢
  -- Either no interval is open and the clock stands, or both have a beginning.
  cases started : m.account.activeStartedAt <;> cases since : m.since <;> cases op <;>
    simp_all [RunBudgetAccount.charge, ClockOp.clock, ClockOp.now]
  all_goals omega

theorem Meter.step_spans {after} (done : op.apply m.account = .ok after) :
    (m.step op).spans = m.spans ∨ ∃ started, m.account.activeStartedAt = some started ∧
      (m.step op).spans = (started, op.now) :: m.spans := by
  simp only [Meter.step, done]
  split
  · exact .inl rfl
  next started clock =>
    split
    · exact .inr ⟨started, clock, rfl⟩
    · exact .inl rfl

theorem Orderly.parts (h : Orderly m op) :
    m.account.elapsed op.now % 1000 = 0 ∨ m.uneven = false := by
  unfold RunBudgetAccount.elapsed
  split
  · exact .inl rfl
  next started clock => exact h.2 started clock

theorem Metered.step (h : Metered used m) (orderly : Orderly m op) : Metered used (m.step op) := by
  have later : ∀ started, m.account.activeStartedAt = some started → started ≤ op.now :=
    fun started clock => orderly.1 started (h.reference started clock)
  have ended : ∀ span ∈ m.spans, span.2 ≤ op.now := by
    intro span member
    obtain ⟨t, last, before⟩ := h.ended span member
    exact Int.le_trans before (orderly.1 t last)
  cases done : op.apply m.account with
  | error => simpa only [Meter.step, done] using h
  | ok after =>
    have rest := Meter.step_rest used h.runs later done
    have ⟨runs, reference, least, most, even, apart, _⟩ := h
    have uneven : (m.step op).uneven =
        (m.uneven || decide (m.account.elapsed op.now % 1000 ≠ 0)) := by
      simp only [Meter.step, done]
    have last : (m.step op).last = some op.now := by
      simp only [Meter.step, done]
    have spans := Meter.step_spans done
    refine ⟨?_, ?_, by omega, ?_, fun none => ?_, ?_, ?_⟩
    · simp only [Meter.step, done]
      cases ClockOp.apply_ok done
      cases op <;> simp_all [RunBudgetAccount.charge, ClockOp.clock]
    · simp only [Meter.step, done]
      cases ClockOp.apply_ok done
      cases op <;> simp_all [RunBudgetAccount.charge, ClockOp.clock, ClockOp.now]
    · rcases orderly.parts with whole | first
      · omega
      · have := even first
        omega
    · rw [uneven, Bool.or_eq_false_iff, decide_eq_false_iff_not, not_not] at none
      have := even none.1
      omega
    · rcases spans with same | ⟨started, clock, more⟩
      · rwa [same]
      · rw [more]
        refine List.pairwise_cons.mpr ⟨fun span member => ?_, apart⟩
        obtain ⟨t, at', before⟩ := h.ended span member
        cases (reference started clock).symm.trans at'
        exact before
    · refine fun span member => ⟨op.now, last, ?_⟩
      rcases spans with same | ⟨started, -, more⟩
      · exact ended span (same ▸ member)
      · rcases List.mem_cons.mp (more ▸ member) with rfl | old
        · exact Int.le_refl _
        · exact ended span old

theorem Metered.fresh (account) : Metered account.activeMillisUsed (.fresh account) := by
  have rest : (Meter.fresh account).rest account.activeMillisUsed = 0 := by
    simp [Meter.fresh, Meter.rest, Meter.active]
  refine ⟨rfl, nofun, by omega, by omega, fun _ => rest, .nil, ?_⟩
  simp [Meter.fresh]

/-- What a run is charged is its active time to within a millisecond, and nothing is charged
twice. -/
theorem active_time_additive (account : RunBudgetAccount) {ops : List ClockOp}
    (orderly : Meets Meter.step Orderly (.fresh account) ops) :
    let m := run Meter.step (.fresh account) ops
    0 ≤ m.rest account.activeMillisUsed ∧ m.rest account.activeMillisUsed ≤ 1000 ∧
      Apart m.spans := by
  have metered := run_invariant _ _ (Metered account.activeMillisUsed)
    (fun _ _ orderly h => h.step orderly) orderly
    (Metered.fresh account)
  exact ⟨metered.least, Int.le_of_lt metered.most, metered.apart⟩

def idleAccount : RunBudgetAccount :=
  ⟨.active, {}, {}, {}, 3600000, 0, none, 3600000000⟩

/-- A lease of 7.3 ms with a reservation after 5. -/
theorem active_time_additive_lease :
    let m := run Meter.step (.fresh idleAccount)
      [.start 0, .tick 5000, .stop 7300]
    m.active = 7300 ∧ m.account.activeMillisUsed = 7 ∧
      0 ≤ m.rest 0 ∧ m.rest 0 ≤ 1000 ∧ Apart m.spans :=
  ⟨by decide, by decide, active_time_additive idleAccount
    ⟨by decide, by decide, by decide, trivial⟩⟩

/-- Two settlements and the end of the lease, 0.9 ms apart: nothing is charged.  An extension that
read its clock before a settlement charges 10 ms again. -/
theorem active_time_lost :
    (let m := run Meter.step (.fresh idleAccount)
      [.start 0, .tick 900, .tick 1800, .stop 2700]
    m.account.activeMillisUsed = 0 ∧ m.active = 2700) ∧
    let m := run Meter.step (.fresh idleAccount)
      [.start 0, .tick 20000, .start 10000, .stop 30000]
    m.account.activeMillisUsed = 40 ∧ m.active = 30000 := by
  decide

end YuFeng.RunBudget

import YuFeng.Brain.RunBudget
import YuFeng.Library.Query
import YuFeng.Library.Run

/-!
# A run budget never overspends

In each dimension an account counts what is reserved and what was used.  Both
are sums over the reservations of the account, and together they stay within
the limit.  The account row is locked by every operation, so the operations of
one account follow each other; one that fails is rolled back.
-/

namespace YuFeng.RunBudget

open YuFeng.Library Table

variable {reservations : Table String Reservation} {accounts : Table String RunBudgetAccount}
  {a : RunBudgetAmount}

/-! ## Dimensions -/

inductive Dimension where
  | steps
  | modelCalls
  | inputTokens
  | outputTokens
  | toolCalls
  | toolResultBytes
  | costMicrounits
  deriving DecidableEq, Repr

def RunBudgetAmount.of (a : RunBudgetAmount) : Dimension → Int
  | .steps => a.steps
  | .modelCalls => a.modelCalls
  | .inputTokens => a.inputTokens
  | .outputTokens => a.outputTokens
  | .toolCalls => a.toolCalls
  | .toolResultBytes => a.toolResultBytes
  | .costMicrounits => a.costMicrounits

@[simp] theorem RunBudgetAmount.of_zero (d) : ({} : RunBudgetAmount).of d = 0 := by
  cases d <;> rfl

@[simp] theorem of_addRunBudgetAmount (a b d) :
    (addRunBudgetAmount a b).of d = a.of d + b.of d := by
  cases d <;> rfl

@[simp] theorem of_subRunBudgetAmount (a b d) :
    (subRunBudgetAmount a b).of d = a.of d - b.of d := by
  cases d <;> rfl

theorem runBudgetAmountWithin_iff {b} :
    runBudgetAmountWithin a b = true ↔ ∀ d, a.of d ≤ b.of d := by
  simp only [runBudgetAmountWithin, Bool.and_eq_true, decide_eq_true_eq]
  constructor
  · intro h d
    cases d <;> simp only [RunBudgetAmount.of] <;> omega
  · intro h
    exact ⟨⟨⟨⟨⟨⟨h .steps, h .modelCalls⟩, h .inputTokens⟩, h .outputTokens⟩,
      h .toolCalls⟩, h .toolResultBytes⟩, h .costMicrounits⟩

theorem validRunBudgetAmount_iff : validRunBudgetAmount a = true ↔ ∀ d, 0 ≤ a.of d := by
  change runBudgetAmountWithin {} a = true ↔ _
  simp [runBudgetAmountWithin_iff]

theorem runBudgetFits_iff {limit consumed requested} :
    runBudgetFits limit consumed requested = true ↔
      ∀ d, consumed.of d + requested.of d ≤ limit.of d := by
  simp [runBudgetFits, runBudgetAmountWithin_iff]

/-! ## Calls -/

/-- New identifiers are not empty, and an account is closed with one of the
final states. -/
inductive BudgetCall where
  | reserve (now : Int) (reservationId : String) (named : reservationId ≠ "") (budgetId : String)
      (kind : ReservationKind) (requestKey : String)
      (amount : RunBudgetAmount)
  | settle (now : Int) (reservationId : String) (state : ReservationState)
      (actual : RunBudgetAmount)
  | close (now : Int) (budgetId : String) (state : AccountState)
      (final : state ≠ .active) (requireSettled : Bool)

def BudgetCall.perform (ledger : Ledger) : BudgetCall → Except RpcError Ledger
  | .reserve now id _ budgetId kind requestKey amount =>
    (reserveRunBudget now id budgetId kind requestKey amount ledger).map Prod.snd
  | .settle now id state actual => settleRunBudget now id state actual ledger
  | .close now budgetId state _ requireSettled =>
    closeRunBudget now budgetId state requireSettled ledger

def budgetStep (ledger : Ledger) (call : BudgetCall) : Ledger :=
  match call.perform ledger with
  | .ok after => after
  | .error _ => ledger

def Reservation.outstanding (budgetId : String) (d : Dimension) (row : Reservation) : Int :=
  if row.budgetId = budgetId ∧ row.state = .reserved then row.amount.of d
  else 0

def Reservation.spent (budgetId : String) (d : Dimension) (row : Reservation) : Int :=
  if row.budgetId = budgetId ∧ row.state ≠ .reserved then row.actual.of d
  else 0

def stillReserved (reservations : Table String Reservation)
    (budgetId : String) (d : Dimension) : Int :=
  totalBy (fun row => row.2.outstanding budgetId d) reservations.rows

def settledActual (reservations : Table String Reservation)
    (budgetId : String) (d : Dimension) : Int :=
  totalBy (fun row => row.2.spent budgetId d) reservations.rows

/-! ## The balance of an account -/

structure Balanced (reservations : Table String Reservation)
    (budgetId : String) (account : RunBudgetAccount) (d : Dimension) :
    Prop where
  used : 0 ≤ account.used.of d
  reserved : 0 ≤ account.reserved.of d
  within : account.used.of d + account.reserved.of d ≤ account.limit.of d
  outstanding : account.reserved.of d = stillReserved reservations budgetId d
  spent : account.used.of d = settledActual reservations budgetId d

structure Booked (accounts : Table String RunBudgetAccount)
    (row : Reservation) : Prop where
  account : (accounts.find? row.budgetId).isSome
  amount : ∀ d, 0 ≤ row.amount.of d
  actual : row.state ≠ .reserved → ∀ d, 0 ≤ row.actual.of d

structure Books (ledger : Ledger) : Prop where
  balanced : ∀ budgetId account, ledger.accounts.find? budgetId = some account →
    ∀ d, Balanced ledger.reservations budgetId account d
  booked : ∀ id row, ledger.reservations.find? id = some row → id ≠ "" ∧ Booked ledger.accounts row

section Invariant

variable {now : Int} {id budgetId requestKey : String}
  {kind : ReservationKind} {amount actual : RunBudgetAmount}
  {ledger after : Ledger} {account : RunBudgetAccount} {row : Reservation}

theorem Books.write (h : Books ledger) (here : ∀ d, Balanced reservations budgetId account d)
    (others : ∀ c, c ≠ budgetId → ∀ d,
      stillReserved reservations c d = stillReserved ledger.reservations c d ∧
      settledActual reservations c d = settledActual ledger.reservations c d)
    (rows : ∀ id row, reservations.find? id = some row → id ≠ "" ∧
      Booked (ledger.accounts.set budgetId account) row) :
    Books ⟨ledger.accounts.set budgetId account, reservations⟩ := by
  refine ⟨fun c other has d => ?_, rows⟩
  dsimp only at has
  rcases find?_set_some has with ⟨rfl, rfl⟩ | ⟨same, has⟩
  · exact here d
  · obtain ⟨used, reserved, within, outstanding, spent⟩ := h.balanced c other has d
    obtain ⟨reservedSame, usedSame⟩ := others c same d
    exact ⟨used, reserved, within, outstanding.trans reservedSame.symm, spent.trans usedSame.symm⟩

theorem Booked.set (h : Booked accounts row) (account) :
    Booked (accounts.set budgetId account) row :=
  ⟨isSome_find?_set h.account, h.amount, h.actual⟩

theorem stillReserved_set (reservations row) (c d) :
    stillReserved (reservations.set id row) c d =
      stillReserved reservations c d + row.outstanding c d -
        ((reservations.find? id).map (·.outstanding c d)).getD 0 :=
  totalBy_set _ reservations id row

theorem settledActual_set (reservations row) (c d) :
    settledActual (reservations.set id row) c d = settledActual reservations c d + row.spent c d -
        ((reservations.find? id).map (·.spent c d)).getD 0 :=
  totalBy_set _ reservations id row

theorem Books.reserve {result} (h : Books ledger) (named : id ≠ "")
    (made : reserveRunBudget now id budgetId kind requestKey amount ledger =
      .ok result) : Books result.2 := by
  cases reserveRunBudget_ok named made with
  | unlimited | again => exact h
  | made _ id amount account named unused _ found _ valid fits =>
  have nonneg := validRunBudgetAmount_iff.mp valid
  apply h.write
  · intro d
    obtain ⟨used, reserved, within, outstanding, spent⟩ := h.balanced budgetId account found d
    have new := nonneg d
    have fit := runBudgetFits_iff.mp fits d
    rw [of_addRunBudgetAmount] at fit
    have reservedSum := @stillReserved_set id ledger.reservations
      ⟨budgetId, kind, requestKey, .reserved, amount, {}⟩ budgetId d
    have usedSum := @settledActual_set id ledger.reservations
      ⟨budgetId, kind, requestKey, .reserved, amount, {}⟩ budgetId d
    simp [unused, Reservation.outstanding] at reservedSum
    simp [unused, Reservation.spent] at usedSum
    constructor
    · exact used
    · simp only [of_addRunBudgetAmount]
      omega
    · simp only [of_addRunBudgetAmount]
      change account.used.of d + _ ≤ account.limit.of d
      omega
    · simp [reservedSum, outstanding]
    · exact spent.trans usedSum.symm
  · intro c other d
    rw [stillReserved_set, settledActual_set, unused]
    simp [Reservation.outstanding, Reservation.spent, Ne.symm other]
  · exact forall_set ⟨named, by simp, nonneg, fun settled => absurd rfl settled⟩
      fun id' row has => (h.booked id' row has).imp_right (·.set _)

theorem stillReserved_nonneg (rows : ∀ id row, reservations.find? id = some row →
      id ≠ "" ∧ Booked accounts row) (c d) : 0 ≤ stillReserved reservations c d := by
  apply totalBy_nonneg
  rintro ⟨id, row⟩ present
  have booked := (rows id row (mem_iff_find?.mp present)).2
  unfold Reservation.outstanding
  split
  · exact booked.amount d
  · exact Int.le_refl 0

theorem Books.settle {state} (h : Books ledger)
    (made : settleRunBudget now id state actual ledger = .ok after) : Books after := by
  rcases settleRunBudget_writes made with ⟨-, rfl⟩ | ⟨_, -, -, rfl⟩ |
    ⟨stored, account, found, has, reserved, final, valid, within, rfl⟩
  · exact h
  · exact h
  have nonneg := validRunBudgetAmount_iff.mp valid
  have rows : ∀ id' row, (ledger.reservations.set id
      { stored with state := state, actual := actual }).find? id' =
        some row → id' ≠ "" ∧ Booked (ledger.accounts.set stored.budgetId
          { account.tick now with
            reserved := subRunBudgetAmount account.reserved stored.amount
            used := addRunBudgetAmount account.used actual }) row := by
    obtain ⟨named, booked⟩ := h.booked id stored found
    exact forall_set ⟨named, by simp, booked.amount, fun _ => nonneg⟩
      fun id' row present => (h.booked id' row present).imp_right (·.set _)
  refine h.write (fun d => ?_) (fun c other d => ?_) rows
  · obtain ⟨used, -, limit, outstanding, spent⟩ := h.balanced stored.budgetId account has d
    have new := nonneg d
    have bound := runBudgetAmountWithin_iff.mp within d
    have left := stillReserved_nonneg rows stored.budgetId d
    have reservedSum := @stillReserved_set id ledger.reservations
      { stored with state := state, actual := actual } stored.budgetId d
    have usedSum := @settledActual_set id ledger.reservations
      { stored with state := state, actual := actual } stored.budgetId d
    simp [found, Reservation.outstanding, reserved, final] at reservedSum
    simp [found, Reservation.spent, reserved, final] at usedSum
    constructor
    · simp only [of_addRunBudgetAmount]
      omega
    · simp only [of_subRunBudgetAmount]
      omega
    · simp only [of_addRunBudgetAmount, of_subRunBudgetAmount]
      change _ ≤ account.limit.of d
      omega
    · simp only [of_subRunBudgetAmount]
      omega
    · simp only [of_addRunBudgetAmount]
      omega
  · rw [stillReserved_set, settledActual_set, found]
    simp [Reservation.outstanding, Reservation.spent, Ne.symm other]

theorem Reservation.close_moves (row : Reservation) (d) :
    (row.close budgetId).outstanding budgetId d = 0 ∧ (row.close budgetId).spent budgetId d =
        row.spent budgetId d + row.outstanding budgetId d := by
  unfold Reservation.close Reservation.outstanding Reservation.spent
  by_cases mine : row.budgetId = budgetId
  · cases state : row.state <;> simp [mine, state]
  · simp [mine]

theorem Reservation.close_other {c} (other : c ≠ budgetId) (row : Reservation) (d) :
    (row.close budgetId).outstanding c d = row.outstanding c d ∧
      (row.close budgetId).spent c d = row.spent c d := by
  unfold Reservation.close
  split
  next closed =>
    have different : row.budgetId ≠ c := fun same =>
      other (same.symm.trans closed.1)
    simp [Reservation.outstanding, Reservation.spent, different]
  · exact ⟨rfl, rfl⟩

theorem Reservation.close_booked (h : Booked accounts row) :
    Booked accounts (row.close budgetId) := by
  unfold Reservation.close
  split
  · exact ⟨h.account, h.amount, fun _ => h.amount⟩
  · exact h

theorem Books.close {state requireSettled} (h : Books ledger)
    (made : closeRunBudget now budgetId state requireSettled ledger = .ok after) : Books after := by
  rcases closeRunBudget_writes made with
    rfl | ⟨account, found, accounts, reservations⟩
  · exact h
  obtain ⟨afterAccounts, afterReservations⟩ := after
  dsimp only at accounts reservations
  subst accounts
  have sums : ∀ d, stillReserved afterReservations budgetId d = 0 ∧
      settledActual afterReservations budgetId d =
        settledActual ledger.reservations budgetId d +
          stillReserved ledger.reservations budgetId d := by
    intro d
    rcases reservations with rfl | ⟨nothing, rfl⟩
    · constructor
      · rw [stillReserved, totalBy_update, ← totalBy_zero]
        exact totalBy_congr fun row _ => (row.2.close_moves d).1
      · rw [settledActual, totalBy_update, settledActual, stillReserved, ← totalBy_add]
        exact totalBy_congr fun row _ => (row.2.close_moves d).2
    · have none := (h.balanced budgetId account found d).outstanding
      simp [nothing] at none
      omega
  refine h.write (fun d => ?_) (fun c other d => ?_) fun id row present => ?_
  · obtain ⟨used, reserved, limit, outstanding, spent⟩ := h.balanced budgetId account found d
    obtain ⟨emptied, moved⟩ := sums d
    constructor
    · simp only [of_addRunBudgetAmount]
      omega
    · simp
    · simp only [of_addRunBudgetAmount, RunBudgetAmount.of_zero]
      omega
    · simp [emptied]
    · simp only [of_addRunBudgetAmount]
      omega
  · rcases reservations with rfl | ⟨-, rfl⟩
    · rw [stillReserved, settledActual, totalBy_update, totalBy_update]
      exact ⟨totalBy_congr fun row _ => (row.2.close_other other d).1,
        totalBy_congr fun row _ => (row.2.close_other other d).2⟩
    · exact ⟨rfl, rfl⟩
  · rcases reservations with rfl | ⟨-, rfl⟩
    · rw [find?_update, Option.map_eq_some_iff] at present
      obtain ⟨old, there, rfl⟩ := present
      exact (h.booked id old there).imp_right fun booked => Reservation.close_booked (booked.set _)
    · exact (h.booked id row present).imp_right (·.set _)

theorem Books.step (call) (h : Books ledger) : Books (budgetStep ledger call) := by
  unfold budgetStep
  cases made : call.perform ledger with
  | error => exact h
  | ok =>
    cases call with
    | reserve _ _ named =>
      obtain ⟨result, reserved, same⟩ := map_ok.mp made
      rw [← same]
      exact h.reserve named reserved
    | settle => exact h.settle made
    | close => exact h.close made

/-! ## Closed accounts -/

structure Continues (ledger after : Ledger) : Prop where
  account : ∀ c account, ledger.accounts.find? c = some account →
    ∃ account', after.accounts.find? c = some account' ∧ account'.limit = account.limit ∧
      (account.state ≠ .active → account'.state ≠ .active)
  origin : ∀ c account', after.accounts.find? c = some account' →
    ∃ account, ledger.accounts.find? c = some account ∧ account'.limit = account.limit
  row : ∀ id row, after.reservations.find? id = some row →
    (∃ old, ledger.reservations.find? id = some old ∧ old.budgetId = row.budgetId) ∨
    ∃ account, ledger.accounts.find? row.budgetId = some account ∧ account.state = .active

theorem Continues.refl (ledger) : Continues ledger ledger :=
  ⟨fun _ account found => ⟨account, found, rfl, fun h => h⟩,
    fun _ account found => ⟨account, found, rfl⟩, fun _ row found => .inl ⟨row, found, rfl⟩⟩

theorem Continues.write {account'} (found : ledger.accounts.find? budgetId = some account)
    (limit : account'.limit = account.limit)
    (state : account.state ≠ .active → account'.state ≠ .active)
    (rows : ∀ id row, reservations.find? id = some row →
      (∃ old, ledger.reservations.find? id = some old ∧ old.budgetId = row.budgetId) ∨
      ∃ account, ledger.accounts.find? row.budgetId = some account ∧ account.state = .active) :
    Continues ledger ⟨ledger.accounts.set budgetId account', reservations⟩ := by
  refine ⟨carries_set (fun _ => ⟨rfl, id⟩) fun other has => ?_,
    forall_set ⟨account, found, limit⟩ fun _ other has => ⟨other, has, rfl⟩, rows⟩
  obtain rfl : account = other := Option.mem_unique found has
  exact ⟨limit, state⟩

theorem perform_continues {call : BudgetCall}
    (made : call.perform ledger = .ok after) : Continues ledger after := by
  cases call with
  | reserve _ _ named =>
    obtain ⟨result, reserved, rfl⟩ := map_ok.mp made
    cases reserveRunBudget_ok named reserved with
    | unlimited | again => exact .refl ledger
    | made _ _ _ account _ _ _ found active =>
      exact .write found rfl (fun closed => absurd active closed)
        (forall_set (.inr ⟨account, found, active⟩) fun _ row has => .inl ⟨row, has, rfl⟩)
  | settle =>
    rcases settleRunBudget_writes made with
      ⟨-, rfl⟩ | ⟨_, -, -, rfl⟩ | ⟨stored, account, found, has, -, -, -, -, rfl⟩
    · exact .refl _
    · exact .refl _
    · exact .write has rfl (fun closed => closed)
        (forall_set (.inl ⟨stored, found, rfl⟩) fun _ row there => .inl ⟨row, there, rfl⟩)
  | close _ _ _ final =>
    rcases closeRunBudget_writes made with
      rfl | ⟨account, found, accounts, reservations⟩
    · exact .refl after
    obtain ⟨afterAccounts, afterReservations⟩ := after
    dsimp only at accounts reservations
    subst accounts
    refine .write found rfl (fun _ => final) fun id row there => ?_
    rcases reservations with rfl | ⟨-, rfl⟩
    · rw [find?_update, Option.map_eq_some_iff] at there
      obtain ⟨old, has, rfl⟩ := there
      refine .inl ⟨old, has, ?_⟩
      unfold Reservation.close
      split <;> rfl
    · exact .inl ⟨row, there, rfl⟩

theorem budgetStep_continues (ledger call) : Continues ledger (budgetStep ledger call) := by
  unfold budgetStep
  cases made : call.perform ledger with
  | error => exact .refl ledger
  | ok => exact perform_continues made

def Closed (ledger : Ledger) (budgetId : String) : Prop :=
  ∃ account, ledger.accounts.find? budgetId = some account ∧ account.state ≠ .active

theorem closeRunBudget_closed {now state requireSettled} (named : budgetId ≠ "")
    (final : state ≠ .active) (present : (ledger.accounts.find? budgetId).isSome)
    (made : closeRunBudget now budgetId state requireSettled ledger = .ok after) :
    Closed after budgetId := by
  obtain ⟨account, found⟩ := Option.isSome_iff_exists.mp present
  rw [closeRunBudget, if_neg named, found] at made
  dsimp only at made
  split at made
  · cases made
  · cases made
    exact ⟨_, find?_set_self .., final⟩

theorem Continues.closed (h : Continues ledger after) (closed : Closed ledger budgetId) :
    Closed after budgetId ∧ ∀ id row,
      after.reservations.find? id = some row → row.budgetId = budgetId →
      ∃ old, ledger.reservations.find? id = some old ∧ old.budgetId = budgetId := by
  obtain ⟨account, found, state⟩ := closed
  obtain ⟨account', found', -, state'⟩ := h.account budgetId account found
  refine ⟨⟨account', found', state' state⟩, fun id row has mine => ?_⟩
  rcases h.row id row has with ⟨old, there, same⟩ | ⟨other, its, active⟩
  · exact ⟨old, there, same.trans mine⟩
  · rw [mine, found] at its
    cases its
    exact absurd active state

theorem run_closed (calls) (closed : Closed ledger budgetId) (id row)
    (has : (run budgetStep ledger calls).reservations.find? id = some row)
    (mine : row.budgetId = budgetId) :
    ∃ old, ledger.reservations.find? id = some old ∧ old.budgetId = budgetId := by
  induction calls generalizing ledger with
  | nil => exact ⟨row, has, mine⟩
  | cons call _ ih =>
    obtain ⟨still, back⟩ := (budgetStep_continues ledger call).closed closed
    obtain ⟨old, there, its⟩ := ih still has
    exact back id old there its

/-! ## Settling twice -/

theorem Books.settle_again (h : Books ledger) {stored}
    (found : ledger.reservations.find? id = some stored) (settled : stored.state ≠ .reserved)
    (now : Int) :
    settleRunBudget now id stored.state stored.actual ledger = .ok ledger ∧
      ∀ state actual, (state, actual) ≠ (stored.state, stored.actual) →
        ∃ err, settleRunBudget now id state actual ledger = .error err := by
  obtain ⟨named, booked⟩ := h.booked id stored found
  obtain ⟨account, has⟩ := Option.isSome_iff_exists.mp booked.account
  have valid := validRunBudgetAmount_iff.mpr (booked.actual settled)
  constructor
  · simp [settleRunBudget, named, settled, valid, found, has]
  · intro state actual different
    cases made : settleRunBudget now id state actual ledger with
    | error err => exact ⟨err, rfl⟩
    | ok =>
      exfalso
      unfold settleRunBudget at made
      rw [if_neg named] at made
      split at made
      · cases made
      split at made
      · cases made
      simp only [found, has, settled, ne_eq, not_false_eq_true, if_true] at made
      split at made
      · cases made
      next same =>
        simp only [not_or, not_not] at same
        exact different (Prod.ext same.1.symm same.2.symm)

end Invariant

/-! ## Whole runs -/

structure Fresh (ledger : Ledger) : Prop where
  reservations : ledger.reservations = .empty
  account : ∀ budgetId account, ledger.accounts.find? budgetId = some account →
    account.used = {} ∧ account.reserved = {} ∧
      ∀ d, 0 ≤ account.limit.of d ∧ account.limit.of d < 4611686018427387904

theorem Fresh.books {ledger} (h : Fresh ledger) : Books ledger := by
  constructor
  · intro budgetId account found d
    obtain ⟨used, reserved, limits⟩ := h.account budgetId account found
    have limit := limits d
    have sums : stillReserved ledger.reservations budgetId d = 0 ∧
        settledActual ledger.reservations budgetId d = 0 := by
      rw [h.reservations]
      exact ⟨rfl, rfl⟩
    constructor
    · simp [used]
    · simp [reserved]
    · simp only [used, reserved, RunBudgetAmount.of_zero]
      omega
    · simp [reserved, sums.1]
    · simp [used, sums.2]
  · intro id row found
    rw [h.reservations] at found
    cases found

/-- Every state that a run of calls reaches from fresh accounts. -/
theorem budget_never_overspends {ledger : Ledger} (fresh : Fresh ledger) (calls : List BudgetCall) :
    (∀ budgetId account, (run budgetStep ledger calls).accounts.find? budgetId = some account → ∀ d,
      account.used.of d + account.reserved.of d ≤ account.limit.of d ∧
      account.reserved.of d = stillReserved (run budgetStep ledger calls).reservations budgetId d ∧
      account.used.of d = settledActual (run budgetStep ledger calls).reservations budgetId d ∧
      -- No sum that the fit check forms leaves the range of an int64.
      0 ≤ account.used.of d + account.reserved.of d ∧
      ∀ amount : RunBudgetAmount, amount.of d < 4611686018427387904 →
        account.used.of d + account.reserved.of d + amount.of d < 9223372036854775808) ∧
    (∀ id stored, (run budgetStep ledger calls).reservations.find? id =
        some stored → stored.state ≠ .reserved → ∀ now,
      settleRunBudget now id stored.state stored.actual
          (run budgetStep ledger calls) = .ok (run budgetStep ledger calls) ∧
      ∀ state actual, (state, actual) ≠ (stored.state, stored.actual) →
        (∃ err, settleRunBudget now id state actual (run budgetStep ledger calls) = .error err) ∧
        budgetStep (run budgetStep ledger calls)
          (.settle now id state actual) = run budgetStep ledger calls) ∧
    (∀ now budgetId state requireSettled after, budgetId ≠ "" → state ≠ .active →
      ((run budgetStep ledger calls).accounts.find? budgetId).isSome →
      closeRunBudget now budgetId state requireSettled (run budgetStep ledger calls) = .ok after →
      Closed after budgetId) ∧
    ∀ budgetId later, Closed (run budgetStep ledger calls) budgetId →
      ∀ id row, (run budgetStep ledger (calls ++ later)).reservations.find?
          id = some row → row.budgetId = budgetId →
        ∃ old, (run budgetStep ledger calls).reservations.find? id =
          some old ∧ old.budgetId = budgetId := by
  have books := run_always budgetStep Books (fun _ call h => h.step call) fresh.books calls
  have limits : ∀ b account, (run budgetStep ledger calls).accounts.find? b = some account →
      ∀ d, account.limit.of d < 4611686018427387904 := by
    refine run_always budgetStep (fun s => ∀ b account, s.accounts.find? b = some account →
      ∀ d, account.limit.of d < 4611686018427387904) ?_
      (fun b account found d => ((fresh.account b account found).2.2 d).2) calls
    intro s call h b account found d
    obtain ⟨old, there, same⟩ := (budgetStep_continues s call).origin b account found
    rw [same]
    exact h b old there d
  refine ⟨fun b account found d => ?_, fun id stored found settled now => ?_,
    fun _ _ _ _ _ named final present made => closeRunBudget_closed named final present made,
    fun b later closed id row has mine => ?_⟩
  · obtain ⟨used, reserved, within, outstanding, spent⟩ := books.balanced b account found d
    have limit := limits b account found d
    refine ⟨within, outstanding, spent, by omega, fun amount small => ?_⟩
    omega
  · obtain ⟨again, different⟩ := books.settle_again found settled now
    refine ⟨again, fun state actual other => ?_⟩
    obtain ⟨err, failed⟩ := different state actual other
    refine ⟨⟨err, failed⟩, ?_⟩
    simp [budgetStep, BudgetCall.perform, failed]
  · rw [run_append] at has
    exact run_closed later closed id row has mine

def oneStep : Ledger where
  accounts := Table.empty.set "budget-1" {
    state := .active
    limit := ⟨1, 1, 32768, 4096, 1, 65536, 1000⟩
    used := {}
    reserved := {}
    maxActiveMillis := 60000
    activeMillisUsed := 0
    activeStartedAt := none
    executionDeadline := 60000 }
  reservations := .empty

def twoSteps : List BudgetCall :=
  [.reserve 0 "budgetres_1" (by decide) "budget-1" .step "work-1"
      { steps := 1 },
    .reserve 0 "budgetres_2" (by decide) "budget-1" .step "work-2" { steps := 1 },
    .settle 1 "budgetres_1" .settled { steps := 1 }]

theorem oneStep_fresh : Fresh oneStep := by
  refine ⟨rfl, fun budgetId account found => ?_⟩
  have only := List.mem_singleton.mp (mem_iff_find?.mpr found)
  cases only
  refine ⟨rfl, rfl, fun d => ?_⟩
  cases d <;> decide

theorem budget_never_overspends_twoSteps :
    ∃ account, (run budgetStep oneStep twoSteps).accounts.find? "budget-1" = some account ∧
      account.used.of .steps + account.reserved.of .steps ≤ account.limit.of .steps ∧
      account.used.of .steps = settledActual
        (run budgetStep oneStep twoSteps).reservations "budget-1" .steps ∧
      settledActual (run budgetStep oneStep twoSteps).reservations "budget-1" .steps = 1 := by
  have present : ((run budgetStep oneStep twoSteps).accounts.find? "budget-1").isSome = true := by
    decide +kernel
  obtain ⟨account, found⟩ := Option.isSome_iff_exists.mp present
  have balance := (budget_never_overspends oneStep_fresh twoSteps).1 "budget-1" account found .steps
  exact ⟨account, found, balance.1, balance.2.2.1, by decide +kernel⟩

end YuFeng.RunBudget

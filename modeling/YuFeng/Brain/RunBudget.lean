import YuFeng.Kernel.Rpc
import YuFeng.Library.Table

/-!
# Budgets of runs

A run may have a budget account.  What a call may use at most is reserved
before it, and the reservation is settled afterwards with what it really used.
A budget without an account is not limited: nothing is reserved for it, and
there is nothing to settle.
-/

namespace YuFeng.RunBudget

open YuFeng.Library Table

variable {result : String × Ledger}

/-! ## Amounts -/

structure RunBudgetAmount where
  steps : Int := 0
  modelCalls : Int := 0
  inputTokens : Int := 0
  outputTokens : Int := 0
  toolCalls : Int := 0
  toolResultBytes : Int := 0
  costMicrounits : Int := 0
  deriving DecidableEq

def validRunBudgetAmount (amount : RunBudgetAmount) : Bool :=
  decide (0 ≤ amount.steps) && decide (0 ≤ amount.modelCalls) &&
    decide (0 ≤ amount.inputTokens) && decide (0 ≤ amount.outputTokens) &&
    decide (0 ≤ amount.toolCalls) && decide (0 ≤ amount.toolResultBytes) &&
    decide (0 ≤ amount.costMicrounits)

def addRunBudgetAmount (a b : RunBudgetAmount) : RunBudgetAmount where
  steps := a.steps + b.steps
  modelCalls := a.modelCalls + b.modelCalls
  inputTokens := a.inputTokens + b.inputTokens
  outputTokens := a.outputTokens + b.outputTokens
  toolCalls := a.toolCalls + b.toolCalls
  toolResultBytes := a.toolResultBytes + b.toolResultBytes
  costMicrounits := a.costMicrounits + b.costMicrounits

def subRunBudgetAmount (a b : RunBudgetAmount) : RunBudgetAmount where
  steps := a.steps - b.steps
  modelCalls := a.modelCalls - b.modelCalls
  inputTokens := a.inputTokens - b.inputTokens
  outputTokens := a.outputTokens - b.outputTokens
  toolCalls := a.toolCalls - b.toolCalls
  toolResultBytes := a.toolResultBytes - b.toolResultBytes
  costMicrounits := a.costMicrounits - b.costMicrounits

def runBudgetAmountWithin (actual reserved : RunBudgetAmount) : Bool :=
  decide (actual.steps ≤ reserved.steps) &&
    decide (actual.modelCalls ≤ reserved.modelCalls) &&
    decide (actual.inputTokens ≤ reserved.inputTokens) &&
    decide (actual.outputTokens ≤ reserved.outputTokens) &&
    decide (actual.toolCalls ≤ reserved.toolCalls) &&
    decide (actual.toolResultBytes ≤ reserved.toolResultBytes) &&
    decide (actual.costMicrounits ≤ reserved.costMicrounits)

def runBudgetFits (limit consumed requested : RunBudgetAmount) : Bool :=
  runBudgetAmountWithin (addRunBudgetAmount consumed requested) limit

/-! ## Accounts and reservations -/

inductive AccountState where
  | active
  | completed
  | failed
  | cancelled
  | expired
  | outcomeUnknown
  deriving DecidableEq, Repr

/-- Times are in microseconds, as the database keeps them. -/
structure RunBudgetAccount where
  state : AccountState
  limit : RunBudgetAmount
  used : RunBudgetAmount
  reserved : RunBudgetAmount
  maxActiveMillis : Int
  activeMillisUsed : Int
  activeStartedAt : Option Int
  executionDeadline : Int
  deriving DecidableEq

def RunBudgetAccount.currentActiveMillis (account : RunBudgetAccount) (now : Int) : Int :=
  match account.activeStartedAt with
  | none => account.activeMillisUsed
  | some started =>
    if started < now then account.activeMillisUsed + (now - started) / 1000
    else account.activeMillisUsed

def RunBudgetAccount.tick (account : RunBudgetAccount) (now : Int) : RunBudgetAccount :=
  { account with
    activeMillisUsed := account.currentActiveMillis now
    activeStartedAt := account.activeStartedAt.map fun _ => now }

inductive ReservationKind where
  | step
  | model
  | tool
  deriving DecidableEq, Repr

inductive ReservationState where
  | reserved
  | settled
  | outcomeUnknown
  deriving DecidableEq, Repr

structure Reservation where
  budgetId : String
  kind : ReservationKind
  requestKey : String
  state : ReservationState
  amount : RunBudgetAmount
  actual : RunBudgetAmount
  deriving DecidableEq

structure Ledger where
  accounts : Table String RunBudgetAccount
  reservations : Table String Reservation

def noRows : RpcError := ⟨.unknown, "no rows in result set"⟩

def duplicateKey : RpcError := ⟨.unknown, "duplicate key value violates unique constraint"⟩

/-- The row under the unique columns `budget_id`, `kind` and `request_key`. -/
def Ledger.reservationFor (ledger : Ledger) (budgetId : String)
    (kind : ReservationKind) (requestKey : String) :
    Option (String × Reservation) :=
  ledger.reservations.rows.find? fun row =>
    row.2.budgetId = budgetId && row.2.kind = kind && row.2.requestKey = requestKey

def reserveRunBudget (now : Int) (reservationId budgetId : String)
    (kind : ReservationKind) (requestKey : String) (amount : RunBudgetAmount)
    (ledger : Ledger) : Except RpcError (String × Ledger) :=
  if budgetId = "" ∨ requestKey = "" then .ok ("", ledger)
  else if !validRunBudgetAmount amount then
    .error ⟨.unknown, "run budget reservation is invalid"⟩
  else
    match ledger.accounts.find? budgetId with
    | none => .ok ("", ledger)
    | some account =>
      match ledger.reservationFor budgetId kind requestKey with
      | some existing =>
        if existing.2.amount ≠ amount then
          .error ⟨.failedPrecondition, "run budget reservation changed"⟩
        else .ok (existing.1, ledger)
      | none =>
        if account.state ≠ .active ∨ account.executionDeadline ≤ now ∨
            account.maxActiveMillis ≤ account.currentActiveMillis now ∨
            runBudgetFits account.limit (addRunBudgetAmount account.used account.reserved)
              amount = false then
          .error ⟨.resourceExhausted, "run budget exhausted or expired"⟩
        else if (ledger.reservations.find? reservationId).isSome then
          .error duplicateKey
        else
          .ok (reservationId, {
            accounts := ledger.accounts.set budgetId
              { account.tick now with
                reserved := addRunBudgetAmount account.reserved amount }
            reservations := ledger.reservations.set reservationId {
              budgetId := budgetId
              kind := kind
              requestKey := requestKey
              state := .reserved
              amount := amount
              actual := {} } })

def settleRunBudget (now : Int) (reservationId : String)
    (state : ReservationState) (actual : RunBudgetAmount) (ledger : Ledger) :
    Except RpcError Ledger :=
  if reservationId = "" then .ok ledger
  else if state = .reserved then
    .error ⟨.unknown, "run budget settlement state is invalid"⟩
  else if !validRunBudgetAmount actual then
    .error ⟨.unknown, "run budget settlement is invalid"⟩
  else
    match ledger.reservations.find? reservationId with
    | none => .error noRows
    | some stored =>
      match ledger.accounts.find? stored.budgetId with
      | none => .error noRows
      | some account =>
        if stored.state ≠ .reserved then
          if stored.state ≠ state ∨ stored.actual ≠ actual then
            .error ⟨.failedPrecondition, "run budget settlement changed"⟩
          else .ok ledger
        else if !runBudgetAmountWithin actual stored.amount then
          .error ⟨.failedPrecondition, "run budget settlement exceeds reservation"⟩
        else
          .ok {
            accounts := ledger.accounts.set stored.budgetId
              { account.tick now with
                reserved := subRunBudgetAmount account.reserved stored.amount
                used := addRunBudgetAmount account.used actual }
            reservations := ledger.reservations.set reservationId
              { stored with state := state, actual := actual } }

def settleRunBudgetFull (now : Int) (reservationId : String)
    (state : ReservationState) (ledger : Ledger) : Except RpcError Ledger :=
  if reservationId = "" then .ok ledger
  else
    match ledger.reservations.find? reservationId with
    | none => .error noRows
    | some stored =>
      settleRunBudget now reservationId state stored.amount ledger

/-- What is still reserved counts as used once the account is closed. -/
def Reservation.close (budgetId : String) (row : Reservation) : Reservation :=
  if row.budgetId = budgetId ∧ row.state = .reserved then
    { row with state := .outcomeUnknown, actual := row.amount }
  else row

def closeRunBudget (now : Int) (budgetId : String) (state : AccountState)
    (requireSettled : Bool) (ledger : Ledger) : Except RpcError Ledger :=
  if budgetId = "" then .ok ledger
  else
    match ledger.accounts.find? budgetId with
    | none => .ok ledger
    | some account =>
      if requireSettled && account.reserved ≠ {} then
        .error ⟨.failedPrecondition, "run has unsettled budget reservations"⟩
      else
        .ok {
          accounts := ledger.accounts.set budgetId { account with
            state := state
            used := addRunBudgetAmount account.used account.reserved
            reserved := {}
            activeMillisUsed := account.currentActiveMillis now
            activeStartedAt := none }
          reservations :=
            if !requireSettled && account.reserved ≠ {} then
              ledger.reservations.update (Reservation.close budgetId)
            else ledger.reservations }

/-! ## What the operations do to the ledger -/

section Ledgers

variable {now : Int} {id budgetId requestKey : String}
  {kind : ReservationKind} {amount actual : RunBudgetAmount}
  {ledger after : Ledger}

def Reservation.key (row : Reservation) : String × ReservationKind × String :=
  (row.budgetId, row.kind, row.requestKey)

def Keyed (ledger : Ledger) : Prop :=
  ∀ id id' row row', ledger.reservations.find? id = some row →
    ledger.reservations.find? id' = some row' → row.key = row'.key → id = id'

structure Evolves (ledger after : Ledger) : Prop where
  stays : ∀ id row, ledger.reservations.find? id = some row →
    ∃ row', after.reservations.find? id = some row' ∧ row'.key = row.key ∧
      (row.state ≠ .reserved → row' = row)
  keyed : Keyed ledger → Keyed after
  named : ∀ id, (after.reservations.find? id).isSome →
    (ledger.reservations.find? id).isSome ∨ id ≠ ""
  account : ∀ id, (ledger.accounts.find? id).isSome → (after.accounts.find? id).isSome

theorem Evolves.refl (ledger : Ledger) : Evolves ledger ledger :=
  ⟨fun _ row found => ⟨row, found, rfl, fun _ => rfl⟩, fun h => h, fun _ => .inl, fun _ h => h⟩

theorem Evolves.trans {last} (first : Evolves ledger after) (second : Evolves after last) :
    Evolves ledger last := by
  refine ⟨Carries.trans first.stays second.stays ?_, fun h => second.keyed (first.keyed h),
    fun id h => (second.named id h).elim (first.named id) .inr,
    fun id h => second.account id (first.account id h)⟩
  rintro _ _ _ ⟨key, final⟩ ⟨key', final'⟩
  refine ⟨key'.trans key, fun settled => ?_⟩
  obtain rfl := final settled
  exact final' settled

theorem isSome_find?_set {ρ : Type} {table : Table String ρ} {key row id}
    (h : (table.find? id).isSome) : ((table.set key row).find? id).isSome := by
  by_cases same : id = key
  · simp [same]
  · rwa [find?_set_of_ne same]

theorem keyed_of_keys (same : ∀ id, (after.reservations.find? id).map Reservation.key =
        (ledger.reservations.find? id).map Reservation.key)
    (keyed : Keyed ledger) : Keyed after := by
  have back : ∀ id row, after.reservations.find? id = some row →
      ∃ row', ledger.reservations.find? id = some row' ∧ row'.key = row.key := by
    intro id _ found
    have keys := same id
    rw [found] at keys
    cases before : ledger.reservations.find? id with
    | none => simp [before] at keys
    | some row' => exact ⟨row', rfl, by simpa [before] using keys.symm⟩
  intro id id' row row' found found' alike
  obtain ⟨old, there, key⟩ := back id row found
  obtain ⟨old', there', key'⟩ := back id' row' found'
  exact keyed id id' old old' there there' (key.trans (alike.trans key'.symm))

theorem reservationFor_some {found}
    (h : ledger.reservationFor budgetId kind requestKey = some found) :
    ledger.reservations.find? found.1 = some found.2 ∧
      found.2.key = (budgetId, kind, requestKey) := by
  have member := List.mem_of_find?_eq_some h
  have columns := List.find?_some h
  refine ⟨mem_iff_find?.mp member, ?_⟩
  simp only [Bool.and_eq_true, decide_eq_true_eq] at columns
  simp [Reservation.key, columns]

theorem reservationFor_none (h : ledger.reservationFor budgetId kind requestKey = none) {row}
    (found : ledger.reservations.find? id = some row) : row.key ≠ (budgetId, kind, requestKey) := by
  intro same
  have unmatched := List.find?_eq_none.mp h _ (mem_iff_find?.mpr found)
  simp [Reservation.key] at same
  simp [same] at unmatched

inductive Reserves (budgetId : String) (kind : ReservationKind)
    (requestKey : String) (ledger : Ledger) : String × Ledger → Prop
  | unlimited (h : budgetId = "" ∨ requestKey = "" ∨ ledger.accounts.find? budgetId = none) :
      Reserves budgetId kind requestKey ledger ("", ledger)
  | again (id : String) (row : Reservation) (found : ledger.reservations.find? id = some row)
      (key : row.key = (budgetId, kind, requestKey)) :
      Reserves budgetId kind requestKey ledger (id, ledger)
  | made (now : Int) (id : String) (amount : RunBudgetAmount) (account : RunBudgetAccount)
      (named : id ≠ "") (unused : ledger.reservations.find? id = none)
      (unmatched : ledger.reservationFor budgetId kind requestKey = none)
      (found : ledger.accounts.find? budgetId = some account) (active : account.state = .active)
      (valid : validRunBudgetAmount amount = true)
      (fits : runBudgetFits account.limit (addRunBudgetAmount account.used account.reserved)
        amount = true) :
      Reserves budgetId kind requestKey ledger (id, {
        accounts := ledger.accounts.set budgetId { account.tick now with
          reserved := addRunBudgetAmount account.reserved amount }
        reservations := ledger.reservations.set id
          ⟨budgetId, kind, requestKey, .reserved, amount, {}⟩ })

theorem reserveRunBudget_ok (named : id ≠ "")
    (h : reserveRunBudget now id budgetId kind requestKey amount ledger =
      .ok result) : Reserves budgetId kind requestKey ledger result := by
  unfold reserveRunBudget at h
  split at h
  next missing =>
    cases h
    exact .unlimited (missing.imp_right .inl)
  split at h
  · cases h
  rename_i valid
  split at h
  next missing =>
    cases h
    exact .unlimited (.inr (.inr missing))
  rename_i account there
  split at h
  next existing matched =>
    split at h
    · cases h
    · cases h
      obtain ⟨found, key⟩ := reservationFor_some matched
      exact .again existing.1 existing.2 found key
  next unmatched =>
    rw [guard_ok, guard_ok] at h
    obtain ⟨admitted, unused, h⟩ := h
    cases h
    simp only [not_or, Bool.not_eq_false, not_not] at admitted
    exact .made now id amount account named (by simpa using unused) unmatched there admitted.1
      (by simpa using valid) admitted.2.2.2

theorem Reserves.evolves (h : Reserves budgetId kind requestKey ledger result) :
    Evolves ledger result.2 := by
  cases h with
  | unlimited | again => exact .refl ledger
  | made _ id _ _ named unused unmatched =>
    refine ⟨carries_set (fun _ => ⟨rfl, fun _ => rfl⟩) (by simp [unused]), fun keyed => ?_,
      fun id' found => ?_, fun _ => isSome_find?_set⟩
    · intro first second row₁ row₂ found₁ found₂ alike
      obtain ⟨rfl, rfl⟩ | ⟨-, old₁⟩ := find?_set_some found₁ <;>
        obtain ⟨rfl, rfl⟩ | ⟨-, old₂⟩ := find?_set_some found₂
      · rfl
      · exact absurd alike.symm (reservationFor_none unmatched old₂)
      · exact absurd alike (reservationFor_none unmatched old₁)
      · exact keyed first second row₁ row₂ old₁ old₂ alike
    · by_cases new : id' = id
      · exact .inr (new ▸ named)
      · rw [find?_set_of_ne new] at found
        exact .inl found

theorem Reserves.found (h : Reserves budgetId kind requestKey ledger result)
    (limited : budgetId ≠ "" ∧ requestKey ≠ "" ∧ (ledger.accounts.find? budgetId).isSome) :
    ∃ row, result.2.reservations.find? result.1 = some row ∧
      row.key = (budgetId, kind, requestKey) := by
  cases h with
  | unlimited missing =>
    rcases missing with h | h | h
    · exact absurd h limited.1
    · exact absurd h limited.2.1
    · simp [h] at limited
  | again _ row found key => exact ⟨row, found, key⟩
  | made _ id => exact ⟨_, find?_set_self _ id _, rfl⟩

structure Settles (id : String) (state : ReservationState)
    (ledger after : Ledger) : Prop where
  evolves : Evolves ledger after
  before : ∃ row, ledger.reservations.find? id = some row ∧
    (row.state = .reserved ∨ row.state = state)
  settled : ∃ row, after.reservations.find? id = some row ∧ row.state = state

theorem settleRunBudget_writes {state : ReservationState}
    (h : settleRunBudget now id state actual ledger = .ok after) :
    id = "" ∧ after = ledger ∨
    (∃ stored, ledger.reservations.find? id = some stored ∧ stored.state = state ∧ after = ledger) ∨
    ∃ stored account, ledger.reservations.find? id = some stored ∧
      ledger.accounts.find? stored.budgetId = some account ∧
      stored.state = .reserved ∧ state ≠ .reserved ∧
      validRunBudgetAmount actual = true ∧ runBudgetAmountWithin actual stored.amount = true ∧
      after = {
        accounts := ledger.accounts.set stored.budgetId
          { account.tick now with
            reserved := subRunBudgetAmount account.reserved stored.amount
            used := addRunBudgetAmount account.used actual }
        reservations := ledger.reservations.set id
          { stored with state := state, actual := actual } } := by
  unfold settleRunBudget at h
  split at h
  next nothing =>
    cases h
    exact .inl ⟨nothing, rfl⟩
  rw [guard_ok, guard_ok] at h
  obtain ⟨final, valid, h⟩ := h
  split at h
  · cases h
  rename_i stored found
  split at h
  · cases h
  rename_i account has
  split at h
  · split at h
    · cases h
    next repeated =>
      cases h
      simp only [not_or, not_not] at repeated
      exact .inr (.inl ⟨stored, found, repeated.1, rfl⟩)
  rename_i reserved
  split at h
  · cases h
  rename_i within
  cases h
  exact .inr (.inr ⟨stored, account, found, has, not_not.mp reserved, final,
    by simpa using valid, by simpa using within, rfl⟩)

theorem settleRunBudget_ok {state} (h : settleRunBudget now id state actual ledger = .ok after) :
    id = "" ∧ after = ledger ∨ Settles id state ledger after := by
  rcases settleRunBudget_writes h with
    nothing | ⟨stored, found, same, rfl⟩ | ⟨stored, _, found, -, reserved, -, -, -, rfl⟩
  · exact .inl nothing
  · exact .inr ⟨.refl _, ⟨stored, found, .inr same⟩, ⟨stored, found, same⟩⟩
  refine .inr ⟨⟨carries_set (fun _ => ⟨rfl, fun _ => rfl⟩) fun row found' => ?_, ?_,
    fun id' present => .inl ?_, fun _ => isSome_find?_set⟩,
    ⟨stored, found, .inl reserved⟩, ⟨_, find?_set_self _ id _, rfl⟩⟩
  · obtain rfl := Option.mem_unique found found'
    exact ⟨rfl, fun settled => absurd reserved settled⟩
  · refine keyed_of_keys fun id' => ?_
    by_cases same : id' = id
    · subst same
      rw [find?_set_self, found]
      rfl
    · rw [find?_set_of_ne same]
  · by_cases same : id' = id
    · simp [same, found]
    · rwa [find?_set_of_ne same] at present

theorem settleRunBudgetFull_ok {state} (h : settleRunBudgetFull now id state ledger = .ok after) :
    id = "" ∧ after = ledger ∨ Settles id state ledger after := by
  unfold settleRunBudgetFull at h
  split at h
  next nothing =>
    cases h
    exact .inl ⟨nothing, rfl⟩
  split at h
  · cases h
  · exact settleRunBudget_ok h

theorem Reservation.key_close (row : Reservation) : (row.close budgetId).key = row.key := by
  unfold Reservation.close
  split <;> rfl

theorem closeRunBudget_writes {state requireSettled}
    (h : closeRunBudget now budgetId state requireSettled ledger = .ok after) :
    after = ledger ∨ ∃ account, ledger.accounts.find? budgetId = some account ∧
      after.accounts = ledger.accounts.set budgetId { account with
        state := state
        used := addRunBudgetAmount account.used account.reserved
        reserved := {}
        activeMillisUsed := account.currentActiveMillis now
        activeStartedAt := none } ∧
      (after.reservations = ledger.reservations.update (Reservation.close budgetId) ∨
        account.reserved = {} ∧ after.reservations = ledger.reservations) := by
  unfold closeRunBudget at h
  split at h
  · cases h
    exact .inl rfl
  split at h
  · cases h
    exact .inl rfl
  rename_i account found
  split at h
  · cases h
  rename_i settled
  cases h
  refine .inr ⟨account, found, rfl, ?_⟩
  dsimp only
  split
  · exact .inl rfl
  next skipped =>
    refine .inr ⟨?_, rfl⟩
    cases requireSettled with
    | true => simpa using settled
    | false => simpa using skipped

theorem closeRunBudget_ok {state requireSettled}
    (h : closeRunBudget now budgetId state requireSettled ledger =
      .ok after) : Evolves ledger after := by
  rcases closeRunBudget_writes h with rfl | ⟨_, _, accounts, reservations⟩
  · exact .refl _
  obtain ⟨_, _⟩ := after
  dsimp only at accounts reservations
  subst accounts
  rcases reservations with rfl | ⟨-, rfl⟩
  · refine ⟨fun id row found => ?_, ?_, fun id present => .inl ?_, fun _ => isSome_find?_set⟩
    · refine ⟨row.close budgetId, by simp [found], row.key_close, ?_⟩
      intro settled
      simp [Reservation.close, settled]
    · refine keyed_of_keys fun id => ?_
      simp only [find?_update, Option.map_map]
      congr 1
      funext row
      exact row.key_close
    · simpa using present
  · exact ⟨fun id row found => ⟨row, found, rfl, fun _ => rfl⟩, fun h => h,
      fun _ => .inl, fun _ => isSome_find?_set⟩

end Ledgers

end YuFeng.RunBudget

import YuFeng.Brain.Generation

/-!
# Generations commit once

Each transaction of `Generate` is described by what it can do to the tables.
From that follows what all of them keep: an accepted response stays, an attempt
never returns to its intent, a settled reservation stays settled, and the items
of a turn are numbered without gaps.
-/

namespace YuFeng.Generation

open YuFeng.Library List Table
open YuFeng.RunBudget

variable {result : GenerationStart × Database} {turn : TurnRow}
  {req : GenerateRequest} {budgetId : String} {start : GenerationStart}
  {db after : Database}

/-! ## Attempts -/

section Transactions

variable {svc : Service} {db after : Database} {input : BeginInput}
  {req : GenerateRequest} {budgetId attemptId : String}

section

variable (db : Database) (attemptId : String) (change : AttemptRow → AttemptRow)

theorem find?_updateAttempt (id) : (db.updateAttempt attemptId change).attempts.find? id =
      if id = attemptId then (db.attempts.find? id).map change
      else db.attempts.find? id := by
  unfold Database.updateAttempt
  by_cases same : id = attemptId
  · subst same
    cases found : db.attempts.find? id with
    | none => simp [found]
    | some => simp
  · cases db.attempts.find? attemptId with
    | none => simp [same]
    | some => simp [same, find?_set_of_ne]

@[simp] theorem updateAttempt_rest : (db.updateAttempt attemptId change).turns = db.turns ∧
    (db.updateAttempt attemptId change).steps = db.steps ∧
    (db.updateAttempt attemptId change).generations = db.generations ∧
    (db.updateAttempt attemptId change).ledger = db.ledger := by
  unfold Database.updateAttempt
  split <;> exact ⟨rfl, rfl, rfl, rfl⟩

end

structure SameGenerations (db after : Database) : Prop where
  turns : after.turns = db.turns
  steps : after.steps = db.steps
  generations : after.generations = db.generations

structure Reserved (budgetId attemptId : String)
    (change : String → AttemptRow → AttemptRow) (db : Database)
    (start : GenerationStart) (after : Database) : Prop where
  same : SameGenerations db after
  started : ∃ reservationId, start = .started attemptId reservationId ∧
    Reserves budgetId .model attemptId db.ledger (reservationId, after.ledger) ∧
    ∀ id, after.attempts.find? id =
      if id = attemptId then
        (db.attempts.find? id).map (change reservationId)
      else db.attempts.find? id

theorem reserveAttempt_ok (h : reserveAttempt input req budgetId attemptId db = .ok result) :
    Reserved budgetId attemptId (fun reservationId row =>
        { row with budgetReservationId := reservationId })
      db result.1 result.2 := by
  obtain ⟨reserved, made, rest⟩ := seq_ok.mp h
  cases rest
  exact ⟨⟨by simp, by simp, by simp⟩, reserved.1, rfl,
    by simpa using reserveRunBudget_ok (newID_ne_empty _ _) made,
    fun id => find?_updateAttempt _ attemptId _ id⟩

structure Attempted (req : GenerateRequest) (budgetId : String)
    (attemptSequence : Int) (db : Database) (start : GenerationStart)
    (after : Database) : Prop where
  same : SameGenerations db after
  started : ∃ random reservationId, start = .started (newID "attempt" random) reservationId ∧
    db.attempts.find? (newID "attempt" random) = none ∧
    Reserves budgetId .model (newID "attempt" random) db.ledger (reservationId, after.ledger) ∧
    ∀ id, after.attempts.find? id =
      if id = newID "attempt" random then some {
        generationId := req.generationId
        attemptSequence := attemptSequence
        leaseEpoch := req.leaseEpoch
        state := .intentRecorded
        budgetReservationId := reservationId }
      else db.attempts.find? id

theorem newAttempt_ok {attemptSequence}
    (h : newAttempt input req budgetId attemptSequence db = .ok result) :
    Attempted req budgetId attemptSequence db result.1 result.2 := by
  unfold newAttempt at h
  dsimp only at h
  split at h
  · cases h
  rename_i unused
  obtain ⟨same, reservationId, started, reserves, found⟩ := reserveAttempt_ok h
  refine ⟨⟨same.turns, same.steps, same.generations⟩, input.attemptRandom,
    reservationId, started, unused, reserves, fun id => ?_⟩
  rw [found id]
  by_cases new : id = newID "attempt" input.attemptRandom
  · subst new
    simp
  · simp [new, find?_set_of_ne]

theorem latestAttempt_some {generationId latest} (h : db.latestAttempt generationId = some latest) :
    db.attempts.find? latest.1 = some latest.2 ∧ latest.2.generationId = generationId := by
  have member := mem_filter.mp (highest_mem h)
  exact ⟨mem_iff_find?.mp member.1, by simpa using member.2⟩

inductive Opens (req : GenerateRequest) (budgetId : String) (db : Database)
    (start : GenerationStart) (after : Database) : Prop
  | new (attemptSequence : Int) (h : Attempted req budgetId attemptSequence db start after)
  | reclaimed (attemptId : String) (row : AttemptRow)
      (found : db.attempts.find? attemptId = some row)
      (generation : row.generationId = req.generationId)
      (state : row.state = .intentRecorded)
      (h : Reserved budgetId attemptId (fun reservationId row => { row with
          leaseEpoch := req.leaseEpoch
          budgetReservationId := reservationId }) db start after)
  | superseded (attemptId : String) (row : AttemptRow) (marked : Database)
      (found : db.attempts.find? attemptId = some row)
      (generation : row.generationId = req.generationId)
      (state : row.state = .effectStarted)
      (older : row.leaseEpoch < req.leaseEpoch)
      (same : SameGenerations db marked)
      (settled : row.budgetReservationId = "" ∧ marked.ledger = db.ledger ∨
        Settles row.budgetReservationId .outcomeUnknown db.ledger marked.ledger)
      (mark : ∀ id, marked.attempts.find? id = if id = attemptId then some { row with
          state := .outcomeUnknown, errorCode := leaseRecovered }
        else db.attempts.find? id)
      (h : Attempted req budgetId (row.attemptSequence + 1) marked start after)

theorem openAttempt_ok (h : openAttempt input req budgetId db = .ok result) :
    Opens req budgetId db result.1 result.2 := by
  unfold openAttempt at h
  split at h
  · exact .new 1 (newAttempt_ok h)
  rename_i attemptId attempt latest
  obtain ⟨found, generation⟩ := latestAttempt_some latest
  split at h
  next state =>
    obtain ⟨same, reservationId, started, reserves, rows⟩ := reserveAttempt_ok h
    refine .reclaimed attemptId attempt found generation state
      ⟨⟨by simpa using same.turns, by simpa using same.steps,
        by simpa using same.generations⟩, reservationId, started,
        by simpa using reserves, fun id => ?_⟩
    rw [rows id, find?_updateAttempt]
    split <;> simp [Function.comp_def]
  next state =>
    split at h
    · cases h
    rename_i newer
    obtain ⟨_, settled, opened⟩ := seq_ok.mp h
    refine .superseded attemptId attempt _ found generation state
      (by omega) ⟨by simp, by simp, by simp⟩ (settleRunBudgetFull_ok settled)
      (fun id => ?_) (newAttempt_ok opened)
    rw [find?_updateAttempt]
    split
    next here =>
      rw [here, found]
      rfl
    · rfl
  · exact .new _ (newAttempt_ok h)
  · exact .new _ (newAttempt_ok h)

end Transactions

/-! ## The transactions -/

section Replies

variable {svc : Service} {db after : Database} {call : Call} {turn' : TurnRow} {input : ReplyInput}

structure Inserted (svc : Service) (req : GenerateRequest) (turn : TurnRow)
    (db after : Database) : Prop where
  turns : after.turns = db.turns.set req.turnId { turn with
    items := turn.items ++ [⟨turn.nextItemSequence, .modelRequest, req.generationId⟩]
    nextItemSequence := turn.nextItemSequence + 1 }
  generations : after.generations = db.generations.set req.generationId {
    turnId := req.turnId
    stepId := req.stepId
    requestDigest := svc.requestDigest req
    state := .running }
  attempts : after.attempts = db.attempts
  ledger : after.ledger = db.ledger

theorem insertItem_ok {item} (h : turn.insertItem item = .ok turn') :
    turn' = { turn with items := turn.items ++ [item] } := by
  unfold TurnRow.insertItem at h
  split at h
  · cases h
  · cases h
    rfl

theorem insertGeneration_ok (h : insertGeneration svc req turn db = .ok after) :
    Inserted svc req turn db after := by
  obtain ⟨_, inserted, rest⟩ := seq_ok.mp h
  obtain rfl := insertItem_ok inserted
  cases rest
  exact ⟨rfl, rfl, rfl, rfl⟩

inductive Begins (svc : Service) (req : GenerateRequest) (budgetId : String)
    (db : Database) : GenerationStart → Database → Prop
  | cached (row : GenerationRow) (found : db.generations.find? req.generationId = some row)
      (completed : row.state = .completed) :
      Begins svc req budgetId db (.cached row.acceptedResponse) db
  | resumed (row : GenerationRow) (start : GenerationStart) (after : Database)
      (found : db.generations.find? req.generationId = some row)
      (running : row.state = .running)
      (h : Opens req budgetId db start after) :
      Begins svc req budgetId db start after
  | inserted (turn : TurnRow) (start : GenerationStart) (opened after : Database)
      (unused : db.generations.find? req.generationId = none)
      (found : db.turns.find? req.turnId = some turn)
      (new : Inserted svc req turn db opened)
      (h : Opens req budgetId opened start after) :
      Begins svc req budgetId db start after

theorem beginGeneration_ok {input} (h : beginGeneration svc input req budgetId db = .ok result) :
    Begins svc req budgetId db result.1 result.2 := by
  unfold beginGeneration at h
  split at h
  · cases h
  rename_i turn found
  rw [require_bind_ok, seq_ok] at h
  obtain ⟨-, _, -, h⟩ := h
  split at h
  next unused =>
    obtain ⟨_, -, h⟩ := seq_ok.mp h
    obtain ⟨opened, new, h⟩ := seq_ok.mp h
    exact .inserted turn result.1 opened result.2 unused found
      (insertGeneration_ok new) (openAttempt_ok h)
  next row stored =>
    rw [require_bind_ok] at h
    obtain ⟨-, h⟩ := h
    split at h
    next completed =>
      cases h
      exact .cached row stored completed
    · cases h
    next running =>
      obtain ⟨_, -, h⟩ := seq_ok.mp h
      exact .resumed row result.1 result.2 stored running (openAttempt_ok h)

theorem crossBoundary_ok {attemptId} (h : crossBoundary attemptId db = .ok after) :
    ∃ row, db.attempts.find? attemptId = some row ∧ row.state = .intentRecorded ∧ after = { db with
        attempts := db.attempts.set attemptId
          { row with state := .effectStarted } } := by
  unfold crossBoundary at h
  split at h
  next row found =>
    split at h
    next intent =>
      cases h
      exact ⟨row, found, intent, rfl⟩
    · cases h
  · cases h

structure Ends (call : Call) (state : ReservationState)
    (change : AttemptRow → AttemptRow) (db after : Database) : Prop where
  ledger : call.budgetReservationId = "" ∧ after.ledger = db.ledger ∨
    Settles call.budgetReservationId state db.ledger after.ledger
  attempts : ∀ id, after.attempts.find? id =
    if id = call.attemptId then (db.attempts.find? id).map change
    else db.attempts.find? id

def AttemptRow.settle (row : AttemptRow) : AttemptRow :=
  if row.state = .effectStarted then { row with state := .settled } else row

inductive Replies (svc : Service) (call : Call) (db : Database) :
    Option GenerateResponse → Database → Prop
  | failed (err : String) (after : Database) (same : SameGenerations db after)
      (h : Ends call .outcomeUnknown (AttemptRow.endEffect .outcomeUnknown err) db after) :
      Replies svc call db none after
  | empty (after : Database) (same : SameGenerations db after) (h : Ends call .settled (fun row =>
        { row with state := .settled, errorCode := "empty_response" })
        db after) :
      Replies svc call db none after
  | late (row : GenerationRow) (after : Database)
      (found : db.generations.find? call.req.generationId = some row)
      (accepted : row.acceptedAttemptId ≠ "")
      (same : SameGenerations db after)
      (h : Ends call .outcomeUnknown (AttemptRow.endEffect .outcomeUnknown
        "late_response_not_accepted") db after) :
      Replies svc call db (some row.acceptedResponse) after
  | committed (row : GenerationRow) (turn : TurnRow) (new : List AgentItem)
      (response : GenerateResponse) (after : Database)
      (found : db.generations.find? call.req.generationId = some row)
      (vacant : row.acceptedAttemptId = "")
      (located : db.turns.find? call.req.turnId = some turn)
      (numbered : new.map AgentItem.itemSequence = (List.range new.length).map fun i : Nat =>
          turn.nextItemSequence + (i : Int))
      (turns : after.turns = db.turns.set call.req.turnId { turn with
        items := turn.items ++ new
        nextItemSequence := turn.nextItemSequence + new.length })
      (generations : after.generations = db.generations.set call.req.generationId { row with
          state := .completed
          acceptedAttemptId := call.attemptId
          acceptedResponse := response })
      (h : Ends call .settled AttemptRow.settle db after) :
      Replies svc call db (some response) after

theorem insertItems_ok {new} (h : new.foldlM TurnRow.insertItem turn = .ok turn') :
    turn' = { turn with items := turn.items ++ new } := by
  induction new generalizing turn with
  | nil =>
    cases h
    simp
  | cons _ _ ih =>
    rw [foldlM_cons] at h
    obtain ⟨_, inserted, rest⟩ := seq_ok.mp h
    rw [ih rest, insertItem_ok inserted]
    simp

theorem responseItems_numbered (next generationId output) :
    (responseItems next generationId output).map AgentItem.itemSequence =
      (List.range (responseItems next generationId output).length).map
        fun i : Nat => next + (i : Int) := by
  cases output with
  | text => simp [responseItems]
  | toolCall =>
    simp [responseItems, range_succ]

theorem commitResponse_ok {text row result}
    (found : db.generations.find? call.req.generationId = some row)
    (vacant : row.acceptedAttemptId = "")
    (h : commitResponse svc input call text row db = .ok result) :
    Replies svc call db (some result.1) result.2 := by
  unfold commitResponse at h
  split at h
  · cases h
  rename_i turn located
  obtain ⟨_, settled, h⟩ := seq_ok.mp h
  obtain ⟨_, inserted, h⟩ := seq_ok.mp h
  obtain rfl := insertItems_ok inserted
  cases h
  refine .committed row turn _ _ _ found vacant located
    (responseItems_numbered _ call.req.generationId (svc.generateOutputItem input.callRandom text))
    (by simp) (by simp)
    ⟨?_, fun id => ?_⟩
  · exact settleRunBudget_ok settled
  · exact find?_updateAttempt db call.attemptId _ id

theorem handleReply_ok {reply result} (h : handleReply svc input call reply db = .ok result) :
    Replies svc call db result.1 result.2 := by
  unfold handleReply at h
  split at h
  next err =>
    obtain ⟨_, failed, rfl⟩ := map_ok.mp h
    obtain ⟨_, settled, rest⟩ := seq_ok.mp failed
    cases rest
    exact .failed err _ ⟨by simp, by simp, by simp⟩ ⟨settleRunBudgetFull_ok settled,
        fun id => find?_updateAttempt db call.attemptId _ id⟩
  split at h
  · obtain ⟨_, emptied, rfl⟩ := map_ok.mp h
    obtain ⟨_, settled, rest⟩ := seq_ok.mp emptied
    cases rest
    exact .empty _ ⟨by simp, by simp, by simp⟩ ⟨settleRunBudget_ok settled,
        fun id => find?_updateAttempt db call.attemptId _ id⟩
  · obtain ⟨_, made, rfl⟩ := map_ok.mp h
    unfold acceptGenerationResponse at made
    split at made
    · cases made
    rename_i row found
    split at made
    next taken =>
      obtain ⟨_, settled, rest⟩ := seq_ok.mp made
      cases rest
      exact .late row _ found taken ⟨by simp, by simp, by simp⟩ ⟨settleRunBudgetFull_ok settled,
          fun id => find?_updateAttempt db call.attemptId _ id⟩
    next vacant => exact commitResponse_ok found (by simpa using vacant) made

end Replies

/-! ## Steps -/

inductive Steps (svc : Service) (s : System) : Action → System → Prop
  | idle (act : Action) (calls : Nat → Option Call)
      (dropped : ∀ id, calls id = s.calls id ∨ calls id = none) :
      Steps svc s act ⟨s.db, calls⟩
  | started (id : Nat) (input : BeginInput) (req : GenerateRequest)
      (budgetId attemptId reservationId : String) (after : Database)
      (h : Begins svc req budgetId s.db (.started attemptId reservationId) after) :
      Steps svc s (.start id input req budgetId) (System.setCall ⟨after, s.calls⟩ id
          (some ⟨req, attemptId, reservationId, false⟩))
  | crossed (id : Nat) (call : Call) (row : AttemptRow) (underWay : s.calls id = some call)
      (found : s.db.attempts.find? call.attemptId = some row)
      (intent : row.state = .intentRecorded) :
      Steps svc s (.cross id) (System.setCall ⟨{ s.db with
            attempts := s.db.attempts.set call.attemptId
              { row with state := .effectStarted } }, s.calls⟩ id
          (some { call with crossed := true }))
  | replied (id : Nat) (input : ReplyInput) (reply : Reply) (call : Call)
      (response : Option GenerateResponse) (after : Database)
      (underWay : s.calls id = some call) (crossed : call.crossed = true)
      (h : Replies svc call s.db response after) :
      Steps svc s (.reply id input reply) (System.setCall ⟨after, s.calls⟩ id none)
  | yielded (turnId : String) (turn : TurnRow) (found : s.db.turns.find? turnId = some turn) :
      Steps svc s (.yieldTurn turnId) ⟨{ s.db with
        turns := s.db.turns.set turnId { turn with
          items := turn.items ++ [⟨turn.nextItemSequence, .checkpoint, ""⟩]
          nextItemSequence := turn.nextItemSequence + 1 } }, s.calls⟩
  | closed (now : Int) (budgetId : String) (state : AccountState)
      (requireSettled : Bool) (ledger : Ledger)
      (h : Evolves s.db.ledger ledger) :
      Steps svc s (.closeRunBudget now budgetId state requireSettled)
        ⟨{ s.db with ledger := ledger }, s.calls⟩

section Stepping

variable {svc : Service} {s : System} {act : Action}

theorem Steps.unchanged (act) : Steps svc s act s := .idle act s.calls fun _ => .inl rfl

theorem Steps.drop (act id) : Steps svc s act (s.setCall id none) := by
  refine .idle act _ fun other => ?_
  by_cases same : other = id
  · exact .inr (if_pos same)
  · exact .inl (if_neg same)

theorem step_cases (svc s act) : Steps svc s act (step svc s act) := by
  cases act with
  | start id input req budgetId =>
    rw [step]
    split
    next begun => exact .started id input req budgetId _ _ _ (beginGeneration_ok begun)
    · exact .unchanged _
  | cross id =>
    rw [step]
    split
    · exact .unchanged _
    rename_i call underWay
    split
    next crossing =>
      obtain ⟨row, found, intent, rfl⟩ := crossBoundary_ok crossing
      exact .crossed id call row underWay found intent
    · exact .drop _ id
    · exact .unchanged _
  | reply id input reply =>
    rw [step]
    split
    · exact .unchanged _
    rename_i call underWay
    split
    next crossed handled =>
      exact .replied id input reply call _ _ underWay crossed (handleReply_ok handled)
    · exact .drop _ id
    · exact .unchanged _
  | crash id => exact .drop _ id
  | yieldTurn turnId =>
    rw [step]
    split
    next appended =>
      unfold appendCheckpoint at appended
      split at appended
      · cases appended
      rename_i turn found
      obtain ⟨_, inserted, rest⟩ := seq_ok.mp appended
      obtain rfl := insertItem_ok inserted
      cases rest
      exact .yielded turnId turn found
    · exact .unchanged _
  | closeRunBudget now budgetId state requireSettled =>
    rw [step]
    split
    next closing => exact .closed now budgetId state requireSettled _ (closeRunBudget_ok closing)
    · exact .unchanged _

end Stepping

/-! ## What all steps keep -/

def TurnRow.Numbered (turn : TurnRow) : Prop :=
  turn.items.map AgentItem.itemSequence =
      (List.range turn.items.length).map (fun i : Nat => (i : Int) + 1) ∧
    turn.nextItemSequence = turn.items.length + 1

theorem TurnRow.Numbered.append {new} (h : turn.Numbered)
    (numbered : new.map AgentItem.itemSequence = (List.range new.length).map fun i : Nat =>
          turn.nextItemSequence + (i : Int)) :
    TurnRow.Numbered { turn with
      items := turn.items ++ new
      nextItemSequence := turn.nextItemSequence + new.length } := by
  obtain ⟨sequences, next⟩ := h
  refine ⟨?_, ?_⟩
  · simp only [map_append, length_append, range_add, sequences, numbered, next, map_map]
    congr 1
    apply map_congr_left
    intro _ _
    simp only [Function.comp_apply]
    omega
  · simp only [next, length_append]
    omega

structure Advances (db after : Database) : Prop where
  generation : ∀ id row, db.generations.find? id = some row →
    ∃ row', after.generations.find? id = some row' ∧ (row.acceptedAttemptId ≠ "" → row' = row)
  attempt : ∀ id row, db.attempts.find? id = some row →
    ∃ row', after.attempts.find? id = some row' ∧ row'.generationId = row.generationId ∧
      (row.state ≠ .intentRecorded → row'.state ≠ .intentRecorded)
  named : ∀ id, (after.attempts.find? id).isSome → (db.attempts.find? id).isSome ∨ id ≠ ""
  ledger : Evolves db.ledger after.ledger
  turn : ∀ id row', after.turns.find? id = some row' →
    ∃ row, db.turns.find? id = some row ∧ (row.Numbered → row'.Numbered)

section Advancing

variable {svc : Service} {db after last : Database}

theorem unmoved {turns : Table String TurnRow} (id row) (found : turns.find? id = some row) :
    ∃ row', turns.find? id = some row' ∧ (row'.Numbered → row.Numbered) :=
  ⟨row, found, fun h => h⟩

theorem Advances.refl (db) : Advances db db :=
  ⟨fun _ row found => ⟨row, found, fun _ => rfl⟩,
    fun _ row found => ⟨row, found, rfl, fun h => h⟩, fun _ => .inl,
    .refl db.ledger, unmoved⟩

theorem Advances.trans (first : Advances db after)
    (second : Advances after last) : Advances db last := by
  refine ⟨Carries.trans first.generation second.generation fun same same' accepted => ?_,
    Carries.trans first.attempt second.attempt fun same same' => ?_,
    fun id found => (second.named id found).elim (first.named id) .inr,
    first.ledger.trans second.ledger,
    Carries.trans second.turn first.turn fun numbered numbered' h => numbered (numbered' h)⟩
  · obtain rfl := same accepted
    exact same' accepted
  · exact ⟨same'.1.trans same.1, fun h => same'.2 (same.2 h)⟩

theorem Advances.of_attempt {attemptId} {change : AttemptRow → AttemptRow}
    (same : SameGenerations db after) (ledger : Evolves db.ledger after.ledger)
    (rows : ∀ id, after.attempts.find? id = if id = attemptId then (db.attempts.find? id).map change
      else db.attempts.find? id) (own : ∀ row, (change row).generationId = row.generationId)
    (beyond : ∀ row, row.state ≠ .intentRecorded →
      (change row).state ≠ .intentRecorded) : Advances db after := by
  refine ⟨fun id row found => ⟨row, by rw [same.generations, found], fun _ => rfl⟩,
    carries_change (fun _ => ⟨rfl, id⟩) rows fun row _ => ⟨own row, beyond row⟩,
    fun id found => ?_, ledger, fun id row found => ?_⟩
  · left
    rw [rows id] at found
    split at found
    · simpa using found
    · exact found
  · exact ⟨row, by rw [← same.turns, found], fun h => h⟩

theorem Attempted.advances {attemptSequence}
    (h : Attempted req budgetId attemptSequence db start after) : Advances db after := by
  obtain ⟨same, _, _, -, unused, reserves, rows⟩ := h
  refine ⟨fun id row found => ⟨row, by rw [same.generations, found],
    fun _ => rfl⟩, fun id row found => ?_, fun id found => ?_, reserves.evolves,
    fun id row found => ⟨row, by rw [← same.turns, found], fun h => h⟩⟩
  · refine ⟨row, ?_, rfl, fun h => h⟩
    rw [rows id, if_neg, found]
    rintro rfl
    simp [unused] at found
  · rw [rows id] at found
    split at found
    next here => exact .inr (here ▸ newID_ne_empty _ _)
    · exact .inl found

theorem evolves_of_settles {id state ledger ledger'}
    (h : id = "" ∧ ledger' = ledger ∨ Settles id state ledger ledger') :
    Evolves ledger ledger' := by
  rcases h with ⟨-, rfl⟩ | settles
  · exact .refl ledger'
  · exact settles.evolves

theorem Opens.advances (h : Opens req budgetId db start after) : Advances db after := by
  cases h with
  | new _ h => exact h.advances
  | reclaimed _ _ _ _ _ h =>
    obtain ⟨same, _, -, reserves, rows⟩ := h
    exact .of_attempt same reserves.evolves rows (fun _ => rfl) fun _ h => h
  | superseded attemptId row marked found _ state _ same settled mark h =>
    exact Advances.trans (.of_attempt same (evolves_of_settles settled)
      (fun id => (mark id).trans (find?_changed found (fun row => { row with
        state := .outcomeUnknown, errorCode := leaseRecovered }) id))
      (fun _ => rfl) fun _ _ => by simp) h.advances

theorem Inserted.advances (h : Inserted svc req turn db after)
    (unused : db.generations.find? req.generationId = none)
    (found : db.turns.find? req.turnId = some turn) : Advances db after := by
  obtain ⟨turns, generations, attempts, ledger⟩ := h
  refine ⟨?_, fun id row stored => ?_,
    fun id stored => .inl (attempts ▸ stored), ?_, ?_⟩
  · rw [generations]
    exact carries_set (fun _ _ => rfl) (by simp [unused])
  · exact ⟨row, by rw [attempts, stored], rfl, fun h => h⟩
  · rw [ledger]
    exact .refl db.ledger
  · rw [turns]
    exact forall_set ⟨turn, found, fun numbered => numbered.append (by simp)⟩ unmoved

theorem Begins.advances (h : Begins svc req budgetId db start after) : Advances db after := by
  cases h with
  | cached => exact .refl db
  | resumed _ _ _ _ _ h => exact h.advances
  | inserted _ _ _ _ unused found new h =>
    exact (new.advances unused found).trans h.advances

theorem Replies.advances {call response} (h : Replies svc call db response after) :
    Advances db after := by
  cases h with
  | failed _ _ same h | late row _ _ _ same h =>
    refine .of_attempt same (evolves_of_settles h.ledger) h.attempts ?_ ?_
    · intro _
      unfold AttemptRow.endEffect
      split <;> rfl
    · intro _ beyond
      unfold AttemptRow.endEffect
      split <;> simp [beyond]
  | empty _ same h =>
    exact .of_attempt same (evolves_of_settles h.ledger) h.attempts
      (fun _ => rfl) fun _ _ => by simp
  | committed _ turn _ _ _ found vacant located numbered turns generations h =>
      refine ⟨?_, carries_change (fun _ => ⟨rfl, id⟩) h.attempts fun row' _ => ?_,
        fun id stored => ?_, evolves_of_settles h.ledger, ?_⟩
      · rw [generations]
        refine carries_set (fun _ _ => rfl) fun row' stored accepted => ?_
        obtain rfl := Option.mem_unique found stored
        exact absurd vacant accepted
      · unfold AttemptRow.settle
        split
        · exact ⟨rfl, fun _ => by simp⟩
        · exact ⟨rfl, id⟩
      · left
        rw [h.attempts id] at stored
        split at stored
        · simpa using stored
        · exact stored
      · rw [turns]
        exact forall_set ⟨turn, located, fun h => h.append numbered⟩ unmoved

theorem Steps.advances {s s' : System} {act} (h : Steps svc s act s') : Advances s.db s'.db := by
  cases h with
  | idle => exact .refl s.db
  | started _ _ _ _ _ _ _ h | replied _ _ _ _ _ _ _ _ h =>
    exact h.advances
  | crossed _ call row _ found =>
    refine @Advances.of_attempt s.db _ call.attemptId
      (fun row => { row with state := .effectStarted }) ⟨rfl, rfl, rfl⟩
      (.refl _) (fun other => ?_) (fun _ => rfl) fun _ _ => by simp
    by_cases here : other = call.attemptId
    · subst here
      simp [System.setCall, found]
    · simp [System.setCall, here, find?_set_of_ne]
  | yielded _ turn found =>
    exact ⟨fun _ row stored => ⟨row, stored, fun _ => rfl⟩,
      fun _ row stored => ⟨row, stored, rfl, fun h => h⟩, fun _ => .inl, .refl _,
      forall_set ⟨turn, found, fun numbered => numbered.append (by simp)⟩ unmoved⟩
  | closed _ _ _ _ _ h =>
    exact ⟨fun _ row stored => ⟨row, stored, fun _ => rfl⟩,
      fun _ row stored => ⟨row, stored, rfl, fun h => h⟩, fun _ => .inl, h, unmoved⟩

end Advancing

/-! ## Accepted responses -/

/-- A generation is completed once it has an accepted attempt, and calls refer
to attempts there are. -/
structure Sound (s : System) : Prop where
  accepted : ∀ id row, s.db.generations.find? id = some row →
    (row.acceptedAttemptId ≠ "" ↔ row.state = .completed)
  named : ∀ id row, s.db.attempts.find? id = some row → id ≠ ""
  known : ∀ id call, s.calls id = some call → (s.db.attempts.find? call.attemptId).isSome

section Accepting

variable {svc : Service} {s s' : System} {act : Action}

theorem Opens.started (h : Opens req budgetId db start after) :
    ∃ attemptId reservationId, start = .started attemptId reservationId ∧
      (after.attempts.find? attemptId).isSome := by
  have opened : ∀ {attemptSequence : Int} {db : Database},
      Attempted req budgetId attemptSequence db start after →
      ∃ attemptId reservationId, start = .started attemptId reservationId ∧
        (after.attempts.find? attemptId).isSome := by
    intro _ _ h
    obtain ⟨-, _, reservationId, started, -, -, rows⟩ := h
    exact ⟨_, reservationId, started, by rw [rows]; simp⟩
  cases h with
  | new _ h | superseded _ _ _ _ _ _ _ _ _ _ h => exact opened h
  | reclaimed attemptId _ found _ _ h =>
    obtain ⟨-, reservationId, started, -, rows⟩ := h
    exact ⟨attemptId, reservationId, started, by rw [rows]; simp [found]⟩

theorem Opens.generations (h : Opens req budgetId db start after) :
    after.generations = db.generations := by
  cases h with
  | new _ h => exact h.same.generations
  | reclaimed _ _ _ _ _ h =>
    exact h.same.generations
  | superseded _ _ _ _ _ _ _ same _ _ h => exact h.same.generations.trans same.generations

theorem Begins.started (h : Begins svc req budgetId db start after) :
    (∃ row, start = .cached row.acceptedResponse ∧ after = db ∧
        db.generations.find? req.generationId = some row ∧ row.state = .completed) ∨
      ∃ attemptId reservationId, start = .started attemptId reservationId ∧
        (after.attempts.find? attemptId).isSome := by
  cases h with
  | cached row found completed => exact .inl ⟨row, rfl, rfl, found, completed⟩
  | resumed _ _ _ _ _ h | inserted _ _ _ _ _ _ _ h => exact .inr h.started

theorem Steps.accepted (h : Steps svc s act s') (sound : Sound s) :
    ∀ id row, s'.db.generations.find? id = some row →
      (row.acceptedAttemptId ≠ "" ↔ row.state = .completed) := by
  cases h with
  | idle | crossed | yielded | closed => exact sound.accepted
  | started id _ _ _ _ _ after h =>
    change ∀ id row, after.generations.find? id = some row → _
    cases h with
    | resumed _ _ _ _ _ h =>
      rw [h.generations]
      exact sound.accepted
    | inserted _ _ _ _ _ _ new h =>
      rw [h.generations, new.generations]
      exact forall_set (by simp) sound.accepted
  | replied id _ _ call response after underWay _ h =>
    change ∀ id row, after.generations.find? id = some row → _
    cases h with
    | failed _ _ same | empty _ same | late _ _ _ _ same =>
      rw [same.generations]
      exact sound.accepted
    | committed _ _ _ _ _ _ _ _ _ _ generations =>
        rw [generations]
        obtain ⟨attempt, stored⟩ := Option.isSome_iff_exists.mp (sound.known id call underWay)
        exact forall_set (by simp [sound.named _ attempt stored]) sound.accepted

theorem setCall_some {id other call found} (h : (s.setCall id call).calls other = some found) :
    other = id ∧ call = some found ∨ s.calls other = some found := by
  simp only [System.setCall] at h
  split at h
  next same => exact .inl ⟨same, h⟩
  · exact .inr h

theorem Steps.calls (h : Steps svc s act s') {id call} (underWay : s'.calls id = some call) :
    (s'.db.attempts.find? call.attemptId).isSome ∨ ∃ id call', s.calls id = some call' ∧
        call'.attemptId = call.attemptId := by
  cases h with
  | idle _ _ dropped =>
    rcases dropped id with same | none
    · exact .inr ⟨id, call, same ▸ underWay, rfl⟩
    · exact absurd (none.symm.trans underWay) (by simp)
  | started _ _ _ _ _ _ _ h =>
    rcases setCall_some underWay with ⟨-, new⟩ | old
    · cases new
      rcases h.started with ⟨_, cached, -⟩ | ⟨_, _, started, found⟩
      · cases cached
      · cases started
        exact .inl found
    · exact .inr ⟨_, call, old, rfl⟩
  | crossed id call _ crossing =>
    rcases setCall_some underWay with ⟨-, new⟩ | old
    · cases new
      exact .inr ⟨id, call, crossing, rfl⟩
    · exact .inr ⟨_, _, old, rfl⟩
  | replied =>
    rcases setCall_some underWay with ⟨-, new⟩ | old
    · cases new
    · exact .inr ⟨_, _, old, rfl⟩
  | yielded => exact .inr ⟨id, call, underWay, rfl⟩
  | closed =>
    exact .inr ⟨id, call, underWay, rfl⟩

theorem step_sound (sound : Sound s) : Sound (step svc s act) := by
  have cases := step_cases svc s act
  have advances := cases.advances
  refine ⟨cases.accepted sound, fun id row found => ?_, fun id call underWay => ?_⟩
  · rcases advances.named id (by simp [found]) with old | named
    · obtain ⟨row', stored⟩ := Option.isSome_iff_exists.mp old
      exact sound.named id row' stored
    · exact named
  · rcases cases.calls underWay with found | ⟨id', call', before, same⟩
    · exact found
    · obtain ⟨row, stored⟩ := Option.isSome_iff_exists.mp (sound.known id' call' before)
      obtain ⟨_, found, -⟩ := advances.attempt _ row stored
      rw [← same, found]
      rfl

end Accepting

/-! ## Runs -/

structure Fresh (s : System) : Prop where
  calls : ∀ id, s.calls id = none
  generations : ∀ id, s.db.generations.find? id = none
  attempts : ∀ id, s.db.attempts.find? id = none
  reservations : ∀ id, s.db.ledger.reservations.find? id = none
  turns : ∀ id row, s.db.turns.find? id = some row → row.Numbered

theorem Fresh.sound {s} (fresh : Fresh s) : Sound s := by
  refine ⟨fun id row found => ?_, fun id row found => ?_, fun id call found => ?_⟩
  · simp [fresh.generations id] at found
  · simp [fresh.attempts id] at found
  · simp [fresh.calls id] at found

def plainService : Service where
  sha req := req.generationId
  toolCall _ := none

def oneTurn (accounts : Table String RunBudgetAccount) : System where
  db := {
    turns := Table.empty.set "turn-1" ⟨"thread-1", 2, [⟨1, .inputReference, "ref-1"⟩]⟩
    steps := Table.empty.set "step-1" "turn-1"
    generations := Table.empty
    attempts := Table.empty
    ledger := ⟨accounts, Table.empty⟩ }
  calls _ := none

theorem oneTurn_fresh (accounts) : Fresh (oneTurn accounts) := by
  exact ⟨fun _ => rfl, fun _ => rfl, fun _ => rfl, fun _ => rfl, forall_set ⟨rfl, rfl⟩ nofun⟩

def oneRequest (leaseEpoch expectedItemSequence : Int) : GenerateRequest where
  threadId := "thread-1"
  turnId := "turn-1"
  stepId := "step-1"
  generationId := "gen-1"
  leaseId := "lease-1"
  leaseEpoch := leaseEpoch
  expectedItemSequence := expectedItemSequence
  inputItems := [⟨"user", "hello"⟩]
  maxOutputTokens := 16

/-- A second lease takes over while the first call waits for the model. -/
def takenOver : List Action :=
  [.start 1 ⟨0, .ok (), "1", "1"⟩ (oneRequest 1 2) "budget-1", .cross 1,
    .start 2 ⟨1, .ok (), "2", "2"⟩ (oneRequest 2 3) "budget-1", .cross 2]

end YuFeng.Generation

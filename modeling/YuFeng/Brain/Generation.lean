import YuFeng.Brain.RunBudget
import YuFeng.Library.Query
import YuFeng.Library.Run
import YuFeng.Library.Text

/-!
# Model generations

`Generate` records a generation and an attempt in one transaction, crosses the
effect boundary in a second one, calls the model, and stores the reply in a
third.  Every row a transaction decides on is locked until it commits, so that
transactions are the steps of the system; any number of calls interleave
between them, and a call can end between any two.
-/

namespace YuFeng.Generation

open YuFeng.Library
open YuFeng.RunBudget

/-! ## Requests -/

def chatCompleteMaxTokens : Int := 1024

def runModelCostMicrounitsPerCall : Int := 1000000

structure GenerateInputItem where
  role : String
  content : String
  deriving DecidableEq

structure GenerateRequest where
  threadId : String
  turnId : String
  stepId : String
  generationId : String
  leaseId : String
  leaseEpoch : Int
  expectedItemSequence : Int
  inputItems : List GenerateInputItem
  maxOutputTokens : Int
  deriving DecidableEq

def totalBytes (items : List GenerateInputItem) : Nat :=
  items.foldl (fun total item => total + item.content.utf8ByteSize) 0

def validateGenerateRequest (req : GenerateRequest) : Except RpcError Unit := do
  require (!(trimSpace req.threadId = "" || trimSpace req.turnId = "" ||
      trimSpace req.stepId = "" || trimSpace req.generationId = "" ||
      trimSpace req.leaseId = "" || decide (req.leaseEpoch ≤ 0) ||
      decide (req.expectedItemSequence ≤ 0)))
    .invalidArgument
    ("thread_id, turn_id, step_id, generation_id, lease and " ++
      "expected_item_sequence are required")
  require (!req.inputItems.isEmpty) .invalidArgument "input_items are required"
  req.inputItems.forM fun item => do
    require (trimSpace item.role ≠ "") .invalidArgument "input item role is required"
    require (trimSpace item.content ≠ "") .invalidArgument
      ("input item must choose exactly one of content or " ++ "sensitive_content_ref")
  require (decide (totalBytes req.inputItems ≤ 1048576)) .invalidArgument "input items exceed 1 mib"

def estimateTokens (text : String) : Int :=
  if (text.utf8ByteSize + 3) / 4 < 1 then 1
  else ((text.utf8ByteSize + 3) / 4 : Nat)

def estimateGenerateInputTokens (req : GenerateRequest) : Int :=
  let total := req.inputItems.foldl (fun total item => total + estimateTokens item.content) 0
  if total = 0 then 1 else total

def generationBudgetAmount (req : GenerateRequest) : RunBudgetAmount where
  modelCalls := 1
  inputTokens := estimateGenerateInputTokens req
  outputTokens :=
    if req.maxOutputTokens ≤ 0 ∨ chatCompleteMaxTokens < req.maxOutputTokens
    then chatCompleteMaxTokens else req.maxOutputTokens
  costMicrounits := runModelCostMicrounitsPerCall

/-! ## Responses -/

inductive GenerateOutputItem where
  | text (content : String)
  | toolCall (callId toolName argumentsJson : String)
  deriving DecidableEq

/-- The defaults are the empty response of a generation without one. -/
structure GenerateResponse where
  generationId : String := ""
  acceptedAttemptId : String := ""
  outputItems : List GenerateOutputItem := []
  finishReason : String := ""
  inputTokens : Int := 0
  outputTokens : Int := 0
  actualModel : String := ""
  nextItemSequence : Int := 0
  deriving DecidableEq

structure Service where
  sha : GenerateRequest → String
  toolCall : String → Option (String × String)

/-- The digest leaves the lease and the expected sequence out. -/
def Service.requestDigest (svc : Service) (req : GenerateRequest) : String :=
  svc.sha { req with
    expectedItemSequence := 0, leaseId := "", leaseEpoch := 0 }

def newID (kind random : String) : String := kind ++ "_" ++ random

theorem newID_ne_empty (kind random : String) : newID kind random ≠ "" := by
  intro empty
  have length := congrArg String.length empty
  simp [newID] at length

def Service.generateOutputItem (svc : Service) (random text : String) : GenerateOutputItem :=
  match svc.toolCall text with
  | none => .text text
  | some (tool, arguments) => .toolCall (newID "call" random) tool arguments

/-! ## The tables -/

inductive ItemKind where
  | inputReference
  | modelRequest
  | modelResponse
  | toolCall
  | checkpoint
  deriving DecidableEq, Repr

structure AgentItem where
  itemSequence : Int
  kind : ItemKind
  contentRef : String
  deriving DecidableEq

structure TurnRow where
  threadId : String
  nextItemSequence : Int
  items : List AgentItem
  deriving DecidableEq

inductive GenerationState where
  | running
  | completed
  | failed
  deriving DecidableEq, Repr

structure GenerationRow where
  turnId : String
  stepId : String
  requestDigest : String
  state : GenerationState
  acceptedAttemptId : String := ""
  acceptedResponse : GenerateResponse := {}
  deriving DecidableEq

inductive AttemptState where
  | intentRecorded
  | effectStarted
  | settled
  | outcomeUnknown
  deriving DecidableEq, Repr

structure AttemptRow where
  generationId : String
  attemptSequence : Int
  leaseEpoch : Int
  state : AttemptState
  errorCode : String := ""
  budgetReservationId : String := ""
  deriving DecidableEq

structure Database where
  turns : Table String TurnRow
  /-- The turn of a step. -/
  steps : Table String String
  generations : Table String GenerationRow
  attempts : Table String AttemptRow
  ledger : Ledger

def TurnRow.insertItem (turn : TurnRow) (item : AgentItem) : Except RpcError TurnRow :=
  if turn.items.any fun other => other.itemSequence = item.itemSequence then
    .error duplicateKey
  else .ok { turn with items := turn.items ++ [item] }

def Database.updateAttempt (db : Database) (attemptId : String)
    (change : AttemptRow → AttemptRow) : Database :=
  match db.attempts.find? attemptId with
  | none => db
  | some row =>
    { db with attempts := db.attempts.set attemptId (change row) }

def AttemptRow.endEffect (state : AttemptState) (errorCode : String)
    (row : AttemptRow) : AttemptRow :=
  if row.state = .effectStarted then
    { row with state := state, errorCode := errorCode }
  else row

def Database.latestAttempt (db : Database) (generationId : String) : Option (String × AttemptRow) :=
  highest (fun row => row.2.attemptSequence)
    (db.attempts.rows.filter fun row => row.2.generationId = generationId)

/-! ## Beginning -/

structure BeginInput where
  now : Int
  /-- The answer of `validateCatalogPins`. -/
  catalogPins : Except RpcError Unit
  attemptRandom : String
  reservationRandom : String

inductive GenerationStart where
  | cached (response : GenerateResponse)
  | started (attemptId budgetReservationId : String)
  deriving DecidableEq

def reserveAttempt (input : BeginInput) (req : GenerateRequest)
    (budgetId attemptId : String) (db : Database) :
    Except RpcError (GenerationStart × Database) := do
  let reserved ← reserveRunBudget input.now
    (newID "budgetres" input.reservationRandom) budgetId .model attemptId
    (generationBudgetAmount req) db.ledger
  let db := { db with ledger := reserved.2 }
  pure (.started attemptId reserved.1, db.updateAttempt attemptId fun row =>
    { row with budgetReservationId := reserved.1 })

def newAttempt (input : BeginInput) (req : GenerateRequest)
    (budgetId : String) (attemptSequence : Int) (db : Database) :
    Except RpcError (GenerationStart × Database) :=
  let attemptId := newID "attempt" input.attemptRandom
  match db.attempts.find? attemptId with
  | some _ => .error duplicateKey
  | none =>
    reserveAttempt input req budgetId attemptId { db with
      attempts := db.attempts.set attemptId {
        generationId := req.generationId
        attemptSequence := attemptSequence
        leaseEpoch := req.leaseEpoch
        state := .intentRecorded } }

/-- The mark of an attempt that was given up for a newer lease. -/
def leaseRecovered : String := "lease_recovered_after_effect"

def openAttempt (input : BeginInput) (req : GenerateRequest) (budgetId : String) (db : Database) :
    Except RpcError (GenerationStart × Database) :=
  match db.latestAttempt req.generationId with
  | none => newAttempt input req budgetId 1 db
  | some (attemptId, attempt) =>
    match attempt.state with
    | .intentRecorded =>
      reserveAttempt input req budgetId attemptId (db.updateAttempt attemptId fun row =>
          { row with leaseEpoch := req.leaseEpoch })
    | .effectStarted =>
      if req.leaseEpoch ≤ attempt.leaseEpoch then
        .error ⟨.failedPrecondition, "generation attempt is already in flight"⟩
      else do
        let ledger ← settleRunBudgetFull input.now
          attempt.budgetReservationId .outcomeUnknown db.ledger
        let db := db.updateAttempt attemptId fun row =>
          { row with state := .outcomeUnknown, errorCode := leaseRecovered }
        newAttempt input req budgetId (attempt.attemptSequence + 1) { db with ledger := ledger }
    | .settled | .outcomeUnknown =>
      newAttempt input req budgetId (attempt.attemptSequence + 1) db

def insertGeneration (svc : Service) (req : GenerateRequest) (turn : TurnRow)
    (db : Database) : Except RpcError Database := do
  let turn ← turn.insertItem ⟨turn.nextItemSequence, .modelRequest, req.generationId⟩
  pure { db with
    turns := db.turns.set req.turnId { turn with nextItemSequence := turn.nextItemSequence + 1 }
    generations := db.generations.set req.generationId {
      turnId := req.turnId
      stepId := req.stepId
      requestDigest := svc.requestDigest req
      state := .running } }

def checkPosition (req : GenerateRequest) (turn : TurnRow) (db : Database) :
    Except RpcError Unit := do
  require (turn.nextItemSequence = req.expectedItemSequence)
    .failedPrecondition "expected_item_sequence does not match turn"
  match db.steps.find? req.stepId with
  | none => .error noRows
  | some turnId =>
    require (turnId = req.turnId) .permissionDenied "step does not belong to turn"

def beginGeneration (svc : Service) (input : BeginInput)
    (req : GenerateRequest) (budgetId : String) (db : Database) :
    Except RpcError (GenerationStart × Database) :=
  match db.turns.find? req.turnId with
  | none => .error noRows
  | some turn => do
      require (turn.threadId = req.threadId) .permissionDenied "thread does not contain turn"
      input.catalogPins
      match db.generations.find? req.generationId with
      | none => do
          checkPosition req turn db
          let db ← insertGeneration svc req turn db
          openAttempt input req budgetId db
      | some generation => do
          require (generation.requestDigest = svc.requestDigest req)
            .failedPrecondition "generation_id request digest changed"
          match generation.state with
          | .completed => pure (.cached generation.acceptedResponse, db)
          | .failed => .error ⟨.failedPrecondition, "generation is terminal failed"⟩
          | .running => do
              checkPosition req turn db
              openAttempt input req budgetId db

/-! ## The effect boundary -/

def crossBoundary (attemptId : String) (db : Database) : Except RpcError Database :=
  match db.attempts.find? attemptId with
  | some row =>
    if row.state = .intentRecorded then
      .ok { db with
        attempts := db.attempts.set attemptId { row with state := .effectStarted } }
    else .error ⟨.failedPrecondition, "generation attempt cannot cross effect boundary"⟩
  | none => .error ⟨.failedPrecondition, "generation attempt cannot cross effect boundary"⟩

/-! ## Replies -/

structure Call where
  req : GenerateRequest
  attemptId : String
  budgetReservationId : String
  crossed : Bool
  deriving DecidableEq

structure ReplyInput where
  now : Int
  callRandom : String
  actualModel : String

/-- The model call failed: nobody knows whether it had an effect. -/
def failReply (input : ReplyInput) (call : Call) (err : String)
    (db : Database) : Except RpcError Database := do
  let ledger ← settleRunBudgetFull input.now call.budgetReservationId .outcomeUnknown db.ledger
  let db := db.updateAttempt call.attemptId (AttemptRow.endEffect .outcomeUnknown err)
  pure { db with ledger := ledger }

/-- An empty reply settles the attempt whatever its state. -/
def emptyReply (input : ReplyInput) (call : Call) (db : Database) : Except RpcError Database := do
  let ledger ← settleRunBudget input.now call.budgetReservationId .settled {
    modelCalls := 1
    inputTokens := estimateGenerateInputTokens call.req
    costMicrounits := runModelCostMicrounitsPerCall } db.ledger
  let db := db.updateAttempt call.attemptId fun row =>
    { row with state := .settled, errorCode := "empty_response" }
  pure { db with ledger := ledger }

def responseItems (next : Int) (generationId : String) : GenerateOutputItem → List AgentItem
  | .text _ => [⟨next, .modelResponse, generationId⟩]
  | .toolCall callId _ _ =>
    [⟨next, .modelResponse, generationId⟩, ⟨next + 1, .toolCall, callId⟩]

def commitResponse (svc : Service) (input : ReplyInput) (call : Call)
    (text : String) (generation : GenerationRow) (db : Database) :
    Except RpcError (GenerateResponse × Database) :=
  match db.turns.find? call.req.turnId with
  | none => .error noRows
  | some turn => do
      let output := svc.generateOutputItem input.callRandom text
      let items := responseItems turn.nextItemSequence call.req.generationId output
      let next := turn.nextItemSequence + items.length
      let response : GenerateResponse := {
        generationId := call.req.generationId
        acceptedAttemptId := call.attemptId
        outputItems := [output]
        finishReason := "stop"
        inputTokens := estimateGenerateInputTokens call.req
        outputTokens := estimateTokens text
        actualModel := input.actualModel
        nextItemSequence := next }
      let ledger ← settleRunBudget input.now call.budgetReservationId .settled {
          modelCalls := 1
          inputTokens := response.inputTokens
          outputTokens := response.outputTokens
          costMicrounits := runModelCostMicrounitsPerCall } db.ledger
      let turn ← items.foldlM TurnRow.insertItem turn
      let db := db.updateAttempt call.attemptId fun row =>
        if row.state = .effectStarted then { row with state := .settled }
        else row
      pure (response, { db with
        ledger := ledger
        turns := db.turns.set call.req.turnId { turn with nextItemSequence := next }
        generations := db.generations.set call.req.generationId
          { generation with
            state := .completed
            acceptedAttemptId := call.attemptId
            acceptedResponse := response } })

def acceptGenerationResponse (svc : Service) (input : ReplyInput)
    (call : Call) (text : String) (db : Database) :
    Except RpcError (GenerateResponse × Database) :=
  match db.generations.find? call.req.generationId with
  | none => .error noRows
  | some generation =>
    if generation.acceptedAttemptId ≠ "" then do
      let ledger ← settleRunBudgetFull input.now call.budgetReservationId .outcomeUnknown db.ledger
      let db := db.updateAttempt call.attemptId
        (AttemptRow.endEffect .outcomeUnknown "late_response_not_accepted")
      pure (generation.acceptedResponse, { db with ledger := ledger })
    else commitResponse svc input call text generation db

/-! ## The system -/

inductive Reply where
  | failed (err : String)
  | text (text : String)
  deriving DecidableEq

def handleReply (svc : Service) (input : ReplyInput) (call : Call) (reply : Reply) (db : Database) :
    Except RpcError (Option GenerateResponse × Database) :=
  match reply with
  | .failed err =>
    (failReply input call err db).map fun db => (none, db)
  | .text text =>
    if trimSpace text = "" then
      (emptyReply input call db).map fun db => (none, db)
    else
      (acceptGenerationResponse svc input call text db).map fun result =>
        (some result.1, result.2)

structure System where
  db : Database
  calls : Nat → Option Call

def System.setCall (s : System) (id : Nat) (call : Option Call) : System :=
  { s with calls := fun other => if other = id then call else s.calls other }

/--
The transactions of the calls, calls that end between two of them, and the
other writers of the same rows: a turn that is yielded gets a checkpoint item,
and a run that is over closes its budget.
-/
inductive Action where
  | start (call : Nat) (input : BeginInput) (req : GenerateRequest) (budgetId : String)
  | cross (call : Nat)
  | reply (call : Nat) (input : ReplyInput) (reply : Reply)
  | crash (call : Nat)
  | yieldTurn (turnId : String)
  | closeRunBudget (now : Int) (budgetId : String) (state : AccountState) (requireSettled : Bool)

def appendCheckpoint (turnId : String) (db : Database) : Except RpcError Database :=
  match db.turns.find? turnId with
  | none => .error noRows
  | some turn => do
      let after ← turn.insertItem ⟨turn.nextItemSequence, .checkpoint, ""⟩
      pure { db with
        turns := db.turns.set turnId { after with nextItemSequence := turn.nextItemSequence + 1 } }

variable (svc : Service)

/-- A transaction that fails leaves no effect, and ends its call. -/
def step (s : System) : Action → System
  | .start id input req budgetId =>
    match s.calls id, validateGenerateRequest req, beginGeneration svc input req budgetId s.db with
    | none, .ok _, .ok (.started attemptId reservationId, db) =>
      System.setCall { s with db := db } id (some ⟨req, attemptId, reservationId, false⟩)
    | _, _, _ => s
  | .cross id =>
    match s.calls id with
    | none => s
    | some call =>
      match call.crossed, crossBoundary call.attemptId s.db with
      | false, .ok db =>
        System.setCall { s with db := db } id (some { call with crossed := true })
      | false, .error _ => s.setCall id none
      | true, _ => s
  | .reply id input reply =>
    match s.calls id with
    | none => s
    | some call =>
      match call.crossed, handleReply svc input call reply s.db with
      | true, .ok (_, db) => System.setCall { s with db := db } id none
      | true, .error _ => s.setCall id none
      | false, _ => s
  | .crash id => s.setCall id none
  | .yieldTurn turnId =>
    match appendCheckpoint turnId s.db with
    | .ok db => { s with db := db }
    | .error _ => s
  | .closeRunBudget now budgetId state requireSettled =>
    match RunBudget.closeRunBudget now budgetId state requireSettled s.db.ledger with
    | .ok ledger => { s with
        db := { s.db with ledger := ledger } }
    | .error _ => s

/-- The call that succeeds with an action, and the response it returns. -/
def answer (s : System) : Action → Option (GenerateRequest × GenerateResponse)
  | .start id input req budgetId =>
    match s.calls id, validateGenerateRequest req, beginGeneration svc input req budgetId s.db with
    | none, .ok _, .ok (.cached response, _) => some (req, response)
    | _, _, _ => none
  | .reply id input reply =>
    match s.calls id with
    | none => none
    | some call =>
      match call.crossed, handleReply svc input call reply s.db with
      | true, .ok (some response, _) => some (call.req, response)
      | _, _ => none
  | _ => none

end YuFeng.Generation

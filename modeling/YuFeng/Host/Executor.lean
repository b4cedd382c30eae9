import YuFeng.Library.Text

/-!
# The host executor

`execute` works off the steps of a command on a host.  Every phase of a step is
saved in the journal before it is reported; a step that replaces a file keeps
what it needs to put the file back.  The reporter is a callback with a state of
its own.  Everything else outside the executor is an `Environment`: saves that
fail, crashes between two actions, contexts that end, and the results of the
actions themselves.
-/

namespace YuFeng.Host

open YuFeng.Library

/-! ## Commands and receipts -/

inductive StepPhase where
  | intentRecorded
  | effectStarted
  | succeeded
  | failed
  | compensationStarted
  | compensated
  | outcomeUnknown
  deriving DecidableEq, Repr

def StepPhase.text : StepPhase → String
  | .intentRecorded => "intent_recorded"
  | .effectStarted => "effect_started"
  | .succeeded => "succeeded"
  | .failed => "failed"
  | .compensationStarted => "compensation_started"
  | .compensated => "compensated"
  | .outcomeUnknown => "outcome_unknown"

inductive Primitive where
  | sysProbe
  | artifactStage
  | fileAtomicReplace
  | serviceReload
  | verifyFileDigest
  | verifyServiceActive
  | other (name : String)
  deriving DecidableEq

def allowedHostPrimitive : Primitive → Bool
  | .other _ => false
  | _ => true

structure CommandStep where
  primitive : Primitive
  argsJson : String
  guard : String
  deriving DecidableEq

structure Command where
  commandId : String
  leaseId : String
  artifactRef : String
  steps : List CommandStep
  deriving DecidableEq

/-- The backup itself is kept under the command and the step index. -/
structure FileCompensation where
  target : String
  existed : Bool
  mode : Nat
  deriving DecidableEq

def hostNewFileMode : Nat := 0o600

def FileCompensation.fileMode (c : FileCompensation) : Nat :=
  if c.mode % 0o1000 = 0 then hostNewFileMode else c.mode % 0o1000

structure JournalStep where
  phase : Option StepPhase := none
  guardDigest : String := ""
  receiptRef : String := ""
  compensationReceiptRef : String := ""
  output : String := "null"
  error : String := ""
  compensation : Option FileCompensation := none
  deriving DecidableEq

structure StepReceipt where
  stepIndex : Nat
  phase : Option StepPhase
  outputJson : String
  error : String
  guardDigest : String
  receiptRef : String
  compensationReceiptRef : String
  deriving DecidableEq

def makeReceipt (index : Nat) (entry : JournalStep) : StepReceipt where
  stepIndex := index
  phase := entry.phase
  outputJson := entry.output
  error := entry.error
  guardDigest := entry.guardDigest
  receiptRef := entry.receiptRef
  compensationReceiptRef := entry.compensationReceiptRef

structure Codec where
  digestText : String → String
  receiptReference : String → Nat → JournalStep → String
  boundedError : String → String
  decodeTarget : String → Except String String
  place : String → String

/-! ## World and environment -/

structure File where
  content : String
  mode : Nat
  deriving DecidableEq

structure HostWorld where
  journal : Nat → JournalStep
  files : String → Option File
  backups : Nat → Option String
  staged : Option String

def HostWorld.setStep (w : HostWorld) (index : Nat) (entry : JournalStep) : HostWorld :=
  { w with journal := fun i => if i = index then entry else w.journal i }

def HostWorld.write (w : HostWorld) (path : String) (file : Option File) : HostWorld :=
  { w with files := fun p => if p = path then file else w.files p }

def HostWorld.backUp (w : HostWorld) (index : Nat) (content : String) : HostWorld :=
  { w with
    backups := fun i => if i = index then some content else w.backups i }

structure Machine (ρ : Type) where
  world : HostWorld
  reporter : ρ

inductive ContextError where
  | canceled
  | deadlineExceeded
  deriving DecidableEq, Repr

structure Failure where
  text : String
  context : Option ContextError := none
  deriving DecidableEq

def ContextError.failure : ContextError → Failure
  | .canceled => ⟨"context canceled", some .canceled⟩
  | .deadlineExceeded => ⟨"context deadline exceeded", some .deadlineExceeded⟩

/-- `errors.Is` of a reporter error and the cause: only context errors are
shared between the two. -/
def isCause (err cause : Failure) : Bool := cause.context.isSome && err.context = cause.context

/-- How an action on the host goes, before or after it has taken effect. -/
inductive ActionResult where
  | crashedBefore
  | crashedAfter
  | failedBefore (err : Failure)
  | failedAfter (err : Failure)
  | done (output : String)
  deriving DecidableEq

/--
`saveErr` and `crash` are indexed by the step and the phase that is saved: the
save fails, or the host stops right after it.  A stop before a save is a save
that fails, since the executor returns at once.  `ctxErr` is the state of the
execution context before and after the preparation of a step.
-/
structure Environment where
  expired : Bool
  saveErr : Nat → StepPhase → Option String
  crash : Nat → StepPhase → Bool
  ctxErr : Nat → Bool → Option ContextError
  prepareErr : Nat → Option Failure
  payload : Nat → String
  effect : Nat → ActionResult
  restore : Nat → ActionResult

inductive Ending where
  | returned (err : Option Failure)
  | crashed
  deriving DecidableEq

abbrev Reporter (ρ : Type) := StepReceipt → ρ → Option Failure × ρ

section Execution

variable {ρ : Type} (codec : Codec) (cmd : Command) (env : Environment) (report : Reporter ρ)

def save (index : Nat) (phase : StepPhase) (entry : JournalStep)
    (m : Machine ρ) : Option Ending × Machine ρ :=
  match env.saveErr index phase with
  | some err => (some (.returned (some ⟨err, none⟩)), m)
  | none =>
    let saved : Machine ρ := { m with
      world := m.world.setStep index { entry with phase := some phase } }
    if env.crash index phase then (some .crashed, saved) else (none, saved)

def send (index : Nat) (m : Machine ρ) : Option Failure × Machine ρ :=
  let answer := report (makeReceipt index (m.world.journal index)) m.reporter
  (answer.1, { m with reporter := answer.2 })

/-- Save a phase and report it; an ending is what the executor returns. -/
def advance (index : Nat) (phase : StepPhase) (entry : JournalStep)
    (m : Machine ρ) : Option Ending × Machine ρ :=
  match save env index phase entry m with
  | (some ending, m) => (some ending, m)
  | (none, m) =>
    match send report index m with
    | (some err, m) => (some (.returned (some err)), m)
    | (none, m) => (none, m)

/-! ## Compensation -/

def restored (index : Nat) (c : FileCompensation) (w : HostWorld) : Option HostWorld :=
  if c.existed then
    (w.backups index).map fun content =>
      w.write (codec.place c.target) (some ⟨content, c.fileMode⟩)
  else
    some (w.write (codec.place c.target) none)

inductive Executed where
  | crashed
  | failed (err : Failure)
  | done (output : String)
  deriving DecidableEq

def act (result : ActionResult) (before after : HostWorld) : Executed × HostWorld :=
  match result with
  | .crashedBefore => (.crashed, before)
  | .crashedAfter => (.crashed, after)
  | .failedBefore err => (.failed err, before)
  | .failedAfter err => (.failed err, after)
  | .done output => (.done output, after)

def restoreFile (index : Nat) (c : FileCompensation) (w : HostWorld) : Executed × HostWorld :=
  match restored codec index c w with
  | none => (.failed ⟨"open backup", none⟩, w)
  | some after => act (env.restore index) w after

def rollBack (index : Nat) (c : FileCompensation) (m : Machine ρ) : Option Ending × Machine ρ :=
  match advance env report index .compensationStarted (m.world.journal index) m with
  | (some ending, m) => (some ending, m)
  | (none, m) =>
    let entry := m.world.journal index
    match restoreFile codec env index c m.world with
    | (.crashed, w) => (some .crashed, { m with world := w })
    | (.failed err, w) =>
      match advance env report index .outcomeUnknown
          { entry with error := codec.boundedError err.text }
          { m with world := w } with
      | (some ending, m) => (some ending, m)
      | (none, m) => (some (.returned (some err)), m)
    | (.done _, w) =>
      let settled : JournalStep := { entry with phase := some .compensated, error := "" }
      advance env report index .compensated
        { settled with
          compensationReceiptRef := codec.receiptReference cmd.commandId index settled }
        { m with world := w }

def compensate (failedIndex : Nat) : Nat → Machine ρ → Option Ending × Machine ρ
  | 0, m => (none, m)
  | index + 1, m =>
    let entry := m.world.journal index
    match entry.compensation with
    | none => compensate failedIndex index m
    | some c =>
      if index = failedIndex ∧ entry.phase = some .failed ∨
          index < failedIndex ∧ entry.phase = some .succeeded then
        match rollBack codec cmd env report index c m with
        | (some ending, m) => (some ending, m)
        | (none, m) => compensate failedIndex index m
      else
        compensate failedIndex index m

def settleFailure (index : Nat) (entry : JournalStep) (cause : Failure)
    (m : Machine ρ) : Except Ending (Option Failure) × Machine ρ :=
  match save env index .failed
      { entry with error := codec.boundedError cause.text } m with
  | (some ending, m) => (.error ending, m)
  | (none, m) =>
    let answer := send report index m
    (.ok answer.1, answer.2)

def settleAndCompensate (index : Nat) (entry : JournalStep) (cause : Failure)
    (m : Machine ρ) : Ending × Machine ρ :=
  match settleFailure codec env report index entry cause m with
  | (.error ending, m) => (ending, m)
  | (.ok answer, m) =>
    match answer.filter fun err => !isCause err cause with
    | some err => (.returned (some err), m)
    | none =>
      match compensate codec cmd env report index (index + 1) m with
      | (some .crashed, m) => (.crashed, m)
      | (some (.returned none), m) => (.returned (some cause), m)
      | (some (.returned (some err)), m) =>
        (.returned (some ⟨"execute: " ++ cause.text ++
          "; compensate: " ++ err.text, err.context⟩), m)
      | (none, m) => (.returned (some cause), m)

/-! ## Execution -/

def failWithoutEffect (index : Nat) (step : CommandStep) (message : String)
    (m : Machine ρ) : Ending × Machine ρ :=
  let entry : JournalStep := { guardDigest := codec.digestText step.guard }
  match advance env report index .intentRecorded entry m with
  | (some ending, m) => (ending, m)
  | (none, m) =>
    match settleFailure codec env report index (m.world.journal index) ⟨message, none⟩ m with
    | (.error ending, m) => (ending, m)
    | (.ok (some err), m) => (.returned (some err), m)
    | (.ok none, m) => (.returned (some ⟨message, none⟩), m)

def prepare (index : Nat) (step : CommandStep) (w : HostWorld) :
    Except Failure (Option FileCompensation) × HostWorld :=
  match env.prepareErr index with
  | some err => (.error err, w)
  | none =>
    match step.primitive with
    | .fileAtomicReplace =>
      match codec.decodeTarget step.argsJson with
      | .error text => (.error ⟨text, none⟩, w)
      | .ok target =>
        if trimSpace cmd.artifactRef = "" then
          (.error ⟨"artifact_ref is required", none⟩, w)
        else
          match w.files (codec.place target) with
          | none => (.ok (some ⟨target, false, hostNewFileMode⟩), w)
          | some file =>
            (.ok (some ⟨target, true, file.mode % 0o1000⟩), w.backUp index file.content)
    | _ => (.ok none, w)

def withoutContext : Executed × HostWorld → Executed × HostWorld
  | (.failed err, w) => (.failed ⟨err.text, none⟩, w)
  | result => result

def executePrepared (index : Nat) (step : CommandStep)
    (compensation : Option FileCompensation) (w : HostWorld) :
    Executed × HostWorld :=
  match step.primitive with
  | .artifactStage =>
    act (env.effect index) w { w with staged := some (env.payload index) }
  | .fileAtomicReplace =>
    match codec.decodeTarget step.argsJson, w.staged with
    | .error text, _ => (.failed ⟨text, none⟩, w)
    | .ok _, none => (.failed ⟨"staged artifact is unavailable", none⟩, w)
    | .ok target, some payload =>
      let mode := (compensation.map FileCompensation.fileMode).getD hostNewFileMode
      withoutContext (act (env.effect index) w
        (w.write (codec.place target) (some ⟨payload, mode⟩)))
  | _ => act (env.effect index) w w

def startStep (index : Nat) (step : CommandStep) (m : Machine ρ) :
    Except (Ending × Machine ρ) (Machine ρ) :=
  let entry := m.world.journal index
  match env.ctxErr index false with
  | some err => .error (settleAndCompensate codec cmd env report index entry err.failure m)
  | none =>
    match prepare codec cmd env index step m.world with
    | (.error err, w) => .error (settleAndCompensate codec cmd env report index entry err
          { m with world := w })
    | (.ok compensation, w) =>
      match env.ctxErr index true with
      | some err => .error (settleAndCompensate codec cmd env report index entry
            err.failure { m with world := w })
      | none =>
        match advance env report index .effectStarted
            { entry with compensation := compensation }
            { m with world := w } with
        | (some ending, m) => .error (ending, m)
        | (none, m) =>
          let entry := m.world.journal index
          match executePrepared codec env index step compensation m.world with
          | (.crashed, w) => .error (.crashed, { m with world := w })
          | (.failed err, w) => .error (settleAndCompensate codec cmd env report index entry
                err { m with world := w })
          | (.done output, w) =>
            let settled : JournalStep := { entry with
              phase := some .succeeded, output := output,
              error := "" }
            match advance env report index .succeeded
                { settled with
                  receiptRef := codec.receiptReference cmd.commandId index settled }
                { m with world := w } with
            | (some ending, m) => .error (ending, m)
            | (none, m) => .ok m

def openStep (index : Nat) (step : CommandStep) (m : Machine ρ) :
    Except (Ending × Machine ρ) (Machine ρ) :=
  match (m.world.journal index).phase with
  | none =>
    match advance env report index .intentRecorded
        { guardDigest := codec.digestText step.guard } m with
    | (some ending, m) => .error (ending, m)
    | (none, m) => startStep codec cmd env report index step m
  | some _ =>
    match send report index m with
    | (some err, m) => .error (.returned (some err), m)
    | (none, m) => startStep codec cmd env report index step m

def executeSteps : Nat → List CommandStep → Machine ρ → Ending × Machine ρ
  | _, [], m => (.returned none, m)
  | index, step :: steps, m =>
    let entry := m.world.journal index
    match entry.phase with
    | some .effectStarted | some .compensationStarted =>
      match advance env report index .outcomeUnknown { entry with
          error := "host restarted after a side-effect boundary " ++ "without settlement" } m with
      | (some ending, m) => (ending, m)
      | (none, m) => (.returned none, m)
    | some .outcomeUnknown | some .failed | some .compensated =>
      (.returned (some ⟨"step " ++ toString index ++ " is terminal with phase " ++
        (entry.phase.map StepPhase.text).getD "", none⟩), m)
    | some .succeeded =>
      match send report index m with
      | (some err, m) => (.returned (some err), m)
      | (none, m) => executeSteps (index + 1) steps m
    | some .intentRecorded | none =>
      match openStep codec cmd env report index step m with
      | .error result => result
      | .ok m => executeSteps (index + 1) steps m

def refusedStep : Nat → List CommandStep → Option (Nat × CommandStep)
  | _, [] => none
  | index, step :: steps =>
    if allowedHostPrimitive step.primitive then
      refusedStep (index + 1) steps
    else some (index, step)

def execute (m : Machine ρ) : Ending × Machine ρ :=
  if trimSpace cmd.commandId = "" ∨ trimSpace cmd.leaseId = "" then
    (.returned (some ⟨"command, lease and receipt reporter are required", none⟩), m)
  else if env.expired then
    (.returned (some ⟨"command deadline has expired", none⟩), m)
  else
    match refusedStep 0 cmd.steps with
    | some (index, step) =>
      failWithoutEffect codec env report index step "primitive is not allowed" m
    | none => executeSteps codec cmd env report 0 cmd.steps m

end Execution

/-! ## Deliveries -/

/--
One delivery of a command, and the answers to its reports.  No receipt is sent
twice in one execution, so that the answers may depend on the receipt alone.
-/
structure Delivery where
  env : Environment
  answers : StepReceipt → Option Failure

def Delivery.reporter (d : Delivery) : Reporter Unit := fun receipt s => (d.answers receipt, s)

def deliver (codec : Codec) (cmd : Command) (w : HostWorld) (d : Delivery) : HostWorld :=
  (execute codec cmd d.env d.reporter ⟨w, ()⟩).2.world

end YuFeng.Host

import YuFeng.Brain.Takeover

/-!
# The session of an edge

The loops of an edge share one session, and each of them may rotate its
tokens at the brain.  `saveSession` writes a snapshot of the session to the
session file; only some loops call it.  A started edge asks for new tokens
with the refresh token of the file and never goes back to the bootstrap
token.

A step is one action between two uses of the lock of the session, of the
file or of the network.  What a remote call returns besides its rejection is
not part of the model, nor is the registration of an edge without a session
file.
-/

namespace YuFeng.EdgeSession

open YuFeng.Library YuFeng.Brain

def second : Int := 1000000000

def defaultHeartbeatInterval : Int := 30 * second

structure Session where
  unitId : String
  assetId : String
  token : String
  refresh : String
  heartbeatInterval : Int
  /-- `none` for the zero time of a loaded session. -/
  tokenIssuedAt : Option Int

structure PersistedSession where
  unitId : String
  assetId : String
  token : String
  refresh : String
  heartbeatSeconds : Int
  deriving DecidableEq

def Session.persisted (session : Session) : PersistedSession where
  unitId := session.unitId
  assetId := session.assetId
  token := session.token
  refresh := session.refresh
  heartbeatSeconds := session.heartbeatInterval.tdiv second

def sessionOf (response : RefreshResponse) (assetId : String) (now : Int) : Session where
  unitId := response.unitId
  assetId := assetId
  token := response.token
  refresh := response.refreshToken
  heartbeatInterval := defaultHeartbeatInterval
  tokenIssuedAt := some now

def Session.renewed (session : Session) (response : RefreshResponse) (now : Int) : Session :=
  let next := sessionOf response "" now
  { session with
    token := next.token
    refresh := if next.refresh ≠ "" then next.refresh else session.refresh
    tokenIssuedAt := next.tokenIssuedAt
    heartbeatInterval :=
      if next.heartbeatInterval > 0 then next.heartbeatInterval
      else session.heartbeatInterval }

def Session.current (session : Session) (now : Int) : Bool :=
  session.refresh = "" || session.tokenIssuedAt.any (now - · < accessTokenTTL / 2)

/-! ## The loops -/

inductive Loop where
  | waitForListenPlan
  | release
  | listenPlan
  | heartbeat
  | upload
  | reviewUpload
  | evidenceRequest
  deriving DecidableEq, Repr

def Loop.ensures : Loop → Bool
  | .reviewUpload => false
  | .evidenceRequest => false
  | _ => true

def Loop.saves : Loop → Bool
  | .release => true
  | .listenPlan => true
  | .heartbeat => true
  | .upload => true
  | _ => false

inductive Purpose where
  | ensure
  | retry
  deriving DecidableEq, Repr

inductive Phase where
  | idle
  /-- Inside `refreshLocked`, with the lock of the session. -/
  | refreshing
  | saving
  | writing (snapshot : PersistedSession)
  | calling
  | requesting (token : String)
  | rejected (token : String)
  | retrying
  deriving DecidableEq

structure Thread where
  loop : Loop
  phase : Phase
  deriving DecidableEq

def loops : List Thread :=
  [⟨.waitForListenPlan, .idle⟩, ⟨.release, .idle⟩, ⟨.listenPlan, .idle⟩,
    ⟨.heartbeat, .idle⟩, ⟨.upload, .idle⟩, ⟨.reviewUpload, .idle⟩, ⟨.evidenceRequest, .idle⟩]

inductive Lock where
  | free
  | requested (thread : Nat) (purpose : Purpose)
  | answered (thread : Nat) (purpose : Purpose) (response : RefreshResponse)
  deriving DecidableEq

def Lock.isFree : Lock → Bool
  | .free => true
  | _ => false

structure Running where
  session : Session
  lock : Lock
  threads : List Thread

/-- A write of the session file ends before the rename, after it with an
error of the directory, or well. -/
inductive Written where
  | failed
  | unsynced
  | done
  deriving DecidableEq, Repr

def Written.replaced : Written → Bool
  | .failed => false
  | _ => true

def Written.ok : Written → Bool
  | .done => true
  | _ => false

inductive Act where
  | wake (now : Int)
  | snapshot
  | write (result : Written)
  | request
  | answer (unauthenticated : Bool)
  | refresh
  | repeated
  | rest
  deriving DecidableEq

def Loop.afterEnsure (loop : Loop) : Phase :=
  if loop.saves then .saving else .calling

/-- A failed save stops the turn of `listenPlanLoop`; the others log it. -/
def Loop.afterSave (loop : Loop) (result : Written) : Phase :=
  if loop = .listenPlan && !result.ok then .idle else .calling

/-- What an action changes: the lock, where the loop stands, and what the
session file is replaced by. -/
structure Moved where
  lock : Lock
  phase : Phase
  written : Option PersistedSession

def act (r : Running) (i : Nat) (t : Thread) : Act → Moved
  | .wake now =>
    if t.phase ≠ .idle then ⟨r.lock, t.phase, none⟩
    else if !t.loop.ensures then ⟨r.lock, .calling, none⟩
    else if !r.lock.isFree then ⟨r.lock, t.phase, none⟩
    else if r.session.current now then ⟨r.lock, t.loop.afterEnsure, none⟩
    else ⟨.requested i .ensure, .refreshing, none⟩
  | .snapshot =>
    if t.phase = .saving && r.lock.isFree then
      ⟨r.lock, .writing r.session.persisted, none⟩
    else ⟨r.lock, t.phase, none⟩
  | .write result =>
    match t.phase with
    | .writing snapshot =>
      ⟨r.lock, t.loop.afterSave result, if result.replaced then some snapshot else none⟩
    | phase => ⟨r.lock, phase, none⟩
  | .request =>
    if t.phase = .calling && r.lock.isFree then
      ⟨r.lock, .requesting r.session.token, none⟩
    else ⟨r.lock, t.phase, none⟩
  | .answer unauthenticated =>
    match t.phase with
    | .requesting token =>
      ⟨r.lock, if unauthenticated then .rejected token else .calling, none⟩
    | phase => ⟨r.lock, phase, none⟩
  | .refresh =>
    -- `refreshRejected`: another loop may have rotated in between
    match t.phase with
    | .rejected token =>
      if !r.lock.isFree then ⟨r.lock, .rejected token, none⟩
      else if r.session.token ≠ token then ⟨r.lock, .retrying, none⟩
      else if r.session.refresh = "" then ⟨r.lock, .calling, none⟩
      else ⟨.requested i .retry, .refreshing, none⟩
    | phase => ⟨r.lock, phase, none⟩
  | .repeated =>
    ⟨r.lock, if t.phase = .retrying then .calling else t.phase, none⟩
  | .rest => ⟨r.lock, if t.phase = .calling then .idle else t.phase, none⟩

def release (threads : List Thread) (i : Nat) (next : Loop → Phase) : List Thread :=
  threads.modify i fun t => { t with phase := next t.loop }

def afterRefresh (purpose : Purpose) (loop : Loop) : Phase :=
  match purpose with
  | .ensure => loop.afterEnsure
  | .retry => .retrying

def afterFailure (purpose : Purpose) (_ : Loop) : Phase :=
  match purpose with
  | .ensure => .idle
  | .retry => .calling

/-! ## Starts and crashes -/

inductive Process where
  | down
  /-- The file was loaded; the brain is asked, again and again if offline. -/
  | resuming (previous : PersistedSession) (offline : Bool)
  | resumed (previous : PersistedSession) (offline : Bool) (response : RefreshResponse)
  | running (r : Running)

structure World where
  db : Registry
  file : Option PersistedSession
  process : Process

/-- What the brain brings to a refresh, and whether its answer arrives. -/
structure Exchange where
  admitted : Bool
  now : Int
  accessRandom : Vector UInt8 32
  refreshRandom : Vector UInt8 32
  delivered : Bool

def Exchange.call (x : Exchange) (unitId refreshToken : String) : RefreshCall where
  unitId := unitId
  refreshToken := refreshToken
  admitted := x.admitted
  now := x.now
  accessRandom := x.accessRandom
  refreshRandom := x.refreshRandom

inductive Op where
  | start
  /-- The pending refresh reaches the brain. -/
  | exchange (x : Exchange)
  /-- The pending refresh does not reach the brain. -/
  | unreachable
  /-- The answer of the brain is taken over into the session. -/
  | install (now : Int)
  /-- The first save of a started edge. -/
  | settle (unitId : String) (now : Int) (result : Written)
  | act (i : Nat) (a : Act)
  | crash
  | restartBrain (now : Int)

section Steps

variable (env : Deployment)

def start (w : World) : World :=
  match w.process, w.file with
  | .down, some file =>
    if file.unitId ≠ "" && file.refresh ≠ "" then
      { w with process := .resuming file false }
    else w
  | _, _ => w

def exchange (w : World) (x : Exchange) : World :=
  match w.process with
  | .resuming previous offline =>
    match refresh env w.db (x.call previous.unitId previous.refresh) with
    | .error _ => { w with process := .resuming previous true }
    | .ok (response, db) =>
      { w with
        db := db
        process :=
          if x.delivered then .resumed previous offline response
          else .resuming previous true }
  | .running r =>
    match r.lock with
    | .requested i purpose =>
      let failed : Running := ⟨r.session, .free, release r.threads i (afterFailure purpose)⟩
      match refresh env w.db (x.call r.session.unitId r.session.refresh) with
      | .error _ => { w with process := .running failed }
      | .ok (response, db) =>
        { w with
          db := db
          process :=
            if x.delivered then
              .running ⟨r.session, .answered i purpose response, r.threads⟩
            else .running failed }
    | _ => w
  | _ => w

def unreachable (w : World) : World :=
  match w.process with
  | .resuming previous _ => { w with process := .resuming previous true }
  | .running r =>
    match r.lock with
    | .requested i purpose =>
      { w with
        process := .running ⟨r.session, .free, release r.threads i (afterFailure purpose)⟩ }
    | _ => w
  | _ => w

def install (w : World) (now : Int) : World :=
  match w.process with
  | .running r =>
    match r.lock with
    | .answered i purpose response =>
      { w with
        process := .running ⟨r.session.renewed response now, .free,
          release r.threads i (afterRefresh purpose)⟩ }
    | _ => w
  | _ => w

/-- A start that cannot save its first session ends; `reconnectLoop` goes
on without. -/
def settle (w : World) (unitId : String) (now : Int) (result : Written) : World :=
  match w.process with
  | .resumed previous offline response =>
    let assetId := if offline && previous.assetId = "" then unitId else previous.assetId
    let session := sessionOf response assetId now
    { w with
      file := if result.replaced then some session.persisted else w.file
      process :=
        if offline || result.ok then .running ⟨session, .free, loops⟩
        else .down }
  | _ => w

def actStep (w : World) (i : Nat) (a : Act) : World :=
  match w.process with
  | .running r =>
    match r.threads[i]? with
    | some t =>
      let moved := act r i t a
      { w with
        file := moved.written.or w.file
        process := .running ⟨r.session, moved.lock,
          r.threads.set i { t with phase := moved.phase }⟩ }
    | none => w
  | _ => w

def sessionStep (w : World) : Op → World
  | .start => start w
  | .exchange x => exchange env w x
  | .unreachable => unreachable w
  | .install now => install w now
  | .settle unitId now result => settle w unitId now result
  | .act i a => actStep w i a
  | .crash => { w with process := .down }
  | .restartBrain now => { w with db := invalidateAccessTokens w.db now }

end Steps

end YuFeng.EdgeSession

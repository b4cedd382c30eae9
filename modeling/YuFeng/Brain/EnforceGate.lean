import YuFeng.Brain.Evidence

/-!
# The gate before enforcement

Operators and the scheduler promote releases, the guard closes windows, units
send heartbeats and operators send feedback, in any order.  A release that
goes from canary to enforce should be old enough, have enough canary requests,
no feedback and no open bad window when the change commits.

The scheduler does not ask for feedback, no promotion asks for the guard, and
all questions are asked before the transaction.  The gate holds along runs in
which promotions start with no feedback and no bad window left and nothing
moves the evidence of a release while a promotion of it is on its way.
-/

namespace YuFeng.Brain

open YuFeng.Library YuFeng.Kernel

variable {releaseId : String} {s : Plane} {cfg : Settings} {change : Change}

/-! ## The control plane -/

structure Plane where
  db : Governance
  clock : Int
  attempts : Table Nat Attempt

inductive PlaneOp where
  | tick (d : Nat)
  | start (id : Nat) (task : Task) (releaseId : String)
  | advance (id : Nat) (genId : String → String)
  | heartbeat (msg : HeartbeatRequest)
  | deny (releaseId eventId actor : String)
  /-- A proposal, a setting or another change of a release. -/
  | change (change : Change)

def Action.settle (cfg : Settings) (now : Int) (genId : String → String)
    (reads : Reads) (db : Governance) (action : Action) : Governance :=
  match action.decision cfg now genId reads with
  | some (.ok w) => (commitReleaseChange w db).toOption.getD db
  | _ => db

def Plane.advance (cfg : Settings) (s : Plane) (id : Nat) (genId : String → String) : Plane :=
  match s.attempts.find? id with
  | none => s
  | some attempt =>
    match attempt.program with
    | [] => s
    | action :: rest =>
      let seen := action.observe cfg s.clock s.db attempt.releaseId attempt.reads
      { s with
        db := action.settle cfg s.clock genId seen.1 seen.2
        attempts := s.attempts.set id { attempt with program := rest, reads := seen.1 } }

def Change.promotes : Change → Bool
  | .commit w => w.rel.state.guarded
  | _ => false

def Plane.step (cfg : Settings) (s : Plane) : PlaneOp → Plane
  | .tick d => { s with clock := s.clock + d }
  | .start id task releaseId =>
    { s with
      attempts := s.attempts.set id { releaseId := releaseId, program := task.program } }
  | .advance id genId => s.advance cfg id genId
  | .heartbeat msg =>
    { s with db := (Brain.heartbeat msg s.db).toOption.getD s.db }
  | .deny releaseId eventId actor =>
    { s with db := (denyFeedback releaseId eventId actor s.db).toOption.getD s.db }
  | .change change =>
    if change.promotes then s
    else { s with db := change.step s.db }

def Plane.initial (units : Table String Nat)
    (unitAssets : List (String × String)) (clock : Int) : Plane where
  db := { units := units, unitAssets := unitAssets }
  clock := clock
  attempts := .empty

def Promotion.enforces : Promotion → Bool
  | .manualEnforce | .autoEnforce => true
  | _ => false

def Action.enforces : Action → Bool
  | .promote promotion => promotion.enforces
  | _ => false

def Attempt.enforcing (attempt : Attempt) : Bool := attempt.program.any Action.enforces

def Plane.enforcing (s : Plane) (releaseId : String) : Bool :=
  s.attempts.rows.any fun row =>
    row.2.releaseId = releaseId && row.2.enforcing

def Plane.windowsGood (s : Plane) (releaseId : String) : Bool :=
  (s.db.guards.find? releaseId).all (·.consecutiveBad = 0)

/-- The step of an attempt does not move evidence under a promotion. -/
def Action.calm (cfg : Settings) (reads : Reads) : Action → Bool
  | .promote promotion => promotion.enforces
  | .recordWindow =>
    reads.state.isNone || reads.nextConsecutive cfg.denyThreshold = 0
  | _ => true

def PlaneOp.calm (cfg : Settings) (s : Plane) : PlaneOp → Bool
  | .start _ (.promotion .manualEnforce) releaseId => s.windowsGood releaseId
  | .start _ (.promotion .autoEnforce) releaseId =>
    s.windowsGood releaseId && countDenies s.db releaseId = 0
  | .advance id _ =>
    (s.attempts.find? id).all fun attempt =>
      !s.enforcing attempt.releaseId || attempt.program.head?.all (·.calm cfg attempt.reads)
  | .heartbeat msg =>
    msg.releaseCounters.all fun c => !s.enforcing c.releaseId ||
      (s.db.counters.find? (msg.unitId, c.releaseId)).all fun stored =>
        !stored.restarts (c.row msg.generation)
  | .deny releaseId _ _ => !s.enforcing releaseId
  | _ => true

/-! ## What a step leaves as it is -/

structure Steady (releaseId : String) (s s' : Plane) : Prop where
  clock : s.clock ≤ s'.clock
  canary : ∀ row, s'.db.releases.find? releaseId = some row →
    row.state = .canary → s.db.releases.find? releaseId = some row
  requests : sumCounters s.db releaseId .canary ≤ sumCounters s'.db releaseId .canary
  denies : countDenies s'.db releaseId = countDenies s.db releaseId
  windows : s.windowsGood releaseId = true → s'.windowsGood releaseId = true

theorem Steady.of_db {s'} (clock : s.clock ≤ s'.clock) (db : s'.db = s.db) :
    Steady releaseId s s' := by
  have windows : s'.windowsGood = s.windowsGood := by
    funext id
    rw [Plane.windowsGood, Plane.windowsGood, db]
  refine ⟨clock, ?_, ?_, ?_, ?_⟩
  · rw [db]
    exact fun row found _ => found
  · exact Nat.le_of_eq (sumCounters_congr (congrArg _ db) ..).symm
  · rw [db]
  · rw [windows]
    exact id

end YuFeng.Brain

import YuFeng.Brain.EnforceRuns
import YuFeng.Brain.Isolation

/-!
# Histories that differ in one unit

A history is a list of events: heartbeats, feedback, committed changes, the
passing of time, and attempts that ask their queries one by one.  What an
attempt decides is written down; the change that follows from a decision is
an event of its own, so two histories that differ only in heartbeats have the
same changes.

No query and no heartbeat looks at the assets of a unit.  The evidence about
a release is therefore independent of a unit only as long as the unit does
not report the release.
-/

namespace YuFeng.Brain

open YuFeng.Library YuFeng.Kernel List Table

variable {a a' : Attempt} {id : Nat}

structure Account where
  plane : Plane
  /-- The release of an attempt, and what the attempt decided. -/
  decisions : List (String × Except RpcError ReleaseWrite)

def Account.decisionsOf (s : Account) (releaseId : String) :
    List (String × Except RpcError ReleaseWrite) :=
  s.decisions.filter (·.1 = releaseId)

def Account.advance (cfg : Settings) (s : Account) (id : Nat) (genId : String → String) : Account :=
  match s.plane.attempts.find? id with
  | none => s
  | some attempt =>
    match attempt.program with
    | [] => s
    | action :: rest =>
      let seen := action.observe cfg s.plane.clock s.plane.db attempt.releaseId attempt.reads
      let decision := action.decision cfg s.plane.clock genId seen.1
      { plane := { s.plane with
          db := seen.2
          attempts := s.plane.attempts.set id { attempt with program := rest, reads := seen.1 } }
        decisions := s.decisions ++ (decision.map fun d => (attempt.releaseId, d)).toList }

def Account.step (cfg : Settings) (s : Account) : PlaneOp → Account
  | .advance id genId => s.advance cfg id genId
  | .change change =>
    { s with plane := { s.plane with db := change.step s.plane.db } }
  | op => { s with plane := s.plane.step cfg op }

def Governance.serves (db : Governance) (unitId releaseId : String) : Bool :=
  (releaseAssetIDs db releaseId).any fun assetId =>
    db.unitAssets.contains (unitId, assetId)

def PlaneOp.sentBy (unitId : String) : PlaneOp → Bool
  | .heartbeat msg => msg.unitId = unitId
  | _ => false

def PlaneOp.quiet (unitId releaseId : String) : PlaneOp → Bool
  | .heartbeat msg => msg.unitId ≠ unitId || msg.releaseCounters.all (·.releaseId ≠ releaseId)
  | _ => true

/-- The evidence about a release and the decisions on it are the same. -/
structure Unaffected (releaseId : String) (s s' : Account) : Prop where
  sums : ∀ mode exclude, sumCountersExcept s.plane.db releaseId mode exclude =
      sumCountersExcept s'.plane.db releaseId mode exclude
  totals : ∀ mode, sumCounters s.plane.db releaseId mode = sumCounters s'.plane.db releaseId mode
  guard : s.plane.db.guards.find? releaseId = s'.plane.db.guards.find? releaseId
  decisions : s.decisionsOf releaseId = s'.decisionsOf releaseId

/-! ## Unwinding -/

/-- What an attempt on another release has read does not matter. -/
def Attempt.shownTo (releaseId : String) (a : Attempt) : Attempt :=
  if a.releaseId = releaseId then a else { a with reads := {} }

structure Alike (unitId releaseId : String) (s s' : Account) : Prop where
  db : AlikeDb unitId releaseId s.plane.db s'.plane.db
  clock : s.plane.clock = s'.plane.clock
  attempts : ∀ id, (s.plane.attempts.find? id).map (·.shownTo releaseId) =
    (s'.plane.attempts.find? id).map (·.shownTo releaseId)
  decisions : s.decisionsOf releaseId = s'.decisionsOf releaseId

section Unwinding

variable {unitId releaseId : String} {s s' : Account} {cfg : Settings}

theorem shownTo_eq (h : a.shownTo releaseId = a'.shownTo releaseId) :
    a.releaseId = a'.releaseId ∧ a.program = a'.program ∧ (a.releaseId = releaseId → a = a') := by
  have fields : ∀ b : Attempt, (b.shownTo releaseId).releaseId = b.releaseId ∧
        (b.shownTo releaseId).program = b.program := by
    intro _
    rw [Attempt.shownTo]
    split <;> exact ⟨rfl, rfl⟩
  have ids : a.releaseId = a'.releaseId := by
    rw [← (fields a).1, h, (fields a').1]
  refine ⟨ids, ?_, ?_⟩
  · rw [← (fields a).2, h, (fields a').2]
  · intro here
    rwa [Attempt.shownTo, if_pos here, Attempt.shownTo, if_pos (ids ▸ here)] at h

theorem observe_foreign {id} (other : id ≠ releaseId) (now) (db : Governance) (reads)
    (action : Action) :
    (action.observe cfg now db id reads).2.core = db.core ∧
      (action.observe cfg now db id reads).2.counters = db.counters ∧
      (action.observe cfg now db id reads).2.units = db.units ∧
      (action.observe cfg now db id reads).2.guards.find? releaseId =
        db.guards.find? releaseId := by
  cases action with
  | ask | promote | rollback => exact ⟨rfl, rfl, rfl, rfl⟩
  | recordWindow =>
    rw [Action.observe]
    split
    · exact ⟨rfl, rfl, rfl, rfl⟩
    · exact ⟨rfl, rfl, rfl, find?_set_of_ne (Ne.symm other) ..⟩

theorem observe_own {db db'} (h : AlikeDb unitId releaseId db db') (now reads) (action : Action) :
    (action.observe cfg now db releaseId reads).1 = (action.observe cfg now db' releaseId reads).1 ∧
      AlikeDb unitId releaseId (action.observe cfg now db releaseId reads).2
        (action.observe cfg now db' releaseId reads).2 := by
  cases action with
  | ask query => exact ⟨answer_alike h cfg.demo now reads query, h⟩
  | promote | rollback => exact ⟨rfl, h⟩
  | recordWindow =>
    rw [Action.observe, Action.observe]
    split
    · exact ⟨rfl, h⟩
    · exact ⟨rfl, window_alike h fun _ => rfl⟩

theorem set_attempts {attempts attempts' : Table Nat Attempt}
    (h : ∀ id, (attempts.find? id).map (·.shownTo releaseId) =
      (attempts'.find? id).map (·.shownTo releaseId))
    (same : a.shownTo releaseId = a'.shownTo releaseId) (other : Nat) :
    ((attempts.set id a).find? other).map (·.shownTo releaseId) =
      ((attempts'.set id a').find? other).map (·.shownTo releaseId) := by
  by_cases here : other = id
  · subst here
    rw [find?_set_self, find?_set_self, Option.map_some, Option.map_some, same]
  · rw [find?_set_of_ne here, find?_set_of_ne here]
    exact h other

def Account.acted (cfg : Settings) (s : Account) (id : Nat) (a : Attempt)
    (action : Action) (rest : List Action) (genId : String → String) :
    Account :=
  let seen := action.observe cfg s.plane.clock s.plane.db a.releaseId a.reads
  { plane := { s.plane with
      db := seen.2
      attempts := s.plane.attempts.set id { a with program := rest, reads := seen.1 } }
    decisions := s.decisions ++ ((action.decision cfg s.plane.clock genId seen.1).map
        fun d => (a.releaseId, d)).toList }

theorem acted_own {action rest} {genId : String → String} (h : Alike unitId releaseId s s')
    (own : a.releaseId = releaseId) :
    Alike unitId releaseId (s.acted cfg id a action rest genId)
      (s'.acted cfg id a action rest genId) := by
  subst own
  obtain ⟨reads, db⟩ := @observe_own unitId a.releaseId cfg _ _ h.db s.plane.clock a.reads action
  rw [Account.acted, Account.acted, ← h.clock, reads]
  refine ⟨db, h.clock, set_attempts h.attempts rfl, ?_⟩
  rw [Account.decisionsOf, Account.decisionsOf, filter_append, filter_append]
  exact congrArg (· ++ _) h.decisions

theorem acted_foreign {action rest} {genId : String → String} (h : Alike unitId releaseId s s')
    (other : a.releaseId ≠ releaseId) (same : a.releaseId = a'.releaseId) :
    Alike unitId releaseId (s.acted cfg id a action rest genId)
      (s'.acted cfg id a' action rest genId) := by
  have other' : a'.releaseId ≠ releaseId := same ▸ other
  obtain ⟨core, counters, units, guard⟩ := @observe_foreign releaseId cfg
    _ other s.plane.clock s.plane.db a.reads action
  obtain ⟨core', counters', units', guard'⟩ := @observe_foreign releaseId
    cfg _ other' s'.plane.clock s'.plane.db a'.reads action
  have silent : ∀ (id : String) (decision : Option (Except RpcError ReleaseWrite)), id ≠ releaseId →
        (decision.map fun d => (id, d)).toList.filter (·.1 = releaseId) = [] := by
    intro _ decision different
    cases decision with
    | none => rfl
    | some => simp [different]
  refine ⟨?_, h.clock, set_attempts h.attempts ?_, ?_⟩
  · exact h.db.of_core (core.trans (h.db.core.trans core'.symm)) counters
      counters' units units' (guard.trans (h.db.guard.trans guard'.symm))
  · rw [Attempt.shownTo, if_neg other, Attempt.shownTo, if_neg other']
    simp [same]
  · rw [Account.decisionsOf, Account.decisionsOf, Account.acted,
      Account.acted, filter_append, filter_append,
      silent _ _ other, silent _ _ other', append_nil, append_nil]
    exact h.decisions

theorem advance_alike (h : Alike unitId releaseId s s') (id : Nat) (genId : String → String) :
    Alike unitId releaseId (s.advance cfg id genId) (s'.advance cfg id genId) := by
  have attempts := h.attempts id
  unfold Account.advance
  cases found : s.plane.attempts.find? id with
  | none =>
    cases found' : s'.plane.attempts.find? id with
    | none => exact h
    | some =>
      rw [found, found'] at attempts
      contradiction
  | some a =>
    cases found' : s'.plane.attempts.find? id with
    | none =>
      rw [found, found'] at attempts
      contradiction
    | some =>
      rw [found, found', Option.map_some, Option.map_some, Option.some.injEq] at attempts
      obtain ⟨ids, programs, own⟩ := shownTo_eq attempts
      dsimp only
      rw [← programs]
      cases a.program with
      | nil => exact h
      | cons =>
        by_cases here : a.releaseId = releaseId
        · rw [← own here]
          exact acted_own h here
        · exact acted_foreign h here ids

theorem step_silent {op} (sent : op.sentBy unitId = true) (quiet : op.quiet unitId releaseId = true)
    (h : Alike unitId releaseId s s') : Alike unitId releaseId (s.step cfg op) s' := by
  cases op with
  | heartbeat msg =>
    have own : msg.unitId = unitId := by simpa [PlaneOp.sentBy] using sent
    refine ⟨heartbeat_silent h.db own ?_, h.clock, h.attempts, h.decisions⟩
    simpa [PlaneOp.quiet, own] using quiet
  | _ => contradiction

theorem step_alike {op : PlaneOp} (sent : op.sentBy unitId = false)
    (h : Alike unitId releaseId s s') :
    Alike unitId releaseId (s.step cfg op) (s'.step cfg op) := by
  cases op with
  | tick d =>
    exact ⟨h.db, congrArg (· + (d : Int)) h.clock, h.attempts, h.decisions⟩
  | start =>
    exact ⟨h.db, h.clock, set_attempts h.attempts rfl, h.decisions⟩
  | advance id genId => exact advance_alike h id genId
  | heartbeat msg =>
    have foreign : msg.unitId ≠ unitId := by
      simpa [PlaneOp.sentBy] using sent
    exact ⟨heartbeat_alike h.db foreign, h.clock, h.attempts, h.decisions⟩
  | deny release eventId actor =>
    exact ⟨deny_alike h.db release eventId actor, h.clock, h.attempts, h.decisions⟩
  | change change =>
    exact ⟨change_alike h.db change, h.clock, h.attempts, h.decisions⟩

theorem run_alike {ops} (cfg) (unreported : s.plane.db.counters.find? (unitId, releaseId) = none)
    (quiet : ∀ op ∈ ops, op.quiet unitId releaseId = true) :
    Alike unitId releaseId (run (Account.step cfg) s ops)
      (run (Account.step cfg) s (ops.filter (!PlaneOp.sentBy unitId ·))) := by
  refine run_unwind (Account.step cfg) ?_ ?_ ?_
  · intro op present sent _ _ alike
    exact step_silent sent (quiet op present) alike
  · intro _ _ sent _ _ alike
    exact step_alike sent alike
  · exact ⟨⟨rfl, rfl, rfl, rfl, fun _ _ => rfl, unreported⟩, rfl, fun _ => rfl, rfl⟩

end Unwinding

/-- Two histories that differ only in the heartbeats of a unit leave the
same evidence about a release and the same decisions on it, if the unit has
not reported the release and does not. -/
theorem unaffected_of_quiet (cfg : Settings) {unitId releaseId : String}
    {s : Account} {first second : List PlaneOp}
    (unreported : s.plane.db.counters.find? (unitId, releaseId) = none)
    (differ : first.filter (!PlaneOp.sentBy unitId ·) = second.filter (!PlaneOp.sentBy unitId ·))
    (quiet : ∀ op ∈ first ++ second, op.quiet unitId releaseId = true) :
    Unaffected releaseId (run (Account.step cfg) s first) (run (Account.step cfg) s second) := by
  have left := run_alike cfg unreported fun op present =>
    quiet op (mem_append_left second present)
  have right := run_alike cfg unreported fun op present =>
    quiet op (mem_append_right first present)
  rw [differ] at left
  have counters := left.db.countersOf.trans right.db.countersOf.symm
  refine ⟨?_, ?_, left.db.guard.trans right.db.guard.symm,
    left.decisions.trans right.decisions.symm⟩
  · intro _ _
    rw [sumCountersExcept, sumCountersExcept, counters]
  · intro _
    rw [sumCounters, sumCounters, counters]

/-! ## A unit of another asset -/

def blogUnit : Account where
  plane := Plane.initial .empty [("edge-9", "blog"), ("edge-1", "shop")] 0
  decisions := []

def policyHistory (heartbeats : List PlaneOp) : List PlaneOp :=
  policyShadow ++ [.change (keyedWrite (.canary "rel1" exactPolicy 25) false "" 0)] ++
    heartbeats ++ [.tick 3600] ++ attemptOps 2 .autoEnforce

def blogReport (releaseId : String) : PlaneOp :=
  .heartbeat {
    unitId := "edge-9"
    generation := 1
    releaseCounters := [{ releaseId := releaseId, mode := .canary, requests := 1000 }] }

/-- A unit of the blog reports canary requests of the shop, and the scheduler
decides to enforce the release. -/
theorem unaffected_foreign_report :
    let without := run (Account.step gateSettings) blogUnit (policyHistory [])
    let reported := run (Account.step gateSettings) blogUnit (policyHistory [blogReport "rel1"])
    reported.plane.db.serves "edge-9" "rel1" = false ∧
      sumCounters without.plane.db "rel1" .canary = 0 ∧
      sumCounters reported.plane.db "rel1" .canary = 1000 ∧
      (without.decisionsOf "rel1").map (·.2.isOk) = [false] ∧
      (reported.decisionsOf "rel1").map (·.2.isOk) = [true] ∧
      ¬ Unaffected "rel1" without reported := by
  have none : sumCounters (run (Account.step gateSettings) blogUnit
      (policyHistory [])).plane.db "rel1" .canary = 0 := by
    decide +kernel
  have some : sumCounters (run (Account.step gateSettings) blogUnit
      (policyHistory [blogReport "rel1"])).plane.db "rel1" .canary =
        1000 := by
    decide +kernel
  refine ⟨by decide +kernel, none, some, by decide +kernel, by decide +kernel, ?_⟩
  intro same
  have equal := same.totals .canary
  rw [none, some] at equal
  contradiction

theorem unaffected_own_report : (run (Account.step gateSettings) blogUnit
        (policyHistory [blogReport "rel2"])).plane.db.counters.rows.length = 1 ∧
      Unaffected "rel1" (run (Account.step gateSettings) blogUnit (policyHistory []))
        (run (Account.step gateSettings) blogUnit (policyHistory [blogReport "rel2"])) := by
  refine ⟨by decide +kernel, ?_⟩
  refine @unaffected_of_quiet gateSettings "edge-9" "rel1" _ _ _ (by decide +kernel) rfl ?_
  decide +kernel

end YuFeng.Brain

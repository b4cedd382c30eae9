import YuFeng.Brain.Supersede

/-!
# The audit log of release changes

The transaction that changes a release appends one entry to the audit log,
under the action that its caller gives and about the release that it writes.
The scheduler promotes without an action, and no entry is appended then; a
release that is retired because another one supersedes it has no entry of its
own.

Entries are chained by their hashes; the hash of an entry is a parameter.
The log is a table of its own, so it does not matter that the program appends
to it before the generations are published.
-/

namespace YuFeng.Brain

open YuFeng.Library YuFeng.Kernel Table

variable {hash : AuditEntry → String} {w : AuditedWrite} {s s' : Records}
  {db db' : Governance} {id : String} {a : Artifact}

inductive Detail where
  | text (value : String)
  | number (value : Int)
  | flag (value : Bool)
  deriving DecidableEq

structure AuditEntry where
  occurredAt : Int
  actorType : String
  actorId : String
  action : String
  objectType : String
  objectId : String
  details : List (String × Detail)
  previousHash : String
  entryHash : String := ""
  deriving DecidableEq

def appendAuditTx (hash : AuditEntry → String) (now : Int)
    (actorType actorId action objectType objectId : String)
    (details : List (String × Detail)) (entries : List AuditEntry) :
    List AuditEntry :=
  let entry : AuditEntry :=
    { occurredAt := now
      actorType := actorType
      actorId := actorId
      action := action
      objectType := objectType
      objectId := objectId
      details := details
      previousHash := (entries.getLast?.map (·.entryHash)).getD "" }
  entries ++ [{ entry with entryHash := hash entry }]

structure AuditedWrite extends ReleaseWrite where
  actorType : String := ""
  actorId : String := ""
  action : String := ""
  details : List (String × Detail) := []

structure Records where
  db : Governance := {}
  audit : List AuditEntry := []

def AuditedWrite.record (hash : AuditEntry → String) (w : AuditedWrite)
    (entries : List AuditEntry) : List AuditEntry :=
  if w.action = "" then entries
  else appendAuditTx hash w.now w.actorType w.actorId w.action "release" w.rel.id w.details entries

def AuditedWrite.commit (hash : AuditEntry → String) (w : AuditedWrite)
    (s : Records) : Except RpcError Records := do
  let db ← commitReleaseChange w.toReleaseWrite s.db
  return { db := db, audit := w.record hash s.audit }

/-! ## Callers -/

structure Env where
  signing : Option Signing
  now : Int
  genId : String → String

/-- The callers of the transactions that write releases. -/
inductive ReleaseCall where
  | propose (p : Proposal)
  | gate (actorType actorId releaseId : String) (signed : Artifact) (corpusRef : String)
  | startShadow (actorType actorId releaseId : String) (a : Artifact)
  | promoteCanary (userId releaseId : String) (a : Artifact) (percent : Int)
  | promoteEnforce (userId releaseId : String) (a : Artifact)
  | autoCanary (releaseId : String) (a : Artifact) (percent : Int)
  | autoEnforce (releaseId : String) (a : Artifact)
  | rollback (userId releaseId : String) (a : Artifact)
  | retire (userId releaseId : String) (a : Artifact)
  /-- The end of the lifetime, or too many bad windows. -/
  | schedulerRetire (releaseId : String) (a : Artifact) (reason : RetireReason)
  | proposeCatalog (p : Proposal)
  | signCatalog (userId releaseId : String) (signed : Artifact)
  | activateCatalog (userId releaseId : String) (a : Artifact)
  | revokeCatalog (userId releaseId : String) (a : Artifact)

def RetireReason.enumText : RetireReason → String
  | .unspecified => "RETIRE_REASON_UNSPECIFIED"
  | .rollback => "RETIRE_REASON_ROLLBACK"
  | .manual => "RETIRE_REASON_MANUAL"
  | .ttl => "RETIRE_REASON_TTL"
  | .superseded => "RETIRE_REASON_SUPERSEDED"
  | .hardExpired => "RETIRE_REASON_HARD_EXPIRED"

def retireReleaseAudit (env : Env) (releaseId : String) (a : Artifact)
    (reason : RetireReason) (actorType actorId action : String) :
    AuditedWrite where
  rel := .retired releaseId a reason
  feed := true
  retired := true
  reason := reason
  signing := env.signing
  now := env.now
  genId := env.genId
  actorType := actorType
  actorId := actorId
  action := action
  details := [("reason", .text reason.enumText)]

def catalogWrite (env : Env) (rel : Release) (a : Artifact)
    (retired : Bool) (reason : RetireReason) (userId action : String) :
    AuditedWrite where
  rel := rel
  feed := false
  retired := retired
  reason := reason
  signing := none
  now := env.now
  genId := env.genId
  actorType := "user"
  actorId := userId
  action := action
  details := [("artifact_id", .text a.id), ("kind", .text a.kind.text)]

def ReleaseCall.write (env : Env) : ReleaseCall → Option AuditedWrite
  | .gate actorType actorId releaseId signed corpusRef =>
    some {
      rel := .signed releaseId signed
      feed := false
      signing := env.signing
      now := env.now
      genId := env.genId
      actorType := actorType
      actorId := actorId
      action := "release.gate"
      details := [("corpus_ref", .text corpusRef), ("passed", .flag true)] }
  | .startShadow actorType actorId releaseId a =>
    some {
      rel := .shadow releaseId a
      feed := true
      signing := env.signing
      now := env.now
      genId := env.genId
      actorType := actorType
      actorId := actorId
      action := "release.start_shadow" }
  | .promoteCanary userId releaseId a percent =>
    some {
      rel := .canary releaseId a percent
      feed := true
      signing := env.signing
      now := env.now
      genId := env.genId
      actorType := "user"
      actorId := userId
      action := "release.promote_canary"
      details := [("canary_percent", .number percent)] }
  | .promoteEnforce userId releaseId a =>
    some {
      rel := .enforce releaseId a
      feed := true
      supersedeArtifact := a.supersedes
      signing := env.signing
      now := env.now
      genId := env.genId
      actorType := "user"
      actorId := userId
      action := "release.promote_enforce" }
  | .autoCanary releaseId a percent =>
    some {
      rel := .canary releaseId a percent
      feed := true
      signing := env.signing
      now := env.now
      genId := env.genId }
  | .autoEnforce releaseId a =>
    some {
      rel := .enforce releaseId a
      feed := true
      signing := env.signing
      now := env.now
      genId := env.genId }
  | .rollback userId releaseId a =>
    some (retireReleaseAudit env releaseId a .rollback "user" userId "release.rollback")
  | .retire userId releaseId a =>
    some (retireReleaseAudit env releaseId a .manual "user" userId "release.retire")
  | .schedulerRetire releaseId a reason =>
    some (retireReleaseAudit env releaseId a reason "system" "scheduler" "release.retire")
  | .signCatalog userId releaseId signed =>
    some (catalogWrite env (.signed releaseId signed) signed false
      .unspecified userId "catalog.sign")
  | .activateCatalog userId releaseId a =>
    some (catalogWrite env (.shadow releaseId a) a false .unspecified userId "catalog.activate")
  | .revokeCatalog userId releaseId a =>
    some (catalogWrite env (.retired releaseId a .manual) a true .manual userId "catalog.revoke")
  | .propose _ | .proposeCatalog _ => none

def ReleaseCall.draft : ReleaseCall → Option (Proposal × String × List (String × Detail))
  | .propose p =>
    some (p, "release.propose", [("created_by", .text p.createdBy)])
  | .proposeCatalog p =>
    some ({ p with assetIds := [] }, "catalog.propose", [("kind", .text p.artifact.kind.text),
        ("payload_schema", .text p.artifact.payloadSchema)])
  | _ => none

def ReleaseCall.commit (hash : AuditEntry → String) (env : Env)
    (call : ReleaseCall) (s : Records) : Except RpcError Records :=
  match call.write env, call.draft with
  | some w, _ => w.commit hash s
  | none, some (p, action, details) => do
      let db ← Brain.propose p s.db
      return { db := db
               audit := appendAuditTx hash p.now "user" p.createdBy action
                 "release" p.releaseId details s.audit }
  | none, none => .ok s

/-! ## Audited transactions -/

def actionState (action : String) : Option ReleaseState :=
  if action = "release.propose" ∨ action = "catalog.propose" then
    some .draft
  else if action = "release.gate" ∨ action = "catalog.sign" then
    some .signed
  else if action = "release.start_shadow" ∨ action = "catalog.activate" then
    some .shadow
  else if action = "release.promote_canary" then some .canary
  else if action = "release.promote_enforce" then some .enforce
  else if action = "release.rollback" ∨ action = "release.retire" ∨ action = "catalog.revoke" then
    some .retired
  else none

def AuditEntry.names (entry : AuditEntry) (releaseId : String) (state : ReleaseState) : Bool :=
  entry.objectType = "release" && entry.objectId = releaseId &&
    actionState entry.action = some state

def Governance.stateOf (db : Governance) (releaseId : String) : Option ReleaseState :=
  (db.releases.find? releaseId).map (·.state)

/-- Each release whose state is another one afterwards is named, with that
state, by an entry that was appended. -/
def Audited (s s' : Records) : Prop :=
  ∀ releaseId state, s'.db.stateOf releaseId = some state → s.db.stateOf releaseId ≠ some state →
    ∃ entry ∈ s'.audit.drop s.audit.length, entry.names releaseId state = true

/-- The call repeats a promotion, or it names what it changes and retires no
other release. -/
def ReleaseCall.accounted (env : Env) (db : Governance) : ReleaseCall → Bool
  | .autoCanary releaseId _ _ => db.stateOf releaseId = some .canary
  | .autoEnforce releaseId _ => db.stateOf releaseId = some .enforce
  | .promoteEnforce _ releaseId a =>
    a.supersedes = "" || (db.lastLive env.now releaseId a).isNone
  | _ => true

theorem commit_audited (h : w.commit hash s = .ok s') :
    commitReleaseChange w.toReleaseWrite s.db = .ok s'.db ∧ s'.audit = w.record hash s.audit := by
  simp only [AuditedWrite.commit, seq_ok, pure_ok] at h
  obtain ⟨_, committed, rfl⟩ := h
  exact ⟨committed, rfl⟩

theorem record_names (hash : AuditEntry → String) (w : AuditedWrite) (entries : List AuditEntry)
    (releaseId state) :
    (∃ entry ∈ (w.record hash entries).drop entries.length, entry.names releaseId state = true) ↔
      w.action ≠ "" ∧ w.rel.id = releaseId ∧ actionState w.action = some state := by
  unfold AuditedWrite.record
  split
  next unnamed => simp [unnamed]
  next named => simp [appendAuditTx, AuditEntry.names, named]

theorem commit_stateOf {w} (alone : w.supersedeArtifact = "")
    (h : commitReleaseChange w db = .ok db') (releaseId) :
    db'.stateOf releaseId =
      if releaseId = w.rel.id then some w.rel.state
      else db.stateOf releaseId := by
  obtain ⟨_, _, _, -, wrote, releases, -⟩ := commit_tables h
  unfold Governance.stateOf
  rw [releases, ReleaseWrite.retireOld, if_pos alone]
  split
  next own => rw [own, find?_set_self, Option.map_some, write_state wrote]
  next other => rw [find?_set_of_ne other]

theorem enforce_stateOf {w} (enforces : w.rel = .enforce id a)
    (supersedes : w.supersedeArtifact = a.supersedes) (declared : a.supersedes ≠ "")
    (h : commitReleaseChange w db = .ok db') {old} (picked : db.lastLive w.now id a = some old) :
    db'.stateOf old = some .retired ∧ db.stateOf old ≠ some .retired := by
  have releases := (commit_enforcing enforces h).1
  obtain ⟨entry, live, rfl⟩ := Option.map_eq_some_iff.mp picked
  have chosen := List.mem_filter.mp (highest_mem live)
  have present := mem_iff_find?.mp chosen.1
  constructor
  · unfold Governance.stateOf
    rw [releases, ReleaseWrite.retireOld, supersedes, if_neg declared,
      supersede_find?, live, present, Option.map_some, if_pos rfl]
    rfl
  · intro retired
    obtain ⟨_, found, state⟩ := Option.map_eq_some_iff.mp retired
    by_cases own : entry.1 = id
    · obtain ⟨row, _, written, allowed, -⟩ := commit_tables h
      rw [enforces] at written allowed
      rw [own, show db.releases.find? id = some row from written] at found
      cases found
      rw [state] at allowed
      cases allowed
    · rw [enforcing_find?_of_ne own, found] at present
      cases present
      have alive := chosen.2
      simp [state, ReleaseState.live] at alive

theorem enforce_stateOf_alone {w} (enforces : w.rel = .enforce id a)
    (supersedes : w.supersedeArtifact = a.supersedes) (h : commitReleaseChange w db = .ok db')
    (alone : db.lastLive w.now id a = none) (releaseId) :
    db'.stateOf releaseId =
      if releaseId = w.rel.id then some w.rel.state
      else db.stateOf releaseId := by
  have kept : w.retireOld (db.enforcing w.now id a) = db.enforcing w.now id a := by
    rw [ReleaseWrite.retireOld, supersedes, supersede, Option.map_eq_none_iff.mp alone]
    exact ite_self _
  obtain ⟨row, _, found, -⟩ := commit_tables h
  have releases := (commit_enforcing enforces h).1
  rw [enforces] at found ⊢
  unfold Governance.stateOf
  rw [releases, kept]
  split
  next own =>
    rw [own, Governance.enforcing, show db.releases.find? id = some row from found]
    simp [Release.id, Release.state, ReleaseRow.enforcedAs]
  next other => rw [enforcing_find?_of_ne (show releaseId ≠ id from other)]

theorem audited_of_states (h : w.commit hash s = .ok s')
    (states : ∀ releaseId, s'.db.stateOf releaseId = if releaseId = w.rel.id then some w.rel.state
      else s.db.stateOf releaseId) :
    Audited s s' ↔ s.db.stateOf w.rel.id = some w.rel.state ∨
      w.action ≠ "" ∧ actionState w.action = some w.rel.state := by
  have audit := (commit_audited h).2
  unfold Audited
  simp only [audit, record_names]
  constructor
  · intro audited
    by_cases same : s.db.stateOf w.rel.id = some w.rel.state
    · exact .inl same
    · obtain ⟨named, -, state⟩ := audited w.rel.id w.rel.state
        ((states w.rel.id).trans (if_pos rfl)) same
      exact .inr ⟨named, state⟩
  · intro accounted releaseId _ after changed
    rw [states releaseId] at after
    split at after
    next own =>
      cases after
      rcases accounted with same | ⟨named, action⟩
      · exact absurd (own ▸ same) changed
      · exact ⟨named, own.symm, action⟩
    · exact absurd after changed

theorem audited_alone (alone : w.supersedeArtifact = "") (h : w.commit hash s = .ok s') :
    Audited s s' ↔ s.db.stateOf w.rel.id = some w.rel.state ∨
      w.action ≠ "" ∧ actionState w.action = some w.rel.state :=
  audited_of_states h (commit_stateOf alone (commit_audited h).1)

theorem audited_enforce (enforces : w.rel = .enforce id a)
    (supersedes : w.supersedeArtifact = a.supersedes)
    (declared : a.supersedes ≠ "")
    (action : w.action = "release.promote_enforce")
    (h : w.commit hash s = .ok s') :
    Audited s s' ↔ s.db.lastLive w.now id a = none := by
  obtain ⟨committed, audit⟩ := commit_audited h
  cases picked : s.db.lastLive w.now id a with
  | none =>
    have states := enforce_stateOf_alone enforces supersedes committed picked
    refine iff_of_true ((audited_of_states h states).mpr (.inr ?_)) rfl
    simp [action, enforces, actionState, Release.state]
  | some old =>
    refine iff_of_false ?_ (by simp)
    intro audited
    obtain ⟨after, before⟩ := enforce_stateOf enforces supersedes declared committed picked
    have entry := audited old .retired after before
    rw [audit, record_names, action] at entry
    exact absurd entry.2.2 (by decide)

theorem propose_audited {p : Proposal} {action} (details)
    (drafts : actionState action = some .draft) (h : propose p s.db = .ok db) :
    Audited s { db := db
                audit := appendAuditTx hash p.now "user" p.createdBy action
                  "release" p.releaseId details s.audit } := by
  simp only [propose, seq_ok, pure_ok] at h
  obtain ⟨_, -, rfl⟩ := h
  intro releaseId _ after changed
  by_cases own : releaseId = p.releaseId
  · subst own
    rw [Governance.stateOf, find?_set_self] at after
    cases after
    simp [appendAuditTx, AuditEntry.names, drafts]
  · rw [Governance.stateOf, find?_set_of_ne own] at after
    exact absurd after changed

/-- A committed transaction names every release that it changes exactly if it
is not a promotion by the scheduler and supersedes no live release. -/
theorem audited_iff {hash : AuditEntry → String} {env : Env} {call : ReleaseCall} {s s' : Records}
    (committed : call.commit hash env s = .ok s') :
    Audited s s' ↔ call.accounted env s.db = true := by
  cases call with
  | propose =>
    simp only [ReleaseCall.commit, ReleaseCall.write, ReleaseCall.draft,
      seq_ok, pure_ok] at committed
    obtain ⟨_, proposed, rfl⟩ := committed
    exact iff_of_true (propose_audited _ (by decide) proposed) rfl
  | proposeCatalog p =>
    simp only [ReleaseCall.commit, ReleaseCall.write, ReleaseCall.draft,
      seq_ok, pure_ok] at committed
    obtain ⟨_, proposed, rfl⟩ := committed
    exact iff_of_true (propose_audited (p := { p with assetIds := [] }) _ (by decide) proposed) rfl
  | promoteEnforce _ _ a =>
    by_cases declared : a.supersedes = ""
    · rw [audited_alone declared committed]
      simp [ReleaseCall.accounted, declared, actionState, Release.state]
    · rw [audited_enforce rfl rfl declared rfl committed]
      simp [ReleaseCall.accounted, declared]
  | autoCanary | autoEnforce =>
    rw [audited_alone rfl committed]
    simp [ReleaseCall.accounted, Release.id, Release.state]
  | _ =>
    rw [audited_alone rfl committed]
    simp [ReleaseCall.accounted, actionState, Release.state, retireReleaseAudit, catalogWrite]

/-! ## Entries that are missing -/

def ReleaseCall.step (hash : AuditEntry → String) (env : Env) (s : Records)
    (call : ReleaseCall) : Records :=
  (call.commit hash env s).toOption.getD s

def auditHash (entry : AuditEntry) : String := entry.action ++ entry.objectId ++ entry.previousHash

def auditEnv : Env where
  signing := some brainKey
  now := 20
  genId := fun assetId => "gen-" ++ assetId

def watchedCalls (releaseId : String) (rule : Artifact) : List ReleaseCall :=
  [.propose {
      releaseId := releaseId
      artifact := rule
      assetIds := []
      createdBy := "ops"
      now := 10 },
    .gate "user" "ops" releaseId rule "builtin", .startShadow "user" "ops" releaseId rule]

def watchedRules : Records :=
  run (ReleaseCall.step auditHash auditEnv) {} (watchedCalls "rel1" (plainRule "rule1" "") ++
      watchedCalls "rel2" (plainRule "rule2" "rule1"))

/-- The scheduler tries the rule, or an operator enforces its successor. -/
theorem audited_unnamed :
    let tried := ReleaseCall.autoCanary "rel1" (plainRule "rule1" "") 5
    let enforced := ReleaseCall.promoteEnforce "ops" "rel2" (plainRule "rule2" "rule1")
    let step := ReleaseCall.step auditHash auditEnv watchedRules
    (step tried).db.stateOf "rel1" = some .canary ∧ ¬ Audited watchedRules (step tried) ∧
      (step enforced).db.stateOf "rel1" = some .retired ∧
      ¬ Audited watchedRules (step enforced) := by
  refine ⟨by decide +kernel, ?_, by decide +kernel, ?_⟩
  · intro audited
    exact absurd (audited "rel1" .canary (by decide +kernel)
      (by decide +kernel)) (by decide +kernel)
  · intro audited
    exact absurd (audited "rel1" .retired (by decide +kernel)
      (by decide +kernel)) (by decide +kernel)

theorem audited_promoted :
    ∃ s, (ReleaseCall.promoteCanary "ops" "rel1" (plainRule "rule1" "")
        5).commit auditHash auditEnv watchedRules = .ok s ∧
      s.db.stateOf "rel1" = some .canary ∧ Audited watchedRules s := by
  have commits : (((ReleaseCall.promoteCanary "ops" "rel1"
      (plainRule "rule1" "") 5).commit auditHash auditEnv
        watchedRules).toOption.map (·.db.stateOf "rel1")) =
      some (some .canary) := by
    decide +kernel
  cases committed : (ReleaseCall.promoteCanary "ops" "rel1"
      (plainRule "rule1" "") 5).commit auditHash auditEnv watchedRules with
  | error e =>
    rw [committed] at commits
    cases commits
  | ok s =>
    rw [committed] at commits
    exact ⟨s, rfl, Option.some.inj commits, (audited_iff committed).mpr rfl⟩

end YuFeng.Brain

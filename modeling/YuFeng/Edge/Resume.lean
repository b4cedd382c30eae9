import YuFeng.Edge.Session

/-!
# Resuming a session after a crash

The brain keeps one refresh token for a unit, and every rotation replaces it
before the edge knows the new one.  The lock of the session serialises the
rotations of the loops, so the brain always has the token of the session in
memory, or that of the answer which is still to be installed.  The session
file has it only after a save.
-/

namespace YuFeng.EdgeSession

open YuFeng.Library YuFeng.Brain

def Holds (env : Deployment) (db : Registry) (unit token : String) : Prop :=
  trimSpace token ≠ "" ∧ ∃ row, db.units.find? unit = some row ∧
    row.refreshTokenHash = env.hashToken (trimSpace token)

def Enrolled (env : Deployment) (w : World) : Prop :=
  ∃ file, w.file = some file ∧ trimSpace file.unitId ≠ "" ∧
    Holds env w.db (trimSpace file.unitId) file.refresh

def Unexpired (db : Registry) (unitId : String) (now : Int) : Prop :=
  ∀ row ∈ db.units.find? (trimSpace unitId), row.refreshExpiresAt.any (now < ·) = true

/-- The brain accepts the refresh token of the session file, whenever it is
asked before the token expires. -/
def Resumable (env : Deployment) (w : World) : Prop :=
  ∃ file, w.file = some file ∧ ∀ x : Exchange, x.admitted = true →
    Unexpired w.db file.unitId x.now →
      (refresh env w.db (x.call file.unitId file.refresh)).isOk = true

def Lock.unanswered : Lock → Bool
  | .answered _ _ _ => false
  | _ => true

def Settled (w : World) : Prop :=
  match w.process with
  | .down => True
  | .resuming _ _ => True
  | .resumed _ _ _ => False
  | .running r =>
    r.lock.unanswered = true ∧ ∀ file ∈ w.file, file.refresh = r.session.refresh

def World.offline (w : World) : Bool :=
  match w.process with
  | .resumed _ offline _ => offline
  | _ => false

/-- The edge dies only while its session is on disk, no answer of the brain
to a refresh is lost, and the first save of a start does not fail. -/
def Careful (w : World) : Op → Prop
  | .crash => Settled w
  | .exchange x => x.delivered = true
  | .settle _ _ result => w.offline = true ∨ result.replaced = true
  | _ => True

/-! ## The token that the brain holds -/

section Tokens

variable {env : Deployment} {db db' : Registry}

theorem refresh_holds {call response} (h : refresh env db call = .ok (response, db')) :
    response.unitId = trimSpace call.unitId ∧
      Holds env db' (trimSpace call.unitId) response.refreshToken := by
  simp only [refresh, require_bind_ok] at h
  obtain ⟨-, -, h⟩ := h
  split at h
  · simp at h
  · simp only [pure_ok, Prod.mk.injEq] at h
    obtain ⟨rfl, rfl⟩ := h
    refine ⟨rfl, ?_, ?_⟩
    · simp only [newSessionToken, trimSpace_hexEncode]
      apply hexEncode_ne_empty
      intro empty
      simpa using congrArg List.length empty
    · simp [newSessionToken, trimSpace_hexEncode]

theorem Holds.ne_empty {unit token} (h : Holds env db unit token) : token ≠ "" := by
  rintro rfl
  exact h.1 (by decide)

theorem Holds.invalidate {unit token} (now : Int) (h : Holds env db unit token) :
    Holds env (invalidateAccessTokens db now) unit token := by
  obtain ⟨named, row, found, digest⟩ := h
  have kept : row.refreshTokenHash ≠ "" := by
    rw [digest]
    exact env.hashToken_ne_empty _
  exact ⟨named, { row with tokenHash := "", tokenExpiresAt := some now },
    by simp [invalidateAccessTokens, found, kept], digest⟩

theorem Holds.accepted {call} (h : Holds env db (trimSpace call.unitId) call.refreshToken)
    (named : trimSpace call.unitId ≠ "") (admitted : call.admitted = true)
    (fresh : Unexpired db call.unitId call.now) : (refresh env db call).isOk = true := by
  obtain ⟨shown, row, found, digest⟩ := h
  have current := fresh row found
  have answer : ∃ result, refresh env db call = .ok result := by
    simp only [refresh, require_bind_ok, found, Option.filter_some, digest, current]
    exact ⟨_, admitted, by simp [named, shown], by simp; rfl⟩
  obtain ⟨_, answer⟩ := answer
  rw [answer]
  rfl

end Tokens

/-! ## One step -/

def Running.newest (r : Running) : String :=
  match r.lock with
  | .answered _ _ response => response.refreshToken
  | _ => r.session.refresh

/-- The loops of the unit and the token the brain has for it. -/
structure Follows (env : Deployment) (db : Registry) (unit : String)
    (r : Running) : Prop where
  named : trimSpace r.session.unitId = unit
  newest : Holds env db unit r.newest
  writing : ∀ t ∈ r.threads, ∀ snapshot, t.phase = .writing snapshot →
    trimSpace snapshot.unitId = unit

def ProcessFollows (env : Deployment) (unit : String) (w : World) : Prop :=
  match w.process with
  | .down => ∀ file ∈ w.file, Holds env w.db unit file.refresh
  | .resuming previous _ =>
    w.file = some previous ∧ Holds env w.db unit previous.refresh
  | .resumed _ _ response =>
    trimSpace response.unitId = unit ∧ Holds env w.db unit response.refreshToken
  | .running r => Follows env w.db unit r

structure Inv (env : Deployment) (unit : String) (w : World) : Prop where
  file : ∃ file, w.file = some file ∧ trimSpace file.unitId = unit
  process : ProcessFollows env unit w

section Steps

variable {env : Deployment} {unit : String} {w : World} {r : Running}

theorem act_newest (r) (i t a threads) :
    (Running.mk r.session (act r i t a).lock threads).newest = r.newest := by
  have kept : (Running.mk r.session r.lock threads).newest = r.newest := rfl
  have asked (purpose : Purpose) (free : r.lock.isFree = true) :
      (Running.mk r.session (.requested i purpose) threads).newest =
        r.newest := by
    cases lock : r.lock with
    | free | requested => simp [Running.newest, lock]
    | answered => simp [lock, Lock.isFree] at free
  cases a with
  | wake =>
    simp only [act]
    split_ifs with busy plain locked current
    all_goals first | exact kept | exact asked _ (by simpa using locked)
  | snapshot | request =>
    simp only [act]
    split_ifs <;> exact kept
  | write | answer =>
    simp only [act]
    split <;> exact kept
  | refresh =>
    simp only [act]
    split
    · split_ifs with locked
      all_goals first | exact kept | exact asked _ (by simpa using locked)
    · exact kept
  | repeated | rest => exact kept

@[simp] theorem Loop.afterEnsure_ne (loop : Loop) (snapshot) :
    loop.afterEnsure ≠ .writing snapshot := by
  unfold Loop.afterEnsure
  split <;> simp

@[simp] theorem Loop.afterSave_ne (loop : Loop) (result snapshot) :
    loop.afterSave result ≠ .writing snapshot := by
  unfold Loop.afterSave
  split <;> simp

/-- A loop writes what it has a snapshot of, and takes its snapshots from
the session. -/
theorem act_snapshot (r : Running) (i) (t : Thread) (a snapshot)
    (h : (act r i t a).written = some snapshot ∨ (act r i t a).phase = .writing snapshot) :
    t.phase = .writing snapshot ∨ snapshot = r.session.persisted := by
  cases a with
  | wake | snapshot | request | repeated | rest =>
    simp only [act] at h
    split_ifs at h <;> simp_all
  | write =>
    simp only [act] at h
    split at h <;> simp_all
  | answer | refresh =>
    simp only [act] at h
    split at h
    · split_ifs at h <;> simp_all
    · simp_all

theorem release_writing {threads i} {next : Loop → Phase}
    (quiet : ∀ loop snapshot, next loop ≠ .writing snapshot)
    (h : ∀ t ∈ threads, ∀ snapshot, t.phase = .writing snapshot →
      trimSpace snapshot.unitId = unit) :
    ∀ t ∈ release threads i next, ∀ snapshot,
      t.phase = .writing snapshot → trimSpace snapshot.unitId = unit := by
  intro _ member snapshot phase
  obtain ⟨_, found⟩ := List.getElem?_of_mem member
  rw [release, List.getElem?_modify] at found
  obtain ⟨old, before, rfl⟩ := Option.map_eq_some_iff.mp found
  split_ifs at phase
  · exact absurd phase (quiet old.loop snapshot)
  · exact h old (List.mem_of_getElem? before) snapshot phase

theorem afterFailure_ne (purpose loop snapshot) :
    afterFailure purpose loop ≠ .writing snapshot := by
  cases purpose <;> simp [afterFailure]

theorem afterRefresh_ne (purpose loop snapshot) :
    afterRefresh purpose loop ≠ .writing snapshot := by
  cases purpose <;> simp [afterRefresh]

theorem Follows.failed {db i purpose} (h : Follows env db unit r)
    (asked : r.lock = .requested i purpose) :
    Follows env db unit ⟨r.session, .free, release r.threads i (afterFailure purpose)⟩ := by
  have newest := h.newest
  simp only [Running.newest, asked] at newest
  exact ⟨h.named, newest, release_writing (afterFailure_ne purpose) h.writing⟩

theorem start_inv (h : Inv env unit w) : Inv env unit (start w) := by
  unfold start
  split
  next file process found =>
    split_ifs
    · have held := h.process
      simp only [ProcessFollows, process] at held
      exact ⟨h.file, found, held file found⟩
    · exact h
  · exact h

theorem unreachable_inv (h : Inv env unit w) : Inv env unit (unreachable w) := by
  have held := h.process
  unfold unreachable
  split
  next previous offline process =>
    simp only [ProcessFollows, process] at held
    exact ⟨h.file, held⟩
  next r process =>
    simp only [ProcessFollows, process] at held
    split
    next i purpose lock => exact ⟨h.file, held.failed lock⟩
    · exact h
  · exact h

theorem exchange_inv {x} (delivered : x.delivered = true) (h : Inv env unit w) :
    Inv env unit (exchange env w x) := by
  have held := h.process
  obtain ⟨_, found, named⟩ := h.file
  unfold exchange
  split
  next previous offline process =>
    simp only [ProcessFollows, process] at held
    split
    · exact ⟨h.file, held⟩
    next response db answer =>
      obtain ⟨unitId, token⟩ := refresh_holds answer
      have same : trimSpace previous.unitId = unit := by
        rw [Option.mem_unique held.1 found, named]
      simp only [Exchange.call, same] at unitId token
      refine ⟨h.file, ?_⟩
      simp only [ProcessFollows, delivered, if_true]
      exact ⟨by rw [unitId, ← same, trimSpace_trimSpace], token⟩
  next r process =>
    simp only [ProcessFollows, process] at held
    split
    next i purpose lock =>
      dsimp only
      split
      · exact ⟨h.file, held.failed lock⟩
      next response db answer =>
        obtain ⟨unitId, token⟩ := refresh_holds answer
        simp only [Exchange.call, held.named] at unitId token
        refine ⟨h.file, ?_⟩
        simp only [ProcessFollows, delivered, if_true]
        exact ⟨held.named, token, held.writing⟩
    · exact h
  · exact h

theorem install_inv {now} (h : Inv env unit w) : Inv env unit (install w now) := by
  have held := h.process
  unfold install
  split
  next r process =>
    simp only [ProcessFollows, process] at held
    split
    next i purpose response lock =>
      have token := held.newest
      simp only [Running.newest, lock] at token
      have newest : (r.session.renewed response now).refresh =
          response.refreshToken := by
        simp [Session.renewed, sessionOf, token.ne_empty]
      refine ⟨h.file, held.named, ?_, release_writing (afterRefresh_ne purpose) held.writing⟩
      simp only [Running.newest, newest]
      exact token
    · exact h
  · exact h

theorem Inv.held_of_settled (h : Inv env unit w) (settled : Settled w) :
    ∀ file ∈ w.file, Holds env w.db unit file.refresh := by
  have held := h.process
  intro file found
  cases process : w.process with
  | down =>
    simp only [ProcessFollows, process] at held
    exact held file found
  | resuming =>
    simp only [ProcessFollows, process] at held
    rw [Option.mem_unique found held.1]
    exact held.2
  | resumed =>
    simp only [Settled, process] at settled
  | running r =>
    simp only [ProcessFollows, process] at held
    simp only [Settled, process] at settled
    rw [settled.2 file found]
    have newest := held.newest
    cases lock : r.lock with
    | answered =>
      simp [lock, Lock.unanswered] at settled
    | _ => simpa only [Running.newest, lock] using newest

theorem Inv.restartBrain (h : Inv env unit w) (now : Int) :
    Inv env unit { w with db := invalidateAccessTokens w.db now } := by
  have held := h.process
  refine ⟨h.file, ?_⟩
  cases process : w.process with
  | down =>
    simp only [ProcessFollows, process] at held ⊢
    exact fun file found => (held file found).invalidate now
  | resuming | resumed =>
    simp only [ProcessFollows, process] at held ⊢
    exact ⟨held.1, held.2.invalidate now⟩
  | running =>
    simp only [ProcessFollows, process] at held ⊢
    exact ⟨held.named, held.newest.invalidate now, held.writing⟩

theorem loops_idle : ∀ t ∈ loops, t.phase = .idle := by
  decide

theorem settle_inv {unitId now result} (saved : w.offline = true ∨ result.replaced = true)
    (h : Inv env unit w) : Inv env unit (settle w unitId now result) := by
  have held := h.process
  unfold settle
  split
  next previous offline response process =>
    simp only [ProcessFollows, process] at held
    simp only [World.offline, process] at saved
    obtain ⟨named, token⟩ := held
    constructor
    · dsimp only
      cases result.replaced with
      | true => exact ⟨_, rfl, named⟩
      | false => exact h.file
    · simp only [ProcessFollows]
      cases goes : offline || result.ok with
      | true =>
        refine ⟨named, token, ?_⟩
        intro t member _ phase
        rw [loops_idle t member] at phase
        contradiction
      | false =>
        -- the process ends here, and its first session is on disk
        have replaced : result.replaced = true := by simp_all
        intro _ found
        simp only [replaced, if_true, Option.mem_some_iff] at found
        rw [← found]
        exact token
  · exact h

theorem actStep_inv {i a} (h : Inv env unit w) : Inv env unit (actStep w i a) := by
  have held := h.process
  unfold actStep
  split
  next r process =>
    simp only [ProcessFollows, process] at held
    split
    next t found =>
      have named : ∀ snapshot, (act r i t a).written = some snapshot ∨
          (act r i t a).phase = .writing snapshot → trimSpace snapshot.unitId = unit := by
        intro snapshot taken
        obtain phase | rfl := act_snapshot r i t a snapshot taken
        · exact held.writing t (List.mem_of_getElem? found) snapshot phase
        · exact held.named
      constructor
      · dsimp only
        cases written : (act r i t a).written with
        | none => simpa using h.file
        | some snapshot => exact ⟨snapshot, rfl, named _ (.inl written)⟩
      · refine ⟨held.named, ?_, ?_⟩
        · rw [act_newest]
          exact held.newest
        · intro t' member snapshot phase
          obtain other | rfl := List.mem_or_eq_of_mem_set member
          · exact held.writing t' other snapshot phase
          · exact named snapshot (.inr phase)
    · exact h
  · exact h

theorem sessionStep_inv (unit w op) (careful : Careful w op) (h : Inv env unit w) :
    Inv env unit (sessionStep env w op) := by
  cases op with
  | start => exact start_inv h
  | exchange => exact exchange_inv careful h
  | unreachable => exact unreachable_inv h
  | install => exact install_inv h
  | settle => exact settle_inv careful h
  | act => exact actStep_inv h
  | crash => exact ⟨h.file, h.held_of_settled careful⟩
  | restartBrain now => exact h.restartBrain now

theorem Enrolled.inv {file} (down : w.process = .down) (found : w.file = some file)
    (held : Holds env w.db (trimSpace file.unitId) file.refresh) :
    Inv env (trimSpace file.unitId) w := by
  refine ⟨⟨file, found, rfl⟩, ?_⟩
  simp only [ProcessFollows, down]
  intro _ same
  rw [← Option.mem_unique found same]
  exact held

theorem Inv.resumable (named : unit ≠ "") (h : Inv env unit w)
    (settled : Settled w) : Resumable env w := by
  obtain ⟨file, found, same⟩ := h.file
  refine ⟨file, found, ?_⟩
  intro _ admitted fresh
  have held := h.held_of_settled settled file found
  rw [← same] at held named
  exact Holds.accepted held named admitted fresh

end Steps

/-- In every state in which the edge is down, or in which it could die with
its session on disk, a started edge can resume. -/
theorem session_resumable (env : Deployment) (w : World) (ops : List Op)
    (down : w.process = .down) (enrolled : Enrolled env w)
    (meets : Meets (sessionStep env) Careful w ops)
    (settled : Settled (run (sessionStep env) w ops)) :
    Resumable env (run (sessionStep env) w ops) := by
  obtain ⟨file, found, named, held⟩ := enrolled
  have reached := run_invariant (sessionStep env) Careful
    (Inv env (trimSpace file.unitId)) (sessionStep_inv _) meets
    (Enrolled.inv down found held)
  exact reached.resumable named settled

/-! ## A rotation that is not saved -/

def thirdAccessDigest : Vector UInt8 32 :=
  #v[168, 176, 0, 227, 16, 169, 58, 246, 56, 203, 164, 6, 163, 147, 209, 70,
    72, 211, 50, 138, 45, 99, 31, 188, 10, 176, 231, 32, 217, 111, 148, 87]

def thirdRefreshDigest : Vector UInt8 32 :=
  #v[165, 47, 140, 251, 25, 254, 221, 108, 39, 66, 3, 188, 244, 70, 238,
    229, 214, 165, 224, 97, 106, 80, 213, 11, 220, 166, 5, 150, 60, 30, 202, 0]

def edgeBoot : Deployment where
  bootstrapToken := "unit-boot"
  keyID := none
  sum256 raw :=
    if raw = hexEncode (draw 128).toList then thirdAccessDigest
    else if raw = hexEncode (draw 160).toList then thirdRefreshDigest
    else unitBoot.sum256 raw

def enrolledEdge : World where
  db :=
    ⟨Table.empty.set "edge-a" ⟨false, "1", "v1", "", edgeBoot.hashToken (hexEncode (draw 0).toList),
      edgeBoot.hashToken (hexEncode (draw 32).toList), some accessTokenTTL,
      some refreshTokenTTL, none⟩, .empty, [("edge-a", "edge-a")]⟩
  file := some ⟨"edge-a", "edge-a", hexEncode (draw 0).toList, hexEncode (draw 32).toList, 30⟩
  process := .down

def rotation (now : Int) (random : Nat) : Op :=
  .exchange ⟨true, now, draw random, draw (random + 32), true⟩

def resumption : List Op := [.start, rotation second 64, .settle "edge-a" (2 * second) .done]

/-- The heartbeat loop rotates the tokens at half of their life and saves them. -/
def rotatedAndSaved : List Op :=
  resumption ++ [.act 3 (.wake (1000 * second)), rotation (1001 * second) 128,
    .install (1002 * second), .act 3 .snapshot, .act 3 (.write .done), Op.crash]

theorem session_resumable_saved :
    Resumable edgeBoot (run (sessionStep edgeBoot) enrolledEdge rotatedAndSaved) := by
  have enrolled : Enrolled edgeBoot enrolledEdge :=
    ⟨_, rfl, by decide, by decide, _, rfl, by decide⟩
  have meets : Meets (sessionStep edgeBoot) Careful enrolledEdge rotatedAndSaved := by
    refine ⟨trivial, rfl, .inr rfl, trivial, rfl, trivial, trivial, trivial, ⟨rfl, ?_⟩, trivial⟩
    intro _ found
    cases found
    rfl
  exact session_resumable edgeBoot enrolledEdge _ rfl enrolled meets trivial

/-- The edge dies before the loop saves them, and the brain refuses the file a
second later. -/
theorem session_lost_unsaved :
    let w := run (sessionStep edgeBoot) enrolledEdge (resumption ++ [.act 3 (.wake (1000 * second)),
        rotation (1001 * second) 128, Op.crash])
    w.file.map (fun file => (refresh edgeBoot w.db
      ⟨file.unitId, file.refresh, true, 1002 * second, draw 192, draw 224⟩).isOk) = some false := by
  decide +kernel

end YuFeng.EdgeSession

import YuFeng.Brain.Registry
import YuFeng.Library.Run

/-!
# Who can take over an enrolled unit

The bootstrap token is shared by all units.  It may enrol a unit, but not
replace the credentials of one that is enrolled already.  The check looks at
the stored digest of the access token only, and `invalidateAccessTokens`
blanks that digest: `noTakeover_iff` says that this is the only gap.
-/

namespace YuFeng.Brain

open YuFeng.Library YuFeng.Kernel

variable {call : RegisterCall} {env : Deployment} {db db' : Registry} {unitId : String}

inductive RegistryOp where
  | register (call : RegisterCall)
  | refresh (call : RefreshCall)
  | invalidateAccessTokens (now : Int)

def registryStep (env : Deployment) (db : Registry) : RegistryOp → Registry
  | .register call =>
    match register env db call with
    | .ok (_, db') => db'
    | .error _ => db
  | .refresh call =>
    match refresh env db call with
    | .ok (_, db') => db'
    | .error _ => db
  | .invalidateAccessTokens now => invalidateAccessTokens db now

def credentials (db : Registry) (unitId : String) : Option (String × String) :=
  (db.units.find? unitId).map fun row => (row.tokenHash, row.refreshTokenHash)

structure Standing where
  /-- The unit has completed a registration. -/
  enrolled : Bool := false
  /-- The access tokens were invalidated since its last credentials. -/
  invalidated : Bool := false

def Standing.after (env : Deployment) (unitId : String) (db : Registry)
    (standing : Standing) : RegistryOp → Standing
  | .register call =>
    if call.msg.unitId = unitId ∧ (register env db call).isOk then
      ⟨true, false⟩
    else standing
  | .refresh call =>
    if trimSpace call.unitId = unitId ∧ (refresh env db call).isOk then
      { standing with invalidated := false }
    else standing
  | .invalidateAccessTokens _ => { standing with invalidated := true }

def follow (env : Deployment) (unitId : String) (s : Registry × Standing)
    (op : RegistryOp) : Registry × Standing :=
  (registryStep env s.1 op, s.2.after env unitId s.1 op)

def standing (env : Deployment) (unitId : String) (db : Registry)
    (ops : List RegistryOp) : Standing :=
  (run (follow env unitId) (db, {}) ops).2

def PresentsOnlyBootstrap (env : Deployment) (db : Registry) (call : RegisterCall) : Prop :=
  bearerToken call.authorization = env.bootstrapToken ∧
    ∀ row, db.units.find? call.msg.unitId = some row →
      row.tokenHash ≠ env.hashToken (bearerToken call.authorization)

/--
No registration with nothing but the bootstrap token changes the credentials
of a unit that was enrolled before.
-/
def NoTakeover (env : Deployment) (db : Registry) (ops : List RegistryOp) : Prop :=
  ∀ before call after, ops = before ++ .register call :: after →
    (standing env call.msg.unitId db before).enrolled = true →
    PresentsOnlyBootstrap env (run (registryStep env) db before) call →
    credentials (registryStep env (run (registryStep env) db before) (.register call))
        call.msg.unitId =
      credentials (run (registryStep env) db before) call.msg.unitId

/-! ## What the operations store -/

/-- A request that `register` has nothing to object to, its bearer apart. -/
structure WellFormed (env : Deployment) (db : Registry)
    (call : RegisterCall) : Prop where
  admitted : call.admitted = true
  named : trimSpace call.msg.unitId ≠ ""
  short : call.msg.unitId.utf8ByteSize ≤ 64
  contract : call.msg.contractVersion = "v1"
  hint : call.msg.pubkeyHint = "" ∨ ∀ keyID ∈ env.keyID, call.msg.pubkeyHint = keyID
  capable : ∃ capabilities, normalizeProducerCapabilities call.msg.capabilities = .ok capabilities ∧
      (call.msg.kind = .host ∨ capabilities.isSome = true)
  expected : ∀ asset ∈ db.edgeEnrollments.find? call.msg.unitId,
    asset = "" ∨ call.msg.asset = asset ∧ call.msg.kind ≠ .host

theorem checkEnvelope_ok :
    checkEnvelope call = .ok () ↔ call.admitted = true ∧ (trimSpace call.msg.unitId ≠ "" ∧
          call.msg.unitId.utf8ByteSize ≤ 64) ∧
        call.msg.contractVersion = "v1" := by
  simp [checkEnvelope]

theorem checkDeclaration_ok {msg capabilities} :
    checkDeclaration env db msg = .ok capabilities ↔
      (msg.pubkeyHint = "" ∨ ∀ keyID ∈ env.keyID, msg.pubkeyHint = keyID) ∧
        normalizeProducerCapabilities msg.capabilities = .ok capabilities ∧
        (msg.kind = .host ∨ capabilities.isSome = true) ∧
        ∀ asset ∈ db.edgeEnrollments.find? msg.unitId,
          asset = "" ∨ msg.asset = asset ∧ msg.kind ≠ .host := by
  unfold checkDeclaration
  rw [require_bind_ok]
  apply and_congr
  · cases env.keyID <;> simp
  cases normalizeProducerCapabilities msg.capabilities with
  | error => simp
  | ok =>
    cases db.edgeEnrollments.find? msg.unitId <;>
      simp [pure, Except.pure] <;> grind

theorem wellFormed_iff : WellFormed env db call ↔ checkEnvelope call = .ok () ∧
      ∃ capabilities, checkDeclaration env db call.msg = .ok capabilities := by
  constructor
  · intro h
    obtain ⟨capabilities, normalized, capable⟩ := h.capable
    exact ⟨checkEnvelope_ok.mpr ⟨h.admitted, ⟨h.named, h.short⟩, h.contract⟩,
      capabilities, checkDeclaration_ok.mpr ⟨h.hint, normalized, capable, h.expected⟩⟩
  · rintro ⟨envelope, capabilities, declaration⟩
    obtain ⟨admitted, ⟨named, short⟩, contract⟩ := checkEnvelope_ok.mp envelope
    obtain ⟨hint, normalized, capable, expected⟩ := checkDeclaration_ok.mp declaration
    exact ⟨admitted, named, short, contract, hint, ⟨capabilities, normalized, capable⟩, expected⟩

def Issued (db db' : Registry) (unitId : String) : Prop :=
  ∃ row, db'.units = db.units.set unitId row ∧ row.tokenHash ≠ "" ∧ row.refreshTokenHash ≠ ""

theorem register_ok {response} (h : register env db call = .ok (response, db')) :
    WellFormed env db call ∧
      authorizeRegister env db call.authorization call.msg.unitId call.now = .ok () ∧
      Issued db db' call.msg.unitId := by
  unfold register at h
  cases envelope : checkEnvelope call with
  | error => simp [envelope, bind, Except.bind] at h
  | ok =>
  cases authorized : authorizeRegister env db call.authorization call.msg.unitId call.now with
  | error => simp [envelope, authorized, bind, Except.bind] at h
  | ok =>
  cases declared : checkDeclaration env db call.msg with
  | error => simp [envelope, authorized, declared, bind, Except.bind] at h
  | ok capabilities =>
    simp only [envelope, authorized, declared, bind, Except.bind, pure_ok, Prod.mk.injEq] at h
    obtain ⟨-, rfl⟩ := h
    exact ⟨wellFormed_iff.mpr ⟨envelope, capabilities, declared⟩, rfl, _,
      rfl, env.hashToken_ne_empty _, env.hashToken_ne_empty _⟩

theorem WellFormed.register (h : WellFormed env db call)
    (authorized : authorizeRegister env db call.authorization call.msg.unitId call.now = .ok ()) :
    ∃ response db', register env db call = .ok (response, db') := by
  obtain ⟨envelope, _, declared⟩ := wellFormed_iff.mp h
  unfold Brain.register
  simp [envelope, authorized, declared, bind, Except.bind, pure, Except.pure]

theorem refresh_ok {call response} (h : refresh env db call = .ok (response, db')) :
    Issued db db' (trimSpace call.unitId) := by
  simp only [refresh, require_bind_ok] at h
  obtain ⟨-, -, h⟩ := h
  split at h
  · simp at h
  next row found =>
    simp only [pure_ok, Prod.mk.injEq] at h
    obtain ⟨-, rfl⟩ := h
    exact ⟨_, rfl, env.hashToken_ne_empty _, env.hashToken_ne_empty _⟩

/-! ## The digests follow the standing -/

def Tracked (unitId : String) (s : Registry × Standing) : Prop :=
  s.2.enrolled = true → ∃ row, s.1.units.find? unitId = some row ∧ row.refreshTokenHash ≠ "" ∧
    (row.tokenHash = "" ↔ s.2.invalidated = true)

theorem Issued.tracked (h : Issued db db' unitId) {standing : Standing}
    (valid : standing.invalidated = false) :
    Tracked unitId (db', standing) := by
  obtain ⟨row, units, access, renewed⟩ := h
  intro _
  refine ⟨row, by simp [units], renewed, ?_⟩
  simp [access, valid]

theorem Issued.tracked_other {other} (h : Issued db db' other) (different : other ≠ unitId)
    {standing} (tracked : Tracked unitId (db, standing)) : Tracked unitId (db', standing) := by
  obtain ⟨_, units, -⟩ := h
  intro enrolled
  simpa [units, Table.find?_set_of_ne different.symm] using tracked enrolled

theorem tracked_invalidate {standing} (now : Int) (h : Tracked unitId (db, standing)) :
    Tracked unitId (invalidateAccessTokens db now,
      { standing with invalidated := true }) := by
  intro enrolled
  obtain ⟨row, found, renewed, -⟩ := h enrolled
  refine ⟨{ row with tokenHash := "", tokenExpiresAt := some now }, ?_,
    renewed, iff_of_true rfl rfl⟩
  simp [invalidateAccessTokens, found, renewed]

theorem follow_tracked {s} (op) (h : Tracked unitId s) :
    Tracked unitId (follow env unitId s op) := by
  cases op with
  | register call =>
    simp only [follow, registryStep, Standing.after]
    cases answer : register env s.1 call with
    | error => simpa [Except.isOk, Except.toBool] using h
    | ok =>
      have issued := (register_ok answer).2.2
      by_cases same : call.msg.unitId = unitId
      · simpa [same, Except.isOk, Except.toBool] using (same ▸ issued).tracked rfl
      · simpa [same] using issued.tracked_other same h
  | refresh call =>
    simp only [follow, registryStep, Standing.after]
    cases answer : refresh env s.1 call with
    | error => simpa [Except.isOk, Except.toBool] using h
    | ok =>
      have issued := refresh_ok answer
      by_cases same : trimSpace call.unitId = unitId
      · simpa [same, Except.isOk, Except.toBool] using (same ▸ issued).tracked rfl
      · simpa [same] using issued.tracked_other same h
  | invalidateAccessTokens now => exact tracked_invalidate now h

theorem run_follow (env unitId) (s : Registry × Standing) (ops) :
    (run (follow env unitId) s ops).1 = run (registryStep env) s.1 ops := by
  induction ops generalizing s with
  | nil => rfl
  | cons _ _ ih =>
    rw [run_cons, run_cons, ih]
    rfl

theorem enrolled_row {ops} (h : (standing env unitId db ops).enrolled = true) :
    ∃ row, (run (registryStep env) db ops).units.find? unitId = some row ∧ (row.tokenHash = "" ↔
        (standing env unitId db ops).invalidated = true) := by
  have tracked : Tracked unitId (run (follow env unitId) (db, {}) ops) :=
    run_always _ (Tracked unitId) (fun _ op => follow_tracked op) (by simp [Tracked]) ops
  obtain ⟨row, found, -, blank⟩ := tracked h
  rw [run_follow] at found
  exact ⟨row, found, blank⟩

theorem authorizeRegister_bootstrap {authorization now row}
    (found : db.units.find? unitId = some row)
    (bearer : bearerToken authorization = env.bootstrapToken) :
    authorizeRegister env db authorization unitId now = .ok () ↔
      row.tokenHash = "" ∧ env.bootstrapToken ≠ "" := by
  simp only [authorizeRegister, found, bearer, Deployment.isBootstrap]
  by_cases unset : env.bootstrapToken = ""
  · simp [unset]
  · by_cases blank : row.tokenHash = "" <;> simp [unset, blank]

/--
Enrolled units are safe from the bootstrap token exactly if every well-formed
registration that presents it arrives while the access token of its unit has
not been invalidated.
-/
theorem noTakeover_iff (env : Deployment) (db : Registry) (ops : List RegistryOp) :
    NoTakeover env db ops ↔ ∀ before call after, ops = before ++ .register call :: after →
        (standing env call.msg.unitId db before).enrolled = true →
        env.isBootstrap (bearerToken call.authorization) = true →
        WellFormed env (run (registryStep env) db before) call →
        (standing env call.msg.unitId db before).invalidated = false := by
  constructor
  · intro safe before call after shape enrolled bootstrap wellFormed
    obtain ⟨row, found, blank⟩ := enrolled_row enrolled
    by_contra invalidated
    have unset : row.tokenHash = "" := blank.mpr (by simpa using invalidated)
    simp only [Deployment.isBootstrap, Bool.and_eq_true, decide_eq_true_eq] at bootstrap
    have authorized : authorizeRegister env (run (registryStep env) db before) call.authorization
          call.msg.unitId call.now = .ok () :=
      (authorizeRegister_bootstrap found bootstrap.2).mpr ⟨unset, bootstrap.1⟩
    obtain ⟨_, _, answer⟩ := wellFormed.register authorized
    have only : PresentsOnlyBootstrap env (run (registryStep env) db before) call := by
      refine ⟨bootstrap.2, fun other same => ?_⟩
      rw [found, Option.some.injEq] at same
      rw [← same, unset]
      exact (env.hashToken_ne_empty _).symm
    have kept := safe before call after shape enrolled only
    obtain ⟨-, -, _, units, access, -⟩ := register_ok answer
    simp [registryStep, answer, credentials, units, found, unset, access] at kept
  · rintro fresh before call after shape enrolled ⟨bearer, -⟩
    obtain ⟨_, found, blank⟩ := enrolled_row enrolled
    simp only [registryStep]
    cases answer : register env (run (registryStep env) db before) call with
    | error => rfl
    | ok =>
      obtain ⟨wellFormed, authorized, -⟩ := register_ok answer
      obtain ⟨unset, nonempty⟩ := (authorizeRegister_bootstrap found bearer).mp authorized
      have bootstrap : env.isBootstrap (bearerToken call.authorization) = true := by
        simp [Deployment.isBootstrap, bearer, nonempty]
      have valid := fresh before call after shape enrolled bootstrap wellFormed
      simp [blank.mp unset] at valid

/-! ## A restart between two registrations -/

/-- 32 random bytes; the digests below are those of four such draws. -/
def draw (first : Nat) : Vector UInt8 32 := Vector.ofFn fun i : Fin 32 => UInt8.ofNat (first + i)

def firstAccessDigest : Vector UInt8 32 :=
  #v[108, 134, 198, 170, 197, 251, 36, 188, 245, 217, 147, 156, 183, 215, 213,
    100, 92, 227, 148, 24, 244, 73, 224, 59, 38, 45, 212, 250, 20, 180, 185, 43]

def firstRefreshDigest : Vector UInt8 32 :=
  #v[49, 192, 228, 168, 222, 61, 50, 168, 150, 79, 77, 214, 195, 250, 174, 36,
    138, 57, 148, 243, 196, 226, 38, 253, 216, 238, 86, 144, 76, 150, 198, 247]

def secondAccessDigest : Vector UInt8 32 :=
  #v[204, 160, 226, 107, 112, 183, 237, 90, 61, 236, 2, 193, 2, 202, 43, 248,
    200, 184, 71, 126, 0, 207, 188, 86, 215, 38, 249, 196, 89, 44, 189, 21]

def secondRefreshDigest : Vector UInt8 32 :=
  #v[229, 32, 215, 131, 237, 152, 45, 201, 94, 82, 200, 223, 234, 236, 86,
    191, 171, 3, 146, 95, 117, 107, 76, 126, 127, 27, 43, 221, 69, 146, 30, 211]

def unitBoot : Deployment where
  bootstrapToken := "unit-boot"
  keyID := none
  sum256 raw :=
    if raw = hexEncode (draw 0).toList then firstAccessDigest
    else if raw = hexEncode (draw 32).toList then firstRefreshDigest
    else if raw = hexEncode (draw 64).toList then secondAccessDigest
    else if raw = hexEncode (draw 96).toList then secondRefreshDigest
    else Vector.replicate 32 0

def emptyRegistry : Registry := ⟨.empty, .empty, []⟩

def registerHostA (now : Int) (random : Nat) : RegisterCall where
  authorization := "Bearer unit-boot"
  msg := ⟨"host-a", .host, "1", "v1", "", "", none⟩
  admitted := true
  now := now
  accessRandom := draw random
  refreshRandom := draw (random + 32)

/--
After a restart of the brain the bootstrap token replaces the credentials of
the enrolled `host-a`.
-/
theorem noTakeover_restarted :
    ¬ NoTakeover unitBoot emptyRegistry [.register (registerHostA 0 0), .invalidateAccessTokens 1,
        .register (registerHostA 2 64)] := by
  intro h
  have only : PresentsOnlyBootstrap unitBoot (run (registryStep unitBoot) emptyRegistry
        [.register (registerHostA 0 0), .invalidateAccessTokens 1])
      (registerHostA 2 64) := by
    refine ⟨by decide, fun row found => ?_⟩
    have blank : ((run (registryStep unitBoot) emptyRegistry
        [.register (registerHostA 0 0), .invalidateAccessTokens 1]).units.find?
            (registerHostA 2 64).msg.unitId).map (·.tokenHash) = some "" := by
      decide
    rw [found, Option.map_some, Option.some.injEq] at blank
    rw [blank]
    exact (unitBoot.hashToken_ne_empty _).symm
  have kept := h [.register (registerHostA 0 0), .invalidateAccessTokens 1]
    (registerHostA 2 64) [] rfl (by decide) only
  revert kept
  decide

end YuFeng.Brain

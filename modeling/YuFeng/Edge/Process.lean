import YuFeng.Edge.Restart
import YuFeng.Library.Effects

/-!
# Loading, one assignment after another

The functions of the previous modules return a new release set.  Here they are
programs on the memory of the process: the set in effect, the set that a
snapshot or a generation is compiled into, and the store that checks the
chain of envelopes.  An error ends a program where it stands.

The programs end with the set that the functions return, and whenever they
fail the set in effect has not been written.
-/

namespace YuFeng.Edge

open YuFeng.Library YuFeng.Kernel

structure UnitListenPlan where
  unitId : String
  version : Nat
  trafficKey : String
  posture : IngressPosture
  listenAddress : String
  upstreamUrl : String
  followUnitId : String
  trustedProxyCidrs : List String
  modelIngressWindow : String
  signature : Option Signature
  deriving DecidableEq

/-- What listen plans are checked with: addresses, URLs and networks are
parsed by the Go library, and the key of the brain is fixed. -/
structure ListenChecks where
  keyId : String
  planBytes : UnitListenPlan → String
  listenAddress : String → Except String Unit
  upstreamURL : String → Except String Unit
  normalizeTrustedProxyCIDRs : List String → Except String (List String)
  normalizeModelIngressWindow : String → Except String Unit

def verifyUnitListenPlan (P : Platform) (L : ListenChecks)
    (plan : UnitListenPlan) : Except String Unit :=
  if P.verifier.publicKeySize ≠ 32 then
    .error ("invalid public key length " ++ toString P.verifier.publicKeySize)
  else match plan.signature with
    | none => .error "unit listen plan signature is missing"
    | some signature =>
      if signature.sig = "" then
        .error "unit listen plan signature is missing"
      else if signature.keyId ≠ L.keyId then
        .error "unit listen plan key id does not match public key"
      else if P.verifier.verify (L.planBytes { plan with signature := none })
          signature.sig then .ok ()
      else .error "unit listen plan signature verification failed"

def validateUnitListenPlan (L : ListenChecks) (plan : UnitListenPlan) : Except String Unit := do
  ensure (trimSpace plan.unitId ≠ "") "listen plan is incomplete"
  ensure (plan.version ≠ 0) "listen plan version is required"
  ensure (trimSpace plan.trafficKey ≠ "") "listen plan traffic_key is required"
  ensure (plan.posture ≠ .unspecified) "listen plan posture is invalid"
  L.listenAddress plan.listenAddress
  let upstream := trimSpace plan.upstreamUrl
  if plan.posture = .reverseProxy then L.upstreamURL upstream
  else
    ensure (upstream = "") "listen plan upstream_url is only valid for reverse proxy"
  ensure (!(intercepts plan.posture && trimSpace plan.followUnitId ≠ ""))
    "intercept listen plan must not follow another unit"
  let normalized ← (L.normalizeTrustedProxyCIDRs plan.trustedProxyCidrs).mapError fun message =>
      "listen plan client_source is invalid: " ++ message
  ensure (plan.trustedProxyCidrs = normalized) "listen plan client_source must be normalized"
  (L.normalizeModelIngressWindow plan.modelIngressWindow).mapError
    fun message => "listen plan model_ingress_window is invalid: " ++ message

def applySnapshot (P : Platform) (now : Int) (set : ReleaseSet)
    (items : List ReleaseItem) : Except String ReleaseSet := do
  let next ← items.foldlM (apply P now)
    { newReleaseSet set.edgeVersion with posture := set.posture }
  return { next with
    counters := keepCounters set.counters next.releases
    posture := set.posture
    activeGen := set.activeGen
    edgeVersion := set.edgeVersion }

/-! ## The memory of the process -/

structure UnitSet extends ReleaseSet where
  listen : Option UnitListenPlan := none

structure Memory where
  live : UnitSet
  next : UnitSet
  store : Option AssetGeneration := none

namespace Process

abbrev Program (α : Type) := Effect Memory String α

inductive Receiver where
  | live
  | next

def assign (set : Receiver) (f : ReleaseSet → ReleaseSet) : Program Unit :=
  Effect.change fun m => match set with
    | .live => { m with live := ⟨f m.live.toReleaseSet, m.live.listen⟩ }
    | .next => { m with next := ⟨f m.next.toReleaseSet, m.next.listen⟩ }

def stop {α : Type} (message : String) : Program α := Effect.attempt (.error message)

def admitRelease (now : Int) (set : Receiver) (item : ReleaseItem)
    (a : Artifact) (detector : Option RuleDetector)
    (policy : Option PolicyCandidate) (shape : Option CompiledShape) :
    Program Unit :=
  if item.mode = .canary ∧ (item.canaryPercent < canaryPercentMin ∨
      canaryPercentMax < item.canaryPercent) then
    stop ("release " ++ item.releaseId ++ ": canary percent " ++
      toString item.canaryPercent ++ " out of range [" ++
      toString canaryPercentMin ++ "," ++ toString canaryPercentMax ++ "]")
  else if expiry a now ≤ now then
    stop ("release " ++ item.releaseId ++ " is expired")
  else assign set (putRelease (expiry a now) item a detector policy shape)

def install (now : Int) (set : Receiver) (item : ReleaseItem) (a : Artifact) : Member → Program Unit
  | .rule detector => admitRelease now set item a (some detector) none none
  | .policy candidate =>
    admitRelease now set item a none (some candidate) none
  | .shape compiled => admitRelease now set item a none none (some compiled)
  | .inspector inspector =>
    assign set (installInspector item.releaseId inspector)
  | .taxonomyMapper mapper =>
    assign set fun s => { s with mapper := some mapper }
  | .normalizerProfile profile =>
    assign set fun s => { s with profile := some profile }
  | .evidencePolicy message =>
    assign set fun s => { s with evidencePol := some message }
  | .evidenceDigest message =>
    assign set fun s => { s with digest := some message }
  | .forwardPolicy message =>
    assign set fun s => { s with forward := some message }
  | .trafficReviewPolicy message => assign set fun s =>
    { s with reviewPolicy := some message, reviewDigest := a.id }
  | .modelProfile message => assign set fun s =>
    { s with modelProfile := some message, modelDigest := a.id }

def apply (P : Platform) (now : Int) (set : Receiver) (item : ReleaseItem) : Program Unit :=
  match item.artifact with
  | none => stop "release item is empty"
  | some a =>
    if item.retired then assign set (retire item.releaseId)
    else do
      Effect.attempt (within item.releaseId "" (verifyArtifact P.verifier a))
      let member ← Effect.attempt (compileMember P item.releaseId a)
      install now set item a member

def allocate : Program Unit :=
  Effect.change fun m => { m with
    next := { newReleaseSet m.live.edgeVersion with
      posture := m.live.posture
      listen := m.live.listen } }

def swapFrom (active : Option AssetGeneration) : Program Unit :=
  Effect.change fun m => { m with
    live := { m.next with
      counters := keepCounters m.live.counters m.next.releases
      posture := m.live.posture
      listen := m.live.listen
      activeGen := active.or m.live.activeGen
      edgeVersion := m.live.edgeVersion } }

def applySnapshot (P : Platform) (now : Int) (items : List ReleaseItem) : Program Unit := do
  allocate
  Effect.each (apply P now .next) items
  swapFrom none

def load (P : Platform) (now : Int) (gen : AssetGeneration) : Program Unit := do
  let current ← Effect.read (·.store)
  let active ← Effect.attempt (Edge.load P now current gen)
  Effect.change fun m => { m with store := some active }

def applyGeneration (P : Platform) (now : Int) (persist : Persist)
    (gen : AssetGeneration) : Program Unit := do
  Effect.change fun m => { m with store := m.live.activeGen }
  let current ← Effect.read (·.live.activeGen)
  load P now gen
  allocate
  Effect.each (apply P now .next) gen.members
  let next ← Effect.read (·.next.toReleaseSet)
  Effect.attempt (validateGenerationDependencies P gen next)
  Effect.attempt ((persist current gen).mapError fun message =>
    "persist generation before activation: " ++ message)
  let active ← Effect.read (·.store)
  swapFrom active

def applyListenPlan (P : Platform) (L : ListenChecks) (unitId : String)
    (persist : Option UnitListenPlan → UnitListenPlan → Except String Unit)
    (plan : UnitListenPlan) : Program Unit := do
  Effect.attempt (verifyUnitListenPlan P L plan)
  Effect.attempt (validateUnitListenPlan L plan)
  Effect.attempt (ensure (trimSpace unitId ≠ "" && plan.unitId = unitId)
    "unit listen plan target does not match this unit")
  let current ← Effect.read (·.live.listen)
  if current = some plan then return ()
  else do
    Effect.attempt (ensure (current.all fun c => c.version < plan.version)
      "unit listen plan version must increase")
    Effect.attempt (ensure (current.all fun c => plan.version = c.version + 1)
      "unit listen plan version must not skip")
    Effect.attempt ((persist current plan).mapError fun message =>
      "persist unit listen plan before activation: " ++ message)
    Effect.change fun m => { m with
      live := { m.live with listen := some plan, posture := plan.posture } }

/-! ## The programs end as the functions do -/

variable {P : Platform} {now : Int} {m : Memory}

theorem admitRelease_run {item a detector policy shape} :
    admitRelease now .next item a detector policy shape m =
      match Edge.admitRelease now item a detector policy shape m.next.toReleaseSet with
      | .ok set => (.ok (), { m with next := ⟨set, m.next.listen⟩ })
      | .error message => (.error message, m) := by
  unfold admitRelease Edge.admitRelease
  split
  · rfl
  split <;> rfl

theorem install_run {item a} (member) :
    install now .next item a member m =
      match Edge.install now item a m.next.toReleaseSet member with
      | .ok set => (.ok (), { m with next := ⟨set, m.next.listen⟩ })
      | .error message => (.error message, m) := by
  cases member with
  | rule _ | policy _ | shape _ => exact admitRelease_run
  | _ => rfl

theorem apply_run (item) : apply P now .next item m =
      match Edge.apply P now m.next.toReleaseSet item with
      | .ok set => (.ok (), { m with next := ⟨set, m.next.listen⟩ })
      | .error message => (.error message, m) := by
  unfold apply Edge.apply
  cases item.artifact with
  | none => rfl
  | some a =>
    dsimp only
    cases item.retired with
    | true => rfl
    | false =>
      simp only [Bool.false_eq_true, if_false]
      cases within item.releaseId "" (verifyArtifact P.verifier a) with
      | error => rfl
      | ok =>
        unfold applyMember
        rw [Effect.attempt_bind_ok]
        cases compileMember P item.releaseId a with
        | error => rfl
        | ok member => exact install_run member

/-- The run ends with the set that the function returns, or with its error. -/
def Ends (run : Except String Unit × Memory) (result : Except String ReleaseSet)
    (holds : ReleaseSet → Memory → Prop) : Prop :=
  match result with
  | .ok set => run.1 = .ok () ∧ holds set run.2
  | .error message => run.1 = .error message

theorem Ends.mono {result} {holds holds' : ReleaseSet → Memory → Prop} {run}
    (h : Ends run result holds) (weaker : ∀ set m', holds set m' → holds' set m') :
    Ends run result holds' := by
  cases result with
  | error => exact h
  | ok set => exact ⟨h.1, weaker set _ h.2⟩

variable (items : List ReleaseItem)

theorem each_run : Ends (Effect.each (apply P now .next) items m)
      (items.foldlM (Edge.apply P now) m.next.toReleaseSet)
      fun set m' => m' = { m with next := ⟨set, m.next.listen⟩ } := by
  induction items generalizing m with
  | nil => exact ⟨rfl, rfl⟩
  | cons item _ ih =>
    rw [List.foldlM_cons]
    unfold Effect.each
    rw [Effect.bind_apply, apply_run]
    cases Edge.apply P now m.next.toReleaseSet item with
    | error => rfl
    | ok set => exact @ih { m with next := ⟨set, m.next.listen⟩ }

/-- Members are compiled into a new set beside the one in effect. -/
theorem allocated_run (store) :
    Ends (Effect.each (apply P now .next) items { m with
        next := { newReleaseSet m.live.edgeVersion with
          posture := m.live.posture
          listen := m.live.listen }
        store := store })
      (items.foldlM (Edge.apply P now)
        { newReleaseSet m.live.edgeVersion with posture := m.live.posture })
      fun set m' => m'.live = m.live ∧ m'.store = store ∧ m'.next = ⟨set, m.live.listen⟩ := by
  refine (each_run items).mono ?_
  rintro _ _ rfl
  exact ⟨rfl, rfl, rfl⟩

theorem applySnapshot_run :
    Ends (applySnapshot P now items m) (Edge.applySnapshot P now m.live.toReleaseSet items)
      fun set m' => m'.live = ⟨set, m.live.listen⟩ := by
  unfold applySnapshot Edge.applySnapshot allocate
  rw [Effect.change_bind, Effect.bind_apply]
  have run := @allocated_run P now m items m.store
  generalize Effect.each (apply P now .next) items _ = result at run ⊢
  obtain ⟨_, m'⟩ := result
  cases compiled : items.foldlM (Edge.apply P now)
      { newReleaseSet m.live.edgeVersion with posture := m.live.posture } with
  | error message =>
    rw [compiled] at run
    cases run
    rfl
  | ok next =>
    rw [compiled] at run
    obtain ⟨rfl, (live : m'.live = _), -, (filled : m'.next = _)⟩ := run
    exact ⟨rfl, by simp [swapFrom, live, filled]⟩

theorem applyGeneration_run (persist gen) :
    Ends (applyGeneration P now persist gen m)
      (Edge.applyGeneration P now persist m.live.toReleaseSet gen)
      fun set m' => m'.live = ⟨set, m.live.listen⟩ := by
  unfold applyGeneration Edge.applyGeneration load allocate
  rw [Effect.change_bind, Effect.read_bind, Effect.bind_apply, Effect.read_bind]
  dsimp only
  cases loaded : Edge.load P now m.live.activeGen gen with
  | error => rfl
  | ok active =>
    rw [Effect.attempt_bind_ok]
    simp only [Effect.change_apply, Effect.bind_apply]
    have run := @allocated_run P now m gen.members (some active)
    generalize Effect.each (apply P now .next) gen.members _ = result at run ⊢
    obtain ⟨_, m'⟩ := result
    unfold compileGeneration
    cases compiled : gen.members.foldlM (Edge.apply P now)
        { newReleaseSet m.live.edgeVersion with
          posture := m.live.posture } with
    | error message =>
      rw [compiled] at run
      cases run
      rfl
    | ok next =>
      rw [compiled] at run
      obtain ⟨rfl, (live : m'.live = _), (store : m'.store = _), (filled : m'.next = _)⟩ := run
      simp only [Effect.read_apply, Effect.attempt_apply, filled]
      dsimp only [bind, Except.bind]
      cases validateGenerationDependencies P gen next with
      | error => rfl
      | ok =>
        cases (persist m.live.activeGen gen).mapError fun message =>
            "persist generation before activation: " ++ message with
        | error message => rfl
        | ok _ =>
          exact ⟨rfl, by
            simp [swapFrom, Edge.swapFrom, live, store, filled]⟩

/-! ## What a failure leaves -/

theorem apply_keeps (item) : Effect.Keeps (·.live) (apply P now .next item) := by
  intro m
  rw [apply_run]
  cases Edge.apply P now m.next.toReleaseSet item <;> rfl

theorem load_keeps (gen) : Effect.Keeps (·.live) (load P now gen) :=
  .bind (.read _) fun _ => .bind (.attempt _) fun _ => .change fun _ => rfl

theorem applySnapshot_failsClean : Effect.FailsClean (·.live) (applySnapshot P now items) :=
  .bind (.change fun _ => rfl) fun _ =>
    .bind (.each apply_keeps items) fun _ => .change _

theorem applyGeneration_failsClean (persist gen) :
    Effect.FailsClean (·.live) (applyGeneration P now persist gen) :=
  .bind (.change fun _ => rfl) fun _ => .bind (.read _) fun _ =>
    .bind (load_keeps gen) fun _ => .bind (.change fun _ => rfl) fun _ =>
      .bind (.each apply_keeps gen.members) fun _ => .bind (.read _) fun _ =>
        .bind (.attempt _) fun _ => .bind (.attempt _) fun _ =>
          .bind (.read _) fun _ => .change _

theorem applyListenPlan_failsClean (L unitId)
    (persist : Option UnitListenPlan → UnitListenPlan → Except String Unit) (plan) :
    Effect.FailsClean (·.live) (applyListenPlan P L unitId persist plan) := by
  refine .bind (.attempt _) fun _ => .bind (.attempt _) fun _ =>
    .bind (.attempt _) fun _ => .bind (.read _) fun current => ?_
  split
  · exact (Effect.Keeps.pure ()).failsClean
  · exact .bind (.attempt _) fun _ => .bind (.attempt _) fun _ =>
      .bind (.attempt _) fun _ => .change _

inductive Call where
  | snapshot (now : Int) (items : List ReleaseItem)
  | generation (now : Int) (persist : Persist) (gen : AssetGeneration)
  | listenPlan (unitId : String) (persist : Option UnitListenPlan →
      UnitListenPlan → Except String Unit) (plan : UnitListenPlan)

def Call.run (P : Platform) (L : ListenChecks) : Call → Program Unit
  | .snapshot now items => applySnapshot P now items
  | .generation now persist gen => applyGeneration P now persist gen
  | .listenPlan unitId persist plan =>
    applyListenPlan P L unitId persist plan

/-- A call that fails leaves the set in effect as it was, with everything in
it, so that every later request is decided as before. -/
theorem failed_load_keeps_set {L : ListenChecks} {call : Call}
    {message : String} (failed : (call.run P L m).1 = .error message) :
    (call.run P L m).2.live = m.live ∧
      ∀ later req view, inspectThenGate P later (call.run P L m).2.live.toReleaseSet req view =
          inspectThenGate P later m.live.toReleaseSet req view := by
  have same : (call.run P L m).2.live = m.live := by
    cases call with
    | snapshot _ items => exact applySnapshot_failsClean items m _ failed
    | generation _ persist gen =>
      exact applyGeneration_failsClean persist gen m _ failed
    | listenPlan unitId persist plan =>
      exact applyListenPlan_failsClean L unitId persist plan m _ failed
  refine ⟨same, fun later req view => ?_⟩
  rw [same]

def anyListenPlan : ListenChecks where
  keyId := ""
  planBytes plan := plan.unitId
  listenAddress _ := .ok ()
  upstreamURL _ := .ok ()
  normalizeTrustedProxyCIDRs cidrs := .ok cidrs
  normalizeModelIngressWindow _ := .ok ()

def brokenSnapshot : Call :=
  .snapshot issued (shopRules.members ++
    [{ releaseId := "rel-3", artifact := none, assetId := "shop"
       mode := .enforce }])

def shopMemory : Memory where
  live := ⟨shopLoaded, none⟩
  next := ⟨newReleaseSet "dev", none⟩

theorem failed_load_keeps_set_broken :
    (brokenSnapshot.run shopEdge anyListenPlan shopMemory).1 = .error "release item is empty" ∧
      (brokenSnapshot.run shopEdge anyListenPlan shopMemory).2.live =
        shopMemory.live := by
  have failed : (brokenSnapshot.run shopEdge anyListenPlan shopMemory).1 =
      .error "release item is empty" := by
    decide +kernel
  exact ⟨failed, (failed_load_keeps_set failed).1⟩

end Process

end YuFeng.Edge

import YuFeng.Brain.Chain
import YuFeng.Edge.Restart

/-!
# Catching up

An edge asks for the generations after its own and applies them in order.  It
stops at the first one that it cannot load, so an old generation with a
release that has expired since keeps it from every later one.
-/

namespace YuFeng.Edge

open YuFeng.Library YuFeng.Kernel YuFeng.Brain

variable {P : Platform} {now : Int} {set : ReleaseSet} {item : ReleaseItem}
  {gen : AssetGeneration} {assetId : String}

def ReleaseSet.currentGenerationSeq (set : ReleaseSet) : Int :=
  (set.activeGen.map (·.generationSeq)).getD 0

structure Session where
  assetId : String

/-- The set afterwards, and the error that ended the pass. -/
def catchUpGenerations (P : Platform) (now : Int) (persist : Persist)
    (listGenerations : String → Int → Except String (List AssetGeneration))
    (session : Option Session) (set : ReleaseSet) :
    ReleaseSet × Option String :=
  match session with
  | none => (set, none)
  | some session =>
    if session.assetId = "" then (set, none)
    else match listGenerations session.assetId set.currentGenerationSeq with
      | .error message => (set, some message)
      | .ok gens => advance (applyGeneration P now persist) set gens

/-! ## Dependencies -/

def itemProfile (P : Platform) (item : ReleaseItem) : Option HttpInspectionProfile :=
  match item.artifact with
  | none => none
  | some a =>
    if item.retired then none
    else match compileMember P item.releaseId a with
      | .ok (.normalizerProfile profile) => some profile
      | _ => none

def profileOf (P : Platform) (items : List ReleaseItem) : Option HttpInspectionProfile :=
  items.foldl (fun profile item => (itemProfile P item).or profile) none

theorem apply_profile {set'} (applied : apply P now set item = .ok set') :
    set'.profile = (itemProfile P item).or set.profile := by
  obtain ⟨_, artifact, ⟨retired, rfl⟩ | ⟨kept, -, member, compiled,
    installed⟩⟩ := apply_ok.mp applied
  · simp [itemProfile, artifact, retired, retire]
  · cases member with
    | rule _ | policy _ | shape _ =>
      obtain ⟨-, rfl⟩ := admitRelease_ok.mp installed
      simp [itemProfile, artifact, kept, compiled, putRelease]
    | _ =>
      simp only [install, Except.ok.injEq] at installed
      subst installed
      simp [itemProfile, artifact, kept, compiled, installInspector]

theorem compileGeneration_profile {next} (compiled : compileGeneration P now set gen = .ok next) :
    next.profile = profileOf P gen.members := by
  exact foldlM_measure ReleaseSet.profile _ (fun _ _ _ => apply_profile) compiled

def profileDigestOf (P : Platform) (gen : AssetGeneration) : String :=
  if gen.members.any fun item =>
      item.artifact.any (·.kind = .normalizerProfile) then
    P.http.profileDigest ((profileOf P gen.members).getD emptyInspectionProfile)
  else ""

/-- What a policy depends on is part of its generation. -/
structure Supplied (gen : AssetGeneration) (digests : List String)
    (profileDigest : String) (deps : PolicyDependencies) : Prop where
  manifest : deps.detectorManifestDigest ≠ "" ∧ deps.detectorManifestDigest ∈ digests
  profile : deps.normalizerProfileDigest ≠ "" ∧ deps.normalizerProfileDigest = profileDigest
  version : deps.minEdgeVersion ≠ "" ∧ deps.minEdgeVersion = gen.minEdgeVersion

theorem checkPolicyDependencies_ok {digests profileDigest release} :
    checkPolicyDependencies gen digests profileDigest release = .ok () ↔
      ∀ policy ∈ release.policy, ∃ deps ∈ policy.dependencies,
        Supplied gen digests profileDigest deps := by
  unfold checkPolicyDependencies
  cases release.policy with
  | none => simp
  | some policy =>
    simp only [Option.mem_some, forall_eq']
    cases policy.dependencies with
    | none => simp
    | some =>
      simp only [Option.mem_some, exists_eq_left', guard_ok, not_or, not_not, and_true]
      constructor
      · rintro ⟨⟨manifest, profile, version⟩, listed, ⟨-, shown⟩, edge⟩
        exact ⟨⟨manifest, listed⟩, ⟨profile, shown⟩, version, edge⟩
      · rintro ⟨⟨manifest, listed⟩, ⟨profile, shown⟩, version, edge⟩
        exact ⟨⟨manifest, profile, version⟩, listed, ⟨shown ▸ profile, shown⟩, edge⟩

def DependenciesMet (P : Platform) (gen : AssetGeneration) : Prop :=
  ∃ digests, manifestDigests P gen.members = .ok digests ∧
    ∀ item ∈ inEffect gen.members, ∀ a ∈ gateArtifact item,
      ∀ policy ∈ gatePolicy P item.releaseId a, ∃ deps ∈ policy.dependencies,
          Supplied gen digests (profileDigestOf P gen) deps

theorem edgeVersionCompatible_minimum (version : String) :
    edgeVersionCompatible version minimumEdgeVersion = true := by
  have dev : trimVersion minimumEdgeVersion = "dev" := by decide
  simp [edgeVersionCompatible, dev]

theorem validateGenerationDependencies_ok {next}
    (compiled : compileGeneration P now set gen = .ok next)
    (version : gen.minEdgeVersion = minimumEdgeVersion) :
    validateGenerationDependencies P gen next = .ok () ↔ DependenciesMet P gen := by
  have stated : minimumEdgeVersion ≠ "" := by decide
  have digest : ∀ digests, (∀ row ∈ next.releases.rows,
      checkPolicyDependencies gen digests (profileDigestOf P gen) row.2 =
        .ok ()) ↔ _ := fun digests =>
    (forall₂_congr fun row _ => checkPolicyDependencies_ok).trans
      (compileGeneration_rows compiled fun _ _ policy _ => ∀ c ∈ policy, ∃ deps ∈ c.dependencies,
          Supplied gen digests (profileDigestOf P gen) deps)
  have profile := compileGeneration_profile compiled
  simp only [validateGenerationDependencies, version, seq_ok, ensure_ok,
    decide_eq_true_eq, edgeVersionCompatible_minimum, profile, forM_ok]
  constructor
  · rintro ⟨_, -, _, -, digests, listed, rows⟩
    exact ⟨digests, listed, (digest digests).mp rows⟩
  · rintro ⟨digests, listed, members⟩
    exact ⟨(), stated, (), trivial, digests, listed, (digest digests).mpr members⟩

/-! ## Envelopes that an edge can load -/

def Compiles (P : Platform) (item : ReleaseItem) : Prop :=
  ∃ a, item.artifact = some a ∧ (∃ member, compileMember P item.releaseId a = .ok member) ∧
    (gateKind a.kind = true → PercentOk item)

structure Loads (P : Platform) (now : Int) (gen : AssetGeneration) :
    Prop where
  named : ∀ item ∈ gen.members, item.releaseId ≠ ""
  compiles : ∀ item ∈ gen.members, Compiles P item
  dependencies : DependenciesMet P gen
  unexpired : ∀ item ∈ gen.members, ∀ a ∈ gateArtifact item, now < expiry a now

/-- Signed by the brain, and not in the future. -/
structure Trusted (P : Platform) (now : Int) (gen : AssetGeneration) :
    Prop where
  signed : verifyGeneration P.verifier gen = .ok ()
  members : ∀ item ∈ gen.members, ∀ a ∈ item.artifact, verifyArtifact P.verifier a = .ok ()
  due : ∀ notBefore ∈ gen.notBefore, notBefore ≤ now

theorem admits_iff_compiles (kept : item.retired = false)
    (verified : ∀ a ∈ item.artifact, verifyArtifact P.verifier a = .ok ()) :
    Admits P now item ↔ Compiles P item ∧ ∀ a ∈ gateArtifact item, now < expiry a now := by
  cases artifact : item.artifact with
  | none => simp [Admits, Compiles, artifact]
  | some a =>
    simp only [Admits, Compiles, gateArtifact, artifact, kept,
      verified a artifact, Option.some.injEq, exists_eq_left',
      Bool.false_eq_true, false_or, true_and, Bool.not_false,
      Option.mem_def, Option.filter_eq_some_iff]
    constructor
    · rintro ⟨member, compiled, fresh⟩
      rw [compileMember_gateSide compiled] at fresh
      refine ⟨⟨⟨member, compiled⟩, fun gate => (fresh gate).1⟩, ?_⟩
      rintro _ ⟨rfl, gate⟩
      exact (fresh gate).2
    · rintro ⟨⟨⟨member, compiled⟩, percent⟩, fresh⟩
      refine ⟨member, compiled, ?_⟩
      rw [compileMember_gateSide compiled]
      intro gate
      exact ⟨percent gate, fresh a ⟨rfl, gate⟩⟩

theorem checkMember_ok :
    checkMember P item = .ok () ↔ item.releaseId ≠ "" ∧
      ∃ a, item.artifact = some a ∧ a.kind ≠ .listenPlan ∧
        verifyArtifact P.verifier a = .ok () := by
  unfold checkMember
  cases item.artifact with
  | none => simp
  | some a =>
    by_cases unnamed : item.releaseId = ""
    · simp [unnamed]
    · by_cases plan : a.kind = .listenPlan <;> simp [unnamed, plan]

theorem Compiles.kind {a} (h : Compiles P item) (artifact : item.artifact = some a) :
    a.kind ≠ .listenPlan := by
  obtain ⟨_, same, ⟨_, compiled⟩, -⟩ := h
  cases artifact.symm.trans same
  intro plan
  simp [compileMember, plan] at compiled

theorem succession_follows {current} (h : Follows assetId current gen) :
    succession current gen = .ok gen := by
  cases current with
  | none => rfl
  | some current =>
    have asset := (h.before current rfl).1
    have seq := h.seq
    have parent := h.parent
    have rollback := h.rollback
    simp only [Option.map_some, Option.getD_some] at seq parent rollback
    have next : ¬ gen.generationSeq = current.generationSeq := by omega
    have newer : ¬ gen.generationSeq < current.generationSeq := by omega
    have near : ¬ current.generationSeq + 1 < gen.generationSeq := by omega
    have replaced : ¬ (gen.rollbackOf ≠ 0 ∧ gen.rollbackOf ≠ current.generationSeq) := by omega
    simp [succession, checkSuccession, h.asset.1, asset, next, newer, near, parent, replaced]

theorem applyGeneration_succeeds {persist} (stored : ∀ previous gen, persist previous gen = .ok ())
    (next : Follows assetId set.activeGen gen) (trusted : Trusted P now gen) :
    (∃ set', applyGeneration P now persist set gen = .ok set') ↔ Loads P now gen := by
  have admitted : ∀ item ∈ gen.members, Admits P now item ↔
      Compiles P item ∧ ∀ a ∈ gateArtifact item, now < expiry a now :=
    fun item present => admits_iff_compiles (next.members item present).1
      (trusted.members item present)
  simp only [applyGeneration_ok]
  constructor
  · rintro ⟨_, _, compiled, envelope, -, done, valid, -, -⟩
    have loaded := compileGeneration_succeeds.mp ⟨compiled, done⟩
    refine ⟨?_, ?_, ?_, ?_⟩
    · intro item present
      exact (checkMember_ok.mp (envelope.members item present)).1
    · intro item present
      exact ((admitted item present).mp (loaded item present)).1
    · exact (validateGenerationDependencies_ok done next.version).mp valid
    · intro item present
      exact ((admitted item present).mp (loaded item present)).2
  · intro loads
    obtain ⟨compiled, done⟩ := compileGeneration_succeeds.mpr
      fun item present => (admitted item present).mpr
        ⟨loads.compiles item present, loads.unexpired item present⟩
    have envelope : Sealed P now gen := by
      refine ⟨next.asset.1 ▸ next.asset.2, next.positive, ?_, trusted.signed, ?_⟩
      · intro item present
        obtain ⟨a, artifact⟩ := Option.isSome_iff_exists.mp (next.members item present).2
        exact checkMember_ok.mpr ⟨loads.named item present, a, artifact,
          (loads.compiles item present).kind artifact, trusted.members item present a artifact⟩
      · intro notBefore present
        have due := trusted.due notBefore present
        have skew : (0 : Int) ≤ clockSkew := by decide
        omega
    exact ⟨_, gen, compiled, envelope, succession_follows next, done,
      (validateGenerationDependencies_ok done next.version).mpr loads.dependencies, stored _ _, rfl⟩

theorem applyGeneration_moves {persist set'} (next : Follows assetId set.activeGen gen)
    (applied : applyGeneration P now persist set gen = .ok set') : set'.activeGen = some gen := by
  obtain ⟨_, _, -, placed, -, -, -, rfl⟩ := applyGeneration_ok.mp applied
  rw [succession_follows next] at placed
  cases placed
  rfl

/-- One pass brings the edge to the latest generation exactly if every
generation on the way can be loaded now. -/
theorem catchUpGenerations_latest_iff {P : Platform} {now : Int} {persist : Persist}
    {listGenerations : String → Int → Except String (List AssetGeneration)}
    {set : ReleaseSet} {changes : List Change} {assetId : String}
    {before later : List AssetGeneration}
    (published : (run Change.step {} changes).published assetId = before ++ later)
    (position : set.activeGen = before.getLast?)
    (transport : listGenerations assetId set.currentGenerationSeq = .ok later)
    (stored : ∀ previous gen, persist previous gen = .ok ())
    (trusted : ∀ gen ∈ later, Trusted P now gen) :
    (catchUpGenerations P now persist listGenerations (some ⟨assetId⟩)
        set).1.activeGen = (run Change.step {} changes).latest assetId ↔
      ∀ gen ∈ later, Loads P now gen := by
  have chained := run_chained changes
  have linked := chained assetId
  rw [published, linked_append, lastFrom_none, ← position] at linked
  have latest : (run Change.step {} changes).latest assetId = lastFrom set.activeGen later := by
    rw [chained.latest, published, ← lastFrom_none, lastFrom_append, lastFrom_none, position]
  rw [latest]
  by_cases unnamed : assetId = ""
  · cases later with
    | nil => simp [catchUpGenerations, unnamed]
    | cons => exact absurd unnamed linked.2.1.asset.2
  · simp only [catchUpGenerations, unnamed, if_false, transport]
    apply advance_last_iff (·.generationSeq) fun p gen => Follows assetId p gen ∧ Trusted P now gen
    · intro _ _ h
      exact h.1.increasing
    · intro _ _ h
      exact applyGeneration_succeeds stored h.1 h.2
    · intro _ _ _ h applied
      exact applyGeneration_moves h.1 applied
    · exact linked.2.and trusted

/-! ## A rule that has expired

The first rule of the shop is enforced for an hour and then retired; the
second one follows.  Two hours later, an edge that had loaded the first rule
in time gets to the second, and a new edge does not.
-/

instance {P : Platform} {now : Int} {gen : AssetGeneration} : Decidable (Trusted P now gen) :=
  decidable_of_iff (verifyGeneration P.verifier gen = .ok () ∧
      (∀ item ∈ gen.members, ∀ a ∈ item.artifact, verifyArtifact P.verifier a = .ok ()) ∧
      ∀ notBefore ∈ gen.notBefore, notBefore ≤ now)
    ⟨fun h => ⟨h.1, h.2.1, h.2.2⟩, fun h => ⟨h.signed, h.members, h.due⟩⟩

def historyEdge : Platform :=
  { shopEdge with
    verifier := { shopVerifier with
      verify := fun bytes sig => shopVerifier.verify bytes sig || sig = "signed " ++ bytes } }

def shopHistory : List Change :=
  ruleChanges "rel-1" unionRule ["shop"] issued ++ .commit {
    rel := .retired "rel-1" unionRule .ttl
    feed := true
    retired := true
    reason := .ttl
    signing := some brainKey
    now := issued + hour
    genId := fun _ => "gen-3" } ::
  ruleChanges "rel-2" passwdRule ["shop"] (issued + hour + 1)

def shopDatabase : Governance := run Change.step {} shopHistory

def shopTransport (assetId : String) (since : Int) : Except String (List AssetGeneration) :=
  .ok ((shopDatabase.published assetId).filter (since < ·.generationSeq))

def storeNothing : Persist := fun _ _ => .ok ()

def shopPass (set : ReleaseSet) : ReleaseSet × Option String :=
  catchUpGenerations historyEdge (issued + 2 * hour) storeNothing shopTransport (some ⟨"shop"⟩) set

example : (shopDatabase.published "shop").map (fun gen =>
    (gen.generationSeq, gen.members.map (·.releaseId))) =
      [(1, ["rel-1"]), (2, ["rel-1"]), (3, []), (4, ["rel-2"]), (5, ["rel-2"])] := by
  decide +kernel

/-- A new edge stops at the first generation, although the latest one has no
expired member. -/
theorem catchUpGenerations_stuck :
    (∀ gen ∈ shopDatabase.published "shop", Trusted historyEdge (issued + 2 * hour) gen) ∧
      (∀ gen ∈ shopDatabase.latest "shop", ∀ item ∈ gen.members, ∀ a ∈ gateArtifact item,
          issued + 2 * hour < expiry a (issued + 2 * hour)) ∧
      (shopDatabase.latest "shop").map (·.generationSeq) = some 5 ∧
      (shopPass (newReleaseSet "dev")).1.activeGen = none ∧
      (shopPass (newReleaseSet "dev")).2 = some "release rel-1 is expired" ∧
      (shopPass (newReleaseSet "dev")).1.activeGen ≠ shopDatabase.latest "shop" := by
  have seq : (shopDatabase.latest "shop").map (·.generationSeq) = some 5 := by
    decide +kernel
  have stuck : (shopPass (newReleaseSet "dev")).1.activeGen = none := by
    decide +kernel
  refine ⟨by decide +kernel, by decide +kernel, seq, stuck, by decide +kernel, ?_⟩
  intro same
  rw [← same, stuck] at seq
  contradiction

instance {gen : AssetGeneration} {digests : List String}
    {profileDigest : String} {deps : PolicyDependencies} :
    Decidable (Supplied gen digests profileDigest deps) :=
  decidable_of_iff ((deps.detectorManifestDigest ≠ "" ∧ deps.detectorManifestDigest ∈ digests) ∧
      (deps.normalizerProfileDigest ≠ "" ∧ deps.normalizerProfileDigest = profileDigest) ∧
      deps.minEdgeVersion ≠ "" ∧ deps.minEdgeVersion = gen.minEdgeVersion)
    ⟨fun h => ⟨h.1, h.2.1, h.2.2⟩, fun h => ⟨h.manifest, h.profile, h.version⟩⟩

instance {P : Platform} {gen : AssetGeneration} : Decidable (DependenciesMet P gen) :=
  match listed : manifestDigests P gen.members with
  | .error _ => isFalse fun ⟨_, same, _⟩ => by simp [listed] at same
  | .ok digests => decidable_of_iff (∀ item ∈ inEffect gen.members, ∀ a ∈ gateArtifact item,
        ∀ policy ∈ gatePolicy P item.releaseId a, ∃ deps ∈ policy.dependencies,
            Supplied gen digests (profileDigestOf P gen) deps)
      (by simp [DependenciesMet, listed])

instance {item : ReleaseItem} : Decidable (PercentOk item) := inferInstanceAs (Decidable (_ → _))

instance {P : Platform} {item : ReleaseItem} : Decidable (Compiles P item) :=
  decidable_of_iff (∃ a ∈ item.artifact, (compileMember P item.releaseId a).toBool = true ∧
      (gateKind a.kind = true → PercentOk item))
    (by
      refine exists_congr fun a => and_congr_right fun _ =>
        and_congr_left fun _ => ?_
      cases compileMember P item.releaseId a with
      | error => simp [Except.toBool]
      | ok => simp [Except.toBool])

instance {P : Platform} {now : Int} {gen : AssetGeneration} : Decidable (Loads P now gen) :=
  decidable_of_iff ((∀ item ∈ gen.members, item.releaseId ≠ "") ∧
      (∀ item ∈ gen.members, Compiles P item) ∧ DependenciesMet P gen ∧
      ∀ item ∈ gen.members, ∀ a ∈ gateArtifact item, now < expiry a now)
    ⟨fun h => ⟨h.1, h.2.1, h.2.2.1, h.2.2.2⟩,
      fun h => ⟨h.named, h.compiles, h.dependencies, h.unexpired⟩⟩

def shopEarly : ReleaseSet :=
  { newReleaseSet "dev" with
    activeGen := ((shopDatabase.published "shop").take 2).getLast? }

theorem catchUpGenerations_latest_early :
    (shopDatabase.latest "shop").map (·.generationSeq) = some 5 ∧
      (shopPass shopEarly).1.activeGen = shopDatabase.latest "shop" := by
  refine ⟨by decide +kernel, ?_⟩
  refine (catchUpGenerations_latest_iff
    (List.take_append_drop 2 _).symm rfl ?_ (fun _ _ => rfl) ?_).mpr ?_
  · decide +kernel
  · decide +kernel
  · decide +kernel

end YuFeng.Edge

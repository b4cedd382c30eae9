import YuFeng.Edge.Generation

/-!
# When a generation loads

Whether a member can be applied does not depend on the set it is applied to,
and depends on the clock in one way only: a rule, a policy or a shape must not
have expired.  Loaded at two different times, a generation gives the same
content: only the deadlines of its releases may differ.
-/

namespace YuFeng.Edge

open YuFeng.Library YuFeng.Kernel

variable {now now' : Int} {item : ReleaseItem} {a : Artifact}
  {set set' : ReleaseSet} {P : Platform} {gen : AssetGeneration} {detector : Option RuleDetector}
  {policy : Option PolicyCandidate} {shape : Option CompiledShape} {member : Member}
  {next s s' : ReleaseSet}

def Member.gateSide : Member → Bool
  | .rule _ | .policy _ | .shape _ => true
  | _ => false

def PercentOk (item : ReleaseItem) : Prop :=
  item.mode = .canary → canaryPercentMin ≤ item.canaryPercent ∧
      item.canaryPercent ≤ canaryPercentMax

def Admits (P : Platform) (now : Int) (item : ReleaseItem) : Prop :=
  ∃ a, item.artifact = some a ∧ (item.retired = true ∨ verifyArtifact P.verifier a = .ok () ∧
      ∃ member, compileMember P item.releaseId a = .ok member ∧
        (member.gateSide = true → PercentOk item ∧ now < expiry a now))

theorem admitRelease_ok : admitRelease now item a detector policy shape set = .ok set' ↔
      (PercentOk item ∧ now < expiry a now) ∧
        set' = putRelease (expiry a now) item a detector policy shape set := by
  rw [admitRelease, guard_ok, guard_ok, Except.ok.injEq, and_assoc, eq_comm (b := set')]
  refine and_congr ?_ (and_congr_left' Int.not_le)
  simp only [PercentOk, not_and, not_or, Int.not_lt]

theorem install_ok : (∃ set', install now item a set member = .ok set') ↔
      (member.gateSide = true → PercentOk item ∧ now < expiry a now) := by
  cases member <;>
    simp [install, admitRelease_ok, Member.gateSide]

theorem apply_ok : apply P now set item = .ok set' ↔ ∃ a, item.artifact = some a ∧
      (item.retired = true ∧ set' = retire item.releaseId set ∨
        item.retired = false ∧ verifyArtifact P.verifier a = .ok () ∧
        ∃ member, compileMember P item.releaseId a = .ok member ∧
          install now item a set member = .ok set') := by
  unfold apply
  cases artifact : item.artifact with
  | none => simp
  | some a =>
    cases retired : item.retired with
    | true =>
      simp only [if_true, Except.ok.injEq, Option.some.injEq,
        exists_eq_left', true_and, Bool.true_eq_false, false_and, or_false]
      exact eq_comm
    | false =>
      simp only [Bool.false_eq_true, if_false, Option.some.injEq,
        exists_eq_left', true_and, false_and, false_or]
      change (within item.releaseId "" (verifyArtifact P.verifier a)).bind
        (fun _ => (compileMember P item.releaseId a).bind (install now item a set)) = .ok set' ↔ _
      simp only [within, bind_ok, mapError_ok]
      exact ⟨fun ⟨_, verified, member⟩ => ⟨verified, member⟩,
        fun ⟨verified, member⟩ => ⟨(), verified, member⟩⟩

theorem admits_iff : (∃ set', apply P now set item = .ok set') ↔ Admits P now item := by
  simp only [apply_ok, Admits]
  constructor
  · rintro ⟨set', a, artifact, ⟨retired, -⟩ | ⟨-, verified, member, compiled, installed⟩⟩
    · exact ⟨a, artifact, .inl retired⟩
    · exact ⟨a, artifact, .inr ⟨verified, member, compiled, install_ok.mp ⟨set', installed⟩⟩⟩
  · rintro ⟨a, artifact, applicable⟩
    cases retired : item.retired with
    | true => exact ⟨_, a, artifact, .inl ⟨rfl, rfl⟩⟩
    | false =>
      simp only [retired, Bool.false_eq_true, false_or] at applicable
      obtain ⟨verified, member, compiled, fresh⟩ := applicable
      obtain ⟨set', installed⟩ := install_ok.mpr fresh
      exact ⟨set', a, artifact, .inr ⟨rfl, verified, member, compiled, installed⟩⟩

theorem compileGeneration_succeeds : (∃ next, compileGeneration P now set gen = .ok next) ↔
      ∀ item ∈ gen.members, Admits P now item :=
  foldlM_succeeds (apply P now) (Admits P now) fun _ _ => admits_iff

/-! ## Deadlines -/

def Unexpired (now : Int) (set : ReleaseSet) : Prop :=
  ∀ row ∈ set.releases.rows, now < row.2.expiresAt

theorem Unexpired.apply (h : Unexpired now set)
    (applied : apply P now set item = .ok set') : Unexpired now set' := by
  obtain ⟨_, -, ⟨-, rfl⟩ | ⟨-, -, member, -, installed⟩⟩ :=
    apply_ok.mp applied
  · intro row present
    exact h row (List.mem_filter.mp present).1
  · cases member with
    | rule _ | policy _ | shape _ =>
      obtain ⟨⟨-, young⟩, rfl⟩ := admitRelease_ok.mp installed
      intro row present
      rcases Table.mem_set.mp present with rfl | ⟨old, -⟩
      · exact young
      · exact h row old
    | _ =>
      simp only [install, Except.ok.injEq] at installed
      exact installed ▸ h

theorem compileGeneration_unexpired (h : compileGeneration P now set gen = .ok next) :
    Unexpired now next := by
  refine foldlM_invariant (Unexpired now) ?_ h ?_
  · intro _ _ _ applied unexpired
    exact unexpired.apply applied
  · intro _ present
    simp [newReleaseSet, Table.empty] at present

def ManagedRelease.undated (r : ManagedRelease) : ManagedRelease :=
  { r with expiresAt := 0 }

def ReleaseSet.content (set : ReleaseSet) : ReleaseSet :=
  { set with
    releases := set.releases.update ManagedRelease.undated
    posture := .unspecified }

theorem putRelease_content {deadline} :
    (putRelease deadline item a detector policy shape set).content =
      putRelease 0 item a detector policy shape set.content := by
  simp only [ReleaseSet.content, putRelease, Table.update_set]
  rfl

theorem install_content (h : install now item a set member = .ok s)
    (h' : install now' item a set' member = .ok s')
    (same : set.content = set'.content) : s.content = s'.content := by
  cases member with
  | rule _ | policy _ | shape _ =>
    obtain ⟨-, rfl⟩ := admitRelease_ok.mp h
    obtain ⟨-, rfl⟩ := admitRelease_ok.mp h'
    rw [putRelease_content, putRelease_content, same]
  | inspector inspector =>
    simp only [install, Except.ok.injEq] at h h'
    rw [← h, ← h']
    exact congrArg (installInspector item.releaseId inspector) same
  | _ =>
    simp only [install, Except.ok.injEq] at h h'
    subst h h'
    simp only [ReleaseSet.content, ReleaseSet.mk.injEq] at same ⊢
    simp [same]

theorem apply_content (h : apply P now set item = .ok s)
    (h' : apply P now' set' item = .ok s') (same : set.content = set'.content)
    : s.content = s'.content := by
  obtain ⟨a, artifact, applied⟩ := apply_ok.mp h
  obtain ⟨a', artifact', applied'⟩ := apply_ok.mp h'
  obtain rfl := Option.mem_unique artifact artifact'
  rcases applied with ⟨retired, rfl⟩ | ⟨kept, -, member, compiled, installed⟩
  · rcases applied' with ⟨-, rfl⟩ | ⟨kept, -⟩
    · have retiredSame := congrArg (retire item.releaseId) same
      simp only [retire, ReleaseSet.content, Table.update_erase] at retiredSame ⊢
      exact retiredSame
    · simp [retired] at kept
  · rcases applied' with ⟨retired, -⟩ | ⟨-, -, member', compiled', installed'⟩
    · simp [kept] at retired
    · obtain rfl : member = _ := by simpa [compiled] using compiled'
      exact install_content installed installed' same

theorem compileGeneration_content {next'} (h : compileGeneration P now set gen = .ok next)
    (h' : compileGeneration P now' set' gen = .ok next')
    (version : set.edgeVersion = set'.edgeVersion) : next.content = next'.content := by
  refine foldlM_related (fun s s' => s.content = s'.content) ?_ h h' ?_
  · intro _ _ _ _ _ applied applied' same
    exact apply_content applied applied' same
  · rw [version]
    rfl

theorem validateGenerationDependencies_content (next : ReleaseSet) :
    validateGenerationDependencies P gen next.content =
      validateGenerationDependencies P gen next := by
  unfold validateGenerationDependencies
  simp only [ReleaseSet.content, Table.update, forM_map]
  rfl

/-! ## Envelopes -/

structure Sealed (P : Platform) (now : Int) (gen : AssetGeneration) :
    Prop where
  asset : gen.assetId ≠ ""
  positive : 0 < gen.generationSeq
  members : ∀ item ∈ gen.members, checkMember P item = .ok ()
  signed : verifyGeneration P.verifier gen = .ok ()
  due : ∀ notBefore ∈ gen.notBefore, notBefore - now ≤ clockSkew

theorem Sealed.later (h : Sealed P now gen) (order : now ≤ now') : Sealed P now' gen := by
  refine ⟨h.asset, h.positive, h.members, h.signed, ?_⟩
  intro notBefore present
  have := h.due notBefore present
  omega

theorem load_ok {current next active} :
    load P now current next = .ok active ↔
      Sealed P now next ∧ succession current next = .ok active := by
  simp only [load, seq_ok, ensure_ok, Bool.and_eq_true, decide_eq_true_eq]
  constructor
  · rintro ⟨_, ⟨asset, positive⟩, _, members, _, signed, _, due, placed⟩
    refine ⟨⟨asset, positive, forM_ok.mp members, signed, ?_⟩, placed⟩
    intro notBefore present
    simpa [show next.notBefore = some notBefore from present] using due
  · rintro ⟨⟨asset, positive, members, signed, due⟩, placed⟩
    refine ⟨(), ⟨asset, positive⟩, (), forM_ok.mpr members, (), signed, (), ?_, placed⟩
    cases notBefore : next.notBefore with
    | none => rfl
    | some time => simpa using due time notBefore

theorem applyGeneration_ok {persist} :
    applyGeneration P now persist set gen = .ok set' ↔ ∃ active next, Sealed P now gen ∧
        succession set.activeGen gen = .ok active ∧ compileGeneration P now set gen = .ok next ∧
        validateGenerationDependencies P gen next = .ok () ∧ persist set.activeGen gen = .ok () ∧
        set' = swapFrom set next active := by
  simp only [applyGeneration, seq_ok, load_ok, mapError_ok, pure_ok]
  constructor
  · rintro ⟨active, ⟨sealed', placed⟩, next, compiled, _, valid, _, stored, rfl⟩
    exact ⟨active, next, sealed', placed, compiled, valid, stored, rfl⟩
  · rintro ⟨active, next, sealed', placed, compiled, valid, stored, rfl⟩
    exact ⟨active, ⟨sealed', placed⟩, next, compiled, (), valid, (), stored, rfl⟩

end YuFeng.Edge

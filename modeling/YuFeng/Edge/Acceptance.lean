import YuFeng.Brain.Signing
import YuFeng.Edge.CatchUp

/-!
# The generation store

A store holds the envelope in effect and the one before it.  It accepts a
signed envelope of its asset that follows the current one, or that is signed
to replace it by an older one, and a store that starts empty accepts what the
brain publishes, in that order.
-/

namespace YuFeng.Edge

open YuFeng.Library YuFeng.Kernel YuFeng.Brain List

structure GenerationStore where
  current : Option AssetGeneration := none
  prev : Option AssetGeneration := none
  loadErrors : Nat := 0
  diskFull : Bool := false
  degraded : Bool := false

def checkEnvelope (P : Platform) (next : AssetGeneration) : Except String Unit := do
  ensure (next.assetId ≠ "" && 0 < next.generationSeq) "generation envelope is incomplete"
  next.members.forM (checkMember P)
  verifyGeneration P.verifier next

def GenerationStore.load (P : Platform) (now : Int) (s : GenerationStore)
    (next : AssetGeneration) : Except String Unit × GenerationStore :=
  match checkEnvelope P next with
  | .error message =>
    (.error message, { s with loadErrors := s.loadErrors + 1 })
  | .ok () =>
    if next.notBefore.any fun time => clockSkew < time - now then
      (.error "generation not_before not yet valid", s)
    else if s.diskFull then
      (.error "disk full: refuse new generation", { s with degraded := true })
    else match succession s.current next with
      | .error message => (.error message, s)
      | .ok _ =>
        -- The envelope in effect is accepted again without a change.
        if s.current.any (·.generationSeq = next.generationSeq) then
          (.ok (), s)
        else (.ok (), { s with
          prev := s.current.or s.prev, current := some next })

def GenerationStore.loadAll (P : Platform) (s : GenerationStore)
    (loads : List (Int × AssetGeneration)) : GenerationStore :=
  loads.foldl (fun s offer => (s.load P offer.1 offer.2).2) s

variable {P : Platform} {now : Int} {s : GenerationStore} {next : AssetGeneration}

theorem checkEnvelope_ok (due : ∀ time ∈ next.notBefore, time - now ≤ clockSkew) :
    checkEnvelope P next = .ok () ↔ Sealed P now next := by
  simp only [checkEnvelope, seq_ok, ensure_ok, Bool.and_eq_true, decide_eq_true_eq]
  constructor
  · rintro ⟨_, ⟨asset, positive⟩, _, members, signed⟩
    exact ⟨asset, positive, forM_ok.mp members, signed, due⟩
  · intro h
    exact ⟨(), ⟨h.asset, h.positive⟩, (), forM_ok.mpr h.members, h.signed⟩

/-- What `Load` does with an envelope. -/
theorem GenerationStore.load_cases :
    (∃ message, (s.load P now next).1 = .error message ∧ (s.load P now next).2.current = s.current ∧
      (s.load P now next).2.prev = s.prev) ∨
    (s.load P now next).1 = .ok () ∧ Sealed P now next ∧
      ∃ active, succession s.current next = .ok active := by
  unfold load
  cases envelope : checkEnvelope P next with
  | error message => exact .inl ⟨message, rfl, rfl, rfl⟩
  | ok =>
    dsimp only
    split
    · exact .inl ⟨_, rfl, rfl, rfl⟩
    next early =>
      split
      · exact .inl ⟨_, rfl, rfl, rfl⟩
      · cases placed : succession s.current next with
        | error message => exact .inl ⟨message, rfl, rfl, rfl⟩
        | ok active =>
          have due : ∀ time ∈ next.notBefore, time - now ≤ clockSkew := by
            intro time present
            rw [Option.any_eq_true] at early
            by_contra late
            exact early ⟨time, present, decide_eq_true (by omega)⟩
          refine .inr ⟨?_, (checkEnvelope_ok due).mp envelope, active, rfl⟩
          dsimp only
          split <;> rfl

theorem GenerationStore.load_follows {assetId} (room : s.diskFull = false)
    (sealing : Sealed P now next) (follows : Follows assetId s.current next) :
    s.load P now next = (.ok (), { s with prev := s.current.or s.prev, current := some next })
    := by
  have fits : next.notBefore.any (fun time => clockSkew < time - now) =
      false := by
    rw [← Bool.not_eq_true, Option.any_eq_true]
    rintro ⟨time, present, late⟩
    have := sealing.due time present
    rw [decide_eq_true_eq] at late
    omega
  have newer : s.current.any (·.generationSeq = next.generationSeq) =
      false := by
    rw [← Bool.not_eq_true, Option.any_eq_true]
    rintro ⟨_, present, same⟩
    rw [present] at follows
    have := follows.increasing
    rw [decide_eq_true_eq] at same
    omega
  simp [load, (checkEnvelope_ok sealing.due).mpr sealing, fits, room,
    succession_follows follows, newer]

theorem checkSuccession_ok {current active} (h : checkSuccession current next = .ok active) :
    next.assetId = current.assetId ∧ (next.generationId = current.generationId ∧
          next.generationSeq = current.generationSeq ∨
        next.generationSeq = current.generationSeq + 1 ∧
          next.parentGenerationId = current.generationId ∨
        next.generationSeq < current.generationSeq ∧
          next.rollbackOf = current.generationSeq ∧
          next.parentGenerationId = current.generationId) := by
  rw [checkSuccession, guard_ok] at h
  obtain ⟨asset, h⟩ := h
  refine ⟨not_not.mp asset, ?_⟩
  split at h
  next seq =>
    split at h
    next id => exact .inl ⟨id, seq⟩
    · cases h
  rename_i other
  rw [guard_ok, guard_ok, guard_ok, guard_ok] at h
  obtain ⟨rollback, parent, skip, linked, -⟩ := h
  rcases Int.lt_trichotomy next.generationSeq current.generationSeq with
    older | same | _
  · refine .inr (.inr ⟨older, ?_, ?_⟩)
    · exact not_not.mp fun wrong => rollback ⟨older, wrong⟩
    · exact not_not.mp fun wrong => parent ⟨older, wrong⟩
  · exact absurd same other
  · have next : next.generationSeq = current.generationSeq + 1 := by omega
    exact .inr (.inl ⟨next, not_not.mp fun wrong => linked ⟨next, wrong⟩⟩)

/-- The store holds the last envelope of a chain that was offered to it. -/
theorem GenerationStore.loadAll_linked {assetId done}
    (linked : Linked (Follows assetId) none (done.map Prod.snd))
    (fits : ∀ offer ∈ done, Sealed P offer.1 offer.2) :
    (loadAll P {} done).diskFull = false ∧
      (loadAll P {} done).current = (done.map Prod.snd).getLast? := by
  induction done using List.reverseRecOn with
  | nil => exact ⟨rfl, rfl⟩
  | append_singleton done offer ih =>
    rw [map_append, linked_append, lastFrom_none] at linked
    obtain ⟨room, current⟩ := ih linked.1 fun o before => fits o (mem_append_left _ before)
    have accepted := load_follows room (fits offer (mem_append_right _ mem_cons_self))
      (current ▸ linked.2.1)
    have last : loadAll P {} (done ++ [offer]) =
        ((loadAll P {} done).load P offer.1 offer.2).2 := by
      simp [loadAll]
    rw [last, accepted]
    exact ⟨room, by simp⟩

/-- The store accepts nothing but signed successors and signed rollbacks, is
unchanged by what it rejects, and accepts what the brain publishes. -/
theorem generation_chain {key : Key} {writes : List Write} {assetId : String}
    {loads : List (Int × AssetGeneration)} (signs : Signs P.verifier key)
    (signed : ∀ w ∈ writes, w.Signed P.verifier key)
    (order : loads.map Prod.snd = (run Write.step {} writes).published assetId)
    (due : ∀ offer ∈ loads, ∀ time ∈ offer.2.notBefore, time - offer.1 ≤ clockSkew) :
    (∀ now (s : GenerationStore) next, (s.load P now next).1 = .ok () →
      verifyGeneration P.verifier next = .ok () ∧
      ∀ current ∈ s.current, next.assetId = current.assetId ∧
        (next.generationId = current.generationId ∧ next.generationSeq = current.generationSeq ∨
          next.generationSeq = current.generationSeq + 1 ∧
            next.parentGenerationId = current.generationId ∨
          next.generationSeq < current.generationSeq ∧
            next.rollbackOf = current.generationSeq ∧
            next.parentGenerationId = current.generationId)) ∧
    (∀ now (s : GenerationStore) next message, (s.load P now next).1 = .error message →
      (s.load P now next).2.current = s.current ∧ (s.load P now next).2.prev = s.prev) ∧
    ∀ done offer, done ++ [offer] <+: loads →
      ((GenerationStore.loadAll P {} done).load P offer.1 offer.2).1 = .ok () := by
  refine ⟨fun now s next accepted => ?_, fun now s next message rejected => ?_, ?_⟩
  · rcases s.load_cases with ⟨_, rejected, -⟩ | ⟨-, sealing, _, ok⟩
    · rw [rejected] at accepted
      cases accepted
    · refine ⟨sealing.signed, fun current present => ?_⟩
      rw [present] at ok
      exact checkSuccession_ok ok
  · rcases s.load_cases with ⟨_, -, same⟩ | ⟨accepted, -⟩
    · exact same
    · rw [accepted] at rejected
      cases rejected
  · obtain ⟨chained, vouched⟩ := run_vouched signs signed
    have linked := chained assetId
    rw [← order] at linked
    have follows : ∀ {front : List (Int × AssetGeneration)} {offer rest},
        front ++ offer :: rest = loads → Linked (Follows assetId) none (front.map Prod.snd) ∧
          Follows assetId (front.map Prod.snd).getLast? offer.2 := by
      rintro _ _ _ rfl
      rw [map_append, linked_append, lastFrom_none] at linked
      exact ⟨linked.1, linked.2.1⟩
    have fits : ∀ offer ∈ loads, Sealed P offer.1 offer.2 := by
      intro offer present
      obtain ⟨_, _, whole⟩ := append_of_mem present
      obtain ⟨-, next⟩ := follows whole.symm
      have published : offer.2 ∈ (run Write.step {} writes).published assetId :=
        order ▸ mem_map_of_mem present
      obtain ⟨valid, members⟩ := vouched.generations _ (mem_filter.mp published).1
      exact ⟨next.asset.1 ▸ next.asset.2, next.positive,
        fun item member => checkMember_ok.mpr (members item member), valid, due offer present⟩
    rintro _ offer ⟨_, whole⟩
    rw [append_assoc] at whole
    obtain ⟨chain, next⟩ := follows whole
    obtain ⟨room, current⟩ := GenerationStore.loadAll_linked chain
      fun o before => fits o (whole ▸ mem_append_left _ before)
    rw [GenerationStore.load_follows room (fits offer (whole ▸ by simp)) (current ▸ next)]

/-! ## The two generations of a new rule -/

def sealedEdge : Platform :=
  { historyEdge with
    verifier := { historyEdge.verifier with canonicalBytes := fun _ => "" } }

def brainSigner : Key := fun bytes => .ok ⟨"brain", "signed " ++ bytes⟩

theorem brainSigner_signs : Signs sealedEdge.verifier brainSigner := by
  refine ⟨rfl, fun bytes signature made => ?_⟩
  cases made
  refine ⟨?_, by simp [sealedEdge, historyEdge]⟩
  intro empty
  simp [String.append_eq_empty_iff] at empty

def gatedRule : Artifact :=
  { plainRule (sealedEdge.verifier.artifactID (plainRule "" "")) "" with
    signature := some ⟨"brain", "signed "⟩ }

theorem gatedRule_signed : SignedBy sealedEdge.verifier brainSigner gatedRule := by
  refine ⟨plainRule "" "", by decide, ?_⟩
  simp [signArtifact, plainRule, brainSigner, gatedRule, sealedEdge, Except.map]

def ruleWrites : List Write := (ruleChanges "rel-1" gatedRule ["shop"] 0).map .change

def ruleOffers : List (Int × AssetGeneration) :=
  ((run Write.step {} ruleWrites).published "shop").map fun gen => (10, gen)

theorem generation_chain_rule : ruleOffers.map (fun offer => offer.2.generationSeq) = [1, 2] ∧
      ∀ done offer, done ++ [offer] <+: ruleOffers →
        ((GenerationStore.loadAll sealedEdge {} done).load sealedEdge offer.1
          offer.2).1 = .ok () := by
  have own : brainKey = signGeneration sealedEdge.verifier brainSigner := rfl
  have signed : ∀ w ∈ ruleWrites, w.Signed sealedEdge.verifier brainSigner := by
    simp [ruleWrites, ruleChanges, keyedWrite, Write.Signed, Release.sealing, gatedRule_signed, own]
  have order : ruleOffers.map Prod.snd = (run Write.step {} ruleWrites).published "shop" := by
    simp [ruleOffers, Function.comp_def]
  have due : ∀ offer ∈ ruleOffers, ∀ time ∈ offer.2.notBefore, time - offer.1 ≤ clockSkew := by
    decide +kernel
  exact ⟨by decide +kernel, (generation_chain brainSigner_signs signed order due).2.2⟩

end YuFeng.Edge

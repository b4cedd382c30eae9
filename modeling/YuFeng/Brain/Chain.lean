import YuFeng.Brain.Publication
import YuFeng.Library.Chain

/-!
# The generations of an asset

The generations of one asset form a chain: sequence numbers are consecutive,
every envelope names the one before it as its parent, and a rollback names the
sequence number that it replaces.
-/

namespace YuFeng.Brain

open YuFeng.Library YuFeng.Kernel

variable {assetId : String} {db db' : Governance}

def Governance.published (db : Governance) (assetId : String) : List AssetGeneration :=
  db.generations.filter (·.assetId = assetId)

structure Follows (assetId : String) (previous : Option AssetGeneration)
    (gen : AssetGeneration) : Prop where
  asset : gen.assetId = assetId ∧ assetId ≠ ""
  before : ∀ p ∈ previous, p.assetId = assetId ∧ 0 < p.generationSeq
  seq : gen.generationSeq = (previous.map (·.generationSeq)).getD 0 + 1
  parent : gen.parentGenerationId = (previous.map (·.generationId)).getD ""
  rollback : gen.rollbackOf = 0 ∨ gen.rollbackOf = (previous.map (·.generationSeq)).getD 0
  version : gen.minEdgeVersion = minimumEdgeVersion
  members : ∀ item ∈ gen.members, item.retired = false ∧ item.artifact.isSome = true

theorem Follows.positive {previous gen} (h : Follows assetId previous gen) :
    0 < gen.generationSeq := by
  rw [h.seq]
  cases previous with
  | none => decide
  | some p =>
    have before := (h.before p rfl).2
    simp only [Option.map_some, Option.getD_some]
    omega

theorem Follows.increasing (p gen) (h : Follows assetId (some p) gen) :
    p.generationSeq < gen.generationSeq := by
  have seq := h.seq
  simp only [Option.map_some, Option.getD_some] at seq
  omega

def Chained (db : Governance) : Prop :=
  ∀ assetId, Linked (Follows assetId) none (db.published assetId)

theorem Chained.latest (h : Chained db) (assetId) :
    db.latest assetId = (db.published assetId).getLast? :=
  (h assetId).highest Follows.increasing

theorem members_kept :
    ∀ item ∈ db.members assetId, item.retired = false ∧ item.artifact.isSome = true := by
  intro _ present
  rcases List.mem_append.mp present with release | setting
  · obtain ⟨_, -, rfl⟩ := List.mem_map.mp release
    exact ⟨rfl, rfl⟩
  · obtain ⟨_, -, rfl⟩ := List.mem_map.mp setting
    exact ⟨rfl, rfl⟩

theorem linked_last {gens} (h : Linked (Follows assetId) none gens) :
    ∀ p ∈ gens.getLast?, p.assetId = assetId ∧ 0 < p.generationSeq := by
  induction gens using List.reverseRecOn with
  | nil => simp
  | append_singleton =>
    obtain ⟨-, last, -⟩ := linked_append.mp h
    rw [List.getLast?_concat]
    rintro _ ⟨⟩
    exact ⟨last.asset.1, last.positive⟩

theorem nextGeneration_follows (chained : Chained db) (now genId) (named : assetId ≠ "")
    (rollback signature) :
    Follows assetId (db.published assetId).getLast?
      { db.nextGeneration now genId assetId rollback with
        envelopeSignature := some signature } := by
  rw [← chained.latest]
  refine ⟨⟨rfl, named⟩, ?_, rfl, rfl, ?_, rfl, members_kept⟩
  · rw [chained.latest]
    exact linked_last (chained assetId)
  · cases rollback with
    | false => exact .inl rfl
    | true => exact .inr rfl

theorem publish_chained {signing now genId rollback}
    (h : publishAssetGeneration signing now genId assetId rollback db =
      .ok db') (chained : Chained db) : Chained db' := by
  rcases publishAssetGeneration_ok.mp h with
    ⟨-, rfl⟩ | ⟨_, signature, -, named, -, -, rfl⟩
  · exact chained
  · intro other
    by_cases here : other = assetId
    · subst here
      have added : (db.insertGeneration
          (db.nextGeneration now genId other rollback) signature).published
            other = db.published other ++
          [{ db.nextGeneration now genId other rollback with
            envelopeSignature := some signature }] := by
        simp [Governance.published, Governance.insertGeneration, Governance.nextGeneration]
      rw [added, linked_append, lastFrom_none]
      exact ⟨chained other, nextGeneration_follows chained now genId named
        rollback signature, trivial⟩
    · have kept : (db.insertGeneration
          (db.nextGeneration now genId assetId rollback) signature).published
            other = db.published other := by
        simp [Governance.published, Governance.insertGeneration,
          Governance.nextGeneration, Ne.symm here]
      rw [kept]
      exact chained other

theorem publish_all_chained {w : ReleaseWrite} {assetIds} (h : w.publish db assetIds = .ok db')
    (chained : Chained db) : Chained db' :=
  foldlM_invariant Chained (fun _ _ _ => publish_chained) h chained

theorem chained_of_generations (h : db'.generations = db.generations) (chained : Chained db) :
    Chained db' := by
  intro assetId
  rw [Governance.published, h]
  exact chained assetId

theorem step_chained (db) (change : Change) (chained : Chained db) : Chained (change.step db) := by
  unfold Change.step
  cases applied : change.apply db with
  | error => exact chained
  | ok =>
    cases change with
    | propose =>
      simp only [Change.apply, propose, seq_ok, pure_ok] at applied
      obtain ⟨_, -, rfl⟩ := applied
      exact chained_of_generations rfl chained
    | setting =>
      simp only [Change.apply, writeSetting, seq_ok] at applied
      obtain ⟨_, -, published⟩ := applied
      exact publish_chained published (chained_of_generations rfl chained)
    | commit w =>
      obtain ⟨mid, persisted, published⟩ := commitReleaseChange_ok.mp applied
      obtain ⟨_, _, -, -, -, rewrites⟩ := persistRelease_ok persisted
      have next : Chained (w.retireOld mid) := chained_of_generations
        ((retireOld_tables w mid).1.trans rewrites.generations) chained
      cases feeds : w.feed with
      | false =>
        rw [feeds] at published
        cases published
        exact next
      | true =>
        rw [feeds] at published
        exact publish_all_chained published next

theorem run_chained (changes) : Chained (run Change.step {} changes) :=
  run_always _ Chained step_chained (by exact fun _ => trivial) changes

theorem linked_numbered {gens previous} (h : Linked (Follows assetId) previous gens) :
    gens.map (·.generationSeq) = (List.range gens.length).map
        (fun i => (previous.map (·.generationSeq)).getD 0 + 1 + Int.ofNat i) ∧
      gens.map (·.parentGenerationId) =
        ((previous.map (·.generationId)).getD "" :: gens.map (·.generationId)).dropLast := by
  induction gens generalizing previous with
  | nil => simp
  | cons gen gens ih =>
    obtain ⟨seqs, parents⟩ := ih h.2
    constructor
    · simp [seqs, h.1.seq, List.range_succ_eq_map]
      omega
    · simp [parents, h.1.parent]

/-- Envelopes are numbered from 1, and each names the one before it. -/
theorem published_numbered (changes : List Change) (assetId : String) :
    ((run Change.step {} changes).published assetId).map (·.generationSeq) =
        (List.range ((run Change.step {} changes).published assetId).length).map
          (1 + Int.ofNat ·) ∧
      ((run Change.step {} changes).published assetId).map (·.parentGenerationId) =
        ("" :: ((run Change.step {} changes).published assetId).map (·.generationId)).dropLast :=
  linked_numbered (run_chained changes assetId)

end YuFeng.Brain

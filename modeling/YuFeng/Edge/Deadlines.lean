import YuFeng.Edge.Loading

/-!
# Deadlines and policies of the members

Only rules, policies and shapes have a deadline.  A member that could be
applied once can be applied again as long as its deadline has not passed, and
the releases of a loaded set are those of the members in effect.
-/

namespace YuFeng.Edge

open YuFeng.Library YuFeng.Kernel

def gateKind : Kind → Bool
  | .rule | .policy | .shape => true
  | _ => false

theorem compileMember_gateSide {P : Platform} {releaseId : String} {a : Artifact} {member : Member}
    (h : compileMember P releaseId a = .ok member) :
    member.gateSide = gateKind a.kind := by
  unfold compileMember at h
  cases kind : a.kind <;> simp only [kind, reduceCtorEq] at h
  case rule | policy | detectorManifest | taxonomyMapper | trafficReviewPolicy | modelProfile =>
    split at h
    · simp only [seq_ok, within, mapError_ok, pure_ok] at h
      grind [Member.gateSide, gateKind]
    · simp at h
  all_goals
    simp only [seq_ok, within, mapError_ok, pure_ok] at h
    grind [Member.gateSide, gateKind]

def gateArtifact (item : ReleaseItem) : Option Artifact :=
  item.artifact.filter fun a => !item.retired && gateKind a.kind

theorem admits_again {P now now' item} (h : Admits P now item) :
    Admits P now' item ↔ ∀ a ∈ gateArtifact item, now' < expiry a now' := by
  obtain ⟨a, artifact, applicable⟩ := h
  simp only [Admits, gateArtifact, artifact, Option.some.injEq,
    exists_eq_left', Option.mem_def, Option.filter_eq_some_iff]
  constructor
  · rintro again _ ⟨rfl, gate⟩
    rw [Bool.and_eq_true, Bool.not_eq_true'] at gate
    rcases again with retired | ⟨-, _, compiled, fresh⟩
    · simp [gate.1] at retired
    · exact (fresh ((compileMember_gateSide compiled).trans gate.2)).2
  · intro fresh
    cases retired : item.retired with
    | true => exact .inl rfl
    | false =>
      simp only [retired, Bool.false_eq_true, false_or] at applicable
      obtain ⟨verified, member, compiled, first⟩ := applicable
      refine .inr ⟨verified, member, compiled, ?_⟩
      intro gate
      refine ⟨(first gate).1, fresh a ⟨rfl, ?_⟩⟩
      simpa [retired, compileMember_gateSide compiled] using gate

def touches (item : ReleaseItem) : Bool := item.retired || item.artifact.any (gateKind ·.kind)

def replaced (later : List ReleaseItem) (releaseId : String) : Bool :=
  later.any fun item => releaseId = item.releaseId && touches item

def inEffect : List ReleaseItem → List ReleaseItem
  | [] => []
  | item :: later =>
    if replaced later item.releaseId then inEffect later
    else item :: inEffect later

def gatePolicy (P : Platform) (releaseId : String) (a : Artifact) : Option PolicyCandidate :=
  match compileMember P releaseId a with
  | .ok (.policy candidate) => some candidate
  | _ => none

section Rows

variable {P : Platform} {now : Int}

theorem apply_rows {set set' item} (applied : apply P now set item = .ok set')
    (p : String → ReleaseMode → Option PolicyCandidate → Int → Prop) :
    (∀ row ∈ set'.releases.rows, p row.1 row.2.mode row.2.policy row.2.expiresAt) ↔
      (∀ a ∈ gateArtifact item, p item.releaseId item.mode
        (gatePolicy P item.releaseId a) (expiry a now)) ∧
      ∀ row ∈ set.releases.rows, (row.1 = item.releaseId && touches item) = false →
          p row.1 row.2.mode row.2.policy row.2.expiresAt := by
  obtain ⟨_, artifact, ⟨retired, rfl⟩ | ⟨kept, -, member, compiled,
    installed⟩⟩ := apply_ok.mp applied
  · simp [retire, Table.mem_erase, touches, retired, gateArtifact, artifact]
  · have gate := compileMember_gateSide compiled
    cases member with
    | rule _ | policy _ | shape _ =>
      obtain ⟨-, rfl⟩ := admitRelease_ok.mp installed
      rw [Member.gateSide] at gate
      simp [putRelease, Table.mem_set, touches, kept, gateArtifact,
        artifact, ← gate, gatePolicy, compiled]
    | _ =>
      simp only [install, Except.ok.injEq] at installed
      subst installed
      simp [touches, kept, gateArtifact, artifact, ← gate, Member.gateSide, installInspector]

theorem applyAll_rows {items set set'} (applied : items.foldlM (apply P now) set = .ok set')
    (p : String → ReleaseMode → Option PolicyCandidate → Int → Prop) :
    (∀ row ∈ set'.releases.rows, p row.1 row.2.mode row.2.policy row.2.expiresAt) ↔
      (∀ item ∈ inEffect items, ∀ a ∈ gateArtifact item,
        p item.releaseId item.mode (gatePolicy P item.releaseId a) (expiry a now)) ∧
      ∀ row ∈ set.releases.rows, replaced items row.1 = false →
        p row.1 row.2.mode row.2.policy row.2.expiresAt := by
  induction items generalizing set with
  | nil =>
    simp only [List.foldlM_nil, pure_ok] at applied
    simp [applied, inEffect, replaced]
  | cons item later ih =>
    rw [List.foldlM_cons] at applied
    obtain ⟨_, head, rest⟩ := seq_ok.mp applied
    rw [ih rest, apply_rows head fun id mode policy deadline =>
      replaced later id = false → p id mode policy deadline]
    have next : ∀ id, replaced (item :: later) id = false ↔
        (id = item.releaseId && touches item) = false ∧ replaced later id = false := by
      intro _
      rw [replaced, List.any_cons, Bool.or_eq_false_iff, replaced]
    simp only [next, and_imp]
    cases gone : replaced later item.releaseId with
    | true => simp [inEffect, gone]
    | false => simp [inEffect, gone, and_assoc, and_left_comm]

theorem compileGeneration_rows {set next gen}
    (compiled : compileGeneration P now set gen = .ok next)
    (p : String → ReleaseMode → Option PolicyCandidate → Int → Prop) :
    (∀ row ∈ next.releases.rows, p row.1 row.2.mode row.2.policy row.2.expiresAt) ↔
      ∀ item ∈ inEffect gen.members, ∀ a ∈ gateArtifact item,
        p item.releaseId item.mode (gatePolicy P item.releaseId a) (expiry a now) := by
  rw [applyAll_rows compiled]
  simp [newReleaseSet, Table.empty]

end Rows

end YuFeng.Edge

import YuFeng.Edge.Restart

/-!
# Which inspectors are loaded

An inspector is loaded for a manifest release and removed by the name under
which the release was last installed.  Inspectors of one name are alike, so it
does not matter whose inspector is removed.  A release of another kind takes
over the id of a manifest release without looking at the inspectors.
-/

namespace YuFeng.Edge

open YuFeng.Library YuFeng.Kernel

variable {P : Platform} {s : Roster} {a : Artifact} {member : Member} {item : ReleaseItem}
  {set next : ReleaseSet} {call : Int × ReleaseItem}

def manifestOf (P : Platform) (a : Artifact) : Option DetectorManifest :=
  if a.kind = .detectorManifest then (P.payloads.manifest a.payload).toOption
  else none

structure Roster where
  set : ReleaseSet
  live : Table String DetectorManifest

/-- What an applied item leaves live: an item of another kind replaces the
manifest of its release as a retirement removes it. -/
def record (P : Platform) (live : Table String DetectorManifest)
    (item : ReleaseItem) : Table String DetectorManifest :=
  if item.retired then live.erase item.releaseId
  else match item.artifact.bind (manifestOf P) with
    | some manifest => live.set item.releaseId manifest
    | none => live.erase item.releaseId

def Roster.apply (P : Platform) (s : Roster) (call : Int × ReleaseItem) : Roster :=
  match Edge.apply P call.1 s.set call.2 with
  | .ok next => ⟨next, record P s.live call.2⟩
  | .error _ => s

def Roster.run (P : Platform) (edgeVersion : String) (calls : List (Int × ReleaseItem)) : Roster :=
  calls.foldl (Roster.apply P) ⟨newReleaseSet edgeVersion, .empty⟩

/-- One inspector for each live manifest release, compiled from its manifest. -/
def Roster.Exact (s : Roster) : Prop :=
  (s.set.inspectors.map Except.ok).Perm (s.live.rows.map fun row => compileInspector row.2)

/-- An item of another kind that is admitted does not take the id of a live
manifest release. -/
def Roster.Apart (P : Platform) (s : Roster) (call : Int × ReleaseItem) : Prop :=
  call.2.retired = false → call.2.artifact.bind (manifestOf P) = none →
    Admits P call.1 call.2 → s.live.find? call.2.releaseId = none

/-! ## One call -/

theorem compileInspector_ok {manifest inspector} (h : compileInspector manifest = .ok inspector) :
    inspector = ⟨manifest.detectorId⟩ := by
  simp only [compileInspector, guard_ok, not_not, Except.ok.injEq] at h
  obtain ⟨-, crs, -, -, rfl⟩ := h
  rw [crs]

theorem compileMember_manifest {releaseId} (h : compileMember P releaseId a = .ok member) :
    (∃ manifest inspector, member = .inspector inspector ∧ manifestOf P a = some manifest ∧
        compileInspector manifest = .ok inspector) ∨
      (∀ inspector, member ≠ .inspector inspector) ∧ manifestOf P a = none := by
  unfold compileMember at h
  cases kind : a.kind <;> simp only [kind, reduceCtorEq] at h
  case detectorManifest =>
    split at h
    · simp only [seq_ok, within, mapError_ok, pure_ok] at h
      obtain ⟨manifest, parsed, inspector, compiled, rfl⟩ := h
      exact .inl ⟨manifest, inspector, rfl,
        by simp [manifestOf, kind, parsed, Except.toOption], compiled⟩
    · simp at h
  case rule | policy | taxonomyMapper | trafficReviewPolicy | modelProfile =>
    split at h
    · simp only [seq_ok, within, mapError_ok, pure_ok] at h
      refine .inr ⟨?_, by simp [manifestOf, kind]⟩
      grind
    · simp at h
  all_goals
    simp only [seq_ok, within, mapError_ok, pure_ok] at h
    refine .inr ⟨?_, by simp [manifestOf, kind]⟩
    grind

theorem install_other {now} (other : ∀ inspector, member ≠ .inspector inspector)
    (installed : install now item a set member = .ok next) :
    next.inspectors = set.inspectors ∧
      next.inspectorByRel = set.inspectorByRel := by
  cases member with
  | rule _ | policy _ | shape _ =>
    obtain ⟨-, rfl⟩ := admitRelease_ok.mp installed
    exact ⟨rfl, rfl⟩
  | inspector inspector => exact absurd rfl (other inspector)
  | _ =>
    simp only [install, Except.ok.injEq] at installed
    subst installed
    exact ⟨rfl, rfl⟩

/-- What a call that succeeds did to the inspectors. -/
theorem apply_inspectors {now} (applied : apply P now set item = .ok next) :
    (item.retired = true ∧ next = retire item.releaseId set) ∨
    (∃ manifest inspector, item.retired = false ∧
      item.artifact.bind (manifestOf P) = some manifest ∧
      compileInspector manifest = .ok inspector ∧
      next = installInspector item.releaseId inspector set) ∨
    (item.retired = false ∧ item.artifact.bind (manifestOf P) = none ∧
      next.inspectors = set.inspectors ∧
      next.inspectorByRel = set.inspectorByRel) := by
  obtain ⟨_, artifact, ⟨retired, rfl⟩ | ⟨kept, -, _, compiled, installed⟩⟩ := apply_ok.mp applied
  · exact .inl ⟨retired, rfl⟩
  · rcases compileMember_manifest compiled with
      ⟨manifest, inspector, rfl, parsed, ok⟩ | ⟨other, none⟩
    · exact .inr (.inl ⟨manifest, inspector, kept, by simp [artifact, parsed],
        ok, (Except.ok.inj installed).symm⟩)
    · exact .inr (.inr ⟨kept, by simp [artifact, none], install_other other installed⟩)

/-! ## The books -/

def inspectorOf (row : String × DetectorManifest) : Inspector := ⟨row.2.detectorId⟩

structure Roster.Kept (s : Roster) : Prop where
  compiled : ∀ row ∈ s.live.rows, compileInspector row.2 = .ok (inspectorOf row)
  names : ∀ id, s.set.inspectorByRel.find? id = (s.live.find? id).map (·.detectorId)
  loaded : s.set.inspectors.Perm (s.live.rows.map inspectorOf)

theorem Roster.Kept.exact (h : s.Kept) : s.Exact := by
  refine (h.loaded.map Except.ok).trans (.of_eq ?_)
  rw [List.map_map]
  exact List.map_congr_left fun row member => (h.compiled row member).symm

theorem removeInspector_eq (id inspectors) :
    removeInspector id inspectors = inspectors.erase ⟨id⟩ := by
  rw [List.erase_eq_eraseP', removeInspector]
  congr 1
  funext inspector
  cases inspector
  simp [Inspector.mk.injEq, beq_eq_decide]

/-- Removing the inspector of a release leaves those of the others. -/
theorem Roster.Kept.removed (h : s.Kept) (id) : (match s.set.inspectorByRel.find? id with
      | some name => removeInspector name s.set.inspectors
      | none => s.set.inspectors).Perm
    ((s.live.erase id).rows.map inspectorOf) := by
  rw [h.names id]
  cases held : s.live.find? id with
  | none =>
    rw [Table.erase_of_absent held]
    exact h.loaded
  | some manifest =>
    have split := (Table.perm_erase held).map inspectorOf
    have smaller := (h.loaded.trans split).erase ⟨manifest.detectorId⟩
    rw [List.map_cons, inspectorOf, List.erase_cons_head] at smaller
    simpa only [Option.map_some, removeInspector_eq] using smaller

theorem Roster.Kept.apply (h : s.Kept) (apart : s.Apart P call) : (s.apply P call).Kept := by
  unfold Roster.apply
  cases applied : Edge.apply P call.1 s.set call.2 with
  | error => exact h
  | ok next =>
    have erased : ∀ row ∈ (s.live.erase call.2.releaseId).rows,
        compileInspector row.2 = .ok (inspectorOf row) :=
      fun row member => h.compiled row (Table.mem_erase.mp member).1
    rcases apply_inspectors applied with ⟨retired, rfl⟩ | ⟨_, _, kept, parsed, ok, rfl⟩ |
      ⟨kept, none, inspectors, names⟩
    · simp only [record, retired, if_true]
      refine ⟨erased, fun id => ?_, h.removed _⟩
      rw [retire, Table.find?_erase, Table.find?_erase, h.names]
      split <;> rfl
    · simp only [record, kept, Bool.false_eq_true, if_false, parsed]
      have named := compileInspector_ok ok
      subst named
      refine ⟨fun row member => ?_, fun id => ?_, ?_⟩
      · rcases Table.mem_set.mp member with rfl | ⟨old, -⟩
        · exact ok
        · exact h.compiled row old
      · by_cases same : id = call.2.releaseId
        · subst same
          simp [installInspector]
        · simp only [installInspector, Table.find?_set_of_ne same]
          exact h.names id
      · refine List.Perm.trans ?_ ((Table.perm_set _ _ _).map _).symm
        exact (List.perm_append_singleton _ _).trans (.cons _ (h.removed _))
    · simp only [record, kept, Bool.false_eq_true, if_false, none]
      rw [Table.erase_of_absent (apart kept none (admits_iff.mp ⟨next, applied⟩))]
      exact ⟨h.compiled, fun id => by rw [names]; exact h.names id,
        by rw [inspectors]; exact h.loaded⟩

/-- A call that another kind makes with the id of a live manifest release
leaves an inspector too many. -/
theorem Roster.Kept.apart (h : s.Kept) (exact : (s.apply P call).Exact) : s.Apart P call := by
  intro kept none admitted
  obtain ⟨next, applied⟩ : ∃ next, Edge.apply P call.1 s.set call.2 = .ok next :=
    admits_iff.mpr admitted
  rw [← Option.not_isSome_iff_eq_none, Option.isSome_iff_exists]
  rintro ⟨_, held⟩
  have before := h.loaded.length_eq
  have shorter := (Table.perm_erase held).length_eq
  have after := exact.length_eq
  have inspectors : next.inspectors = s.set.inspectors := by
    rcases apply_inspectors applied with ⟨retired, -⟩ | ⟨_, _, -, parsed, -⟩ | ⟨-, -, same, -⟩
    · simp [kept] at retired
    · simp [none] at parsed
    · exact same
  simp only [Roster.apply, applied, record, kept, Bool.false_eq_true, if_false,
    none, inspectors, List.length_map] at before after
  rw [List.length_cons] at shorter
  omega

/-- The loaded inspectors are those of the live manifest releases after every
call exactly if no call of another kind takes the id of such a release. -/
theorem inspectors_exact_iff (P : Platform) (edgeVersion : String)
    (calls : List (Int × ReleaseItem)) :
    (∀ done, done <+: calls → (Roster.run P edgeVersion done).Exact) ↔
      ∀ done call, done ++ [call] <+: calls → (Roster.run P edgeVersion done).Apart P call := by
  have start : (Roster.run P edgeVersion []).Kept := by
    refine ⟨?_, fun _ => rfl, ?_⟩ <;> simp [Roster.run, newReleaseSet, Table.empty]
  have last : ∀ done call, Roster.run P edgeVersion (done ++ [call]) =
      (Roster.run P edgeVersion done).apply P call := by
    intro _ _
    simp [Roster.run]
  constructor
  · intro exact
    -- The calls before each call keep the books, by induction on them.
    have kept : ∀ done, done <+: calls → (Roster.run P edgeVersion done).Kept := by
      intro done
      induction done using List.reverseRecOn with
      | nil => exact fun _ => start
      | append_singleton _ _ ih =>
        intro within
        have held := ih ((List.prefix_append _ _).trans within)
        have fits := exact _ within
        rw [last] at fits ⊢
        exact held.apply (held.apart fits)
    intro done _ within
    have fits := exact _ within
    rw [last] at fits
    exact (kept done ((List.prefix_append _ _).trans within)).apart fits
  · intro apart done
    suffices kept : done <+: calls → (Roster.run P edgeVersion done).Kept from
      fun within => (kept within).exact
    induction done using List.reverseRecOn with
    | nil => exact fun _ => start
    | append_singleton done call ih =>
      intro within
      rw [last]
      exact (ih ((List.prefix_append _ _).trans within)).apply (apart done call within)

/-! ## A rule in the place of a manifest -/

def signedEdge : Platform :=
  { shopEdge with
    verifier :=
      { shopVerifier with
        canonicalBytes := fun _ => "", verify := fun _ _ => true }
    payloads := { shopPayloads with manifest := fun _ => .ok ⟨"crs", "", ""⟩ } }

def rulesManifest : Artifact where
  id := "sha256:" ++ hexEncode (Vector.replicate 32 0).toList
  kind := .detectorManifest
  payload := ""
  payloadSchema := ""
  signature := some ⟨"", "s1"⟩

def takeOver : List (Int × ReleaseItem) :=
  [(0, { releaseId := "rel-1", artifact := some rulesManifest,
         assetId := "shop", mode := .enforce }),
   (0, { releaseId := "rel-1", assetId := "shop", mode := .enforce,
         artifact := some { rulesManifest with
           kind := .rule, payload := unionPayload
           payloadSchema := "rules/v1" } })]

/-- The rule is loaded under the id of the manifest, whose inspector stays. -/
theorem inspector_left_behind :
    ((Roster.run signedEdge "dev" takeOver).set.releases.find? "rel-1").isSome = true ∧
      (Roster.run signedEdge "dev" takeOver).live.rows = [] ∧
      (Roster.run signedEdge "dev" takeOver).set.inspectors = [⟨"crs"⟩] ∧
      ¬ (Roster.run signedEdge "dev" takeOver).Exact := by
  have live : (Roster.run signedEdge "dev" takeOver).live.rows = [] := by
    decide +kernel
  have loaded : (Roster.run signedEdge "dev" takeOver).set.inspectors = [⟨"crs"⟩] := by
    decide +kernel
  refine ⟨by decide +kernel, live, loaded, fun exact => ?_⟩
  have same := exact.length_eq
  simp [live, loaded] at same

end YuFeng.Edge

import YuFeng.Edge.Cache
import YuFeng.Edge.Deadlines
import YuFeng.Edge.Verdict

/-!
# What the counters of a release count

A release set has one counter for every loaded release.  A request adds one to
the counter of each release that judges it, and leaves one observation of each
such release in the decision.  A new generation keeps the counters of the
releases that stay loaded, whatever their mode.
-/

namespace YuFeng.Edge

open YuFeng.Library YuFeng.Kernel List Table

variable {tally : Tally} {releaseId : String} {P : Platform} {now : Int}
  {set next set' : ReleaseSet} {req : Request} {view : CanonicalView}
  {gen : AssetGeneration} {persist : Persist}

structure Counted (set : ReleaseSet) : Prop where
  keyed : ∀ row ∈ set.releases.rows, row.2.releaseId = row.1
  counter : ∀ id r, set.releases.find? id = some r → ∃ c, set.counters.find? id = some c

/-! ## The gate -/

def observationsOf (releaseId : String) (os : List ReleaseObservation) : List ReleaseObservation :=
  os.filter (·.releaseId = releaseId)

section Gate

variable {P : Platform} {posture : IngressPosture} {req : Request}
  {found : Inspection} {view : CanonicalView}

theorem gateRelease_requests {c} (r) (counted : tally.counters.find? releaseId = some c) :
    ∃ c', (gateRelease P posture req found view tally r).counters.find? releaseId = some c' ∧
      c'.requests + (observationsOf releaseId tally.observations).length =
        c.requests + (observationsOf releaseId
          (gateRelease P posture req found view tally r).observations).length
    := by
  unfold gateRelease
  cases r.judge P req found view with
  | none => exact ⟨c, counted, rfl⟩
  | some =>
    by_cases here : r.releaseId = releaseId
    · subst here
      simp only [counted, find?_set_self, Option.some.injEq,
        exists_eq_left', accountRelease, observationsOf, filter_append, length_append, filter_cons,
        decide_true, if_true, filter_nil, length_singleton]
      omega
    · refine ⟨c, ?_, by simp [observationsOf, here]⟩
      cases tally.counters.find? r.releaseId with
      | none => exact counted
      | some =>
        simp [find?_set_of_ne (Ne.symm here), counted]

theorem gateAll_requests {releases : List ManagedRelease} {c : Counter}
    (counted : tally.counters.find? releaseId = some c) :
    ∃ c', (releases.foldl (gateRelease P posture req found view)
        tally).counters.find? releaseId = some c' ∧
      c'.requests + (observationsOf releaseId tally.observations).length =
        c.requests + (observationsOf releaseId (releases.foldl
          (gateRelease P posture req found view) tally).observations).length
    := by
  induction releases generalizing tally c with
  | nil => exact ⟨c, counted, rfl⟩
  | cons r _ ih =>
    obtain ⟨mid, there, first⟩ := gateRelease_requests r counted
    obtain ⟨c', final, rest⟩ := ih there
    refine ⟨c', final, ?_⟩
    rw [foldl_cons]
    omega

theorem gateAll_observations {releases : List ManagedRelease} {o : ReleaseObservation}
    (present : o ∈ (releases.foldl (gateRelease P posture req found view) tally).observations) :
    o ∈ tally.observations ∨ ∃ r ∈ releases, o.releaseId = r.releaseId ∧ o.mode = r.mode := by
  rw [(gateAll_closed ..).2.2, mem_append, mem_filterMap] at present
  rcases present with before | ⟨r, member, observed⟩
  · exact .inl before
  · obtain ⟨_, -, rfl⟩ := Option.map_eq_some_iff.mp observed
    exact .inr ⟨r, member, rfl, rfl⟩

end Gate

def gathered (P : Platform) (now : Int) (set : ReleaseSet) (req : Request)
    (view : CanonicalView) : Tally :=
  (set.live now).foldl (gateRelease P (resolvePosture set.posture) req
    (inspectWith P set.inspectors set.mapper view req.clientAddress) view)
    { counters := set.counters }

theorem inspectThenGate_gathered (P now set req view) :
    (inspectThenGate P now set req view).1.observations =
        (gathered P now set req view).observations ∧
      (inspectThenGate P now set req view).2 =
        { set with counters := (gathered P now set req view).counters } :=
  ⟨rfl, rfl⟩

def canaryEvaluations (releaseId : String) (decision : Decision) : Nat :=
  ((observationsOf releaseId decision.observations).filter (·.mode = .canary)).length

def ReleaseSet.modeOf (set : ReleaseSet) (releaseId : String) : Option ReleaseMode :=
  (set.releases.find? releaseId).map (·.mode)

def ReleaseSet.requestsOf (set : ReleaseSet) (releaseId : String) : Nat :=
  ((set.counters.find? releaseId).map (·.requests)).getD 0

theorem inspectThenGate_observation {o : ReleaseObservation} (counted : Counted set)
    (present : o ∈ (inspectThenGate P now set req view).1.observations) :
    set.modeOf o.releaseId = some o.mode := by
  rcases gateAll_observations present with before | ⟨r, live, id, mode⟩
  · simp at before
  · obtain ⟨row, stored, rfl⟩ := mem_map.mp (mem_filter.mp live).1
    rw [ReleaseSet.modeOf, id, counted.keyed row stored, mode, mem_iff_find?.mp stored]
    rfl

theorem inspectThenGate_canary (counted : Counted set)
    (mode : set.modeOf releaseId = some .canary) :
    (inspectThenGate P now set req view).2.requestsOf releaseId = set.requestsOf releaseId +
        canaryEvaluations releaseId (inspectThenGate P now set req view).1
    := by
  obtain ⟨r, loaded, -⟩ := Option.map_eq_some_iff.mp mode
  obtain ⟨c, counter⟩ := counted.counter releaseId r loaded
  have all : ((observationsOf releaseId (inspectThenGate P now set req
      view).1.observations).filter (·.mode = .canary)) =
      observationsOf releaseId (inspectThenGate P now set req view).1.observations := by
    rw [filter_eq_self]
    intro o chosen
    obtain ⟨present, here⟩ := mem_filter.mp chosen
    have loadedMode := inspectThenGate_observation counted present
    rw [decide_eq_true_eq] at here
    rw [here, mode] at loadedMode
    simpa using (Option.some.inj loadedMode).symm
  obtain ⟨c', after, sum⟩ : ∃ c', (gathered P now set req
      view).counters.find? releaseId = some c' ∧ c'.requests + 0 =
        c.requests + (observationsOf releaseId (gathered P now set req view).observations).length :=
    gateAll_requests counter
  rw [canaryEvaluations, all, (inspectThenGate_gathered ..).1,
    (inspectThenGate_gathered ..).2, ReleaseSet.requestsOf, after, ReleaseSet.requestsOf, counter]
  exact sum

theorem canaryEvaluations_eq_zero (counted : Counted set)
    (mode : set.modeOf releaseId ≠ some .canary) :
    canaryEvaluations releaseId (inspectThenGate P now set req view).1 =
      0 := by
  rw [canaryEvaluations, length_eq_zero_iff, filter_eq_nil_iff]
  intro o chosen canary
  obtain ⟨present, here⟩ := mem_filter.mp chosen
  have loaded := inspectThenGate_observation counted present
  rw [decide_eq_true_eq] at here canary
  rw [here, canary] at loaded
  exact mode loaded

theorem Counted.gate (h : Counted set) : Counted (inspectThenGate P now set req view).2 := by
  refine ⟨h.keyed, ?_⟩
  intro id r loaded
  obtain ⟨c, counter⟩ := h.counter id r loaded
  obtain ⟨c', after, -⟩ : ∃ c', (gathered P now set req view).counters.find? id = some c' ∧ _ :=
    gateAll_requests counter
  exact ⟨c', after⟩

/-! ## Generations -/

theorem keepCounters_find? (old releases id) :
    (keepCounters old releases).find? id =
      (releases.find? id).map fun _ => (old.find? id).getD {} :=
  lookup_map_key (fun id => (old.find? id).getD {}) id releases.rows

/-- What holds of every release that a member puts into the gate holds of the
releases of a generation. -/
theorem compileGeneration_all {Q : String × ManagedRelease → Prop}
    (compiled : compileGeneration P now set gen = .ok next)
    (put : ∀ row : String × ManagedRelease, row.2.releaseId = row.1 →
      (row.2.policy.isSome || row.2.detector.isSome || row.2.shape.isSome) = true → Q row) :
    ∀ row ∈ next.releases.rows, Q row := by
  refine foldlM_invariant (fun s => ∀ row ∈ s.releases.rows, Q row) ?_
    compiled (by simp [newReleaseSet, Table.empty])
  intro s item s' applied kept
  obtain ⟨a, -, ⟨-, rfl⟩ | ⟨-, -, member, -, installed⟩⟩ :=
    apply_ok.mp applied
  · intro row present
    exact kept row (mem_erase.mp present).1
  · cases member with
    | rule _ | policy _ | shape _ =>
      obtain ⟨-, rfl⟩ := admitRelease_ok.mp installed
      intro row present
      rcases mem_set.mp present with rfl | ⟨old, -⟩
      · exact put _ rfl rfl
      · exact kept row old
    | _ =>
      simp only [install, Except.ok.injEq] at installed
      exact installed ▸ kept

theorem compileGeneration_keyed (compiled : compileGeneration P now set gen = .ok next) :
    ∀ row ∈ next.releases.rows, row.2.releaseId = row.1 :=
  compileGeneration_all compiled fun _ keyed _ => keyed

def carries (gen : AssetGeneration) (releaseId : String) (mode : ReleaseMode) : Bool :=
  (inEffect gen.members).any fun item => item.releaseId = releaseId &&
    item.mode = mode && (gateArtifact item).isSome

theorem compileGeneration_modeOf (compiled : compileGeneration P now set gen = .ok next)
    (releaseId mode) : next.modeOf releaseId = some mode ↔ carries gen releaseId mode = true := by
  have rows := compileGeneration_rows compiled fun id m _ _ => ¬ (id = releaseId ∧ m = mode)
  rw [ReleaseSet.modeOf, Option.map_eq_some_iff, ← not_iff_not]
  have left : (¬ ∃ r, next.releases.find? releaseId = some r ∧
      r.mode = mode) ↔ ∀ row ∈ next.releases.rows, ¬ (row.1 = releaseId ∧ row.2.mode = mode) := by
    constructor
    · rintro absent ⟨id, r⟩ present ⟨rfl, same⟩
      exact absent ⟨r, mem_iff_find?.mp present, same⟩
    · rintro absent ⟨r, loaded, same⟩
      exact absent _ (mem_iff_find?.mpr loaded) ⟨rfl, same⟩
  rw [left, rows, Bool.not_eq_true, carries, any_eq_false]
  apply forall₂_congr
  intro item _
  cases gateArtifact item with
  | none | some => simp

section

variable (applied : applyGeneration P now persist set gen = .ok set')

include applied

theorem Counted.generation : Counted set' := by
  obtain ⟨active, next, -, -, compiled, -, -, rfl⟩ := applyGeneration_ok.mp applied
  have keyed := compileGeneration_keyed compiled
  refine ⟨keyed, ?_⟩
  intro id r loaded
  refine ⟨(set.counters.find? id).getD {}, ?_⟩
  rw [show (swapFrom set next active).counters =
    keepCounters set.counters next.releases from rfl, keepCounters_find?,
    show next.releases.find? id = some r from loaded, Option.map_some]

theorem applyGeneration_requestsOf (releaseId) : set'.requestsOf releaseId =
      if (set'.modeOf releaseId).isSome then set.requestsOf releaseId
      else 0 := by
  obtain ⟨active, next, -, -, -, -, -, rfl⟩ := applyGeneration_ok.mp applied
  rw [ReleaseSet.requestsOf, ReleaseSet.requestsOf, ReleaseSet.modeOf,
    show (swapFrom set next active).counters =
      keepCounters set.counters next.releases from rfl, keepCounters_find?,
    show (swapFrom set next active).releases = next.releases from rfl]
  cases next.releases.find? releaseId with
  | none => rfl
  | some =>
    cases set.counters.find? releaseId with
    | none | some => rfl

theorem applyGeneration_modeOf (releaseId mode) :
    set'.modeOf releaseId = some mode ↔ carries gen releaseId mode = true := by
  obtain ⟨active, next, -, -, compiled, -, -, rfl⟩ := applyGeneration_ok.mp applied
  exact compileGeneration_modeOf compiled releaseId mode

end

/-! ## Starting -/

structure Unused (set : ReleaseSet) : Prop extends Counted set where
  zero : ∀ releaseId, set.requestsOf releaseId = 0

theorem newReleaseSet_unused (edgeVersion) : Unused (newReleaseSet edgeVersion) where
  keyed := by simp [newReleaseSet, Table.empty]
  counter := by simp [newReleaseSet, Table.empty, Table.find?]
  zero _ := rfl

theorem Unused.reload (h : Unused set) (gen) : Unused (Edge.reload P now set gen) := by
  unfold Edge.reload
  cases applied : applyGeneration P now noPersist set gen with
  | error => exact h
  | ok =>
    refine ⟨Counted.generation applied, ?_⟩
    intro releaseId
    rw [applyGeneration_requestsOf applied, h.zero, ite_self]

theorem Unused.loadLine {codec} (h : Unused set) (line) :
    Unused (Edge.loadLine P now codec set line) := by
  unfold Edge.loadLine
  split
  · exact h
  · split
    · exact h
    · exact h.reload _

theorem restart_unused (P now codec unitVersion posture file) :
    Unused (restart P now codec unitVersion posture file) := by
  have lines : ∀ (lines : List String) (set : ReleaseSet), Unused set →
      Unused (lines.foldl (loadLine P now codec) set) := by
    intro lines
    induction lines with
    | nil => exact fun _ h => h
    | cons line _ ih => exact fun _ h => ih _ (h.loadLine line)
  have loaded : Unused (loadGenerationCache P now codec file (newReleaseSet unitVersion)) := by
    unfold loadGenerationCache
    split
    · exact newReleaseSet_unused unitVersion
    · exact lines _ _ (newReleaseSet_unused unitVersion)
  exact ⟨⟨loaded.keyed, loaded.counter⟩, loaded.zero⟩

end YuFeng.Edge

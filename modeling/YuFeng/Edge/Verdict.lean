import YuFeng.Edge.Gate

/-!
# What the gate decides

The gate folds three flags, a running action and a list of observations over
the releases.  Each release contributes on its own, so the outcome is a
statement about the releases that match, and their order does not matter.
-/

namespace YuFeng.Edge

open YuFeng.Library YuFeng.Kernel List

variable (P : Platform) (req : Request) (found : Inspection) (view : CanonicalView)

/-! ## One release -/

def ManagedRelease.matched (r : ManagedRelease) : Bool :=
  ((r.judge P req found view).map Prod.fst).getD false

def ManagedRelease.action (r : ManagedRelease) : Action :=
  actionForMode r.mode (r.matched P req found view) (selectedForCanary P req r)

def ManagedRelease.observation (r : ManagedRelease) : Option ReleaseObservation :=
  (r.judge P req found view).map fun outcome =>
    ⟨r.releaseId, r.artifactId, r.mode, r.canaryPercent, selectedForCanary P req r, outcome.1⟩

variable {P req found view}

theorem ManagedRelease.action_block_iff {r : ManagedRelease} :
    r.action P req found view = .block ↔ r.matched P req found view = true ∧
        (r.mode = .enforce ∨ r.mode = .canary ∧ req.unitId ≠ "" ∧
          canarySelectedUnit P req.unitId r.releaseId r.canaryPercent = true) := by
  unfold action actionForMode selectedForCanary
  cases r.matched P req found view with
  | false => simp
  | true => cases mode : r.mode <;> simp

theorem ManagedRelease.judge_none {r : ManagedRelease} (h : r.judge P req found view = none) :
    r.action P req found view = .allow ∧ r.observation P req found view = none := by
  simp [action, matched, observation, h, actionForMode]

theorem ManagedRelease.judge_some {r : ManagedRelease} {outcome}
    (h : r.judge P req found view = some outcome) :
    (r.policy.isSome || r.detector.isSome || r.shape.isSome) = true := by
  unfold judge at h
  cases policy : r.policy with
  | some => rfl
  | none =>
    cases detector : r.detector with
    | some => rfl
    | none =>
      cases shape : r.shape with
      | some => rfl
      | none => simp [policy, detector, shape] at h

/-! ## The fold over the releases -/

@[simp] theorem worseAction_allow (a) : worseAction a .allow = a := by
  cases a <;> rfl

theorem worseAction_right_comm (a b c) :
    worseAction (worseAction a b) c = worseAction (worseAction a c) b := by
  cases a <;> cases b <;> cases c <;> rfl

theorem worseAction_block_iff {a b} : worseAction a b = .block ↔ a = .block ∨ b = .block := by
  cases a <;> cases b <;> simp [worseAction]

theorem gateOrder_block_iff {policyBlock ruleBlock shapeBlock} :
    gateOrder policyBlock ruleBlock shapeBlock = .block ↔
      (policyBlock || ruleBlock || shapeBlock) = true := by
  cases policyBlock <;> cases ruleBlock <;> cases shapeBlock <;>
    simp [gateOrder]

def Tally.blocked (tally : Tally) : Bool := tally.policyBlock || tally.ruleBlock || tally.shapeBlock

variable (P req found view)

theorem gateRelease_step (posture tally r) :
    (gateRelease P posture req found view tally r).blocked =
        (tally.blocked || r.action P req found view = .block) ∧
      (gateRelease P posture req found view tally r).combined =
        worseAction tally.combined (r.action P req found view) ∧
      (gateRelease P posture req found view tally r).observations =
        tally.observations ++ (r.observation P req found view).toList := by
  unfold gateRelease
  cases judged : r.judge P req found view with
  | none =>
    obtain ⟨action, observation⟩ := r.judge_none judged
    simp [action, observation]
  | some outcome =>
    have kind := r.judge_some judged
    have action : r.action P req found view =
        actionForMode r.mode outcome.1 (selectedForCanary P req r) := by
      simp [ManagedRelease.action, ManagedRelease.matched, judged]
    refine ⟨?_, by rw [action], by
      simp [ManagedRelease.observation, judged]⟩
    simp only [Tally.blocked, ← action]
    cases decide (r.action P req found view = .block) with
    | false => simp
    | true =>
      simp only [Bool.or_eq_true] at kind
      rcases kind with (policy | detector) | shape
      · simp [policy]
      · simp [detector]
      · simp [shape]

theorem gateAll_closed (posture) (releases : List ManagedRelease) (tally : Tally) :
    (releases.foldl (gateRelease P posture req found view) tally).blocked = (tally.blocked ||
          releases.any fun r => r.action P req found view = .block) ∧
      (releases.foldl (gateRelease P posture req found view) tally).combined =
        releases.foldl (fun a r => worseAction a (r.action P req found view)) tally.combined ∧
      (releases.foldl (gateRelease P posture req found view) tally).observations =
        tally.observations ++ releases.filterMap (·.observation P req found view) := by
  induction releases generalizing tally with
  | nil => simp
  | cons r _ ih =>
    obtain ⟨blocked, combined, observations⟩ := gateRelease_step P req found view posture tally r
    obtain ⟨restBlocked, restCombined, restObservations⟩ :=
      ih (gateRelease P posture req found view tally r)
    rw [foldl_cons]
    refine ⟨?_, ?_, ?_⟩
    · rw [restBlocked, blocked, any_cons, Bool.or_assoc]
    · rw [restCombined, combined, foldl_cons]
    · rw [restObservations, observations, append_assoc, filterMap_cons]
      cases r.observation P req found view <;> rfl

variable {P req found view}

theorem foldl_worseAction_block {releases : List ManagedRelease} {a} :
    releases.foldl (fun a r => worseAction a (r.action P req found view)) a = .block ↔
      a = .block ∨ ∃ r ∈ releases, r.action P req found view = .block := by
  induction releases generalizing a with
  | nil => simp
  | cons _ _ ih =>
    rw [foldl_cons, ih, worseAction_block_iff, or_assoc]
    simp

/-! ## The decision -/

section Decision

variable (P req found view)

section

variable (releases : List ManagedRelease)
  (posture : IngressPosture)
  (counters : Table String Counter)

theorem gateWith_wouldHaveBlocked :
    (gateWith P releases posture req found view counters).1.wouldHaveBlocked = true ↔
      ∃ r ∈ releases, r.action P req found view = .block := by
  obtain ⟨blocked, combined, -⟩ := gateAll_closed P req found view posture
    releases { counters := counters }
  unfold gateWith
  dsimp only
  rw [decide_eq_true_eq]
  split
  next ordered =>
    rw [gateOrder_block_iff] at ordered
    change Tally.blocked _ = true at ordered
    rw [blocked] at ordered
    simpa [Tally.blocked] using ordered
  · rw [combined, foldl_worseAction_block]
    simp

theorem gateWith_action : (gateWith P releases posture req found view counters).1.action =
      if observes posture then .allow
      else releases.foldl (fun a r => worseAction a (r.action P req found view)) .allow := by
  obtain ⟨blocked, combined, -⟩ := gateAll_closed P req found view posture
    releases { counters := counters }
  unfold gateWith
  dsimp only
  split
  · rfl
  split
  next ordered =>
    rw [gateOrder_block_iff] at ordered
    change Tally.blocked _ = true at ordered
    rw [blocked] at ordered
    symm
    rw [foldl_worseAction_block]
    exact .inr (by simpa [Tally.blocked] using ordered)
  · exact combined

theorem gateWith_observations :
    (gateWith P releases posture req found view counters).1.observations =
      releases.filterMap (·.observation P req found view) := by
  obtain ⟨-, -, observations⟩ := gateAll_closed P req found view posture
    releases { counters := counters }
  exact observations

theorem gateWith_action_block_iff :
    (gateWith P releases posture req found view counters).1.action = .block ↔
      (gateWith P releases posture req found view
        counters).1.wouldHaveBlocked = true ∧ observes posture = false := by
  rw [gateWith_action, gateWith_wouldHaveBlocked]
  cases observes posture with
  | true => simp
  | false => simp [foldl_worseAction_block]

end

theorem observes_resolvePosture (posture) :
    observes (resolvePosture posture) = !intercepts (resolvePosture posture) := by
  cases posture <;> rfl

/-- The gate, as it is called with the resolved posture of the process. -/
theorem gate_characterized (releases : List ManagedRelease)
    (posture : IngressPosture) (counters : Table String Counter) :
    ((gateWith P releases (resolvePosture posture) req found view
        counters).1.wouldHaveBlocked = true ↔
      ∃ r ∈ releases, r.matched P req found view = true ∧
        (r.mode = .enforce ∨ r.mode = .canary ∧ req.unitId ≠ "" ∧
          canarySelectedUnit P req.unitId r.releaseId r.canaryPercent = true)) ∧
    ((gateWith P releases (resolvePosture posture) req found view counters).1.action = .block ↔
      (gateWith P releases (resolvePosture posture) req found view
        counters).1.wouldHaveBlocked = true ∧ intercepts (resolvePosture posture) = true) ∧
    (observes (resolvePosture posture) = true →
      (gateWith P releases (resolvePosture posture) req found view counters).1.action = .allow) ∧
    ∀ reordered counters', reordered.Perm releases →
      (gateWith P reordered (resolvePosture posture) req found view counters').1.action =
        (gateWith P releases (resolvePosture posture) req found view counters).1.action ∧
      (gateWith P reordered (resolvePosture posture) req found view counters').1.wouldHaveBlocked =
        (gateWith P releases (resolvePosture posture) req found view counters).1.wouldHaveBlocked ∧
      (gateWith P reordered (resolvePosture posture) req found view counters').1.observations.Perm
        (gateWith P releases (resolvePosture posture) req found view counters).1.observations := by
  refine ⟨?_, ?_, ?_, ?_⟩
  · rw [gateWith_wouldHaveBlocked]
    simp [ManagedRelease.action_block_iff]
  · rw [gateWith_action_block_iff, observes_resolvePosture, Bool.not_eq_false']
  · intro observing
    rw [gateWith_action, if_pos observing]
  · intro _ _ order
    refine ⟨?_, ?_, ?_⟩
    · rw [gateWith_action, gateWith_action]
      congr 1
      exact order.foldl_eq' (fun r _ r' _ a => worseAction_right_comm a _ _) .allow
    · rw [Bool.eq_iff_iff, gateWith_wouldHaveBlocked, gateWith_wouldHaveBlocked]
      simp [order.mem_iff]
    · rw [gateWith_observations, gateWith_observations]
      exact order.filterMap _

end Decision

end YuFeng.Edge

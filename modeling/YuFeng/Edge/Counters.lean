import YuFeng.Edge.Counting
import YuFeng.Edge.Restart

/-!
# Counters over a run of the edge

Requests are evaluated and generations are swapped in any order.  As long as a
release stays loaded its counter moves with the evaluations that find it
unexpired, by one request each, and with nothing else.
-/

namespace YuFeng.Edge

open YuFeng.Library YuFeng.Kernel

variable {tally : Tally} {r : ManagedRelease} {id : String}

inductive Event where
  | evaluate (now : Int) (req : Request) (found : Inspection) (view : CanonicalView)
  | swap (now : Int) (persist : Persist) (gen : AssetGeneration)
  | setPosture (posture : IngressPosture)

/-- `Gate` passes detections of its own, `InspectThenGate` those of its
inspectors. -/
def evaluated (P : Platform) (now : Int) (set : ReleaseSet) (req : Request)
    (found : Inspection) (view : CanonicalView) : ReleaseSet :=
  { set with
    counters := (gateWith P (set.live now) (resolvePosture set.posture) req
      found view set.counters).2 }

def Event.step (P : Platform) (set : ReleaseSet) : Event → ReleaseSet
  | .evaluate now req found view => evaluated P now set req found view
  | .swap now persist gen =>
    match applyGeneration P now persist set gen with
    | .ok next => next
    | .error _ => set
  | .setPosture posture => { set with posture := resolvePosture posture }

def ReleaseSet.run (P : Platform) (set : ReleaseSet) (events : List Event) : ReleaseSet :=
  events.foldl (Event.step P) set

def ReleaseSet.loaded (set : ReleaseSet) (id : String) : Bool := (set.releases.find? id).isSome

def ReleaseSet.counterOf (set : ReleaseSet) (id : String) : Counter :=
  (set.counters.find? id).getD {}

def Event.evaluates (set : ReleaseSet) (id : String) : Event → Bool
  | .evaluate now _ _ _ =>
    (set.releases.find? id).any fun r => now < r.expiresAt
  | _ => false

def evaluations (P : Platform) (id : String) : ReleaseSet → List Event → Nat
  | _, [] => 0
  | set, event :: events =>
    (event.evaluates set id).toNat + evaluations P id (event.step P set) events

/-! ## One evaluation -/

/-- Releases are keyed, have something to match, and counters hold no more
verdicts than requests. -/
structure Accounted (set : ReleaseSet) : Prop extends Counted set where
  judged : ∀ row ∈ set.releases.rows,
    (row.2.policy.isSome || row.2.detector.isSome || row.2.shape.isSome) = true
  covered : ∀ id, (set.counterOf id).blocks + (set.counterOf id).observe ≤
    (set.counterOf id).requests

structure Charged (counts intercepting : Bool) (before after : Counter) :
    Prop where
  requests : after.requests = before.requests + counts.toNat
  blocks : before.blocks ≤ after.blocks
  observe : before.observe ≤ after.observe
  canarySel : before.canarySel ≤ after.canarySel
  verdicts : after.blocks + after.observe ≤ before.blocks + before.observe + counts.toNat
  intercepted : before.blocks < after.blocks → intercepting = true

theorem Charged.refl (intercepting c) : Charged false intercepting c c := by
  constructor <;> simp

theorem Charged.covered {counts intercepting before after}
    (h : Charged counts intercepting before after)
    (covered : before.blocks + before.observe ≤ before.requests) :
    after.blocks + after.observe ≤ after.requests := by
  have verdicts := h.verdicts
  have requests := h.requests
  omega

theorem accountRelease_charged (posture c action selected) :
    Charged true (intercepts posture) c (accountRelease c
      (if !intercepts posture ∧ action = .block then .observe else action)
      selected) := by
  have once : ∀ accounted : Action, (accounted = .block → intercepts posture = true) →
      Charged true (intercepts posture) c (accountRelease c accounted selected) := by
    intro accounted allowed
    have selections : c.canarySel ≤ (accountRelease c accounted selected).canarySel := by
      simp only [accountRelease]
      split <;> omega
    cases accounted with
    | allow =>
      exact ⟨rfl, le_rfl, le_rfl, selections, Nat.le_add_right _ _,
        fun more => absurd more (lt_irrefl _)⟩
    | observe =>
      exact ⟨rfl, le_rfl, Nat.le_succ _, selections, le_rfl, fun more => absurd more (lt_irrefl _)⟩
    | block =>
      exact ⟨rfl, Nat.le_succ _, le_rfl, selections,
        (Nat.add_right_comm _ _ _).le, fun _ => allowed rfl⟩
  apply once
  split
  · simp
  next blocks =>
    intro block
    by_contra quiet
    exact blocks ⟨by simpa using quiet, block⟩

section Gate

variable {P : Platform} {posture : IngressPosture} {req : Request}
  {found : Inspection} {view : CanonicalView}

theorem gateRelease_other (other : r.releaseId ≠ id) :
    (gateRelease P posture req found view tally r).counters.find? id = tally.counters.find? id := by
  unfold gateRelease
  cases r.judge P req found view with
  | none => rfl
  | some =>
    cases tally.counters.find? r.releaseId with
    | none => rfl
    | some => exact Table.find?_set_of_ne (Ne.symm other) _ _

theorem gateRelease_own {c}
    (judged : (r.policy.isSome || r.detector.isSome || r.shape.isSome) = true)
    (counted : tally.counters.find? r.releaseId = some c) :
    ∃ c', (gateRelease P posture req found view tally r).counters.find?
        r.releaseId = some c' ∧ Charged true (intercepts posture) c c' := by
  unfold gateRelease
  cases outcome : r.judge P req found view with
  | none =>
    unfold ManagedRelease.judge at outcome
    grind
  | some =>
    simp only [counted, Table.find?_set_self, Option.some.injEq, exists_eq_left']
    exact accountRelease_charged posture c _ _

theorem gateAll_other {releases : List ManagedRelease} (absent : ∀ r ∈ releases, r.releaseId ≠ id) :
    (releases.foldl (gateRelease P posture req found view)
      tally).counters.find? id = tally.counters.find? id := by
  induction releases generalizing tally with
  | nil => rfl
  | cons r _ ih =>
    rw [List.foldl_cons, ih fun r' later => absent r' (.tail r later),
      gateRelease_other (absent r List.mem_cons_self)]

theorem gateAll_own {releases : List ManagedRelease} {c}
    (distinct : (releases.map (·.releaseId)).Nodup) (member : r ∈ releases)
    (judged : (r.policy.isSome || r.detector.isSome || r.shape.isSome) = true)
    (counted : tally.counters.find? r.releaseId = some c) :
    ∃ c', (releases.foldl (gateRelease P posture req found view)
        tally).counters.find? r.releaseId = some c' ∧
      Charged true (intercepts posture) c c' := by
  induction releases generalizing tally with
  | nil => simp at member
  | cons _ _ ih =>
    rw [List.map_cons, List.nodup_cons] at distinct
    rw [List.foldl_cons]
    rcases List.mem_cons.mp member with rfl | later
    · rw [gateAll_other]
      · exact gateRelease_own judged counted
      · intro r' later same
        exact distinct.1 (same ▸ List.mem_map_of_mem later)
    · refine ih distinct.2 later ?_
      rw [gateRelease_other]
      · exact counted
      · intro same
        exact distinct.1 (same ▸ List.mem_map_of_mem later)

end Gate

section Events

variable {P : Platform} {set : ReleaseSet}

theorem Counted.live_distinct (h : Counted set) (now : Int) :
    ((set.live now).map (·.releaseId)).Nodup := by
  refine List.Nodup.sublist (List.filter_sublist.map _) ?_
  rw [List.map_map]
  exact (List.map_congr_left h.keyed) ▸ set.releases.unique

theorem Counted.mem_live (h : Counted set) {now} :
    r ∈ set.live now ↔ set.releases.find? r.releaseId = some r ∧ now < r.expiresAt := by
  simp only [ReleaseSet.live, List.mem_filter, List.mem_map, decide_eq_true_eq]
  refine and_congr_left fun _ => ⟨?_, fun held =>
    ⟨_, Table.mem_iff_find?.mpr held, rfl⟩⟩
  rintro ⟨row, member, rfl⟩
  rw [h.keyed row member]
  exact Table.mem_iff_find?.mp member

theorem evaluated_charged (h : Accounted set) (now req found view id) :
    Charged ((Event.evaluate now req found view).evaluates set id)
      (intercepts (resolvePosture set.posture)) (set.counterOf id)
      ((evaluated P now set req found view).counterOf id) := by
  cases counts : (Event.evaluate now req found view).evaluates set id with
  | true =>
    obtain ⟨r, held, fresh⟩ := (Option.any_eq_true _ _).mp counts
    have own : r.releaseId = id := h.keyed (id, r) (Table.mem_iff_find?.mpr held)
    subst own
    rw [decide_eq_true_eq] at fresh
    obtain ⟨c, counter⟩ := h.counter _ r held
    obtain ⟨c', after, charged⟩ : ∃ c', (evaluated P now set req found
        view).counters.find? r.releaseId = some c' ∧ Charged true
          (intercepts (resolvePosture set.posture)) c c' :=
      gateAll_own (h.live_distinct now) (h.mem_live.mpr ⟨held, fresh⟩)
        (h.judged _ (Table.mem_iff_find?.mpr held)) counter
    have before : set.counterOf r.releaseId = c := by
      simp [ReleaseSet.counterOf, counter]
    have later : (evaluated P now set req found view).counterOf r.releaseId = c' := by
      simp [ReleaseSet.counterOf, after]
    rw [before, later]
    exact charged
  | false =>
    have same : (evaluated P now set req found view).counterOf id = set.counterOf id := by
      refine congrArg (Option.getD · {}) (gateAll_other ?_)
      rintro r live rfl
      obtain ⟨held, fresh⟩ := h.mem_live.mp live
      simp [Event.evaluates, held, fresh] at counts
    rw [same]
    exact Charged.refl _ _

theorem swapped_counter {now persist gen next}
    (applied : applyGeneration P now persist set gen = .ok next) (id : String) :
    next.counterOf id = if next.loaded id then set.counterOf id else {} := by
  obtain ⟨active, compiled, -, -, -, -, -, rfl⟩ := applyGeneration_ok.mp applied
  rw [ReleaseSet.counterOf, ReleaseSet.loaded, show (swapFrom set compiled active).counters =
      keepCounters set.counters compiled.releases from rfl,
    keepCounters_find?,
    show (swapFrom set compiled active).releases = compiled.releases from rfl]
  cases compiled.releases.find? id with
  | none | some => rfl

theorem Event.charged (h : Accounted set) {event : Event}
    (stays : (event.step P set).loaded id = true) :
    Charged (event.evaluates set id) (intercepts (resolvePosture set.posture)) (set.counterOf id)
      ((event.step P set).counterOf id) := by
  cases event with
  | evaluate now req found view =>
    exact evaluated_charged h now req found view id
  | swap now persist gen =>
    cases applied : applyGeneration P now persist set gen with
    | error =>
      simp only [Event.step, applied]
      exact Charged.refl _ _
    | ok =>
      simp only [Event.step, applied] at stays ⊢
      rw [swapped_counter applied, if_pos stays]
      exact Charged.refl _ _
  | setPosture => exact Charged.refl _ _

theorem Accounted.step (h : Accounted set) (event : Event) : Accounted (event.step P set) := by
  cases event with
  | evaluate now req found view =>
    refine ⟨⟨h.keyed, fun id r held => ?_⟩, h.judged, fun id => ?_⟩
    · obtain ⟨c, counter⟩ := h.counter id r held
      obtain ⟨c', after, -⟩ : ∃ c', (evaluated P now set req found
          view).counters.find? id = some c' ∧ _ :=
        gateAll_requests counter
      exact ⟨c', after⟩
    · exact (evaluated_charged h now req found view id).covered (h.covered id)
  | swap now persist gen =>
    cases applied : applyGeneration P now persist set gen with
    | error =>
      simp only [Event.step, applied]
      exact h
    | ok =>
      simp only [Event.step, applied]
      refine ⟨Counted.generation applied, ?_, fun id => ?_⟩
      · obtain ⟨active, compiled, -, -, done, -, -, rfl⟩ := applyGeneration_ok.mp applied
        have judged := compileGeneration_all done fun _ _ judged => judged
        exact judged
      · rw [swapped_counter applied]
        split
        · exact h.covered id
        · exact le_rfl
  | setPosture => exact ⟨⟨h.keyed, h.counter⟩, h.judged, h.covered⟩

theorem Accounted.run (h : Accounted set) (events : List Event) : Accounted (set.run P events) := by
  induction events generalizing set with
  | nil => exact h
  | cons event _ ih => exact ih (h.step event)

/-! ## A run -/

theorem run_totals (h : Accounted set) {events} (stays : ∀ done, done <+: events →
      (set.run P done).loaded id = true) :
    ((set.run P events).counterOf id).requests =
        (set.counterOf id).requests + evaluations P id set events ∧
      (set.counterOf id).blocks ≤ ((set.run P events).counterOf id).blocks ∧
      (set.counterOf id).observe ≤ ((set.run P events).counterOf id).observe ∧
      (set.counterOf id).canarySel ≤ ((set.run P events).counterOf id).canarySel := by
  induction events generalizing set with
  | nil => exact ⟨rfl, le_rfl, le_rfl, le_rfl⟩
  | cons event events ih =>
    have first := Event.charged h (stays [event] (List.prefix_append [event] events))
    obtain ⟨requests, blocks, observe, canarySel⟩ := ih (h.step event)
      fun done within => stays (event :: done) (List.cons_prefix_cons.mpr ⟨rfl, within⟩)
    refine ⟨?_, first.blocks.trans blocks, first.observe.trans observe,
      first.canarySel.trans canarySel⟩
    rw [evaluations, ← Nat.add_assoc, ← first.requests]
    exact requests

theorem newReleaseSet_accounted (edgeVersion : String) : Accounted (newReleaseSet edgeVersion) :=
  ⟨(newReleaseSet_unused edgeVersion).toCounted,
    by simp [newReleaseSet, Table.empty], fun _ => le_rfl⟩

/-- Between two points of a run over which a release stays loaded. -/
theorem counters_account {edgeVersion : String} {earlier later : List Event}
    {id : String} (reached : set = (newReleaseSet edgeVersion).run P earlier)
    (stays : ∀ done, done <+: later → (set.run P done).loaded id = true) :
    ((set.counterOf id).requests ≤ ((set.run P later).counterOf id).requests ∧
      (set.counterOf id).blocks ≤ ((set.run P later).counterOf id).blocks ∧
      (set.counterOf id).observe ≤ ((set.run P later).counterOf id).observe ∧
      (set.counterOf id).canarySel ≤ ((set.run P later).counterOf id).canarySel) ∧
    ((set.run P later).counterOf id).blocks + ((set.run P later).counterOf id).observe ≤
      ((set.run P later).counterOf id).requests ∧
    (∀ done event, done ++ [event] <+: later →
      ((set.run P done).counterOf id).blocks < ((set.run P (done ++ [event])).counterOf id).blocks →
      event.evaluates (set.run P done) id = true ∧
        intercepts (resolvePosture (set.run P done).posture) = true) ∧
    ((set.run P later).counterOf id).requests =
      (set.counterOf id).requests + evaluations P id set later := by
  have accounted : Accounted set := reached ▸ (newReleaseSet_accounted edgeVersion).run earlier
  obtain ⟨requests, blocks, observe, canarySel⟩ := run_totals accounted stays
  refine ⟨⟨by omega, blocks, observe, canarySel⟩, (accounted.run later).covered id, ?_, requests⟩
  intro done event within more
  have last : set.run P (done ++ [event]) = event.step P (set.run P done) := by
    simp [ReleaseSet.run]
  have kept := stays _ within
  rw [last] at kept more
  have charged := Event.charged (accounted.run done) kept
  refine ⟨?_, charged.intercepted more⟩
  -- An event that is no evaluation adds no verdict.
  cases counts : event.evaluates (set.run P done) id with
  | true => rfl
  | false =>
    have verdicts := charged.verdicts
    have observe := charged.observe
    rw [counts, Bool.toNat_false] at verdicts
    omega

end Events

def shopSwap : Event := .swap issued (persistCache shopCodec) shopRules

def passwdEvaluation (posture : IngressPosture) : List Event :=
  [.setPosture posture, .evaluate issued passwdRequest ⟨[], [], false⟩ passwdView]

theorem shopSwap_run : (newReleaseSet "dev").run shopEdge [shopSwap] = shopLoaded := by
  simp [ReleaseSet.run, shopSwap, Event.step, shopRules_installed]

/-- The rule is counted once, and as a block where the edge intercepts. -/
theorem counters_account_passwd :
    ((shopLoaded.run shopEdge (passwdEvaluation .reverseProxy)).counterOf
        "rel-2").requests = (shopLoaded.counterOf "rel-2").requests + 1 ∧
      shopLoaded.counterOf "rel-2" = {} ∧
      (shopLoaded.run shopEdge (passwdEvaluation .reverseProxy)).counterOf "rel-2" = ⟨1, 1, 0, 0⟩ ∧
      (shopLoaded.run shopEdge (passwdEvaluation .tapAlert)).counterOf "rel-2" = ⟨1, 0, 1, 0⟩ := by
  have stays : ∀ done, done <+: passwdEvaluation .reverseProxy →
      (shopLoaded.run shopEdge done).loaded "rel-2" = true := by
    intro done within
    have releases : (shopLoaded.run shopEdge done).releases =
        shopLoaded.releases := by
      simp only [passwdEvaluation, List.prefix_cons_iff, List.prefix_nil] at within
      rcases within with rfl | ⟨_, rfl, rfl | ⟨_, rfl, rfl⟩⟩ <;> rfl
    rw [ReleaseSet.loaded, releases]
    decide +kernel
  have counted := (counters_account shopSwap_run.symm stays).2.2.2
  refine ⟨counted.trans ?_, by decide +kernel, by decide +kernel, by decide +kernel⟩
  congr 1

end YuFeng.Edge

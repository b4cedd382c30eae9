import YuFeng.Edge.Process
import YuFeng.Library.Run

/-!
# The generation that a decision names

Every decision carries the identifier and the sequence of the active
generation.  `ApplyGeneration` replaces the members of the set together with
the active generation; `ApplySnapshot` and `Apply` replace members and leave
the stamp as it is.
-/

namespace YuFeng.Edge

open YuFeng.Library YuFeng.Kernel List

variable {set : ReleaseSet}

structure SetLoads where
  set : ReleaseSet
  accepted : List AssetGeneration

inductive LoadCall where
  | generation (now : Int) (persist : Persist) (gen : AssetGeneration)
  | snapshot (now : Int) (items : List ReleaseItem)
  | single (now : Int) (item : ReleaseItem)

def SetLoads.step (P : Platform) (s : SetLoads) : LoadCall → SetLoads
  | .generation now persist gen =>
    match applyGeneration P now persist s.set gen with
    | .ok set => ⟨set, gen :: s.accepted⟩
    | .error _ => s
  | .snapshot now items =>
    match applySnapshot P now s.set items with
    | .ok set => { s with set := set }
    | .error _ => s
  | .single now item =>
    match apply P now s.set item with
    | .ok set => { s with set := set }
    | .error _ => s

def SetLoads.start (edgeVersion : String) : SetLoads := ⟨newReleaseSet edgeVersion, []⟩

def Compiled (P : Platform) (set : ReleaseSet) (gen : AssetGeneration) : Prop :=
  ∃ time next, compileGeneration P time set gen = .ok next ∧
    set.releases = next.releases ∧ set.inspectors = next.inspectors ∧ set.profile = next.profile

structure Unloaded (set : ReleaseSet) : Prop where
  releases : set.releases = .empty
  inspectors : set.inspectors = []
  profile : set.profile = none

/-- The stamp of a decision names the generation that is loaded. -/
def Truthful (P : Platform) (s : SetLoads) (d : Decision) : Prop :=
  (d.generationId = "" ∧ d.generationSeq = 0 ∧ Unloaded s.set) ∨
    ∃ gen ∈ s.accepted, d.generationId = gen.generationId ∧
      d.generationSeq = gen.generationSeq ∧ Compiled P s.set gen

/-- Members come with their generation: an item that is applied on its own
does not load, a snapshot does not load or repeats the active generation, and
an envelope under a name that was used before has the same members. -/
def LoadCall.faithful (P : Platform) (s : SetLoads) : LoadCall → Prop
  | .generation _ _ gen => ∀ old ∈ s.accepted, old.generationId = gen.generationId →
      old.generationSeq = gen.generationSeq → old.members = gen.members
  | .snapshot now items => (∃ item ∈ items, ¬ Admits P now item) ∨
      ∃ gen, s.set.activeGen = some gen ∧ items = gen.members
  | .single now item => ¬ Admits P now item

/-! ## The invariant -/

structure Stamped (P : Platform) (s : SetLoads) : Prop where
  unloaded : s.set.activeGen = none → Unloaded s.set
  active : ∀ gen, s.set.activeGen = some gen → gen ∈ s.accepted ∧ Compiled P s.set gen
  named : ∀ gen ∈ s.accepted, ∀ gen' ∈ s.accepted, gen.generationId = gen'.generationId →
    gen.generationSeq = gen'.generationSeq → gen.members = gen'.members

variable {P : Platform} {s : SetLoads}

theorem stamped_start (edgeVersion) : Stamped P (SetLoads.start edgeVersion) where
  unloaded _ := ⟨rfl, rfl, rfl⟩
  active _ absent := by cases absent
  named _ absent := by cases absent

theorem checkSuccession_active {current next active : AssetGeneration} :
    checkSuccession current next = .ok active →
      active = next ∨ active = current ∧ current.generationId = next.generationId ∧
        current.generationSeq = next.generationSeq := by
  fun_cases checkSuccession current next
  all_goals
    intro h
    cases h
  next sameSeq sameId => exact .inr ⟨rfl, sameId.symm, sameSeq.symm⟩
  · exact .inl rfl

theorem compileGeneration_members {time gen gen'} (same : gen.members = gen'.members) :
    compileGeneration P time set gen = compileGeneration P time set gen' := by
  unfold compileGeneration
  rw [same]

theorem Stamped.generation {now persist gen} (h : Stamped P s)
    (faithful : LoadCall.faithful P s (.generation now persist gen))
    (applied : applyGeneration P now persist s.set gen = .ok set) :
    Stamped P ⟨set, gen :: s.accepted⟩ := by
  obtain ⟨active, next, -, placed, compiled, -, -, rfl⟩ := applyGeneration_ok.mp applied
  have place : active = gen ∨ active ∈ s.accepted ∧ active.members = gen.members := by
    cases current : s.set.activeGen with
    | none =>
      rw [current] at placed
      cases placed
      exact .inl rfl
    | some =>
      rw [current] at placed
      rcases checkSuccession_active placed with
        new | ⟨rfl, sameId, sameSeq⟩
      · exact .inl new
      · have accepted := (h.active _ current).1
        exact .inr ⟨accepted, faithful _ accepted sameId sameSeq⟩
  refine ⟨fun absent => (by cases absent), ?_, ?_⟩
  · intro loaded same
    obtain rfl : active = _ := Option.some.inj same
    have members : active.members = gen.members := by
      rcases place with rfl | ⟨-, same⟩
      · rfl
      · exact same
    refine ⟨?_, now, next, ?_, rfl, rfl, rfl⟩
    · rcases place with rfl | ⟨old, -⟩
      · exact mem_cons_self
      · exact mem_cons_of_mem _ old
    · rw [compileGeneration_members members]
      exact compiled
  · intro _ member _ member' sameId sameSeq
    rcases mem_cons.mp member with rfl | old
    · rcases mem_cons.mp member' with rfl | old'
      · rfl
      · exact (faithful _ old' sameId.symm sameSeq.symm).symm
    · rcases mem_cons.mp member' with rfl | old'
      · exact faithful _ old sameId sameSeq
      · exact h.named _ old _ old' sameId sameSeq

theorem Stamped.snapshot {now items} (h : Stamped P s)
    (faithful : LoadCall.faithful P s (.snapshot now items))
    (applied : applySnapshot P now s.set items = .ok set) : Stamped P { s with set := set } := by
  obtain ⟨next, compiled, same⟩ := seq_ok.mp applied
  cases same
  have loads : ∀ item ∈ items, Admits P now item :=
    (foldlM_succeeds (apply P now) (Admits P now) fun _ _ =>
      admits_iff).mp ⟨next, compiled⟩
  rcases faithful with ⟨item, member, broken⟩ | ⟨gen, active, rfl⟩
  · exact absurd (loads item member) broken
  · refine ⟨fun absent => by simp [active] at absent, ?_, h.named⟩
    intro loaded same
    obtain rfl := Option.mem_unique active same
    exact ⟨(h.active gen active).1, now, next, compiled, rfl, rfl, rfl⟩

theorem Stamped.step (op) (faithful : op.faithful P s) (h : Stamped P s) :
    Stamped P (s.step P op) := by
  cases op with
  | generation now persist gen =>
    unfold SetLoads.step
    dsimp only
    cases applied : applyGeneration P now persist s.set gen with
    | error => exact h
    | ok => exact h.generation faithful applied
  | snapshot now items =>
    unfold SetLoads.step
    dsimp only
    cases applied : applySnapshot P now s.set items with
    | error => exact h
    | ok => exact h.snapshot faithful applied
  | single now item =>
    unfold SetLoads.step
    dsimp only
    cases applied : apply P now s.set item with
    | error => exact h
    | ok set => exact absurd (admits_iff.mp ⟨set, applied⟩) faithful

theorem Stamped.truthful (h : Stamped P s) (now req view) :
    Truthful P s (inspectThenGate P now s.set req view).1 := by
  cases active : s.set.activeGen with
  | none =>
    refine .inl ⟨?_, ?_, h.unloaded active⟩
    all_goals simp [inspectThenGate, active]
  | some gen =>
    obtain ⟨accepted, compiled⟩ := h.active gen active
    refine .inr ⟨gen, accepted, ?_, ?_, compiled⟩
    all_goals simp [inspectThenGate, active]

/-- As long as members come with their generation, decisions are stamped with
the generation that made them, and its name determines its members. -/
theorem stamp_names_loaded {edgeVersion : String} {calls : List LoadCall}
    (faithful : Meets (SetLoads.step P) (fun s call => call.faithful P s)
      (SetLoads.start edgeVersion) calls) :
    (∀ now req view, Truthful P (run (SetLoads.step P) (SetLoads.start edgeVersion) calls)
      (inspectThenGate P now (run (SetLoads.step P) (SetLoads.start edgeVersion) calls).set req
        view).1) ∧
    ∀ gen ∈ (run (SetLoads.step P) (SetLoads.start edgeVersion) calls).accepted,
      ∀ gen' ∈ (run (SetLoads.step P) (SetLoads.start edgeVersion) calls).accepted,
        gen.generationId = gen'.generationId → gen.generationSeq = gen'.generationSeq →
        gen.members = gen'.members := by
  have stamped := run_invariant (SetLoads.step P) (fun s call => call.faithful P s) (Stamped P)
    (fun s call ok h => h.step call ok) faithful (stamped_start edgeVersion)
  exact ⟨fun now req view => stamped.truthful now req view, stamped.named⟩

/-! ## A snapshot under an old stamp -/

def loadShop : LoadCall := .generation issued (fun _ _ => .ok ()) shopRules

theorem stamp_names_loaded_shop :
    (run (SetLoads.step shopEdge) (SetLoads.start "dev") [loadShop]).accepted = [shopRules] ∧
      Truthful shopEdge (run (SetLoads.step shopEdge) (SetLoads.start "dev") [loadShop])
        (inspectThenGate shopEdge issued (run (SetLoads.step shopEdge)
          (SetLoads.start "dev") [loadShop]).set passwdRequest
          passwdView).1 := by
  have faithful : Meets (SetLoads.step shopEdge)
      (fun s call => call.faithful shopEdge s) (SetLoads.start "dev")
      [loadShop] := by
    refine ⟨fun old absent => ?_, trivial⟩
    cases absent
  exact ⟨by decide +kernel, (stamp_names_loaded faithful).1 issued passwdRequest passwdView⟩

def emptied : SetLoads :=
  run (SetLoads.step shopEdge) (SetLoads.start "dev") [loadShop, .snapshot issued []]

theorem compiled_shop_rows (version : set.edgeVersion = "dev")
    (h : Compiled shopEdge set shopRules) :
    set.releases.rows.length = 2 := by
  obtain ⟨_, _, compiled, same, -, -⟩ := h
  have known : ∃ next', compileGeneration shopEdge issued
      (newReleaseSet "dev") shopRules = .ok next' ∧
        next'.releases.rows.length = 2 := by
    cases built : compileGeneration shopEdge issued (newReleaseSet "dev") shopRules with
    | error =>
      have fine : (compileGeneration shopEdge issued (newReleaseSet "dev")
          shopRules).isOk = true := by
        decide +kernel
      simp [built, Except.isOk, Except.toBool] at fine
    | ok next' =>
      refine ⟨next', rfl, ?_⟩
      have rows : (compileGeneration shopEdge issued (newReleaseSet "dev")
          shopRules).map (·.releases.rows.length) = .ok 2 := by
        decide +kernel
      rw [built] at rows
      exact Except.ok.inj rows
  obtain ⟨_, compiled', rows⟩ := known
  have content := compileGeneration_content compiled compiled' (version.trans (by decide +kernel))
  have releases := congrArg (·.releases.rows.length) content
  simp only [ReleaseSet.content, Table.update, length_map] at releases
  rw [same, releases, rows]

theorem stamp_names_emptied :
    emptied.accepted = [shopRules] ∧ (inspectThenGate shopEdge issued emptied.set passwdRequest
        passwdView).1.generationId = "gen-1" ∧
      (inspectThenGate shopEdge issued emptied.set passwdRequest passwdView).1.generationSeq = 1 ∧
      ¬ Truthful shopEdge emptied (inspectThenGate shopEdge issued
        emptied.set passwdRequest passwdView).1 := by
  have accepted : emptied.accepted = [shopRules] := by decide +kernel
  have id : (inspectThenGate shopEdge issued emptied.set passwdRequest
      passwdView).1.generationId = "gen-1" := by
    decide +kernel
  have seq : (inspectThenGate shopEdge issued emptied.set passwdRequest
      passwdView).1.generationSeq = 1 := by
    decide +kernel
  refine ⟨accepted, id, seq, ?_⟩
  rintro (⟨blank, -⟩ | ⟨gen, member, -, -, compiled⟩)
  · simp [id] at blank
  · rw [accepted, mem_singleton] at member
    subst member
    have rows := compiled_shop_rows (by decide +kernel) compiled
    have none : emptied.set.releases.rows.length = 0 := by decide +kernel
    omega

end YuFeng.Edge

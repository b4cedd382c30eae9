import YuFeng.Brain.EnforceGate

/-!
# Runs that keep the gate

What an attempt has read stays true of the release until the attempt commits,
because no step of a calm run moves the evidence under it.
-/

namespace YuFeng.Brain

open YuFeng.Library YuFeng.Kernel List Table

variable {s : Plane} {a : Attempt} {id : Nat} {db db' : Governance}
  {releaseId : String} {rest : List Action} {cfg : Settings} {action : Action}
  {genId : String → String} {clock : Int} {task : Task} {op : PlaneOp}

def Query.fits : Query → Bool
  | .started state => state = .canary
  | .requests mode => mode = .canary
  | .listed _ | .skip | .units | .excluded | .denies | .release => true
  | _ => false

/-- A promotion to enforce can rely on what it has read. -/
structure Attempt.Sound (s : Plane) (a : Attempt) : Prop where
  fits : ∀ query, .ask query ∈ a.program → query.fits = true
  windows : s.windowsGood a.releaseId = true
  feedback : .promote .autoEnforce ∈ a.program ∨ a.reads.denies = some 0 →
    countDenies s.db a.releaseId = 0
  counted : a.reads.requests ≤ sumCounters s.db a.releaseId .canary
  aged : ∀ age row, a.reads.age = some age →
    s.db.releases.find? a.releaseId = some row → row.state = .canary →
    ∃ t, row.canaryStartedAt = some t ∧ age ≤ s.clock - t
  loaded : ∀ rel row, a.reads.release = some rel → rel.state ≠ .canary →
    s.db.releases.find? a.releaseId = some row → row.state ≠ .canary

def Started (db : Governance) (clock : Int) : Prop :=
  ∀ id row, db.releases.find? id = some row → (∀ t, row.canaryStartedAt = some t → t ≤ clock) ∧
      (row.state = .canary → row.canaryStartedAt.isSome = true)

structure PlaneInv (s : Plane) : Prop where
  started : Started s.db s.clock
  named : ∀ id a, s.attempts.find? id = some a →
    ∀ rel, a.reads.release = some rel → rel.id = a.releaseId
  sound : ∀ id a, s.attempts.find? id = some a → a.enforcing = true → a.Sound s

theorem Attempt.Sound.steady {s'} (h : a.Sound s) (steady : Steady a.releaseId s s') :
    a.Sound s' where
  fits := h.fits
  windows := steady.windows h.windows
  feedback relied := steady.denies.trans (h.feedback relied)
  counted := Nat.le_trans h.counted steady.requests
  aged age row known found canary := by
    obtain ⟨t, began, old⟩ := h.aged age row known (steady.canary row found canary) canary
    have later := steady.clock
    exact ⟨t, began, by omega⟩
  loaded rel row known other found canary :=
    h.loaded rel row known other (steady.canary row found canary) canary

theorem enforcing_of_mem (found : s.attempts.find? id = some a) (enforcing : a.enforcing = true) :
    s.enforcing a.releaseId = true := by
  rw [Plane.enforcing, any_eq_true]
  exact ⟨(id, a), mem_iff_find?.mpr found, by simp [enforcing]⟩

/-! ## One action of an attempt -/

def Plane.acted (cfg : Settings) (s : Plane) (id : Nat) (a : Attempt)
    (action : Action) (rest : List Action) (genId : String → String) :
    Plane :=
  let seen := action.observe cfg s.clock s.db a.releaseId a.reads
  { s with
    db := action.settle cfg s.clock genId seen.1 seen.2
    attempts := s.attempts.set id { a with program := rest, reads := seen.1 } }

theorem Committed.started {w} (h : Committed w db db') {id row'}
    (found : db'.releases.find? id = some row') :
    ∃ row, db.releases.find? id = some row ∧ (row'.canaryStartedAt = row.canaryStartedAt ∧
          (row'.state = .canary → row.state = .canary) ∨
        w.rel.state = .canary ∧ row'.canaryStartedAt = row.canaryStartedAt.or (some w.now)) := by
  obtain ⟨row, written, before, -, wrote, rows⟩ := h.rows
  have started : written.canaryStartedAt = row.canaryStartedAt ∧ written.state ≠ .canary ∨
      w.rel.state = .canary ∧ written.canaryStartedAt = row.canaryStartedAt.or (some w.now) := by
    have state := write_state wrote
    cases rel : w.rel <;>
      simp only [rel, Release.write, Except.ok.injEq, map_ok] at wrote
    case canary =>
      subst wrote
      exact .inr ⟨rfl, rfl⟩
    case retired =>
      obtain ⟨_, -, rfl⟩ := wrote
      exact .inl ⟨rfl, by simp⟩
    all_goals
      subst wrote
      exact .inl ⟨rfl, by simp⟩
  have middle : ∀ old, (db.releases.set w.rel.id written).find? id =
      some old → ∃ row, db.releases.find? id = some row ∧
        (old.canaryStartedAt = row.canaryStartedAt ∧ (old.state = .canary → row.state = .canary) ∨
          w.rel.state = .canary ∧ old.canaryStartedAt = row.canaryStartedAt.or (some w.now)) := by
    intro old present
    rcases find?_set_some present with ⟨rfl, rfl⟩ | ⟨-, present⟩
    · refine ⟨row, before, started.imp_left ?_⟩
      rintro ⟨same, other⟩
      exact ⟨same, fun canary => absurd canary other⟩
    · exact ⟨old, present, .inl ⟨rfl, fun canary => canary⟩⟩
  rcases rows id with same | ⟨old, present, retired⟩
  · exact middle row' (same.symm.trans found)
  · obtain ⟨row, first, rest⟩ := middle old present
    rw [retired] at found
    cases found
    refine ⟨row, first, rest.imp_left ?_⟩
    rintro ⟨same, -⟩
    exact ⟨same, by simp [ReleaseRow.supersededAt]⟩

theorem Started.later {clock'} (h : Started db clock) (releases : db'.releases = db.releases)
    (later : clock ≤ clock') : Started db' clock' := by
  intro id row found
  rw [releases] at found
  refine ⟨?_, (h id row found).2⟩
  intro t began
  exact Int.le_trans ((h id row found).1 t began) later

theorem PlaneInv.keep {s'} (h : PlaneInv s) (started : Started s'.db s'.clock)
    (attempts : s'.attempts = s.attempts)
    (steady : ∀ releaseId, s.enforcing releaseId = true → Steady releaseId s s') : PlaneInv s' where
  started := started
  named id a found := h.named id a (attempts ▸ found)
  sound id a found enforcing := by
    rw [attempts] at found
    exact (h.sound id a found enforcing).steady (steady _ (enforcing_of_mem found enforcing))

theorem enforcing_task (h : task.program.any Action.enforces = true) :
    task = .promotion .manualEnforce ∨ task = .promotion .autoEnforce := by
  cases task with
  | guard => simp [Task.program, Action.enforces] at h
  | promotion promotion =>
    cases promotion with
    | manualCanary | autoCanary =>
      simp [Task.program, Action.enforces, Promotion.enforces] at h
    | manualEnforce => exact .inl rfl
    | autoEnforce => exact .inr rfl

theorem program_fits (h : task.program.any Action.enforces = true) :
    ∀ query, .ask query ∈ task.program → query.fits = true := by
  intro query
  rcases enforcing_task h with rfl | rfl
  · simp only [Task.program, mem_cons, Action.ask.injEq]
    rintro (rfl | rfl | rfl | rfl | rfl | other)
    all_goals first | rfl | simp at other
  · simp only [Task.program, mem_cons, Action.ask.injEq]
    rintro (rfl | rfl | rfl | rfl | rfl | rfl | other)
    all_goals first | rfl | simp at other

theorem start_sound (calm : (PlaneOp.start id task releaseId).calm cfg s = true)
    (enforcing : task.program.any Action.enforces = true) :
    Attempt.Sound s { releaseId := releaseId, program := task.program } := by
  have evidence : s.windowsGood releaseId = true ∧ (.promote .autoEnforce ∈ task.program →
        countDenies s.db releaseId = 0) := by
    rcases enforcing_task enforcing with rfl | rfl
    · exact ⟨calm, by simp [Task.program]⟩
    · have both : s.windowsGood releaseId = true ∧ countDenies s.db releaseId = 0 := by
        simpa [PlaneOp.calm] using calm
      exact ⟨both.1, fun _ => both.2⟩
  refine ⟨program_fits enforcing, evidence.1, ?_, Nat.zero_le _, ?_, ?_⟩
  · rintro (auto | zero)
    · exact evidence.2 auto
    · contradiction
  · intro age row known
    contradiction
  · intro rel row known
    contradiction

theorem start_inv (calm : (PlaneOp.start id task releaseId).calm cfg s = true) (inv : PlaneInv s) :
    PlaneInv (s.step cfg (.start id task releaseId)) := by
  have steady : ∀ releaseId', Steady releaseId' s (s.step cfg (.start id task releaseId)) :=
    fun _ => .of_db (Int.le_refl _) rfl
  exact ⟨inv.started, forall_set (fun _ known => by contradiction) inv.named,
    forall_set (fun enforcing => (start_sound calm enforcing).steady (steady _))
      fun other a found enforcing => (inv.sound other a found enforcing).steady (steady _)⟩

def gateSettings : Settings where
  shadowMinDuration := 0
  shadowMinRequests := 0
  canaryMinDuration := 60
  canaryMinRequests := 10
  signing := none

def exactPolicy : Artifact :=
  { id := "art1"
    kind := .policy
    payload := "e30="
    payloadSchema := "policy/v1"
    replayReport := some { passed := true, maliciousTotal := 1, maliciousBlocked := 1 } }

def policyShadow : List PlaneOp :=
  [.change (.propose {
      releaseId := "rel1"
      artifact := exactPolicy
      assetIds := ["shop"]
      createdBy := "ops"
      scopeRisk := "exact"
      evidenceClass := "crs_mapped"
      now := 0 }),
    .change (keyedWrite (.signed "rel1" exactPolicy) false "" 0),
    .change (keyedWrite (.shadow "rel1" exactPolicy) false "" 0)]

def attemptOps (id : Nat) (promotion : Promotion) : List PlaneOp :=
  .start id (.promotion promotion) "rel1" ::
    (Task.promotion promotion).program.map fun _ => .advance id fun _ => "gen"

end YuFeng.Brain

import YuFeng.Brain.GenerationCommit

/-!
# Superseded attempts

A call under a newer lease gives up the attempt of an older call that is still
waiting for the model.  What keeps the late reply of the older call out is the
budget: the reservation of the attempt has been settled as unknown, and cannot
be settled again with a result.  An attempt without a reservation has no such
guard.
-/

namespace YuFeng.Generation

open YuFeng.Library Table
open YuFeng.RunBudget

variable {db : Database} {row : AttemptRow}

/-! ## Attempts and their reservations -/

def AttemptRow.Recovered (row : AttemptRow) : Prop :=
  row.state = .outcomeUnknown ∧ row.errorCode = leaseRecovered

def AttemptRow.Ended (row : AttemptRow) : Prop :=
  (row.state = .settled ∨ row.state = .outcomeUnknown) ∧ ¬ row.Recovered

/-- What a change of an attempt leaves as it is. -/
structure AttemptRow.Stays (row row' : AttemptRow) : Prop where
  generation : row'.generationId = row.generationId
  reservation : row'.budgetReservationId = row.budgetReservationId
  recovered : row.Recovered → row' = row
  ended : row.Ended → row'.Ended
  beyond : row.state ≠ .intentRecorded → row'.state ≠ .intentRecorded

theorem AttemptRow.Stays.refl (row : AttemptRow) : row.Stays row :=
  ⟨rfl, rfl, fun _ => rfl, fun h => h, fun h => h⟩

/-- An attempt that still waits is neither given up nor ended. -/
theorem AttemptRow.Stays.of_waiting {row row' : AttemptRow}
    (waiting : row.state = .intentRecorded ∨ row.state = .effectStarted)
    (generation : row'.generationId = row.generationId)
    (reservation : row'.budgetReservationId = row.budgetReservationId)
    (beyond : row.state ≠ .intentRecorded → row'.state ≠ .intentRecorded) : row.Stays row' := by
  refine ⟨generation, reservation, ?_, ?_, beyond⟩ <;>
    rcases waiting with state | state <;> simp [AttemptRow.Ended, AttemptRow.Recovered, state]

theorem AttemptRow.Stays.trans {first second third : AttemptRow}
    (h : first.Stays second) (h' : second.Stays third) :
    first.Stays third := by
  refine ⟨h'.generation.trans h.generation, h'.reservation.trans h.reservation, fun recovered => ?_,
    fun ended => h'.ended (h.ended ended), fun h₀ => h'.beyond (h.beyond h₀)⟩
  obtain rfl := h.recovered recovered
  exact h'.recovered recovered

def Steady (db after : Database) : Prop :=
  ∀ id row, db.attempts.find? id = some row →
    ∃ row', after.attempts.find? id = some row' ∧ row.Stays row'

theorem Steady.refl (db) : Steady db db := fun _ row found => ⟨row, found, .refl row⟩

theorem Steady.trans {after last} (h : Steady db after) (h' : Steady after last) : Steady db last :=
  Carries.trans h h' AttemptRow.Stays.trans

/-- Every attempt has a reservation under the budget of its generation, which
is settled as unknown once the attempt is given up. -/
structure Guarded (budgetOf : String → String) (db : Database) : Prop where
  keyed : Keyed db.ledger
  ids : ∀ id, (db.ledger.reservations.find? id).isSome → id ≠ ""
  reserved : ∀ id row, db.attempts.find? id = some row →
    ∃ res, db.ledger.reservations.find? row.budgetReservationId = some res ∧
      res.key = (budgetOf row.generationId, .model, id) ∧
      (row.Recovered → res.state = .outcomeUnknown)

section Changes

variable {budgetOf : String → String} {db after : Database}

section

variable (guarded : Guarded budgetOf db) (evolves : Evolves db.ledger after.ledger)

include guarded evolves

theorem Guarded.ids_after :
    ∀ id, (after.ledger.reservations.find? id).isSome → id ≠ "" := by
  intro id found
  rcases evolves.named id found with old | named
  · exact guarded.ids id old
  · exact named

theorem Guarded.reserved_after {id} (found : db.attempts.find? id = some row) :
    ∃ res, after.ledger.reservations.find? row.budgetReservationId = some res ∧
      res.key = (budgetOf row.generationId, .model, id) ∧
      (row.Recovered → res.state = .outcomeUnknown) := by
  obtain ⟨res, stored, key, unknown⟩ := guarded.reserved id row found
  obtain ⟨res', stored', key', final⟩ := evolves.stays _ res stored
  refine ⟨res', stored', key'.trans key, fun recovered => ?_⟩
  have state := unknown recovered
  rw [final (by simp [state])]
  exact state

theorem Guarded.ledger (attempts : after.attempts = db.attempts) : Guarded budgetOf after := by
  refine ⟨evolves.keyed guarded.keyed, guarded.ids_after evolves, ?_⟩
  rw [attempts]
  exact fun id row => guarded.reserved_after evolves

theorem Guarded.change {attemptId} {change : AttemptRow → AttemptRow}
    (rows : ∀ id, after.attempts.find? id = if id = attemptId then (db.attempts.find? id).map change
      else db.attempts.find? id)
    (stays : ∀ row, db.attempts.find? attemptId = some row → row.Stays (change row))
    (marked : ∀ row, db.attempts.find? attemptId = some row →
      (change row).Recovered → ¬ row.Recovered →
      ∃ res, after.ledger.reservations.find? row.budgetReservationId =
        some res ∧ res.state = .outcomeUnknown) : Guarded budgetOf after ∧ Steady db after := by
  refine ⟨⟨evolves.keyed guarded.keyed, guarded.ids_after evolves, fun id _ found => ?_⟩,
    carries_change .refl rows stays⟩
  rw [rows id] at found
  split at found
  next here =>
    subst here
    obtain ⟨row, stored, rfl⟩ := Option.map_eq_some_iff.mp found
    obtain ⟨res, kept, key, unknown⟩ := guarded.reserved_after evolves stored
    have same := stays row stored
    rw [same.reservation, same.generation]
    refine ⟨res, kept, key, fun recovered => ?_⟩
    by_cases before : row.Recovered
    · exact unknown before
    · obtain ⟨_, kept', state⟩ := marked row stored recovered before
      obtain rfl := Option.mem_unique kept kept'
      exact state
  · exact guarded.reserved_after evolves found

end

end Changes

/-! ## Beginning -/

/-- Calls are made under the budget of their generation, which has an
account. -/
def Limited (budgetOf : String → String) (req : GenerateRequest)
    (budgetId : String) (db : Database) : Prop :=
  budgetId = budgetOf req.generationId ∧ budgetId ≠ "" ∧ (db.ledger.accounts.find? budgetId).isSome

section Beginning

variable {budgetOf : String → String} {db after : Database} {svc : Service}
  {req : GenerateRequest} {budgetId : String} {start : GenerationStart}

def Holds (start : GenerationStart) (db : Database) : Prop :=
  ∃ attemptId row, db.attempts.find? attemptId = some row ∧
    start = .started attemptId row.budgetReservationId

theorem Attempted.guarded {attemptSequence}
    (h : Attempted req budgetId attemptSequence db start after) (guarded : Guarded budgetOf db)
    (limited : Limited budgetOf req budgetId db) :
    Guarded budgetOf after ∧ Steady db after ∧ Holds start after := by
  obtain ⟨-, _, _, started, unused, reserves, rows⟩ := h
  obtain ⟨res, stored, key⟩ := reserves.found ⟨limited.2.1, newID_ne_empty _ _, limited.2.2⟩
  refine ⟨⟨reserves.evolves.keyed guarded.keyed,
    guarded.ids_after reserves.evolves, fun id row found => ?_⟩, fun id row found => ?_, ?_⟩
  · rw [rows id] at found
    split at found
    next here =>
      cases found
      refine ⟨res, stored, ?_, fun recovered => ?_⟩
      · rw [key, here, limited.1]
      · cases recovered.1
    · exact guarded.reserved_after reserves.evolves found
  · refine ⟨row, ?_, .refl row⟩
    rw [rows id, if_neg, found]
    rintro rfl
    simp [unused] at found
  · exact ⟨_, _, by rw [rows, if_pos rfl], started⟩

theorem Reserved.guarded {attemptId} (h : Reserved budgetId attemptId
      (fun reservationId row => { row with
        leaseEpoch := req.leaseEpoch
        budgetReservationId := reservationId }) db start after)
    (found : db.attempts.find? attemptId = some row)
    (generation : row.generationId = req.generationId) (intent : row.state = .intentRecorded)
    (named : attemptId ≠ "") (guarded : Guarded budgetOf db)
    (limited : Limited budgetOf req budgetId db) :
    Guarded budgetOf after ∧ Steady db after ∧ Holds start after := by
  obtain ⟨-, reservationId, started, reserves, rows⟩ := h
  obtain ⟨res, stored, key⟩ := reserves.found ⟨limited.2.1, named, limited.2.2⟩
  have same : reservationId = row.budgetReservationId := by
    obtain ⟨old, kept, oldKey, -⟩ := guarded.reserved_after reserves.evolves found
    refine reserves.evolves.keyed guarded.keyed _ _ res old stored kept ?_
    rw [key, oldKey, limited.1, generation]
  subst same
  have changed := @Guarded.change budgetOf db after guarded reserves.evolves attemptId _ rows
    (fun row' stored' => by
      obtain rfl := Option.mem_unique found stored'
      exact .of_waiting (.inl intent) rfl rfl fun beyond => beyond)
    (fun row' stored' recovered => by
      obtain rfl := Option.mem_unique found stored'
      simp [AttemptRow.Recovered, intent] at recovered)
  refine ⟨changed.1, changed.2, attemptId, { row with leaseEpoch := req.leaseEpoch }, ?_, started⟩
  rw [rows, if_pos rfl, found]
  rfl

theorem Opens.guarded (h : Opens req budgetId db start after)
    (named : ∀ id row, db.attempts.find? id = some row → id ≠ "")
    (guarded : Guarded budgetOf db)
    (limited : Limited budgetOf req budgetId db) :
    Guarded budgetOf after ∧ Steady db after ∧ Holds start after := by
  cases h with
  | new _ h => exact h.guarded guarded limited
  | reclaimed attemptId row found generation state h =>
    exact h.guarded found generation state (named attemptId row found) guarded limited
  | superseded attemptId row marked found _ state _ _ settled mark h =>
      have evolves := evolves_of_settles settled
      obtain ⟨first, steady⟩ := guarded.change evolves
        (fun id => (mark id).trans (find?_changed found (fun row => { row with
          state := .outcomeUnknown, errorCode := leaseRecovered }) id)) (fun row' stored' => by
          obtain rfl := Option.mem_unique found stored'
          exact .of_waiting (.inr state) rfl rfl fun _ => by simp)
        (fun row' stored' _ _ => by
          obtain rfl := Option.mem_unique found stored'
          obtain ⟨_, stored, -, -⟩ := guarded.reserved attemptId row found
          rcases settled with ⟨none, -⟩ | settles
          · exact absurd none (guarded.ids _ (by simp [stored]))
          · exact settles.settled)
      obtain ⟨last, steady', holds⟩ := h.guarded first
        ⟨limited.1, limited.2.1, evolves.account _ limited.2.2⟩
      exact ⟨last, steady.trans steady', holds⟩

theorem Begins.guarded (h : Begins svc req budgetId db start after)
    (named : ∀ id row, db.attempts.find? id = some row → id ≠ "")
    (guarded : Guarded budgetOf db)
    (limited : Limited budgetOf req budgetId db) :
    Guarded budgetOf after ∧ Steady db after ∧
      (Holds start after ∨ ∃ response, start = .cached response) := by
  cases h with
  | cached =>
    exact ⟨guarded, .refl db, .inr ⟨_, rfl⟩⟩
  | resumed _ _ _ _ _ h =>
    obtain ⟨last, steady, holds⟩ := h.guarded named guarded limited
    exact ⟨last, steady, .inl holds⟩
  | inserted _ _ opened _ _ _ new h =>
    have first : Guarded budgetOf opened :=
      guarded.ledger (by rw [new.ledger]; exact .refl _) new.attempts
    have limited' : Limited budgetOf req budgetId opened := by
      rw [Limited, new.ledger]
      exact limited
    obtain ⟨last, steady, holds⟩ := h.guarded (by rw [new.attempts]; exact named) first limited'
    refine ⟨last, fun id row stored => ?_, .inl holds⟩
    rw [← new.attempts] at stored
    exact steady id row stored

end Beginning

/-! ## Replies -/

def Linked (db : Database) (call : Call) : Prop :=
  ∃ row, db.attempts.find? call.attemptId = some row ∧
    row.budgetReservationId = call.budgetReservationId ∧
    (call.crossed = true → row.state ≠ .intentRecorded)

def Owned (db : Database) : Prop :=
  ∀ id row, db.generations.find? id = some row → row.acceptedAttemptId ≠ "" →
    ∃ attempt, db.attempts.find? row.acceptedAttemptId = some attempt ∧ attempt.Ended

section Replying

variable {budgetOf : String → String} {db after : Database} {svc : Service} {call : Call}
  {change : AttemptRow → AttemptRow}

theorem Linked.steady (linked : Linked db call) (steady : Steady db after) : Linked after call := by
  obtain ⟨row, found, reservation, beyond⟩ := linked
  obtain ⟨row', found', stays⟩ := steady _ row found
  exact ⟨row', found', stays.reservation.trans reservation,
    fun crossed => stays.beyond (beyond crossed)⟩

theorem Owned.steady (owned : Owned db) (steady : Steady db after)
    (same : after.generations = db.generations) : Owned after := by
  intro id row found accepted
  rw [same] at found
  obtain ⟨attempt, stored, ended⟩ := owned id row found accepted
  obtain ⟨attempt', stored', stays⟩ := steady _ attempt stored
  exact ⟨attempt', stored', stays.ended ended⟩

theorem endEffect_stays (err) (row : AttemptRow) :
    row.Stays (row.endEffect .outcomeUnknown err) := by
  unfold AttemptRow.endEffect
  split
  next started => exact .of_waiting (.inr started) rfl rfl fun _ => by simp
  · exact .refl row

theorem settle_stays (row : AttemptRow) : row.Stays row.settle := by
  unfold AttemptRow.settle
  split
  next started => exact .of_waiting (.inr started) rfl rfl fun _ => by simp
  · exact .refl row

theorem Ends.settles {state} (h : Ends call state change db after) (guarded : Guarded budgetOf db)
    (found : db.attempts.find? call.attemptId = some row)
    (same : row.budgetReservationId = call.budgetReservationId) :
    Settles row.budgetReservationId state db.ledger after.ledger := by
  obtain ⟨_, stored, -, -⟩ := guarded.reserved _ row found
  rcases h.ledger with ⟨none, -⟩ | settles
  · exact absurd (same.trans none) (guarded.ids _ (by simp [stored]))
  · rw [same]
    exact settles

theorem Ends.unrecovered (h : Ends call .settled change db after) (guarded : Guarded budgetOf db)
    (found : db.attempts.find? call.attemptId = some row)
    (same : row.budgetReservationId = call.budgetReservationId) :
    ¬ row.Recovered := by
  intro recovered
  obtain ⟨_, stored, -, unknown⟩ := guarded.reserved _ row found
  obtain ⟨_, stored', state⟩ := (h.settles guarded found same).before
  obtain rfl := Option.mem_unique stored stored'
  simp [unknown recovered] at state

theorem Ends.unknown {err} (h : Ends call .outcomeUnknown
      (AttemptRow.endEffect .outcomeUnknown err) db after) (guarded : Guarded budgetOf db)
    (linked : Linked db call) : Guarded budgetOf after ∧ Steady db after := by
  obtain ⟨_, found, same, -⟩ := linked
  refine guarded.change (evolves_of_settles h.ledger) h.attempts
    (fun row' _ => endEffect_stays err row') fun row' found' _ _ => ?_
  obtain rfl := Option.mem_unique found found'
  exact (h.settles guarded found same).settled

theorem Ends.empty (h : Ends call .settled (fun row =>
      { row with state := .settled, errorCode := "empty_response" })
      db after)
    (guarded : Guarded budgetOf db) (linked : Linked db call) :
    Guarded budgetOf after ∧ Steady db after := by
  obtain ⟨_, found, same, -⟩ := linked
  refine guarded.change (evolves_of_settles h.ledger) h.attempts
    (fun row' found' => ?_) fun row' _ recovered _ => ?_
  · obtain rfl := Option.mem_unique found found'
    exact ⟨rfl, rfl, fun recovered => absurd recovered (h.unrecovered guarded found same),
      fun _ => ⟨.inl rfl, by simp [AttemptRow.Recovered]⟩, fun _ => by simp⟩
  · simp [AttemptRow.Recovered] at recovered

theorem Ends.committed (h : Ends call .settled AttemptRow.settle db after)
    (guarded : Guarded budgetOf db) :
    Guarded budgetOf after ∧ Steady db after := by
  refine guarded.change (evolves_of_settles h.ledger) h.attempts
    (fun row' _ => settle_stays row') fun row' _ recovered before => ?_
  unfold AttemptRow.settle at recovered
  split at recovered
  · simp [AttemptRow.Recovered] at recovered
  · exact absurd recovered before

theorem Ends.ended (h : Ends call .settled AttemptRow.settle db after)
    (guarded : Guarded budgetOf db) (linked : Linked db call)
    (crossed : call.crossed = true) :
    ∃ row, after.attempts.find? call.attemptId = some row ∧ row.Ended := by
  obtain ⟨row, found, same, beyond⟩ := linked
  refine ⟨row.settle, by rw [h.attempts, if_pos rfl, found]; rfl, ?_⟩
  have unrecovered := h.unrecovered guarded found same
  unfold AttemptRow.settle
  split
  · exact ⟨.inl rfl, by simp [AttemptRow.Recovered]⟩
  next unstarted =>
    refine ⟨?_, unrecovered⟩
    cases state : row.state with
    | intentRecorded => exact absurd state (beyond crossed)
    | effectStarted => exact absurd state unstarted
    | settled => exact .inl rfl
    | outcomeUnknown => exact .inr rfl

theorem Replies.guarded {response} (h : Replies svc call db response after)
    (guarded : Guarded budgetOf db) (linked : Linked db call) (crossed : call.crossed = true)
    (owned : Owned db) : Guarded budgetOf after ∧ Steady db after ∧ Owned after := by
  cases h with
  | failed _ _ same h | late _ _ _ _ same h =>
    obtain ⟨last, steady⟩ := h.unknown guarded linked
    exact ⟨last, steady, owned.steady steady same.generations⟩
  | empty _ same h =>
    obtain ⟨last, steady⟩ := h.empty guarded linked
    exact ⟨last, steady, owned.steady steady same.generations⟩
  | committed _ _ _ _ _ _ _ _ _ _ generations h =>
      obtain ⟨last, steady⟩ := h.committed guarded
      refine ⟨last, steady, fun id row' found' accepted => ?_⟩
      rw [generations] at found'
      obtain ⟨rfl, rfl⟩ | ⟨-, elsewhere⟩ := find?_set_some found'
      · exact h.ended guarded linked crossed
      · obtain ⟨attempt, stored, ended⟩ := owned id row' elsewhere accepted
        obtain ⟨attempt', stored', stays⟩ := steady _ attempt stored
        exact ⟨attempt', stored', stays.ended ended⟩

end Replying

/-! ## Runs -/

structure Fenced (budgetOf : String → String) (s : System) : Prop where
  sound : Sound s
  guarded : Guarded budgetOf s.db
  owned : Owned s.db
  linked : ∀ id call, s.calls id = some call → Linked s.db call

def Accounted (budgetOf : String → String) (s : System) : Action → Prop
  | .start _ _ req budgetId => Limited budgetOf req budgetId s.db
  | _ => True

section Running

variable {budgetOf : String → String} {svc : Service} {s s' : System} {act : Action}
  {req : GenerateRequest}

theorem Inserted.owned {turn opened} (new : Inserted svc req turn db opened) (owned : Owned db) :
    Owned opened := by
  unfold Owned
  rw [new.generations, new.attempts]
  exact forall_set (absurd rfl ·) owned

theorem Begins.owned {budgetId start after} (h : Begins svc req budgetId db start after)
    (steady : Steady db after) (owned : Owned db) : Owned after := by
  cases h with
  | cached => exact owned
  | resumed _ _ _ _ _ h =>
    exact owned.steady steady h.generations
  | inserted _ _ _ _ _ _ new h =>
    refine (new.owned owned).steady (fun id row stored => ?_) h.generations
    rw [new.attempts] at stored
    exact steady id row stored

theorem crossed_steady {attemptId} (guarded : Guarded budgetOf db)
    (found : db.attempts.find? attemptId = some row) (intent : row.state = .intentRecorded) :
    Guarded budgetOf { db with
        attempts := db.attempts.set attemptId { row with state := .effectStarted } } ∧
      Steady db { db with
        attempts := db.attempts.set attemptId
          { row with state := .effectStarted } } := by
  refine @Guarded.change budgetOf db _ guarded (.refl _) attemptId
    (fun row => { row with state := .effectStarted })
    (fun id => ?_) (fun row' found' => ?_) fun row' _ recovered _ => ?_
  · by_cases here : id = attemptId
    · subst here
      simp [found]
    · simp [here, find?_set_of_ne]
  · obtain rfl := Option.mem_unique found found'
    exact .of_waiting (.inl intent) rfl rfl fun _ => by simp
  · simp [AttemptRow.Recovered] at recovered

theorem Steps.fenced (h : Steps svc s act s')
    (accounted : Accounted budgetOf s act) (fenced : Fenced budgetOf s)
    (sound : Sound s') : Fenced budgetOf s' ∧ Steady s.db s'.db := by
  obtain ⟨before, guarded, owned, linked⟩ := fenced
  cases h with
  | idle _ _ dropped =>
    refine ⟨⟨sound, guarded, owned, fun id call found => ?_⟩, .refl _⟩
    rcases dropped id with same | none
    · exact linked id call (same ▸ found)
    · exact absurd (none.symm.trans found) (by simp)
  | started _ _ _ _ _ _ _ h =>
    obtain ⟨last, steady, holds⟩ := h.guarded before.named guarded accounted
    refine ⟨⟨sound, last, h.owned steady owned, fun other call found => ?_⟩, steady⟩
    rcases setCall_some found with ⟨-, new⟩ | old
    · cases new
      rcases holds with ⟨_, row, stored, same⟩ | ⟨_, cached⟩
      · cases same
        exact ⟨row, stored, rfl, by simp⟩
      · cases cached
    · exact (linked other call old).steady steady
  | crossed id call _ underWay found intent =>
    obtain ⟨last, steady⟩ := crossed_steady guarded found intent
    refine ⟨⟨sound, last, owned.steady steady rfl, fun other call' stored => ?_⟩, steady⟩
    rcases setCall_some stored with ⟨-, new⟩ | old
    · cases new
      obtain ⟨_, found', same, -⟩ := linked id call underWay
      obtain rfl := Option.mem_unique found found'
      exact ⟨_, find?_set_self _ _ _, same, fun _ => by simp⟩
    · exact (linked other call' old).steady steady
  | replied id _ _ call _ _ underWay crossed h =>
    obtain ⟨last, steady, owned'⟩ := h.guarded guarded (linked id call underWay) crossed owned
    refine ⟨⟨sound, last, owned', fun other call' stored => ?_⟩, steady⟩
    rcases setCall_some stored with ⟨-, new⟩ | old
    · cases new
    · exact (linked other call' old).steady steady
  | yielded =>
    exact ⟨⟨sound, ⟨guarded.keyed, guarded.ids, guarded.reserved⟩, owned, linked⟩, .refl _⟩
  | closed _ _ _ _ _ h =>
    exact ⟨⟨sound, guarded.ledger h rfl, owned, linked⟩, .refl _⟩

theorem run_fenced {acts} (meets : Meets (step svc) (Accounted budgetOf) s acts)
    (fenced : Fenced budgetOf s) :
    Fenced budgetOf (run (step svc) s acts) ∧ Steady s.db (run (step svc) s acts).db := by
  induction acts generalizing s with
  | nil => exact ⟨fenced, .refl s.db⟩
  | cons act _ ih =>
    obtain ⟨next, steady⟩ := (step_cases svc s act).fenced meets.1 fenced (step_sound fenced.sound)
    obtain ⟨last, steady'⟩ := ih meets.2 next
    exact ⟨last, steady.trans steady'⟩

theorem Fresh.fenced (fresh : Fresh s) : Fenced budgetOf s := by
  refine ⟨fresh.sound, ⟨?_, ?_, ?_⟩, ?_, ?_⟩
  · intro id _ _ _ found
    simp [fresh.reservations id] at found
  · intro id found
    simp [fresh.reservations id] at found
  · intro id _ found
    simp [fresh.attempts id] at found
  · intro id _ found
    simp [fresh.generations id] at found
  · intro id _ found
    simp [fresh.calls id] at found

end Running

/--
Where every call has a budget account, an attempt that was given up for a newer
lease stays given up: its late reply is neither accepted nor settled.
-/
theorem superseded_fenced (svc : Service) (s : System) (fresh : Fresh s)
    (budgetOf : String → String) (before after : List Action)
    (meets : Meets (step svc) (Accounted budgetOf) s (before ++ after))
    (attemptId : String) (row : AttemptRow)
    (found : (run (step svc) s before).db.attempts.find? attemptId =
      some row) (recovered : row.Recovered) :
    (∃ row', (run (step svc) s (before ++ after)).db.attempts.find?
        attemptId = some row' ∧ row'.state ≠ .settled) ∧
      ∀ generationId generation, (run (step svc) s (before ++ after)).db.generations.find?
          generationId = some generation →
        generation.acceptedAttemptId ≠ attemptId := by
  obtain ⟨first, second⟩ := meets_append (step svc) |>.mp meets
  obtain ⟨fenced, -⟩ := run_fenced first fresh.fenced
  obtain ⟨last, steady⟩ := run_fenced second fenced
  rw [run_append]
  obtain ⟨row', found', stays⟩ := steady attemptId row found
  obtain rfl := stays.recovered recovered
  refine ⟨⟨row', found', by simp [recovered.1]⟩, ?_⟩
  rintro generationId generation stored rfl
  obtain ⟨_, located, ended⟩ := last.owned generationId generation
    stored (fenced.sound.named _ row' found)
  obtain rfl := Option.mem_unique found' located
  exact ended.2 recovered

def lateReply (text : String) : Action := .reply 1 ⟨2, "1", "model-1"⟩ (.text text)

/--
Without a budget account the late reply becomes the response of the generation,
or settles the attempt if it is empty.
-/
theorem superseded_accepted :
    ((run (step plainService) (oneTurn Table.empty) takenOver).db.attempts.find? "attempt_1").map
        (fun row => (row.state, row.errorCode)) = some (.outcomeUnknown, leaseRecovered) ∧
      ((run (step plainService) (oneTurn Table.empty)
        (takenOver ++ [lateReply "late"])).db.generations.find? "gen-1").map
        GenerationRow.acceptedAttemptId = some "attempt_1" ∧
      ((run (step plainService) (oneTurn Table.empty)
        (takenOver ++ [lateReply ""])).db.attempts.find? "attempt_1").map
        AttemptRow.state = some .settled := by
  decide +kernel

def oneAccount : Table String RunBudgetAccount :=
  Table.empty.set "budget-1" {
    state := .active
    limit := ⟨10, 10, 10000, 10000, 10, 10000, 10000000⟩
    used := {}
    reserved := {}
    maxActiveMillis := 60000
    activeMillisUsed := 0
    activeStartedAt := none
    executionDeadline := 60000 }

theorem superseded_fenced_takenOver : ∃ generation, (run (step plainService) (oneTurn oneAccount)
        (takenOver ++ [lateReply "late"])).db.generations.find? "gen-1" =
        some generation ∧ generation.acceptedAttemptId ≠ "attempt_1" := by
  have marked : ((run (step plainService) (oneTurn oneAccount)
      takenOver).db.attempts.find? "attempt_1").map
      (fun row => (row.state, row.errorCode)) = some (.outcomeUnknown, leaseRecovered) := by
    decide +kernel
  have present : ((run (step plainService) (oneTurn oneAccount)
      (takenOver ++ [lateReply "late"])).db.generations.find? "gen-1").isSome := by
    decide +kernel
  obtain ⟨row, found, state⟩ := Option.map_eq_some_iff.mp marked
  obtain ⟨generation, stored⟩ := Option.isSome_iff_exists.mp present
  simp only [Prod.mk.injEq] at state
  refine ⟨generation, stored, (superseded_fenced plainService
    (oneTurn oneAccount) (oneTurn_fresh oneAccount) (fun _ => "budget-1")
    takenOver [lateReply "late"] ?_ "attempt_1" row found state).2 "gen-1"
    generation stored⟩
  exact ⟨⟨rfl, by decide, by decide +kernel⟩, trivial,
    ⟨rfl, by decide, by decide +kernel⟩, trivial, trivial, trivial⟩

end YuFeng.Generation

import Mathlib.Data.List.Basic
import YuFeng.Library.Run

/-!
# The result queue of the model side

Results wait in a bounded queue for their upload.  An alert that finds it full
displaces the oldest review sample; anything else is dropped and counted.  A
batch that could not be uploaded is put back at the front, one result at a
time, and a result that finds no room is offered again.
-/

namespace YuFeng.ModelSide

open YuFeng.Library List

structure Result where
  payload : String
  alert : Bool
  deriving DecidableEq

/-- The results counted in the drop metrics are kept by name. -/
structure ResultQueue where
  items : List Result := []
  taken : List Result := []
  dropped : List Result := []

/-- The first review sample, and the others. -/
def displace : List Result → Option (Result × List Result)
  | [] => none
  | current :: rest =>
    if current.alert then (displace rest).map fun found => (found.1, current :: found.2)
    else some (current, rest)

section Queue

variable (capacity : Nat)

def ResultQueue.offer (q : ResultQueue) (result : Result) : ResultQueue :=
  if capacity ≤ q.items.length then
    if result.alert then
      match displace q.items with
      | some (review, rest) =>
        { q with items := rest ++ [result], dropped := review :: q.dropped }
      | none => { q with dropped := result :: q.dropped }
    else { q with dropped := result :: q.dropped }
  else { q with items := q.items ++ [result] }

def ResultQueue.take (q : ResultQueue) (maximum : Nat) : ResultQueue :=
  { q with items := q.items.drop maximum, taken := q.taken ++ q.items.take maximum }

/-- The critical sections.  `requeue` takes the lock for each result it puts
back, and again to offer it if there was no room; only taken results are put
back. -/
inductive Op where
  | offer (result : Result)
  | take (maximum : Nat)
  | putBack (result : Result)
  | offerBack (result : Result)

def step (q : ResultQueue) : Op → ResultQueue
  | .offer result => q.offer capacity result
  | .take maximum => q.take maximum
  | .putBack result =>
    if result ∈ q.taken ∧ q.items.length < capacity then
      { q with items := result :: q.items, taken := q.taken.erase result }
    else q
  | .offerBack result =>
    if result ∈ q.taken then
      { q with taken := q.taken.erase result }.offer capacity result
    else q

/-- What `requeue` does as long as there is room. -/
def requeue (batch : List Result) : List Op := batch.reverse.map .putBack

def Op.offered : Op → List Result
  | .offer result => [result]
  | _ => []

variable {capacity} {q : ResultQueue} {result review : Result} {items rest batch : List Result}

theorem displace_some (h : displace items = some (review, rest)) :
    items ~ review :: rest ∧ review.alert = false := by
  induction items generalizing rest with
  | nil => cases h
  | cons current items ih =>
    rw [displace] at h
    split at h
    · obtain ⟨found, displaced, same⟩ := Option.map_eq_some_iff.mp h
      cases same
      obtain ⟨perm, alert⟩ := ih displaced
      exact ⟨(perm.cons current).trans (.swap ..), alert⟩
    next other =>
      cases h
      exact ⟨.refl _, by simpa using other⟩

theorem displace_none (h : displace items = none) : ∀ item ∈ items, item.alert = true := by
  induction items with
  | nil => simp
  | cons current items ih =>
    rw [displace] at h
    split at h
    next alert => exact forall_mem_cons.mpr ⟨alert, ih (Option.map_eq_none_iff.mp h)⟩
    · cases h

def ResultQueue.alertResultsDropped (q : ResultQueue) : Nat := q.dropped.countP Result.alert

/-- How often a result is queued, taken or dropped. -/
def ResultQueue.tally (q : ResultQueue) (a : Result) : Nat :=
  q.items.count a + q.taken.count a + q.dropped.count a

structure Moved (capacity : Nat) (q : ResultQueue) (new : List Result) (q' : ResultQueue) :
    Prop where
  fits : q.items.length ≤ capacity → q'.items.length ≤ capacity
  tally : ∀ a, q'.tally a = new.count a + q.tally a
  alerts : q'.alertResultsDropped ≠ q.alertResultsDropped → ∀ item ∈ q.items, item.alert = true

theorem offer_moved (q : ResultQueue) (result : Result) :
    Moved capacity q [result] (q.offer capacity result) := by
  unfold ResultQueue.offer
  split
  · split
    · split
      next found =>
        obtain ⟨perm, other⟩ := displace_some found
        have length := perm.length_eq
        have count := perm.count_eq
        exact ⟨by grind, by grind [ResultQueue.tally], by grind [ResultQueue.alertResultsDropped]⟩
      next none => exact ⟨id, by grind [ResultQueue.tally], fun _ => displace_none none⟩
    next review =>
      exact ⟨id, by grind [ResultQueue.tally], by grind [ResultQueue.alertResultsDropped]⟩
  · exact ⟨by grind, by grind [ResultQueue.tally], fun changed => absurd rfl changed⟩

theorem step_moved (op : Op) : Moved capacity q op.offered (step capacity q op) := by
  have still : Moved capacity q [] q := ⟨id, by simp, fun changed => absurd rfl changed⟩
  cases op with
  | offer result => exact offer_moved q result
  | take maximum =>
    have split := take_append_drop maximum q.items
    exact ⟨by grind [step, ResultQueue.take],
      by grind [step, ResultQueue.take, ResultQueue.tally, Op.offered],
      fun changed => absurd rfl changed⟩
  | putBack result =>
    rw [step]
    split
    next room =>
      have := (perm_cons_erase room.1).count_eq
      exact ⟨fun _ => room.2, by grind [ResultQueue.tally, Op.offered],
        fun changed => absurd rfl changed⟩
    · exact still
  | offerBack result =>
    rw [step]
    split
    next known =>
      have offered := @offer_moved capacity { q with taken := q.taken.erase result } result
      have := (perm_cons_erase known).count_eq
      exact ⟨offered.fits, by grind [ResultQueue.tally, Op.offered, offered.tally], offered.alerts⟩
    · exact still

/-- With enough room the results come back to the front, the last one first. -/
theorem putBack_items (room : batch.length + q.items.length ≤ capacity)
    (known : ∀ a, batch.count a ≤ q.taken.count a) :
    (run (step capacity) q (batch.map .putBack)).items = batch.reverse ++ q.items := by
  induction batch generalizing q with
  | nil => rfl
  | cons result batch ih =>
    have member := count_pos_iff.mp (Nat.lt_of_lt_of_le (by simp) (known result))
    rw [length_cons] at room
    rw [map_cons, run_cons, step, if_pos ⟨member, by omega⟩, ih]
    · simp
    · rw [length_cons]
      omega
    · intro a
      have := known a
      simp only [count_cons, count_erase] at this ⊢
      omega

end Queue

theorem results_accounted (capacity : Nat) (ops : List Op) :
    let q := run (step capacity) {} ops
    q.items.length ≤ capacity ∧
      (∀ result, q.items.count result + q.taken.count result + q.dropped.count result =
        (ops.flatMap Op.offered).count result) ∧
      (∀ op, (step capacity q op).alertResultsDropped ≠ q.alertResultsDropped →
        ∀ item ∈ q.items, item.alert = true) ∧
      ∀ maximum, (run (step capacity) (step capacity q (.take maximum))
        (requeue (q.items.take maximum))).items = q.items := by
  intro q
  have fits : q.items.length ≤ capacity :=
    foldlRecOn ops _ (motive := fun q : ResultQueue => q.items.length ≤ capacity) (Nat.zero_le _)
      fun _ h op _ => (step_moved op).fits h
  have tally : ∀ a q', (run (step capacity) q' ops).tally a =
      (ops.flatMap Op.offered).count a + q'.tally a := by
    intro a
    clear fits q
    induction ops with
    | nil => simp
    | cons op ops ih =>
      intro q
      rw [run_cons, ih, (step_moved op).tally, flatMap_cons, count_append]
      omega
  refine ⟨fits, fun a => tally a {}, fun op => (step_moved op).alerts, fun maximum => ?_⟩
  rw [requeue, putBack_items, reverse_reverse]
  · exact take_append_drop maximum q.items
  · simp only [step, ResultQueue.take, length_reverse, length_take, length_drop]
    omega
  · intro a
    simp [step, ResultQueue.take]

end YuFeng.ModelSide

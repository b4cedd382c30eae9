import Mathlib.Data.List.Pairwise
import YuFeng.Edge.ReleaseSet
import YuFeng.Library.Run

/-!
# Listen advertisements

A heartbeat stores what its unit listens to and then checks the plans of all
units together.  An advertisement that is refused stays stored, and the
heartbeats of the other units are refused from then on.
-/

namespace YuFeng.Listen

open YuFeng.Library YuFeng.Edge List

structure UnitListenPlan where
  unitId : String
  posture : IngressPosture
  trafficKey : String
  followUnitId : String
  deriving DecidableEq

/-- The rest of `ValidateListenPlans`, with the maps built so far. -/
def validateFrom (units : Table String IngressPosture) (interceptKey : Table String String) :
    List UnitListenPlan → Except String Unit
  | [] => .ok ()
  | p :: plans =>
    let posture := resolvePosture p.posture
    if trimSpace p.unitId = "" then
      .error "listen plan is incomplete"
    else if (units.find? p.unitId).any (· ≠ posture) then
      .error ("unit " ++ p.unitId ++ " must have exactly one posture")
    else if !intercepts posture then
      validateFrom (units.set p.unitId posture) interceptKey plans
    else
      match interceptKey.find? p.trafficKey with
      | some other =>
        if other ≠ p.unitId then
          .error ("traffic key already has intercept unit " ++ other)
        else
          validateFrom (units.set p.unitId posture) (interceptKey.set p.trafficKey p.unitId) plans
      | none =>
        validateFrom (units.set p.unitId posture) (interceptKey.set p.trafficKey p.unitId) plans

def validateListenPlans (plans : List UnitListenPlan) : Except String Unit :=
  validateFrom .empty .empty plans

structure TapUnitState where
  posture : IngressPosture := .unspecified
  trafficKey : String := ""
  follow : String := ""
  last : Nat := 0
  prev : Nat := 0
  routes : List String := []
  total : Nat := 0
  deriving DecidableEq

/-- A heartbeat of a unit, and the order in which the map is then read. -/
structure Heartbeat where
  unitId : String
  posture : IngressPosture
  trafficKey : String
  followUnitId : String
  windowRequests : Nat
  routeTemplates : List String
  order : List UnitListenPlan → List UnitListenPlan
  perm : ∀ plans, (order plans).Perm plans

def tapPlans (tap : Table String TapUnitState) : List UnitListenPlan :=
  tap.rows.map fun row => ⟨row.1, row.2.posture, row.2.trafficKey, row.2.follow⟩

def Heartbeat.plan (h : Heartbeat) : UnitListenPlan :=
  ⟨h.unitId, h.posture, h.trafficKey, h.followUnitId⟩

def Heartbeat.store (h : Heartbeat) (tap : Table String TapUnitState) : Table String TapUnitState :=
  let st := (tap.find? h.unitId).getD {}
  tap.set h.unitId {
    posture := h.posture
    trafficKey := h.trafficKey
    follow := h.followUnitId
    last := h.windowRequests
    prev := st.last
    routes := h.routeTemplates
    total := (st.total + h.windowRequests) % 18446744073709551616 }

def advertiseListen (tap : Table String TapUnitState) (h : Heartbeat) :
    Except String Unit × Table String TapUnitState :=
  (validateListenPlans (h.order (tapPlans (h.store tap))), h.store tap)

def heartbeat (tap : Table String TapUnitState) (h : Heartbeat) :
    Except String Unit × Table String TapUnitState :=
  if h.posture = .unspecified then (.ok (), tap) else advertiseListen tap h

def advertised (tap : Table String TapUnitState) (h : Heartbeat) : Table String TapUnitState :=
  (heartbeat tap h).2

/-- What the advertisements would be if those refused were forgotten. -/
def accepted (tap : Table String TapUnitState) (h : Heartbeat) : Table String TapUnitState :=
  match (heartbeat tap h).1 with
  | .ok _ => (heartbeat tap h).2
  | .error _ => tap

/-- The stored plans are valid, in whatever order they are read. -/
def Valid (tap : Table String TapUnitState) : Prop :=
  ∀ plans, plans.Perm (tapPlans tap) → validateListenPlans plans = .ok ()

/-- At every point of the run, refused heartbeats have left no trace. -/
def Isolated (heartbeats : List Heartbeat) : Prop :=
  ∀ done, done <+: heartbeats → run advertised .empty done = run accepted .empty done ∧
    Valid (run advertised .empty done)

def UnitListenPlan.takes (p : UnitListenPlan) : Bool := intercepts (resolvePosture p.posture)

/-- The unit has a name and takes no traffic that another unit takes. -/
def Compatible (tap : Table String TapUnitState) (h : Heartbeat) : Prop :=
  h.posture = .unspecified ∨ trimSpace h.unitId ≠ "" ∧
    (intercepts h.posture = true → ∀ p ∈ tapPlans tap, p.unitId ≠ h.unitId → p.takes = true →
      p.trafficKey ≠ h.trafficKey)

/-! ## The joint check -/

variable {tap : Table String TapUnitState} {h : Heartbeat} {plans : List UnitListenPlan}

def Apart (p q : UnitListenPlan) : Prop :=
  p.takes = true → q.takes = true → p.trafficKey ≠ q.trafficKey

theorem validateFrom_ok_iff {units interceptKey} (distinct : (plans.map (·.unitId)).Nodup)
    (fresh : ∀ p ∈ plans, units.find? p.unitId = none)
    (others : ∀ p ∈ plans, ∀ key, interceptKey.find? key ≠ some p.unitId) :
    validateFrom units interceptKey plans = .ok () ↔
      (∀ p ∈ plans, trimSpace p.unitId ≠ "" ∧
        (p.takes = true → interceptKey.find? p.trafficKey = none)) ∧ plans.Pairwise Apart := by
  induction plans generalizing units interceptKey with
  | nil => simp [validateFrom]
  | cons p plans ih =>
    rw [map_cons, nodup_cons] at distinct
    rw [forall_mem_cons] at fresh others
    have apart : ∀ q ∈ plans, q.unitId ≠ p.unitId := by
      intro q later same
      exact distinct.1 (same ▸ mem_map_of_mem later)
    have fresh' : ∀ q ∈ plans,
        (units.set p.unitId (resolvePosture p.posture)).find? q.unitId = none := by
      intro q later
      rw [Table.find?_set_of_ne (apart q later)]
      exact fresh.2 q later
    rw [validateFrom, forall_mem_cons, pairwise_cons]
    split
    next blank => simp [blank]
    next named =>
      rw [fresh.1, if_neg (by simp)]
      split
      next observes =>
        have idle : p.takes = false := by simpa [UnitListenPlan.takes] using observes
        rw [ih distinct.2 fresh' others.2]
        simp [idle, named, Apart]
      next takes =>
        have takes : p.takes = true := by simpa [UnitListenPlan.takes] using takes
        cases held : interceptKey.find? p.trafficKey with
        | some other =>
          have foreign : other ≠ p.unitId := fun same => others.1 _ (same ▸ held)
          simp [foreign, takes]
        | none =>
          have free : ∀ key, (interceptKey.set p.trafficKey p.unitId).find? key = none ↔
              p.trafficKey ≠ key ∧ interceptKey.find? key = none := by
            intro key
            by_cases own : key = p.trafficKey
            · simp [own]
            · simp [Table.find?_set_of_ne own, Ne.symm own]
          dsimp only
          rw [ih distinct.2 fresh']
          · simp only [free, Apart, takes]
            grind
          · intro q later key
            by_cases own : key = p.trafficKey
            · subst own
              simpa using (apart q later).symm
            · rw [Table.find?_set_of_ne own]
              exact others.2 q later key

instance : Std.Symm Apart := ⟨fun _ _ apart takes takes' same => apart takes' takes same.symm⟩

structure Sound (tap : Table String TapUnitState) : Prop where
  named : ∀ p ∈ tapPlans tap, trimSpace p.unitId ≠ ""
  apart : ∀ p ∈ tapPlans tap, ∀ q ∈ tapPlans tap, p ≠ q → Apart p q

theorem validateListenPlans_ok_iff (perm : plans.Perm (tapPlans tap)) :
    validateListenPlans plans = .ok () ↔ Sound tap := by
  have distinct : (plans.map (·.unitId)).Nodup := by
    refine (perm.map _).nodup_iff.mpr ?_
    simpa [tapPlans, Function.comp_def] using tap.unique
  have checked : validateListenPlans plans = .ok () ↔
      (∀ p ∈ plans, trimSpace p.unitId ≠ "") ∧ plans.Pairwise Apart := by
    rw [validateListenPlans, validateFrom_ok_iff distinct]
    all_goals simp [Table.find?, Table.empty]
  rw [checked]
  constructor
  · rintro ⟨named, apart⟩
    exact ⟨fun p here => named p (perm.mem_iff.mpr here), fun p here q there =>
      apart.forall (perm.mem_iff.mpr here) (perm.mem_iff.mpr there)⟩
  · rintro ⟨named, apart⟩
    refine ⟨fun p here => named p (perm.mem_iff.mp here), ?_⟩
    refine (Nodup.of_map _ distinct).pairwise_of_forall_ne fun p here q there => ?_
    exact apart p (perm.mem_iff.mp here) q (perm.mem_iff.mp there)

theorem valid_iff : Valid tap ↔ Sound tap :=
  ⟨fun valid => (validateListenPlans_ok_iff (.refl _)).mp (valid _ (.refl _)),
    fun sound _ perm => (validateListenPlans_ok_iff perm).mpr sound⟩

/-! ## Heartbeats -/

theorem mem_tapPlans_store {p} : p ∈ tapPlans (h.store tap) ↔
    p = h.plan ∨ p ∈ tapPlans tap ∧ p.unitId ≠ h.unitId := by
  simp only [tapPlans, Heartbeat.store, mem_map, Table.mem_set]
  constructor
  · rintro ⟨_, rfl | ⟨member, other⟩, rfl⟩
    · exact .inl rfl
    · exact .inr ⟨⟨_, member, rfl⟩, other⟩
  · rintro (rfl | ⟨⟨_, member, rfl⟩, other⟩)
    · exact ⟨_, .inl rfl, rfl⟩
    · exact ⟨_, .inr ⟨member, other⟩, rfl⟩

theorem sound_advertised_iff (sound : Sound tap) : Sound (advertised tap h) ↔ Compatible tap h := by
  unfold advertised heartbeat Compatible
  split
  next idle => simp [idle, sound]
  next posture =>
    have takes : intercepts h.posture = h.plan.takes := by
      simp [Heartbeat.plan, UnitListenPlan.takes, resolvePosture]
    simp only [posture, false_or, takes]
    change Sound (h.store tap) ↔ _
    constructor
    · rintro ⟨named, apart⟩
      have stored : h.plan ∈ tapPlans (h.store tap) := mem_tapPlans_store.mpr (.inl rfl)
      have name := named h.plan stored
      refine ⟨name, fun own p here other theirs => ?_⟩
      refine apart p (mem_tapPlans_store.mpr (.inr ⟨here, other⟩)) _ stored ?_ theirs own
      rintro rfl
      exact other rfl
    · rintro ⟨name, alone⟩
      refine ⟨fun p here => ?_, fun p here q there different => ?_⟩
      · obtain rfl | ⟨here, -⟩ := mem_tapPlans_store.mp here
        · exact name
        · exact sound.named p here
      · obtain rfl | ⟨here, other⟩ := mem_tapPlans_store.mp here
        · obtain rfl | ⟨there, other⟩ := mem_tapPlans_store.mp there
          · exact absurd rfl different
          · exact fun own theirs => (alone own q there other theirs).symm
        · obtain rfl | ⟨there, other'⟩ := mem_tapPlans_store.mp there
          · exact fun theirs own => alone own p here other theirs
          · exact sound.apart p here q there different

theorem accepted_eq (sound : Sound (advertised tap h)) : accepted tap h = advertised tap h := by
  unfold advertised heartbeat at sound
  unfold accepted advertised heartbeat
  split at sound
  next idle => simp [idle]
  next posture =>
    have passes := (validateListenPlans_ok_iff (h.perm _)).mpr sound
    rw [if_neg posture]
    unfold advertiseListen at passes ⊢
    rw [passes]

theorem isolated_from {heartbeats} (sound : Sound tap) :
    (∀ done, done <+: heartbeats → run advertised tap done = run accepted tap done ∧
      Valid (run advertised tap done)) ↔ Meets advertised Compatible tap heartbeats := by
  induction heartbeats generalizing tap with
  | nil => simp [prefix_nil, Meets, valid_iff, sound]
  | cons h rest ih =>
    constructor
    · intro isolated
      have next : Sound (advertised tap h) := valid_iff.mp (isolated [h] (by simp)).2
      refine ⟨(sound_advertised_iff sound).mp next, (ih next).mp fun done before => ?_⟩
      have later := isolated (h :: done) (by simpa using before)
      rwa [run_cons, run_cons, accepted_eq next] at later
    · rintro ⟨compatible, meets⟩ done before
      have next := (sound_advertised_iff sound).mpr compatible
      obtain rfl | ⟨done, rfl, before⟩ := prefix_cons_iff.mp before
      · exact ⟨rfl, valid_iff.mpr sound⟩
      · rw [run_cons, run_cons, accepted_eq next]
        exact (ih next).mpr meets done ((prefix_cons_inj h).mp before)

/-- Refused heartbeats leave no trace and the stored plans stay valid exactly if
no heartbeat of the run advertises traffic that another unit has advertised. -/
theorem isolated_iff (heartbeats : List Heartbeat) :
    Isolated heartbeats ↔ Meets advertised Compatible .empty heartbeats :=
  isolated_from ⟨by simp [tapPlans, Table.empty], by simp [tapPlans, Table.empty]⟩

def shopHeartbeat (unitId : String) : Heartbeat where
  unitId := unitId
  posture := .reverseProxy
  trafficKey := "shop"
  followUnitId := ""
  windowRequests := 1
  routeTemplates := []
  order := id
  perm _ := .refl _

/-- The second unit is refused, and then so is the first with the very
advertisement that had been accepted. -/
theorem not_isolated_conflict :
    (heartbeat .empty (shopHeartbeat "a")).1 = .ok () ∧
      (heartbeat (run advertised .empty [shopHeartbeat "a", shopHeartbeat "b"])
        (shopHeartbeat "a")).1 = .error "traffic key already has intercept unit a" ∧
      ¬ Isolated [shopHeartbeat "a", shopHeartbeat "b"] := by
  refine ⟨by decide +kernel, by decide +kernel, fun isolated => ?_⟩
  have valid := (isolated _ (prefix_refl _)).2 _ (.refl _)
  revert valid
  decide +kernel

end YuFeng.Listen

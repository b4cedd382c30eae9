import YuFeng.Brain.Grants

/-!
# Delegation

What a grant that was put changes outside the reach of the user who put it.
`PutGrant` checks the bindings of the request and then replaces every grant
of the subject, so the rest of the subject's rights is kept only if the
request repeats it.
-/

namespace YuFeng.Access

open YuFeng.Library List
open YuFeng.Generation (newID newID_ne_empty)

def BindingRef.Concrete (binding : BindingRef) : Prop := binding.kind ≠ "" ∧ binding.id ≠ ""

def Database.Allowed (db : Database) (now : Int) (userId tool : String)
    (binding : BindingRef) : Prop :=
  requireUserGrant db now userId tool binding.kind binding.id = .ok ()

def Database.scope (db : Database) (now : Int) (user : User) : List BindingRef :=
  if db.onboardingAdmin user then
    let ids := db.listAssetIds ++ [db.loadOnboarding.localAssetId].filter fun id =>
        id != "" && id != "bootstrap"
    ids.map (BindingRef.mk "asset")
  else
    ((db.liveGrants now user.userId).flatMap Grant.bindings).filter
      fun binding => binding.id != "" && binding.id != "*"

/-- The call leaves the subject with what was granted, and with the same
rights as before wherever the granting user has no say. -/
structure Delegated (db db' : Database) (now : Int) (user : User)
    (request : PutGrantRequest) : Prop where
  granted : ∀ tool ∈ request.tools, ∀ binding ∈ request.bindings,
    db'.Allowed now request.subjectUserId tool binding
  framed : ∀ binding : BindingRef, binding.Concrete →
    binding ∉ db.scope now user → ∀ tool, (db'.Allowed now request.subjectUserId tool binding ↔
        db.Allowed now request.subjectUserId tool binding)

/-! ## Rights -/

def Gives (tools : List String) (bindings : List BindingRef) (tool : String)
    (binding : BindingRef) : Prop :=
  claimsAllows tools tool = true ∧ (isAccountTool tool = true ∧ bindings = [] ∨ binding ∈ bindings)

variable {tools : List String} {tool : String}

theorem claimsAllows_iff : claimsAllows tools tool = true ↔ "*" ∈ tools ∨ tool ∈ tools := by
  simp only [claimsAllows, any_eq_true, Bool.or_eq_true, beq_iff_eq]
  constructor
  · rintro ⟨t, member, rfl | rfl⟩
    · exact .inl member
    · exact .inr member
  · rintro (member | member)
    · exact ⟨"*", member, .inl rfl⟩
    · exact ⟨tool, member, .inr rfl⟩

theorem claimsAllows_known (known : ∀ t ∈ tools, knownUserTool t = true) :
    claimsAllows tools tool = true ↔ tool ∈ tools := by
  rw [claimsAllows_iff]
  constructor
  · rintro (star | member)
    · exact absurd (known "*" star) (by decide)
    · exact member
  · exact .inr

theorem answers_self (binding : BindingRef) : binding.answers binding.kind binding.id = true := by
  simp [BindingRef.answers]

variable {binding : BindingRef}

theorem answers_iff {other} (concrete : binding.Concrete) :
    other.answers binding.kind binding.id = true ↔ other = binding := by
  cases binding
  cases other
  simp only [BindingRef.Concrete] at concrete
  simp [BindingRef.answers, concrete.1, concrete.2, and_comm]

variable {grant : Grant}

theorem permits_iff (concrete : binding.Concrete) :
    grant.permits tool binding.kind binding.id = true ↔
      Gives grant.tools grant.bindings tool binding := by
  simp [Grant.permits, Gives, answers_iff concrete]

variable {db : Database} {now : Int} {user : User}
  {request : PutGrantRequest} {userId tool : String} {binding : BindingRef} {random : String}
  {db' : Database}

theorem allowed_iff (concrete : binding.Concrete) : db.Allowed now userId tool binding ↔
      ∃ grant ∈ db.liveGrants now userId, Gives grant.tools grant.bindings tool binding := by
  simp [Database.Allowed, requireUserGrant, permits_iff concrete]

theorem mem_liveGrants : grant ∈ db.liveGrants now userId ↔
      ∃ id, (id, grant) ∈ db.grants.rows ∧ grant.subjectKind = .user ∧
        grant.subjectId = userId ∧ grant.live now = true := by
  simp [Database.liveGrants, Database.userRows]
  grind

/-! ## The row that is left -/

def Database.lasts (db : Database) (now : Int) (request : PutGrantRequest) : Bool :=
  (db.oldest request.subjectUserId).all fun row => row.2.live now

theorem oldest_none (h : db.oldest userId = none) : db.userRows userId = [] := highest_eq_none h

theorem oldest_row {row} (h : db.oldest userId = some row) :
    row ∈ db.grants.rows ∧ row.2.subjectKind = .user ∧ row.2.subjectId = userId := by
  have member := highest_mem h
  simpa [Database.userRows] using member

/-- Afterwards the subject has one live grant, that of the request, or none
if the row had expired. -/
theorem overlay_live {createdBy written}
    (h : overlayUserGrant db now random request createdBy = .ok written) :
    (∀ grant ∈ written.2.liveGrants now request.subjectUserId,
      db.lasts now request = true ∧ grant.tools = request.tools ∧
        grant.bindings = request.bindings) ∧
    (db.lasts now request = true → ∃ grant ∈ written.2.liveGrants now request.subjectUserId,
        grant.tools = request.tools ∧ grant.bindings = request.bindings) := by
  unfold overlayUserGrant at h
  split at h
  next missing =>
    simp only [require_bind_ok] at h
    obtain ⟨_, h⟩ := h
    cases h
    have lasts : db.lasts now request = true := by
      simp [Database.lasts, missing]
    have alone := oldest_none missing
    constructor
    · intro grant member
      obtain ⟨id, stored, kind, subject, -⟩ := mem_liveGrants.mp member
      rcases Table.mem_set.mp stored with new | ⟨old, -⟩
      · cases new
        exact ⟨lasts, rfl, rfl⟩
      · have : (id, grant) ∈ db.userRows request.subjectUserId := by
          simp [Database.userRows, old, kind, subject]
        simp [alone] at this
    · intro _
      refine ⟨_, mem_liveGrants.mpr ⟨_, Table.mem_set.mpr (.inl rfl), ?_⟩, rfl, rfl⟩
      simp [Grant.live]
  next existing found =>
    cases h
    obtain ⟨stored, kind, subject⟩ := oldest_row found
    have lasts : db.lasts now request = existing.2.live now := by
      simp [Database.lasts, found]
    constructor
    · intro grant member
      obtain ⟨id, after, kind', subject', live⟩ := mem_liveGrants.mp member
      simp only [Table.modify, mem_map, mem_filter] at after
      obtain ⟨row, ⟨before, kept⟩, same⟩ := after
      by_cases own : row.1 = existing.1
      · have row_eq : row.2 = existing.2 := by
          have first := Table.mem_iff_find?.mp
            (show (existing.1, row.2) ∈ db.grants.rows from own ▸ before)
          have second := Table.mem_iff_find?.mp
            (show (existing.1, existing.2) ∈ db.grants.rows from stored)
          exact Option.mem_unique first second
        simp only [own, if_true, Prod.mk.injEq, row_eq] at same
        obtain ⟨-, rfl⟩ := same
        exact ⟨lasts ▸ live, rfl, rfl⟩
      · simp only [own, if_false, Prod.mk.injEq] at same
        obtain ⟨-, rfl⟩ := same
        simp [kind', subject', own] at kept
    · intro holds
      refine ⟨existing.2.replaced request createdBy, mem_liveGrants.mpr
        ⟨existing.1, ?_, kind, subject, lasts ▸ holds⟩, rfl, rfl⟩
      simp only [Table.modify, mem_map, mem_filter]
      exact ⟨existing, ⟨stored, by simp⟩, by simp⟩

/-! ## Rights outside the scope -/

def Database.effective (db : Database) (now : Int) (request : PutGrantRequest) : List String :=
  if db.lasts now request then request.tools else []

/-- Where the granting user has no say, the request gives what the subject's
live grants give. -/
structure Repeats (db : Database) (now : Int) (user : User)
    (request : PutGrantRequest) : Prop where
  lasting : request.tools ≠ [] → request.bindings ≠ [] → db.lasts now request = true
  keepsBound : ∀ grant ∈ db.liveGrants now request.subjectUserId,
    ∀ binding ∈ grant.bindings, binding.Concrete →
      binding ∉ db.scope now user → ∀ tool ∈ grant.tools, tool ∈ db.effective now request ∧
          (isAccountTool tool = true ∧ request.bindings = [] ∨ binding ∈ request.bindings)
  keepsAccount : ∀ grant ∈ db.liveGrants now request.subjectUserId,
    grant.bindings = [] → ∀ tool, isAccountTool tool = true → claimsAllows grant.tools tool = true →
        tool ∈ db.effective now request ∧ request.bindings = []
  addsBound : ∀ binding ∈ request.bindings, binding.Concrete →
    binding ∉ db.scope now user → ∀ tool ∈ db.effective now request,
      ∃ grant ∈ db.liveGrants now request.subjectUserId,
        Gives grant.tools grant.bindings tool binding
  addsAccount : request.bindings = [] →
    ∀ tool ∈ db.effective now request, ∃ grant ∈ db.liveGrants now request.subjectUserId,
        grant.bindings = [] ∧ claimsAllows grant.tools tool = true

structure Put (db : Database) (now : Int) (request : PutGrantRequest)
    (db' : Database) : Prop where
  known : ∀ tool ∈ request.tools, knownUserTool tool = true
  account : request.bindings = [] → ∀ tool ∈ request.tools, isAccountTool tool = true
  left : ∀ grant ∈ db'.liveGrants now request.subjectUserId,
    db.lasts now request = true ∧ grant.tools = request.tools ∧ grant.bindings = request.bindings
  stored : db.lasts now request = true → ∃ grant ∈ db'.liveGrants now request.subjectUserId,
      grant.tools = request.tools ∧ grant.bindings = request.bindings

theorem putGrant_ok {result} (h : putGrant db now random user request = .ok result) :
    Put db now request result.2 := by
  obtain ⟨_, _, h⟩ := bind_ok.mp h
  obtain ⟨_, h⟩ := require_bind_ok.mp h
  obtain ⟨_, known, h⟩ := bind_ok.mp h
  obtain ⟨bound, h⟩ := ensure_bind_ok.mp h
  obtain ⟨_, _, h⟩ := bind_ok.mp h
  obtain ⟨_, _, h⟩ := bind_ok.mp h
  obtain ⟨written, wrote, h⟩ := bind_ok.mp h
  cases h
  have overlaid := overlay_live wrote
  refine ⟨?_, ?_, overlaid.1, overlaid.2⟩
  · intro tool member
    exact require_ok.mp (forM_ok.mp known tool member)
  · intro empty tool member
    simp [empty, toolsAccountOnly] at bound
    exact bound.2 tool member

theorem mem_effective (member : tool ∈ db.effective now request) :
    db.lasts now request = true ∧ tool ∈ request.tools := by
  unfold Database.effective at member
  split at member
  next lasts => exact ⟨lasts, member⟩
  · cases member

theorem Put.allowed (put : Put db now request db') (concrete : binding.Concrete) :
    db'.Allowed now request.subjectUserId tool binding ↔ tool ∈ db.effective now request ∧
        (isAccountTool tool = true ∧ request.bindings = [] ∨ binding ∈ request.bindings) := by
  rw [allowed_iff concrete]
  constructor
  · rintro ⟨grant, member, allows, reach⟩
    obtain ⟨lasts, tools, bindings⟩ := put.left grant member
    rw [tools, claimsAllows_known put.known] at allows
    rw [bindings] at reach
    simpa [Database.effective, lasts] using ⟨allows, reach⟩
  · rintro ⟨member, reach⟩
    obtain ⟨lasts, requested⟩ := mem_effective member
    obtain ⟨grant, live, tools, bindings⟩ := put.stored lasts
    refine ⟨grant, live, ?_, bindings ▸ reach⟩
    rw [tools]
    exact (claimsAllows_known put.known).mpr requested

theorem exists_fresh (taken : List BindingRef) :
    ∃ binding : BindingRef, binding.Concrete ∧ binding ∉ taken := by
  obtain ⟨n, fresh⟩ := exists_run_not_mem 'x' (taken.map BindingRef.id)
  exact ⟨⟨"asset", String.ofList (replicate (n + 1) 'x')⟩, ⟨by simp, by simp [replicate_succ]⟩,
    fun member => fresh (mem_map_of_mem member)⟩

theorem Put.granted_iff (put : Put db now request db') :
    (∀ tool ∈ request.tools, ∀ binding ∈ request.bindings,
      db'.Allowed now request.subjectUserId tool binding) ↔
      (request.tools ≠ [] → request.bindings ≠ [] → db.lasts now request = true) := by
  constructor
  · intro granted tools bindings
    obtain ⟨tool, tool_mem⟩ := exists_mem_of_ne_nil _ tools
    obtain ⟨binding, binding_mem⟩ := exists_mem_of_ne_nil _ bindings
    have allowed := granted tool tool_mem binding binding_mem
    simp only [Database.Allowed, requireUserGrant, ensure_ok, any_eq_true] at allowed
    obtain ⟨grant, live, _⟩ := allowed
    exact (put.left grant live).1
  · intro lasting tool tool_mem binding binding_mem
    have lasts := lasting (ne_nil_of_mem tool_mem) (ne_nil_of_mem binding_mem)
    obtain ⟨grant, live, tools, bindings⟩ := put.stored lasts
    have allows := (claimsAllows_known put.known).mpr tool_mem
    simp only [Database.Allowed, requireUserGrant, ensure_ok, any_eq_true]
    refine ⟨grant, live, ?_⟩
    simp only [Grant.permits, tools, bindings, allows, Bool.true_and, Bool.or_eq_true, any_eq_true]
    exact .inr ⟨binding, binding_mem, answers_self binding⟩

section Frame

variable {db' : Database}

theorem Put.repeats (put : Put db now request db') (delegated : Delegated db db' now user request) :
    Repeats db now user request := by
  have framed := delegated.framed
  refine ⟨put.granted_iff.mp delegated.granted, ?_, ?_, ?_, ?_⟩
  · intro grant live binding member concrete outside tool tool_mem
    refine (put.allowed concrete).mp ((framed binding concrete outside tool).mpr ?_)
    exact (allowed_iff concrete).mpr ⟨grant, live,
      claimsAllows_iff.mpr (.inr tool_mem), .inr member⟩
  · intro grant live empty tool account allows
    -- A binding that nobody names shows the right on all of them.
    obtain ⟨binding, concrete, fresh⟩ := exists_fresh (db.scope now user ++ request.bindings)
    simp only [mem_append, not_or] at fresh
    have after := (put.allowed concrete).mp
      ((framed binding concrete fresh.1 tool).mpr ((allowed_iff concrete).mpr
          ⟨grant, live, allows, .inl ⟨account, empty⟩⟩))
    rcases after.2 with ⟨-, none⟩ | member
    · exact ⟨after.1, none⟩
    · exact absurd member fresh.2
  · intro binding member concrete outside tool tool_mem
    exact (allowed_iff concrete).mp ((framed binding concrete outside tool).mp
        ((put.allowed concrete).mpr ⟨tool_mem, .inr member⟩))
  · intro empty tool tool_mem
    obtain ⟨binding, concrete, fresh⟩ := exists_fresh (db.scope now user ++
      (db.liveGrants now request.subjectUserId).flatMap Grant.bindings)
    simp only [mem_append, mem_flatMap, not_or, not_exists, not_and] at fresh
    have account := put.account empty tool (mem_effective tool_mem).2
    obtain ⟨grant, live, allows, reach⟩ := (allowed_iff concrete).mp
      ((framed binding concrete fresh.1 tool).mp
        ((put.allowed concrete).mpr ⟨tool_mem, .inl ⟨account, empty⟩⟩))
    rcases reach with ⟨-, none⟩ | member
    · exact ⟨grant, live, none, allows⟩
    · exact absurd member (fresh.2 grant live)

theorem Put.delegated (put : Put db now request db') (repeats : Repeats db now user request) :
    Delegated db db' now user request := by
  refine ⟨put.granted_iff.mpr repeats.lasting, ?_⟩
  intro binding concrete outside tool
  rw [put.allowed concrete, allowed_iff concrete]
  constructor
  · rintro ⟨tool_mem, ⟨account, empty⟩ | member⟩
    · obtain ⟨grant, live, none, allows⟩ := repeats.addsAccount empty tool tool_mem
      exact ⟨grant, live, allows, .inl ⟨account, none⟩⟩
    · exact repeats.addsBound binding member concrete outside tool tool_mem
  · rintro ⟨grant, live, allows, ⟨account, empty⟩ | member⟩
    · obtain ⟨tool_mem, none⟩ := repeats.keepsAccount grant live empty tool account allows
      exact ⟨tool_mem, .inl ⟨account, none⟩⟩
    · have keeps := repeats.keepsBound grant live binding member concrete outside
      rcases claimsAllows_iff.mp allows with star | tool_mem
      · -- No request may name the wildcard, so none can repeat it.
        have requested := (mem_effective (keeps "*" star).1).2
        exact absurd (put.known "*" requested) (by decide)
      · exact keeps tool tool_mem

end Frame

theorem delegated_iff {random : String} {result : PutGrantResponse × Database}
    (h : putGrant db now random user request = .ok result) :
    Delegated db result.2 now user request ↔ Repeats db now user request :=
  ⟨(putGrant_ok h).repeats, (putGrant_ok h).delegated⟩

def deskDatabase (held : List BindingRef) : Database where
  grants :=
    (Table.empty.set (GrantId.fresh "a") {
      subjectId := "admin"
      tools := ["grant.write", "console.read"]
      bindings := [⟨"asset", "shop"⟩]
      createdBy := "system"
      createdAt := 1 }).set (GrantId.fresh "b") {
        subjectId := "desk"
        tools := ["console.read"]
        bindings := held
        createdBy := "system"
        createdAt := 2 }
  onboarding := some { state := .completed }

def shopAdmin : User := ⟨"admin", .admin⟩

def shopRequest : PutGrantRequest where
  subjectUserId := "desk"
  tools := ["console.read", "case.read"]
  bindings := [⟨"asset", "shop"⟩]

theorem delegated_iff_inside :
    ∃ result, putGrant (deskDatabase [⟨"asset", "shop"⟩]) 3 "c" shopAdmin shopRequest = .ok result ∧
      Delegated (deskDatabase [⟨"asset", "shop"⟩]) result.2 3 shopAdmin
        shopRequest := by
  obtain ⟨result, ok⟩ : ∃ result, putGrant (deskDatabase
      [⟨"asset", "shop"⟩]) 3 "c" shopAdmin shopRequest = .ok result :=
    ⟨_, rfl⟩
  refine ⟨result, ok, (delegated_iff ok).mpr ?_⟩
  have scope : (deskDatabase [⟨"asset", "shop"⟩]).scope 3 shopAdmin = [⟨"asset", "shop"⟩] := by
    decide +kernel
  have live : ∀ grant ∈ (deskDatabase [⟨"asset", "shop"⟩]).liveGrants 3
      shopRequest.subjectUserId, grant.bindings = [⟨"asset", "shop"⟩] := by
    decide +kernel
  refine ⟨?_, ?_, ?_, ?_, nofun⟩
  · intro _ _
    decide +kernel
  · intro grant member binding bound _ outside
    rw [live grant member] at bound
    exact absurd bound (scope ▸ outside)
  · intro grant member empty
    rw [live grant member] at empty
    cases empty
  · intro binding bound _ outside
    rw [scope] at outside
    exact absurd bound outside

theorem delegated_lost :
    ∃ result, putGrant (deskDatabase [⟨"asset", "bank"⟩]) 3 "c" shopAdmin shopRequest = .ok result ∧
      ¬ Delegated (deskDatabase [⟨"asset", "bank"⟩]) result.2 3 shopAdmin
        shopRequest := by
  refine ⟨_, rfl, fun delegated => ?_⟩
  have kept := (delegated.framed ⟨"asset", "bank"⟩ ⟨by decide, by decide⟩
    (by decide +kernel) "console.read").mpr rfl
  cases kept

end YuFeng.Access

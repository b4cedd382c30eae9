import YuFeng.Brain.Generation

/-!
# Grants

A grant gives its subject a list of tools on a list of bindings.  `PutGrant`
replaces what a user has been granted, after it has checked that the bindings
of the request are within the reach of the granting user.
-/

namespace YuFeng.Access

open YuFeng.Library
open YuFeng.Generation (newID newID_ne_empty)

structure BindingRef where
  kind : String
  id : String
  deriving DecidableEq

def BindingRef.key (binding : BindingRef) : String := binding.kind ++ "/" ++ binding.id

inductive UserRole where
  | viewer
  | operator
  | admin
  deriving DecidableEq, Repr

structure User where
  userId : String
  role : UserRole
  deriving DecidableEq

inductive SubjectKind where
  | user
  | agent
  | worker
  deriving DecidableEq, Repr

def GrantId : Type := { id : String // id ≠ "" }
  deriving DecidableEq, Repr

def GrantId.fresh (random : String) : GrantId := ⟨newID "gr" random, newID_ne_empty "gr" random⟩

structure Grant where
  subjectKind : SubjectKind := .user
  subjectId : String
  tools : List String
  bindings : List BindingRef
  createdBy : String
  createdAt : Int
  expiresAt : Option Int := none
  deriving DecidableEq

def Grant.live (now : Int) (grant : Grant) : Bool :=
  grant.expiresAt.all fun expires => now < expires

inductive OnboardingState where
  | pending
  | modelConfigured
  | modelLive
  | edgeLive
  | completed
  | failed
  deriving DecidableEq, Repr

structure Onboarding where
  state : OnboardingState := .pending
  localAssetId : String := ""
  deriving DecidableEq

def Onboarding.completed (onboarding : Onboarding) : Bool := onboarding.state == .completed

structure Database where
  grants : Table GrantId Grant := .empty
  onboarding : Option Onboarding := none
  /-- The ids of the assets, oldest first. -/
  assets : List String := []

def Database.loadOnboarding (db : Database) : Onboarding := db.onboarding.getD {}

def Database.listAssetIds (db : Database) : List String :=
  db.assets.filter fun id => id != "" && id != "bootstrap"

def Database.userRows (db : Database) (userId : String) : List (GrantId × Grant) :=
  db.grants.rows.filter fun row =>
    row.2.subjectKind == .user && row.2.subjectId == userId

def Database.liveGrants (db : Database) (now : Int) (userId : String) : List Grant :=
  ((db.userRows userId).map Prod.snd).filter (Grant.live now)

/-! ## Tools -/

def claimsAllows (tools : List String) (name : String) : Bool :=
  tools.any fun tool => tool == "*" || tool == name

def isAccountTool (tool : String) : Bool :=
  tool == "user.admin" || tool == "grant.write" ||
    tool == "catalog.manage" || tool == "worker.enroll"

def isAssetAdminTool (tool : String) : Bool :=
  ["asset.create", "asset.update", "asset.delete", "asset.attach", "asset.detach"].contains tool

def knownUserTool (name : String) : Bool :=
  ["console.read", "case.read", "case.manage", "evidence.approve",
    "worker.enroll", "worker.capacity.approve", "agent.manage",
    "govern.propose", "govern.gate", "govern.start_shadow",
    "govern.promote_canary", "govern.promote_enforce", "govern.rollback",
    "govern.retire", "govern.deny_feedback", "asset.create", "asset.update",
    "asset.delete", "asset.attach", "asset.detach", "run.create",
    "grant.write", "user.admin", "catalog.manage"].contains name

def toolsAccountOnly (tools : List String) : Bool := !tools.isEmpty && tools.all isAccountTool

def roleDefaultTools : UserRole → List String
  | .viewer => ["console.read", "case.read"]
  | .operator => ["console.read", "case.read", "case.manage",
      "evidence.approve", "govern.propose", "govern.gate", "govern.start_shadow", "run.create"]
  | .admin => ["console.read", "case.read", "case.manage",
      "evidence.approve", "worker.enroll", "worker.capacity.approve",
      "agent.manage", "user.admin", "grant.write", "asset.create",
      "asset.update", "asset.delete", "asset.attach", "asset.detach"]

/-! ## What a user may do -/

def grantMissingError : RpcError := ⟨.permissionDenied, "grant_missing"⟩

def BindingRef.answers (kind id : String) (binding : BindingRef) : Bool :=
  (id == "" || binding.id == id) && (kind == "" || binding.kind == kind)

def Grant.permits (tool kind id : String) (grant : Grant) : Bool :=
  claimsAllows grant.tools tool && (isAccountTool tool && grant.bindings.isEmpty ||
      grant.bindings.any (BindingRef.answers kind id))

def requireUserGrant (db : Database) (now : Int)
    (userId tool bindingKind bindingId : String) : Except RpcError Unit :=
  ensure ((db.liveGrants now userId).any
    (Grant.permits tool bindingKind bindingId)) grantMissingError

structure EffectiveAccess where
  tools : List String := []
  bindings : List BindingRef := []
  deriving DecidableEq

def onboardingTools : List String :=
  ["user.admin", "grant.write", "agent.manage", "console.read", "case.read",
    "case.manage", "evidence.approve", "worker.enroll",
    "worker.capacity.approve", "asset.create", "asset.update",
    "asset.delete", "asset.attach", "asset.detach"]

/-- The bindings by their keys; a later one with the same key wins. -/
def bindSet (bindings : List BindingRef) : List (String × BindingRef) :=
  (bindings.filter fun binding => binding.id != "" && binding.id != "*").foldl
    (fun set binding => put binding.key binding set) []

def Database.onboardingAdmin (db : Database) (user : User) : Bool :=
  !db.loadOnboarding.completed && user.role == .admin

def loadEffectiveAccess (db : Database) (now : Int) (user : User) : EffectiveAccess :=
  if db.onboardingAdmin user then
    { tools := orderBy id onboardingTools }
  else
    let grants := db.liveGrants now user.userId
    let tools := (grants.flatMap Grant.tools).filter (· != "")
    let bindings := (bindSet (grants.flatMap Grant.bindings)).map Prod.snd
    { tools := orderBy id tools.dedup
      bindings := orderBy BindingRef.kind (orderBy BindingRef.id bindings) }

def authorizeWrite (db : Database) (now : Int) (user : User)
    (tool bindKind bindId : String) (demo : Bool) : Except RpcError Unit :=
  if tool == "asset.create" && user.role == .admin &&
      (loadEffectiveAccess db now user).tools.contains tool then
    .ok ()
  else
    match requireUserGrant db now user.userId tool bindKind bindId with
    | .ok () => .ok ()
    | .error _ =>
      ensure (db.onboardingAdmin user && (isAccountTool tool || isAssetAdminTool tool) ||
          demo && claimsAllows (roleDefaultTools user.role) tool)
        grantMissingError

def Database.allowedKeys (db : Database) (now : Int) (user : User) : List String :=
  if db.onboardingAdmin user then
    let ids := db.listAssetIds ++ [db.loadOnboarding.localAssetId].filter fun id =>
        id != "" && id != "bootstrap"
    ids.map fun id => "asset/" ++ id
  else
    (loadEffectiveAccess db now user).bindings.map BindingRef.key

def checkGrantScope (db : Database) (now : Int) (user : User)
    (want : List BindingRef) : Except RpcError Unit :=
  require (want.all fun binding =>
      (db.allowedKeys now user).contains binding.key)
    .permissionDenied "grant_scope"

/-! ## PutGrant -/

structure PutGrantRequest where
  subjectUserId : String
  tools : List String
  bindings : List BindingRef
  deriving DecidableEq

def Database.oldest (db : Database) (subject : String) : Option (GrantId × Grant) :=
  highest (fun row => -row.2.createdAt) (db.userRows subject)

def Grant.replaced (request : PutGrantRequest) (createdBy : String) (grant : Grant) : Grant :=
  { grant with
    tools := request.tools
    bindings := request.bindings
    createdBy := createdBy }

def overlayUserGrant (db : Database) (now : Int) (random : String)
    (request : PutGrantRequest) (createdBy : String) :
    Except RpcError (GrantId × Database) :=
  match db.oldest request.subjectUserId with
  | none => do
      let id := GrantId.fresh random
      require (db.grants.find? id).isNone .unknown "duplicate key value violates unique constraint"
      return (id, { db with
        grants := db.grants.set id {
          subjectId := request.subjectUserId
          tools := request.tools
          bindings := request.bindings
          createdBy := createdBy
          createdAt := now } })
  | some existing =>
    let others : Table GrantId Grant :=
      { rows := db.grants.rows.filter fun row =>
          !(row.2.subjectKind == .user && row.2.subjectId == request.subjectUserId &&
            row.1 != existing.1)
        unique := db.grants.unique.sublist (List.filter_sublist.map Prod.fst) }
    .ok (existing.1, { db with
      grants := others.modify existing.1 (Grant.replaced request createdBy) })

structure PutGrantResponse where
  grantId : GrantId
  grant : Grant
  deriving DecidableEq

def putGrant (db : Database) (now : Int) (random : String) (user : User)
    (request : PutGrantRequest) :
    Except RpcError (PutGrantResponse × Database) := do
  authorizeWrite db now user "grant.write" "asset" "" false
  require (user.userId != request.subjectUserId) .permissionDenied "grant_self"
  request.tools.forM fun tool =>
    require (knownUserTool tool) .permissionDenied "grant_unknown_tool"
  ensure (!(request.bindings.isEmpty && !toolsAccountOnly request.tools)) grantMissingError
  request.bindings.forM fun binding =>
    require (!(binding.id == "*" || trimSpace binding.id == "")) .permissionDenied "grant_wildcard"
  checkGrantScope db now user request.bindings
  let written ← overlayUserGrant db now random request user.userId
  return ({
    grantId := written.1
    grant := {
      subjectId := request.subjectUserId
      tools := request.tools
      bindings := request.bindings
      createdBy := user.userId
      createdAt := now } }, written.2)

end YuFeng.Access

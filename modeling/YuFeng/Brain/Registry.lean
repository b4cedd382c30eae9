import YuFeng.Kernel.Capability
import YuFeng.Kernel.Rpc
import YuFeng.Library.Table

/-!
# Registration of units

A unit registers with the bootstrap token of the deployment or with its own
access token, and receives an access and a refresh token.  Only the digests of
the tokens are stored.  `refresh` rotates both tokens, and
`invalidateAccessTokens` runs at every start of the brain.

A call whose database statement fails leaves every row as it was and is not
part of the model.  Nor are the columns of the asset row, the live feed that a
registration fills, and the counting of the rate limiter: a call carries the
limiter's answer.
-/

namespace YuFeng.Brain

open YuFeng.Library YuFeng.Kernel

inductive UnitKind where
  | unspecified
  | edge
  | host
  deriving DecidableEq, Repr

structure UnitRow where
  host : Bool
  version : String
  contractVersion : String
  pubkeyHint : String
  tokenHash : String
  refreshTokenHash : String
  tokenExpiresAt : Option Int
  refreshExpiresAt : Option Int
  producerCapabilities : Option ProducerCapabilities

structure Registry where
  units : Table String UnitRow
  /-- The asset that an administrator bound a unit to in advance. -/
  edgeEnrollments : Table String String
  unitAssets : List (String × String)

/-- What the server is started with, and SHA-256. -/
structure Deployment where
  bootstrapToken : String
  /-- The fingerprint of the signing key, if the key has the right size. -/
  keyID : Option String
  sum256 : String → Vector UInt8 32

def accessTokenTTL : Int := 30 * 60 * 1000000000

def refreshTokenTTL : Int := 30 * 24 * 3600 * 1000000000

def heartbeatIntervalSeconds : Nat := 30

def Deployment.hashToken (env : Deployment) (raw : String) : String :=
  hexEncode (env.sum256 raw).toList

theorem Deployment.hashToken_ne_empty (env : Deployment) (raw : String) :
    env.hashToken raw ≠ "" := by
  apply hexEncode_ne_empty
  intro empty
  simpa using congrArg List.length empty

def newSessionToken (env : Deployment) (random : Vector UInt8 32) : String × String :=
  (hexEncode random.toList, env.hashToken (hexEncode random.toList))

def bearerToken (header : String) : String :=
  if (header.toList.take 7).map Char.toLower = "bearer ".toList then
    trimSpace (String.ofList (header.toList.drop 7))
  else ""

structure RegisterRequest where
  unitId : String
  kind : UnitKind
  version : String
  contractVersion : String
  assetId : String
  pubkeyHint : String
  capabilities : Option ProducerCapabilities

structure RegisterCall where
  authorization : String
  msg : RegisterRequest
  /-- The answer of the rate limiter for the source of the request. -/
  admitted : Bool
  now : Int
  accessRandom : Vector UInt8 32
  refreshRandom : Vector UInt8 32

structure RegisterResponse where
  unitId : String
  assetId : String
  token : String
  refreshToken : String
  heartbeatInterval : Nat
  contractVersion : String
  accessExpiresIn : Int
  deriving DecidableEq

def Deployment.isBootstrap (env : Deployment) (raw : String) : Bool :=
  env.bootstrapToken ≠ "" && raw = env.bootstrapToken

def authorizeRegister (env : Deployment) (db : Registry)
    (authorization unitId : String) (now : Int) : Except RpcError Unit :=
  let raw := bearerToken authorization
  if raw = "" then
    .error ⟨.unauthenticated, "register requires bootstrap token or current unit token"⟩
  else match db.units.find? unitId with
    | some row =>
      -- A row without token digest was declared in advance.
      if row.tokenHash = "" then
        require (env.isBootstrap raw) .unauthenticated "predeclared unit requires bootstrap token"
      else if env.isBootstrap raw then
        .error ⟨.permissionDenied, "bootstrap token cannot replace an existing unit"⟩
      else
        require (row.tokenHash = env.hashToken raw &&
            row.tokenExpiresAt.all (now < ·)) .unauthenticated
          "register requires current unit access token"
    | none =>
      require (env.isBootstrap raw) .unauthenticated "new unit requires bootstrap token"

def RegisterRequest.asset (msg : RegisterRequest) : String :=
  if trimSpace msg.assetId = "" then msg.unitId else trimSpace msg.assetId

def checkDeclaration (env : Deployment) (db : Registry) (msg : RegisterRequest) :
    Except RpcError (Option ProducerCapabilities) := do
  require (msg.pubkeyHint = "" || env.keyID.all (msg.pubkeyHint = ·))
    .failedPrecondition "pubkey_hint does not match brain signing key"
  match normalizeProducerCapabilities msg.capabilities with
  | .error message => .error ⟨.invalidArgument, message⟩
  | .ok capabilities =>
    require (msg.kind = .host || capabilities.isSome) .invalidArgument
      "edge producer capabilities are required"
    let expected := (db.edgeEnrollments.find? msg.unitId).getD ""
    require (expected = "" || msg.asset = expected) .failedPrecondition
      "registered asset does not match edge enrollment"
    require (expected = "" || msg.kind ≠ .host) .failedPrecondition
      "edge enrollment cannot register as host"
    return capabilities

/-- The checks of `register` that precede the authorization. -/
def checkEnvelope (call : RegisterCall) : Except RpcError Unit := do
  require call.admitted .resourceExhausted "public register rate exceeded"
  require (trimSpace call.msg.unitId ≠ "" && call.msg.unitId.utf8ByteSize ≤ 64) .invalidArgument
    "unit_id must be 1-64 characters"
  require (call.msg.contractVersion = "v1") .failedPrecondition
    ("contract version " ++ quote call.msg.contractVersion ++ " unsupported, want v1")

def register (env : Deployment) (db : Registry) (call : RegisterCall) :
    Except RpcError (RegisterResponse × Registry) := do
  checkEnvelope call
  authorizeRegister env db call.authorization call.msg.unitId call.now
  let credentialed := (db.units.find? call.msg.unitId).any (·.tokenHash ≠ "")
  let capabilities ← checkDeclaration env db call.msg
  let access := newSessionToken env call.accessRandom
  let refresh := newSessionToken env call.refreshRandom
  let row : UnitRow := {
    host := call.msg.kind = .host
    version := call.msg.version
    contractVersion := "v1"
    pubkeyHint := call.msg.pubkeyHint
    tokenHash := access.2
    refreshTokenHash := refresh.2
    tokenExpiresAt := some (call.now + accessTokenTTL)
    refreshExpiresAt := some (call.now + refreshTokenTTL)
    producerCapabilities := capabilities }
  let response : RegisterResponse := {
    unitId := call.msg.unitId
    assetId := call.msg.asset
    token := access.1
    refreshToken := if credentialed then "" else refresh.1
    heartbeatInterval := heartbeatIntervalSeconds
    contractVersion := "v1"
    accessExpiresIn := accessTokenTTL / 1000000000 }
  return (response, { db with
    units := db.units.set call.msg.unitId row
    unitAssets := db.unitAssets.insert (call.msg.unitId, call.msg.asset) })

structure RefreshCall where
  unitId : String
  refreshToken : String
  admitted : Bool
  now : Int
  accessRandom : Vector UInt8 32
  refreshRandom : Vector UInt8 32

structure RefreshResponse where
  unitId : String
  token : String
  refreshToken : String
  accessExpiresIn : Int
  deriving DecidableEq

def refresh (env : Deployment) (db : Registry) (call : RefreshCall) :
    Except RpcError (RefreshResponse × Registry) := do
  require call.admitted .resourceExhausted "public refresh rate exceeded"
  let unitId := trimSpace call.unitId
  let presented := trimSpace call.refreshToken
  require (unitId ≠ "" && presented ≠ "") .invalidArgument "unit_id and refresh_token are required"
  let access := newSessionToken env call.accessRandom
  let renewed := newSessionToken env call.refreshRandom
  match (db.units.find? unitId).filter fun row =>
      row.refreshTokenHash = env.hashToken presented && row.refreshExpiresAt.any (call.now < ·) with
  | none => .error ⟨.unauthenticated, "invalid or expired refresh token"⟩
  | some row =>
    return (⟨unitId, access.1, renewed.1, accessTokenTTL / 1000000000⟩,
      { db with units := db.units.set unitId { row with
          tokenHash := access.2
          refreshTokenHash := renewed.2
          tokenExpiresAt := some (call.now + accessTokenTTL)
          refreshExpiresAt := some (call.now + refreshTokenTTL) } })

def invalidateAccessTokens (db : Registry) (now : Int) : Registry :=
  { db with units := db.units.update fun row =>
      if row.refreshTokenHash = "" then row
      else { row with tokenHash := "", tokenExpiresAt := some now } }

end YuFeng.Brain

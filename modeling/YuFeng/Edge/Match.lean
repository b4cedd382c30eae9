import Mathlib.Data.Rat.Defs
import YuFeng.Edge.View

/-!
# What the gate matches

The three kinds of gate artifacts: rules match a regular expression, policies
match detections that an inspector found, and shapes are violated by requests
outside of a positive description.  Regular expressions, JSON access and the
Unicode classes are parameters.
-/

namespace YuFeng.Edge

open YuFeng.Library

structure Request where
  assetId : String
  unitId : String
  method : String
  path : String
  query : String
  headers : List (String × String)
  body : Bytes
  clientAddress : String
  deriving DecidableEq, Inhabited

inductive AttackClass where
  | unspecified
  | sqli
  | xss
  | pathTraversal
  | ssrf
  | cmdi
  | unmapped
  deriving DecidableEq, Repr

structure Detection where
  inspectorId : String
  ruleId : String
  «class» : AttackClass
  score : ℚ
  location : InspectionSurface
  selector : String
  phase : String
  version : String
  manifestDigest : String
  profileDigest : String
  deriving DecidableEq

structure Inspection where
  detections : List Detection
  coverage : List Coverage
  rejected : Bool
  deriving DecidableEq

/-- Regular expressions, JSON access and Unicode classes. -/
structure Matching where
  /-- The error of a pattern that does not compile. -/
  compiles : String → Option String
  matchString : String → String → Bool
  queryUnescape : String → Option String
  /-- The bytes of a body read as text. -/
  text : Bytes → String
  jsonField : Bytes → String → Option String
  isDigit : Char → Bool
  isLetter : Char → Bool

/-! ## Rules -/

structure Rule where
  id : String
  pattern : String
  target : String
  deriving DecidableEq

structure RuleDetector where
  id : String
  rules : List Rule
  deriving DecidableEq

def checkRules (M : Matching) (id : String) : List String → List Rule → Except String Unit
  | _, [] => .ok ()
  | seen, rule :: rules =>
    if rule.id = "" then
      .error ("detector " ++ id ++ ": rule with empty id")
    else if rule.id ∈ seen then
      .error ("detector " ++ id ++ ": duplicate rule id " ++ quote rule.id)
    else if rule.pattern = "" then
      .error ("detector " ++ id ++ ": rule " ++ rule.id ++ ": empty pattern matches everything")
    else if rule.target ∉ ["", "path", "query", "body"] then
      .error ("detector " ++ id ++ ": rule " ++ rule.id ++
        ": unknown target " ++ quote rule.target ++ " (want path/query/body)")
    else match M.compiles rule.pattern with
      | some message => .error ("detector " ++ id ++ ": rule " ++ rule.id ++ ": " ++ message)
      | none => checkRules M id (rule.id :: seen) rules

def newRuleDetector (M : Matching) (id : String) (rules : List Rule) : Except String RuleDetector :=
  if rules = [] then .error ("detector " ++ id ++ ": empty rule set")
  else (checkRules M id [] rules).map fun _ => ⟨id, rules⟩

def decodedQuery (M : Matching) (query : String) : String := (M.queryUnescape query).getD query

def targetString (M : Matching) (target : String) (req : Request) : String :=
  if target = "path" then req.path
  else if target = "query" then decodedQuery M req.query
  else if target = "body" then M.text req.body
  else req.path ++ " " ++ decodedQuery M req.query ++ " " ++ M.text req.body

def RuleDetector.match? (M : Matching) (d : RuleDetector) (req : Request) : Option String :=
  (d.rules.find? fun rule =>
    M.matchString rule.pattern (targetString M rule.target req)).map (·.id)

/-! ## Selectors and routes -/

def splitPath (path : String) : List String := (splitText '/' path).filter (· ≠ "")

def isPlaceholder (segment : String) : Bool :=
  startsWith "\x7b" segment && segment.toList.getLast? = some '\x7d'

def compiledRouteMatch (template : List String) (path : String) : Bool :=
  let parts := splitPath path
  template.length = parts.length && (template.zip parts).all fun pair =>
      if isPlaceholder pair.1 then pair.2 ≠ "" else pair.1 = pair.2

def routeTemplateMatch (template path : String) : Bool :=
  compiledRouteMatch (splitPath template) path

def selectorValue (M : Matching) (selector : String) (req : Request)
    (view : CanonicalView) : Option String :=
  let kind := selector.toList.takeWhile (· ≠ '.')
  let name := String.ofList (selector.toList.drop (kind.length + 1))
  if name = "" then none
  else match toLower (String.ofList kind) with
    | "query" => (view.query.lookup name).map (·.headD "")
    | "header" =>
      match (view.headers.lookup (toLower name)).getD [] with
      | value :: _ => some value
      | [] => (req.headers.lookup name).or (req.headers.lookup (toLower name))
    | "json" => M.jsonField view.body name
    | _ => none

def stringInFold (list : List String) (want : String) : Bool := list.any fun s => equalFold s want

/-! ## Policies -/

structure DetectionKey where
  detectorId : String
  detectorVersion : String
  detectorManifestDigest : String
  ruleId : String
  phase : String
  targetLocation : InspectionSurface
  targetSelector : String
  normalizationProfileDigest : String
  deriving DecidableEq

structure PolicyScope where
  assetId : String
  hosts : List String
  routeTemplate : String
  pathPrefix : String
  methods : List String
  contentTypes : List String
  targetSelectors : List String
  deriving DecidableEq

structure PolicyPredicate where
  detectionKeys : List DetectionKey
  minAnomalyScore : ℚ
  requireMatchPresent : Bool
  coverageRequirement : CoverageStatus
  deriving DecidableEq

structure PolicyDependencies where
  detectorManifestDigest : String
  normalizerProfileDigest : String
  minEdgeVersion : String
  deriving DecidableEq

structure PolicyCandidate where
  scope : Option PolicyScope
  predicate : Option PolicyPredicate
  action : String
  dependencies : Option PolicyDependencies
  deriving DecidableEq

def headerFirst (view : CanonicalView) (req : Request) (name : String) : String :=
  match (view.headers.lookup (toLower name)).getD [] with
  | value :: _ => value
  | [] =>
    let plain := (req.headers.lookup name).getD ""
    if plain ≠ "" then plain
    else (req.headers.lookup (toLower name)).getD ""

def requestHost (req : Request) (view : CanonicalView) : String :=
  let host := if view.host ≠ "" then view.host
    else firstNonEmpty ((req.headers.lookup "host").getD "") ((req.headers.lookup "Host").getD "")
  String.ofList (host.toList.takeWhile (· ≠ ':'))

def mediaType (contentType : String) : String :=
  if ';' ∈ contentType.toList then
    trimSpace (String.ofList (contentType.toList.takeWhile (· ≠ ';')))
  else contentType

def policyScopeMatches (M : Matching) (scope : Option PolicyScope)
    (req : Request) (view : CanonicalView) : Bool :=
  match scope with
  | none => true
  | some scope =>
    let path := firstNonEmpty view.path req.path
    let method := firstNonEmpty view.method (toUpper req.method)
    let contentType := mediaType (headerFirst view req "content-type")
    !(scope.assetId ≠ "" && req.assetId ≠ "" && scope.assetId ≠ req.assetId) &&
      (scope.hosts = [] || stringInFold scope.hosts (requestHost req view)) &&
      (scope.routeTemplate = "" || routeTemplateMatch scope.routeTemplate path) &&
      startsWith scope.pathPrefix path &&
      (scope.methods = [] || stringInFold scope.methods method) && (scope.contentTypes = [] ||
        stringInFold scope.contentTypes contentType) &&
      scope.targetSelectors.all fun selector =>
        (selectorValue M selector req view).isSome

def detectionMatchesKey (d : Detection) (key : DetectionKey) : Bool :=
  let fits (want have' : String) : Bool := want = "" || have' = want
  fits key.ruleId d.ruleId && fits key.detectorId d.inspectorId &&
    fits key.detectorVersion d.version && fits key.detectorManifestDigest d.manifestDigest &&
    fits key.phase d.phase &&
    (key.targetLocation = .unspecified || d.location = key.targetLocation) &&
    fits key.targetSelector d.selector && fits key.normalizationProfileDigest d.profileDigest &&
    (key.ruleId ≠ "" || key.detectorId ≠ "")

def policyMatchesDetectionKey (found : List Detection) (key : DetectionKey)
    (requireFull : Bool) (coverage : List Coverage) : Bool :=
  let status := coverageOf coverage key.targetLocation
  let hidden := key.targetLocation ≠ .unspecified && (requireFull && status ≠ .full ||
      key.targetLocation = .body && status = .absent)
  !hidden && found.any fun d => detectionMatchesKey d key

def maxDetectionScore (found : List Detection) : ℚ :=
  found.foldl (fun best d => if best < d.score then d.score else best) 0

def policyCandidateBlocksOn (M : Matching) (candidate : PolicyCandidate)
    (found : List Detection) (view : CanonicalView) (req : Request) : Bool :=
  match candidate.predicate with
  | none => false
  | some predicate =>
    let requireFull := predicate.coverageRequirement = .full
    let hit := predicate.detectionKeys.any fun key =>
      policyMatchesDetectionKey found key requireFull view.coverage
    if candidate.action = "log" then false
    else if !policyScopeMatches M candidate.scope req view then false
    else if 0 < predicate.minAnomalyScore ∧
        maxDetectionScore found < predicate.minAnomalyScore then false
    else if predicate.requireMatchPresent then hit
    else if predicate.detectionKeys = [] then false
    else if requireFull then !hit
    else hit

/-! ## Shapes -/

structure ShapeConstraint where
  selector : String
  minLen : Int
  maxLen : Int
  charset : String
  deriving DecidableEq

structure ShapeSource where
  methods : List String
  routeTemplate : String
  pathPrefix : String
  constraints : List ShapeConstraint
  deriving DecidableEq

structure CompiledShape where
  methods : List String
  route : List String
  pathPrefix : String
  constraints : List ShapeConstraint
  deriving DecidableEq

def validateConstraint (c : ShapeConstraint) : Except String Unit :=
  if c.selector = "" then .error "shape constraint selector required"
  else if c.maxLen ≤ 0 then
    .error ("shape constraint " ++ c.selector ++ " missing max_len")
  else if c.minLen < 0 ∨ c.maxLen < c.minLen then
    .error ("shape constraint " ++ c.selector ++ " invalid length bounds")
  else if c.charset ∈ ["", "ascii_print", "digit", "alpha", "hex", "uuid"] then
    .ok ()
  else if c.charset = "any" then .error "shape charset any forbidden"
  else .error ("shape charset " ++ c.charset ++ " unknown")

def validateShapeSource (source : ShapeSource) : Except String Unit :=
  if source.methods = [] then .error "shape methods required"
  else if source.routeTemplate = "" ∧ source.pathPrefix = "" then
    .error "shape requires route_template or path_prefix"
  else if source.pathPrefix ≠ "" ∧ (splitPath source.pathPrefix).length < 2 then
    .error "shape path_prefix too wide"
  else if 16 < source.constraints.length then
    .error "shape selectors exceed 16"
  else source.constraints.forM validateConstraint

def compileShape (source : ShapeSource) : Except String CompiledShape :=
  (validateShapeSource source).map fun _ => {
    methods := source.methods.map toUpper
    route := if source.routeTemplate = "" then [] else splitPath source.routeTemplate
    pathPrefix := source.pathPrefix
    constraints := source.constraints }

def isUuid (value : String) : Bool :=
  let groups := value.toList.splitOn '-'
  groups.map List.length = [8, 4, 4, 4, 12] && groups.all (·.all isHex)

def charsetOK (M : Matching) (charset value : String) : Bool :=
  match charset with
  | "" => value.toList.all fun c => 32 ≤ c.toNat && c.toNat ≤ 126
  | "ascii_print" => value.toList.all fun c => 32 ≤ c.toNat && c.toNat ≤ 126
  | "digit" => value.toList.all M.isDigit
  | "alpha" => value.toList.all M.isLetter
  | "hex" => value.toList.all isHex
  | "uuid" => isUuid value
  | _ => false

def CompiledShape.violates (M : Matching) (shape : CompiledShape)
    (req : Request) (view : CanonicalView) : Bool :=
  let path := firstNonEmpty view.path req.path
  let method := firstNonEmpty view.method (toUpper req.method)
  let applies := if shape.route ≠ [] then compiledRouteMatch shape.route path
    else startsWith shape.pathPrefix path
  applies && (toUpper method ∉ shape.methods || shape.constraints.any fun c =>
      (selectorValue M c.selector req view).all fun value =>
        value.utf8ByteSize < c.minLen || c.maxLen < value.utf8ByteSize ||
          !charsetOK M c.charset value)

end YuFeng.Edge

import YuFeng.Library.Json
import YuFeng.Library.Table
import YuFeng.Library.Text

/-!
# The canonical request view

Both shells of the edge turn a raw request into a `CanonicalView` before
anything inspects it.  `canonicalize` decodes the path, folds duplicate query
keys and headers, unpacks the body and says how much of each surface was
covered, all as the inspection profile demands.

URL, multipart and compression codecs, the scanner of JSON texts and the
conversion of their literals belong to the Go library and are the fields of
`Http`.
-/

namespace YuFeng.Edge

open YuFeng.Library

inductive InspectionSurface where
  | unspecified
  | path
  | query
  | body
  | header
  deriving DecidableEq, Repr

inductive CoverageStatus where
  | unspecified
  | full
  | partialCoverage
  | absent
  | unsupported
  | error
  deriving DecidableEq, Repr

structure Coverage where
  target : InspectionSurface
  status : CoverageStatus
  inspected : Nat := 0
  total : Nat := 0
  deriving DecidableEq

structure HttpInspectionProfile where
  normalizePath : Bool
  percentDecodeRounds : Int
  encodedSlash : String
  duplicateQuery : String
  duplicateHeader : String
  clTeConflict : String
  jsonDuplicateKey : String
  multipartMaxParts : Int
  multipartMaxPartBytes : Int
  decompressAlgorithms : List String
  decompressMaxBytes : Int
  maxHeaders : Int
  maxParams : Int
  jsonMaxDepth : Int
  engineBodyLimitBytes : Int
  deriving DecidableEq

def engineBodyLimit : Nat := 64 * 1024

def defaultInspectionProfile : HttpInspectionProfile where
  normalizePath := true
  percentDecodeRounds := 2
  encodedSlash := "reject"
  duplicateQuery := "first"
  duplicateHeader := "first"
  clTeConflict := "reject"
  jsonDuplicateKey := "reject"
  multipartMaxParts := 16
  multipartMaxPartBytes := engineBodyLimit
  decompressAlgorithms := []
  decompressMaxBytes := engineBodyLimit
  maxHeaders := 64
  maxParams := 128
  jsonMaxDepth := 8
  engineBodyLimitBytes := engineBodyLimit

def emptyInspectionProfile : HttpInspectionProfile where
  normalizePath := false
  percentDecodeRounds := 0
  encodedSlash := ""
  duplicateQuery := ""
  duplicateHeader := ""
  clTeConflict := ""
  jsonDuplicateKey := ""
  multipartMaxParts := 0
  multipartMaxPartBytes := 0
  decompressAlgorithms := []
  decompressMaxBytes := 0
  maxHeaders := 0
  maxParams := 0
  jsonMaxDepth := 0
  engineBodyLimitBytes := 0

abbrev Values := List (String × List String)

abbrev Bytes := List UInt8

structure Inflated where
  raw : Bytes
  readError : Option String
  closeError : Bool

/-- The codecs of the Go library and the digest of a profile. -/
structure Http where
  pathUnescape : String → Option String
  queryUnescape : String → Option String
  parseQuery : String → Option Values
  /-- Reads at most the given number of bytes. -/
  inflate : String → Bytes → Nat → Option Inflated
  jsonTokens : Bytes → List Json.Token
  jsonConverts : String → Bool
  boundary : String → Option String
  /-- The parts of a multipart body; `none` where reading one fails. -/
  parts : Bytes → String → List (Option Bytes)
  profileDigest : HttpInspectionProfile → String

structure CanonicalView where
  method : String
  path : String
  query : Values
  headers : Values
  body : Bytes
  host : String
  rejected : Bool
  coverage : List Coverage
  profileDigest : String
  deriving DecidableEq, Inhabited

/-! ## Path and query -/

def hasEncodedSlash (path : String) : Bool := hasSubstring "%2f" (toLower path)

/-- Decode the path until it no longer changes; the flag says rejected. -/
def decodePath (H : Http) (profile : HttpInspectionProfile) : Nat → String → Bool → String × Bool
  | 0, path, rejected => (path, rejected)
  | rounds + 1, path, rejected =>
    let rejected := rejected || hasEncodedSlash path && profile.encodedSlash = "reject"
    match H.pathUnescape path with
    | none => (path, true)
    | some decoded =>
      if decoded = path then (path, rejected)
      else decodePath H profile rounds decoded rejected

def normalizeSegments : List String → List String → List String
  | kept, [] => kept
  | kept, segment :: segments =>
    if segment = "" ∨ segment = "." then normalizeSegments kept segments
    else if segment = ".." then normalizeSegments kept.dropLast segments
    else normalizeSegments (kept ++ [segment]) segments

def normalizePath (path : String) : String :=
  "/" ++ "/".intercalate (normalizeSegments [] (splitText '/' path))

def isHex (c : Char) : Bool := ('0' ≤ c && c ≤ '9') || ('a' ≤ c && c ≤ 'f') || ('A' ≤ c && c ≤ 'F')

def malformedQuery : List Char → Bool
  | [] => false
  | '%' :: first :: second :: rest =>
    !isHex first || !isHex second || malformedQuery (first :: second :: rest)
  | '%' :: _ => true
  | _ :: rest => malformedQuery rest

def foldDuplicates (mode : String) (query : Values) : Values :=
  let one (pick : List String → Option String) : Values :=
    query.filterMap fun entry => (pick entry.2).map fun v => (entry.1, [v])
  if mode = "first" then one List.head?
  else if mode = "last" then one List.getLast?
  else query

def decodeValue (H : Http) : Nat → String → String
  | 0, value => value
  | rounds + 1, value =>
    match H.queryUnescape value with
    | none => value
    | some decoded =>
      if decoded = value then value else decodeValue H rounds decoded

def canonicalQuery (H : Http) (profile : HttpInspectionProfile)
    (rawQuery : String) : Values × Bool :=
  let parsed := H.parseQuery rawQuery
  let query := foldDuplicates profile.duplicateQuery (parsed.getD [])
  -- Parsing has decoded one round already.
  let query := query.map fun entry =>
    (entry.1, entry.2.map (decodeValue H (profile.percentDecodeRounds.toNat - 1)))
  let params : Nat := query.foldl (fun count entry => count + entry.2.length) 0
  (query, malformedQuery rawQuery.toList || parsed.isNone ||
    0 < profile.maxParams && profile.maxParams < params)

/-! ## Headers -/

def headerVals (headers : Values) (name : String) : List String :=
  match headers.lookup name with
  | some values => values
  | none =>
    ((headers.find? fun entry => toLower entry.1 = toLower name).map Prod.snd).getD []

def headerVal (headers : Values) (name : String) : String := (headerVals headers name).headD ""

def pickDuplicate (values : List String) (mode : String) : List String :=
  if mode = "last" then values.getLast?.toList
  else if mode = "combine" then values
  else values.head?.toList

def canonicalHeaders (profile : HttpInspectionProfile) (headers : Values) : Values :=
  headers.foldl (fun kept entry =>
    put (toLower entry.1) (pickDuplicate entry.2 profile.duplicateHeader) kept)
    []

def headersRejected (profile : HttpInspectionProfile) (headers : Values) : Bool :=
  headerVal headers "Content-Length" ≠ "" && headerVal headers "Transfer-Encoding" ≠ "" &&
      profile.clTeConflict = "reject" ||
    headerVal headers "X-Duplicate-Content-Length" ≠ "" ||
    1 < (headerVals headers "Content-Length").length ||
    0 < profile.maxHeaders && profile.maxHeaders < headers.length

/-! ## Body -/

def allowsDecompress (profile : HttpInspectionProfile) (algorithm : String) : Bool :=
  profile.decompressAlgorithms.any fun allowed =>
    equalFold (trimSpace allowed) algorithm

structure Decoded where
  body : Bytes
  bodyOpaque : Bool
  rejected : Bool

def decodeBody (H : Http) (profile : HttpInspectionProfile)
    (headers : Values) (body : Bytes) : Decoded :=
  let encoding := toLower (headerVal headers "Content-Encoding")
  let maxInflate := if profile.decompressMaxBytes ≤ 0 then engineBodyLimit
    else profile.decompressMaxBytes.toNat
  if encoding ≠ "" ∧ encoding ≠ "identity" ∧ body ≠ [] then
    let algorithm := trimSpace ((splitText ',' encoding).headD "")
    if !allowsDecompress profile algorithm then ⟨[], true, false⟩
    else match H.inflate (toLower algorithm) body (maxInflate + 1) with
      | none => ⟨[], false, true⟩
      | some inflated => ⟨inflated.raw, false,
          inflated.readError.any (fun e => !hasSubstring "EOF" e) ||
            inflated.closeError || maxInflate < inflated.raw.length⟩
  else ⟨body, false, false⟩

def rejectMultipartLimits (H : Http) (profile : HttpInspectionProfile)
    (body : Bytes) (contentType : String) : Bool :=
  if profile.multipartMaxParts ≤ 0 ∧ profile.multipartMaxPartBytes ≤ 0 then
    false
  else match (H.boundary contentType).filter (· ≠ "") with
    | none => true
    | some boundary =>
      let parts := H.parts body boundary
      parts.any (fun part => part.all fun raw =>
        0 < profile.multipartMaxPartBytes && profile.multipartMaxPartBytes < raw.length) ||
        0 < profile.multipartMaxParts && profile.multipartMaxParts < parts.length

def asciiBytes (s : String) : Bytes := s.toList.map fun c => UInt8.ofNat c.toNat

/-! ## JSON texts -/

section

variable (converts : String → Bool)

/-- A token that is no text counts as the empty key. -/
def keyText : Json.Token → String
  | .string text => text
  | _ => ""

def duplicateMember : Nat → List String → Json.Decoder → Bool
  | 0, _, _ => false
  | fuel + 1, seen, dec =>
    if dec.more then
      match dec.token converts with
      | none => false
      | some (token, dec) =>
        if seen.contains (keyText token) then true
        else match dec.decode converts with
          | none => false
          | some (_, dec) =>
            duplicateMember fuel (keyText token :: seen) dec
    else false

def hasDuplicateJSONKey (tokens : List Json.Token) : Bool :=
  match Json.Decoder.token converts { rest := tokens } with
  | some (.openObject, dec) => duplicateMember converts tokens.length [] dec
  | _ => false

end

def jsonDepth (value : Json) : Nat := value.nesting

def jsonExceedsDepth (H : Http) (body : Bytes) (max : Int) : Bool :=
  if body = [] ∨ max ≤ 0 then false
  else match Json.unmarshal H.jsonConverts (H.jsonTokens body) with
    | none => false
    | some value => max < jsonDepth value

def checkContent (H : Http) (profile : HttpInspectionProfile)
    (headers : Values) (body : Bytes) : Bytes × Bool :=
  let contentType := toLower (headerVal headers "Content-Type")
  let jsonRejected := hasSubstring "application/json" contentType &&
    (profile.jsonDuplicateKey = "reject" &&
        hasDuplicateJSONKey H.jsonConverts (H.jsonTokens body) ||
      0 < profile.jsonMaxDepth && jsonExceedsDepth H body profile.jsonMaxDepth)
  if hasSubstring "multipart/" contentType then
    if body.tails.any fun rest =>
        (asciiBytes "Content-Disposition").isPrefixOf rest then
      (body, jsonRejected || rejectMultipartLimits H profile body contentType)
    else ([], true)
  else (body, jsonRejected)

/-! ## The view -/

def bodyCoverage (bodyOpaque : Bool) (limit : Nat) (body : Bytes) : Coverage :=
  if bodyOpaque then ⟨.body, .error, 0, body.length⟩
  else if body = [] then ⟨.body, .absent, 0, 0⟩
  else if limit < body.length then
    ⟨.body, .partialCoverage, limit, body.length⟩
  else ⟨.body, .full, body.length, body.length⟩

def canonicalize (H : Http) (method rawPath rawQuery : String)
    (headers : Values) (body : Bytes) (profile : HttpInspectionProfile) :
    CanonicalView :=
  let (path, pathRejected) := decodePath H profile
    profile.percentDecodeRounds.toNat (if rawPath = "" then "/" else rawPath)
    false
  let path := if profile.normalizePath then normalizePath path else path
  let (query, queryRejected) := canonicalQuery H profile rawQuery
  let limit := if profile.engineBodyLimitBytes ≤ 0 then engineBodyLimit
    else profile.engineBodyLimitBytes.toNat
  let decoded := decodeBody H profile headers body
  let (content, contentRejected) := checkContent H profile headers decoded.body
  { method := toUpper method
    path := path
    query := query
    headers := canonicalHeaders profile headers
    body := if decoded.bodyOpaque then [] else content.take limit
    host := headerVal headers "Host"
    rejected := pathRejected || queryRejected ||
      headersRejected profile headers || decoded.rejected || contentRejected
    coverage := [⟨.path, .full, path.utf8ByteSize, path.utf8ByteSize⟩,
      ⟨.query, .full, rawQuery.utf8ByteSize, rawQuery.utf8ByteSize⟩, ⟨.header, .full, 0, 0⟩,
      bodyCoverage decoded.bodyOpaque limit content]
    profileDigest := H.profileDigest profile }

def coverageOf (coverage : List Coverage) (surface : InspectionSurface) : CoverageStatus :=
  ((coverage.find? (·.target = surface)).map (·.status)).getD .absent

def markBodyPartial (view : CanonicalView) (inspected total : Nat) : CanonicalView :=
  let marked : Coverage := ⟨.body, .partialCoverage, inspected, total⟩
  if view.coverage.any (·.target = .body) then
    { view with coverage := view.coverage.replaceF fun c =>
        if c.target = .body then some marked else none }
  else { view with coverage := view.coverage ++ [marked] }

end YuFeng.Edge

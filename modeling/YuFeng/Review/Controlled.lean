import YuFeng.Review.Candidates
import YuFeng.Review.Submission

/-!
# Controlled evidence

The edge records the values that its detections point at and cuts the record
to a number of bytes.  The brain reads the fragments of such records and
checks every value against its length and digest.
-/

namespace YuFeng.Evidence

open YuFeng.Library
open YuFeng.Review (validSHA256Reference)

/-! ## Recording -/

structure Recorder where
  /-- The media type in lower case, if there is one. -/
  parseMediaType : String → Option String
  /-- The first value of a name in a query string or a form. -/
  queryValue : Bytes → String → Option Bytes
  jsonField : Bytes → String → Option String
  credentialName : String → Bool
  secretMaterial : Bytes → Bool

structure Observed where
  selector : String
  surface : String
  value : Bytes
  deriving DecidableEq

def shapeMaxSelectors : Nat := 16

def Recorder.trafficContentType (R : Recorder) (headers : List (String × String)) : String :=
  let raw := (headers.find? fun header =>
    equalFold header.1 "content-type").elim "" Prod.snd
  (R.parseMediaType raw).getD ""

def jsonType (contentType : String) : Bool :=
  contentType == "application/json" || "+json".toList.isSuffixOf contentType.toList

def Recorder.bodyValue (R : Recorder) (req : Edge.Request)
    (name : String) : Option (Bytes × String) :=
  (R.jsonField req.body name).map fun value => (utf8 value, "body")

def Recorder.controlledSelectorValue (R : Recorder) (selector : String)
    (req : Edge.Request) (contentType : String) : Option (Bytes × String) :=
  match cutText '.' selector with
  | none => none
  | some (kind, name) =>
    if name = "" then none
    else match kind with
      | "query" =>
        (R.queryValue (utf8 req.query) name).map fun v => (v, "query")
      | "json" =>
        if jsonType contentType then R.bodyValue req name else none
      | "body" | "arg" =>
        if jsonType contentType then R.bodyValue req name
        else if contentType = "application/x-www-form-urlencoded" then
          (R.queryValue req.body name).map fun v => (v, "body")
        else none
      | _ => none

def Services.observe (S : Services) (R : Recorder) (req : Edge.Request)
    (contentType : String) (observed : List Observed) (selector : String) :
    List Observed :=
  let selector := S.toLower (trimSpace selector)
  if selector = "" ∨ (observed.map Observed.selector).contains selector ∨
      shapeMaxSelectors ≤ observed.length then
    observed
  else match R.controlledSelectorValue selector req contentType with
    | none => observed
    | some found => observed ++ [⟨selector, found.2, found.1⟩]

def Services.observedValues (S : Services) (R : Recorder)
    (req : Edge.Request) (dec : Edge.Decision) : List Observed :=
  (dec.inspection.detections.map (·.selector)).foldl
    (S.observe R req (R.trafficContentType req.headers)) []

def truncateEvidenceString (value : Bytes) (limit : Nat) : Bytes :=
  if (runes value).length ≤ limit then value
  else encodeRunes ((runes value).take limit)

def truncateSelector (selector : String) (limit : Nat) : String :=
  String.ofList (selector.toList.take limit)

def inRange (low high byte : UInt8) : Bool := low.toNat ≤ byte.toNat && byte.toNat ≤ high.toNat

def isDigitByte (byte : UInt8) : Bool := inRange 48 57 byte

def isAlphaByte (byte : UInt8) : Bool := inRange 65 90 byte || inRange 97 122 byte

def evidenceCharset (value : Bytes) : String :=
  if value.isEmpty then "empty"
  else if value.all isDigitByte then "digit"
  else if value.all isAlphaByte then "alpha"
  else if value.all (inRange 32 126) then "ascii_print"
  else "unicode_or_binary"

def characterClasses (value : Bytes) : Nat :=
  [value.any (inRange 97 122), value.any (inRange 65 90), value.any isDigitByte,
    value.any (utf8 "+/_=-.").contains].count true

def Recorder.sensitiveEvidenceField (R : Recorder) (selector : String) (value : Bytes) : Bool :=
  R.credentialName selector || R.secretMaterial value ||
    24 ≤ value.length && 3 ≤ characterClasses value && !value.any (utf8 " \t\r\n").contains

def Services.recordField (S : Services) (R : Recorder) (observed : Observed) : EvidenceField where
  selector := truncateSelector observed.selector 128
  surface := observed.surface
  length := observed.value.length
  charset := evidenceCharset observed.value
  digest := S.digest observed.value
  value :=
    if R.sensitiveEvidenceField observed.selector observed.value then []
    else truncateEvidenceString observed.value 128

def Services.controlledTrafficEvidence (S : Services) (R : Recorder)
    (req : Edge.Request) (dec : Edge.Decision) (routeTemplate : String) :
    EvidenceDocument where
  method := toUpper req.method
  routeTemplate := routeTemplate
  contentType := R.trafficContentType req.headers
  contentLength := req.body.length
  fields := (S.observedValues R req dec).map (S.recordField R)

/-! ## Bounding -/

def shrinkEvidenceString (value : String) (remove : Nat) : String :=
  String.ofList (value.toList.take (value.toList.length - max remove 1))

def EvidenceDocument.shrink (document : EvidenceDocument) (excess : Nat) :
    Option EvidenceDocument :=
  match document.fields.getLast? with
  | some last =>
    if last.value ≠ [] then
      some { document with
        fields := document.fields.dropLast ++ [last.cleared] }
    else some { document with fields := document.fields.dropLast }
  | none =>
    if document.routeTemplate ≠ "" then
      some { document with
        routeTemplate := shrinkEvidenceString document.routeTemplate excess }
    else if document.method ≠ "" then
      some { document with
        method := shrinkEvidenceString document.method excess }
    else none

def fieldsWeight : List EvidenceField → Nat
  | [] => 0
  | field :: fields =>
    (if field.value = [] then 1 else 2) + fieldsWeight fields

def EvidenceDocument.weight (document : EvidenceDocument) : Nat :=
  fieldsWeight document.fields + document.routeTemplate.toList.length +
    document.method.toList.length

theorem fieldsWeight_concat (fields last) :
    fieldsWeight (fields ++ [last]) = fieldsWeight fields + (if last.value = [] then 1 else 2) := by
  induction fields with
  | nil => simp [fieldsWeight]
  | cons _ _ ih =>
    simp only [List.cons_append, fieldsWeight, ih]
    omega

theorem length_shrink {value} (filled : value ≠ "") (remove : Nat) :
    (shrinkEvidenceString value remove).toList.length <
      value.toList.length := by
  have positive : 0 < value.toList.length := by
    rw [List.length_pos_iff]
    intro empty
    exact filled (String.toList_eq_nil_iff.mp empty)
  simp only [shrinkEvidenceString, String.toList_ofList, List.length_take]
  omega

theorem weight_shrink {document shorter : EvidenceDocument} {excess} :
    document.shrink excess = some shorter → shorter.weight < document.weight := by
  have split_last {last} (found : document.fields.getLast? = some last) :
      fieldsWeight document.fields = fieldsWeight document.fields.dropLast +
        (if last.value = [] then 1 else 2) := by
    rw [← fieldsWeight_concat, List.dropLast_append_getLast? last found]
  fun_cases EvidenceDocument.shrink document excess
  all_goals
    intro h
    cases h
  all_goals simp only [EvidenceDocument.weight]
  next last found filled =>
    simp only [fieldsWeight_concat, EvidenceField.cleared, split_last found, filled, if_true,
      if_false]
    omega
  next last found empty =>
    rw [split_last found]
    split <;> omega
  next filled =>
    have shorter := length_shrink filled excess
    omega
  next filled =>
    have shorter := length_shrink filled excess
    omega

structure Codec extends Services where
  marshalDocument : EvidenceDocument → Bytes
  unmarshalFields : Bytes → Except String (List EvidenceField)
  unmarshalBody : Bytes → Except String EvidenceBody

def Codec.bound (C : Codec) (limit : Nat) (document : EvidenceDocument) :
    Except String EvidenceDocument :=
  if (C.marshalDocument document).length ≤ limit then .ok document
  else
    match _found :
        document.shrink ((C.marshalDocument document).length - limit) with
    | none => .error "evidence byte limit cannot fit structural envelope"
    | some shorter => C.bound limit shorter
  termination_by document.weight
  decreasing_by exact weight_shrink _found

def Codec.marshalBoundedEvidence (C : Codec) (document : EvidenceDocument)
    (limit : Int) : Except String Bytes :=
  if limit ≤ 0 then .error "evidence byte limit is invalid"
  else (C.bound limit.toNat document).map C.marshalDocument

/-- What is left when nothing can be shrunk any more. -/
def EvidenceDocument.stripped (document : EvidenceDocument) : EvidenceDocument :=
  { document with method := "", routeTemplate := "", fields := [] }

def EvidenceDocument.envelope (document : EvidenceDocument) : EvidenceDocument :=
  { document.stripped with contentType := "" }

def Codec.size (C : Codec) (document : EvidenceDocument) : Nat :=
  (C.marshalDocument document).length

def Codec.Fitting (C : Codec) (document : EvidenceDocument) (limit : Int) : Prop :=
  match C.marshalBoundedEvidence document limit with
  | .ok raw => raw.length ≤ limit
  | .error _ => limit < C.size document.envelope

theorem stripped_shrink {document shorter : EvidenceDocument} {excess} :
    document.shrink excess = some shorter → shorter.stripped = document.stripped := by
  fun_cases EvidenceDocument.shrink document excess
  all_goals
    intro h
    cases h
  all_goals rfl

theorem stripped_of_shrink_none {document : EvidenceDocument} {excess} :
    document.shrink excess = none → document.stripped = document := by
  fun_cases EvidenceDocument.shrink document excess with
  | case5 last route method =>
    intro
    rw [List.getLast?_eq_none_iff] at last
    rw [not_not] at route method
    obtain ⟨_, _, _, _, _⟩ := document
    simp_all [EvidenceDocument.stripped]
  | _ => simp

theorem bound_size (C : Codec) (limit : Nat) (document : EvidenceDocument) :
    match C.bound limit document with
    | .ok stored => C.size stored ≤ limit ∧ stored.stripped = document.stripped
    | .error _ => limit < C.size document.stripped := by
  fun_induction Codec.bound C limit document with
  | case1 document fits => exact ⟨fits, rfl⟩
  | case2 document long none =>
    rw [stripped_of_shrink_none none]
    exact Nat.lt_of_not_le long
  | case3 document long shorter step ih => rwa [stripped_shrink step] at ih

/-- The content type is never shrunk: it has to fit with the envelope. -/
theorem bounded_evidence_fits_iff (C : Codec)
    (strips : ∀ document, C.size document.stripped ≤ C.size document)
    (document : EvidenceDocument) (limit : Int) :
    C.Fitting document limit ↔
      limit < C.size document.envelope ∨ 0 < limit ∧ C.size document.stripped ≤ limit := by
  unfold Codec.Fitting Codec.marshalBoundedEvidence
  by_cases positive : limit ≤ 0
  · simp [positive, Int.not_lt.mpr positive]
  have whole : (limit.toNat : Int) = limit := by omega
  have size := bound_size C limit.toNat document
  rw [if_neg positive]
  cases bounded : C.bound limit.toNat document with
  | ok stored =>
    rw [bounded] at size
    have fits : C.size document.stripped ≤ limit := by
      have := strips stored
      rw [size.2] at this
      omega
    refine iff_of_true ?_ (.inr ⟨Int.not_le.mp positive, fits⟩)
    have short := size.1
    unfold Codec.size at short
    dsimp only [Except.map]
    omega
  | error err =>
    rw [bounded] at size
    dsimp only at size
    exact ⟨.inl, fun h => h.resolve_right (by omega)⟩

/-- The text of a document without fields whose strings need no escape. -/
def plainDocument (document : EvidenceDocument) : String :=
  "\x7b\"method\":\"" ++ document.method ++ "\",\"route_template\":\"" ++ document.routeTemplate ++
    (if document.contentType = "" then "" else "\",\"content_type\":\"" ++ document.contentType) ++
    "\"\x7d"

def plainCodec : Codec where
  marshalDocument document := (plainDocument document).toList.map fun c => c.toNat.toUInt8
  decodeDocument _ := .error "document"
  marshalFields _ := []
  marshalBody _ := []
  sum256 _ := Vector.replicate 32 0
  toLower := id
  unmarshalFields _ := .error "fields"
  unmarshalBody _ := .error "body"

def typedDocument : EvidenceDocument := ⟨"GET", "/", "application/json", 0, []⟩

theorem content_type_unfit : plainCodec.size typedDocument.envelope = 33 ∧
    plainCodec.marshalBoundedEvidence typedDocument 40 =
      .error "evidence byte limit cannot fit structural envelope" := by
  refine ⟨by decide +kernel, ?_⟩
  simp [Codec.marshalBoundedEvidence, Codec.bound, plainCodec, plainDocument, typedDocument,
    EvidenceDocument.shrink, shrinkEvidenceString, Except.map]

/-- The document is shrunk until it fits. -/
theorem bounded_evidence_fits_typed :
    plainCodec.size typedDocument = 71 ∧ plainCodec.Fitting typedDocument 68 := by
  refine ⟨by decide +kernel, (bounded_evidence_fits_iff plainCodec (fun document => ?_) _ _).mpr
    (.inr (by decide +kernel))⟩
  simp only [Codec.size, plainCodec, plainDocument, EvidenceDocument.stripped, List.length_map,
    String.toList_append, List.length_append, String.toList_empty, List.length_nil]
  omega

/-! ## Reading -/

structure ControlledEvidenceProjection where
  method : Bytes := []
  path : Bytes := []
  contentType : String := ""
  contentLength : Int := 0
  fields : List EvidenceField := []
  deriving DecidableEq

def trafficReviewEvidenceBytes : Nat := 8192

def Codec.project (C : Codec) (projection : ControlledEvidenceProjection)
    (fragment : EvidenceFragment) :
    Except String ControlledEvidenceProjection :=
  match fragment.field with
  | "method" => .ok { projection with method := fragment.content }
  | "path" => .ok { projection with path := fragment.content }
  | "query" => do
      let fields ← C.unmarshalFields fragment.content
      return { projection with fields := projection.fields ++ fields }
  | "body" => do
      let body ← C.unmarshalBody fragment.content
      return { projection with
        contentType := body.contentType
        contentLength := body.contentLength
        fields := projection.fields ++ body.fields }
  | _ => .error "controlled evidence field is unsupported"

abbrev Projections := Table String ControlledEvidenceProjection

def Codec.readFragment (C : Codec) (projections : Projections)
    (fragment : EvidenceFragment) : Except String Projections := do
  ensure (fragment.content.length ≤ trafficReviewEvidenceBytes)
    "controlled evidence fragment is invalid"
  let projection ← C.project ((projections.find? fragment.evidenceHandle).getD {}) fragment
  return projections.set fragment.evidenceHandle projection

def Services.matching (S : Services) (field : EvidenceField) : Bool :=
  field.value.isEmpty || (field.value.length : Int) == field.length &&
      field.digest == S.digest field.value

def Services.checkField (S : Services) (seen : List String)
    (field : EvidenceField) : Except String (List String) := do
  ensure (field.selector != "" && !seen.contains field.selector &&
      0 ≤ field.length && field.length ≤ trafficReviewEvidenceBytes &&
      validSHA256Reference field.digest)
    "controlled evidence projection is invalid"
  ensure (S.matching field) "controlled evidence value does not match metadata"
  return field.selector :: seen

def Services.checkProjection (S : Services)
    (projection : ControlledEvidenceProjection) : Except String Unit := do
  let _ ← projection.fields.foldlM S.checkField []

def Codec.parseControlledEvidence (C : Codec)
    (fragments : List EvidenceFragment) : Except String Projections := do
  let projections ← fragments.foldlM C.readFragment .empty
  projections.rows.forM fun row => C.checkProjection row.2
  return projections

end YuFeng.Evidence

import YuFeng.Edge.Match
import YuFeng.Edge.Paths
import YuFeng.Library.Outcome

/-!
# Positive request shapes

A shape describes the requests that belong to a route.  Its scope is a route
template or, without one, a path prefix; in scope, every constrained parameter
must be present and fit.  The compiled form tells the two scopes apart by the
number of segments of the template, and it reads one value of a parameter.
-/

namespace YuFeng.Edge

open YuFeng.Library List

variable {H : Http} {source : ShapeSource} {compiled shape : CompiledShape}
  {M : Matching} {req : Request} {profile : HttpInspectionProfile}
  {selector value routeTemplate pathPrefix : String}

/-- The codecs of URLs are those of the Go library. -/
structure Http.Standard (H : Http) : Prop where
  pathUnescape : H.pathUnescape = Library.pathUnescape
  queryUnescape : H.queryUnescape = Library.queryUnescape
  parseQuery : H.parseQuery = Library.parseQuery

def Request.view (H : Http) (profile : HttpInspectionProfile)
    (headers : Values) (req : Request) : CanonicalView :=
  canonicalize H req.method req.path req.query headers req.body profile

/-! ## Scope -/

def SegmentFits (wanted segment : String) : Prop :=
  if isPlaceholder wanted then segment ≠ "" else wanted = segment

def InScope (source : ShapeSource) (path : String) : Prop :=
  if source.routeTemplate ≠ "" then
    List.Forall₂ SegmentFits (splitPath source.routeTemplate) (splitPath path)
  else startsWith source.pathPrefix path = true

theorem segments_fit_iff (template segments : List String) :
    (template.length = segments.length && (template.zip segments).all fun pair =>
      if isPlaceholder pair.1 then pair.2 ≠ "" else pair.1 = pair.2) = true ↔
      List.Forall₂ SegmentFits template segments := by
  rw [List.forall₂_iff_zip, Bool.and_eq_true, decide_eq_true_iff, all_eq_true]
  refine and_congr_right fun _ => ⟨fun fits wanted segment paired => ?_, fun fits pair paired => ?_⟩
  · have one := fits (wanted, segment) paired
    unfold SegmentFits
    split at one <;> simp_all
  · have one := fits paired
    unfold SegmentFits at one
    split at one <;> simp_all

theorem compiledRouteMatch_iff (template path) : compiledRouteMatch template path = true ↔
    List.Forall₂ SegmentFits template (splitPath path) := segments_fit_iff template (splitPath path)

theorem decodePath_filled (go : H.pathUnescape = pathUnescape) (profile rounds) {path}
    (filled : path ≠ "") (rejected) : (decodePath H profile rounds path rejected).1 ≠ "" := by
  induction rounds generalizing path rejected with
  | zero => exact filled
  | succ _ ih =>
    rw [decodePath, go]
    cases step : pathUnescape path with
    | none => exact filled
    | some =>
      dsimp only
      split
      · exact filled
      · obtain ⟨_, read, rfl⟩ := Option.map_eq_some_iff.mp step
        have some := unescapeChars_ne_nil (by simpa using filled) read
        exact ih (by simpa using some) _

theorem Request.view_path_filled (go : H.pathUnescape = pathUnescape) (profile headers)
    (req : Request) : (req.view H profile headers).path ≠ "" := by
  rw [Request.view, canonicalize_path, shownPath]
  split
  · simp [normalizePath]
  · apply decodePath_filled go
    unfold startPath
    split
    · simp
    · assumption

/-! ## What a compiled shape applies to -/

theorem compileShape_ok (h : compileShape source = .ok compiled) :
    validateShapeSource source = .ok () ∧ compiled.methods = source.methods.map toUpper ∧
      compiled.route = (if source.routeTemplate = "" then [] else splitPath source.routeTemplate) ∧
      compiled.pathPrefix = source.pathPrefix ∧ compiled.constraints = source.constraints := by
  obtain ⟨_, valid, rfl⟩ := map_ok.mp h
  exact ⟨valid, rfl, rfl, rfl, rfl⟩

/-- The test that `violates` makes before it looks at anything else. -/
def CompiledShape.applies (shape : CompiledShape) (path : String) : Bool :=
  if shape.route ≠ [] then compiledRouteMatch shape.route path
  else startsWith shape.pathPrefix path

variable {view : CanonicalView}

theorem CompiledShape.applies_of_violates (filled : view.path ≠ "")
    (h : shape.violates M req view = true) : shape.applies view.path = true := by
  have path : firstNonEmpty view.path req.path = view.path := if_neg filled
  simp only [violates, path, Bool.and_eq_true] at h
  exact h.1

theorem CompiledShape.violates_of_method (applied : shape.applies view.path = true)
    (filled : view.path ≠ "") (named : view.method ≠ "")
    (other : toUpper view.method ∉ shape.methods) : shape.violates M req view = true := by
  have path : firstNonEmpty view.path req.path = view.path := if_neg filled
  have method : firstNonEmpty view.method (toUpper req.method) =
      view.method := if_neg named
  simp only [applies] at applied
  simp [violates, path, method, applied, other]

theorem CompiledShape.applies_iff (h : compileShape source = .ok compiled)
    (told : source.routeTemplate = "" ∨ splitPath source.routeTemplate ≠ []) (path) :
    compiled.applies path = true ↔ InScope source path := by
  obtain ⟨-, -, route, start, -⟩ := compileShape_ok h
  unfold CompiledShape.applies InScope
  rw [route, start]
  by_cases template : source.routeTemplate = ""
  · simp [template]
  · rw [if_neg template, if_pos (told.resolve_left template), if_pos template,
      compiledRouteMatch_iff]

theorem CompiledShape.applies_slashes (h : compileShape source = .ok compiled)
    (slashes : splitPath source.routeTemplate = []) (path) :
    compiled.applies path = startsWith source.pathPrefix path := by
  obtain ⟨-, -, route, start, -⟩ := compileShape_ok h
  have none : compiled.route = [] := by
    rw [route, slashes, ite_self]
  rw [CompiledShape.applies, if_neg (not_not.mpr none), start]

theorem splitPath_below (path) : splitPath (path ++ "/x") ≠ [] := by
  have text : (path ++ "/x").toList = path.toList ++ '/' :: ['x'] := String.toList_append
  have segment : "x" ∈ splitPath (path ++ "/x") := by
    have last : ['x'].splitOn '/' = [['x']] := by decide
    rw [splitPath, splitText, text, splitOn_append_cons_self, last]
    simp
  exact ne_nil_of_mem segment

theorem exists_other_method (methods : List String) :
    ∃ method, method ≠ "" ∧ toUpper method = method ∧ method ∉ methods := by
  obtain ⟨_, fresh⟩ := exists_run_not_mem 'X' methods
  exact ⟨_, by simp [replicate_succ], by simp [toUpper], fresh⟩

theorem shape_scope_iff (H : Http) (go : H.pathUnescape = pathUnescape)
    (M : Matching) (source : ShapeSource) (compiled : CompiledShape)
    (accepted : compileShape source = .ok compiled) :
    (∀ (profile : HttpInspectionProfile) (headers : Values) (req : Request),
      compiled.violates M req (req.view H profile headers) = true →
        InScope source (req.view H profile headers).path) ↔
    (source.routeTemplate = "" ∨ splitPath source.routeTemplate ≠ []) := by
  constructor
  · intro sound
    by_contra slashes
    rw [not_or, not_not] at slashes
    obtain ⟨method, _, upper, _⟩ := exists_other_method compiled.methods
    let path := source.pathPrefix ++ "/x"
    let req : Request := ⟨"", "", method, path, "", [], [], ""⟩
    have shown : (req.view H emptyInspectionProfile []).path = path := by
      have filled : path ≠ "" := by simp [path]
      rw [Request.view, canonicalize_path, startPath, if_neg filled]
      rfl
    have told : (req.view H emptyInspectionProfile []).method = method := upper
    have violated : compiled.violates M req (req.view H emptyInspectionProfile []) = true := by
      apply CompiledShape.violates_of_method
      · rw [shown, CompiledShape.applies_slashes accepted slashes.2]
        simp [startsWith, path]
      · exact req.view_path_filled go emptyInspectionProfile []
      · rwa [told]
      · rwa [told, upper]
    have within := sound emptyInspectionProfile [] req violated
    rw [InScope, if_pos slashes.1, slashes.2, shown, List.forall₂_nil_left_iff] at within
    exact splitPath_below source.pathPrefix within
  · intro told profile headers req violated
    have filled := req.view_path_filled go profile headers
    exact (CompiledShape.applies_iff accepted told _).mp
      (CompiledShape.applies_of_violates filled violated)

def asciiMatching : Matching where
  compiles _ := none
  matchString _ _ := false
  queryUnescape := queryUnescape
  text _ := ""
  jsonField _ _ := none
  isDigit c := c.isDigit
  isLetter c := c.isAlpha

def userShape : ShapeSource := ⟨["GET"], "/users/\x7bid\x7d", "", []⟩

def rootShape : ShapeSource := ⟨["GET"], "/", "", []⟩

def loginRequest : Request := ⟨"shop", "edge-1", "POST", "/login", "", [], [], ""⟩

theorem shape_scope_iff_user : ∃ compiled, compileShape userShape = .ok compiled ∧
      ((∀ (profile : HttpInspectionProfile) (headers : Values) (req : Request),
        compiled.violates asciiMatching req (req.view pathHttp profile headers) = true →
          InScope userShape (req.view pathHttp profile headers).path) ↔
        (userShape.routeTemplate = "" ∨ splitPath userShape.routeTemplate ≠ [])) :=
  ⟨_, rfl, shape_scope_iff pathHttp rfl asciiMatching userShape _ rfl⟩

/-- The template of the root takes in every path. -/
theorem root_shape_everywhere :
    ∃ compiled, compileShape rootShape = .ok compiled ∧ compiled.violates asciiMatching loginRequest
        (loginRequest.view pathHttp defaultInspectionProfile []) = true ∧
      (loginRequest.view pathHttp defaultInspectionProfile []).path = "/login" ∧
      ¬InScope rootShape (loginRequest.view pathHttp defaultInspectionProfile []).path := by
  refine ⟨_, rfl, by decide +kernel, by decide +kernel, ?_⟩
  have root : splitPath rootShape.routeTemplate = [] := by decide +kernel
  rw [InScope, if_pos (by decide), root, List.forall₂_nil_left_iff]
  decide +kernel

/-! ## The values of a selector -/

def selectorKind (selector : String) : String :=
  toLower (String.ofList (selector.toList.takeWhile (· ≠ '.')))

def selectorName (selector : String) : String :=
  String.ofList (selector.toList.drop ((selector.toList.takeWhile (· ≠ '.')).length + 1))

def heldValues (view : CanonicalView) (selector : String) : List String :=
  match selectorKind selector with
  | "query" => (view.query.lookup (selectorName selector)).getD []
  | "header" =>
    (view.headers.lookup (toLower (selectorName selector))).getD []
  | _ => []

structure ShapeConstraint.Fits (M : Matching) (c : ShapeConstraint)
    (value : String) : Prop where
  atLeast : c.minLen ≤ value.utf8ByteSize
  atMost : value.utf8ByteSize ≤ c.maxLen
  charset : charsetOK M c.charset value = true

def HttpInspectionProfile.singles (profile : HttpInspectionProfile) : Prop :=
  (profile.duplicateQuery = "first" ∨ profile.duplicateQuery = "last") ∧
    profile.duplicateHeader ≠ "combine"

def Single (values : Values) : Prop := ∀ name held, values.lookup name = some held → held.length ≤ 1

theorem canonicalHeaders_single (one : profile.duplicateHeader ≠ "combine") (headers) :
    Single (canonicalHeaders profile headers) := by
  have short (values : List String) :
      (pickDuplicate values profile.duplicateHeader).length ≤ 1 := by
    unfold pickDuplicate
    split
    · cases values.getLast? <;> simp
    · cases values.head? <;> simp
  have step : ∀ kept : Values, Single kept → Single (headers.foldl (fun kept entry =>
        put (toLower entry.1) (pickDuplicate entry.2 profile.duplicateHeader) kept) kept) := by
    induction headers with
    | nil => exact fun kept single => single
    | cons entry _ ih =>
      intro _ single
      apply ih
      intro name held found
      by_cases same : name = toLower entry.1
      · rw [same, lookup_put_self] at found
        cases found
        exact short entry.2
      · rw [lookup_put_of_ne same] at found
        exact single name held found
  apply step
  intro _ _ found
  cases found

theorem foldDuplicates_single {mode} (one : mode = "first" ∨ mode = "last") (query) :
    ∀ entry ∈ foldDuplicates mode query, entry.2.length ≤ 1 := by
  have kept : ∃ pick : List String → Option String,
      foldDuplicates mode query = query.filterMap fun entry =>
        (pick entry.2).map fun v => (entry.1, [v]) := by
    rcases one with rfl | rfl
    · exact ⟨List.head?, rfl⟩
    · exact ⟨List.getLast?, rfl⟩
  obtain ⟨_, folded⟩ := kept
  rw [folded]
  intro _ member
  obtain ⟨_, _, picked⟩ := mem_filterMap.mp member
  obtain ⟨_, _, rfl⟩ := Option.map_eq_some_iff.mp picked
  simp

theorem canonicalQuery_single
    (one : profile.duplicateQuery = "first" ∨ profile.duplicateQuery = "last") (rawQuery) :
    Single (canonicalQuery H profile rawQuery).1 := by
  intro name held found
  obtain ⟨_, _, split, _⟩ := lookup_eq_some_iff.mp found
  have member : (name, held) ∈ (canonicalQuery H profile rawQuery).1 := by
    rw [split]
    simp
  simp only [canonicalQuery] at member
  obtain ⟨entry, present, same⟩ := mem_map.mp member
  cases same
  rw [length_map]
  exact foldDuplicates_single one _ entry present

theorem selectorValue_query (kind : selectorKind selector = "query") (M req view) :
    selectorValue M selector req view =
      if selectorName selector = "" then none
      else (view.query.lookup (selectorName selector)).map (·.headD "") := by
  unfold selectorKind at kind
  simp only [selectorValue, kind]
  rfl

theorem selectorValue_header (kind : selectorKind selector = "header") (M req view) :
    selectorValue M selector req view =
      if selectorName selector = "" then none
      else match (view.headers.lookup (toLower (selectorName selector))).getD [] with
        | value :: _ => some value
        | [] => (req.headers.lookup (selectorName selector)).or
            (req.headers.lookup (toLower (selectorName selector))) := by
  unfold selectorKind at kind
  simp only [selectorValue, kind]
  rfl

theorem Single.lookup {values} (single : Single values) {name}
    (member : value ∈ (values.lookup name).getD []) : values.lookup name = some [value] := by
  cases found : values.lookup name with
  | none => simp [found] at member
  | some held =>
    have short := single name held found
    rw [found, Option.getD_some] at member
    match held, short, member with
    | [only], _, member => rw [mem_singleton.mp member]

theorem selectorValue_held {other} (query : Single view.query) (headers : Single view.headers)
    (held : other ∈ heldValues view selector)
    (read : selectorValue M selector req view = some value) : other = value := by
  unfold heldValues at held
  split at held
  next kind =>
    rw [selectorValue_query kind, query.lookup held] at read
    split at read
    · cases read
    · exact Option.some.inj read
  next kind =>
    rw [selectorValue_header kind, headers.lookup held] at read
    split at read
    · cases read
    · exact Option.some.inj read
  · cases held

theorem CompiledShape.fits_of_not_violates (filled : view.path ≠ "")
    (applied : shape.applies view.path = true) (h : shape.violates M req view = false) {c}
    (member : c ∈ shape.constraints) :
    ∃ value, selectorValue M c.selector req view = some value ∧ c.Fits M value := by
  have path : firstNonEmpty view.path req.path = view.path := if_neg filled
  simp only [applies] at applied
  simp only [violates, path, applied, Bool.true_and, Bool.or_eq_false_iff, any_eq_false] at h
  have passed := h.2 c member
  cases read : selectorValue M c.selector req view with
  | none => simp [read] at passed
  | some value =>
    refine ⟨value, rfl, ?_⟩
    simp only [read, Option.all_some, Bool.or_eq_true, not_or,
      decide_eq_true_eq, Bool.not_eq_true', Bool.not_eq_false] at passed
    exact ⟨by omega, by omega, passed.2⟩

/--
Every valid shape with this scope constrains all values of a request in it.
-/
def ConstrainsAll (H : Http) (M : Matching) (profile : HttpInspectionProfile)
    (routeTemplate pathPrefix : String) : Prop :=
  ∀ (methods : List String) (constraints : List ShapeConstraint) (compiled : CompiledShape),
    compileShape ⟨methods, routeTemplate, pathPrefix, constraints⟩ = .ok compiled →
    ∀ (headers : Values) (req : Request), InScope ⟨methods, routeTemplate, pathPrefix, constraints⟩
        (req.view H profile headers).path →
      compiled.violates M req (req.view H profile headers) = false →
      ∀ c ∈ constraints, ∀ value ∈ heldValues (req.view H profile headers) c.selector,
          c.Fits M value

theorem constrainsAll_of_singles (go : H.pathUnescape = pathUnescape)
    (told : routeTemplate = "" ∨ splitPath routeTemplate ≠ [] ∨
      pathPrefix = "") (one : profile.singles) :
    ConstrainsAll H M profile routeTemplate pathPrefix := by
  intro _ _ compiled accepted headers req within passed c member _ held
  have filled := req.view_path_filled go profile headers
  have applied : compiled.applies (req.view H profile headers).path = true := by
    by_cases slashes : routeTemplate = "" ∨ splitPath routeTemplate ≠ []
    · exact (CompiledShape.applies_iff accepted slashes _).mpr within
    · rw [not_or, not_not] at slashes
      have everywhere : pathPrefix = "" :=
        (told.resolve_left slashes.1).resolve_left (not_not.mpr slashes.2)
      rw [CompiledShape.applies_slashes accepted slashes.2, everywhere]
      simp [startsWith]
  have constrained : c ∈ compiled.constraints := by
    rw [(compileShape_ok accepted).2.2.2.2]
    exact member
  obtain ⟨_, selected, fits⟩ := CompiledShape.fits_of_not_violates filled applied passed constrained
  have query : Single (req.view H profile headers).query := canonicalQuery_single one.1 req.query
  have kept : Single (req.view H profile headers).headers := canonicalHeaders_single one.2 headers
  rw [selectorValue_held query kept held selected]
  exact fits

/-! ## Values that nothing looks at -/

def oneCharacter (selector : String) : ShapeConstraint := ⟨selector, 1, 1, ""⟩

theorem oneCharacter_fits (M selector) : (oneCharacter selector).Fits M "1" :=
  ⟨show (1 : Int) ≤ "1".utf8ByteSize by decide,
    show ("1".utf8ByteSize : Int) ≤ 1 by decide, by simp [oneCharacter, charsetOK]⟩

theorem oneCharacter_not_empty (M selector) : ¬(oneCharacter selector).Fits M "" := by
  intro fits
  have short := fits.atLeast
  simp [oneCharacter] at short

theorem validateShapeSource_ok : validateShapeSource source = .ok () ↔ source.methods ≠ [] ∧
      ¬(source.routeTemplate = "" ∧ source.pathPrefix = "") ∧
      ¬(source.pathPrefix ≠ "" ∧ (splitPath source.pathPrefix).length < 2) ∧
      source.constraints.length ≤ 16 ∧ ∀ c ∈ source.constraints, validateConstraint c = .ok () := by
  simp only [validateShapeSource, guard_ok, forM_ok, Nat.not_lt, ne_eq]

theorem compileShape_constrained
    (valid : validateShapeSource ⟨["GET"], routeTemplate, pathPrefix, []⟩ =
      .ok ()) (selector) (named : selector ≠ "") :
    ∃ compiled, compileShape ⟨["GET"], routeTemplate, pathPrefix,
        [oneCharacter selector]⟩ = .ok compiled ∧
      compiled.methods = ["GET"] ∧ compiled.constraints = [oneCharacter selector] := by
  have constraint : validateConstraint (oneCharacter selector) = .ok () := by
    simp [validateConstraint, oneCharacter, named]
  have valid' : validateShapeSource ⟨["GET"], routeTemplate, pathPrefix,
      [oneCharacter selector]⟩ = .ok () := by
    rw [validateShapeSource_ok] at valid ⊢
    simpa [constraint] using valid
  have upper : ["GET"].map toUpper = ["GET"] := by decide
  exact ⟨_, by rw [compileShape, valid']; rfl, upper, rfl⟩

theorem CompiledShape.passes (filled : view.path ≠ "") (method : view.method = "GET")
    (methods : shape.methods = ["GET"])
    (constraints : shape.constraints = [oneCharacter selector])
    (read : selectorValue M selector req view = some "1") : shape.violates M req view = false := by
  have upper : toUpper "GET" = "GET" := by decide
  have path : firstNonEmpty view.path req.path = view.path := if_neg filled
  have told : firstNonEmpty view.method (toUpper req.method) = "GET" := by
    rw [method]
    rfl
  have fits := oneCharacter_fits M selector
  have low : ¬(("1".utf8ByteSize : Int) < (oneCharacter selector).minLen) := by
    have := fits.atLeast
    omega
  have high : ¬((oneCharacter selector).maxLen < ("1".utf8ByteSize : Int)) := by
    have := fits.atMost
    omega
  have selected : selectorValue M (oneCharacter selector).selector req view = some "1" := read
  simp [violates, told, upper, methods, constraints, selected, low, high, fits.charset]

def canonicalPath (H : Http) (profile : HttpInspectionProfile) (rawPath : String) : String :=
  shownPath profile (decodePath H profile profile.percentDecodeRounds.toNat
    (startPath rawPath) false).1

theorem not_constrainsAll (go : H.pathUnescape = pathUnescape)
    (valid : validateShapeSource ⟨["GET"], routeTemplate, pathPrefix, []⟩ =
      .ok ()) (selector) (named : selector ≠ "") (headers) (req : Request)
    (method : req.method = "GET")
    (within : InScope ⟨[], routeTemplate, pathPrefix, []⟩ (canonicalPath H profile req.path))
    (read : selectorValue M selector req (req.view H profile headers) =
      some "1") (held : "" ∈ heldValues (req.view H profile headers) selector) :
    ¬ConstrainsAll H M profile routeTemplate pathPrefix := by
  intro all
  obtain ⟨compiled, accepted, methods, constraints⟩ := compileShape_constrained valid selector named
  have told : (req.view H profile headers).method = "GET" := by
    change toUpper req.method = "GET"
    rw [method]
    decide
  have passed := CompiledShape.passes (M := M)
    (req.view_path_filled go profile headers) told methods constraints read
  have fits := all _ _ compiled accepted headers req within passed
    (oneCharacter selector) mem_cons_self "" held
  exact oneCharacter_not_empty M selector fits

theorem canonicalPath_root (go : H.pathUnescape = pathUnescape) (profile) :
    canonicalPath H profile "/" = "/" := by
  have read : pathUnescape "/" = some "/" := by decide
  have decoded : (decodePath H profile profile.percentDecodeRounds.toNat "/" false).1 = "/" := by
    cases profile.percentDecodeRounds.toNat with
    | zero => rfl
    | succ => simp [decodePath, go, read]
  have start : startPath "/" = "/" := by decide
  have normal : normalizePath "/" = "/" := by decide
  rw [canonicalPath, start, decoded, shownPath]
  split
  · exact normal
  · rfl

theorem startsWith_root (wide : ¬(pathPrefix ≠ "" ∧ (splitPath pathPrefix).length < 2))
    (filled : pathPrefix ≠ "") : startsWith pathPrefix "/" = false := by
  rw [Bool.eq_false_iff]
  intro start
  have chars : pathPrefix.toList <+: ['/'] := isPrefixOf_iff_prefix.mp start
  have root : pathPrefix = "/" := by
    rcases prefix_cons_iff.mp chars with empty | ⟨_, cons, tail⟩
    · exact absurd (String.toList_eq_nil_iff.mp empty) filled
    · rw [prefix_nil.mp tail] at cons
      exact String.toList_inj.mp cons
  apply wide
  rw [root]
  decide

theorem decodeValue_fixed (fixed : H.queryUnescape value = some value) (rounds : Nat) :
    decodeValue H rounds value = value := by
  cases rounds with
  | zero => rfl
  | succ => simp [decodeValue, fixed]

theorem canonicalQuery_repeated (go : H.Standard) (all : ¬(profile.duplicateQuery = "first" ∨
      profile.duplicateQuery = "last")) :
    (canonicalQuery H profile "a=1&a=").1 = [("a", ["1", ""])] := by
  have parsed : H.parseQuery "a=1&a=" = some [("a", ["1", ""])] := by
    rw [go.parseQuery]
    decide
  have one : H.queryUnescape "1" = some "1" := by
    rw [go.queryUnescape]
    decide
  have none : H.queryUnescape "" = some "" := by
    rw [go.queryUnescape]
    decide
  rw [not_or] at all
  simp [canonicalQuery, parsed, foldDuplicates, all, decodeValue_fixed one, decodeValue_fixed none]

theorem query_a : selectorKind "query.a" = "query" ∧ selectorName "query.a" = "a" := by
  decide +kernel

theorem header_a : selectorKind "header.X-A" = "header" ∧ selectorName "header.X-A" = "X-A" := by
  decide +kernel

section

variable (go : H.Standard)
  (valid : validateShapeSource ⟨["GET"], routeTemplate, pathPrefix, []⟩ = .ok ())

include go valid

theorem not_constrainsAll_query {rawPath}
    (within : InScope ⟨[], routeTemplate, pathPrefix, []⟩ (canonicalPath H profile rawPath))
    (all : ¬(profile.duplicateQuery = "first" ∨ profile.duplicateQuery = "last")) :
    ¬ConstrainsAll H M profile routeTemplate pathPrefix := by
  let req : Request := ⟨"", "", "GET", rawPath, "a=1&a=", [], [], ""⟩
  have values : (req.view H profile []).query = [("a", ["1", ""])] := canonicalQuery_repeated go all
  apply not_constrainsAll go.pathUnescape valid "query.a" (by decide) [] req rfl within
  · rw [selectorValue_query query_a.1, query_a.2, values]
    rfl
  · unfold heldValues
    rw [query_a.1, query_a.2, values]
    simp

theorem not_constrainsAll_header {rawPath}
    (within : InScope ⟨[], routeTemplate, pathPrefix, []⟩ (canonicalPath H profile rawPath))
    (combined : profile.duplicateHeader = "combine") :
    ¬ConstrainsAll H M profile routeTemplate pathPrefix := by
  let req : Request := ⟨"", "", "GET", rawPath, "", [], [], ""⟩
  have lower : toLower "X-A" = "x-a" := by decide +kernel
  have headers : (req.view H profile [("X-A", ["1", ""])]).headers = [("x-a", ["1", ""])] := by
    change canonicalHeaders profile [("X-A", ["1", ""])] = _
    simp [canonicalHeaders, combined, pickDuplicate, put, lower]
  apply not_constrainsAll go.pathUnescape valid "header.X-A" (by decide)
    [("X-A", ["1", ""])] req rfl within
  · rw [selectorValue_header header_a.1, header_a.2, headers, lower]
    rfl
  · unfold heldValues
    rw [header_a.1, header_a.2, headers, lower]
    simp

theorem not_constrainsAll_root (template : routeTemplate ≠ "")
    (slashes : splitPath routeTemplate = []) (filled : pathPrefix ≠ "") :
    ¬ConstrainsAll H M profile routeTemplate pathPrefix := by
  intro all
  have wide := (validateShapeSource_ok.mp valid).2.2.1
  obtain ⟨compiled, accepted, _, _⟩ := compileShape_constrained valid "header.X-A" (by decide)
  let req : Request := ⟨"", "", "GET", "/", "", [], [], ""⟩
  have root : (req.view H profile [("X-A", [""])]).path = "/" :=
    canonicalPath_root go.pathUnescape profile
  have lower : toLower "X-A" = "x-a" := by decide +kernel
  have headers : (req.view H profile [("X-A", [""])]).headers = [("x-a", [""])] := by
    change canonicalHeaders profile [("X-A", [""])] = _
    simp [canonicalHeaders, pickDuplicate, put, lower]
  have within : InScope ⟨["GET"], routeTemplate, pathPrefix, [oneCharacter "header.X-A"]⟩
      (req.view H profile [("X-A", [""])]).path := by
    rw [InScope, if_pos template, slashes, root, List.forall₂_nil_left_iff]
    decide
  have passed : compiled.violates M req (req.view H profile [("X-A", [""])]) = false := by
    rw [Bool.eq_false_iff]
    intro violated
    have applied := CompiledShape.applies_of_violates
      (req.view_path_filled go.pathUnescape profile _) violated
    rw [CompiledShape.applies_slashes accepted slashes, root,
      startsWith_root wide filled] at applied
    cases applied
  have held : "" ∈ heldValues (req.view H profile [("X-A", [""])]) "header.X-A" := by
    unfold heldValues
    rw [header_a.1, header_a.2, headers, lower]
    simp
  exact oneCharacter_not_empty M _
    (all _ _ compiled accepted _ req within passed _ mem_cons_self "" held)

end

theorem constrains_all_values_iff (H : Http) (go : H.Standard) (M : Matching)
    (profile : HttpInspectionProfile) (routeTemplate pathPrefix : String)
    (valid : validateShapeSource ⟨["GET"], routeTemplate, pathPrefix, []⟩ = .ok ()) :
    ConstrainsAll H M profile routeTemplate pathPrefix ↔
      (routeTemplate = "" ∨ splitPath routeTemplate ≠ [] ∨ pathPrefix = "") ∧ (profile.singles ∨
        ∀ rawPath, ¬InScope ⟨[], routeTemplate, pathPrefix, []⟩
          (canonicalPath H profile rawPath)) := by
  constructor
  · intro all
    constructor
    · by_contra slashes
      simp only [not_or, not_not] at slashes
      exact not_constrainsAll_root go valid slashes.1 slashes.2.1 slashes.2.2 all
    · by_contra kept
      simp only [not_or, not_forall, not_not] at kept
      obtain ⟨repeated, _, within⟩ := kept
      by_cases query : profile.duplicateQuery = "first" ∨ profile.duplicateQuery = "last"
      · have combined : profile.duplicateHeader = "combine" := by
          by_contra other
          exact repeated ⟨query, other⟩
        exact not_constrainsAll_header go valid within combined all
      · exact not_constrainsAll_query go valid within query all
  · rintro ⟨told, one | unreachable⟩
    · exact constrainsAll_of_singles go.pathUnescape told one
    · intro _ _ _ _ _ req within
      exact absurd within (unreachable req.path)

def urlHttp : Http :=
  { pathHttp with queryUnescape := queryUnescape, parseQuery := parseQuery }

theorem constrains_all_values_iff_users :
    ConstrainsAll urlHttp asciiMatching defaultInspectionProfile "/users/\x7bid\x7d" "" ↔
      ("/users/\x7bid\x7d" = "" ∨ splitPath "/users/\x7bid\x7d" ≠ [] ∨ "" = "") ∧
      (defaultInspectionProfile.singles ∨ ∀ rawPath, ¬InScope ⟨[], "/users/\x7bid\x7d", "", []⟩
          (canonicalPath urlHttp defaultInspectionProfile rawPath)) :=
  constrains_all_values_iff urlHttp ⟨rfl, rfl, rfl⟩ asciiMatching
    defaultInspectionProfile "/users/\x7bid\x7d" "" (by decide +kernel)

def repeatingProfile : HttpInspectionProfile :=
  { defaultInspectionProfile with duplicateQuery := "combine" }

def pageConstraint : ShapeConstraint := ⟨"query.page", 1, 4, "digit"⟩

def pageShape : ShapeSource := ⟨["GET"], "/users/\x7bid\x7d", "", [pageConstraint]⟩

def pageRequest : Request :=
  ⟨"shop", "edge-1", "GET", "/users/7", "page=1&page='--", [], [], ""⟩

/-- The second page is not a number. -/
theorem second_value_unchecked : ∃ compiled, compileShape pageShape = .ok compiled ∧
      InScope pageShape (pageRequest.view urlHttp repeatingProfile []).path ∧
      compiled.violates asciiMatching pageRequest
        (pageRequest.view urlHttp repeatingProfile []) = false ∧
      heldValues (pageRequest.view urlHttp repeatingProfile [])
        pageConstraint.selector = ["1", "'--"] ∧
      ¬pageConstraint.Fits asciiMatching "'--" := by
  refine ⟨_, rfl, ?_, by decide +kernel, by decide +kernel, ?_⟩
  · rw [InScope, if_pos (by decide), ← compiledRouteMatch_iff]
    decide +kernel
  · intro fits
    have digits := fits.charset
    revert digits
    decide +kernel

end YuFeng.Edge

import YuFeng.Edge.Restart

/-!
# Two shells before one gate

A request reaches the gate through the reverse proxy or through the external
authorization endpoint.  Each shell reads the body, builds the canonical view
and asks the gate.  The circuit breaker, the limit on requests in flight and
the timeout of the authorization call decide whether a request is served at
all; what is modelled is how a served request is judged.
-/

namespace YuFeng.Edge

open YuFeng.Library List

variable {r : HttpRequest} {key : String} {P : Platform} {headers : Values} {set : ReleaseSet}
  {p : ReleaseProxy} {e : ExtAuthz}

structure HttpRequest where
  method : String
  path : String
  rawQuery : String
  host : String
  headers : Values
  /-- The server has brought every key into its canonical spelling. -/
  distinct : (headers.map fun row => toLower row.1).Nodup
  /-- What can be read from the connection. -/
  body : Bytes
  /-- Negative where it is not known. -/
  contentLength : Int
  remoteAddr : String

/-- The body for inspection, whether it is oversize, and its total size. -/
def readInspectionBody (r : HttpRequest) : Bytes × Bool × Int :=
  let announced : Bool := engineBodyLimit < r.contentLength
  let total : Int := if announced then r.contentLength else 0
  let buf := r.body.take (engineBodyLimit + 1)
  let counted : Int := if total = 0 then buf.length else total
  if engineBodyLimit < buf.length then
    (buf.take engineBodyLimit, true, counted)
  else (buf, announced, counted)

def flattenHeaders (headers : Values) : List (String × String) :=
  headers.filterMap fun row => row.2.head?.map (row.1, ·)

def envoyAuthPartialBodyHeader : String := "X-Envoy-Auth-Partial-Body"

def envoyAuthBodyPartial (headers : Values) : Bool :=
  ((headers.lookup envoyAuthPartialBodyHeader).getD []).any fun value =>
    (splitText ',' value).any fun part => equalFold (trimSpace part) "true"

def deleteHeader {α : Type} (name : String) (headers : List (String × α)) : List (String × α) :=
  headers.filter fun row => row.1 ≠ name

def setHost {α : Type} (host : String) (value : α)
    (headers : List (String × α)) : List (String × α) :=
  if host = "" then headers else put "Host" value headers

def markBodyAbsent (view : CanonicalView) : CanonicalView :=
  { view with coverage := view.coverage.map fun c =>
      if c.target = .body then { c with status := .absent, inspected := 0 }
      else c }

/-- What a shell makes of a request; without a decision, the gate was not
asked. -/
structure Checked where
  view : CanonicalView
  decision : Option Decision

/-! ## The reverse proxy -/

structure ReleaseProxy where
  assetId : String
  unitId : String
  /-- The client address that the listen plan trusts. -/
  source : String → Values → String

def ReleaseProxy.view (P : Platform) (set : ReleaseSet) (r : HttpRequest) : CanonicalView :=
  let (body, oversize, total) := readInspectionBody r
  let view := canonicalize P.http r.method r.path r.rawQuery
    (setHost r.host [r.host] r.headers) body set.profileOrDefault
  if oversize then markBodyPartial view body.length total.toNat else view

def ReleaseProxy.request (p : ReleaseProxy) (r : HttpRequest) : Request where
  assetId := p.assetId
  unitId := p.unitId
  method := r.method
  path := r.path
  query := r.rawQuery
  headers := setHost r.host r.host (flattenHeaders r.headers)
  body := (readInspectionBody r).1
  clientAddress := p.source r.remoteAddr r.headers

def ReleaseProxy.check (P : Platform) (now : Int) (set : ReleaseSet)
    (p : ReleaseProxy) (r : HttpRequest) : Checked where
  view := ReleaseProxy.view P set r
  decision := some (inspectThenGate P now set (p.request r) (ReleaseProxy.view P set r)).1

/-! ## External authorization -/

structure ExtAuthz where
  assetId : String
  unitId : String
  source : String → Values → String

def ExtAuthz.body (r : HttpRequest) : Bytes × Bool × Int :=
  let (body, oversize, total) := readInspectionBody r
  if envoyAuthBodyPartial r.headers then
    (body, true, if total ≤ body.length then body.length + 1 else total)
  else (body, oversize, total)

def ExtAuthz.view (P : Platform) (r : HttpRequest) : CanonicalView :=
  let (body, oversize, total) := ExtAuthz.body r
  let view := canonicalize P.http r.method r.path r.rawQuery (setHost r.host [r.host]
      (deleteHeader envoyAuthPartialBodyHeader r.headers))
    body defaultInspectionProfile
  let view := if oversize then markBodyPartial view body.length total.toNat else view
  if 0 < r.contentLength ∧ body = [] then markBodyAbsent view else view

def ExtAuthz.request (e : ExtAuthz) (r : HttpRequest) : Request where
  assetId := e.assetId
  unitId := e.unitId
  method := r.method
  path := r.path
  query := r.rawQuery
  headers := setHost r.host r.host
    (deleteHeader envoyAuthPartialBodyHeader (flattenHeaders r.headers))
  body := (ExtAuthz.body r).1
  clientAddress := e.source r.remoteAddr r.headers

def ExtAuthz.check (P : Platform) (now : Int) (set : ReleaseSet)
    (e : ExtAuthz) (r : HttpRequest) : Checked where
  view := ExtAuthz.view P r
  decision :=
    if (ExtAuthz.body r).2.1 ∧ (ExtAuthz.body r).1 ≠ [] then none
    else if (ExtAuthz.view P r).rejected then none
    else some (inspectThenGate P now set (e.request r) (ExtAuthz.view P r)).1

/-! ## Where the shells agree -/

/-- The body fits the limit of the engine. -/
structure WithinLimits (r : HttpRequest) : Prop where
  announced : r.contentLength ≤ engineBodyLimit
  received : r.body.length ≤ engineBodyLimit

/-- The same view, the same detections and the same action of the gate. -/
structure SamePlane (first second : Checked) : Prop where
  view : first.view = second.view
  detections : first.decision.map (·.inspection.detections) =
    second.decision.map (·.inspection.detections)
  action : first.decision.map (·.action) = second.decision.map (·.action)

def defaultView (P : Platform) (r : HttpRequest) : CanonicalView :=
  canonicalize P.http r.method r.path r.rawQuery
    (setHost r.host [r.host] r.headers) r.body defaultInspectionProfile

theorem readInspectionBody_within (h : WithinLimits r) :
    readInspectionBody r = (r.body, false, (r.body.length : Int)) := by
  have announced : ¬ (engineBodyLimit : Int) < r.contentLength := by
    have := h.announced
    omega
  have whole : r.body.take (engineBodyLimit + 1) = r.body := by
    apply take_of_length_le
    have := h.received
    omega
  have fits : ¬ engineBodyLimit < r.body.length := by
    have := h.received
    omega
  simp [readInspectionBody, announced, whole, fits]

theorem markBodyAbsent_empty (H method path query headers profile) :
    markBodyAbsent (canonicalize H method path query headers [] profile) =
      canonicalize H method path query headers [] profile := by
  have content : (checkContent H profile headers []).1 = [] := by
    simp only [checkContent]
    split
    · split <;> rfl
    · rfl
  simp [markBodyAbsent, canonicalize, decodeBody, bodyCoverage, content]

theorem mem_keys_canonicalHeaders {profile} :
    key ∈ (canonicalHeaders profile headers).map Prod.fst ↔
      ∃ name ∈ headers.map Prod.fst, toLower name = key := by
  have general : ∀ kept : Values, key ∈ (headers.foldl (fun kept entry => put (toLower entry.1)
        (pickDuplicate entry.2 profile.duplicateHeader) kept) kept).map Prod.fst ↔
        key ∈ kept.map Prod.fst ∨ ∃ name ∈ headers.map Prod.fst, toLower name = key := by
    induction headers with
    | nil => simp
    | cons _ _ ih =>
      intro _
      rw [foldl_cons, ih, mem_keys_put, map_cons,
        exists_mem_cons_iff, @eq_comm _ key, or_assoc, or_left_comm]
  rw [canonicalHeaders, general []]
  simp

theorem canonicalize_profileDigest (H : Http) (method path query headers body profile) :
    (canonicalize H method path query headers body profile).profileDigest =
      H.profileDigest profile := by
  simp [canonicalize]

theorem canonicalize_headers (H method path query headers body profile) :
    (canonicalize H method path query headers body profile).headers =
      canonicalHeaders profile headers := by
  simp [canonicalize]

theorem proxyView_within (h : WithinLimits r) :
    ReleaseProxy.view P set r = canonicalize P.http r.method r.path r.rawQuery
        (setHost r.host [r.host] r.headers) r.body set.profileOrDefault := by
  simp [ReleaseProxy.view, readInspectionBody_within h]

theorem extView_fields (P : Platform) (r : HttpRequest) :
    (ExtAuthz.view P r).profileDigest = P.http.profileDigest defaultInspectionProfile ∧
      (ExtAuthz.view P r).headers =
        canonicalHeaders defaultInspectionProfile (setHost r.host [r.host]
          (deleteHeader envoyAuthPartialBodyHeader r.headers)) := by
  have partialFields : ∀ (view : CanonicalView) (inspected total : Nat),
      (markBodyPartial view inspected total).profileDigest = view.profileDigest ∧
        (markBodyPartial view inspected total).headers = view.headers := by
    intro _ _ _
    unfold markBodyPartial
    split <;> exact ⟨rfl, rfl⟩
  have absentFields : ∀ view : CanonicalView,
      (markBodyAbsent view).profileDigest = view.profileDigest ∧
        (markBodyAbsent view).headers = view.headers :=
    fun _ => ⟨rfl, rfl⟩
  simp only [ExtAuthz.view]
  split <;> split <;>
    simp [partialFields, absentFields, canonicalize]

theorem deleteHeader_absent {α : Type} {name} {headers : List (String × α)}
    (h : name ∉ headers.map Prod.fst) : deleteHeader name headers = headers := by
  rw [deleteHeader, filter_eq_self]
  intro _ present
  simp only [ne_eq, decide_not, Bool.not_eq_eq_eq_not, Bool.not_true, decide_eq_false_iff_not]
  rintro rfl
  exact h (mem_map_of_mem present)

theorem mem_keys_setHost {α : Type} {host value} {headers : List (String × α)} :
    key ∈ (setHost host value headers).map Prod.fst ↔
      host ≠ "" ∧ key = "Host" ∨ key ∈ headers.map Prod.fst := by
  unfold setHost
  split
  next unset => simp [unset]
  next named => simp only [mem_keys_put, named, ne_eq, not_false_eq_true, true_and]

def marked (r : HttpRequest) : Prop := envoyAuthPartialBodyHeader ∈ r.headers.map Prod.fst

theorem flattenHeaders_keys (h : key ∉ headers.map Prod.fst) :
    key ∉ (flattenHeaders headers).map Prod.fst := by
  intro present
  obtain ⟨⟨_, _⟩, flat, rfl⟩ := mem_map.mp present
  obtain ⟨_, member, first⟩ := mem_filterMap.mp flat
  obtain ⟨_, -, same⟩ := Option.map_eq_some_iff.mp first
  rw [← congrArg Prod.fst same] at h
  exact h (mem_map_of_mem member)

theorem extBody_unmarked (h : WithinLimits r) (unmarked : ¬ marked r) :
    ExtAuthz.body r = (r.body, false, (r.body.length : Int)) := by
  have missing : r.headers.lookup envoyAuthPartialBodyHeader = none := by
    rw [lookup_eq_none_iff]
    intro _ present
    rw [bne_iff_ne]
    intro same
    rw [marked, same] at unmarked
    exact unmarked (mem_map_of_mem present)
  simp [ExtAuthz.body, readInspectionBody_within h, envoyAuthBodyPartial, missing]

theorem extView_unmarked (h : WithinLimits r) (unmarked : ¬ marked r) :
    ExtAuthz.view P r = defaultView P r := by
  simp only [ExtAuthz.view, extBody_unmarked h unmarked,
    deleteHeader_absent unmarked, Bool.false_eq_true, if_false, defaultView]
  split
  next lost => rw [lost.2, markBodyAbsent_empty]
  · rfl

theorem extRequest_unmarked (h : WithinLimits r) (unmarked : ¬ marked r)
    (asset : e.assetId = p.assetId) (unit : e.unitId = p.unitId)
    (source : e.source = p.source) : e.request r = p.request r := by
  simp [ExtAuthz.request, ReleaseProxy.request, asset, unit, source,
    deleteHeader_absent (flattenHeaders_keys unmarked), extBody_unmarked h unmarked,
    readInspectionBody_within h]

theorem marked_headers (mark : marked r) (profile) :
    canonicalHeaders profile (setHost r.host [r.host] r.headers) ≠
      canonicalHeaders defaultInspectionProfile (setHost r.host [r.host]
        (deleteHeader envoyAuthPartialBodyHeader r.headers)) := by
  intro same
  have kept : toLower envoyAuthPartialBodyHeader ∈ (canonicalHeaders profile
        (setHost r.host [r.host] r.headers)).map Prod.fst :=
    mem_keys_canonicalHeaders.mpr ⟨_, mem_keys_setHost.mpr (.inr mark), rfl⟩
  rw [same] at kept
  obtain ⟨name, member, lower⟩ := mem_keys_canonicalHeaders.mp kept
  rcases mem_keys_setHost.mp member with ⟨-, rfl⟩ | other
  · exact absurd lower (by decide)
  · obtain ⟨row, filtered, rfl⟩ := mem_map.mp other
    obtain ⟨present, different⟩ := mem_filter.mp filtered
    obtain ⟨row', present', name⟩ := mem_map.mp mark
    have equal : row = row' :=
      inj_on_of_nodup_map r.distinct present present' (lower.trans (congrArg toLower name.symm))
    simp [equal, name] at different

theorem check_unmarked {now} (h : WithinLimits r) (asset : e.assetId = p.assetId)
    (unit : e.unitId = p.unitId) (source : e.source = p.source) (unmarked : ¬ marked r) :
    e.check P now set r = ⟨defaultView P r, if (defaultView P r).rejected then none
        else some (inspectThenGate P now set (p.request r) (defaultView P r)).1⟩ := by
  simp only [ExtAuthz.check, extView_unmarked h unmarked, extBody_unmarked h unmarked,
    extRequest_unmarked h unmarked asset unit source]
  simp

/-- The shells agree exactly where the loaded profile is the default one, the
request does not carry Envoy's mark and the view is not rejected. -/
theorem samePlane_iff {P : Platform} {now : Int} {set : ReleaseSet}
    {p : ReleaseProxy} {e : ExtAuthz} {r : HttpRequest}
    (asset : e.assetId = p.assetId) (unit : e.unitId = p.unitId)
    (source : e.source = p.source) (within : WithinLimits r)
    (digest : ∀ profile, P.http.profileDigest profile =
      P.http.profileDigest defaultInspectionProfile → profile = defaultInspectionProfile) :
    SamePlane (p.check P now set r) (e.check P now set r) ↔
      set.profileOrDefault = defaultInspectionProfile ∧ ¬ marked r ∧
        (defaultView P r).rejected = false := by
  constructor
  · intro same
    have view : ReleaseProxy.view P set r = ExtAuthz.view P r := same.view
    rw [proxyView_within within] at view
    have digests := congrArg CanonicalView.profileDigest view
    rw [canonicalize_profileDigest, (extView_fields P r).1] at digests
    have profile := digest set.profileOrDefault digests
    have headers := congrArg CanonicalView.headers view
    rw [canonicalize_headers, (extView_fields P r).2] at headers
    have unmarked : ¬ marked r := fun mark =>
      marked_headers mark set.profileOrDefault headers
    refine ⟨profile, unmarked, ?_⟩
    have action := same.action
    rw [check_unmarked within asset unit source unmarked] at action
    cases rejected : (defaultView P r).rejected with
    | false => rfl
    | true => simp [rejected, ReleaseProxy.check] at action
  · rintro ⟨profile, unmarked, accepted⟩
    have view : ReleaseProxy.view P set r = defaultView P r := by
      rw [proxyView_within within, profile, defaultView]
    rw [check_unmarked within asset unit source unmarked, accepted, ReleaseProxy.check, view]
    exact ⟨rfl, rfl, rfl⟩

/-! ## A profile that takes the last of two values -/

def lastValueProfile : HttpInspectionProfile :=
  { defaultInspectionProfile with duplicateQuery := "last" }

def twoValues : String := "id=1&id=2"

def itemHttp : Http :=
  { shopHttp with
    parseQuery := fun raw =>
      if raw = twoValues then some [("id", ["1", "2"])] else some []
    profileDigest := fun profile =>
      if profile = defaultInspectionProfile then
        "e859a6f58a38d612dda2b5ac5ffe2fe41ef4556bcea0febd6bf0d50a9b1d26ac"
      else if profile = lastValueProfile then
        "3145915e4328dbb7ddd0a690c0548ebc2deebca04c139bf5f4ba04c1bfe9be2e"
      else "" }

def itemEdge : Platform := { shopEdge with http := itemHttp }

def itemProxy : ReleaseProxy := ⟨"shop", "edge-1", fun remote _ => remote⟩

def itemExtAuthz : ExtAuthz := ⟨"shop", "edge-1", fun remote _ => remote⟩

def itemRequest : HttpRequest where
  method := "GET"
  path := "/item"
  rawQuery := twoValues
  host := "shop"
  headers := [("Accept", ["*/*"])]
  distinct := by simp
  body := []
  contentLength := 0
  remoteAddr := "192.0.2.7:4711"

def lastValueSet : ReleaseSet :=
  { newReleaseSet "dev" with profile := some lastValueProfile }

/-- The proxy inspects the last value, the authorization call the first. -/
theorem samePlane_lastValue :
    (itemProxy.check itemEdge 0 lastValueSet itemRequest).view.query = [("id", ["2"])] ∧
      (itemExtAuthz.check itemEdge 0 lastValueSet itemRequest).view.query = [("id", ["1"])] ∧
      ¬ SamePlane (itemProxy.check itemEdge 0 lastValueSet itemRequest)
        (itemExtAuthz.check itemEdge 0 lastValueSet itemRequest) := by
  have proxied :
      (itemProxy.check itemEdge 0 lastValueSet itemRequest).view.query = [("id", ["2"])] := by
    decide +kernel
  have authorized :
      (itemExtAuthz.check itemEdge 0 lastValueSet itemRequest).view.query = [("id", ["1"])] := by
    decide +kernel
  refine ⟨proxied, authorized, fun same => ?_⟩
  rw [same.view, authorized] at proxied
  simp at proxied

theorem itemHttp_digest (profile) (h : itemHttp.profileDigest profile =
      itemHttp.profileDigest defaultInspectionProfile) : profile = defaultInspectionProfile := by
  simp only [itemHttp, if_true] at h
  split at h
  · assumption
  · split at h <;> exact absurd h (by decide)

/-- With the default profile both shells judge the request alike. -/
theorem samePlane_default :
    SamePlane (itemProxy.check itemEdge 0 (newReleaseSet "dev") itemRequest)
      (itemExtAuthz.check itemEdge 0 (newReleaseSet "dev") itemRequest) :=
  (samePlane_iff rfl rfl rfl ⟨by decide, by decide⟩ itemHttp_digest).mpr
    ⟨rfl, by simp [marked, itemRequest, envoyAuthPartialBodyHeader], by decide +kernel⟩

end YuFeng.Edge

import YuFeng.Brain.Promotion
import YuFeng.Edge.Shapes
import YuFeng.Library.Lines

/-!
# Replay of shapes

Before a shape is signed, `runShape` runs it over a corpus of labelled
requests.  Which cases the shape covers is decided on the raw path of a case,
with a path splitter of its own; whether a covered case is blocked is decided
as at the edge, on the canonical view.
-/

namespace YuFeng.Replay

open YuFeng.Library YuFeng.Kernel YuFeng.Edge List

structure Case where
  id : String
  label : String
  request : Request
  deriving DecidableEq

structure Report extends ReplayReport where
  benignTotal : Nat := 0
  managementTotal : Nat := 0
  corpusRef : String
  deriving DecidableEq

def labels : List String := ["malicious", "benign", "management"]

def account (report : Report) (c : Case) (blocked : Bool) : Report :=
  let hit := if blocked then 1 else 0
  match c.label with
  | "malicious" =>
    { report with
      maliciousTotal := report.maliciousTotal + 1
      maliciousBlocked := report.maliciousBlocked + hit }
  | "benign" =>
    { report with
      benignTotal := report.benignTotal + 1
      benignBlocked := report.benignBlocked + hit }
  | "management" =>
    { report with
      managementTotal := report.managementTotal + 1
      managementBlocked := report.managementBlocked + hit }
  | _ => report

/-! ## Which cases a shape covers -/

def trimSlashes (path : String) : String :=
  String.ofList ((path.toList.dropWhile (· = '/')).reverse.dropWhile (· = '/')).reverse

def splitReplayPath (path : String) : List String :=
  if trimSlashes path = "" then [] else splitText '/' (trimSlashes path)

def segmentsCover (want got : List String) : Bool :=
  want.length = got.length && (want.zip got).all fun pair =>
      if isPlaceholder pair.1 then pair.2 ≠ "" else pair.1 = pair.2

def shapeCovers (source : ShapeSource) (path : String) : Bool :=
  if source.routeTemplate ≠ "" then
    segmentsCover (splitReplayPath source.routeTemplate) (splitReplayPath path)
  else startsWith source.pathPrefix path

def shapeAssetCovers (scope : Option Scope) (assetId : String) : Bool :=
  match scope with
  | none => true
  | some scope => scope.assetIds.isEmpty || scope.assetIds.contains assetId

/-! ## The replay -/

def shapeViolates (M : Matching) (source : ShapeSource) (req : Request)
    (view : CanonicalView) : Bool :=
  match compileShape source with
  | .ok compiled => compiled.violates M req view
  | .error _ => false

def sampleView (H : Http) (req : Request) : CanonicalView :=
  req.view H defaultInspectionProfile (req.headers.map fun header => (header.1, [header.2]))

def shapeSchema : String := "shape/v1"

def replayCases (H : Http) (M : Matching) (source : ShapeSource)
    (scope : Option Scope) (ctxErr : Nat → Option String) :
    Nat → Report → List Case → Except String Report
  | _, report, [] => .ok report
  | taken, report, c :: corpus =>
    match ctxErr taken with
    | some message => .error message
    | none =>
      replayCases H M source scope ctxErr (taken + 1) (if !shapeCovers source c.request.path ||
            !shapeAssetCovers scope c.request.assetId then report
          else account report c (shapeViolates M source c.request (sampleView H c.request)))
        corpus

def runShape (H : Http) (M : Matching) (unmarshal : String → Except String ShapeSource)
    (ctxErr : Nat → Option String) (artifact : Artifact)
    (corpus : List Case) : Except String Report :=
  if artifact.payloadSchema ≠ shapeSchema then
    .error ("replay shape requires " ++ shapeSchema)
  else match unmarshal artifact.payload with
    | .error message => .error ("shape payload: " ++ message)
    | .ok source =>
      match validateShapeSource source with
      | .error message => .error message
      | .ok _ =>
        (replayCases H M source artifact.scope ctxErr 0
          { passed := false, corpusRef := "builtin:l1-shape-v1" }
          corpus).map fun report =>
            { report with passed := Brain.gatePassed report.toReplayReport }

/-! ## What a report counts -/

def Report.total (report : Report) : String → Nat
  | "malicious" => report.maliciousTotal
  | "benign" => report.benignTotal
  | "management" => report.managementTotal
  | _ => 0

def Report.blocked (report : Report) : String → Nat
  | "malicious" => report.maliciousBlocked
  | "benign" => report.benignBlocked
  | "management" => report.managementBlocked
  | _ => 0

theorem account_total (report c hit) {label} (known : label ∈ labels) :
    (account report c hit).total label = report.total label + if c.label = label then 1 else 0 := by
  obtain ⟨id, own, request⟩ := c
  simp only [labels, mem_cons, not_mem_nil, or_false] at known
  unfold account
  dsimp only
  rcases known with rfl | rfl | rfl <;> split <;> simp_all [Report.total]

theorem account_blocked (report c hit) {label} (known : label ∈ labels) :
    (account report c hit).blocked label =
      report.blocked label + if c.label = label ∧ hit = true then 1 else 0 := by
  obtain ⟨id, own, request⟩ := c
  simp only [labels, mem_cons, not_mem_nil, or_false] at known
  unfold account
  dsimp only
  rcases known with rfl | rfl | rfl <;> split <;>
    cases hit <;> simp_all [Report.blocked]

def counted (source : ShapeSource) (scope : Option Scope) (c : Case) : Bool :=
  shapeCovers source c.request.path && shapeAssetCovers scope c.request.assetId

section

variable {H : Http} {M : Matching} {source : ShapeSource}
  {scope : Option Scope} {ctxErr : Nat → Option String}

theorem replayCases_counts {taken before after corpus}
    (h : replayCases H M source scope ctxErr taken before corpus = .ok after) {label}
    (known : label ∈ labels) :
    after.total label = before.total label + corpus.countP (fun c => decide (c.label = label) &&
          counted source scope c) ∧
      after.blocked label = before.blocked label +
        corpus.countP (fun c => decide (c.label = label) && counted source scope c &&
          shapeViolates M source c.request (sampleView H c.request)) := by
  induction corpus generalizing taken before with
  | nil =>
    cases h
    simp
  | cons c _ ih =>
    rw [replayCases] at h
    split at h
    · cases h
    · obtain ⟨total, blocked⟩ := ih h
      rw [total, blocked, countP_cons, countP_cons]
      split
      next out =>
        have skipped : counted source scope c = false := by
          simpa [counted, ← Bool.not_and] using out
        simp [skipped]
      next within =>
        have kept : counted source scope c = true := by
          simpa [counted, ← Bool.not_and] using within
        rw [account_total _ _ _ known, account_blocked _ _ _ known]
        simp only [kept, Bool.and_true, Bool.and_eq_true, decide_eq_true_eq]
        constructor <;> omega

end

theorem runShape_ok {H M} {unmarshal : String → Except String ShapeSource}
    {ctxErr : Nat → Option String} {artifact source corpus report}
    (parsed : unmarshal artifact.payload = .ok source)
    (h : runShape H M unmarshal ctxErr artifact corpus = .ok report) :
    validateShapeSource source = .ok () ∧ ∃ last, replayCases H M source artifact.scope ctxErr 0
          { passed := false, corpusRef := "builtin:l1-shape-v1" } corpus = .ok last ∧
        report = { last with
          passed := Brain.gatePassed last.toReplayReport } := by
  simp only [runShape, parsed] at h
  split at h
  · cases h
  · split at h
    · cases h
    next valid =>
      refine ⟨valid, ?_⟩
      cases ran : replayCases H M source artifact.scope ctxErr 0
          { passed := false, corpusRef := "builtin:l1-shape-v1" } corpus with
      | error message =>
        rw [ran] at h
        cases h
      | ok last =>
        rw [ran] at h
        cases h
        exact ⟨last, rfl, rfl⟩

/-! ## Raw paths and templates -/

/-- The text of a path between its outer slashes. -/
structure Core (path : String) (core : List Char) : Prop where
  text : ∃ before after, path.toList = replicate before '/' ++ (core ++ replicate after '/')
  first : ∀ c ∈ core.head?, c ≠ '/'
  last : ∀ c ∈ core.getLast?, c ≠ '/'

def coreSegments (core : List Char) : List String :=
  if core = [] then [] else (core.splitOn '/').map String.ofList

/-- The raw path fits the template segment by segment, empty ones between two slashes included; a
shape without a template goes by its prefix. -/
def RawScope (source : ShapeSource) (path : String) : Prop :=
  if source.routeTemplate ≠ "" then
    ∃ wanted got, Core source.routeTemplate wanted ∧ Core path got ∧
      Forall₂ SegmentFits (coreSegments wanted) (coreSegments got)
  else startsWith source.pathPrefix path = true

/-- What the edge enforces: a template of slashes only is no template. -/
def EdgeScope (source : ShapeSource) (path : String) : Prop :=
  if splitPath source.routeTemplate = [] then startsWith source.pathPrefix path = true
  else InScope source path

theorem dropWhile_slashes {count text} (h : ∀ c ∈ text.head?, c ≠ '/') :
    (replicate count '/' ++ text).dropWhile (· = '/') = text := by
  induction count with
  | zero => exact dropWhile_of_head (by simpa using h)
  | succ _ ih => rw [replicate_succ, cons_append, dropWhile_cons_of_pos (by simp), ih]

theorem exists_slashes (text : List Char) :
    ∃ count rest, text = replicate count '/' ++ rest ∧ ∀ c ∈ rest.head?, c ≠ '/' := by
  induction text with
  | nil => exact ⟨0, [], rfl, nofun⟩
  | cons c text ih =>
    by_cases slash : c = '/'
    · obtain ⟨count, rest, rfl, first⟩ := ih
      exact ⟨count + 1, rest, by rw [slash, replicate_succ, cons_append], first⟩
    · exact ⟨0, c :: text, rfl, by simpa⟩

theorem exists_core (path) : ∃ core, Core path core := by
  obtain ⟨before, rest, text, first⟩ := exists_slashes path.toList
  obtain ⟨after, core, back, last⟩ := exists_slashes rest.reverse
  obtain rfl : core.reverse ++ replicate after '/' = rest := by
    rw [← reverse_reverse rest, back, reverse_append, reverse_replicate]
  refine ⟨core.reverse, ⟨before, after, text⟩, fun c member => first c ?_, by simpa using last⟩
  rw [head?_append, Option.mem_def.mp member, Option.some_or, Option.mem_def]

theorem trimSlashes_core {path core} (h : Core path core) :
    trimSlashes path = String.ofList core := by
  obtain ⟨⟨before, after, text⟩, first, last⟩ := h
  rw [trimSlashes, text]
  cases core with
  | nil =>
    rw [nil_append, replicate_append_replicate, ← append_nil (replicate _ _),
      dropWhile_slashes (by simp)]
    rfl
  | cons c core =>
    rw [dropWhile_slashes (by simpa using first), reverse_append, reverse_replicate,
      dropWhile_slashes (by rwa [head?_reverse]), reverse_reverse]

theorem splitReplayPath_core {path core} (h : Core path core) :
    splitReplayPath path = coreSegments core := by
  simp [splitReplayPath, trimSlashes_core h, splitText, coreSegments]

theorem shapeCovers_iff (source path) : shapeCovers source path = true ↔ RawScope source path := by
  unfold shapeCovers RawScope
  split
  · obtain ⟨wanted, template⟩ := exists_core source.routeTemplate
    obtain ⟨got, raw⟩ := exists_core path
    rw [splitReplayPath_core template, splitReplayPath_core raw, segmentsCover, segments_fit_iff]
    refine ⟨fun fits => ⟨wanted, got, template, raw, fits⟩, ?_⟩
    rintro ⟨wanted', got', template', raw', fits⟩
    rwa [← splitReplayPath_core template, ← splitReplayPath_core raw,
      splitReplayPath_core template', splitReplayPath_core raw']
  · rfl

theorem edgeScope_iff {source compiled} (accepted : compileShape source = .ok compiled) (path) :
    compiled.applies path = true ↔ EdgeScope source path := by
  unfold EdgeScope
  split
  next slashes => rw [CompiledShape.applies_slashes accepted slashes]
  next template => exact CompiledShape.applies_iff accepted (.inr template) path

/-! ## Agreement with the edge -/

/--
The report counts as blocked what the edge blocks, and leaves out only what
the edge's shape does not apply to.
-/
structure Agrees (H : Http) (M : Matching) (artifact : Artifact)
    (source : ShapeSource) (compiled : CompiledShape) (corpus : List Case)
    (report : Report) : Prop where
  blocked : ∀ label ∈ labels, report.blocked label =
    corpus.countP fun c => decide (c.label = label) &&
      shapeAssetCovers artifact.scope c.request.assetId &&
      compiled.violates M c.request (sampleView H c.request)
  leftOut : ∀ c ∈ corpus, shapeAssetCovers artifact.scope c.request.assetId = true →
    counted source artifact.scope c = false → compiled.applies (sampleView H c.request).path = false

theorem sampleView_path (H req) :
    (sampleView H req).path = canonicalPath H defaultInspectionProfile req.path := rfl

theorem sampleView_filled {H} (go : H.pathUnescape = pathUnescape) (req) :
    (sampleView H req).path ≠ "" :=
  req.view_path_filled go _ _

theorem shapeViolates_compiled {M source compiled} (accepted : compileShape source = .ok compiled)
    (req view) : shapeViolates M source req view = compiled.violates M req view := by
  rw [shapeViolates, accepted]

theorem replay_agrees_iff (H : Http) (go : H.pathUnescape = pathUnescape)
    (M : Matching) (unmarshal : String → Except String ShapeSource)
    (ctxErr : Nat → Option String) (artifact : Artifact)
    (source : ShapeSource) (compiled : CompiledShape) (corpus : List Case)
    (report : Report) (parsed : unmarshal artifact.payload = .ok source)
    (accepted : compileShape source = .ok compiled)
    (ran : runShape H M unmarshal ctxErr artifact corpus = .ok report) :
    (∀ label ∈ labels, report.total label = corpus.countP fun c => decide (c.label = label) &&
        counted source artifact.scope c) ∧
    (Agrees H M artifact source compiled corpus report ↔
      ∀ c ∈ corpus, shapeAssetCovers artifact.scope c.request.assetId = true →
        EdgeScope source (canonicalPath H defaultInspectionProfile c.request.path) →
        RawScope source c.request.path) := by
  simp only [← edgeScope_iff accepted, ← shapeCovers_iff]
  obtain ⟨-, last, replayed, rfl⟩ := runShape_ok parsed ran
  have start (label : String) :
      Report.total { passed := false, corpusRef := "builtin:l1-shape-v1" } label = 0 ∧
        Report.blocked { passed := false, corpusRef := "builtin:l1-shape-v1" } label = 0 := by
    constructor
    · unfold Report.total
      split <;> rfl
    · unfold Report.blocked
      split <;> rfl
  constructor
  · intro label known
    have counts := (replayCases_counts replayed known).1
    rw [(start label).1, Nat.zero_add] at counts
    exact counts
  · constructor
    · intro agrees c member within applied
      by_contra uncovered
      have out : counted source artifact.scope c = false := by
        simp [counted, Bool.eq_false_iff.mpr uncovered]
      have skipped := agrees.leftOut c member within out
      rw [sampleView_path, applied] at skipped
      cases skipped
    · intro covered
      refine ⟨fun label known => ?_, fun c member within out => ?_⟩
      · have counts := (replayCases_counts replayed known).2
        rw [(start label).2, Nat.zero_add] at counts
        refine counts.trans (countP_congr fun c member => ?_)
        rw [shapeViolates_compiled accepted]
        have reached (violated : compiled.violates M c.request (sampleView H c.request) = true) :=
          CompiledShape.applies_of_violates (sampleView_filled go _) violated
        have kept := covered c member
        rw [sampleView_path] at reached
        simp only [counted, Bool.and_eq_true, decide_eq_true_eq]
        tauto
      · rw [Bool.eq_false_iff, sampleView_path]
        intro applied
        have kept := covered c member within applied
        simp [counted, kept, within] at out

def userArtifact : Artifact where
  id := "shape-users"
  kind := .shape
  payload := "\x7b\"methods\":[\"GET\"]," ++ "\"routeTemplate\":\"/users/\x7bid\x7d\"\x7d"
  payloadSchema := "shape/v1"
  scope := some ⟨["shop"], ""⟩

def userUnmarshal (payload : String) : Except String ShapeSource :=
  if payload = userArtifact.payload then .ok userShape
  else .error "proto: syntax error"

def attackCase : Case :=
  ⟨"malicious:write", "malicious", ⟨"shop", "", "POST", "/users/7", "", [], [], ""⟩⟩

def slashesCase : Case :=
  ⟨"benign:slashes", "benign", ⟨"shop", "", "POST", "/users//7", "", [], [], ""⟩⟩

theorem replay_agrees_iff_attack : ∃ compiled report, compileShape userShape = .ok compiled ∧
      runShape urlHttp asciiMatching userUnmarshal (fun _ => none)
        userArtifact [attackCase] = .ok report ∧
      report.maliciousBlocked = 1 ∧
      (Agrees urlHttp asciiMatching userArtifact userShape compiled [attackCase] report ↔
        ∀ c ∈ [attackCase], shapeAssetCovers userArtifact.scope c.request.assetId = true →
          EdgeScope userShape (canonicalPath urlHttp defaultInspectionProfile c.request.path) →
          RawScope userShape c.request.path) :=
  ⟨_, _, rfl, rfl, by decide +kernel,
    (replay_agrees_iff urlHttp rfl asciiMatching userUnmarshal (fun _ => none)
      userArtifact userShape _ [attackCase] _ (by decide +kernel) rfl rfl).2⟩

/-- The gate passes a shape that blocks a benign case of the corpus. -/
theorem replay_overlooks_slashes : ∃ compiled report, compileShape userShape = .ok compiled ∧
      runShape urlHttp asciiMatching userUnmarshal (fun _ => none)
        userArtifact [attackCase, slashesCase] = .ok report ∧
      report.passed = true ∧ report.benignTotal = 0 ∧
      compiled.violates asciiMatching slashesCase.request
        (sampleView urlHttp slashesCase.request) = true ∧
      ¬Agrees urlHttp asciiMatching userArtifact userShape compiled
        [attackCase, slashesCase] report := by
  refine ⟨_, _, rfl, rfl, by decide +kernel, by decide +kernel, by decide +kernel, fun agrees => ?_⟩
  have blocked := agrees.blocked "benign" (by decide)
  revert blocked
  decide +kernel

end YuFeng.Replay

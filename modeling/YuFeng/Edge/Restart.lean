import YuFeng.Edge.Cache
import YuFeng.Edge.Deadlines
import YuFeng.Edge.Gate

/-!
# Restarting from the cache

A running edge keeps its generation and leaves out the releases that have
expired.  A restarted edge loads the generation from the cache again, and one
expired member makes it refuse the whole generation.  Both decide alike
exactly as long as no member in effect has expired.
-/

namespace YuFeng.Edge

open YuFeng.Library YuFeng.Kernel

variable {P : Platform} {posture : IngressPosture} {req : Request}
  {found : Inspection} {view : CanonicalView} {now : Int}
  {set set' next : ReleaseSet} {gen : AssetGeneration} {tally tally' : Tally}
  {counters : Table String Counter} {next' : ReleaseSet} {codec : GenerationCodec}

/-! ## What a decision depends on -/

def Tally.judged (tally : Tally) : Tally :=
  { tally with counters := .empty }

theorem gateRelease_judged (r) (same : tally.judged = tally'.judged) :
    (gateRelease P posture req found view tally r).judged =
      (gateRelease P posture req found view tally' r.undated).judged := by
  have judge : r.undated.judge P req found view = r.judge P req found view := rfl
  simp only [Tally.judged, Tally.mk.injEq, and_true] at same
  unfold gateRelease
  rw [judge]
  cases r.judge P req found view with
  | none => simp [Tally.judged, same]
  | some =>
    simp only [Tally.judged, same]
    rfl

theorem gateAll_judged (releases : List ManagedRelease) (same : tally.judged = tally'.judged) :
    (releases.foldl (gateRelease P posture req found view) tally).judged =
      ((releases.map ManagedRelease.undated).foldl
        (gateRelease P posture req found view) tally').judged := by
  induction releases generalizing tally tally' with
  | nil => exact same
  | cons r _ ih => exact ih (gateRelease_judged r same)

theorem gateWith_undated {releases releases' counters'}
    (same : releases.map ManagedRelease.undated = releases'.map ManagedRelease.undated) :
    (gateWith P releases posture req found view counters).1 =
      (gateWith P releases' posture req found view counters').1 := by
  have empty : ∀ counters : Table String Counter, Tally.judged { counters := counters } =
        Tally.judged { counters := .empty } := fun _ => rfl
  have tallies :
      (releases.foldl (gateRelease P posture req found view) { counters := counters }).judged =
      (releases'.foldl (gateRelease P posture req found view)
        { counters := counters' }).judged := by
    rw [gateAll_judged releases (empty counters), same, gateAll_judged releases' (empty counters')]
  simp only [Tally.judged, Tally.mk.injEq, and_true] at tallies
  unfold gateWith
  simp [tallies]

theorem inspectThenGate_same (req view)
    (live : (set.live now).map ManagedRelease.undated = (set'.live now).map ManagedRelease.undated)
    (inspectors : set.inspectors = set'.inspectors) (mapper : set.mapper = set'.mapper)
    (posture : set.posture = set'.posture) (generation : set.activeGen = set'.activeGen) :
    (inspectThenGate P now set req view).1 = (inspectThenGate P now set' req view).1 := by
  unfold inspectThenGate
  simp only [inspectors, mapper, posture, generation]
  rw [gateWith_undated live]

structure Visit where
  now : Int
  req : Request
  view : CanonicalView

def serve (P : Platform) (set : ReleaseSet) (visits : List Visit) : ReleaseSet :=
  visits.foldl (fun set visit => (inspectThenGate P visit.now set visit.req visit.view).2) set

theorem serve_counters (P set visits) :
    ∃ counters, serve P set visits = { set with counters := counters } := by
  induction visits generalizing set with
  | nil => exact ⟨set.counters, rfl⟩
  | cons visit _ ih =>
    exact ih (inspectThenGate P visit.now set visit.req visit.view).2

/-! ## Loading the generation again -/

theorem reload_cases (P now set) (gen) :
    reload P now set gen = set ∨ ∃ active next, succession set.activeGen gen = .ok active ∧
        compileGeneration P now set gen = .ok next ∧
        reload P now set gen = swapFrom set next active := by
  unfold reload
  cases applied : applyGeneration P now noPersist set gen with
  | error => exact .inl rfl
  | ok =>
    obtain ⟨active, next, -, placed, compiled, -, -, rfl⟩ := applyGeneration_ok.mp applied
    exact .inr ⟨active, next, placed, compiled, rfl⟩

structure Prepared (P : Platform) (now : Int) (fresh : ReleaseSet)
    (previous : Option AssetGeneration) (set : ReleaseSet) : Prop where
  version : set.edgeVersion = fresh.edgeVersion
  generation : set.activeGen = none ∨ set.activeGen = previous
  loads : ∀ gen, set.activeGen = some gen → ∃ next, compileGeneration P now fresh gen = .ok next

theorem reload_prepared {fresh} (unloaded : fresh.activeGen = none) (previous) :
    Prepared P now fresh previous ((named previous.toList).foldl (reload P now) fresh) := by
  have same : Prepared P now fresh previous fresh := ⟨rfl, .inl unloaded, by simp [unloaded]⟩
  cases previous with
  | none => exact same
  | some current =>
    by_cases unnamed : current.generationId = ""
    · simpa [named, unnamed] using same
    · simp only [named, Option.toList_some, List.filter_cons, unnamed,
        ne_eq, not_false_eq_true, decide_true, if_true, List.filter_nil,
        List.foldl_cons, List.foldl_nil]
      rcases reload_cases P now fresh current with
        failed | ⟨_, next, placed, compiled, swapped⟩
      · rw [failed]
        exact same
      · rw [unloaded] at placed
        cases placed
        rw [swapped]
        refine ⟨rfl, .inr rfl, ?_⟩
        rintro _ ⟨⟩
        exact ⟨next, compiled⟩

structure Loaded (P : Platform) (now : Int) (set next : ReleaseSet)
    (gen : AssetGeneration) : Prop where
  envelope : Sealed P now gen
  compiled : compileGeneration P now set gen = .ok next
  valid : validateGenerationDependencies P gen next = .ok ()

theorem Loaded.compile_again {now'} (h : Loaded P now set next gen) :
    (∃ next', compileGeneration P now' set' gen = .ok next') ↔
      ∀ item ∈ gen.members, ∀ a ∈ gateArtifact item, now' < expiry a now' := by
  have admitted := compileGeneration_succeeds.mp ⟨next, h.compiled⟩
  rw [compileGeneration_succeeds]
  exact forall₂_congr fun item present => admits_again (admitted item present)

theorem Loaded.reload {now' active} (h : Loaded P now set next gen) (later : now ≤ now')
    (version : set.edgeVersion = set'.edgeVersion)
    (placed : succession set'.activeGen gen = .ok active)
    (compiled : compileGeneration P now' set' gen = .ok next') :
    Edge.reload P now' set' gen = swapFrom set' next' active := by
  have content := compileGeneration_content h.compiled compiled version
  have valid : validateGenerationDependencies P gen next' = .ok () := by
    rw [← validateGenerationDependencies_content, ← content,
      validateGenerationDependencies_content, h.valid]
  have applied : applyGeneration P now' noPersist set' gen = .ok (swapFrom set' next' active) :=
    applyGeneration_ok.mpr ⟨active, next', h.envelope.later later, placed,
      compiled, valid, rfl, rfl⟩
  rw [Edge.reload, applied]

theorem reload_ok (changed : (reload P now set gen).activeGen ≠ set.activeGen) :
    applyGeneration P now noPersist set gen = .ok (reload P now set gen) := by
  unfold reload at changed ⊢
  cases applied : applyGeneration P now noPersist set gen with
  | error => simp [applied] at changed
  | ok => rfl

theorem reload_failed (failed : ¬ ∃ next, compileGeneration P now set gen = .ok next) :
    reload P now set gen = set := by
  unfold reload
  cases applied : applyGeneration P now noPersist set gen with
  | error => rfl
  | ok =>
    obtain ⟨_, next, -, -, compiled, -⟩ := applyGeneration_ok.mp applied
    exact absurd ⟨next, compiled⟩ failed

/-! ## Both edges -/

/-- The same live releases, inspectors, profile and decisions. -/
structure RestartEquivalent (P : Platform) (now : Int)
    (running restarted : ReleaseSet) : Prop where
  releases : (running.live now).map ManagedRelease.undated =
    (restarted.live now).map ManagedRelease.undated
  inspectors : running.inspectors = restarted.inspectors
  profile : running.profile = restarted.profile
  decisions : ∀ req view, (inspectThenGate P now running req view).1 =
    (inspectThenGate P now restarted req view).1

/-- No member that was loaded at one time has expired at the other. -/
structure Outlasts (loaded now : Int) (gen : AssetGeneration) : Prop where
  /-- Every member could be loaded now. -/
  stated : ∀ item ∈ gen.members, ∀ a ∈ gateArtifact item, now < expiry a now
  /-- Every member in effect still has the deadline it was given. -/
  given : ∀ item ∈ inEffect gen.members, ∀ a ∈ gateArtifact item, now < expiry a loaded

/-- The sets agree up to deadlines and counters. -/
structure SameContent (set set' : ReleaseSet) : Prop where
  releases : (set.releases.rows.map Prod.snd).map ManagedRelease.undated =
    (set'.releases.rows.map Prod.snd).map ManagedRelease.undated
  inspectors : set.inspectors = set'.inspectors
  profile : set.profile = set'.profile
  mapper : set.mapper = set'.mapper
  posture : set.posture = set'.posture
  generation : set.activeGen = set'.activeGen

theorem live_eq_all : set.live now = set.releases.rows.map Prod.snd ↔ Unexpired now set := by
  rw [ReleaseSet.live, List.filter_eq_self, List.forall_mem_map]
  simp [Unexpired]

theorem SameContent.equivalent_iff {running restarted} (same : SameContent running restarted)
    (fresh : Unexpired now restarted) :
    RestartEquivalent P now running restarted ↔ Unexpired now running := by
  constructor
  · intro h
    have count := congrArg List.length h.releases
    have total := congrArg List.length same.releases
    rw [live_eq_all.mpr fresh] at count
    simp only [List.length_map] at count total
    apply live_eq_all.mp
    apply List.filter_sublist.eq_of_length
    rw [List.length_map, total, ← count, ReleaseSet.live]
  · intro unexpired
    have live : (running.live now).map ManagedRelease.undated =
        (restarted.live now).map ManagedRelease.undated := by
      rw [live_eq_all.mpr unexpired, live_eq_all.mpr fresh, same.releases]
    refine ⟨live, same.inspectors, same.profile, ?_⟩
    intro req view
    exact inspectThenGate_same req view live same.inspectors same.mapper
      same.posture same.generation

theorem sameContent_swapFrom (content : next.content = next'.content) :
    SameContent { swapFrom set next gen with counters := counters }
      { swapFrom set' next' gen with posture := set.posture } := by
  have releases := congrArg (fun s => s.releases.rows.map Prod.snd) content
  simp only [ReleaseSet.content, ReleaseSet.mk.injEq] at content
  constructor
  case releases =>
    simpa [ReleaseSet.content, Table.update, Function.comp_def, swapFrom] using releases
  all_goals simp [swapFrom, content]

theorem succession_same {current} (placed : succession current gen = .ok gen) {old}
    (held : current = some old) (same : old.generationSeq = gen.generationSeq) : old = gen := by
  subst held
  simp only [succession, checkSuccession, same, if_true] at placed
  split at placed
  · simp at placed
  · split at placed
    · exact Except.ok.inj placed
    · simp at placed

theorem restart_saved {unitVersion file previous}
    (saved : saveGenerationCache codec previous gen = .ok file) (identified : gen.generationId ≠ "")
    (faithful : ∀ g ∈ previous.toList ++ [gen], codec.Faithful g) :
    restart P now codec unitVersion posture file =
      { reload P now ((named previous.toList).foldl (reload P now)
          (newReleaseSet unitVersion)) gen with posture := posture } := by
  have last : named (previous.toList ++ [gen]) = named previous.toList ++ [gen] := by
    simp [named, identified]
  rw [restart, loadGenerationCache_saved _ saved identified faithful, last,
    List.foldl_append, List.foldl_cons, List.foldl_nil]

/-- The restarted edge is like the running one exactly as long as no member
has expired. -/
theorem restartEquivalent_iff {P : Platform} {codec : GenerationCodec}
    {unitVersion file : String} {loaded now : Int} {set running : ReleaseSet}
    {gen : AssetGeneration} (visits : List Visit) (later : loaded ≤ now)
    (version : set.edgeVersion = (newReleaseSet unitVersion).edgeVersion)
    (installed : applyGeneration P loaded (persistCache codec) set gen = .ok running)
    (active : running.activeGen = some gen)
    (saved : saveGenerationCache codec set.activeGen gen = .ok file)
    (identified : gen.generationId ≠ "")
    (faithful : ∀ g ∈ set.activeGen.toList ++ [gen], codec.Faithful g) :
    RestartEquivalent P now (serve P running visits)
        (restart P now codec unitVersion running.posture file) ↔
      Outlasts loaded now gen := by
  obtain ⟨_, next, envelope, placed, compiled, valid, -, rfl⟩ := applyGeneration_ok.mp installed
  cases Option.some.inj active
  have first : Loaded P loaded set next gen := ⟨envelope, compiled, valid⟩
  obtain ⟨_, served⟩ := serve_counters P (swapFrom set next gen) visits
  rw [served, restart_saved saved identified faithful]
  have prepared : Prepared P now (newReleaseSet unitVersion) set.activeGen
      ((named set.activeGen.toList).foldl (reload P now)
        (newReleaseSet unitVersion)) := reload_prepared rfl set.activeGen
  generalize (named set.activeGen.toList).foldl (reload P now)
    (newReleaseSet unitVersion) = before at prepared
  by_cases again : ∃ next', compileGeneration P now before gen = .ok next'
  · obtain ⟨next', compiled'⟩ := again
    have same : set.edgeVersion = before.edgeVersion := version.trans prepared.version.symm
    have placed' : succession before.activeGen gen = .ok gen := by
      rcases prepared.generation with none | kept
      · rw [none, succession]
      · rw [kept, placed]
    have content := compileGeneration_content compiled compiled' same
    rw [first.reload later same placed' compiled']
    have fresh : Unexpired now next' := compileGeneration_unexpired compiled'
    have given := compileGeneration_rows compiled fun _ _ _ deadline => now < deadline
    refine ((sameContent_swapFrom content).equivalent_iff fresh).trans ?_
    exact ⟨fun unexpired => ⟨first.compile_again.mp ⟨next', compiled'⟩,
      given.mp unexpired⟩, fun lasting => given.mpr lasting.given⟩
  · rw [reload_failed again]
    refine iff_of_false ?_ fun lasting =>
      again (first.compile_again.mpr lasting.stated)
    intro h
    have seq := congrArg Decision.generationSeq (h.decisions default default)
    change gen.generationSeq = (before.activeGen.map (·.generationSeq)).getD 0 at seq
    have positive := envelope.positive
    cases held : before.activeGen with
    | none =>
      rw [held] at seq
      simp at seq
      omega
    | some old =>
      rw [held] at seq
      have kept : set.activeGen = some old := by
        rcases prepared.generation with none | kept
        · simp [none] at held
        · rw [← kept, held]
      obtain rfl : old = _ := succession_same placed kept seq.symm
      exact again (first.compile_again.mpr (first.compile_again.mp (prepared.loads old held)))

/-! ## A generation with a short-lived rule

The asset `shop` has two enforced rules, one for an hour and one for a month.
The encodings and digests of the rules are the real ones; signatures and the
encoding of the envelope stand for themselves.
-/

def issued : Int := 1767225600000000000

def hour : Int := 3600000000000

def unionPayload : String := "[\x7b\"id\":\"r1\",\"pattern\":\"union\"\x7d]"

def passwdPayload : String := "[\x7b\"id\":\"r2\",\"pattern\":\"passwd\"\x7d]"

def unionBytes : String :=
  "\x10\x01\x1a\x1f" ++ unionPayload ++
    "\"\x08rules/v12\x03\x08\x90\x1cZ\x06\x08\x80\xf2\xd6\xca\x06"

def passwdBytes : String :=
  "\x10\x01\x1a " ++ passwdPayload ++
    "\"\x08rules/v12\x05\x08\x80\x9a\x9e\x01Z\x06\x08\x80\xf2\xd6\xca\x06"

def unionDigest : Vector UInt8 32 :=
  #v[123, 202, 181, 99, 159, 239, 214, 113, 203, 37, 27, 168, 4, 126, 204,
    191, 65, 217, 108, 97, 36, 89, 198, 72, 118, 154, 110, 137, 230, 48, 87, 67]

def passwdDigest : Vector UInt8 32 :=
  #v[37, 82, 241, 125, 131, 119, 73, 142, 243, 65, 188, 81, 39, 59, 206, 173,
    16, 202, 130, 94, 247, 54, 20, 175, 151, 1, 45, 34, 119, 248, 142, 42]

def unionRule : Artifact where
  id := "sha256:" ++ hexEncode unionDigest.toList
  kind := .rule
  payload := unionPayload
  payloadSchema := "rules/v1"
  ttl := some hour
  signature := some ⟨"", "s1"⟩
  createdAt := some issued

def passwdRule : Artifact where
  id := "sha256:" ++ hexEncode passwdDigest.toList
  kind := .rule
  payload := passwdPayload
  payloadSchema := "rules/v1"
  ttl := some (720 * hour)
  signature := some ⟨"", "s2"⟩
  createdAt := some issued

def shopRules : AssetGeneration where
  generationId := "gen-1"
  assetId := "shop"
  generationSeq := 1
  parentGenerationId := ""
  members := [
    { releaseId := "rel-1", artifact := some unionRule, assetId := "shop",
      mode := .enforce },
    { releaseId := "rel-2", artifact := some passwdRule, assetId := "shop",
      mode := .enforce }]
  minEdgeVersion := "dev"
  notBefore := some issued
  envelopeSignature := some ⟨"", "s3"⟩

def shopVerifier : Verifier where
  canonicalBytes a :=
    if a = { unionRule with id := "", signature := none } then unionBytes
    else if a = { passwdRule with id := "", signature := none } then
      passwdBytes
    else ""
  generationCanonical g := g.generationId
  sum256 bytes :=
    if bytes = unionBytes then unionDigest
    else if bytes = passwdBytes then passwdDigest
    else Vector.replicate 32 0
  publicKeySize := 32
  verify bytes sig := bytes = unionBytes && sig = "s1" ||
    bytes = passwdBytes && sig = "s2" || bytes = "gen-1" && sig = "s3"

def shopMatching : Matching where
  compiles _ := none
  matchString pattern text := hasSubstring pattern text
  queryUnescape text := some text
  text body := String.ofList (body.map fun byte => Char.ofNat byte.toNat)
  jsonField _ _ := none
  isDigit := Char.isDigit
  isLetter := Char.isAlpha

def shopPayloads : Payloads where
  rules payload :=
    if payload = unionPayload then .ok [⟨"r1", "union", ""⟩]
    else if payload = passwdPayload then .ok [⟨"r2", "passwd", ""⟩]
    else .error "parse rules: unexpected payload"
  policy _ := .error "unexpected payload"
  manifest _ := .error "unexpected payload"
  taxonomyMapper _ := .error "unexpected payload"
  profile _ := .error "unexpected payload"
  message _ _ := .error "unexpected payload"
  validateTrafficReviewPolicy _ := .ok ()
  normalizeModelProfile message := .ok message
  shapeSource _ := .error "unexpected payload"

def shopHttp : Http where
  pathUnescape text := some text
  queryUnescape text := some text
  parseQuery _ := some []
  inflate _ _ _ := none
  jsonTokens _ := []
  jsonConverts _ := true
  boundary _ := none
  parts _ _ := []
  profileDigest _ := "sha256:default"

def shopEdge : Platform where
  verifier := shopVerifier
  http := shopHttp
  matching := shopMatching
  payloads := shopPayloads
  inspect _ view _ := (⟨[], view.coverage, false⟩, false)

def memberPieces (releaseId artifactId payload ttl sig : String) : List String :=
  ["\x7b\"releaseId\":\"", releaseId, "\",\"artifact\":", "\x7b\"id\":\"",
    artifactId, "\",\"kind\":\"KIND_RULE\",", "\"payload\":\"", payload,
    "\",\"payloadSchema\":", "\"rules/v1\",", "\"ttl\":\"", ttl,
    "\",\"signature\":", "\x7b\"sig\":\"", sig, "\"\x7d,\"createdAt\":",
    "\"2026-01-01T00:00:00Z\"\x7d,", "\"assetId\":\"shop\",", "\"mode\":",
    "\"RELEASE_MODE_ENFORCE\"\x7d"]

def shopPieces : List String :=
  ["\x7b\"generationId\":\"gen-1\",", "\"assetId\":\"shop\",",
    "\"generationSeq\":\"1\",", "\"members\":["] ++
  memberPieces "rel-1" unionRule.id
    "W3siaWQiOiJyMSIsInBhdHRlcm4iOiJ1bmlvbiJ9XQ==" "3600s" "czE=" ++ [","] ++
  memberPieces "rel-2" passwdRule.id
    "W3siaWQiOiJyMiIsInBhdHRlcm4iOiJwYXNzd2QifV0=" "2592000s" "czI=" ++
  ["],\"minEdgeVersion\":\"dev\",", "\"notBefore\":",
    "\"2026-01-01T00:00:00Z\",", "\"envelopeSignature\":", "\x7b\"sig\":\"czM=\"\x7d\x7d"]

def shopText : String := concat shopPieces

theorem shopText_size : 0 < shopText.utf8ByteSize ∧ shopText.utf8ByteSize < 1024 := by
  rw [shopText, utf8ByteSize_concat]
  decide +kernel

theorem shopText_lineShaped : LineShaped shopText := by
  have identified : ∀ digest : Vector UInt8 32,
      visible ("sha256:" ++ hexEncode digest.toList) = true := by
    intro _
    rw [visible_append, visible_hexEncode, Bool.and_true]
    decide
  apply lineShaped_of_visible
  · rw [shopText, visible_concat]
    simp only [shopPieces, memberPieces, unionRule, passwdRule, identified,
      List.all_append, List.all_cons, List.all_nil, Bool.true_and]
    decide +kernel
  · intro empty
    have size := shopText_size.1
    simp [empty] at size

def shopCodec : GenerationCodec where
  marshal gen := if gen = shopRules then .ok shopText else .error "other"
  unmarshal line := if line = shopText then .ok shopRules else .error "other"

theorem shopCodec_faithful : shopCodec.Faithful shopRules := by
  have only : ∀ raw, shopCodec.marshal shopRules = .ok raw → raw = shopText := by
    intro _ marshaled
    simpa [shopCodec, eq_comm] using marshaled
  constructor
  · intro raw marshaled
    simp [only raw marshaled, shopCodec]
  · intro raw marshaled
    rw [only raw marshaled]
    exact shopText_lineShaped

theorem saveGenerationCache_first {raw} (marshaled : codec.marshal gen = .ok raw)
    (identified : gen.generationId ≠ "")
    (fits : "".utf8ByteSize + raw.utf8ByteSize + 1 ≤ edgeCacheDiskBytes) :
    saveGenerationCache codec none gen = .ok ("" ++ raw ++ "\n") := by
  simp only [saveGenerationCache, Option.toList_none, List.nil_append,
    List.foldlM_cons, List.foldlM_nil, appendGeneration, identified, if_false, marshaled]
  simp only [bind, Except.bind, ensure, fits, decide_true, if_true, pure, Except.pure]

theorem shopRules_saved :
    saveGenerationCache shopCodec none shopRules = .ok ("" ++ shopText ++ "\n") :=
  saveGenerationCache_first (by simp [shopCodec]) (by decide) (by
      have small := shopText_size.2
      rw [edgeCacheDiskBytes, String.utf8ByteSize_empty]
      omega)

theorem applyGeneration_persist {persist}
    (applied : applyGeneration P now noPersist set gen = .ok set')
    (stored : persist set.activeGen gen = .ok ()) :
    applyGeneration P now persist set gen = .ok set' := by
  obtain ⟨active, next, envelope, placed, compiled, valid, -, rfl⟩ := applyGeneration_ok.mp applied
  exact applyGeneration_ok.mpr ⟨active, next, envelope, placed, compiled, valid, stored, rfl⟩

def shopLoaded : ReleaseSet := reload shopEdge issued (newReleaseSet "dev") shopRules

theorem shopLoaded_active : shopLoaded.activeGen = some shopRules := by
  decide +kernel

theorem shopRules_installed : applyGeneration shopEdge issued (persistCache shopCodec)
      (newReleaseSet "dev") shopRules = .ok shopLoaded := by
  apply applyGeneration_persist
  · apply reload_ok
    change shopLoaded.activeGen ≠ none
    simp [shopLoaded_active]
  · exact map_ok.mpr ⟨_, shopRules_saved, rfl⟩

def passwdRequest : Request where
  assetId := "shop"
  unitId := "edge-1"
  method := "GET"
  path := "/etc/passwd"
  query := ""
  headers := []
  body := []
  clientAddress := ""

def passwdView : CanonicalView where
  method := "GET"
  path := "/etc/passwd"
  query := []
  headers := []
  body := []
  host := "shop"
  rejected := false
  coverage := []
  profileDigest := ""

def shopAction (now : Int) (set : ReleaseSet) : Action :=
  (inspectThenGate shopEdge now set passwdRequest passwdView).1.action

theorem shopAction_running : shopAction (issued + 2 * hour) shopLoaded = .block := by
  decide +kernel

theorem shopAction_restarted : shopAction (issued + 2 * hour)
      (reload shopEdge (issued + 2 * hour) (newReleaseSet "dev") shopRules) = .allow := by
  decide +kernel

/-- After the first rule has expired, a restart also loses the second. -/
theorem restartEquivalent_expired :
    ∃ running file, applyGeneration shopEdge issued (persistCache shopCodec)
        (newReleaseSet "dev") shopRules = .ok running ∧
      running.activeGen = some shopRules ∧ saveGenerationCache shopCodec none shopRules = .ok file ∧
      ¬ RestartEquivalent shopEdge (issued + 2 * hour) running
        (restart shopEdge (issued + 2 * hour) shopCodec "dev" running.posture file) := by
  refine ⟨shopLoaded, _, shopRules_installed, shopLoaded_active, shopRules_saved, fun h => ?_⟩
  rw [restart_saved shopRules_saved (by decide) (by
    simpa using shopCodec_faithful)] at h
  have same := congrArg Decision.action (h.decisions passwdRequest passwdView)
  have running := shopAction_running
  have restarted := shopAction_restarted
  rw [shopAction] at running restarted
  rw [running] at same
  exact absurd (same.trans restarted) (by decide)

theorem shopRules_outlasts : Outlasts issued (issued + hour / 2) shopRules := by
  constructor <;> decide +kernel

/-- Half an hour after loading, a restart changes nothing. -/
theorem restartEquivalent_shop : RestartEquivalent shopEdge (issued + hour / 2)
      (serve shopEdge shopLoaded [⟨issued + 1, passwdRequest, passwdView⟩])
      (restart shopEdge (issued + hour / 2) shopCodec "dev"
        shopLoaded.posture ("" ++ shopText ++ "\n")) :=
  (restartEquivalent_iff _ (by decide) rfl shopRules_installed
    shopLoaded_active shopRules_saved (by decide)
    (by simpa [newReleaseSet] using shopCodec_faithful)).mpr
    shopRules_outlasts

end YuFeng.Edge

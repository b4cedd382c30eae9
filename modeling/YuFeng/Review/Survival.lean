import YuFeng.Review.Retained

/-!
# What survives of the evidence

The fragments of a bundle are read handle by handle.  When the bundle is
whole, the brain accepts it and has every field as the edge stored it, unless
a value was cut or a text is too long for the brain.
-/

namespace YuFeng.Evidence

open YuFeng.Library
open YuFeng.Review (validSHA256Reference_digest)

variable {C : Codec} {R : Recorder}

variable {projections after : Projections} {handle : String} {S : Services}
  {allowed : List String} {field : EvidenceField}

/-! ## Reading the fragments -/

def Codec.readOne (C : Codec) (projection : ControlledEvidenceProjection)
    (fragment : EvidenceFragment) :
    Except String ControlledEvidenceProjection := do
  ensure (fragment.content.length ≤ trafficReviewEvidenceBytes)
    "controlled evidence fragment is invalid"
  C.project projection fragment

theorem readFragment_ok {fragment} :
    C.readFragment projections fragment = .ok after ↔
      ∃ p, C.readOne ((projections.find? fragment.evidenceHandle).getD {}) fragment = .ok p ∧
        after = projections.set fragment.evidenceHandle p := by
  constructor
  · intro h
    obtain ⟨short, h⟩ := ensure_bind_ok.mp h
    obtain ⟨p, read, h⟩ := bind_ok.mp h
    cases h
    exact ⟨p, ensure_bind_ok.mpr ⟨short, read⟩, rfl⟩
  · rintro ⟨p, read, rfl⟩
    obtain ⟨short, read⟩ := ensure_bind_ok.mp read
    exact ensure_bind_ok.mpr ⟨short, bind_ok.mpr ⟨p, read, rfl⟩⟩

section Groups

variable {group : String → List EvidenceFragment} {handles : List String}

section

open List

def Grouped (group : String → List EvidenceFragment) (handles : List String) : Prop :=
  ∀ handle ∈ handles, group handle ≠ [] ∧
    ∀ fragment ∈ group handle, fragment.evidenceHandle = handle

theorem Grouped.later (grouped : Grouped group (handle :: handles)) : Grouped group handles :=
  fun other member => grouped other (mem_cons_of_mem _ member)

theorem Grouped.filter (grouped : Grouped group handles) (distinct : handles.Nodup) (handle) :
    (handles.flatMap group).filter (·.evidenceHandle = handle) =
      if handle ∈ handles then group handle else [] := by
  induction handles with
  | nil => rfl
  | cons first _ ih =>
    rw [nodup_cons] at distinct
    have own := (grouped first mem_cons_self).2
    rw [flatMap_cons, filter_append, ih grouped.later distinct.2]
    by_cases same : first = handle
    · subst same
      rw [filter_eq_self.mpr (by simpa using own), if_neg distinct.1, if_pos mem_cons_self,
        append_nil]
    · rw [filter_eq_nil_iff.mpr (fun f member => by simp [own f member, same]), nil_append]
      simp [Ne.symm same]

theorem foldlM_readFragment {fragments : List EvidenceFragment}
    (h : fragments.foldlM C.readFragment projections = .ok after) (handle) :
    (fragments.filter (·.evidenceHandle = handle)).foldlM C.readOne
        ((projections.find? handle).getD {}) = .ok ((after.find? handle).getD {}) ∧
      (after.find? handle = none ↔ projections.find? handle = none ∧
        ∀ fragment ∈ fragments, fragment.evidenceHandle ≠ handle) := by
  induction fragments generalizing projections with
  | nil =>
    cases h
    simp [pure, Except.pure]
  | cons fragment _ ih =>
    obtain ⟨_, step, rest⟩ := bind_ok.mp h
    obtain ⟨p, read, rfl⟩ := readFragment_ok.mp step
    obtain ⟨reads, absent⟩ := ih rest
    rw [forall_mem_cons]
    by_cases own : fragment.evidenceHandle = handle
    · subst own
      rw [Table.find?_set_self] at reads absent
      rw [filter_cons_of_pos (by simp)]
      exact ⟨bind_ok.mpr ⟨p, read, reads⟩, by simpa using absent⟩
    · rw [Table.find?_set_of_ne (Ne.symm own)] at reads absent
      rw [filter_cons_of_neg (by simpa using own)]
      exact ⟨reads, by simp [absent, own]⟩

theorem foldlM_readFragment_succeeds {fragments : List EvidenceFragment}
    (reads : ∀ handle, ∃ p, (fragments.filter (·.evidenceHandle = handle)).foldlM C.readOne
      ((projections.find? handle).getD {}) = .ok p) :
    ∃ after, fragments.foldlM C.readFragment projections = .ok after := by
  induction fragments generalizing projections with
  | nil => exact ⟨projections, rfl⟩
  | cons fragment _ ih =>
    obtain ⟨q, first⟩ := reads fragment.evidenceHandle
    rw [filter_cons_of_pos (by simp)] at first
    obtain ⟨p, read, rest⟩ := bind_ok.mp first
    obtain ⟨after, folded⟩ := @ih (projections.set fragment.evidenceHandle p) fun handle => by
      by_cases own : fragment.evidenceHandle = handle
      · subst own
        rw [Table.find?_set_self]
        exact ⟨q, rest⟩
      · rw [Table.find?_set_of_ne (Ne.symm own)]
        have later := reads handle
        rwa [filter_cons_of_neg (by simpa using own)] at later
    exact ⟨after, bind_ok.mpr ⟨_, readFragment_ok.mpr ⟨p, read, rfl⟩, folded⟩⟩

end

end Groups

section

open List

/-! ## The fragments of a document -/

def Services.wholeFragments (S : Services) (allowed : List String)
    (handle : String) (document : EvidenceDocument) :
    List EvidenceFragment :=
  ((S.parts document).filter fun part =>
    allowed.contains part.1 && !part.2.isEmpty).map fun part => S.fragment handle part.1 part.2

def EvidenceDocument.partFields (document : EvidenceDocument)
    (name : String) : List EvidenceField :=
  if name = "query" then document.queryFields
  else if name = "body" then document.bodyFields
  else []

def recorded (allowed : List String) (document : EvidenceDocument) : List EvidenceField :=
  (if allowed.contains "query" then document.queryFields else []) ++
    (if allowed.contains "body" then document.bodyFields else [])

theorem parts_cases {document part} (h : part ∈ S.parts document) :
    part = ("method", utf8 document.method) ∨ part = ("path", utf8 document.routeTemplate) ∨
      part = ("query", S.marshalFields document.queryFields) ∨
      part = ("body", S.marshalBody (document.body document.bodyFields)) := by
  simp only [Services.parts, mem_append, mem_cons, not_mem_nil, or_false] at h
  rcases h with ((method | path) | query) | body
  · exact .inl method
  · exact .inr (.inl path)
  · split at query
    · exact .inr (.inr (.inl (mem_singleton.mp query)))
    · cases query
  · split at body
    · exact .inr (.inr (.inr (mem_singleton.mp body)))
    · cases body

theorem map_sanitized_query (document : EvidenceDocument) :
    document.sanitized.queryFields.map EvidenceField.sanitized =
      document.sanitized.queryFields := by
  simp [queryFields_sanitized, Function.comp_def]

theorem map_sanitized_body (document : EvidenceDocument) :
    document.sanitized.bodyFields.map EvidenceField.sanitized =
      document.sanitized.bodyFields := by
  simp [bodyFields_sanitized, Function.comp_def]

theorem project_part (lawful : C.Lawful) {document : EvidenceDocument} {handle}
    {part : String × Bytes} (h : part ∈ C.parts document.sanitized)
    (p : ControlledEvidenceProjection) :
    ∃ q, C.project p (C.fragment handle part.1 part.2) = .ok q ∧
      q.fields = p.fields ++ document.sanitized.partFields part.1 := by
  rcases parts_cases h with rfl | rfl | rfl | rfl
  iterate 2 exact ⟨_, rfl, by simp [EvidenceDocument.partFields]⟩
  · refine ⟨_, bind_ok.mpr ⟨_, lawful.fields _, rfl⟩, ?_⟩
    simp [EvidenceDocument.partFields, map_sanitized_query]
  · refine ⟨_, bind_ok.mpr ⟨_, lawful.body _, rfl⟩, ?_⟩
    simp [EvidenceDocument.partFields, EvidenceBody.sanitized,
      EvidenceDocument.body, map_sanitized_body]

theorem readOne_parts (lawful : C.Lawful) {document : EvidenceDocument} {handle}
    {parts : List (String × Bytes)} (known : ∀ part ∈ parts, part ∈ C.parts document.sanitized)
    (p : ControlledEvidenceProjection) :
    ((∃ q, (parts.map fun part => C.fragment handle part.1 part.2).foldlM C.readOne p = .ok q) ↔
      ∀ part ∈ parts, part.2.length ≤ trafficReviewEvidenceBytes) ∧
    ∀ q, (parts.map fun part => C.fragment handle part.1 part.2).foldlM C.readOne p = .ok q →
      q.fields = p.fields ++ parts.flatMap fun part => document.sanitized.partFields part.1 := by
  induction parts generalizing p with
  | nil =>
    refine ⟨by simp [pure, Except.pure], ?_⟩
    intro _ h
    cases h
    simp
  | cons part parts ih =>
    rw [forall_mem_cons] at known
    obtain ⟨middle, projected, fields⟩ := @project_part C lawful document handle part known.1 p
    have step : ∀ q, ((part :: parts).map fun part =>
          C.fragment handle part.1 part.2).foldlM C.readOne p = .ok q ↔
        part.2.length ≤ trafficReviewEvidenceBytes ∧
          (parts.map fun part => C.fragment handle part.1 part.2).foldlM
            C.readOne middle = .ok q := by
      intro _
      constructor
      · intro h
        obtain ⟨_, read, rest⟩ := bind_ok.mp h
        obtain ⟨short, read⟩ := ensure_bind_ok.mp read
        rw [projected] at read
        cases read
        exact ⟨of_decide_eq_true short, rest⟩
      · rintro ⟨short, rest⟩
        refine bind_ok.mpr ⟨middle, ?_, rest⟩
        exact ensure_bind_ok.mpr ⟨decide_eq_true short, projected⟩
    obtain ⟨succeeds, content⟩ := ih known.2 middle
    constructor
    · rw [forall_mem_cons, ← succeeds]
      simp only [step]
      constructor
      · rintro ⟨q, short, rest⟩
        exact ⟨short, q, rest⟩
      · rintro ⟨short, q, rest⟩
        exact ⟨q, short, rest⟩
    · intro q h
      rw [content q ((step q).mp h).2, fields]
      simp

theorem single_part {content : Bytes} (filled : content ≠ []) (allowed : List String)
    (document : EvidenceDocument) (name) :
    ([(name, content)].filter fun part =>
        allowed.contains part.1 && !part.2.isEmpty).flatMap
      (fun part => document.partFields part.1) =
      if allowed.contains name then document.partFields name else [] := by
  have kept : content.isEmpty = false := by simpa using filled
  cases asked : allowed.contains name <;>
    simp only [filter_cons, asked, kept] <;> simp

theorem recorded_parts (lawful : C.Lawful) (allowed : List String) (document : EvidenceDocument) :
    (((C.parts document).filter fun part =>
        allowed.contains part.1 && !part.2.isEmpty).flatMap
      fun part => document.partFields part.1) = recorded allowed document := by
  have plain : ([("method", utf8 document.method),
      ("path", utf8 document.routeTemplate)].filter fun part =>
        allowed.contains part.1 && !part.2.isEmpty).flatMap
      (fun part => document.partFields part.1) = [] := by
    rw [flatMap_eq_nil_iff]
    intro _ kept
    have member := mem_of_mem_filter kept
    simp only [mem_cons, not_mem_nil, or_false] at member
    rcases member with rfl | rfl <;> rfl
  have query := lawful.fieldsText document.queryFields
  have body := lawful.bodyText (document.body document.bodyFields)
  simp only [Services.parts, filter_append, flatMap_append, recorded]
  rw [plain, nil_append]
  congr 1
  · by_cases none : document.queryFields = []
    · simp [none]
    · rw [if_pos none, single_part query]
      rfl
  · by_cases there : document.contentType ≠ "" ∨
        0 < document.contentLength ∨ document.bodyFields ≠ []
    · rw [if_pos there, single_part body]
      rfl
    · rw [if_neg there]
      simp only [not_or, not_not] at there
      simp [there.2.2]

/-! ## The documents of a bundle -/

theorem collect_validated {vault handles limit acc all}
    (h : S.collect vault allowed limit handles acc = .ok all) :
    ∀ handle ∈ handles, ∃ raw document, vault handle = .ok (some raw) ∧
      S.decodeDocument raw = .ok document ∧ S.validateEvidenceDocument document = .ok () := by
  induction handles generalizing acc with
  | nil => simp
  | cons _ _ ih =>
    obtain ⟨_, first, h⟩ := bind_ok.mp h
    rw [forall_mem_cons]
    refine ⟨?_, ih h⟩
    obtain ⟨stored, found, first⟩ := bind_ok.mp first
    cases stored with
    | none => cases first
    | some raw =>
      obtain ⟨document, decoded, first⟩ := bind_ok.mp first
      obtain ⟨_, valid, _⟩ := bind_ok.mp first
      exact ⟨raw, document, found, decoded, valid⟩

theorem validateField_ok {seen out} (h : S.validateField seen field = .ok out) :
    S.toLower (trimSpace field.selector) ∉ seen ∧
      out = S.toLower (trimSpace field.selector) :: seen := by
  obtain ⟨checked, h⟩ := ensure_bind_ok.mp h
  obtain ⟨_, _, h⟩ := bind_ok.mp h
  cases h
  simp only [Bool.and_eq_true, Bool.not_eq_true', contains_eq_mem,
    decide_eq_false_iff_not] at checked
  exact ⟨checked.2, rfl⟩

theorem foldlM_validateField {fields : List EvidenceField} {seen out}
    (h : fields.foldlM S.validateField seen = .ok out) :
    (∀ field ∈ fields, S.toLower (trimSpace field.selector) ∉ seen) ∧ (fields.map fun field =>
        S.toLower (trimSpace field.selector)).Nodup := by
  induction fields generalizing seen with
  | nil => simp
  | cons _ _ ih =>
    obtain ⟨_, first, h⟩ := bind_ok.mp h
    obtain ⟨fresh, rfl⟩ := validateField_ok first
    obtain ⟨apart, distinct⟩ := ih h
    simp only [mem_cons, not_or] at apart
    rw [forall_mem_cons, map_cons, nodup_cons]
    refine ⟨⟨fresh, fun f member => (apart f member).2⟩, ?_, distinct⟩
    intro member
    obtain ⟨f, there, same⟩ := mem_map.mp member
    exact (apart f there).1 same

theorem selectors_nodup {document : EvidenceDocument}
    (valid : S.validateEvidenceDocument document = .ok ()) :
    (document.fields.map EvidenceField.selector).Nodup := by
  obtain ⟨_, valid⟩ := ensure_bind_ok.mp valid
  obtain ⟨_, folded, _⟩ := bind_ok.mp valid
  have distinct := (foldlM_validateField folded).2
  refine Nodup.of_map (fun s => S.toLower (trimSpace s)) ?_
  simpa [Function.comp_def] using distinct

theorem recorded_selectors {document}
    (distinct : (document.fields.map EvidenceField.selector).Nodup) (allowed) :
    ((recorded allowed document).map EvidenceField.selector).Nodup := by
  have both : ((document.queryFields ++ document.bodyFields).map EvidenceField.selector).Nodup := by
    rw [map_append, nodup_append]
    refine ⟨distinct.sublist (filter_sublist.map _), distinct.sublist (filter_sublist.map _), ?_⟩
    intro _ query _ body same
    obtain ⟨field, in_query, rfl⟩ := mem_map.mp query
    obtain ⟨field', in_body, rfl⟩ := mem_map.mp body
    have first := mem_filter.mp in_query
    have second := mem_filter.mp in_body
    have one : field = field' := inj_on_of_nodup_map distinct first.1 second.1 same
    rw [one, beq_iff_eq] at first
    rw [beq_iff_eq, first.2] at second
    exact absurd second.2 (by decide)
  refine both.sublist (Sublist.map _ ?_)
  unfold recorded
  refine Sublist.append ?_ ?_ <;> split
  all_goals first | exact Sublist.refl _ | exact nil_sublist _

theorem mem_recorded {document} :
    field ∈ recorded allowed document ↔ field ∈ document.fields ∧ field.surface ∈ allowed ∧
        (field.surface = "query" ∨ field.surface = "body") := by
  have part : ∀ name : String, (field ∈ if allowed.contains name then
        document.fields.filter (·.surface == name) else []) ↔
      field ∈ document.fields ∧ field.surface ∈ allowed ∧ field.surface = name := by
    intro name
    by_cases asked : name ∈ allowed
    · simp only [contains_eq_mem, asked, decide_true, if_true, mem_filter, beq_iff_eq]
      constructor
      · rintro ⟨member, rfl⟩
        exact ⟨member, asked, rfl⟩
      · rintro ⟨member, _, same⟩
        exact ⟨member, same⟩
    · simp only [contains_eq_mem, asked, decide_false]
      constructor
      · simp
      · rintro ⟨_, allowed, rfl⟩
        exact absurd allowed asked
  rw [recorded, mem_append, EvidenceDocument.queryFields, EvidenceDocument.bodyFields, part, part,
    ← and_or_left, ← and_or_left]

theorem recorded_sanitized (allowed document) :
    recorded allowed document.sanitized =
      (recorded allowed document).map EvidenceField.sanitized := by
  rw [recorded, recorded, map_append, queryFields_sanitized, bodyFields_sanitized]
  congr 1
  · split <;> rfl
  · split <;> rfl

/-! ## Survival -/

/-- The exchange that a document was recorded for, and the byte limit. -/
structure Origin where
  req : Edge.Request
  dec : Edge.Decision
  routeTemplate : String
  limit : Int

def Origin.observed (C : Codec) (R : Recorder) (origin : Origin) : List Observed :=
  C.observedValues R origin.req origin.dec

def Origin.document (C : Codec) (R : Recorder) (origin : Origin) : EvidenceDocument :=
  C.controlledTrafficEvidence R origin.req origin.dec origin.routeTemplate

structure Stores (C : Codec) (R : Recorder) (vault : Vault)
    (handle : String) (origin : Origin) (stored : EvidenceDocument) :
    Prop where
  positive : 0 < origin.limit
  bounded : C.bound origin.limit.toNat (origin.document C R) = .ok stored
  kept : vault handle = .ok (some (C.marshalDocument stored))

/-- No value that is asked for is too long or was cut, and no text is too
long for the reader. -/
structure Retainable (C : Codec) (R : Recorder) (allowed : List String)
    (origin : Origin) (stored : EvidenceDocument) : Prop where
  parts : ∀ part ∈ C.parts stored.sanitized, part.1 ∈ allowed →
    part.2.length ≤ trafficReviewEvidenceBytes
  fields : ∀ (i : Nat) (o : Observed) (field : EvidenceField),
    (origin.observed C R)[i]? = some o → stored.fields[i]? = some field → field.surface ∈ allowed →
        o.value.length ≤ trafficReviewEvidenceBytes ∧ (field.value ≠ [] → Whole o.value)

/-- The hash tells the values of a document from what is kept of them. -/
def CollisionFree (C : Codec) (observed : List Observed) : Prop :=
  ∀ o ∈ observed, C.sum256 (keptValue o.value) = C.sum256 o.value → keptValue o.value = o.value

/-- The brain accepts the fragments and has the fields of every document as
the edge stored them. -/
def Survives (C : Codec) (allowed handles : List String) (stored : String → EvidenceDocument)
    (fragments : List EvidenceFragment) : Prop :=
  ∃ projections, C.parseControlledEvidence fragments = .ok projections ∧
    ∀ handle ∈ handles, ∃ p, projections.find? handle = some p ∧
      p.fields = recorded allowed (stored handle)

end

section Document

variable {allowed : List String} {origin : Origin} {stored : EvidenceDocument}

section

open List

theorem bound_stored (bounded : C.bound origin.limit.toNat (origin.document C R) = .ok stored) :
    Trimmed C.toServices R (origin.observed C R) stored.fields := by
  refine bound_trimmed (fun i field found => ?_) bounded
  have fields : (origin.document C R).fields = (origin.observed C R).map (C.recordField R) := rfl
  rw [fields, getElem?_map, Option.map_eq_some_iff] at found
  obtain ⟨o, seen, rfl⟩ := found
  exact ⟨o, seen, .inl rfl⟩

theorem truncateSelector_ne_empty {selector} (filled : selector ≠ "") :
    truncateSelector selector 128 ≠ "" := by
  intro empty
  have none := congrArg String.toList empty
  rw [truncateSelector, String.toList_ofList, String.toList_empty, take_eq_nil_iff] at none
  rcases none with _ | none
  · omega
  · exact filled (String.toList_eq_nil_iff.mp none)

theorem checked_iff {o} (as : StoredAs C.toServices R o field) (placed : Placed o)
    (free : C.sum256 (keptValue o.value) = C.sum256 o.value → keptValue o.value = o.value) :
    Checked C.toServices field.sanitized ↔ o.value.length ≤ trafficReviewEvidenceBytes ∧
        (field.value ≠ [] → Whole o.value) := by
  obtain ⟨length, digest, selector, -⟩ := as.labels
  rw [← as.matching_iff free]
  constructor
  · intro checked
    have short := checked.length
    simp only [EvidenceField.sanitized, length] at short
    exact ⟨by omega, checked.value⟩
  · rintro ⟨_, value⟩
    refine ⟨?_, ?_, ?_, ?_, value⟩
    · simp only [EvidenceField.sanitized, selector]
      exact truncateSelector_ne_empty placed.1
    · simp only [EvidenceField.sanitized, length]
      omega
    · simp only [EvidenceField.sanitized, length]
      omega
    · simp only [EvidenceField.sanitized, digest]
      exact validSHA256Reference_digest _

theorem Retainable.whole_fields (h : Retainable C R allowed origin stored)
    (trimmed : Trimmed C.toServices R (origin.observed C R) stored.fields) :
    (recorded allowed stored).map EvidenceField.sanitized = recorded allowed stored := by
  refine (map_congr_left fun field member => ?_).trans (map_id _)
  obtain ⟨present, asked, _⟩ := mem_recorded.mp member
  obtain ⟨i, at_i⟩ := mem_iff_getElem?.mp present
  obtain ⟨o, seen, as⟩ := trimmed i field at_i
  exact as.sanitized_eq (h.fields i o field seen at_i asked).2

def Readable (C : Codec) (allowed : List String) (handle : String)
    (stored : EvidenceDocument) : Prop :=
  ∃ p, (C.wholeFragments allowed handle stored.sanitized).foldlM C.readOne {} = .ok p ∧
    C.checkProjection p = .ok () ∧ p.fields = recorded allowed stored

theorem readable_iff (lawful : C.Lawful) (trimmed : Trimmed C.toServices R (origin.observed C R)
      stored.fields) (free : CollisionFree C (origin.observed C R))
    (distinct : (stored.fields.map EvidenceField.selector).Nodup) :
    Readable C allowed handle stored ↔ Retainable C R allowed origin stored := by
  have placed := observedValues_placed (R := R) C.toServices origin.req origin.dec
  let asked := (C.parts stored.sanitized).filter fun part =>
    allowed.contains part.1 && !part.2.isEmpty
  have known : ∀ part ∈ asked, part ∈ C.parts stored.sanitized :=
    fun part member => mem_of_mem_filter member
  obtain ⟨succeeds, content⟩ := @readOne_parts C lawful stored handle asked known {}
  have fields : asked.flatMap (fun part => stored.sanitized.partFields part.1) =
        (recorded allowed stored).map EvidenceField.sanitized := by
    rw [recorded_parts lawful, recorded_sanitized]
  constructor
  · rintro ⟨p, read, checked, _⟩
    obtain ⟨passes, -⟩ := checkProjection_ok.mp checked
    refine ⟨fun part member wanted => ?_, fun i o field seen at_i wanted => ?_⟩
    · by_cases empty : part.2 = []
      · simp [empty]
      · have kept : part ∈ asked := by
          simp [asked, member, wanted, empty]
        exact succeeds.mp ⟨p, read⟩ part kept
    · obtain ⟨o', seen', as⟩ := trimmed i field at_i
      obtain rfl : o' = _ := Option.mem_unique seen' seen
      have there := mem_of_getElem? seen
      have surface : field.surface = "query" ∨ field.surface = "body" := by
        rw [as.labels.2.2.2]
        exact (placed o' there).2
      have member : field ∈ recorded allowed stored :=
        mem_recorded.mpr ⟨mem_of_getElem? at_i, wanted, surface⟩
      have sanitized : field.sanitized ∈ p.fields := by
        rw [content p read, fields]
        exact mem_append_right _ (mem_map_of_mem member)
      exact (checked_iff as (placed o' there) (free o' there)).mp (passes _ sanitized)
  · intro retainable
    obtain ⟨p, read⟩ := succeeds.mpr fun part member => by
      obtain ⟨present, kept⟩ := mem_filter.mp member
      simp only [Bool.and_eq_true, contains_iff_mem] at kept
      exact retainable.parts part present kept.1
    have same : p.fields = recorded allowed stored := by
      rw [content p read, fields, retainable.whole_fields trimmed]
      rfl
    refine ⟨p, read, checkProjection_ok.mpr ⟨?_, ?_⟩, same⟩
    · intro field member
      rw [same] at member
      obtain ⟨present, wanted, _⟩ := mem_recorded.mp member
      obtain ⟨i, at_i⟩ := mem_iff_getElem?.mp present
      obtain ⟨o, seen, as⟩ := trimmed i field at_i
      have there := mem_of_getElem? seen
      have whole := retainable.fields i o field seen at_i wanted
      have checked := (checked_iff as (placed o there) (free o there)).mpr whole
      rwa [as.sanitized_eq whole.2] at checked
    · rw [same]
      exact recorded_selectors distinct allowed

end

end Document

section Bundle

variable {request : EvidenceRequest} {vault : Vault} {now : Int}
  {bundle : SubmitEvidenceBundleRequest} {origin : String → Origin}
  {stored : String → EvidenceDocument}

def Codec.wholeBundle (C : Codec) (request : EvidenceRequest)
    (stored : String → EvidenceDocument) : List EvidenceFragment :=
  request.evidenceHandles.flatMap fun handle =>
    C.wholeFragments request.allowedFields handle (stored handle).sanitized

theorem wholeFragments_own {document fragment}
    (member : fragment ∈ C.wholeFragments allowed handle document) :
    fragment.evidenceHandle = handle := by
  obtain ⟨_, _, rfl⟩ := List.mem_map.mp member
  rfl

theorem wholeBundle_grouped (built : C.buildEvidenceBundle (some vault) request now = .ok bundle)
    (whole : bundle.fragments = C.wholeBundle request stored) :
    Grouped (fun handle => C.wholeFragments request.allowedFields handle
      (stored handle).sanitized) request.evidenceHandles := by
  intro handle member
  refine ⟨?_, fun fragment => wholeFragments_own⟩
  obtain ⟨_, present, same⟩ := (buildEvidenceBundle_ok built).collects.covered handle member
  rw [whole, Codec.wholeBundle, List.mem_flatMap] at present
  obtain ⟨other, _, there⟩ := present
  obtain rfl : handle = _ := same.symm.trans (wholeFragments_own there)
  exact List.ne_nil_of_mem there

theorem stored_selectors (lawful : C.Lawful) (stores : ∀ handle ∈ request.evidenceHandles,
      Stores C R vault handle (origin handle) (stored handle))
    (built : C.buildEvidenceBundle (some vault) request now = .ok bundle) :
    ∀ handle ∈ request.evidenceHandles,
      ((stored handle).fields.map EvidenceField.selector).Nodup := by
  intro handle member
  obtain ⟨_, _, same, _, _, collected, _⟩ := buildEvidenceBundle_inv built
  cases same
  obtain ⟨_, _, found, decoded, valid⟩ := collect_validated collected handle member
  rw [(stores handle member).kept] at found
  cases found
  rw [lawful.document] at decoded
  cases decoded
  have distinct := selectors_nodup valid
  simpa [EvidenceDocument.sanitized, Function.comp_def, EvidenceField.sanitized] using distinct

theorem survives_iff_readable {handles : List String} (distinct : handles.Nodup)
    (grouped : Grouped (fun handle => C.wholeFragments allowed handle
      (stored handle).sanitized) handles) :
    Survives C allowed handles stored (handles.flatMap fun handle =>
        C.wholeFragments allowed handle (stored handle).sanitized) ↔
      ∀ handle ∈ handles, Readable C allowed handle (stored handle) := by
  constructor
  · rintro ⟨_, parsed, fields⟩ handle member
    obtain ⟨_, folded, rest⟩ := bind_ok.mp parsed
    obtain ⟨_, checks, rest⟩ := bind_ok.mp rest
    cases rest
    obtain ⟨p, found, same⟩ := fields handle member
    have read := (foldlM_readFragment folded handle).1
    rw [grouped.filter distinct, if_pos member, found] at read
    exact ⟨p, read, forM_ok.mp checks _ (Table.mem_iff_find?.mpr found), same⟩
  · intro readable
    obtain ⟨after, folded⟩ := @foldlM_readFragment_succeeds C .empty _ fun handle => by
      rw [grouped.filter distinct]
      split
      next member => exact (readable handle member).imp fun _ => And.left
      · exact ⟨_, rfl⟩
    have row : ∀ handle ∈ handles, ∃ p, after.find? handle = some p ∧ C.checkProjection p = .ok () ∧
          p.fields = recorded allowed (stored handle) := by
      intro handle member
      obtain ⟨read, absent⟩ := foldlM_readFragment folded handle
      rw [grouped.filter distinct, if_pos member] at read
      obtain ⟨q, read', checked, same⟩ := readable handle member
      obtain rfl : q = _ := Except.ok.inj (read'.symm.trans read)
      obtain ⟨filled, own⟩ := grouped handle member
      obtain ⟨fragment, first⟩ := List.exists_mem_of_ne_nil _ filled
      cases found : after.find? handle with
      | none =>
        exact absurd (own fragment first)
          ((absent.mp found).2 fragment (List.mem_flatMap.mpr ⟨handle, member, first⟩))
      | some p =>
        rw [found] at checked same
        exact ⟨p, rfl, checked, same⟩
    refine ⟨after, bind_ok.mpr ⟨after, folded, bind_ok.mpr ⟨(), ?_, rfl⟩⟩, fun handle member => ?_⟩
    · rw [forM_ok]
      intro entry present
      have found := Table.mem_iff_find?.mp present
      by_cases member : entry.1 ∈ handles
      · obtain ⟨p, found', checked, _⟩ := row entry.1 member
        obtain rfl : entry.2 = _ := Option.mem_unique found found'
        exact checked
      · have absent := (foldlM_readFragment folded entry.1).2.mpr ⟨rfl, fun f present same => ?_⟩
        · cases found.symm.trans absent
        · obtain ⟨handle, known, inside⟩ := List.mem_flatMap.mp present
          exact member (same ▸ (grouped handle known).2 f inside ▸ known)
    · obtain ⟨p, found, _, same⟩ := row handle member
      exact ⟨p, found, same⟩

theorem evidence_survives_iff (lawful : C.Lawful) (stores : ∀ handle ∈ request.evidenceHandles,
      Stores C R vault handle (origin handle) (stored handle))
    (built : C.buildEvidenceBundle (some vault) request now = .ok bundle)
    (whole : bundle.fragments = C.wholeBundle request stored)
    (free : ∀ handle ∈ request.evidenceHandles, CollisionFree C ((origin handle).observed C R)) :
    Survives C request.allowedFields request.evidenceHandles stored bundle.fragments ↔
      ∀ handle ∈ request.evidenceHandles, Retainable C R request.allowedFields (origin handle)
          (stored handle) := by
  have distinct := (buildEvidenceBundle_ok built).handles
  have selectors := stored_selectors lawful stores built
  rw [whole, Codec.wholeBundle, survives_iff_readable distinct (wholeBundle_grouped built whole)]
  refine forall₂_congr fun handle member => ?_
  exact readable_iff lawful (bound_stored (stores handle member).bounded)
    (free handle member) (selectors handle member)

end Bundle

/-! ## A search -/

def packChunk (chunk : Bytes) : Bytes := chunk.flatMap (fun byte => [1, byte]) ++ [0]

def pack (chunks : List Bytes) : Bytes := chunks.flatMap packChunk

def unpackFrom : Bytes → Bytes → List Bytes
  | _, [] => []
  | chunk, [marker] => if marker = 0 then [chunk] else []
  | chunk, marker :: byte :: rest =>
    if marker = 0 then chunk :: unpackFrom [] (byte :: rest)
    else unpackFrom (chunk ++ [byte]) rest

theorem unpackFrom_packChunk (chunk before rest : Bytes) :
    unpackFrom before (packChunk chunk ++ rest) = (before ++ chunk) :: unpackFrom [] rest := by
  induction chunk generalizing before with
  | nil => cases rest <;> simp [packChunk, unpackFrom]
  | cons byte chunk ih =>
    have split : packChunk (byte :: chunk) ++ rest =
        1 :: byte :: (packChunk chunk ++ rest) := by
      simp [packChunk]
    rw [split, unpackFrom, if_neg (by decide), ih]
    simp

theorem unpack_pack (chunks) : unpackFrom [] (pack chunks) = chunks := by
  induction chunks with
  | nil => rfl
  | cons _ _ ih =>
    rw [pack, List.flatMap_cons, unpackFrom_packChunk, ← pack, ih]
    rfl

def numberChunk (n : Int) : Bytes := (if n < 0 then 1 else 0) :: List.replicate n.natAbs 0

def chunkNumber : Bytes → Int
  | [] => 0
  | sign :: rest => if sign = 0 then rest.length else -rest.length

theorem chunkNumber_numberChunk (n : Int) : chunkNumber (numberChunk n) = n := by
  unfold numberChunk
  split
  · rw [chunkNumber, if_neg (by decide), List.length_replicate]
    omega
  · rw [chunkNumber, if_pos rfl, List.length_replicate]
    omega

def chunkText (chunk : Bytes) : String := String.ofList (runes chunk)

theorem chunkText_utf8 (s) : chunkText (utf8 s) = s := by
  simp [chunkText, utf8_eq]

def fieldChunks (field : EvidenceField) : List Bytes :=
  [utf8 field.selector, utf8 field.surface, numberChunk field.length,
    utf8 field.charset, utf8 field.digest, field.value]

def chunksFields : List Bytes → List EvidenceField
  | selector :: surface :: length :: charset :: digest :: value :: rest =>
    ⟨chunkText selector, chunkText surface, chunkNumber length,
      chunkText charset, chunkText digest, sanitize value⟩ ::
      chunksFields rest
  | _ => []

theorem chunksFields_fieldChunks (fields : List EvidenceField) :
    chunksFields (fields.flatMap fieldChunks) = fields.map EvidenceField.sanitized := by
  induction fields with
  | nil => rfl
  | cons _ _ ih =>
    simp only [List.flatMap_cons, fieldChunks, List.cons_append,
      List.nil_append, chunksFields, ih, chunkText_utf8, chunkNumber_numberChunk, List.map_cons]
    rfl

def chunkCodec : Codec where
  marshalDocument document := pack ([utf8 document.method,
    utf8 document.routeTemplate, utf8 document.contentType,
    numberChunk document.contentLength] ++ document.fields.flatMap fieldChunks)
  decodeDocument raw :=
    match unpackFrom [] raw with
    | method :: route :: type :: length :: rest =>
      .ok ⟨chunkText method, chunkText route, chunkText type, chunkNumber length, chunksFields rest⟩
    | _ => .error "document"
  marshalFields fields := pack ([] :: fields.flatMap fieldChunks)
  unmarshalFields raw := .ok (chunksFields (unpackFrom [] raw).tail)
  marshalBody body := pack ([utf8 body.contentType,
    numberChunk body.contentLength] ++ body.fields.flatMap fieldChunks)
  unmarshalBody raw :=
    match unpackFrom [] raw with
    | type :: length :: rest =>
      .ok ⟨chunkText type, chunkNumber length, chunksFields rest⟩
    | _ => .error "body"
  sum256 content := Vector.replicate 32 (UInt8.ofNat content.length)
  toLower := Library.toLower

theorem chunkCodec_lawful : chunkCodec.Lawful where
  document document := by
    simp only [chunkCodec, unpack_pack, List.cons_append, List.nil_append,
      chunkText_utf8, chunkNumber_numberChunk, chunksFields_fieldChunks]
    rfl
  fields fields := by
    simp [chunkCodec, unpack_pack, chunksFields_fieldChunks]
  body body := by
    simp only [chunkCodec, unpack_pack, List.cons_append, List.nil_append,
      chunkText_utf8, chunkNumber_numberChunk, chunksFields_fieldChunks]
    rfl
  fieldsText fields := by simp [chunkCodec, pack, packChunk]
  bodyText body := by simp [chunkCodec, pack, packChunk]

def searchRecorder : Recorder where
  parseMediaType _ := none
  queryValue query name := if name = "q" then some (query.drop 2) else none
  jsonField _ _ := none
  credentialName _ := false
  secretMaterial _ := false

def searchOrigin (text : String) : Origin where
  req := {
    assetId := "shop"
    unitId := "edge-1"
    method := "GET"
    path := "/search"
    query := "q=" ++ text
    headers := []
    body := []
    clientAddress := "" }
  dec := {
    action := .observe
    wouldHaveBlocked := false
    verdicts := []
    observations := []
    inspection := {
      detections := [{
        inspectorId := "crs"
        ruleId := "942100"
        «class» := .sqli
        score := 5
        location := .query
        selector := "query.q"
        phase := ""
        version := ""
        manifestDigest := ""
        profileDigest := "" }]
      coverage := []
      rejected := false }
    posture := .reverseProxy }
  routeTemplate := "/search"
  limit := 8192

def searchRequest : EvidenceRequest where
  requestId := "evidence_1"
  approvalId := "approval_1"
  caseId := "case_1"
  assetId := "shop"
  unitId := "edge-1"
  evidenceHandles := ["ev-1"]
  allowedFields := ["method", "path", "query"]
  maxBytes := 30000
  modelConfigDigest := ""
  expiresAt := some 1000
  leaseDeadline := some 1000

def searchDocument (length : Nat) (digest : String) (kept : Bytes) : EvidenceDocument where
  method := "GET"
  routeTemplate := "/search"
  contentType := ""
  contentLength := 0
  fields := [⟨"query.q", "query", length, "alpha", digest, kept⟩]

def searchVault (document : EvidenceDocument) : Vault := fun _ =>
  .ok (some (chunkCodec.marshalDocument document))

theorem search_stores {text document} (recorded :
      (searchOrigin text).document chunkCodec searchRecorder = document)
    (short : (chunkCodec.marshalDocument document).length ≤ 8192) :
    Stores chunkCodec searchRecorder (searchVault document) "ev-1"
      (searchOrigin text) document where
  positive := by
    simp only [searchOrigin]
    omega
  bounded := by
    rw [recorded, Codec.bound, if_pos]
    exact short
  kept := rfl

def searchBundle (document : EvidenceDocument) : SubmitEvidenceBundleRequest where
  requestId := "evidence_1"
  approvalId := "approval_1"
  caseId := "case_1"
  leaseId := searchRequest.leaseId
  leaseEpoch := searchRequest.leaseEpoch
  fragments := chunkCodec.wholeBundle searchRequest fun _ => document
  bundleDigest := chunkCodec.evidenceBundleDigest
    (chunkCodec.wholeBundle searchRequest fun _ => document)

def shortDocument : EvidenceDocument :=
  searchDocument 3 (chunkCodec.digest (utf8 "abc")) (utf8 "abc")

theorem short_retainable : Retainable chunkCodec searchRecorder
    searchRequest.allowedFields (searchOrigin "abc") shortDocument where
  parts := by decide +kernel
  fields := by
    intro _ _ _ seen _ _
    have observed : (searchOrigin "abc").observed chunkCodec
        searchRecorder = [⟨"query.q", "query", utf8 "abc"⟩] := by
      decide +kernel
    rw [observed, List.getElem?_singleton] at seen
    split at seen
    · cases seen
      exact ⟨by decide +kernel, fun _ => by unfold Whole; decide +kernel⟩
    · cases seen

theorem evidence_survives_iff_short :
    chunkCodec.buildEvidenceBundle (some (searchVault shortDocument))
        searchRequest 0 = .ok (searchBundle shortDocument) ∧
      Survives chunkCodec searchRequest.allowedFields ["ev-1"]
        (fun _ => shortDocument) (searchBundle shortDocument).fragments := by
  have built : chunkCodec.buildEvidenceBundle (some (searchVault shortDocument)) searchRequest 0 =
        .ok (searchBundle shortDocument) := by
    decide +kernel
  have stores : ∀ handle ∈ searchRequest.evidenceHandles,
      Stores chunkCodec searchRecorder (searchVault shortDocument) handle
        ((fun _ => searchOrigin "abc") handle)
        ((fun _ => shortDocument) handle) := by
    intro _ member
    obtain rfl := List.mem_singleton.mp member
    exact search_stores (by decide +kernel) (by decide +kernel)
  have free : CollisionFree chunkCodec
      ((searchOrigin "abc").observed chunkCodec searchRecorder) := by
    unfold CollisionFree
    decide +kernel
  exact ⟨built, (evidence_survives_iff chunkCodec_lawful stores built rfl
    fun _ _ => free).mpr fun _ _ => short_retainable⟩

def longText : String := String.ofList (List.replicate 129 'a')

def longDocument : EvidenceDocument :=
  searchDocument 129 (chunkCodec.digest (utf8 longText)) (List.replicate 128 97)

theorem long_stores :
    Stores chunkCodec searchRecorder (searchVault longDocument) "ev-1"
      (searchOrigin longText) longDocument :=
  search_stores (by decide +kernel) (by decide +kernel)

theorem long_refused : chunkCodec.parseControlledEvidence (searchBundle longDocument).fragments =
      .error "controlled evidence value does not match metadata" := by
  have message : (match chunkCodec.parseControlledEvidence
      (searchBundle longDocument).fragments with
      | .ok _ => none
      | .error message => some message) =
        some "controlled evidence value does not match metadata" := by
    decide +kernel
  split at message
  · cases message
  next failed => rw [failed, Option.some.inj message]

theorem evidence_lost :
    Stores chunkCodec searchRecorder (searchVault longDocument) "ev-1"
        (searchOrigin longText) longDocument ∧
      chunkCodec.buildEvidenceBundle (some (searchVault longDocument))
        searchRequest 0 = .ok (searchBundle longDocument) ∧
      CollisionFree chunkCodec ((searchOrigin longText).observed chunkCodec searchRecorder) ∧
      ¬ Survives chunkCodec searchRequest.allowedFields ["ev-1"]
        (fun _ => longDocument) (searchBundle longDocument).fragments := by
  refine ⟨long_stores, by decide +kernel, ?_, ?_⟩
  · unfold CollisionFree
    decide +kernel
  · rintro ⟨_, parsed, _⟩
    rw [long_refused] at parsed
    cases parsed

end YuFeng.Evidence

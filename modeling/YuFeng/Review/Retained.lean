import YuFeng.Review.Controlled
import YuFeng.Review.Relay

/-!
# What the edge keeps of a value

A recorded field passes the brain's check if its value was recorded in full.
The edge keeps 128 runes of a value beside the length and the digest of all
of it, and JSON keeps only text, so that long or invalid values fail.
-/

namespace YuFeng.Evidence

open YuFeng.Library
open YuFeng.Review (validSHA256Reference validSHA256Reference_digest)

variable {S : Services} {observed : Observed} {field : EvidenceField}

/-! ## JSON -/

def EvidenceField.sanitized (field : EvidenceField) : EvidenceField :=
  { field with value := sanitize field.value }

def EvidenceDocument.sanitized (document : EvidenceDocument) : EvidenceDocument :=
  { document with fields := document.fields.map EvidenceField.sanitized }

def EvidenceBody.sanitized (body : EvidenceBody) : EvidenceBody :=
  { body with fields := body.fields.map EvidenceField.sanitized }

/-- JSON gives back what it was given, up to bytes that are no text. -/
structure Codec.Lawful (C : Codec) : Prop where
  document : ∀ document, C.decodeDocument (C.marshalDocument document) = .ok document.sanitized
  fields : ∀ fields, C.unmarshalFields (C.marshalFields fields) =
    .ok (fields.map EvidenceField.sanitized)
  body : ∀ body, C.unmarshalBody (C.marshalBody body) = .ok body.sanitized
  fieldsText : ∀ fields, C.marshalFields fields ≠ []
  bodyText : ∀ body, C.marshalBody body ≠ []

@[simp] theorem sanitized_sanitized (field : EvidenceField) :
    field.sanitized.sanitized = field.sanitized := by
  simp [EvidenceField.sanitized]

theorem queryFields_sanitized (document : EvidenceDocument) :
    document.sanitized.queryFields = document.queryFields.map EvidenceField.sanitized := by
  simp [EvidenceDocument.queryFields, EvidenceDocument.sanitized,
    List.filter_map, Function.comp_def, EvidenceField.sanitized]

theorem bodyFields_sanitized (document : EvidenceDocument) :
    document.sanitized.bodyFields = document.bodyFields.map EvidenceField.sanitized := by
  simp [EvidenceDocument.bodyFields, EvidenceDocument.sanitized,
    List.filter_map, Function.comp_def, EvidenceField.sanitized]

/-! ## Values -/

/-- The text that reaches the brain of a value that is kept. -/
def keptValue (value : Bytes) : Bytes := sanitize (truncateEvidenceString value 128)

def Whole (value : Bytes) : Prop := sanitize value = value ∧ (runes value).length ≤ 128

theorem keptValue_eq_iff {value} : keptValue value = value ↔ Whole value := by
  unfold keptValue truncateEvidenceString Whole
  split
  next short => simp [short]
  next long =>
    constructor
    · intro same
      rw [sanitize_encodeRunes] at same
      have again := congrArg runes same
      rw [runes_encodeRunes] at again
      have lengths := congrArg List.length again
      rw [List.length_take] at lengths
      omega
    · rintro ⟨_, short⟩
      exact absurd short long

variable {C : Codec} {R : Recorder} {fields : List EvidenceField} {document : EvidenceDocument}
  {contentType : String} {req : Edge.Request} {seen : List String}

theorem digest_inj {first second} (same : S.digest first = S.digest second) :
    S.sum256 first = S.sum256 second := by
  have hex := hexEncode_inj ((String.append_right_inj _).mp same)
  exact Vector.toList_inj.mp hex

def StoredAs (S : Services) (R : Recorder) (observed : Observed) (field : EvidenceField) : Prop :=
  field = S.recordField R observed ∨ field = (S.recordField R observed).cleared

section

variable (h : StoredAs C.toServices R observed field)

include h

theorem StoredAs.labels :
    field.length = observed.value.length ∧ field.digest = C.digest observed.value ∧
      field.selector = truncateSelector observed.selector 128 ∧
      field.surface = observed.surface := by
  rcases h with rfl | rfl <;> exact ⟨rfl, rfl, rfl, rfl⟩

theorem StoredAs.value (kept : field.value ≠ []) :
    field.value = truncateEvidenceString observed.value 128 := by
  rcases h with rfl | rfl
  · simp only [Services.recordField] at kept ⊢
    split
    next sensitive => simp [sensitive] at kept
    · rfl
  · exact absurd rfl kept

theorem StoredAs.matching_iff
    (free : C.sum256 (keptValue observed.value) = C.sum256 observed.value →
      keptValue observed.value = observed.value) :
    C.matching field.sanitized = true ↔ (field.value ≠ [] → Whole observed.value) := by
  by_cases empty : field.value = []
  · simp [Services.matching, EvidenceField.sanitized, empty, sanitize_eq_nil]
  · have value := h.value empty
    obtain ⟨length, digest, -, -⟩ := h.labels
    have there : sanitize field.value ≠ [] := by
      rw [Ne, sanitize_eq_nil]
      exact empty
    have kept : sanitize field.value = keptValue observed.value := by
      rw [value]
      rfl
    simp only [Services.matching, EvidenceField.sanitized, kept,
      List.isEmpty_iff, Bool.or_eq_true, Bool.and_eq_true, beq_iff_eq,
      length, digest, ne_eq, empty, not_false_eq_true, true_implies]
    rw [kept] at there
    rw [← keptValue_eq_iff]
    constructor
    · rintro (none | ⟨_, digest⟩)
      · exact absurd none there
      · exact free (digest_inj digest).symm
    · intro same
      rw [same]
      exact .inr ⟨rfl, rfl⟩

theorem StoredAs.sanitized_eq (whole : field.value ≠ [] → Whole observed.value) :
    field.sanitized = field := by
  have same : sanitize field.value = field.value := by
    by_cases empty : field.value = []
    · rw [empty]
      rfl
    · have value := h.value empty
      obtain ⟨text, short⟩ := whole empty
      rw [value, truncateEvidenceString, if_pos short, text]
  rw [EvidenceField.sanitized, same]

end

/-! ## The stored document -/

theorem StoredAs.cleared (h : StoredAs S R observed field) :
    StoredAs S R observed field.cleared := by
  rcases h with rfl | rfl <;> exact .inr rfl

def Trimmed (S : Services) (R : Recorder) (observed : List Observed)
    (fields : List EvidenceField) : Prop :=
  ∀ (i : Nat) (field : EvidenceField), fields[i]? = some field →
    ∃ o, observed[i]? = some o ∧ StoredAs S R o field

theorem Trimmed.dropLast {observed} (h : Trimmed S R observed fields) :
    Trimmed S R observed fields.dropLast := by
  intro i field found
  rw [List.dropLast_eq_take, List.getElem?_take] at found
  split at found
  · exact h i field found
  · cases found

theorem Trimmed.shrink {observed shorter excess} (h : Trimmed S R observed document.fields)
    (step : document.shrink excess = some shorter) : Trimmed S R observed shorter.fields := by
  revert step
  fun_cases EvidenceDocument.shrink document excess
  all_goals
    intro step
    cases step
  next last found _ =>
    intro i field at_i
    rw [List.getElem?_append] at at_i
    split at at_i
    · exact h.dropLast i field at_i
    · -- The last field keeps its place and loses its value.
      rename_i late
      obtain ⟨bound, same⟩ := List.getElem?_eq_some_iff.mp at_i
      simp only [List.length_singleton] at bound
      have place : document.fields[i]? = some last := by
        rw [← List.dropLast_append_getLast? last found, List.getElem?_append_right (by omega),
          show i - document.fields.dropLast.length = 0 by omega]
        rfl
      obtain ⟨o, seen, stored⟩ := h i last place
      refine ⟨o, seen, ?_⟩
      simp only [List.getElem_singleton] at same
      exact same ▸ stored.cleared
  · exact h.dropLast
  · exact h
  · exact h

theorem bound_trimmed {limit observed stored} (h : Trimmed C.toServices R observed document.fields)
    (bounded : C.bound limit document = .ok stored) :
    Trimmed C.toServices R observed stored.fields := by
  fun_induction Codec.bound C limit document with
  | case1 document fits =>
    cases bounded
    exact h
  | case2 document long none => cases bounded
  | case3 document long shorter step ih => exact ih (h.shrink step) bounded

/-! ## Observed values -/

theorem controlledSelectorValue_surface {selector found} :
    R.controlledSelectorValue selector req contentType = some found →
      found.2 = "query" ∨ found.2 = "body" := by
  have placed : ∀ {α : Type} {value : Option α} {bytes : α → Bytes} {surface : String},
      value.map (fun v => (bytes v, surface)) = some found → found.2 = surface := by
    intro _ _ _ _ h
    obtain ⟨_, -, rfl⟩ := Option.map_eq_some_iff.mp h
    rfl
  fun_cases Recorder.controlledSelectorValue R selector req contentType
  all_goals intro h
  all_goals first
    | cases h
    | exact .inl (placed h)
    | exact .inr (placed h)

def Placed (observed : Observed) : Prop :=
  observed.selector ≠ "" ∧ (observed.surface = "query" ∨ observed.surface = "body")

theorem observe_placed {observed} (placed : ∀ o ∈ observed, Placed o) (selector) :
    ∀ o ∈ S.observe R req contentType observed selector, Placed o := by
  simp only [Services.observe]
  split
  · exact placed
  next fresh =>
    split
    · exact placed
    next found at_selector =>
      simp only [List.forall_mem_append, List.forall_mem_singleton]
      exact ⟨placed, fun empty => fresh (.inl empty), controlledSelectorValue_surface at_selector⟩

theorem observedValues_placed (S : Services) (req dec) :
    ∀ o ∈ S.observedValues R req dec, Placed o := by
  unfold Services.observedValues
  generalize dec.inspection.detections.map (·.selector) = selectors
  have start : ∀ o ∈ ([] : List Observed), Placed o := by simp
  revert start
  generalize ([] : List Observed) = observed
  intro start
  induction selectors generalizing observed with
  | nil => exact start
  | cons selector _ ih =>
    exact ih _ (observe_placed start selector)

/-! ## The check of a projection -/

structure Checked (S : Services) (field : EvidenceField) : Prop where
  selector : field.selector ≠ ""
  nonneg : 0 ≤ field.length
  length : field.length ≤ trafficReviewEvidenceBytes
  digest : validSHA256Reference field.digest = true
  value : S.matching field = true

theorem checkField_ok {out} :
    S.checkField seen field = .ok out ↔ Checked S field ∧ field.selector ∉ seen ∧
        out = field.selector :: seen := by
  unfold Services.checkField
  rw [ensure_bind_ok, ensure_bind_ok]
  simp only [Bool.and_eq_true, bne_iff_ne, Bool.not_eq_true',
    decide_eq_true_eq, List.contains_eq_mem, decide_eq_false_iff_not]
  constructor
  · rintro ⟨⟨⟨⟨⟨selector, fresh⟩, nonneg⟩, length⟩, digest⟩, value, same⟩
    cases same
    exact ⟨⟨selector, nonneg, length, digest, value⟩, fresh, rfl⟩
  · rintro ⟨checked, fresh, rfl⟩
    exact ⟨⟨⟨⟨⟨checked.selector, fresh⟩, checked.nonneg⟩, checked.length⟩,
      checked.digest⟩, checked.value, rfl⟩

theorem foldlM_checkField : (∃ out, fields.foldlM S.checkField seen = .ok out) ↔
      (∀ field ∈ fields, Checked S field ∧ field.selector ∉ seen) ∧
        (fields.map EvidenceField.selector).Nodup := by
  induction fields generalizing seen with
  | nil => simp [pure, Except.pure]
  | cons field fields ih =>
    have step : (∃ out, (field :: fields).foldlM S.checkField seen =
        .ok out) ↔ (Checked S field ∧ field.selector ∉ seen) ∧
          ∃ out, fields.foldlM S.checkField (field.selector :: seen) = .ok out := by
      constructor
      · rintro ⟨out, h⟩
        obtain ⟨next, first, rest⟩ := bind_ok.mp h
        obtain ⟨checked, fresh, rfl⟩ := checkField_ok.mp first
        exact ⟨⟨checked, fresh⟩, out, rest⟩
      · rintro ⟨⟨checked, fresh⟩, out, rest⟩
        have first := checkField_ok.mpr ⟨checked, fresh, rfl⟩
        exact ⟨out, bind_ok.mpr ⟨_, first, rest⟩⟩
    rw [step, ih, List.forall_mem_cons, List.map_cons, List.nodup_cons]
    simp only [List.mem_cons, not_or, List.mem_map, not_exists, not_and]
    constructor
    · rintro ⟨first, rest, distinct⟩
      refine ⟨⟨first, fun f member => ⟨(rest f member).1,
        (rest f member).2.2⟩⟩, fun f member same => ?_, distinct⟩
      exact (rest f member).2.1 same
    · rintro ⟨⟨first, rest⟩, fresh, distinct⟩
      exact ⟨first, fun f member => ⟨(rest f member).1,
        fresh f member, (rest f member).2⟩, distinct⟩

theorem checkProjection_ok {projection} :
    S.checkProjection projection = .ok () ↔ (∀ field ∈ projection.fields, Checked S field) ∧
        (projection.fields.map EvidenceField.selector).Nodup := by
  have steps : S.checkProjection projection = .ok () ↔
      ∃ out, projection.fields.foldlM S.checkField [] = .ok out := by
    constructor
    · intro h
      obtain ⟨out, folded, _⟩ := bind_ok.mp h
      exact ⟨out, folded⟩
    · rintro ⟨out, folded⟩
      exact bind_ok.mpr ⟨out, folded, rfl⟩
  rw [steps, foldlM_checkField]
  simp

end YuFeng.Evidence

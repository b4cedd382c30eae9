import Mathlib.Algebra.Order.Ring.Rat
import Mathlib.Data.List.Perm.Subperm
import Mathlib.Tactic.Linarith
import YuFeng.Review.Windows

/-!
# Acceptance of review candidates

A candidate copies the route template of its request, and the brain computes
the template of that template once more.  Every other check of the brain holds
for every candidate that the collector emits, so a candidate passes exactly if
its template is a fixed point.
-/

namespace YuFeng.Review

open YuFeng.Library

variable {reasons : List String} {s s' : WindowState} {o : Observation}
  {policy : TrafficReviewPolicy} {x x' : ReviewCandidate} {c : ReviewCollector}

section

open List

/-! ## Risk -/

def Percent (q : ℚ) : Prop := 0 ≤ q ∧ q ≤ 100

theorem below_iff {a b} : below a b = true ↔ a < b := Iff.rfl

theorem raised_percent (raised : Prop) [Decidable raised] {points} (nonneg : 0 ≤ points)
    (small : points ≤ 100) {risk} (h : Percent risk) :
    Percent (if raised then raiseTo points risk else risk) := by
  unfold raiseTo
  split
  · split
    · have cast : score points = (points : ℚ) := rfl
      rw [cast]
      exact ⟨by exact_mod_cast nonneg, by exact_mod_cast small⟩
    · exact h
  · exact h

variable (dec : Edge.Decision) (incomplete : Bool)

theorem baseScore_percent : Percent (baseScore dec incomplete) := by
  have start : Percent (if dec.inspection.detections.isEmpty then score 0 else score 80) := by
    split
    · exact ⟨le_refl 0, by decide⟩
    · exact ⟨by decide, by decide⟩
  have observed := raised_percent (dec.wouldHaveBlocked ∨ dec.action = .observe)
    (by decide : (0 : Int) ≤ 75) (by decide) start
  have blocked := raised_percent (dec.action = .block) (by decide : (0 : Int) ≤ 70) (by decide)
    observed
  exact raised_percent incomplete (by decide) (by decide) blocked

def loopReasons : List String :=
  ["sync_detection", "suspected_miss", "unmitigated", "blocked",
    "inspection_incomplete", "unmapped_detection", "anomaly_score"]

structure RiskSound (risk : ℚ × List String) : Prop where
  percent : Percent risk.1
  distinct : risk.2.Nodup
  known : ∀ reason ∈ risk.2, reason ∈ loopReasons

theorem baseReasons_sublist : (baseReasons dec incomplete).Sublist
      ["sync_detection", "suspected_miss", "unmitigated", "blocked", "inspection_incomplete"] := by
  have flag (p : Prop) [Decidable p] (reason : String) :
      (if p then [reason] else []).Sublist [reason] := by
    split <;> simp
  have found : (if dec.inspection.detections.isEmpty then []
      else "sync_detection" :: if dec.action = .allow then ["suspected_miss"] else []).Sublist
      ["sync_detection", "suspected_miss"] := by
    split
    · exact nil_sublist _
    · exact (flag _ _).cons_cons _
  exact ((found.append (flag _ _)).append (flag _ _)).append (flag _ _)

def addReason (wanted : Prop) [Decidable wanted] (reason : String)
    (reasons : List String) : List String :=
  if wanted ∧ reason ∉ reasons then reasons ++ [reason] else reasons

theorem addReason_sound (wanted : Prop) [Decidable wanted] {reason} (listed : reason ∈ loopReasons)
    (distinct : reasons.Nodup) (known : ∀ r ∈ reasons, r ∈ loopReasons) :
    (addReason wanted reason reasons).Nodup ∧
      ∀ r ∈ addReason wanted reason reasons, r ∈ loopReasons := by
  unfold addReason
  split
  next added =>
    constructor
    · exact distinct.append (nodup_singleton reason) (disjoint_singleton.mpr added.2)
    · rw [forall_mem_append, forall_mem_singleton]
      exact ⟨known, listed⟩
  · exact ⟨distinct, known⟩

def scored (d : Edge.Detection) : Bool := !below d.score (score 0) && !below (score 1) d.score

variable {risk : ℚ × List String}

theorem detectionRisk_sound (sound : RiskSound risk) {d} (h : scored d = true) :
    RiskSound (detectionRisk risk d) := by
  have bounds : 0 ≤ d.score ∧ d.score ≤ 1 := by
    rw [scored, Bool.and_eq_true, Bool.not_eq_true', Bool.not_eq_true',
      ← Bool.not_eq_true, ← Bool.not_eq_true, below_iff, below_iff] at h
    exact ⟨not_lt.mp h.1, not_lt.mp h.2⟩
  have unmapped : "unmapped_detection" ∈ loopReasons := by decide
  have anomaly : "anomaly_score" ∈ loopReasons := by decide
  have first := addReason_sound (d.class = .unmapped) unmapped sound.distinct sound.known
  have second := addReason_sound (below (score 0) d.score) anomaly first.1 first.2
  refine ⟨?_, second.1, second.2⟩
  rw [detectionRisk]
  dsimp only
  split
  · have raised : Rat.add (score 80) (Rat.mul d.score (score 20)) = 80 + d.score * 20 := rfl
    rw [raised]
    exact ⟨by linarith, by linarith⟩
  · exact sound.percent

theorem detections_sound {detections : List Edge.Detection}
    (h : ∀ d ∈ detections, scored d = true) (sound : RiskSound risk) :
    RiskSound (detections.foldl detectionRisk risk) := by
  induction detections generalizing risk with
  | nil => exact sound
  | cons _ _ ih =>
    rw [forall_mem_cons] at h
    exact ih h.2 (detectionRisk_sound sound h.1)

theorem baseRisk_sound : RiskSound (baseScore dec incomplete, baseReasons dec incomplete) := by
  have listed := baseReasons_sublist dec incomplete
  refine ⟨baseScore_percent dec incomplete, ?_, ?_⟩
  · exact Nodup.sublist listed (by decide)
  · intro reason member
    have all : ∀ r ∈ ["sync_detection", "suspected_miss", "unmitigated",
        "blocked", "inspection_incomplete"], r ∈ loopReasons := by decide
    exact all reason (listed.subset member)

theorem reviewRisk_sound {dec : Edge.Decision}
    (h : ∀ d ∈ dec.inspection.detections, scored d = true) (flags) :
    Percent (reviewRisk dec flags).1 ∧ (reviewRisk dec flags).2.Nodup ∧
      ∀ reason ∈ (reviewRisk dec flags).2, reason ∈ allowedRiskReasons := by
  have looped := detections_sound h (baseRisk_sound dec flags.incomplete)
  have wider : ∀ reason ∈ loopReasons, reason ∈ allowedRiskReasons := by
    decide
  have fresh : "critical" ∉ loopReasons := by decide
  have fifty : Percent (score 50) := ⟨by decide, by decide⟩
  rw [reviewRisk]
  split
  · refine ⟨fifty, ?_, ?_⟩
    · exact looped.distinct.append (nodup_singleton _)
        (disjoint_singleton.mpr fun member => fresh (looped.known _ member))
    · rw [forall_mem_append, forall_mem_singleton]
      exact ⟨fun reason member => wider reason (looped.known reason member), by decide⟩
  · exact ⟨looped.percent, looped.distinct, fun reason member =>
      wider reason (looped.known reason member)⟩

theorem validReviewRiskReasons_of_nodup {seen} (distinct : reasons.Nodup)
    (known : ∀ reason ∈ reasons, reason ∈ allowedRiskReasons)
    (fresh : ∀ reason ∈ reasons, reason ∉ seen) : validReviewRiskReasons seen reasons = true := by
  induction reasons generalizing seen with
  | nil => rfl
  | cons _ _ ih =>
    rw [nodup_cons] at distinct
    rw [forall_mem_cons] at known fresh
    rw [validReviewRiskReasons, if_neg (by simp [known.1, fresh.1])]
    apply ih distinct.2 known.2
    intro later member
    rw [mem_cons]
    rintro (rfl | old)
    · exact distinct.1 member
    · exact fresh.2 later member old

theorem riskReasons_few (distinct : reasons.Nodup)
    (known : ∀ reason ∈ reasons, reason ∈ allowedRiskReasons) :
    reasons.length ≤ 16 :=
  Nat.le_trans (subperm_of_subset distinct known).length_le (by decide)

/-! ## The labels of a window -/

structure Labels where
  start : Int
  stop : Int
  unitId : String
  assetId : String
  generation : String
  genSeq : Int
  policy : String
  deriving DecidableEq

def WindowState.labels (s : WindowState) : Labels :=
  ⟨s.start, s.stop, s.unitId, s.assetId, s.generation, s.genSeq, s.policy⟩

@[simp] theorem countRequest_labels (policy s) (o route flags) :
    (countRequest policy s o route flags).labels = s.labels := by
  obtain ⟨_, _, framed⟩ := countRequest_frame policy s o route flags
  rw [framed]
  rfl

@[simp] theorem fixCandidates_labels (vault c s) :
    (fixCandidates vault c s).1.labels = s.labels := by
  obtain ⟨_, _, _, _, framed⟩ := (fixCandidates_marked vault c s).frame
  rw [framed]
  rfl

theorem reviewWindowID_congr (S) (h : s.labels = s'.labels) :
    reviewWindowID S s = reviewWindowID S s' := by
  simp only [WindowState.labels, Labels.mk.injEq] at h
  simp [reviewWindowID, h]

theorem newCandidate_congr (S : Services) (policy : TrafficReviewPolicy)
    (h : s.labels = s'.labels) (o : Observation) (route : String)
    (risk : ℚ × List String) :
    newCandidate S policy s o route risk = newCandidate S policy s' o route risk := by
  have id := reviewWindowID_congr S h
  simp only [WindowState.labels, Labels.mk.injEq] at h
  simp [newCandidate, id, h]

/-! ## Emitted candidates -/

/-- A request as the brain expects it: short method, scores from 0 to 1. -/
def Observation.reviewable (o : Observation) : Bool :=
  !blank o.unitId && !blank o.assetId && o.request.method.utf8ByteSize ≤ 32 &&
    o.decision.inspection.detections.all scored

structure Within (s : WindowState) (o : Observation) : Prop where
  unit : s.unitId = o.unitId
  asset : s.assetId = o.assetId
  generation : s.generation = o.decision.generationId
  genSeq : s.genSeq = o.decision.generationSeq
  after : s.start ≤ o.now.time
  before : o.now.time < s.stop

def candidateFor (S : Services) (policy : TrafficReviewPolicy)
    (s : WindowState) (o : Observation) : ReviewCandidate :=
  newCandidate S policy s o (trafficRouteTemplate o.request.path)
    (reviewRisk o.decision (reviewFlags o.decision))

def Emitted (S : Services) (policy : TrafficReviewPolicy) (s : WindowState)
    (x : ReviewCandidate) : Prop :=
  ReviewMode.redactedCases.number ≤ policy.mode.number ∧
    ∃ o : Observation, o.reviewable = true ∧ Within s o ∧ x = candidateFor S policy s o

theorem Within.congr (h : s.labels = s'.labels) (within : Within s o) : Within s' o := by
  simp only [WindowState.labels, Labels.mk.injEq] at h
  obtain ⟨start, stop, unit, asset, generation, genSeq, -⟩ := h
  exact ⟨unit ▸ within.unit, asset ▸ within.asset,
    generation ▸ within.generation, genSeq ▸ within.genSeq,
    start ▸ within.after, stop ▸ within.before⟩

theorem Emitted.congr {S} (h : s.labels = s'.labels) (emitted : Emitted S policy s x) :
    Emitted S policy s' x := by
  obtain ⟨mode, o, reviewable, within, rfl⟩ := emitted
  exact ⟨mode, o, reviewable, within.congr h, newCandidate_congr S policy h o _ _⟩

theorem hexDigit_plain {value} (small : value < 16) :
    isSpace (hexDigit value) = false ∧ isHexDigit (hexDigit value) = true ∧
      (hexDigit value).utf8Size = 1 := by
  have all : ∀ n : Fin 16, isSpace (hexDigit n) = false ∧
      isHexDigit (hexDigit n) = true ∧ (hexDigit n).utf8Size = 1 := by
    decide
  exact all ⟨value, small⟩

theorem newEventID_visible (draw : Draw) : blank (newEventID draw) = false := by
  cases draw with
  | bytes value =>
    have nonempty : (hexEncode value.toList).toList ≠ [] := by
      intro empty
      have filled : value.toList ≠ [] := by simp
      exact hexEncode_ne_empty filled (String.toList_inj.mp empty)
    obtain ⟨c, _, text⟩ := exists_cons_of_ne_nil nonempty
    have member : c ∈ (hexEncode value.toList).toList := text ▸ mem_cons_self
    obtain ⟨_, small, rfl⟩ := mem_hexEncode member
    exact blank_eq_false member (hexDigit_plain small).1
  | failed => exact blank_eq_false (c := 'e') (by simp [newEventID]) (by decide)

theorem hexEncode_length (bytes) : (hexEncode bytes).toList.length = 2 * bytes.length := by
  rw [hexEncode, String.toList_ofList]
  induction bytes with
  | nil => rfl
  | cons _ _ ih =>
    rw [flatMap_cons, length_append, ih, length_cons]
    simp only [length_cons, length_nil]
    omega

theorem hexEncode_size (bytes) : (hexEncode bytes).utf8ByteSize = 2 * bytes.length := by
  have digits : ∀ c ∈ (hexEncode bytes).toList, c.utf8Size = 1 := by
    intro _ member
    obtain ⟨_, small, rfl⟩ := mem_hexEncode member
    exact (hexDigit_plain small).2.2
  rw [utf8ByteSize_of_ascii digits, hexEncode_length]

end

theorem validSHA256Reference_digest (digest : Vector UInt8 32) :
    validSHA256Reference ("sha256:" ++ hexEncode digest.toList) = true := by
  have head : "sha256:".toList.length = 7 := by decide
  have start : startsWith "sha256:" ("sha256:" ++ hexEncode digest.toList) =
      true := by
    rw [startsWith, String.toList_append]
    simp
  have size : ("sha256:" ++ hexEncode digest.toList).utf8ByteSize = 7 + 64 := by
    rw [String.utf8ByteSize_append, hexEncode_size, Vector.length_toList]
    rfl
  have digits : (("sha256:" ++ hexEncode digest.toList).toList.drop 7).all isHexDigit = true := by
    rw [String.toList_append, ← head, List.drop_left, List.all_eq_true]
    intro _ member
    obtain ⟨_, small, rfl⟩ := mem_hexEncode member
    exact (hexDigit_plain small).2.1
  rw [validSHA256Reference, start, size, digits]
  rfl

section

open List

theorem projectionOf_fields (method route) :
    (projectionOf method route).fields.rows.length = 2 ∧
      (projectionOf method route).fields.find? "method" = some method ∧
      (projectionOf method route).fields.find? "route_template" = some route := by
  refine ⟨rfl, ?_, Table.find?_set_self _ _ _⟩
  rw [projectionOf, Table.find?_set_of_ne (by decide)]
  exact Table.find?_set_self _ _ _

variable (S : Services)

/-- The fields of an emitted candidate, with any evidence that is kept for a
day at most. -/
theorem candidate_complete (mode : ReviewMode.redactedCases.number ≤ policy.mode.number ∧
      policy.mode.number ≤ ReviewMode.shadowCandidates.number) (reviewable : o.reviewable = true)
    (within : Within s o) (handle digest) {expires now} (later : o.now.time ≤ expires)
    (bounded : expires ≤ o.now.time + trafficReviewEvidenceTTL * second) (timely : now < expires)
    (fixed : trafficRouteTemplate (trafficRouteTemplate o.request.path) =
      trafficRouteTemplate o.request.path) :
    candidateComplete now (withEvidence (candidateFor S policy s o) handle
      digest expires) = true := by
  simp only [Observation.reviewable, Bool.and_eq_true, Bool.not_eq_true',
    decide_eq_true_eq, all_eq_true] at reviewable
  obtain ⟨⟨⟨-, asset⟩, short⟩, scores⟩ := reviewable
  have risk := reviewRisk_sound scores (reviewFlags o.decision)
  have lower := o.now.lower
  have upper := o.now.upper
  have occurred := Timestamp.isValid_new lower (Int.lt_trans upper (by decide))
  have ending : expires < 253402300800 * second := by
    simp only [trafficReviewEvidenceTTL, second] at bounded upper ⊢
    omega
  have expiry := Timestamp.isValid_new (Int.le_trans lower later) ending
  have reasons := validReviewRiskReasons_of_nodup risk.2.1 risk.2.2 fun _ _ => not_mem_nil
  have few := riskReasons_few risk.2.1 risk.2.2
  have low : Rat.blt (reviewRisk o.decision (reviewFlags o.decision)).1 (Rat.ofInt 0) = false :=
    Bool.eq_false_iff.mpr (not_lt.mpr risk.1.1)
  have high : Rat.blt (Rat.ofInt 100) (reviewRisk o.decision (reviewFlags o.decision)).1 = false :=
    Bool.eq_false_iff.mpr (not_lt.mpr risk.1.2)
  have asset' : blank s.assetId = false := within.asset ▸ asset
  rw [candidateComplete]
  simp only [withEvidence, candidateFor, newCandidate, newEventID_visible,
    reviewWindowID, windowHash_visible, asset', occurred, expiry, Timestamp.asTime_new,
    timely, bounded, low, high, mode.1, mode.2, short,
    trafficRouteTemplate_size, few, fixed, reasons,
    validReviewCandidateProjection, projectionOf_fields]
  simp [score, projectionOf]

theorem windowMessage_binds (same : s'.labels = s.labels) (within : Within s o)
    (cells other unitID handle digest expires) :
    ∃ row, windowRow unitID (windowMessage S c s' cells other) = some row ∧
      bindsWindow unitID row (withEvidence (candidateFor S c.policy s o)
        handle digest expires) = true := by
  refine ⟨_, rfl, ?_⟩
  simp only [WindowState.labels, Labels.mk.injEq] at same
  obtain ⟨start, stop, _, asset, generation, genSeq, -⟩ := same
  simp [bindsWindow, windowMessage, withEvidence, candidateFor, newCandidate, start, stop,
    asset, generation, genSeq, within.after, within.before, within.generation, within.genSeq]

/-- The brain accepts the candidate of an accepted window, before its
evidence expires. -/
def Acceptable (w : TrafficWindow) (x : ReviewCandidate) : Prop :=
  w.windowId = x.windowId ∧ ∀ (now : Int) (bound : String → Bool), bound x.assetId = true →
      (∀ expires, x.evidenceExpiresAt = some expires → now < expires.asTime) →
      ingestReviewCandidate now x.unitId bound (windowRow x.unitId w) x = none

theorem acceptable_withEvidence (admitted : Admitted c.policy)
    (shown : ReviewMode.redactedCases.number ≤ c.policy.mode.number) (same : s'.labels = s.labels)
    (reviewable : o.reviewable = true) (within : Within s o) (cells other handle digest ttl)
    (nonneg : 0 ≤ ttl) (bounded : ttl ≤ trafficReviewEvidenceTTL * second)
    (evidence : ReviewMode.evidenceOnApproval.number ≤ c.policy.mode.number →
      blank handle = false ∧ validSHA256Reference digest = true)
    (redacted : c.policy.mode = .redactedCases → handle = "" ∧ digest = "")
    (fixed : trafficRouteTemplate (trafficRouteTemplate o.request.path) =
      trafficRouteTemplate o.request.path) : Acceptable (windowMessage S c s' cells other)
      (withEvidence (candidateFor S c.policy s o) handle digest (o.now.time + ttl)) := by
  refine ⟨reviewWindowID_congr S same, ?_⟩
  intro _ _ asset timely
  obtain ⟨_, stored, binds⟩ := windowMessage_binds S same within cells
    other s.unitId handle digest (o.now.time + ttl)
  have expiry := timely _ rfl
  rw [Timestamp.asTime_new] at expiry
  have complete := candidate_complete S ⟨shown, admitted.modeNumber.2⟩ reviewable within
    handle digest (by omega) (by omega) expiry fixed
  have unit : (withEvidence (candidateFor S c.policy s o) handle digest
    (o.now.time + ttl)).unitId = s.unitId := rfl
  rw [unit, stored]
  exact ingestReviewCandidate_pass complete evidence redacted rfl asset binds

/-! ## Freezing -/

theorem foldl_fixEvidence_mem {vault} {numbered : List (ReviewCandidate × Nat)}
    {acc : WindowState × List ReviewCandidate}
    (member : x' ∈ (numbered.foldl (fixEvidence vault) acc).2) :
    x' ∈ acc.2 ∨ ∃ x ∈ numbered.map Prod.fst, ∃ entry s,
      x' = attachEvidence x entry (occurredTime s x) := by
  induction numbered generalizing acc with
  | nil => exact .inl member
  | cons first _ ih =>
    rw [foldl_cons] at member
    rcases ih member with old | ⟨x, later, found⟩
    · rw [fixEvidence] at old
      split at old
      next entry stored =>
        rcases mem_append.mp old with old | new
        · exact .inl old
        · rw [mem_singleton] at new
          exact .inr ⟨first.1, mem_cons_self, entry, acc.1, new⟩
      all_goals exact .inl old
    · exact .inr ⟨x, mem_cons_of_mem _ later, found⟩

theorem fixCandidates_mem {vault} (member : x' ∈ (fixCandidates vault c s).2) :
    (c.policy.mode.number < ReviewMode.evidenceOnApproval.number ∧ x' ∈ s.candidates) ∨
    (ReviewMode.evidenceOnApproval.number ≤ c.policy.mode.number ∧
      ∃ x ∈ s.candidates, ∃ entry s', x' = attachEvidence x entry (occurredTime s' x)) := by
  rw [fixCandidates] at member
  split at member
  next mode => exact .inl ⟨mode, member⟩
  next mode =>
    split at member
    · contradiction
    · rcases foldl_fixEvidence_mem member with _ | found
      · contradiction
      · rw [zipIdx_map_fst] at found
        exact .inr ⟨Nat.le_of_not_lt mode, found⟩

theorem occurredTime_candidateFor (policy s s' o) :
    occurredTime s' (candidateFor S policy s o) = o.now.time := by
  have valid := Timestamp.isValid_new o.now.lower (Int.lt_trans o.now.upper (by decide))
  simp [occurredTime, candidateFor, newCandidate, valid]

theorem freeze_acceptable (vault : Vault) (admitted : Admitted c.policy)
    (emitted : ∀ x ∈ s.candidates, Emitted S c.policy s x) (member : x' ∈ (freeze S vault c s).2)
    (fixed : trafficRouteTemplate x'.routeTemplate = x'.routeTemplate) :
    Acceptable (freeze S vault c s).1 x' := by
  have same := fixCandidates_labels vault c s
  rcases fixCandidates_mem member with
    ⟨mode, old⟩ | ⟨mode, x, old, entry, _, rfl⟩
  · obtain ⟨least, _, reviewable, within, rfl⟩ := emitted x' old
    have ttl := admitted.ttl
    simp only [trafficReviewEvidenceTTL] at ttl
    exact acceptable_withEvidence S admitted least same reviewable within _ _ "" ""
      (c.policy.evidenceTtlSeconds * second) (by simp only [second]; omega)
      (by simp only [second, trafficReviewEvidenceTTL]; omega)
      (fun evidence => absurd mode (Nat.not_lt.mpr evidence)) (fun _ => ⟨rfl, rfl⟩) fixed
  · obtain ⟨-, _, reviewable, within, rfl⟩ := emitted x old
    have handle : blank ("evh-" ++ hexEncode entry.handle.toList) = false :=
      blank_eq_false (c := 'e') (by simp) (by decide)
    rw [occurredTime_candidateFor]
    exact acceptable_withEvidence S admitted (Nat.le_trans (by decide) mode) same reviewable within
      _ _ _ _ entry.ttl entry.nonneg entry.bounded
      (fun _ => ⟨handle, validSHA256Reference_digest entry.digest⟩)
      (fun redacted => absurd (redacted ▸ mode) (by decide)) fixed

/-! ## Runs -/

structure CandidatesSound (S : Services) (c : ReviewCollector) : Prop where
  valid : validateTrafficReviewPolicy (some c.policy) = none
  on : ∀ s, c.state = some s → c.policy.mode ≠ .off
  span : ∀ s, c.state = some s → s.stop = s.start + c.policy.windowSeconds * second
  state : ∀ s, c.state = some s → ∀ x ∈ s.candidates, Emitted S c.policy s x
  ready : ∀ x ∈ c.readyC, trafficRouteTemplate x.routeTemplate = x.routeTemplate →
      ∃ w ∈ c.readyW, Acceptable w x

theorem maybeCandidate_mem {S route flags}
    (member : x ∈ (maybeCandidate S policy s o route flags).candidates) :
    x ∈ s.candidates ∨ ReviewMode.redactedCases.number ≤ policy.mode.number ∧
        x = newCandidate S policy s o route (reviewRisk o.decision flags) := by
  rcases (maybeCandidate_cases S policy s o route flags).2 with same | ⟨mode, _, added⟩
  · exact .inl (same ▸ member)
  · rw [added] at member
    exact (mem_placed member).imp_right fun new => ⟨mode, new⟩

@[simp] theorem maybeCandidate_labels (policy s) (o route flags) :
    (maybeCandidate S policy s o route flags).labels = s.labels := by
  obtain ⟨_, _, _, _, framed⟩ := (maybeCandidate_cases S policy s o route flags).1.frame
  rw [framed]
  rfl

theorem truncate_bounds (window : policy.windowSeconds = trafficReviewWindow) (time : Int) :
    truncate policy time ≤ time ∧ time < truncate policy time + policy.windowSeconds * second := by
  simp only [truncate, window, trafficReviewWindow, second]
  omega

theorem covers_within (window : c.policy.windowSeconds = trafficReviewWindow)
    (span : s.stop = s.start + c.policy.windowSeconds * second)
    (covers : s.covers c o = true) : Within s o := by
  simp only [WindowState.covers, Bool.and_eq_true, decide_eq_true_eq] at covers
  obtain ⟨⟨⟨⟨start, unit⟩, asset⟩, generation⟩, genSeq⟩ := covers
  have bounds := truncate_bounds window o.now.time
  rw [← start] at bounds
  exact ⟨unit, asset, generation, genSeq, bounds.1, span ▸ bounds.2⟩

theorem countRequest_candidates (policy s) (o route flags) :
    (countRequest policy s o route flags).candidates = s.candidates := by
  obtain ⟨_, _, framed⟩ := countRequest_frame policy s o route flags
  rw [framed]
  rfl

theorem frozen_candidates (vault : Vault) (sound : CandidatesSound S c) (state : c.state = some s) :
    CandidatesSound S { keepFrozen S vault c s with state := none } := by
  have admitted := validateTrafficReviewPolicy_ok sound.valid (sound.on s state)
  refine ⟨sound.valid, nofun, nofun, nofun, ?_⟩
  intro x member fixed
  rcases mem_append.mp member with old | new
  · obtain ⟨w, ready, accepted⟩ := sound.ready x old fixed
    exact ⟨w, mem_append_left _ ready, accepted⟩
  · exact ⟨(freeze S vault c s).1, mem_append_right _ mem_cons_self,
      freeze_acceptable S vault admitted (sound.state s state) new fixed⟩

theorem joined_candidates (sound : CandidatesSound S c) (state : c.state = some s)
    (covers : s.covers c o = true) (reviewable : o.reviewable = true) :
    CandidatesSound S { c with state := some (join S c.policy s o) } := by
  have window := (validateTrafficReviewPolicy_ok sound.valid (sound.on s state)).window
  have within := covers_within window (sound.span s state) covers
  have labels : (join S c.policy s o).labels = s.labels :=
    (maybeCandidate_labels _ _ _ _ _ _).trans (countRequest_labels _ _ _ _ _)
  refine ⟨sound.valid, fun _ _ => sound.on s state, ?_, ?_, sound.ready⟩
  · rintro _ ⟨⟩
    simp only [WindowState.labels, Labels.mk.injEq] at labels
    rw [labels.1, labels.2.1]
    exact sound.span s state
  · rintro _ ⟨⟩ x member
    apply Emitted.congr labels.symm
    rcases maybeCandidate_mem member with old | ⟨mode, rfl⟩
    · rw [countRequest_candidates] at old
      exact sound.state s state x old
    · exact ⟨mode, o, reviewable, within,
        newCandidate_congr S c.policy (countRequest_labels _ _ _ _ _) o _ _⟩

def CollectorOp.reviewable : CollectorOp → Bool
  | .observe o => o.reviewable
  | _ => true

theorem collectorStep_candidates (c op) (ok : op.reviewable = true) (sound : CandidatesSound S c) :
    CandidatesSound S (collectorStep S c op) := by
  refine collectorStep_keeps sound (fun _ _ vault sound => frozen_candidates S vault sound) ?_ ?_ ?_
  · rintro c o rfl on sound
    refine ⟨sound.valid, fun _ _ => on, ?_, ?_, sound.ready⟩
    · rintro _ ⟨⟩
      rfl
    · rintro _ ⟨⟩ _ member
      exact absurd member not_mem_nil
  · rintro c s o rfl sound state covers
    exact joined_candidates S sound state covers ok
  · intro c sound
    exact ⟨sound.valid, sound.on, sound.span, sound.state,
      fun _ member => absurd member not_mem_nil⟩

theorem newReviewCollector_candidates {digest vaulted}
    (created : newReviewCollector policy digest vaulted = .ok c) : CandidatesSound S c := by
  rw [newReviewCollector] at created
  split at created
  · contradiction
  rename_i valid
  obtain rfl := Except.ok.inj created
  refine ⟨valid, (by simp), (by simp), (by simp), ?_⟩
  · intro _ _
    contradiction

/-- Every candidate with the template of `path`, in every run, is accepted
together with its window. -/
def CandidatesAccepted (path : String) : Prop :=
  ∀ (S : Services) (policy : TrafficReviewPolicy) (digest : String)
    (vaulted : Bool) (c : ReviewCollector), newReviewCollector policy digest vaulted = .ok c →
    ∀ ops : List CollectorOp, (∀ op ∈ ops, op.reviewable = true) →
    ∀ x ∈ (run (collectorStep S) c ops).readyC, x.routeTemplate = trafficRouteTemplate path →
      ∃ w ∈ (run (collectorStep S) c ops).readyW, Acceptable w x

theorem candidatesAccepted_of_fixed {path}
    (fixed : trafficRouteTemplate (trafficRouteTemplate path) =
      trafficRouteTemplate path) : CandidatesAccepted path := by
  intro S _ _ _ c created ops reviewable x member route
  have meets : Meets (collectorStep S) (fun _ op => op.reviewable = true) c
      ops := meets_of_mem _ (fun _ => reviewable) c
  have sound := run_invariant _ _ (CandidatesSound S) (collectorStep_candidates S) meets
    (newReviewCollector_candidates S created)
  exact sound.ready x member (by rw [route, fixed])

theorem visit_candidate (path) : candidateFor plainServices (dailyPolicy .redactedCases)
        (openWindow (visitCollector .redactedCases) (visit "GET" path))
        (visit "GET" path) ∈
      (run (collectorStep plainServices) (visitCollector .redactedCases)
        (visitOps "GET" path)).readyC :=
  mem_singleton.mpr rfl

theorem visit_reviewable (path) : ∀ op ∈ visitOps "GET" path, op.reviewable = true := by
  intro _ member
  simp only [visitOps, mem_cons, not_mem_nil, or_false] at member
  rcases member with rfl | rfl
  · have reviewable : (!blank "edge-1" && !blank "shop" &&
        decide ("GET".utf8ByteSize ≤ 32) && [].all scored) = true := by decide
    exact reviewable
  · rfl

theorem fixed_of_candidatesAccepted {path} (accepted : CandidatesAccepted path) :
    trafficRouteTemplate (trafficRouteTemplate path) = trafficRouteTemplate path := by
  obtain ⟨_, -, -, passes⟩ := accepted plainServices (dailyPolicy .redactedCases) "sha256:aa" false
    (visitCollector .redactedCases) rfl (visitOps "GET" path)
    (visit_reviewable path) _ (visit_candidate path) rfl
  have passed := passes morning.time (fun _ => true) rfl (by
    intro _ found
    obtain rfl := Option.some.inj found
    rw [Timestamp.asTime_new]
    exact Int.lt_add_of_pos_right _ (by decide))
  exact (ingestReviewCandidate_fixed passed).symm

/-- The template of a path is a fixed point, and the candidates that carry it
are accepted, exactly if no segment of the path within the limit turns into
another placeholder. -/
theorem candidates_accepted_iff (path : String) :
    (trafficRouteTemplate (trafficRouteTemplate path) = trafficRouteTemplate path ↔
      stableSegments templateLimit (pathSegments path) = true) ∧
    (CandidatesAccepted path ↔ stableSegments templateLimit (pathSegments path) = true) := by
  have idempotent := trafficRouteTemplate_idem_iff path
  refine ⟨idempotent, ?_⟩
  rw [← idempotent]
  exact ⟨fixed_of_candidatesAccepted, candidatesAccepted_of_fixed⟩

/-- The brain refuses the candidate of a path with a number in it. -/
theorem candidates_refused_number :
    trafficRouteTemplate "/users/123" = "/users/:number" ∧
      trafficRouteTemplate "/users/:number" = "/users/:value" ∧
      (∀ op ∈ visitOps "GET" "/users/123", op.reviewable = true) ∧
      ∃ w ∈ (run (collectorStep plainServices) (visitCollector .redactedCases)
          (visitOps "GET" "/users/123")).readyW,
        checkTrafficWindow (some w) = none ∧
        ∃ x ∈ (run (collectorStep plainServices) (visitCollector .redactedCases)
            (visitOps "GET" "/users/123")).readyC,
          w.windowId = x.windowId ∧ ingestReviewCandidate (morning.time + 300 * second) "edge-1"
              (fun _ => true) (windowRow "edge-1" w) x =
            some ⟨"invalid_candidate", "review candidate is incomplete " ++
              "or exceeds policy bounds"⟩ := by
  decide +kernel

end

end YuFeng.Review

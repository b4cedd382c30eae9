import YuFeng.Library.Lists
import YuFeng.Review.Submission

/-!
# Bundles are accepted

A bundle that a unit builds for a leased request passes the checks of the
brain while the lease lasts.
-/

namespace YuFeng.Evidence

open YuFeng.Library
open YuFeng.Generation (newID_ne_empty)

variable {acc : Collected} {budget now : Int}
  {fragments : List EvidenceFragment} {request : EvidenceRequest}
  {random : String → String} {approval : EvidenceApproval}
  {approvalId : String}

/-! ## Bytes of a bundle -/

def contentBytes (fragments : List EvidenceFragment) : Int :=
  fragments.foldr (fun fragment total => fragment.content.length + total) 0

@[simp] theorem contentBytes_nil : contentBytes [] = 0 := rfl

@[simp] theorem contentBytes_cons (fragment) (fragments) :
    contentBytes (fragment :: fragments) = fragment.content.length + contentBytes fragments := rfl

@[simp] theorem contentBytes_append (first second) :
    contentBytes (first ++ second) = contentBytes first + contentBytes second := by
  induction first with
  | nil => simp
  | cons _ _ ih => simp [ih]; omega

theorem contentBytes_nonneg (fragments) : 0 ≤ contentBytes fragments := by
  induction fragments with
  | nil => simp
  | cons => simp; omega

def bytesOf (handles : List String) (fragments : List EvidenceFragment) : Int :=
  contentBytes (fragments.filter fun fragment =>
    handles.contains fragment.evidenceHandle)

/-! ## Fitting -/

section Fitting

variable {limit : Int} {allowEmpty : Bool} {marshal : List EvidenceField → Bytes}

theorem fit_le {bounded raw} (h : fit limit allowEmpty marshal bounded = some raw) :
    raw.length ≤ limit := by
  unfold fit at h
  split at h
  · cases h
  · split at h
    · cases h
      assumption
    · cases h

theorem fitDropped_le (positive : 0 ≤ limit) (n bounded) :
    (fitDropped limit allowEmpty marshal n bounded).length ≤ limit := by
  induction n generalizing bounded with
  | zero => simpa [fitDropped] using positive
  | succ n ih =>
    rw [fitDropped]
    split
    · exact fit_le ‹_›
    · exact ih _

theorem fitCleared_le (positive : 0 ≤ limit) (index bounded) :
    (fitCleared limit allowEmpty marshal index bounded).length ≤ limit := by
  induction index generalizing bounded with
  | zero => exact fitDropped_le positive _ _
  | succ _ ih =>
    simp only [fitCleared]
    split
    · exact ih _
    · split
      · exact fit_le ‹_›
      · exact ih _

theorem fitStructuredEvidence_le (positive : 0 ≤ limit) (fields) :
    (fitStructuredEvidence limit allowEmpty marshal fields).length ≤
      limit := by
  unfold fitStructuredEvidence
  split
  · simpa using positive
  · split
    · exact fit_le ‹_›
    · exact fitCleared_le positive _ _

end Fitting

variable {S : Services} {allowed : List String} {handle : String} {names : List String}
  {vault : Vault}

theorem fitPart_le {document part remaining} (positive : 0 ≤ remaining) :
    (S.fitPart document part remaining).length ≤ remaining := by
  unfold Services.fitPart
  split
  · assumption
  · split
    · exact fitStructuredEvidence_le positive _
    · exact fitStructuredEvidence_le positive _
    · simpa using positive

/-! ## One handle -/

structure Gathered (S : Services) (allowed : List String) (handle : String)
    (names : List String) (own : Collected) : Prop where
  bytes : own.bytes = contentBytes own.fragments
  sound : ∀ fragment ∈ own.fragments, fragment.evidenceHandle = handle ∧ fragment.field ∈ allowed ∧
    fragment.contentDigest = S.digest fragment.content
  fields : (own.fragments.map EvidenceFragment.field).Sublist names

theorem addPart_gathered (document) (gathered : Gathered S allowed handle names acc)
    (within : acc.bytes ≤ budget) (part : String × Bytes) :
    Gathered S allowed handle (names ++ [part.1])
        (S.addPart allowed handle document budget acc part) ∧
      (S.addPart allowed handle document budget acc part).bytes ≤ budget := by
  have skipped : Gathered S allowed handle (names ++ [part.1]) acc :=
    ⟨gathered.bytes, gathered.sound, gathered.fields.trans (List.sublist_append_left _ _)⟩
  simp only [Services.addPart]
  split
  · exact ⟨skipped, within⟩
  next wanted =>
    simp only [Bool.or_eq_true, not_or, Bool.not_eq_true',
      Bool.not_eq_false, List.contains_iff_mem] at wanted
    split
    · exact ⟨skipped, within⟩
    · have fits := @fitPart_le S document part (budget - acc.bytes) (by omega)
      refine ⟨⟨?_, ?_, ?_⟩, by dsimp only; omega⟩
      · simp [gathered.bytes, Services.fragment]
      · simp only [List.forall_mem_append, List.forall_mem_singleton]
        exact ⟨gathered.sound, rfl, wanted.1.1, rfl⟩
      · simpa [Services.fragment] using gathered.fields.append (List.Sublist.refl [part.1])

theorem foldl_addPart (document) (parts : List (String × Bytes))
    (gathered : Gathered S allowed handle names acc) (within : acc.bytes ≤ budget) :
    Gathered S allowed handle (names ++ parts.map Prod.fst)
        (parts.foldl (S.addPart allowed handle document budget) acc) ∧
      (parts.foldl (S.addPart allowed handle document budget) acc).bytes ≤
        budget := by
  induction parts generalizing names acc with
  | nil => simpa using ⟨gathered, within⟩
  | cons part _ ih =>
    obtain ⟨first, fits⟩ := addPart_gathered document gathered within part
    simpa using ih first fits

def partNames : List String := ["method", "path", "query", "body"]

theorem parts_names (S : Services) (document) :
    ((S.parts document).map Prod.fst).Sublist partNames := by
  simp only [Services.parts, partNames]
  split <;> split <;> simp

theorem collectHandle_ok {own} (positive : 0 ≤ budget)
    (h : S.collectHandle vault allowed budget handle = .ok own) :
    Gathered S allowed handle partNames own ∧ own.bytes ≤ budget ∧ own.bytes ≠ 0 := by
  obtain ⟨stored, _, h⟩ := bind_ok.mp h
  cases stored with
  | none => cases h
  | some =>
    obtain ⟨document, _, h⟩ := bind_ok.mp h
    obtain ⟨_, _, h⟩ := bind_ok.mp h
    obtain ⟨some_bytes, h⟩ := ensure_bind_ok.mp h
    cases h
    have start : Gathered S allowed handle [] {} := ⟨rfl, by simp, by simp⟩
    obtain ⟨gathered, within⟩ := foldl_addPart document (S.parts document) start positive
    refine ⟨⟨gathered.bytes, gathered.sound, ?_⟩, within, ?_⟩
    · exact gathered.fields.trans (by simpa using parts_names S document)
    · simpa using some_bytes

/-! ## All handles -/

/-- The fragments that the handles contribute in turn, each within an equal
share of what is left of the limit. -/
inductive Collects (S : Services) (allowed : List String) (limit : Int) :
    List String → Int → List EvidenceFragment → Prop where
  | nil (used : Int) : Collects S allowed limit [] used []
  | cons {handle : String} {rest : List String} {used : Int}
      {own : Collected} {more : List EvidenceFragment} :
      Gathered S allowed handle partNames own → own.bytes ≠ 0 →
      own.bytes ≤ (limit - used).tdiv (rest.length + 1) →
      Collects S allowed limit rest (used + own.bytes) more →
      Collects S allowed limit (handle :: rest) used (own.fragments ++ more)

variable {limit used : Int} {handles : List String} {more : List EvidenceFragment}
  {bundle : SubmitEvidenceBundleRequest} {created : List (String × RequestRow)}
  {candidates : List CandidateRow}

section

open List

theorem collect_ok {all} (within : acc.bytes ≤ limit)
    (h : S.collect vault allowed limit handles acc = .ok all) :
    ∃ more, all.fragments = acc.fragments ++ more ∧
      Collects S allowed limit handles acc.bytes more ∧ acc.bytes + contentBytes more ≤ limit := by
  induction handles generalizing acc with
  | nil =>
    cases h
    exact ⟨[], by simp, .nil _, by simpa using within⟩
  | cons _ rest ih =>
    obtain ⟨own, contributed, h⟩ := bind_ok.mp h
    have left : 0 ≤ limit - acc.bytes := by omega
    obtain ⟨gathered, share, some_bytes⟩ :=
      collectHandle_ok (Int.tdiv_nonneg left (by omega)) contributed
    have whole : (limit - acc.bytes).tdiv (rest.length + 1) ≤
        limit - acc.bytes := Int.tdiv_le_self _ left
    have fits : acc.bytes + own.bytes ≤ limit := by omega
    obtain ⟨more, fragments, collects, total⟩ := ih fits h
    refine ⟨own.fragments ++ more, ?_, .cons gathered some_bytes share collects, ?_⟩
    · rw [fragments, append_assoc]
    · rw [contentBytes_append, ← gathered.bytes]
      dsimp only at total
      omega

theorem Collects.sound (h : Collects S allowed limit handles used more) :
    ∀ fragment ∈ more, fragment.evidenceHandle ∈ handles ∧
      fragment.field ∈ allowed ∧ fragment.field ∈ partNames ∧
      fragment.contentDigest = S.digest fragment.content := by
  induction h with
  | nil => simp
  | cons gathered _ _ _ ih =>
    intro fragment member
    rcases mem_append.mp member with own | later
    · obtain ⟨same, field, digest⟩ := gathered.sound fragment own
      refine ⟨by simp [same], field, ?_, digest⟩
      exact gathered.fields.subset (mem_map_of_mem own)
    · obtain ⟨known, rest⟩ := ih fragment later
      exact ⟨mem_cons_of_mem _ known, rest⟩

theorem Collects.covered (h : Collects S allowed limit handles used more) :
    ∀ handle ∈ handles, ∃ fragment ∈ more, fragment.evidenceHandle = handle := by
  induction h with
  | nil => simp
  | @cons _ _ _ own _ gathered some_bytes _ _ ih =>
    intro handle member
    rcases mem_cons.mp member with rfl | later
    · have filled : own.fragments ≠ [] := by
        intro empty
        rw [gathered.bytes, empty] at some_bytes
        exact some_bytes rfl
      obtain ⟨fragment, present⟩ := exists_mem_of_ne_nil _ filled
      exact ⟨fragment, mem_append_left _ present, (gathered.sound fragment present).1⟩
    · obtain ⟨fragment, present, same⟩ := ih handle later
      exact ⟨fragment, mem_append_right _ present, same⟩

def EvidenceFragment.place (fragment : EvidenceFragment) : String × String :=
  (fragment.evidenceHandle, fragment.field)

theorem Collects.places_nodup (h : Collects S allowed limit handles used more)
    (distinct : handles.Nodup) :
    (more.map EvidenceFragment.place).Nodup := by
  induction h with
  | nil => simp
  | @cons _ _ _ own _ gathered _ _ collects ih =>
    rw [nodup_cons] at distinct
    rw [map_append, nodup_append]
    refine ⟨?_, ih distinct.2, ?_⟩
    · -- Within one handle the fields differ.
      have fields : (own.fragments.map EvidenceFragment.field).Nodup :=
        gathered.fields.nodup (by decide)
      refine Nodup.of_map Prod.snd ?_
      simpa [Function.comp_def, EvidenceFragment.place] using fields
    · intro _ here _ there same
      obtain ⟨fragment, present, rfl⟩ := mem_map.mp here
      obtain ⟨fragment', present', rfl⟩ := mem_map.mp there
      have handles := congrArg Prod.fst same
      simp only [EvidenceFragment.place, (gathered.sound fragment present).1] at handles
      exact distinct.1 (handles ▸ (collects.sound fragment' present').1)

/-! ## Shares -/

theorem bytesOf_append (handles first second) :
    bytesOf handles (first ++ second) = bytesOf handles first + bytesOf handles second := by
  simp [bytesOf]

theorem bytesOf_all (handles) (known : ∀ fragment ∈ fragments, fragment.evidenceHandle ∈ handles) :
    bytesOf handles fragments = contentBytes fragments := by
  rw [bytesOf, filter_eq_self.mpr]
  simpa using known

theorem bytesOf_none (handles) (foreign : ∀ fragment ∈ fragments,
      fragment.evidenceHandle ∉ handles) : bytesOf handles fragments = 0 := by
  rw [bytesOf, filter_eq_nil_iff.mpr, contentBytes_nil]
  simpa using foreign

theorem bytesOf_cons {first} (foreign : ∀ fragment ∈ fragments, fragment.evidenceHandle ≠ first) :
    bytesOf (first :: handles) fragments = bytesOf handles fragments := by
  rw [bytesOf, bytesOf]
  congr 1
  refine filter_congr fun fragment member => ?_
  simp [foreign fragment member]

theorem Collects.fair (h : Collects S allowed limit handles used more) (distinct : handles.Nodup)
    {before after} (split : handles = before ++ handle :: after) :
    bytesOf [handle] more ≤ (limit - used - bytesOf before more).tdiv (after.length + 1) := by
  induction h generalizing before with
  | nil => simp at split
  | @cons first rest used own later gathered _ share collects ih =>
    rw [nodup_cons] at distinct
    have apart : ∀ fragment ∈ later, fragment.evidenceHandle ≠ first := by
      intro fragment present same
      exact distinct.1 (same ▸ (collects.sound fragment present).1)
    have mine : ∀ fragment ∈ own.fragments, fragment.evidenceHandle = first :=
      fun fragment present => (gathered.sound fragment present).1
    cases before with
    | nil =>
      obtain ⟨rfl, rfl⟩ := List.cons.inj split
      rw [bytesOf_append, bytesOf_all _ (by simpa using mine),
        bytesOf_none [first] (by simpa using apart), bytesOf_none [] (by simp), ← gathered.bytes]
      simpa using share
    | cons _ before =>
      obtain ⟨rfl, tail⟩ := List.cons.inj split
      have other : handle ≠ first := by
        rintro rfl
        exact distinct.1 (tail ▸ by simp)
      have rest := ih distinct.2 tail
      rw [bytesOf_append, bytesOf_none [handle] (fun fragment present => by
            simpa [mine fragment present] using other.symm),
        bytesOf_append, bytesOf_cons apart,
        bytesOf_all (first :: before) (fun fragment present => by simp [mine fragment present]),
        ← gathered.bytes, Int.zero_add]
      have same : limit - used - (own.bytes + bytesOf before later) =
          limit - (used + own.bytes) - bytesOf before later := by
        omega
      rw [same]
      exact rest

/-! ## The checks -/

theorem distinctAnd_iff {accepted : String → Bool} {xs} :
    distinctAnd accepted xs = true ↔ (∀ x ∈ xs, accepted x = true) ∧ xs.Nodup := by
  induction xs with
  | nil => simp [distinctAnd]
  | cons _ _ ih =>
    simp only [distinctAnd, Bool.and_eq_true, Bool.not_eq_true', contains_eq_mem,
      decide_eq_false_iff_not, forall_mem_cons, nodup_cons, ih]
    exact and_and_and_comm

theorem place_of_key {fragment other : EvidenceFragment}
    (known : fragment.field ∈ partNames) (known' : other.field ∈ partNames)
    (same : fragment.key = other.key) : fragment.place = other.place := by
  have plain : ∀ name ∈ partNames, '\x00' ∉ name.toList := by decide
  rw [EvidenceFragment.key, EvidenceFragment.key, ← String.toList_inj] at same
  have nul : "\x00".toList = ['\x00'] := rfl
  simp only [String.toList_append, nul, append_assoc, singleton_append] at same
  obtain ⟨handles, fields⟩ := append_cons_inj_last (plain _ known) (plain _ known') same
  rw [EvidenceFragment.place, EvidenceFragment.place,
    String.toList_inj.mp handles, String.toList_inj.mp fields]

@[simp] theorem equalFold_self (s) : equalFold s s = true := by
  simp [equalFold]

def Approved (S : Services) (row : RequestRow) (fragment : EvidenceFragment) : Prop :=
  fragment.evidenceHandle ∈ stringSet row.evidenceHandles ∧
    fragment.field ∈ stringSet row.allowedFields ∧
    fragment.contentDigest = S.digest fragment.content

theorem foldlM_checkFragment {row fragments tally}
    (approved : ∀ fragment ∈ fragments, Approved S row fragment)
    (distinct : (fragments.map EvidenceFragment.key).Nodup)
    (unseen : ∀ fragment ∈ fragments, fragment.key ∉ tally.seenFragments) :
    ∃ final, fragments.foldlM (S.checkFragment row) tally = .ok final ∧
      final.total = tally.total + contentBytes fragments ∧
      (∀ handle ∈ tally.coveredHandles, handle ∈ final.coveredHandles) ∧
      ∀ fragment ∈ fragments, fragment.evidenceHandle ∈ final.coveredHandles := by
  induction fragments generalizing tally with
  | nil => exact ⟨tally, rfl, by simp, fun _ known => known, by simp⟩
  | cons fragment fragments ih =>
    simp only [forall_mem_cons] at approved unseen
    rw [map_cons, nodup_cons] at distinct
    obtain ⟨handle, field, digest⟩ := approved.1
    have checked : S.checkFragment row tally fragment = .ok (tally.add fragment) := by
      simp [Services.checkFragment, handle, field, digest, unseen.1, require, ensure]
      rfl
    have fresh : ∀ other ∈ fragments, other.key ∉ (tally.add fragment).seenFragments := by
      intro other present
      simp only [Tally.add, mem_cons, not_or]
      refine ⟨fun same => distinct.1 ?_, unseen.2 other present⟩
      exact same ▸ mem_map_of_mem present
    obtain ⟨final, folded, total, kept, covered⟩ := ih approved.2 distinct.2 fresh
    refine ⟨final, ?_, ?_, ?_, ?_⟩
    · rw [foldlM_cons, checked]
      exact folded
    · rw [total, contentBytes_cons, Tally.add]
      dsimp only
      omega
    · intro known present
      exact kept known (mem_cons_of_mem _ present)
    · simp only [forall_mem_cons]
      exact ⟨kept _ (mem_cons_self ..), covered⟩

/-! ## Acceptance -/

structure Leased (requests : Requests) (unitId : String) (now : Int)
    (requestId : String) (row : RequestRow) : Prop where
  found : requests.find? requestId = some row
  unit : row.unitId = unitId
  state : row.state = .leased
  id : row.leaseId ≠ ""
  deadline : stillOpen row.leaseDeadline now = true
  unexpired : now < row.expiresAt

/-- A bundle that answers a request and is accepted. -/
structure Relayed (S : Services) (requests : Requests) (unitId : String)
    (now : Int) (request : EvidenceRequest)
    (bundle : SubmitEvidenceBundleRequest) : Prop where
  accepted : S.submitEvidenceBundle requests unitId now bundle =
    .ok (.stored (contentBytes bundle.fragments))
  digests : bundle.bundleDigest = S.sensitiveEntryDigest bundle.fragments ∧
    ∀ fragment ∈ bundle.fragments, fragment.contentDigest = S.digest fragment.content
  requested : ∀ fragment ∈ bundle.fragments, fragment.evidenceHandle ∈ request.evidenceHandles ∧
      fragment.field ∈ request.allowedFields
  distinct : request.evidenceHandles.Nodup ∧ (bundle.fragments.map EvidenceFragment.place).Nodup
  covered : ∀ handle ∈ request.evidenceHandles,
    ∃ fragment ∈ bundle.fragments, fragment.evidenceHandle = handle
  total : 0 < contentBytes bundle.fragments ∧ contentBytes bundle.fragments ≤ request.maxBytes
  fair : ∀ before handle after, request.evidenceHandles = before ++ handle :: after →
      bytesOf [handle] bundle.fragments ≤
        (modelInputBytes request - bytesOf before bundle.fragments).tdiv (after.length + 1)

structure Built (S : Services) (request : EvidenceRequest)
    (bundle : SubmitEvidenceBundleRequest) : Prop where
  identity : bundle.requestId = request.requestId ∧ bundle.approvalId = request.approvalId ∧
    bundle.caseId = request.caseId ∧ bundle.leaseId = request.leaseId ∧
    bundle.leaseEpoch = request.leaseEpoch
  digest : bundle.bundleDigest = S.evidenceBundleDigest bundle.fragments
  named : ∀ handle ∈ request.evidenceHandles, trimSpace handle ≠ ""
  handles : request.evidenceHandles.Nodup
  filled : bundle.fragments ≠ []
  collects : Collects S request.allowedFields (modelInputBytes request)
    request.evidenceHandles 0 bundle.fragments
  within : contentBytes bundle.fragments ≤ modelInputBytes request

theorem buildEvidenceBundle_inv {vault} (h : S.buildEvidenceBundle vault request now = .ok bundle) :
    ∃ own all, vault = some own ∧
      distinctAnd (fun handle => trimSpace handle != "") request.evidenceHandles = true ∧
      request.evidenceHandles.length ≤ modelInputBytes request ∧
      S.collect own request.allowedFields (modelInputBytes request)
        request.evidenceHandles {} = .ok all ∧
      all.fragments ≠ [] ∧ bundle = {
        requestId := request.requestId
        approvalId := request.approvalId
        caseId := request.caseId
        leaseId := request.leaseId
        leaseEpoch := request.leaseEpoch
        fragments := all.fragments
        bundleDigest := S.evidenceBundleDigest all.fragments } := by
  obtain ⟨_, h⟩ := ensure_bind_ok.mp h
  obtain ⟨_, h⟩ := ensure_bind_ok.mp h
  cases vault with
  | none => cases h
  | some vault =>
    obtain ⟨handles, h⟩ := ensure_bind_ok.mp h
    obtain ⟨_, h⟩ := ensure_bind_ok.mp h
    obtain ⟨enough, h⟩ := ensure_bind_ok.mp h
    obtain ⟨all, collected, h⟩ := bind_ok.mp h
    obtain ⟨filled, h⟩ := ensure_bind_ok.mp h
    cases h
    exact ⟨vault, all, rfl, handles, of_decide_eq_true enough, collected,
      by simpa using filled, rfl⟩

theorem buildEvidenceBundle_ok {vault} (h : S.buildEvidenceBundle vault request now = .ok bundle) :
    Built S request bundle := by
  obtain ⟨_, all, rfl, handles, _, collected, filled, rfl⟩ := buildEvidenceBundle_inv h
  obtain ⟨named, distinct⟩ := distinctAnd_iff.mp handles
  have start : ({} : Collected).bytes ≤ modelInputBytes request := by
    dsimp only
    omega
  obtain ⟨more, fragments, collects, within⟩ := collect_ok start collected
  have same : all.fragments = more := by simpa using fragments
  refine ⟨⟨rfl, rfl, rfl, rfl, rfl⟩, rfl, ?_, distinct, filled, ?_, ?_⟩
  · intro handle member
    simpa using named handle member
  · rw [same]
    exact collects
  · rw [same]
    simpa using within

theorem modelInputBytes_le (request) : modelInputBytes request ≤ request.maxBytes := by
  unfold modelInputBytes
  split <;> omega

theorem Collects.positive (h : Collects S allowed limit handles used more)
    (filled : more ≠ []) : 0 < contentBytes more := by
  cases h with
  | nil => exact absurd rfl filled
  | @cons _ _ _ own later gathered some_bytes =>
    have first := contentBytes_nonneg own.fragments
    have rest := contentBytes_nonneg later
    rw [gathered.bytes] at some_bytes
    rw [contentBytes_append]
    omega

end

section Accepted

variable {requests : Requests} {unitId requestId : String} {now : Int}
  {row : RequestRow} {bundle : SubmitEvidenceBundleRequest}

theorem Built.approved (built : Built S (row.message requestId) bundle) :
    ∀ fragment ∈ bundle.fragments, Approved S row fragment := by
  intro fragment present
  obtain ⟨handle, field, known, digest⟩ := built.collects.sound fragment present
  have named := built.named _ handle
  refine ⟨List.mem_filter.mpr ⟨handle, ?_⟩, List.mem_filter.mpr ⟨field, ?_⟩, digest⟩
  · rw [bne_iff_ne]
    intro empty
    exact named (by rw [empty]; rfl)
  · rw [bne_iff_ne]
    intro empty
    rw [empty] at known
    exact absurd known (by decide)

theorem Built.keys_nodup (built : Built S request bundle) :
    (bundle.fragments.map EvidenceFragment.key).Nodup := by
  have places := built.collects.places_nodup built.handles
  rw [List.Nodup, List.pairwise_map] at places ⊢
  refine places.imp_of_mem fun here there apart same => apart ?_
  exact place_of_key (built.collects.sound _ here).2.2.1 (built.collects.sound _ there).2.2.1 same

theorem Built.tally (built : Built S (row.message requestId) bundle) :
    ∃ final, bundle.fragments.foldlM (S.checkFragment row) {} = .ok final ∧
      final.total = contentBytes bundle.fragments ∧
      row.evidenceHandles.all final.coveredHandles.contains = true := by
  obtain ⟨final, folded, total, -, covered⟩ :=
    @foldlM_checkFragment S row bundle.fragments {} built.approved built.keys_nodup (by simp)
  refine ⟨final, folded, by simpa using total, ?_⟩
  rw [List.all_eq_true]
  intro handle member
  obtain ⟨fragment, present, same⟩ := built.collects.covered handle member
  simpa [same] using covered fragment present

theorem Built.accepted (built : Built S (row.message requestId) bundle)
    (leased : Leased requests unitId now requestId row) :
    S.submitEvidenceBundle requests unitId now bundle =
      .ok (.stored (contentBytes bundle.fragments)) := by
  obtain ⟨request, approval, case_, lease, epoch⟩ := built.identity
  obtain ⟨final, folded, total, covered⟩ := built.tally
  have positive := built.collects.positive built.filled
  have bounded : contentBytes bundle.fragments ≤ row.maxBytes :=
    built.within.trans (modelInputBytes_le _)
  have digest : bundle.bundleDigest = S.sensitiveEntryDigest bundle.fragments := built.digest
  have found : requests.find? bundle.requestId = some row := by
    rw [request]
    exact leased.found
  have sized : final.total ≠ 0 := by omega
  have within : final.total ≤ row.maxBytes := by omega
  rw [Services.submitEvidenceBundle, found]
  refine require_bind_ok.mpr ⟨?_, ?_⟩
  · simp [approval, case_, leased.unit, RequestRow.message]
  refine require_bind_ok.mpr ⟨by simp [digest], ?_⟩
  rw [if_neg (by simp [leased.state])]
  refine require_bind_ok.mpr ⟨?_, ?_⟩
  · simp [leased.unexpired, leased.state, leased.deadline, leased.id, lease,
      epoch, RequestRow.message]
  refine bind_ok.mpr ⟨final, folded, ?_⟩
  refine require_bind_ok.mpr ⟨covered, ?_⟩
  refine require_bind_ok.mpr ⟨by simp [sized, within], ?_⟩
  rw [total]
  rfl

end Accepted

theorem pollEvidence_leased {requests unitId polled}
    (h : request ∈ (pollEvidence requests unitId polled random).1) :
    ∃ row, request = row.message request.requestId ∧ ∀ now, stillOpen row.leaseDeadline now = true →
        Leased (pollEvidence requests unitId polled random).2 unitId now request.requestId row := by
  let leased := (dueRequests requests unitId polled).map fun row : String × RequestRow =>
      (row.1, row.2.lease polled (random row.1))
  obtain ⟨_, member, rfl⟩ := List.mem_map.mp h
  obtain ⟨before, picked, rfl⟩ := List.mem_map.mp member
  have sorted := (List.perm_insertionSort
    (fun x y : String × RequestRow => x.2.expiresAt ≤ y.2.expiresAt)
    (requests.rows.filter fun row => row.2.due unitId polled))
  have unique : (leased.map Prod.fst).Nodup := by
    have keys : leased.map Prod.fst = (dueRequests requests unitId polled).map Prod.fst := by
      simp [leased, Function.comp_def]
    rw [keys]
    have all := (sorted.map Prod.fst).nodup_iff.mpr
      (requests.unique.sublist (List.filter_sublist.map Prod.fst))
    exact all.sublist ((List.take_sublist 4 _).map Prod.fst)
  have due := (List.mem_filter.mp (sorted.mem_iff.mp (List.mem_of_mem_take picked))).2
  simp only [RequestRow.due, Bool.and_eq_true, beq_iff_eq, decide_eq_true_eq] at due
  refine ⟨before.2.lease polled (random before.1), rfl, fun now lasts => ?_⟩
  have found : leased.lookup before.1 = some (before.2.lease polled (random before.1)) :=
    (mem_iff_lookup unique).mp (List.mem_map_of_mem picked)
  refine ⟨?_, due.1.1, rfl, newID_ne_empty _ _, lasts, ?_⟩
  · have overlaid := Table.find?_foldl_set_rows leased unique requests before.1
    rw [found] at overlaid
    exact overlaid
  · simp only [stillOpen, RequestRow.lease, Option.any_some, decide_eq_true_eq] at lasts
    split at lasts <;> dsimp only [RequestRow.lease] <;> omega

/-! ## The requests of an approval -/

def handleCount (groups : List (String × List String)) : Nat :=
  sumBy (fun group => group.2.length) groups

theorem Bound.add_ok {bound after : Bound} {row} (h : bound.add row = .ok after)
    (counted : handleCount bound.byUnit = bound.found.length) :
    handleCount after.byUnit = after.found.length := by
  obtain ⟨_, h⟩ := ensure_bind_ok.mp h
  cases h
  have written := sumBy_put (fun group => group.2.length) row.unitId
    ((bound.byUnit.lookup row.unitId).getD [] ++ [row.evidenceHandle])
    bound.byUnit
  unfold handleCount at counted ⊢
  cases old : bound.byUnit.lookup row.unitId with
  | none | some =>
    simp only [old] at written ⊢
    simp at written ⊢
    omega

theorem unitMaxBytes_le {maxBytes} (positive : 0 ≤ maxBytes) (own all : Nat) :
    (all : Int) * unitMaxBytes maxBytes own all ≤ maxBytes * own := by
  apply Int.mul_tdiv_self_le
  exact Int.mul_nonneg positive (by omega)

def grantedBytes (created : List (String × RequestRow)) : Int :=
  totalBy (fun row => row.2.maxBytes) created

theorem mapM_request_le {groups}
    (h : groups.mapM (approval.request approvalId random) = .ok created) :
    (approval.evidenceHandles.length : Int) * grantedBytes created ≤
      approval.maxBytes * handleCount groups := by
  induction groups generalizing created with
  | nil =>
    cases h
    simp [grantedBytes, totalBy, handleCount, sumBy]
  | cons group _ ih =>
    rw [List.mapM_cons] at h
    obtain ⟨_, requested, h⟩ := bind_ok.mp h
    obtain ⟨_, others, h⟩ := bind_ok.mp h
    cases h
    obtain ⟨_, requested⟩ := ensure_bind_ok.mp requested
    cases requested
    have positive : 0 ≤ approval.maxBytes := by
      have := approval.bounded
      omega
    have own := unitMaxBytes_le positive group.2.length approval.evidenceHandles.length
    have remaining := ih others
    simp only [grantedBytes, totalBy, handleCount, sumBy, List.foldr_cons] at remaining ⊢
    push_cast
    rw [Int.mul_add, Int.mul_add]
    omega

theorem requests_within (h : approval.requests approvalId now candidates random =
      .ok created) : grantedBytes created ≤ approval.maxBytes := by
  obtain ⟨some_handles, h⟩ := ensure_bind_ok.mp h
  obtain ⟨bound, grouped, h⟩ := bind_ok.mp h
  obtain ⟨complete, h⟩ := require_bind_ok.mp h
  have counted : handleCount bound.byUnit = bound.found.length :=
    foldlM_invariant (fun bound : Bound => handleCount bound.byUnit = bound.found.length)
      (fun _ _ _ step counted => Bound.add_ok step counted) grouped rfl
  have shares := mapM_request_le h
  rw [counted, beq_iff_eq.mp complete] at shares
  have positive : 0 < (approval.evidenceHandles.length : Int) := by
    have : approval.evidenceHandles ≠ [] := by simpa using some_handles
    have := List.length_pos_iff.mpr this
    omega
  rw [Int.mul_comm] at shares
  exact Int.le_of_mul_le_mul_right shares positive

theorem decideEvidence_within {currentDigest approved result}
    (h : approval.decideEvidence approvalId approved now currentDigest
      candidates random = .ok result) : grantedBytes result.2 ≤ approval.maxBytes := by
  have bounded := approval.bounded
  obtain ⟨_, h⟩ := require_bind_ok.mp h
  split at h
  · cases h
    simp [grantedBytes, totalBy]
    omega
  · split at h
    · cases h
      simp [grantedBytes, totalBy]
      omega
    · obtain ⟨_, made, h⟩ := bind_ok.mp h
      cases h
      exact requests_within made

/-- Whatever the vault holds, a bundle built for a leased request is
accepted, and the requests of an approval stay within its bytes. -/
theorem relay_accepted (S : Services) {requests : Requests}
    {unitId requestId : String} {now built : Int} {row : RequestRow}
    {vault : Option Vault} {bundle : SubmitEvidenceBundleRequest}
    (leased : Leased requests unitId now requestId row)
    (h : S.buildEvidenceBundle vault (row.message requestId) built = .ok bundle) :
    Relayed S requests unitId now (row.message requestId) bundle ∧
      ∀ (approval : EvidenceApproval) (approvalId : String)
        (approved : Bool) (decided : Int) (currentDigest : String)
        (candidates : List CandidateRow) (random : String → String)
        (result : EvidenceApproval × List (String × RequestRow)),
        approval.decideEvidence approvalId approved decided currentDigest
            candidates random = .ok result →
          grantedBytes result.2 ≤ approval.maxBytes := by
  have made := buildEvidenceBundle_ok h
  refine ⟨?_, fun _ _ _ _ _ _ _ _ decision =>
    decideEvidence_within decision⟩
  have sound := made.collects.sound
  refine ⟨made.accepted leased, ⟨made.digest, ?_⟩, ?_, ⟨made.handles, ?_⟩,
    made.collects.covered, ⟨?_, ?_⟩, ?_⟩
  · intro fragment present
    exact (sound fragment present).2.2.2
  · intro fragment present
    exact ⟨(sound fragment present).1, (sound fragment present).2.1⟩
  · exact made.collects.places_nodup made.handles
  · exact made.collects.positive made.filled
  · exact made.within.trans (modelInputBytes_le _)
  · intro _ _ _ split
    have share := made.collects.fair made.handles split
    simpa using share

def loginServices : Services where
  decodeDocument _ := .ok { method := "GET", routeTemplate := "/login" }
  marshalFields _ := []
  marshalBody _ := []
  sum256 _ := Vector.replicate 32 0
  toLower := Library.toLower

def loginRequest : RequestRow where
  approvalId := "approval_1"
  caseId := "case_1"
  assetId := "shop"
  unitId := "edge-1"
  evidenceHandles := ["ev-1", "ev-2"]
  allowedFields := ["path", "method"]
  maxBytes := 64
  modelConfigDigest := "sha256:aa"
  expiresAt := 500000
  bundleGroupId := "approval_1"

def loginPoll : List EvidenceRequest × Requests :=
  pollEvidence (Table.empty.set "evidence_1" loginRequest) "edge-1" 1000 id

theorem relay_accepted_login : ∃ request ∈ loginPoll.1, ∃ bundle,
      loginServices.buildEvidenceBundle (some fun _ => .ok (some [])) request 2000 = .ok bundle ∧
      Relayed loginServices loginPoll.2 "edge-1" 3000 request bundle := by
  have handed : (loginRequest.lease 1000 "evidence_1").message "evidence_1" ∈
      loginPoll.1 := by
    decide +kernel
  have leased : Leased loginPoll.2 "edge-1" 3000 "evidence_1"
      (loginRequest.lease 1000 "evidence_1") :=
    ⟨rfl, rfl, rfl, by decide, by decide, by decide⟩
  obtain ⟨bundle, built⟩ : ∃ bundle, loginServices.buildEvidenceBundle (some fun _ => .ok (some []))
        ((loginRequest.lease 1000 "evidence_1").message "evidence_1") 2000 = .ok bundle := ⟨_, rfl⟩
  exact ⟨_, handed, bundle, built, (relay_accepted loginServices leased built).1⟩

/-- The answer to a polled request passes the checks until its lease ends. -/
theorem polled_request_answered (S : Services) {requests unitId polled built now vault bundle}
    {random} {request : EvidenceRequest}
    (handed : request ∈ (pollEvidence requests unitId polled random).1)
    (made : S.buildEvidenceBundle vault request built = .ok bundle)
    (lasts : stillOpen request.leaseDeadline now = true) :
    S.submitEvidenceBundle (pollEvidence requests unitId polled random).2 unitId now bundle =
      .ok (.stored (contentBytes bundle.fragments)) := by
  obtain ⟨row, same, leased⟩ := pollEvidence_leased handed
  generalize request.requestId = requestId at same leased
  subst same
  exact (buildEvidenceBundle_ok made).accepted (leased now lasts)

theorem polled_request_answered_login : ∃ bundle,
    loginServices.submitEvidenceBundle loginPoll.2 "edge-1" 3000 bundle =
      .ok (.stored (contentBytes bundle.fragments)) := by
  obtain ⟨bundle, built⟩ : ∃ bundle, loginServices.buildEvidenceBundle (some fun _ => .ok (some []))
        ((loginRequest.lease 1000 "evidence_1").message "evidence_1") 2000 = .ok bundle := ⟨_, rfl⟩
  exact ⟨bundle, polled_request_answered loginServices (by decide +kernel) built (by decide)⟩

end YuFeng.Evidence

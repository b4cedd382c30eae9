import Mathlib.Data.List.Dedup
import YuFeng.Edge.Match
import YuFeng.Kernel.Rpc

/-!
# Trusted detection keys

A proposal may only assert detection keys that its pinned events carry.  Every
assertion has to match one listed key, and a key that is listed twice matches
twice.
-/

namespace YuFeng.Brain

open YuFeng.Library YuFeng.Edge List

def detectionKeyAssertionMatches (asserted trusted : DetectionKey) : Bool :=
  let fits (want have' : String) : Bool := want = "" || want = have'
  asserted.ruleId = trusted.ruleId && fits asserted.detectorId trusted.detectorId &&
    fits asserted.detectorVersion trusted.detectorVersion &&
    fits asserted.detectorManifestDigest trusted.detectorManifestDigest &&
    fits asserted.phase trusted.phase && (asserted.targetLocation = .unspecified ||
      asserted.targetLocation = trusted.targetLocation) &&
    fits asserted.targetSelector trusted.targetSelector &&
    fits asserted.normalizationProfileDigest trusted.normalizationProfileDigest

/-- An event is the list of the keys of its detections. -/
def availableKeys (events : List (List DetectionKey)) : List DetectionKey :=
  events.flatten.filter (·.ruleId ≠ "")

def keyAbsent : RpcError :=
  ⟨.failedPrecondition, "detection key is absent or ambiguous in pinned cluster"⟩

def named (claim : DetectionKey) : Bool := trimSpace claim.ruleId ≠ ""

def selectKeys (available selected : List DetectionKey) :
    List DetectionKey → Except RpcError (List DetectionKey)
  | [] => .ok selected
  | claim :: rest =>
    if named claim then
      match available.filter (detectionKeyAssertionMatches claim) with
      | [key] => selectKeys available (if key ∈ selected then selected else selected ++ [key]) rest
      | _ => .error keyAbsent
    else .error ⟨.invalidArgument, "detection key rule_id is required"⟩

def trustedPolicyKeys (asserted : List DetectionKey) (events : List (List DetectionKey)) :
    Except RpcError (List DetectionKey) :=
  if asserted = [] then .error ⟨.invalidArgument, "policy intent requires detection_keys"⟩
  else selectKeys (availableKeys events) [] asserted

def DependsOnSet (asserted : List DetectionKey) (events : List (List DetectionKey)) : Prop :=
  ∀ events', (∀ key, key ∈ events'.flatten ↔ key ∈ events.flatten) →
    trustedPolicyKeys asserted events' = trustedPolicyKeys asserted events

/-- The assertion matches one key, however often that is listed. -/
def OneKey (available : List DetectionKey) (claim : DetectionKey) : Prop :=
  ∃ key, ∀ other, other ∈ available.filter (detectionKeyAssertionMatches claim) ↔ other = key

section Selecting

variable {available selected asserted : List DetectionKey} {claim : DetectionKey}

theorem OneKey.congr {available'} (same : ∀ key, key ∈ available' ↔ key ∈ available) :
    OneKey available' claim ↔ OneKey available claim := by
  simp only [OneKey, mem_filter, same]

theorem selectKeys_absent (h : ∃ claim ∈ asserted.takeWhile named, ¬ OneKey available claim) :
    selectKeys available selected asserted = .error keyAbsent := by
  induction asserted generalizing selected with
  | nil => simp at h
  | cons first rest ih =>
    obtain ⟨claim, member, several⟩ := h
    rw [takeWhile_cons] at member
    split at member
    next known =>
      rw [selectKeys, if_pos known]
      split
      next key single =>
        rcases mem_cons.mp member with rfl | later
        · exact absurd ⟨key, by simp [single]⟩ several
        · exact ih ⟨claim, later, several⟩
      · rfl
    · cases member

theorem selectKeys_ne_absent (nodup : available.Nodup)
    (h : ∀ claim ∈ asserted.takeWhile named, OneKey available claim) :
    selectKeys available selected asserted ≠ .error keyAbsent := by
  induction asserted generalizing selected with
  | nil => simp [selectKeys]
  | cons first rest ih =>
    rw [takeWhile_cons] at h
    rw [selectKeys]
    split at h
    next known =>
      rw [forall_mem_cons] at h
      obtain ⟨key, one⟩ := h.1
      have single : available.filter (detectionKeyAssertionMatches first) = [key] := by
        refine perm_singleton.mp ((perm_ext_iff_of_nodup (nodup.filter _) (by simp)).mpr
          fun other => ?_)
        rw [one, mem_singleton]
      rw [if_pos known, single]
      exact ih h.2
    next blank => simp [blank, keyAbsent]

end Selecting

/-- Listing a key again changes the answer if every assertion up to the first
blank one matches one key. -/
theorem dependsOnSet_iff (asserted : List DetectionKey) (events : List (List DetectionKey)) :
    DependsOnSet asserted events ↔ asserted.takeWhile named = [] ∨
      ∃ claim ∈ asserted.takeWhile named, ¬ OneKey (availableKeys events) claim := by
  have congr : ∀ {events'}, (∀ key, key ∈ events'.flatten ↔ key ∈ events.flatten) → ∀ claim,
      OneKey (availableKeys events') claim ↔ OneKey (availableKeys events) claim :=
    fun same _ => OneKey.congr fun key => by simp only [availableKeys, mem_filter, same]
  cases asserted with
  | nil => exact iff_of_true (fun _ _ => rfl) (.inl rfl)
  | cons first rest =>
    cases known : named first with
    | false =>
      refine iff_of_true (fun _ _ => ?_) (.inl (by simp [known]))
      simp [trustedPolicyKeys, selectKeys, known]
    | true =>
      simp only [DependsOnSet, trustedPolicyKeys, takeWhile_cons_of_pos known, reduceCtorEq,
        if_false, false_or]
      constructor
      · intro depends
        by_contra all
        simp only [not_exists, not_and, not_not] at all
        have once : selectKeys (availableKeys [events.flatten.dedup]) [] (first :: rest) ≠
            .error keyAbsent := by
          refine selectKeys_ne_absent ?_ fun claim member => ?_
          · simpa [availableKeys] using (nodup_dedup events.flatten).filter _
          · rw [takeWhile_cons_of_pos known] at member
            exact (congr (by simp) claim).mpr (all claim member)
        refine once ((depends _ (by simp)).trans ?_)
        rw [← depends [events.flatten, events.flatten] (by simp), selectKeys, if_pos known]
        split
        next single =>
          obtain ⟨key, one⟩ := all first mem_cons_self
          have some := length_pos_of_mem ((one key).mpr rfl)
          have count := congrArg List.length single
          simp only [availableKeys, flatten_cons, flatten_nil, filter_append, length_append,
            append_nil, length_singleton] at some count
          omega
        · rfl
      · rintro ⟨claim, member, several⟩ events' same
        rw [← takeWhile_cons_of_pos known] at member
        rw [selectKeys_absent ⟨claim, member, several⟩,
          selectKeys_absent ⟨claim, member, (congr same claim).not.mpr several⟩]

def exampleKey : DetectionKey :=
  ⟨"coraza", "4", "", "942100", "request", .query, "id", ""⟩

/-- Two events with the same key make the proposal ambiguous. -/
theorem repeated_key_refused :
    trustedPolicyKeys [exampleKey] [[exampleKey]] = .ok [exampleKey] ∧
      trustedPolicyKeys [exampleKey] [[exampleKey], [exampleKey]] = .error keyAbsent ∧
      ¬ DependsOnSet [exampleKey] [[exampleKey]] := by
  have one : trustedPolicyKeys [exampleKey] [[exampleKey]] = .ok [exampleKey] := by decide +kernel
  have two : trustedPolicyKeys [exampleKey] [[exampleKey], [exampleKey]] = .error keyAbsent := by
    decide +kernel
  refine ⟨one, two, fun depends => ?_⟩
  have same := depends [[exampleKey], [exampleKey]] (by simp)
  rw [one, two] at same
  cases same

theorem mem_selectKeys {available selected asserted keys key}
    (h : selectKeys available selected asserted = .ok keys) : key ∈ keys ↔ key ∈ selected ∨
      ∃ claim ∈ asserted, key ∈ available.filter (detectionKeyAssertionMatches claim) := by
  induction asserted generalizing selected with
  | nil =>
    cases h
    simp
  | cons claim rest ih =>
    rw [selectKeys] at h
    split at h
    · split at h
      next only single =>
        simp only [ih h, mem_cons, exists_eq_or_imp, single]
        grind
      · cases h
    · cases h

/-- Accepted are the pinned keys that some assertion matches. -/
theorem trusted_keys_pinned (asserted : List DetectionKey) (events : List (List DetectionKey)) :
    match trustedPolicyKeys asserted events with
    | .ok keys => ∀ key, key ∈ keys ↔ ∃ claim ∈ asserted,
        key ∈ (availableKeys events).filter (detectionKeyAssertionMatches claim)
    | .error _ => True := by
  split
  next accepted =>
    rw [trustedPolicyKeys] at accepted
    split at accepted
    · cases accepted
    · simpa using fun key => mem_selectKeys accepted
  · trivial

end YuFeng.Brain

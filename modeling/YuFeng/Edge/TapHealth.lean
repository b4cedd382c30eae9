import Mathlib

/-!
# Skewed taps

A tap is skewed if the routes that it saw in a heartbeat window differ too much
from those of the unit that it follows.  The routes are recorded once for each
request, so both lists repeat them; the measure of likeness is meant for sets.
-/

namespace YuFeng.Edge

open List

variable {a b : List String}

/-- The counter of the loop over `b` when it ends. -/
def common (a b : List String) : Nat := b.countP fun x => a.contains x

/-- The number of keys of the map of both lists. -/
def unionSize (a b : List String) : Nat := (a ++ b).dedup.length

def jaccard (a b : List String) : ℚ :=
  if a = [] ∧ b = [] then 1
  else if unionSize a b = 0 then 1
  else common a b / unionSize a b

/-- The Jaccard index of two sets. -/
def jaccardIndex (s t : Finset String) : ℚ :=
  if s ∪ t = ∅ then 1 else (s ∩ t).card / (s ∪ t).card

structure TrueIndex (a b : List String) : Prop where
  exact : jaccard a b = jaccardIndex a.toFinset b.toFinset
  symmetric : jaccard b a = jaccard a b
  lower : 0 ≤ jaccard a b
  upper : jaccard a b ≤ 1
  same : a.toFinset = b.toFinset → jaccard a b = 1
  repeats : jaccard a b = jaccard a.dedup b.dedup

theorem jaccard_eq (a b : List String) : jaccard a b = if a.toFinset ∪ b.toFinset = ∅ then 1
    else (common a b : ℚ) / (a.toFinset ∪ b.toFinset).card := by
  have size : unionSize a b = (a.toFinset ∪ b.toFinset).card := by
    rw [← toFinset_append, card_toFinset, unionSize]
  simp only [jaccard, size, Finset.card_eq_zero]
  split
  next empty => simp [empty]
  · rfl

theorem common_eq_iff : common a b = (a.toFinset ∩ b.toFinset).card ↔ ∀ x ∈ a, b.count x ≤ 1 := by
  have set : a.toFinset ∩ b.toFinset = (b.filter fun x => a.contains x).toFinset := by
    ext x
    simp [and_comm]
  rw [set, common, countP_eq_length_filter, eq_comm, ← Multiset.coe_card,
    ← toFinset_coe, Multiset.toFinset_card_eq_card_iff_nodup, Multiset.coe_nodup,
    nodup_iff_count_le_one]
  refine forall_congr' fun x => ?_
  by_cases member : x ∈ a
  · simp [count_filter, member]
  · simp [member, count_eq_zero_of_not_mem]

theorem jaccard_index (h : ∀ x ∈ a, b.count x ≤ 1) :
    jaccard a b = jaccardIndex a.toFinset b.toFinset := by
  rw [jaccard_eq, common_eq_iff.mpr h, jaccardIndex]

theorem jaccardIndex_comm (s t : Finset String) : jaccardIndex s t = jaccardIndex t s := by
  rw [jaccardIndex, jaccardIndex, Finset.union_comm, Finset.inter_comm]

/--
The similarity is the Jaccard index of the two sets of routes exactly if no
route of both lists is repeated in one of them.
-/
theorem trueIndex_iff (a b : List String) :
    TrueIndex a b ↔ ∀ x ∈ a, x ∈ b → a.count x = 1 ∧ b.count x = 1 := by
  constructor
  · intro h x here there
    have some : a.toFinset ∪ b.toFinset ≠ ∅ :=
      Finset.ne_empty_of_mem (Finset.mem_union_left _ (mem_toFinset.mpr here))
    have size : ((a.toFinset ∪ b.toFinset).card : ℚ) ≠ 0 := by simpa using some
    have exact := h.exact
    have symmetric := h.symmetric
    rw [jaccard_eq, jaccardIndex, if_neg some, if_neg some, div_left_inj' size,
      Nat.cast_inj] at exact
    rw [jaccard_eq, jaccard_eq, Finset.union_comm, if_neg some, if_neg some,
      div_left_inj' size, Nat.cast_inj, exact, Finset.inter_comm] at symmetric
    exact ⟨Nat.le_antisymm (common_eq_iff.mp symmetric x there) (one_le_count_iff.mpr here),
      Nat.le_antisymm (common_eq_iff.mp exact x here) (one_le_count_iff.mpr there)⟩
  · intro single
    have once : ∀ x ∈ a, b.count x ≤ 1 := by
      intro x here
      by_cases there : x ∈ b
      · exact (single x here there).2.le
      · simp [count_eq_zero_of_not_mem there]
    have once' : ∀ x ∈ b, a.count x ≤ 1 := by
      intro x there
      by_cases here : x ∈ a
      · exact (single x here there).1.le
      · simp [count_eq_zero_of_not_mem here]
    have index := jaccard_index once
    have bounds : 0 ≤ jaccard a b ∧ jaccard a b ≤ 1 := by
      rw [index, jaccardIndex]
      split
      · exact ⟨zero_le_one, le_rfl⟩
      · exact ⟨by positivity, div_le_one_of_le₀
          (by exact_mod_cast Finset.card_le_card Finset.inter_subset_union) (by positivity)⟩
    refine ⟨index, ?_, bounds.1, bounds.2, fun same => ?_, ?_⟩
    · rw [index, jaccard_index once', jaccardIndex_comm]
    · rw [index, same, jaccardIndex, Finset.union_idempotent, Finset.inter_self]
      split
      · rfl
      next some => exact div_self (by simpa using some)
    · have sets : ∀ l : List String, l.dedup.toFinset = l.toFinset := by
        intro l
        ext
        simp
      rw [index, jaccard_index fun x _ => nodup_iff_count_le_one.mp (nodup_dedup b) x, sets, sets]

/-- Two requests for one route at the peer. -/
theorem trueIndex_repeated : ¬ TrueIndex ["GET /"] ["GET /", "GET /"] := by
  intro h
  exact absurd h.upper (by decide +kernel)

end YuFeng.Edge

import Mathlib.Data.List.Sort

/-!
# Paging

Pages that are filled up to a budget, and reading a numbered log past a
cursor.
-/

namespace YuFeng.Library

open List

section Budget

variable {α : Type*}

/-- Take entries while they fit; the first one is taken in any case. -/
def fillPage (size : α → Nat) (budget : Nat) : Nat → Bool → List α → List α
  | _, _, [] => []
  | used, taken, x :: xs =>
    if budget < used + size x ∧ taken = true then []
    else x :: fillPage size budget (used + size x) true xs

def firstPage (size : α → Nat) (budget : Nat) (xs : List α) : List α :=
  fillPage size budget 0 false xs

theorem fillPage_append (size : α → Nat) (budget used : Nat) (taken : Bool) (xs : List α) :
    ∃ rest, xs = fillPage size budget used taken xs ++ rest := by
  induction xs generalizing used taken with
  | nil => exact ⟨[], rfl⟩
  | cons x xs ih =>
    rw [fillPage]
    split
    · exact ⟨x :: xs, rfl⟩
    · obtain ⟨rest, same⟩ := ih (used + size x) true
      exact ⟨rest, congrArg (x :: ·) same⟩

theorem firstPage_append (size : α → Nat) (budget : Nat) (xs : List α) :
    ∃ rest, xs = firstPage size budget xs ++ rest :=
  fillPage_append size budget 0 false xs

theorem firstPage_full {size : α → Nat} {budget xs}
    (full : (firstPage size budget xs).length = xs.length) : firstPage size budget xs = xs := by
  obtain ⟨rest, same⟩ := firstPage_append size budget xs
  have empty : rest = [] := by
    have lengths := congrArg List.length same
    rw [length_append] at lengths
    exact length_eq_zero_iff.mp (by omega)
  rw [empty, append_nil] at same
  exact same.symm

def totalSize (size : α → Nat) (xs : List α) : Nat := xs.foldr (fun x sum => size x + sum) 0

theorem fillPage_eq_self_iff {size : α → Nat} {budget used xs} :
    fillPage size budget used true xs = xs ↔ xs = [] ∨ used + totalSize size xs ≤ budget := by
  induction xs generalizing used with
  | nil => simp [fillPage]
  | cons x xs ih =>
    have total : totalSize size (x :: xs) = size x + totalSize size xs := rfl
    simp only [fillPage, and_true]
    split
    · simp
      omega
    · rw [List.cons.injEq, ih, total, ← Nat.add_assoc]
      have none : xs = [] → totalSize size xs = 0 := fun empty => by
        rw [empty, totalSize, foldr_nil]
      grind

theorem firstPage_eq_self_iff {size : α → Nat} {budget xs} :
    firstPage size budget xs = xs ↔ xs.length ≤ 1 ∨ totalSize size xs ≤ budget := by
  cases xs with
  | nil => simp [firstPage, fillPage]
  | cons x xs =>
    rw [firstPage, fillPage, if_neg (by simp), List.cons.injEq, fillPage_eq_self_iff]
    simp [totalSize]

theorem take_append_firstPage (size : α → Nat) (budget offset : Nat)
    (xs : List α) (inside : offset ≤ xs.length) :
    xs.take offset ++ firstPage size budget (xs.drop offset) = xs.take (offset +
        (firstPage size budget (xs.drop offset)).length) ∧
      offset + (firstPage size budget (xs.drop offset)).length ≤
        xs.length := by
  obtain ⟨_, same⟩ := firstPage_append size budget (xs.drop offset)
  have lengths := congrArg List.length same
  rw [length_drop, length_append] at lengths
  refine ⟨?_, by omega⟩
  rw [take_add]
  congr 1
  conv => rhs; rw [same]
  rw [take_left']
  rw [← same]

end Budget

section Numbers

variable {α : Type*} (number : α → Nat)

def orderByNumber (xs : List α) : List α := xs.insertionSort fun x y => number x ≤ number y

theorem mem_orderByNumber {xs x} : x ∈ orderByNumber number xs ↔ x ∈ xs :=
  (perm_insertionSort _ xs).mem_iff

theorem orderByNumber_sorted {xs} (distinct : (xs.map number).Nodup) :
    (orderByNumber number xs).Pairwise (number · < number ·) := by
  have total : Std.Total fun x y : α => number x ≤ number y :=
    ⟨fun x y => Nat.le_total (number x) (number y)⟩
  have transitive : IsTrans α fun x y => number x ≤ number y := ⟨fun _ _ _ => Nat.le_trans⟩
  have ordered : (orderByNumber number xs).Pairwise
      (number · ≤ number ·) := pairwise_insertionSort _ xs
  have apart : (orderByNumber number xs).Pairwise (number · ≠ number ·) := by
    have nodup : ((orderByNumber number xs).map number).Nodup :=
      ((perm_insertionSort _ xs).map number).nodup_iff.mpr distinct
    exact pairwise_map.mp nodup
  exact (ordered.and apart).imp fun both => Nat.lt_of_le_of_ne both.1 both.2

variable {number}

def largest (number : α → Nat) (xs : List α) : Nat := xs.foldr (fun x best => max (number x) best) 0

theorem largest_lt {xs bound} (positive : 0 < bound) (h : ∀ x ∈ xs, number x < bound) :
    largest number xs < bound := by
  induction xs with
  | nil => exact positive
  | cons y _ ih =>
    rw [largest, foldr_cons]
    refine Nat.max_lt.mpr ⟨h y mem_cons_self, ih ?_⟩
    intro x later
    exact h x (mem_cons_of_mem y later)

end Numbers

end YuFeng.Library

import Mathlib.Data.List.Induction
import Mathlib.Data.List.Perm.Basic
import YuFeng.Library.Table

/-!
# Queries

Selecting, ordering and picking rows, and what an insert or an update of one
row does to the result of a query.
-/

namespace YuFeng.Library

open List

section Order

variable {α : Type*}

def textLe : List Char → List Char → Bool
  | [], _ => true
  | _ :: _, [] => false
  | a :: as, b :: bs => if a = b then textLe as bs else a.toNat < b.toNat

def insertBy (key : α → String) (x : α) : List α → List α
  | [] => [x]
  | y :: ys =>
    if textLe (key x).toList (key y).toList then x :: y :: ys
    else y :: insertBy key x ys

def orderBy (key : α → String) (xs : List α) : List α := xs.foldr (insertBy key) []

variable {xs : List α}

theorem mem_insertBy {key : α → String} {x y} : y ∈ insertBy key x xs ↔ y = x ∨ y ∈ xs := by
  induction xs with
  | nil => simp [insertBy]
  | cons _ _ ih =>
    simp only [insertBy]
    split
    · simp
    · simp [ih, or_left_comm]

theorem mem_orderBy {key : α → String} {y} : y ∈ orderBy key xs ↔ y ∈ xs := by
  induction xs with
  | nil => simp [orderBy]
  | cons _ _ ih => simpa [orderBy, mem_insertBy] using or_congr_right ih

def highest (number : α → Int) (xs : List α) : Option α :=
  xs.foldl (fun best x =>
    if best.all fun b => number b < number x then some x else best) none

theorem highest_append (number : α → Int) (xs : List α) (x : α) : highest number (xs ++ [x]) =
      if (highest number xs).all fun b => number b < number x then some x
      else highest number xs := by
  rw [highest, foldl_append]
  rfl

variable {number : α → Int}

theorem highest_mem {b} (h : highest number xs = some b) : b ∈ xs := by
  induction xs using List.reverseRecOn with
  | nil => simp [highest] at h
  | append_singleton _ _ ih =>
    rw [highest_append] at h
    split at h
    · simp [Option.some.inj h]
    · exact mem_append_left _ (ih h)

theorem highest_eq_none (h : highest number xs = none) : xs = [] := by
  induction xs using List.reverseRecOn with
  | nil => rfl
  | append_singleton =>
    rw [highest_append] at h
    split at h
    · cases h
    next larger => simp [h] at larger

theorem highest_append_larger {x} (h : ∀ b, highest number xs = some b → number b < number x) :
    highest number (xs ++ [x]) = some x := by
  rw [highest_append, if_pos]
  cases best : highest number xs with
  | none => rfl
  | some b => simpa using h b best

end Order

section Filter

variable {κ ρ : Type*} [DecidableEq κ]

variable {key : κ}

theorem filter_put {p : κ × ρ → Bool} {row rows} (new : p (key, row) = false)
    (old : ∀ before, (key, before) ∈ rows → p (key, before) = false) :
    (put key row rows).filter p = rows.filter p := by
  induction rows with
  | nil => simp [put, new]
  | cons first _ ih =>
    obtain ⟨_, before⟩ := first
    rw [put]
    split
    next same =>
      subst same
      rw [filter_cons_of_neg (by simp [new]), filter_cons_of_neg]
      simpa using old before (by simp)
    · have rest := ih fun before present =>
        old before (mem_cons_of_mem _ present)
      simp [filter_cons, rest]

theorem filter_put_of_key {p : κ → Bool} (kept : p key = true) (row : ρ) (rows) :
    (put key row rows).filter (fun row => p row.1) =
      put key row (rows.filter fun row => p row.1) := by
  induction rows with
  | nil => simp [put, kept]
  | cons first _ ih =>
    obtain ⟨other, _⟩ := first
    by_cases same : other = key
    · subst same
      simp [put, kept]
    · cases chosen : p other with
      | false | true => simp [put, same, chosen, ih]

theorem select_set_of_pos {table : Table κ ρ} {keep : κ → Bool} (kept : keep key = true) (row : ρ) :
    (table.set key row).select keep = (table.select keep).set key row :=
  Table.ext (filter_put_of_key kept row table.rows)

theorem select_set_of_neg {table : Table κ ρ} {keep : κ → Bool} (dropped : keep key = false)
    (row : ρ) : (table.set key row).select keep = table.select keep :=
  Table.ext (filter_put dropped fun _ _ => dropped)

end Filter

section Sums

variable {κ ρ : Type*}

def sumBy (weight : κ × ρ → Nat) (rows : List (κ × ρ)) : Nat :=
  rows.foldr (fun row sum => weight row + sum) 0

theorem sumBy_congr {weight weight' : κ × ρ → Nat} {rows}
    (h : ∀ row ∈ rows, weight row = weight' row) : sumBy weight rows = sumBy weight' rows :=
  foldr_ext _ _ _ fun row present _ => by rw [h row present]

variable (rows : List (κ × ρ))

theorem sumBy_zero : sumBy (fun _ => 0) rows = 0 := by
  induction rows with
  | nil => rfl
  | cons _ _ ih =>
    rw [sumBy, foldr_cons, ← sumBy, ih]

variable (weight : κ × ρ → Nat)

theorem sumBy_put [DecidableEq κ] (key : κ) (row : ρ) (rows) :
    sumBy weight (put key row rows) +
        ((rows.lookup key).map fun before => weight (key, before)).getD 0 =
      sumBy weight rows + weight (key, row) := by
  induction rows with
  | nil => simp [put, sumBy]
  | cons first rows ih =>
    obtain ⟨other, before⟩ := first
    by_cases same : other = key
    · subst same
      simp only [put, if_true, sumBy, foldr_cons,
        lookup_cons_self, Option.map_some, Option.getD_some]
      omega
    · have found : ((other, before) :: rows).lookup key = rows.lookup key := by
        simp [lookup_cons, beq_false_of_ne (Ne.symm same)]
      rw [found]
      simp only [put, same, if_false, sumBy, foldr_cons] at ih ⊢
      omega

theorem sumBy_one : sumBy (fun _ => 1) rows = rows.length := by
  induction rows with
  | nil => rfl
  | cons _ _ ih =>
    rw [sumBy, foldr_cons, ← sumBy, ih, length_cons]
    omega

theorem sumBy_perm {rows rows'} (h : rows.Perm rows') : sumBy weight rows = sumBy weight rows' := by
  have swaps : LeftCommutative fun (row : κ × ρ) sum => weight row + sum :=
    ⟨fun _ _ _ => Nat.add_left_comm _ _ _⟩
  exact h.foldr_eq 0

theorem sumBy_erase [DecidableEq κ] {table : Table κ ρ} {key row}
    (found : table.find? key = some row) :
    sumBy weight (table.erase key).rows + weight (key, row) = sumBy weight table.rows := by
  rw [sumBy_perm weight (Table.perm_erase found), Nat.add_comm]
  rfl

theorem sumBy_set [DecidableEq κ] (table : Table κ ρ) (key : κ) (row : ρ) :
    sumBy weight (table.set key row).rows +
        ((table.find? key).map fun before => weight (key, before)).getD 0 =
      sumBy weight table.rows + weight (key, row) :=
  sumBy_put weight key row table.rows

def totalBy (weight : κ × ρ → Int) (rows : List (κ × ρ)) : Int :=
  rows.foldr (fun row total => weight row + total) 0

theorem totalBy_congr {weight weight' : κ × ρ → Int} {rows}
    (h : ∀ row ∈ rows, weight row = weight' row) : totalBy weight rows = totalBy weight' rows :=
  foldr_ext _ _ _ fun row present _ => by rw [h row present]

theorem totalBy_zero : totalBy (fun _ => 0) rows = 0 := by
  induction rows with
  | nil => rfl
  | cons _ _ ih =>
    rw [totalBy, foldr_cons, ← totalBy, ih]
    rfl

theorem totalBy_add (weight weight' : κ × ρ → Int) (rows) :
    totalBy (fun row => weight row + weight' row) rows =
      totalBy weight rows + totalBy weight' rows := by
  induction rows with
  | nil => rfl
  | cons _ _ ih =>
    simp only [totalBy, foldr_cons] at ih ⊢
    omega

theorem totalBy_nonneg {weight : κ × ρ → Int} {rows} (h : ∀ row ∈ rows, 0 ≤ weight row) :
    0 ≤ totalBy weight rows := by
  induction rows with
  | nil => simp [totalBy]
  | cons first _ ih =>
    have head := h first mem_cons_self
    have rest := ih fun row present =>
      h row (mem_cons_of_mem _ present)
    simp only [totalBy, foldr_cons] at rest ⊢
    omega

theorem totalBy_perm (weight : κ × ρ → Int) {rows rows'} (h : rows.Perm rows') :
    totalBy weight rows = totalBy weight rows' := by
  have swaps : LeftCommutative fun (row : κ × ρ) total => weight row + total :=
    ⟨fun _ _ _ => Int.add_left_comm _ _ _⟩
  exact h.foldr_eq 0

theorem totalBy_set [DecidableEq κ] (weight : κ × ρ → Int) (table : Table κ ρ) (key : κ) (row : ρ) :
    totalBy weight (table.set key row).rows = totalBy weight table.rows + weight (key, row) -
        ((table.find? key).map fun before => weight (key, before)).getD 0 := by
  rw [totalBy_perm weight (table.perm_set key row)]
  cases found : table.find? key with
  | none =>
    rw [Table.erase_of_absent found]
    simp [totalBy, Int.add_comm]
  | some before =>
    rw [totalBy_perm weight (Table.perm_erase found)]
    simp only [totalBy, foldr_cons, Option.map_some, Option.getD_some]
    omega

theorem totalBy_update [DecidableEq κ] (weight : κ × ρ → Int) (table : Table κ ρ) (change : ρ → ρ) :
    totalBy weight (table.update change).rows =
      totalBy (fun row => weight (row.1, change row.2)) table.rows := by
  unfold totalBy Table.update
  rw [foldr_map]

end Sums

end YuFeng.Library

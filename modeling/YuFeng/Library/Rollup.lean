import YuFeng.Library.Table

/-!
# Sums that are kept by bucket

Rows fall into buckets, and a table holds one sum for each bucket.  `rollup`
computes the sums of the rows that are present and overwrites what the table
had for their buckets.  The table then agrees with a log of all rows as long
as every bucket that is computed again is present as a whole.
-/

namespace YuFeng.Library

open List

section Rollup

variable {α κ ρ : Type*} [DecidableEq κ] (bucket : α → κ)

def groupOf (rows : List α) (key : κ) : List α := rows.filter fun row => bucket row = key

theorem mem_groupOf {rows key row} :
    row ∈ groupOf bucket rows key ↔ row ∈ rows ∧ bucket row = key := by
  simp [groupOf]

theorem groupOf_append (first second : List α) (key : κ) :
    groupOf bucket (first ++ second) key = groupOf bucket first key ++ groupOf bucket second key :=
  filter_append ..

/-- Each bucket of the rows is there as a whole or not at all. -/
def Whole (log rows : List α) : Prop :=
  ∀ key, groupOf bucket rows key = [] ∨ groupOf bucket rows key = groupOf bucket log key

theorem Whole.filter {log rows} {keep : α → Bool} (h : Whole bucket log rows)
    (unsplit : ∀ x ∈ log, ∀ y ∈ log, bucket x = bucket y → (keep x = true ↔ keep y = true)) :
    Whole bucket log (rows.filter keep) := by
  intro key
  have swap : groupOf bucket (rows.filter keep) key = (groupOf bucket rows key).filter keep := by
    simp [groupOf, Bool.and_comm]
  rw [swap]
  rcases h key with gone | all
  · exact .inl (by rw [gone, filter_nil])
  · rw [all]
    by_cases some_kept : ∃ x ∈ groupOf bucket log key, keep x = true
    · obtain ⟨x, member, kept⟩ := some_kept
      rw [mem_groupOf] at member
      refine .inr (filter_eq_self.mpr ?_)
      intro y other
      rw [mem_groupOf] at other
      exact (unsplit x member.1 y other.1 (member.2.trans other.2.symm)).mp kept
    · refine .inl (filter_eq_nil_iff.mpr ?_)
      intro x member kept
      exact some_kept ⟨x, member, kept⟩

theorem Whole.refine {τ : Type*} [DecidableEq τ] {fine : α → τ} {log rows}
    (h : Whole bucket log rows) (inside : ∀ x y, fine x = fine y → bucket x = bucket y) :
    Whole fine log rows := by
  intro key
  cases found : groupOf fine rows key with
  | nil => exact .inl rfl
  | cons x =>
    refine .inr ?_
    have member : x ∈ groupOf fine rows key := by
      rw [found]
      exact mem_cons_self
    rw [mem_groupOf] at member
    have within : ∀ xs, groupOf fine (groupOf bucket xs (bucket x)) key = groupOf fine xs key := by
      intro _
      simp only [groupOf, filter_filter]
      apply filter_congr
      intro y _
      by_cases same : fine y = key
      · simp [same, inside y x (same.trans member.2.symm)]
      · simp [same]
    have all : groupOf bucket rows (bucket x) = groupOf bucket log (bucket x) := by
      rcases h (bucket x) with gone | all
      · have here := (mem_groupOf bucket).mpr ⟨member.1, rfl⟩
        rw [gone] at here
        contradiction
      · exact all
    rw [← found, ← within rows, all, within log]

variable (total : List α → ρ)

def rollup (rows : List α) (table : Table κ ρ) : Table κ ρ :=
  rows.foldl (fun table row =>
    table.set (bucket row) (total (groupOf bucket rows (bucket row)))) table

theorem find?_foldl_set (value : κ → ρ) (rows : List α) (table : Table κ ρ) (key : κ) :
    (rows.foldl (fun table row => table.set (bucket row) (value (bucket row))) table).find? key =
      if groupOf bucket rows key = [] then table.find? key
      else some (value key) := by
  induction rows generalizing table with
  | nil => simp [groupOf]
  | cons row _ ih =>
    rw [foldl_cons, ih]
    by_cases same : bucket row = key
    · simp [groupOf, same]
    · have apart : key ≠ bucket row := fun eq => same eq.symm
      simp [groupOf, same, Table.find?_set_of_ne apart]

theorem find?_rollup (rows : List α) (table : Table κ ρ) (key : κ) :
    (rollup bucket total rows table).find? key =
      if groupOf bucket rows key = [] then table.find? key
      else some (total (groupOf bucket rows key)) :=
  find?_foldl_set bucket (fun key => total (groupOf bucket rows key)) rows table key

/-- Every sum in the table is that of the rows of the log. -/
def Agrees (log : List α) (table : Table κ ρ) : Prop :=
  ∀ key sum, table.find? key = some sum → sum = total (groupOf bucket log key)

variable {bucket total}

theorem Agrees.rollup {seen fresh rows table} (h : Agrees bucket total seen table)
    (whole : Whole bucket (seen ++ fresh) rows) (covers : ∀ row ∈ fresh, row ∈ rows) :
    Agrees bucket total (seen ++ fresh) (rollup bucket total rows table) := by
  intro key sum found
  rw [find?_rollup] at found
  split_ifs at found with none_here
  · have old : groupOf bucket fresh key = [] := by
      rw [eq_nil_iff_forall_not_mem]
      intro row member
      rw [mem_groupOf] at member
      have here := (mem_groupOf bucket).mpr ⟨covers row member.1, member.2⟩
      rw [none_here] at here
      contradiction
    rw [groupOf_append, old, append_nil]
    exact h key sum found
  · rcases whole key with gone | all
    · exact absurd gone none_here
    · rw [← all]
      exact (Option.some.inj found).symm

theorem Agrees.select {log table} (h : Agrees bucket total log table) (keep : κ → Bool) :
    Agrees bucket total log (table.select keep) := by
  intro key sum found
  rw [Table.find?_select] at found
  split_ifs at found
  exact h key sum found

end Rollup

end YuFeng.Library

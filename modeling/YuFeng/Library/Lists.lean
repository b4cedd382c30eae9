import Mathlib.Data.List.Basic

/-!
# Lists as tables

Facts about reading a list by position: after one of its entries was replaced,
at the front of what is left of it, and up to a separator.
-/

namespace YuFeng.Library

open List

variable {α : Type*}

variable {xs : List α}

theorem getElem?_set_cases {index i new value} (h : (xs.set index new)[i]? = some value) :
    index = i ∧ value = new ∨ index ≠ i ∧ xs[i]? = some value := by
  rw [getElem?_set] at h
  split at h
  next same =>
    split at h
    · cases h
      exact .inl ⟨same, rfl⟩
    · contradiction
  next other => exact .inr ⟨other, h⟩

theorem getElem?_set_of_some {index old} (h : xs[index]? = some old) (new : α) :
    (xs.set index new)[index]? = some new := by
  rw [getElem?_set_self (List.getElem?_eq_some_iff.mp h).1]

theorem getElem?_concat_cases {i : Nat} {new value : α} (h : (xs ++ [new])[i]? = some value) :
    xs[i]? = some value ∨ value = new := by
  rw [getElem?_append] at h
  split at h
  · exact .inl h
  · exact .inr (mem_singleton.mp (mem_of_getElem? h))

theorem drop_cons {xs left : List α} {index x} (h : xs.drop index = x :: left) :
    xs[index]? = some x ∧ xs.drop (index + 1) = left := by
  constructor
  · have first := congrArg (fun ys => ys[0]?) h
    simpa using first
  · rw [← tail_drop, h]
    rfl

variable {first second rest rest' : List α}

theorem append_cons_inj {separator} (h : separator ∉ first) (h' : separator ∉ second)
    (same : first ++ separator :: rest = second ++ separator :: rest') :
    first = second ∧ rest = rest' := by
  classical
  have parts := congrArg (splitOn separator) same
  rw [splitOn_append_cons_self_of_not_mem h, splitOn_append_cons_self_of_not_mem h'] at parts
  obtain rfl := (List.cons.inj parts).1
  simpa using same

theorem append_cons_inj_last {separator} (here : separator ∉ rest) (there : separator ∉ rest')
    (h : first ++ separator :: rest = second ++ separator :: rest') :
    first = second ∧ rest = rest' := by
  have reversed := congrArg List.reverse h
  simp only [reverse_append, reverse_cons, append_assoc, singleton_append] at reversed
  obtain ⟨tails, heads⟩ := append_cons_inj (by simpa using here) (by simpa using there) reversed
  exact ⟨reverse_injective heads, reverse_injective tails⟩

/-! ## Parts that end with a separator -/

variable [DecidableEq α] {separator : α} {parts others : List (List α)} {last : List α}

theorem count_intercalate_concat : ([separator].intercalate (parts ++ [last])).count separator =
    parts.flatten.count separator + parts.length + last.count separator := by
  induction parts with
  | nil => simp [intercalate]
  | cons part parts ih =>
    rw [cons_append, intercalate_cons_of_ne_nil (by simp), flatten_cons, length_cons]
    simp only [count_append, count_singleton_self, ih]
    omega

/-- Parts without the separator are read off the joined text, whatever the others hold. -/
theorem intercalate_concat_inj (many : parts.length = others.length)
    (plain : ∀ part ∈ parts, separator ∉ part)
    (same : [separator].intercalate (parts ++ [last]) =
      [separator].intercalate (others ++ [last])) :
    parts = others := by
  have counts := congrArg (count separator) same
  rw [count_intercalate_concat, count_intercalate_concat] at counts
  have none : parts.flatten.count separator = 0 := count_eq_zero.mpr (by simpa using plain)
  have plain' : ∀ other ∈ others, separator ∉ other := by
    simpa using count_eq_zero.mp (show others.flatten.count separator = 0 by omega)
  clear counts none
  induction parts generalizing others with
  | nil => exact (length_eq_zero_iff.mp many.symm).symm
  | cons part parts ih =>
    obtain _ | ⟨other, others⟩ := others
    · contradiction
    rw [forall_mem_cons] at plain plain'
    rw [cons_append, cons_append, intercalate_cons_of_ne_nil (by simp),
      intercalate_cons_of_ne_nil (by simp), append_assoc, append_assoc] at same
    obtain ⟨rfl, rest⟩ := append_cons_inj plain.1 plain'.1 same
    rw [ih (Nat.succ.inj many) plain.2 rest plain'.2]

end YuFeng.Library

import Mathlib.Data.List.Nodup

/-!
# Tables with a primary key

A table is a list of rows in which no key occurs twice.  `set` is an insert
that overwrites on conflict and `update` is an update of every row.
-/

namespace YuFeng.Library

open List

section Rows

variable {κ ρ : Type*} [DecidableEq κ]

def put (key : κ) (row : ρ) : List (κ × ρ) → List (κ × ρ)
  | [] => [(key, row)]
  | (other, old) :: rows =>
    if other = key then (key, row) :: rows
    else (other, old) :: put key row rows

theorem lookup_put_self (key : κ) (row : ρ) (rows) : (put key row rows).lookup key = some row := by
  induction rows with
  | nil => simp [put]
  | cons first _ ih =>
    obtain ⟨_, _⟩ := first
    rw [put]
    split
    · simp
    next different => simp [lookup_cons, ih, beq_false_of_ne (Ne.symm different)]

theorem lookup_put_of_ne {key other} (different : other ≠ key) (row : ρ) (rows : List (κ × ρ)) :
    (put key row rows).lookup other = rows.lookup other := by
  induction rows with
  | nil => simp [put, lookup_cons, beq_false_of_ne different]
  | cons first _ ih =>
    obtain ⟨_, _⟩ := first
    rw [put]
    split
    next same => simp [lookup_cons, same, beq_false_of_ne different]
    · simp [lookup_cons, ih]

theorem lookup_map (change : ρ → ρ) (key : κ) (rows : List (κ × ρ)) :
    (rows.map fun row => (row.1, change row.2)).lookup key = (rows.lookup key).map change := by
  induction rows with
  | nil => rfl
  | cons first _ ih =>
    obtain ⟨other, _⟩ := first
    simp only [map_cons, lookup_cons, ih]
    cases key == other <;> rfl

theorem lookup_map_key {τ : Type*} (value : κ → τ) (key : κ) (rows : List (κ × ρ)) :
    (rows.map fun row => (row.1, value row.1)).lookup key =
      (rows.lookup key).map fun _ => value key := by
  induction rows with
  | nil => rfl
  | cons first _ ih =>
    obtain ⟨other, _⟩ := first
    by_cases here : key = other
    · simp [here]
    · simp [lookup_cons, beq_false_of_ne here, ih]

variable {row : ρ}

theorem mem_keys_put {key other} {rows : List (κ × ρ)} :
    other ∈ (put key row rows).map Prod.fst ↔ other = key ∨ other ∈ rows.map Prod.fst := by
  induction rows with
  | nil => simp [put]
  | cons first _ ih =>
    obtain ⟨_, _⟩ := first
    rw [put]
    split
    next same => simp [same]
    · simp only [map_cons, mem_cons, ih]
      exact or_left_comm

theorem nodup_put {key} {rows : List (κ × ρ)} (h : (rows.map Prod.fst).Nodup) :
    ((put key row rows).map Prod.fst).Nodup := by
  induction rows with
  | nil => simp [put]
  | cons first _ ih =>
    obtain ⟨_, _⟩ := first
    simp only [map_cons, nodup_cons] at h
    rw [put]
    split
    next same =>
      subst same
      simpa using h
    next different =>
      simp only [map_cons, nodup_cons]
      refine ⟨fun member => ?_, ih h.2⟩
      exact (mem_keys_put.mp member).elim different h.1

theorem keys_put {key} {rows : List (κ × ρ)} (present : key ∈ rows.map Prod.fst) (row : ρ) :
    (put key row rows).map Prod.fst = rows.map Prod.fst := by
  induction rows with
  | nil => simp at present
  | cons first _ ih =>
    obtain ⟨_, _⟩ := first
    rw [put]
    split
    next same => simp [same]
    next different =>
      rw [map_cons, mem_cons] at present
      rw [map_cons, map_cons, ih (present.resolve_left (Ne.symm different))]

theorem put_map (change : ρ → ρ) (key : κ) (row : ρ) (rows) :
    (put key row rows).map (fun row => (row.1, change row.2)) =
      put key (change row) (rows.map fun row => (row.1, change row.2)) := by
  induction rows with
  | nil => rfl
  | cons _ _ ih =>
    simp only [put, map_cons]
    split
    · rfl
    · simp [ih]

theorem mem_iff_lookup {rows : List (κ × ρ)} (unique : (rows.map Prod.fst).Nodup) {key} :
    (key, row) ∈ rows ↔ rows.lookup key = some row := by
  induction rows with
  | nil => simp
  | cons first rows ih =>
    obtain ⟨other, _⟩ := first
    simp only [map_cons, nodup_cons] at unique
    by_cases same : key = other
    · subst same
      have absent : (key, row) ∉ rows := fun present =>
        unique.1 (mem_map_of_mem present)
      simp [absent, eq_comm]
    · simp [lookup_cons, beq_false_of_ne same, same, ih unique.2]

theorem mem_put_iff {key : κ} {rows : List (κ × ρ)} (unique : (rows.map Prod.fst).Nodup)
    {other : κ × ρ} :
    other ∈ put key row rows ↔ other = (key, row) ∨ other ∈ rows ∧ other.1 ≠ key := by
  induction rows with
  | nil => simp [put]
  | cons first rows ih =>
    obtain ⟨at', _⟩ := first
    simp only [map_cons, nodup_cons] at unique
    rw [put]
    split
    next same =>
      subst same
      have later : ∀ row ∈ rows, row.1 ≠ at' := by
        rintro _ present rfl
        exact unique.1 (mem_map_of_mem present)
      constructor
      · intro present
        rcases mem_cons.mp present with rfl | present
        · exact .inl rfl
        · exact .inr ⟨mem_cons_of_mem _ present, later other present⟩
      · rintro (rfl | ⟨present, different⟩)
        · exact mem_cons_self
        · rcases mem_cons.mp present with rfl | present
          · exact absurd rfl different
          · exact mem_cons_of_mem _ present
    next different =>
      simp only [mem_cons, ih unique.2]
      constructor
      · rintro (rfl | rfl | ⟨present, kept⟩)
        · exact .inr ⟨.inl rfl, different⟩
        · exact .inl rfl
        · exact .inr ⟨.inr present, kept⟩
      · rintro (rfl | ⟨rfl | present, kept⟩)
        · exact .inr (.inl rfl)
        · exact .inl rfl
        · exact .inr (.inr ⟨present, kept⟩)

end Rows

structure Table (κ ρ : Type*) where
  rows : List (κ × ρ)
  unique : (rows.map Prod.fst).Nodup

namespace Table

theorem ext {κ ρ : Type*} {first second : Table κ ρ}
    (h : first.rows = second.rows) : first = second := by
  cases first
  cases second
  cases h
  rfl

theorem nodup_rows {κ ρ : Type*} (table : Table κ ρ) : table.rows.Nodup :=
  Nodup.of_map _ table.unique

variable {κ ρ : Type*} [DecidableEq κ]

def empty : Table κ ρ := ⟨[], nodup_nil⟩

def find? (table : Table κ ρ) (key : κ) : Option ρ := table.rows.lookup key

def set (table : Table κ ρ) (key : κ) (row : ρ) : Table κ ρ :=
  ⟨put key row table.rows, nodup_put table.unique⟩

def update (table : Table κ ρ) (change : ρ → ρ) : Table κ ρ where
  rows := table.rows.map fun row => (row.1, change row.2)
  unique := by simpa [Function.comp_def] using table.unique

def modify (table : Table κ ρ) (key : κ) (change : ρ → ρ) : Table κ ρ where
  rows := table.rows.map fun row =>
    (row.1, if row.1 = key then change row.2 else row.2)
  unique := by simpa [Function.comp_def] using table.unique

def erase (table : Table κ ρ) (key : κ) : Table κ ρ where
  rows := table.rows.filter fun row => row.1 ≠ key
  unique := table.unique.sublist (filter_sublist.map Prod.fst)

def select (table : Table κ ρ) (keep : κ → Bool) : Table κ ρ where
  rows := table.rows.filter fun row => keep row.1
  unique := table.unique.sublist (filter_sublist.map Prod.fst)

def selectRows (table : Table κ ρ) (keep : ρ → Bool) : Table κ ρ where
  rows := table.rows.filter fun row => keep row.2
  unique := table.unique.sublist (filter_sublist.map Prod.fst)

/-- The rows of the second table over those of the first. -/
def overlay (table changes : Table κ ρ) : Table κ ρ :=
  changes.rows.foldl (fun merged row => merged.set row.1 row.2) table

@[simp] theorem find?_set_self (table : Table κ ρ) (key : κ) (row : ρ) :
    (table.set key row).find? key = some row :=
  lookup_put_self key row table.rows

theorem find?_set_of_ne {key other} (different : other ≠ key) (table : Table κ ρ) (row : ρ) :
    (table.set key row).find? other = table.find? other :=
  lookup_put_of_ne different row table.rows

@[simp] theorem find?_update (table : Table κ ρ) (change : ρ → ρ) (key : κ) :
    (table.update change).find? key = (table.find? key).map change :=
  lookup_map change key table.rows

variable {table : Table κ ρ}

theorem find?_set_some {key other new row} (h : (table.set key new).find? other = some row) :
    other = key ∧ row = new ∨ other ≠ key ∧ table.find? other = some row := by
  by_cases own : other = key
  · subst own
    rw [find?_set_self] at h
    exact .inl ⟨rfl, (Option.some.inj h).symm⟩
  · rw [find?_set_of_ne own] at h
    exact .inr ⟨own, h⟩

variable {key : κ}

theorem mem_iff_find? {row} : (key, row) ∈ table.rows ↔ table.find? key = some row :=
  mem_iff_lookup table.unique

theorem mem_set {row} {other : κ × ρ} :
    other ∈ (table.set key row).rows ↔ other = (key, row) ∨ other ∈ table.rows ∧ other.1 ≠ key :=
  mem_put_iff table.unique

theorem mem_erase {other} :
    other ∈ (table.erase key).rows ↔ other ∈ table.rows ∧ other.1 ≠ key := by
  simp [erase]

theorem find?_select (table : Table κ ρ) (keep : κ → Bool) (key : κ) :
    (table.select keep).find? key =
      if keep key then table.find? key else none := by
  apply Option.ext
  intro _
  rw [← Option.mem_def, Option.mem_def, ← mem_iff_find?, select, mem_filter, mem_iff_find?]
  cases keep key with
  | false | true => simp

theorem find?_erase (table : Table κ ρ) (key other : κ) : (table.erase key).find? other =
      if other = key then none else table.find? other := by
  have selected := find?_select table (fun k => k ≠ key) other
  by_cases same : other = key <;> simpa [same, erase, select] using selected

theorem find?_foldl_set_rows (rows : List (κ × ρ))
    (unique : (rows.map Prod.fst).Nodup) (table : Table κ ρ) (key : κ) :
    (rows.foldl (fun merged row => merged.set row.1 row.2) table).find? key =
      (rows.lookup key).or (table.find? key) := by
  induction rows generalizing table with
  | nil => rfl
  | cons first rows ih =>
    obtain ⟨other, _⟩ := first
    rw [map_cons, nodup_cons] at unique
    rw [foldl_cons, ih unique.2, lookup_cons]
    by_cases here : key = other
    · subst here
      have absent : rows.lookup key = none := by
        rw [lookup_eq_none_iff]
        intro entry present
        refine bne_iff_ne.mpr fun same => unique.1 ?_
        exact mem_map.mpr ⟨entry, present, same.symm⟩
      rw [absent, find?_set_self]
      simp
    · rw [find?_set_of_ne here, beq_false_of_ne here]

theorem find?_overlay (table changes : Table κ ρ) (key : κ) :
    (table.overlay changes).find? key = (changes.find? key).or (table.find? key) :=
  find?_foldl_set_rows changes.rows changes.unique table key

theorem find?_erase_some {key other row} (h : (table.erase key).find? other = some row) :
    other ≠ key ∧ table.find? other = some row := by
  rw [find?_erase] at h
  split at h
  · cases h
  next different => exact ⟨different, h⟩

theorem forall_set {P : κ → ρ → Prop} {new} (here : P key new)
    (others : ∀ id row, table.find? id = some row → P id row) (id : κ) (row : ρ)
    (found : (table.set key new).find? id = some row) : P id row := by
  rcases find?_set_some found with ⟨rfl, rfl⟩ | ⟨-, old⟩
  · exact here
  · exact others id row old

theorem find?_changed {row} (found : table.find? key = some row) (change : ρ → ρ) (id : κ) :
    (if id = key then some (change row) else table.find? id) =
      if id = key then (table.find? id).map change else table.find? id := by
  split
  next here => rw [here, found, Option.map_some]
  · rfl

/-- Every row stays under its key, as `R` says of what it was and what it is. -/
def Carries (R : ρ → ρ → Prop) (table table' : Table κ ρ) : Prop :=
  ∀ key row, table.find? key = some row → ∃ row', table'.find? key = some row' ∧ R row row'

section Carries

variable {R : ρ → ρ → Prop} {table' : Table κ ρ}

theorem Carries.trans {last} (first : Carries R table table') (second : Carries R table' last)
    (transitive : ∀ {a b c : ρ}, R a b → R b c → R a c) : Carries R table last := by
  intro key row found
  obtain ⟨row', found', related⟩ := first key row found
  obtain ⟨row'', found'', related'⟩ := second key row' found'
  exact ⟨row'', found'', transitive related related'⟩

variable (refl : ∀ row, R row row)

include refl

theorem carries_change {change : ρ → ρ} (rows : ∀ id, table'.find? id =
      if id = key then (table.find? id).map change else table.find? id)
    (related : ∀ row, table.find? key = some row → R row (change row)) :
    Carries R table table' := by
  intro id row found
  rw [rows id, found]
  split
  next here => exact ⟨change row, rfl, related row (here ▸ found)⟩
  · exact ⟨row, rfl, refl row⟩

theorem carries_set {new} (related : ∀ row, table.find? key = some row → R row new) :
    Carries R table (table.set key new) := by
  intro id row found
  by_cases same : id = key
  · subst same
    exact ⟨new, find?_set_self _ _ _, related row found⟩
  · exact ⟨row, by rw [find?_set_of_ne same, found], refl row⟩

end Carries

theorem keys_set {old} (found : table.find? key = some old) (row : ρ) :
    (table.set key row).rows.map Prod.fst = table.rows.map Prod.fst :=
  keys_put (mem_map.mpr ⟨(key, old), mem_iff_find?.mpr found, rfl⟩) row

theorem update_set (table : Table κ ρ) (change : ρ → ρ) (key : κ) (row : ρ) :
    (table.set key row).update change = (table.update change).set key (change row) :=
  ext (put_map change key row table.rows)

theorem update_erase (table : Table κ ρ) (change : ρ → ρ) (key : κ) :
    (table.erase key).update change = (table.update change).erase key :=
  ext (by simp [erase, update, filter_map, Function.comp_def])

theorem perm_erase {row} (held : table.find? key = some row) :
    table.rows.Perm ((key, row) :: (table.erase key).rows) := by
  rw [perm_ext_iff_of_nodup table.nodup_rows (nodup_cons.mpr ⟨by simp [mem_erase], nodup_rows _⟩)]
  rintro ⟨other, _⟩
  rw [mem_cons, mem_erase, mem_iff_find?, Prod.mk.injEq]
  by_cases same : other = key
  · subst same
    simp [held, eq_comm]
  · simp [same]

theorem perm_set (table : Table κ ρ) (key : κ) (row : ρ) :
    (table.set key row).rows.Perm ((key, row) :: (table.erase key).rows) := by
  rw [perm_ext_iff_of_nodup (nodup_rows _) (nodup_cons.mpr ⟨by simp [mem_erase], nodup_rows _⟩)]
  intro _
  rw [mem_cons, mem_erase, mem_set]

theorem erase_of_absent (absent : table.find? key = none) : table.erase key = table := by
  apply ext
  apply filter_eq_self.mpr
  rintro ⟨_, _⟩ member
  rw [decide_eq_true_eq]
  rintro rfl
  rw [mem_iff_find?.mp member] at absent
  exact Option.some_ne_none _ absent

end Table

end YuFeng.Library

import YuFeng.Library.Query

/-!
# Chains

A list is linked when every element follows the one before it, the first one
an element that may be missing.  A reader of a chain applies the elements in
order and stops at the first one that fails.  It ends with the last element
exactly if none fails.
-/

namespace YuFeng.Library

section Linked

variable {α : Type*}

def Linked (follows : Option α → α → Prop) : Option α → List α → Prop
  | _, [] => True
  | previous, x :: xs => follows previous x ∧ Linked follows (some x) xs

def lastFrom (previous : Option α) (xs : List α) : Option α := xs.getLast?.or previous

variable (previous : Option α)

@[simp] theorem lastFrom_nil : lastFrom previous [] = previous := rfl

theorem lastFrom_none (xs : List α) : lastFrom none xs = xs.getLast? := by
  simp [lastFrom]

theorem lastFrom_cons (x : α) (xs : List α) :
    lastFrom previous (x :: xs) = lastFrom (some x) xs := by
  cases xs with
  | nil => rfl
  | cons => simp [lastFrom, List.getLast?_cons]

theorem lastFrom_append (xs ys : List α) :
    lastFrom previous (xs ++ ys) = lastFrom (lastFrom previous xs) ys := by
  induction xs generalizing previous with
  | nil => rfl
  | cons _ _ ih =>
    rw [List.cons_append, lastFrom_cons, ih, lastFrom_cons]

theorem linked_append {follows : Option α → α → Prop} {previous xs ys} :
    Linked follows previous (xs ++ ys) ↔ Linked follows previous xs ∧
        Linked follows (lastFrom previous xs) ys := by
  induction xs generalizing previous with
  | nil => simp [Linked]
  | cons _ _ ih =>
    simp [Linked, ih, lastFrom_cons, and_assoc]

variable {xs : List α}

theorem Linked.and {follows : Option α → α → Prop} {good : α → Prop} {previous}
    (h : Linked follows previous xs) (all : ∀ x ∈ xs, good x) :
    Linked (fun p x => follows p x ∧ good x) previous xs := by
  induction xs generalizing previous with
  | nil => trivial
  | cons x _ ih =>
    have first : good x := all x List.mem_cons_self
    refine ⟨⟨h.1, first⟩, ih h.2 ?_⟩
    intro y later
    exact all y (List.mem_cons_of_mem x later)

variable {number : α → Int} {follows : Option α → α → Prop}
  (increasing : ∀ p x, follows (some p) x → number p < number x)

include increasing in
theorem Linked.number_le_last {first last} (h : Linked follows (some first) xs)
    (ends : lastFrom (some first) xs = some last) : number first ≤ number last := by
  induction xs generalizing first with
  | nil =>
    cases ends
    exact Int.le_refl _
  | cons x _ ih =>
    rw [lastFrom_cons] at ends
    have step := increasing first x h.1
    have rest := ih h.2 ends
    omega

include increasing in
theorem Linked.highest (h : Linked follows none xs) : Library.highest number xs = xs.getLast? := by
  induction xs using List.reverseRecOn with
  | nil => rfl
  | append_singleton _ x ih =>
    obtain ⟨init, last, -⟩ := linked_append.mp h
    rw [List.getLast?_concat]
    apply highest_append_larger
    intro b best
    rw [ih init] at best
    rw [lastFrom_none, best] at last
    exact increasing b x last

end Linked

section Advance

variable {σ α ε : Type*}

/-- Apply the elements in order, up to the first one that fails. -/
def advance (apply : σ → α → Except ε σ) : σ → List α → σ × Option ε
  | s, [] => (s, none)
  | s, x :: xs =>
    match apply s x with
    | .error e => (s, some e)
    | .ok s' => advance apply s' xs

variable {apply : σ → α → Except ε σ} {held : σ → Option α} {loads : α → Prop}

theorem advance_last_iff (number : α → Int) (follows : Option α → α → Prop)
    (increasing : ∀ p x, follows (some p) x → number p < number x)
    (succeeds : ∀ s x, follows (held s) x → ((∃ s', apply s x = .ok s') ↔ loads x))
    (moves : ∀ s x s', follows (held s) x → apply s x = .ok s' → held s' = some x) {s xs}
    (linked : Linked follows (held s) xs) :
    held (advance apply s xs).1 = lastFrom (held s) xs ↔ ∀ x ∈ xs, loads x := by
  induction xs generalizing s with
  | nil => simp [advance]
  | cons x xs ih =>
    rw [lastFrom_cons, List.forall_mem_cons, ← succeeds s x linked.1]
    cases applied : apply s x with
    | error =>
      -- The reader keeps an element with a smaller number.
      refine iff_of_false ?_ (by simp)
      rw [advance, applied]
      intro same
      have reached : lastFrom (some x) xs = held s := same.symm
      cases current : held s with
      | none =>
        rw [current] at reached
        cases xs with
        | nil => simp at reached
        | cons => simp [lastFrom, List.getLast?_cons] at reached
      | some p =>
        have order := increasing p x (current ▸ linked.1)
        have bound := linked.2.number_le_last increasing (reached.trans current)
        omega
    | ok s' =>
      have moved := moves s x s' linked.1 applied
      have rest := ih (s := s') (moved ▸ linked.2)
      rw [moved] at rest
      rw [advance, applied]
      simpa using rest

end Advance

end YuFeng.Library

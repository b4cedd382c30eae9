import Mathlib.Data.List.Basic

/-!
# Runs of a deterministic machine

A machine is a step function on a state type and an operation type.  A run
folds the step over a list of operations.  `Meets` says that every step of a
run is taken from a state that satisfies a condition, and `run_invariant` is
the induction rule for invariants of such runs.
-/

namespace YuFeng.Library

section Machine

variable {σ ι : Type*} (step : σ → ι → σ)

def run (s : σ) (ops : List ι) : σ := ops.foldl step s

/-- Every operation of the run is issued in a state that satisfies `ok`. -/
def Meets (ok : σ → ι → Prop) : σ → List ι → Prop
  | _, [] => True
  | s, op :: ops => ok s op ∧ Meets ok (step s op) ops

@[simp] theorem run_nil (s : σ) : run step s [] = s := rfl

@[simp] theorem run_cons (s : σ) (op : ι) (ops : List ι) :
    run step s (op :: ops) = run step (step s op) ops := rfl

theorem run_append (s : σ) (first second : List ι) :
    run step s (first ++ second) = run step (run step s first) second := by
  simp [run, List.foldl_append]

variable {ok : σ → ι → Prop} {s : σ}

theorem meets_append {first second} : Meets step ok s (first ++ second) ↔
      Meets step ok s first ∧ Meets step ok (run step s first) second := by
  induction first generalizing s with
  | nil => simp [Meets]
  | cons _ _ ih => simp [Meets, ih, and_assoc]

variable {ops : List ι}

theorem meets_and {ok ok' : σ → ι → Prop} (h : Meets step ok s ops) (h' : Meets step ok' s ops) :
    Meets step (fun s op => ok s op ∧ ok' s op) s ops := by
  induction ops generalizing s with
  | nil => trivial
  | cons _ _ ih => exact ⟨⟨h.1, h'.1⟩, ih h.2 h'.2⟩

theorem run_invariant (ok : σ → ι → Prop) (Inv : σ → Prop)
    (preserved : ∀ s op, ok s op → Inv s → Inv (step s op)) (meets : Meets step ok s ops)
    (initial : Inv s) : Inv (run step s ops) := by
  induction ops generalizing s with
  | nil => exact initial
  | cons op _ ih => exact ih meets.2 (preserved s op meets.1 initial)

theorem run_always (Inv : σ → Prop) (preserved : ∀ s op, Inv s → Inv (step s op))
    (initial : Inv s) (ops) : Inv (run step s ops) := by
  induction ops generalizing s with
  | nil => exact initial
  | cons op _ ih => exact ih (preserved s op initial)

/-- The unwinding rule: skipped operations do not show on the left, and the
others keep the two sides related. -/
theorem run_unwind {Related : σ → σ → Prop} {skip : ι → Bool}
    (skipped : ∀ op ∈ ops, skip op = true → ∀ s s', Related s s' → Related (step s op) s')
    (kept : ∀ op ∈ ops, skip op = false → ∀ s s', Related s s' → Related (step s op) (step s' op))
    {s s'} (initial : Related s s') :
    Related (run step s ops) (run step s' (ops.filter (!skip ·))) := by
  induction ops generalizing s s' with
  | nil => exact initial
  | cons op _ ih =>
    have rest := @ih (fun op' later => skipped op' (List.mem_cons_of_mem op later))
      (fun op' later => kept op' (List.mem_cons_of_mem op later))
    cases hidden : skip op with
    | true =>
      rw [run_cons, List.filter_cons_of_neg (by simp [hidden])]
      exact rest (skipped op List.mem_cons_self hidden s s' initial)
    | false =>
      rw [run_cons, List.filter_cons_of_pos (by simp [hidden]), run_cons]
      exact rest (kept op List.mem_cons_self hidden s s' initial)

instance instDecidableMeets {ok : σ → ι → Prop} [∀ s op, Decidable (ok s op)] :
    ∀ s ops, Decidable (Meets step ok s ops)
  | _, [] => inferInstanceAs (Decidable True)
  | s, op :: ops =>
    have : Decidable (Meets step ok (step s op) ops) := instDecidableMeets (step s op) ops
    inferInstanceAs (Decidable (_ ∧ _))

theorem meets_of_mem (h : ∀ s, ∀ op ∈ ops, ok s op) (s : σ) : Meets step ok s ops := by
  induction ops generalizing s with
  | nil => trivial
  | cons op _ ih =>
    refine ⟨h s op List.mem_cons_self, ih ?_ (step s op)⟩
    intro s' op' member
    exact h s' op' (List.mem_cons_of_mem op member)

variable {moves : σ → σ → Bool}

end Machine

end YuFeng.Library

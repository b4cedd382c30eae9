import YuFeng.Library.Outcome

/-!
# Computations that change a state and may fail

An `Effect` runs on a state and ends with a result or an error.  An error does
not undo anything: what was changed before it stays changed.  `Keeps` says
that a part of the state is never written and `FailsClean` that it is as
before whenever the computation fails; both are shown along the structure of
the program.
-/

namespace YuFeng.Library

def Effect (σ ε α : Type) := σ → Except ε α × σ

namespace Effect

variable {σ ε α β τ ι : Type}

def andThen (x : Effect σ ε α) (rest : α → Effect σ ε β) : Effect σ ε β :=
  fun s => match (x s).1 with
    | .ok a => rest a (x s).2
    | .error e => (.error e, (x s).2)

instance : Monad (Effect σ ε) where
  pure a := fun s => (.ok a, s)
  bind := andThen

def attempt (result : Except ε α) : Effect σ ε α := fun s => (result, s)

def change (f : σ → σ) : Effect σ ε Unit := fun s => (.ok (), f s)

def read (f : σ → α) : Effect σ ε α := fun s => (.ok (f s), s)

def each (f : ι → Effect σ ε Unit) : List ι → Effect σ ε Unit
  | [] => pure ()
  | x :: xs => f x >>= fun _ => each f xs

/-! ## Running -/

variable (result : Except ε α)

@[simp] theorem attempt_apply (s : σ) : attempt result s = (result, s) := rfl

@[simp] theorem change_apply (f : σ → σ) (s : σ) :
    (change f : Effect σ ε Unit) s = (.ok (), f s) := rfl

variable (f : σ → α)

@[simp] theorem read_apply (s : σ) : (read f : Effect σ ε α) s = (.ok (f s), s) := rfl

theorem bind_apply (x : Effect σ ε α) (rest : α → Effect σ ε β) (s : σ) :
    (x >>= rest) s = match (x s).1 with
      | .ok a => rest a (x s).2
      | .error e => (.error e, (x s).2) := rfl

@[simp] theorem change_bind (f : σ → σ) (rest : Unit → Effect σ ε β)
    (s : σ) : (change f >>= rest) s = rest () (f s) := rfl

@[simp] theorem read_bind (rest : α → Effect σ ε β) (s : σ) :
    (read f >>= rest) s = rest (f s) s := rfl

@[simp] theorem attempt_bind_ok (a : α) (rest : α → Effect σ ε β) (s : σ) :
    (attempt (.ok a) >>= rest) s = rest a s := rfl

@[simp] theorem attempt_bind_error (e : ε) (rest : α → Effect σ ε β)
    (s : σ) : (attempt (.error e) >>= rest) s = (.error e, s) := rfl

variable {x : Effect σ ε α} {rest : α → Effect σ ε β}

theorem bind_ok_iff {s s' b} : (x >>= rest) s = (.ok b, s') ↔
      ∃ a mid, x s = (.ok a, mid) ∧ rest a mid = (.ok b, s') := by
  rw [bind_apply]
  cases x s with
  | mk result => cases result <;> simp

theorem attempt_bind_ok_iff {result s s' b} : (attempt result >>= rest) s = (.ok b, s') ↔
      ∃ a, result = .ok a ∧ rest a s = (.ok b, s') := by
  cases result <;> simp

/-! ## Invariants -/

def Preserves (Inv : σ → Prop) (x : Effect σ ε α) : Prop := ∀ s, Inv s → Inv (x s).2

section Preserves

variable {Inv : σ → Prop}

theorem Preserves.attempt : Preserves Inv (attempt result : Effect σ ε α) :=
  fun _ inv => inv

theorem Preserves.read : Preserves Inv (read f : Effect σ ε α) := fun _ inv => inv

theorem Preserves.pure (a : α) : Preserves Inv (pure a : Effect σ ε α) := fun _ inv => inv

theorem Preserves.change {f : σ → σ} (h : ∀ s, Inv s → Inv (f s)) :
    Preserves Inv (change f : Effect σ ε Unit) :=
  h

theorem Preserves.bind (first : Preserves Inv x) (then' : ∀ a, Preserves Inv (rest a)) :
    Preserves Inv (x >>= rest) := by
  intro s inv
  rw [bind_apply]
  cases (x s).1 with
  | ok a => exact then' a (x s).2 (first s inv)
  | error => exact first s inv

theorem Preserves.bind_attempt {result} (h : ∀ a, result = .ok a → Preserves Inv (rest a)) :
    Preserves Inv (Effect.attempt result >>= rest) := by
  intro s inv
  cases result with
  | ok a => exact h a rfl s inv
  | error => exact inv

end Preserves

/-! ## A part of the state that is not written -/

def Keeps (view : σ → τ) (x : Effect σ ε α) : Prop := ∀ s, view (x s).2 = view s

def FailsClean (view : σ → τ) (x : Effect σ ε α) : Prop :=
  ∀ s e, (x s).1 = .error e → view (x s).2 = view s

variable {view : σ → τ}

theorem Keeps.pure (a : α) : Keeps view (pure a : Effect σ ε α) := fun _ => rfl

theorem Keeps.attempt : Keeps view (attempt result : Effect σ ε α) :=
  fun _ => rfl

theorem Keeps.read : Keeps view (read f : Effect σ ε α) := fun _ => rfl

theorem Keeps.change {f : σ → σ} (h : ∀ s, view (f s) = view s) :
    Keeps view (change f : Effect σ ε Unit) :=
  h

theorem Keeps.bind (first : Keeps view x) (then' : ∀ a, Keeps view (rest a)) :
    Keeps view (x >>= rest) := by
  intro s
  rw [bind_apply]
  cases (x s).1 with
  | ok a => exact (then' a (x s).2).trans (first s)
  | error => exact first s

theorem Keeps.each {f : ι → Effect σ ε Unit}
    (h : ∀ x, Keeps view (f x)) (xs : List ι) : Keeps view (each f xs) := by
  induction xs with
  | nil => exact .pure ()
  | cons x _ ih => exact .bind (h x) fun _ => ih

theorem Keeps.failsClean (h : Keeps view x) : FailsClean view x :=
  fun s _ _ => h s

theorem FailsClean.change (f : σ → σ) : FailsClean view (change f : Effect σ ε Unit) :=
  fun _ _ failed => by cases failed

theorem FailsClean.bind (first : Keeps view x) (then' : ∀ a, FailsClean view (rest a)) :
    FailsClean view (x >>= rest) := by
  intro s e failed
  rw [bind_apply] at failed ⊢
  cases result : (x s).1 with
  | ok a =>
    rw [result] at failed
    exact (then' a (x s).2 e failed).trans (first s)
  | error => exact first s

end Effect

end YuFeng.Library

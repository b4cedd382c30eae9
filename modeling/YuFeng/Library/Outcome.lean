import Mathlib.Data.List.Basic

/-!
# Computations that may fail

Rules for `Except`: what a successful sequence, loop or fold says about its
parts.
-/

namespace YuFeng.Library

section Outcome

variable {ε α β σ τ ι : Type*}

def ensure (holds : Bool) (err : ε) : Except ε Unit :=
  if holds then .ok () else .error err

@[simp] theorem ensure_ok {holds : Bool} {err : ε} {u : Unit} :
    ensure holds err = .ok u ↔ holds = true := by
  cases holds <;> simp [ensure]

variable {x : Except ε α}

theorem guard_ok {c : Prop} [Decidable c] {err a} :
    (if c then .error err else x) = .ok a ↔ ¬ c ∧ x = .ok a := by
  split <;> simp [*]

theorem bind_ok {f : α → Except ε β} {b} : x.bind f = .ok b ↔ ∃ a, x = .ok a ∧ f a = .ok b := by
  cases x <;> simp [Except.bind]

theorem mapError_ok {δ : Type*} {f : ε → δ} {a} : x.mapError f = .ok a ↔ x = .ok a := by
  cases x <;> simp [Except.mapError]

theorem map_ok {f : α → β} {b} : x.map f = .ok b ↔ ∃ a, x = .ok a ∧ f a = b := by
  cases x <;> simp [Except.map]

end Outcome

section Folds

variable {ε σ τ ι : Type}

@[simp] theorem ensure_bind_ok {holds err} {rest : Unit → Except ε σ} {a} :
    (ensure holds err >>= rest) = .ok a ↔ holds = true ∧ rest () = .ok a := by
  cases holds <;> simp [ensure, bind, Except.bind]

theorem seq_ok {x} {rest : σ → Except ε τ} {b} :
    (x >>= rest) = .ok b ↔ ∃ a, x = .ok a ∧ rest a = .ok b :=
  bind_ok

theorem pure_ok {a b} : (pure a : Except ε σ) = .ok b ↔ a = b := by
  simp [pure, Except.pure]

variable {xs : List ι}

theorem forM_ok {f : ι → Except ε Unit} : xs.forM f = .ok () ↔ ∀ x ∈ xs, f x = .ok () := by
  induction xs with
  | nil => simp [pure, Except.pure]
  | cons x xs ih =>
    change ((f x).bind fun _ => xs.forM f) = .ok () ↔ _
    cases head : f x with
    | error => simp [Except.bind, head]
    | ok =>
      simp only [Except.bind, List.forall_mem_cons, head, true_and]
      exact ih

theorem forM_map {κ : Type} (f : κ → Except ε Unit) (g : ι → κ)
    (xs : List ι) : (xs.map g).forM f = xs.forM fun x => f (g x) := by
  induction xs with
  | nil => rfl
  | cons x _ ih => exact congrArg ((f (g x)).bind fun _ => ·) ih

theorem mapM_ok {f : ι → Except ε σ} {ys} :
    xs.mapM f = .ok ys ↔ List.Forall₂ (fun x y => f x = .ok y) xs ys := by
  induction xs generalizing ys with
  | nil =>
    rw [List.mapM_nil]
    constructor
    · intro same
      cases same
      exact .nil
    · rintro ⟨⟩
      rfl
  | cons _ _ ih =>
    rw [List.mapM_cons, seq_ok]
    constructor
    · rintro ⟨_, head, rest⟩
      obtain ⟨_, mapped, joined⟩ := seq_ok.mp rest
      cases joined
      exact .cons head (ih.mp mapped)
    · rintro (_ | ⟨head, rest⟩)
      exact ⟨_, head, seq_ok.mpr ⟨_, ih.mpr rest, rfl⟩⟩

theorem foldlM_succeeds (step : σ → ι → Except ε σ) (good : ι → Prop)
    (h : ∀ s x, (∃ s', step s x = .ok s') ↔ good x) {s} :
    (∃ s', xs.foldlM step s = .ok s') ↔ ∀ x ∈ xs, good x := by
  induction xs generalizing s with
  | nil => simp [pure, Except.pure]
  | cons x _ ih =>
    rw [List.foldlM_cons]
    cases head : step s x with
    | error =>
      have bad : ¬ good x := by
        rw [← h s x]
        simp [head]
      simp [bind, Except.bind, bad]
    | ok s' =>
      have fine : good x := (h s x).mp ⟨s', head⟩
      simp [bind, Except.bind, ih, fine]

variable {step : σ → ι → Except ε σ}

theorem foldlM_invariant (Inv : σ → Prop) (preserved : ∀ s x s', step s x = .ok s' → Inv s → Inv s')
    {s s'} (h : xs.foldlM step s = .ok s') (initial : Inv s) : Inv s' := by
  induction xs generalizing s with
  | nil =>
    simp only [List.foldlM_nil, pure, Except.pure, Except.ok.injEq] at h
    exact h ▸ initial
  | cons x _ ih =>
    rw [List.foldlM_cons] at h
    obtain ⟨s₁, head, rest⟩ := bind_ok.mp h
    exact ih rest (preserved s x s₁ head initial)

theorem foldlM_measure (measure : σ → τ) (next : τ → ι → τ)
    (computed : ∀ s x s', step s x = .ok s' → measure s' = next (measure s) x) {s s'}
    (h : xs.foldlM step s = .ok s') : measure s' = xs.foldl next (measure s) := by
  induction xs generalizing s with
  | nil =>
    cases h
    rfl
  | cons x _ ih =>
    rw [List.foldlM_cons] at h
    obtain ⟨mid, head, rest⟩ := bind_ok.mp h
    rw [ih rest, computed s x mid head, List.foldl_cons]

theorem foldlM_related {step' : τ → ι → Except ε τ} (R : σ → τ → Prop)
    (preserved : ∀ s t x s' t', step s x = .ok s' → step' t x = .ok t' → R s t → R s' t')
    {s s' : σ} {t t' : τ} (h : xs.foldlM step s = .ok s') (h' : xs.foldlM step' t = .ok t')
    (initial : R s t) : R s' t' := by
  induction xs generalizing s t with
  | nil =>
    simp only [List.foldlM_nil, pure, Except.pure, Except.ok.injEq] at h h'
    exact h ▸ h' ▸ initial
  | cons x _ ih =>
    rw [List.foldlM_cons] at h h'
    obtain ⟨s₁, head, rest⟩ := bind_ok.mp h
    obtain ⟨t₁, head', rest'⟩ := bind_ok.mp h'
    exact ih rest rest' (preserved s t x s₁ t₁ head head' initial)

end Folds

section Views

variable {ε σ τ ι : Type} {view : σ → τ}

/-- What an operation does to a view depends on the view alone. -/
def Respects (view : σ → τ) (f : σ → Except ε σ) : Prop :=
  ∀ s s', view s = view s' → (f s).map view = (f s').map view

variable {f : σ → Except ε σ}

theorem Respects.cases (h : Respects view f) {s s'} (same : view s = view s') :
    (∃ err, f s = .error err ∧ f s' = .error err) ∨
      ∃ a a', f s = .ok a ∧ f s' = .ok a' ∧ view a = view a' := by
  have results := h s s' same
  cases left : f s with
  | error err =>
    cases right : f s' with
    | error =>
      rw [left, right] at results
      cases results
      exact .inl ⟨err, rfl, rfl⟩
    | ok =>
      rw [left, right] at results
      contradiction
  | ok after =>
    cases right : f s' with
    | error =>
      rw [left, right] at results
      contradiction
    | ok after' =>
      rw [left, right] at results
      exact .inr ⟨after, after', rfl, rfl, Except.ok.inj results⟩

theorem Respects.seq {f g : σ → Except ε σ} (first : Respects view f)
    (second : Respects view g) : Respects view fun s => f s >>= g := by
  intro s s' same
  change (f s >>= g).map view = (f s' >>= g).map view
  rcases first.cases same with
    ⟨_, left, right⟩ | ⟨mid, mid', left, right, alike⟩
  · rw [left, right]
  · rw [left, right]
    exact second mid mid' alike

theorem Respects.foldlM {f : σ → ι → Except ε σ} (each : ∀ x, Respects view (f · x)) (xs : List ι) :
    Respects view (xs.foldlM f) := by
  induction xs with
  | nil =>
    intro _ _ same
    exact congrArg Except.ok same
  | cons x _ ih => exact (each x).seq ih

theorem Respects.commit (h : Respects view f) {s s'} (same : view s = view s') :
    view ((f s).toOption.getD s) = view ((f s').toOption.getD s') := by
  rcases h.cases same with ⟨_, left, right⟩ | ⟨_, _, left, right, alike⟩
  · rw [left, right]
    exact same
  · rw [left, right]
    exact alike

end Views

end YuFeng.Library

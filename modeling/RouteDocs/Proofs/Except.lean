namespace RouteDocs

variable {ε : Type u} {α β γ δ σ τ : Type v}

@[simp] theorem ok_bind (a : α) (f : α → Except ε β) : (Except.ok a >>= f) = f a := rfl

@[simp] theorem error_bind (e : ε) (f : α → Except ε β) : (Except.error e >>= f) = .error e := rfl

@[simp] theorem pure_eq_ok (a : α) : (pure a : Except ε α) = .ok a := rfl

theorem bind_eq_ok_iff {x : Except ε α} {f : α → Except ε β} {b : β} :
    x >>= f = .ok b ↔ ∃ a, x = .ok a ∧ f a = .ok b := by
  cases x <;> simp

theorem isOk_iff {x : Except ε α} : x.isOk = true ↔ ∃ a, x = .ok a := by
  cases x <;> simp [Except.isOk, Except.toBool]

theorem toOption_eq_some_iff {x : Except ε α} {a : α} : x.toOption = some a ↔ x = .ok a := by
  cases x <;> simp [Except.toOption]

/-- A list of steps succeeds if each of them does, and then gives what they give. -/
theorem mapM_eq_ok_iff {f : α → Except ε β} {xs : List α} {ys : List β} :
    xs.mapM f = .ok ys ↔ xs.map f = ys.map .ok := by
  induction xs generalizing ys with
  | nil => cases ys <;> simp
  | cons x xs ih =>
    simp only [List.mapM_cons, bind_eq_ok_iff, pure_eq_ok, Except.ok.injEq, List.map_cons]
    cases ys with
    | nil => simp
    | cons y ys => simp [ih]

/-- Two results of the same kind: the same failure, or values that belong together. -/
inductive Paired (R : α → γ → Prop) : Except ε α → Except ε γ → Prop where
  | error (e : ε) : Paired R (.error e) (.error e)
  | ok {a : α} {c : γ} (h : R a c) : Paired R (.ok a) (.ok c)

theorem Paired.bind {R : α → γ → Prop} {S : β → δ → Prop} {x : Except ε α} {y : Except ε γ}
    {f : α → Except ε β} {g : γ → Except ε δ} (h : Paired R x y)
    (hfg : ∀ a c, R a c → Paired S (f a) (g c)) : Paired S (x >>= f) (y >>= g) := by
  cases h with
  | error e => exact .error e
  | ok h => exact hfg _ _ h

/-- Steps that keep two states together do so one after another, up to the first that fails. -/
theorem Paired.foldlM {R : σ → τ → Prop} {f : σ → α → Except ε σ} {g : τ → α → Except ε τ}
    (step : ∀ s t a, R s t → Paired R (f s a) (g t a)) {s : σ} {t : τ} (h : R s t) (as : List α) :
    Paired R (as.foldlM f s) (as.foldlM g t) := by
  induction as generalizing s t with
  | nil => exact .ok h
  | cons a as ih =>
    rw [List.foldlM_cons, List.foldlM_cons]
    exact (step s t a h).bind fun _ _ h' => ih h'

/-- Two results that agree: two failures of any kind, or values that belong together. -/
inductive Agree (R : α → γ → Prop) : Except ε α → Except ε γ → Prop where
  | error (e e' : ε) : Agree R (.error e) (.error e')
  | ok {a : α} {c : γ} (h : R a c) : Agree R (.ok a) (.ok c)

theorem Agree.refl {R : α → α → Prop} (h : ∀ a, R a a) (x : Except ε α) : Agree R x x := by
  cases x with
  | error e => exact .error e e
  | ok a => exact .ok (h a)

theorem Paired.agree {R : α → γ → Prop} {x : Except ε α} {y : Except ε γ} (h : Paired R x y) : Agree R x y := by
  cases h with
  | error e => exact .error e e
  | ok h => exact .ok h

theorem Agree.bind {R : α → γ → Prop} {S : β → δ → Prop} {x : Except ε α} {y : Except ε γ}
    {f : α → Except ε β} {g : γ → Except ε δ} (h : Agree R x y)
    (hfg : ∀ a c, R a c → Agree S (f a) (g c)) : Agree S (x >>= f) (y >>= g) := by
  cases h with
  | error e e' => exact .error e e'
  | ok h => exact hfg _ _ h

theorem Agree.toOption_eq {x y : Except ε α} (h : Agree Eq x y) : x.toOption = y.toOption := by
  cases h with
  | error e e' => rfl
  | ok h => rw [h]

end RouteDocs

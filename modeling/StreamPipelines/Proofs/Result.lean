/-!
Results of computations that can fail: what stands behind a success.
-/

namespace StreamPipelines

variable {ε α β : Type}

theorem exists_of_map_eq_ok {f : α → β} {x : Except ε α} {b : β} (h : x.map f = .ok b) :
    ∃ a, x = .ok a ∧ f a = b := by
  cases x with
  | error e => cases h
  | ok a =>
      cases h
      exact ⟨a, rfl, rfl⟩

theorem map_eq_ok_iff {f : α → β} {x : Except ε α} {b : β} :
    x.map f = .ok b ↔ ∃ a, x = .ok a ∧ f a = b := by
  constructor
  · exact exists_of_map_eq_ok
  · rintro ⟨a, rfl, rfl⟩
    rfl

theorem exists_of_bind_eq_ok {f : α → Except ε β} {x : Except ε α} {b : β}
    (h : x.bind f = .ok b) : ∃ a, x = .ok a ∧ f a = .ok b := by
  cases x with
  | error e => cases h
  | ok a => exact ⟨a, rfl, h⟩

theorem bind_of_eq_ok {x : Except ε α} {a : α} (h : x = .ok a) (f : α → Except ε β) :
    x.bind f = f a := by
  rw [h]
  rfl

/-- Each result of a list of computations is the result of one of them. -/
theorem exists_of_mapM_eq_ok {f : α → Except ε β} {xs : List α} {ys : List β}
    (h : xs.mapM f = .ok ys) {y : β} (hy : y ∈ ys) : ∃ x, f x = .ok y := by
  induction xs generalizing ys with
  | nil =>
      cases h
      cases hy
  | cons x xs ih =>
      rw [List.mapM_cons] at h
      obtain ⟨z, first, h⟩ := exists_of_bind_eq_ok h
      obtain ⟨zs, rest, h⟩ := exists_of_bind_eq_ok h
      cases h
      obtain rfl | hy := List.mem_cons.mp hy
      · exact ⟨x, first⟩
      · exact ih rest hy

theorem mapM_map_eq_ok {f : α → Except ε β} {g : β → α} {ys : List β}
    (h : ∀ y ∈ ys, f (g y) = .ok y) : (ys.map g).mapM f = .ok ys := by
  induction ys with
  | nil => rfl
  | cons y ys ih =>
      obtain ⟨first, rest⟩ := List.forall_mem_cons.mp h
      rw [List.map_cons, List.mapM_cons, first, ih rest]
      rfl

/-- What each step of a fold keeps, the whole fold keeps. -/
theorem foldlM_invariant {σ : Type} {P : σ → Prop} {f : σ → α → Except ε σ}
    (step : ∀ s x t, P s → f s x = .ok t → P t) {xs : List α} {s t : σ} (start : P s)
    (h : xs.foldlM f s = .ok t) : P t := by
  induction xs generalizing s with
  | nil =>
      cases h
      exact start
  | cons x xs ih =>
      rw [List.foldlM_cons] at h
      obtain ⟨u, first, rest⟩ := exists_of_bind_eq_ok h
      exact ih (step s x u start first) rest

theorem foldlM_cons_eq_ok_iff {σ : Type} {f : σ → α → Except ε σ} {x : α} {xs : List α} {s t : σ} :
    (x :: xs).foldlM f s = .ok t ↔ ∃ u, f s x = .ok u ∧ xs.foldlM f u = .ok t := by
  rw [List.foldlM_cons]
  constructor
  · exact exists_of_bind_eq_ok
  · rintro ⟨u, first, more⟩
    rw [first]
    exact more

/-- Two folds side by side. -/
theorem foldlM_pair_iff {σ τ : Type} {f : σ × τ → α → Except ε (σ × τ)} {g : σ → α → Except ε σ}
    {h : τ → α → Except ε τ}
    (step : ∀ s t x s' t', f (s, t) x = .ok (s', t') ↔ g s x = .ok s' ∧ h t x = .ok t')
    (xs : List α) (s : σ) (t : τ) (s' : σ) (t' : τ) :
    xs.foldlM f (s, t) = .ok (s', t') ↔ xs.foldlM g s = .ok s' ∧ xs.foldlM h t = .ok t' := by
  induction xs generalizing s t with
  | nil =>
      show Except.ok (s, t) = .ok (s', t') ↔ Except.ok s = .ok s' ∧ Except.ok t = .ok t'
      simp
  | cons x xs ih =>
      simp only [foldlM_cons_eq_ok_iff, Prod.exists, step, ih]
      constructor
      · rintro ⟨u, v, ⟨first, first'⟩, more, more'⟩
        exact ⟨⟨u, first, more⟩, v, first', more'⟩
      · rintro ⟨⟨u, first, more⟩, v, first', more'⟩
        exact ⟨u, v, ⟨first, first'⟩, more, more'⟩

end StreamPipelines

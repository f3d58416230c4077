/-!
# Disciplines

A kernel computation changes a state step by step and may stop in the middle. A `Discipline` says
which changes of the state are allowed over any stretch of a computation, and which ways to stop.
Both are kept by composition, so it is enough to know of every primitive step that it `Obeys`.

The first lemmas say how a computation of two parts ends, and take those apart that returned.
-/

namespace Interrupts

/-! ## Computations in a row -/

section Runs

variable {ε σ α β : Type} {x : EStateM ε σ α} {f : α → EStateM ε σ β} {s s' : σ}

theorem bind_apply : (x >>= f) s = match x s with
    | .ok a s' => f a s'
    | .error e s' => .error e s' :=
  rfl

/-- When the first part has returned, the second one goes on. -/
theorem bind_of_ok {a : α} (h : x s = .ok a s') : (x >>= f) s = f a s' := by
  rw [bind_apply, h]

/-- **A computation of two parts that returned**: so did both of its parts. -/
theorem bind_eq_ok {b : β} :
    (x >>= f) s = .ok b s' ↔ ∃ a s₁, x s = .ok a s₁ ∧ f a s₁ = .ok b s' := by
  rw [bind_apply]
  cases x s with
  | ok a s₁ =>
    refine ⟨fun h => ⟨a, s₁, rfl, h⟩, ?_⟩
    rintro ⟨_, _, ⟨⟩, h⟩
    exact h
  | error e s₁ => exact ⟨fun h => (nomatch h), fun ⟨_, _, h, _⟩ => (nomatch h)⟩

/-- A computation that only answers leaves the state as it is. -/
theorem pure_eq_ok {a b : α} : (pure a : EStateM ε σ α) s = .ok b s' ↔ a = b ∧ s = s' := by
  constructor
  · rintro ⟨⟩
    exact ⟨rfl, rfl⟩
  · rintro ⟨rfl, rfl⟩
    rfl

end Runs

/-! ## Disciplines -/

/-- **A discipline**: what computations may do to a state, and how they may stop. -/
structure Discipline (ε σ : Type) where
  /-- The state may change like this. -/
  keeps : σ → σ → Prop
  /-- A computation that begins in this state may stop like this, and in that state. -/
  stops : σ → ε → σ → Prop
  /-- To do nothing is always allowed. -/
  refl : ∀ s, keeps s s
  /-- What is allowed in two steps is allowed as one. -/
  trans : ∀ {s s' s''}, keeps s s' → keeps s' s'' → keeps s s''
  /-- What may stop a computation later on may stop it now. -/
  stops_of_keeps : ∀ {s s' e s''}, keeps s s' → stops s' e s'' → stops s e s''

namespace Discipline

variable {ε σ α β : Type} {D : Discipline ε σ} {s : σ}

/-- **A computation keeps to the discipline** when it begins in this state. -/
structure Obeys (D : Discipline ε σ) (s : σ) (x : EStateM ε σ α) : Prop where
  /-- If the computation returns, the state changed as it may. -/
  returns : ∀ {a s'}, x s = .ok a s' → D.keeps s s'
  /-- If it stops, it stops as it may. -/
  stops : ∀ {e s'}, x s = .error e s' → D.stops s e s'

namespace Obeys

theorem pure (a : α) : D.Obeys s (Pure.pure a : EStateM ε σ α) where
  returns := fun h => by cases h; exact D.refl s
  stops := fun h => nomatch h

/-- The second part begins in a state that the first one leaves. -/
theorem bind {x : EStateM ε σ α} {f : α → EStateM ε σ β} (hx : D.Obeys s x)
    (hf : ∀ {a s'}, x s = .ok a s' → D.keeps s s' → D.Obeys s' (f a)) : D.Obeys s (x >>= f) := by
  cases hrun : x s with
  | ok a s' =>
    have hkeeps := hx.returns hrun
    have hrest := hf hrun hkeeps
    refine ⟨fun h => ?_, fun h => ?_⟩ <;> rw [bind_apply, hrun] at h
    · exact D.trans hkeeps (hrest.returns h)
    · exact D.stops_of_keeps hkeeps (hrest.stops h)
  | error e s' =>
    refine ⟨fun h => ?_, fun h => ?_⟩ <;> rw [bind_apply, hrun] at h
    · exact nomatch h
    · cases h
      exact hx.stops hrun

theorem throw {e : ε} (h : D.stops s e s) : D.Obeys s (throw e : EStateM ε σ α) where
  returns := fun hrun => nomatch hrun
  stops := fun hrun => by cases hrun; exact h

/-- A step that always returns. -/
theorem step {x : EStateM ε σ α} {a : α} {s' : σ} (hrun : x s = .ok a s') (h : D.keeps s s') :
    D.Obeys s x where
  returns := fun hrun' => by cases hrun.symm.trans hrun'; exact h
  stops := fun hrun' => nomatch hrun.symm.trans hrun'

/-- A look at the state. -/
theorem look {x : EStateM ε σ α} {f : α → EStateM ε σ β} {a : α} (hrun : x s = .ok a s)
    (h : D.Obeys s (f a)) : D.Obeys s (x >>= f) :=
  (step hrun (D.refl s)).bind fun hrun' _ => by cases hrun.symm.trans hrun'; exact h

/-- A choice obeys if the branch that is taken does. -/
theorem ite {p : Prop} [Decidable p] {x y : EStateM ε σ α} (hx : p → D.Obeys s x)
    (hy : ¬p → D.Obeys s y) : D.Obeys s (if p then x else y) := by
  split
  · exact hx ‹p›
  · exact hy ‹¬p›

end Obeys

end Discipline

end Interrupts

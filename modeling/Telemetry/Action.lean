/-! Actions: steps that read and change a state and either succeed or fail. What a step did to the state
    stays done when it fails, and so do the steps before it. -/

namespace Telemetry

/-- An action on states in `σ` that fails with a fault in `ε` or gives an `α`. -/
abbrev Action (σ ε α : Type) := ExceptT ε (StateM σ) α

namespace Action

variable {σ ε ε' α β : Type}

/-- The state after an action, whatever its result. -/
def after (x : Action σ ε α) (s : σ) : σ := (x s).2

/-- The action, with `undo` made after it if it fails. -/
def undoing (x : Action σ ε α) (undo : σ → σ) : Action σ ε α := fun s =>
  match x s with
  | (.ok a, s) => (.ok a, s)
  | (.error e, s) => (.error e, undo s)

/-- The action with its fault seen as another. -/
def mapFault (f : ε → ε') (x : Action σ ε α) : Action σ ε' α := fun s =>
  match x s with
  | (.ok a, s) => (.ok a, s)
  | (.error e, s) => (.error (f e), s)

/-- An action that leaves the state alone. -/
def ofExcept (r : Except ε α) : Action σ ε α := fun s => (r, s)

theorem bind_apply (x : Action σ ε α) (f : α → Action σ ε β) (s : σ) :
    (x >>= f) s =
      match x s with
      | (.ok a, s) => f a s
      | (.error e, s) => (.error e, s) := by
  rcases h : x s with ⟨r, s'⟩
  have hrun : (x >>= f) s = (ExceptT.bindCont f r) s' := by
    show ExceptT.bindCont f (x s).1 (x s).2 = _
    rw [h]
  rw [hrun]
  cases r <;> rfl

theorem bind_eq_ok {x : Action σ ε α} {f : α → Action σ ε β} {b : β} {s u : σ} (h : (x >>= f) s = (.ok b, u)) :
    ∃ a t, x s = (.ok a, t) ∧ f a t = (.ok b, u) := by
  rw [bind_apply] at h
  rcases hx : x s with ⟨e | a, t⟩
  · rw [hx] at h
    cases h
  · rw [hx] at h
    exact ⟨a, t, rfl, h⟩

theorem mapFault_eq_ok {f : ε → ε'} {x : Action σ ε α} {a : α} {s t : σ} (h : mapFault f x s = (.ok a, t)) :
    x s = (.ok a, t) := by
  rw [mapFault] at h
  rcases hx : x s with ⟨e | a', t'⟩
  · rw [hx] at h
    cases h
  · rw [hx] at h
    cases h
    rfl

theorem undoing_eq_ok {x : Action σ ε α} {undo : σ → σ} {a : α} {s t : σ} (h : undoing x undo s = (.ok a, t)) :
    x s = (.ok a, t) := by
  rw [undoing] at h
  rcases hx : x s with ⟨e | a', t'⟩
  · rw [hx] at h
    cases h
  · rw [hx] at h
    exact h

end Action
end Telemetry

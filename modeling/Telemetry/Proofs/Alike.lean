import Telemetry.Pipeline.Basic

/-! Worlds that answer alike. If nothing that is read of the manager and nothing that the transforms do tells
    two worlds apart, neither does a tick. -/

namespace Telemetry
variable {σ ε ε' α β : Type}

namespace Action

/-- From related states the action has one result, and it leads to related states. -/
def Respects (R : σ → σ → Prop) (x : Action σ ε α) : Prop :=
  ∀ s s', R s s' → (x s).1 = (x s').1 ∧ R (x s).2 (x s').2

namespace Respects
variable {R : σ → σ → Prop} {x y : Action σ ε α}

theorem pure (R : σ → σ → Prop) (a : α) : Respects R (pure a : Action σ ε α) := fun _ _ h => ⟨rfl, h⟩

theorem ofExcept (R : σ → σ → Prop) (r : Except ε α) : Respects R (Action.ofExcept r) := fun _ _ h => ⟨rfl, h⟩

theorem bind {k : α → Action σ ε β} (hx : x.Respects R) (hk : ∀ a, (k a).Respects R) : (x >>= k).Respects R := by
  intro s s' h
  obtain ⟨hresult, hstate⟩ := hx s s' h
  rw [bind_apply, bind_apply]
  rcases hrun : x s with ⟨r, t⟩
  rcases hrun' : x s' with ⟨r', t'⟩
  rw [hrun, hrun'] at hresult hstate
  obtain rfl : r = r' := hresult
  cases r with
  | error e => exact ⟨rfl, hstate⟩
  | ok a => exact hk a t t' hstate

theorem mapFault (g : ε → ε') (hx : x.Respects R) : (Action.mapFault g x).Respects R := by
  intro s s' h
  obtain ⟨hresult, hstate⟩ := hx s s' h
  rw [Action.mapFault, Action.mapFault]
  rcases hrun : x s with ⟨r, t⟩
  rcases hrun' : x s' with ⟨r', t'⟩
  rw [hrun, hrun'] at hresult hstate
  obtain rfl : r = r' := hresult
  cases r with
  | error e => exact ⟨rfl, hstate⟩
  | ok a => exact ⟨rfl, hstate⟩

theorem ite {p : Prop} [Decidable p] (hx : x.Respects R) (hy : y.Respects R) : (if p then x else y).Respects R := by
  split
  · exact hx
  · exact hy

theorem mapM {g : α → Action σ ε β} (h : ∀ a, (g a).Respects R) (l : List α) : (l.mapM g).Respects R := by
  induction l with
  | nil => exact pure R []
  | cons a l ih =>
    rw [List.mapM_cons]
    exact (h a).bind fun b => ih.bind fun bs => pure R (b :: bs)

end Respects
end Action

namespace Pipeline
variable {p : Pipeline σ} {R : σ → σ → Prop}

/-- The metrics are the same, and the worlds are related. -/
def WithMetrics (R : σ → σ → Prop) (a b : MetricSet × σ) : Prop := a.1 = b.1 ∧ R a.2 b.2

/-- Related worlds answer alike: readings of the manager and transforms respect the relation. -/
structure Alike (p : Pipeline σ) (R : σ → σ → Prop) : Prop where
  latestValues : ∀ es fs, (p.manager.latestValues es fs).Respects R
  transforms : ∀ x ∈ p.transforms, (x.process p.topology).Respects (WithMetrics R)

theorem respects_processAll {xs : List (Transform σ)} {t : Topology}
    (h : ∀ x ∈ xs, (x.process t).Respects (WithMetrics R)) : (Transform.processAll t xs).Respects (WithMetrics R) := by
  induction xs with
  | nil => exact .pure _ ()
  | cons x xs ih =>
    obtain ⟨hx, hxs⟩ := List.forall_mem_cons.mp h
    exact (hx.mapFault _).bind fun _ => ih hxs

theorem Alike.collect (h : p.Alike R) : (p.collector.collect p.manager).Respects R :=
  .mapM (fun _ => (h.latestValues _ _).bind fun _ => .ite (.pure R _) (.ofExcept R _)) p.collector.entities

theorem Alike.transformed (h : p.Alike R) (metrics : MetricSet) : (p.transformed metrics).Respects R := by
  intro s s' hs
  obtain ⟨hresult, hmetrics, hworld⟩ := respects_processAll h.transforms (metrics, s) (metrics, s') ⟨rfl, hs⟩
  rw [Pipeline.transformed, Pipeline.transformed]
  rcases hrun : Transform.processAll p.topology p.transforms (metrics, s) with ⟨r, given, t⟩
  rcases hrun' : Transform.processAll p.topology p.transforms (metrics, s') with ⟨r', given', t'⟩
  rw [hrun, hrun'] at hresult hmetrics hworld
  obtain rfl : r = r' := hresult
  obtain rfl : given = given' := hmetrics
  rcases r with ⟨name, report⟩ | ⟨⟩
  · exact ⟨rfl, hworld⟩
  · exact ⟨rfl, hworld⟩

/-- A tick has one outcome in worlds that answer alike. -/
theorem Alike.renderOnce (h : p.Alike R) : p.renderOnce.Respects R :=
  (h.collect.mapFault _).bind fun metrics => (h.transformed metrics).bind fun _ => .pure R _

end Pipeline
end Telemetry

import Telemetry.Pipeline.Basic
import Telemetry.Proofs.Device.Recording

/-! What actions leave alone. An action keeps something that is told of states if it tells the same
    afterwards; what the readings of a device manager keep, so do those who only read. -/

namespace Telemetry
variable {σ ε ε' α β γ : Type}

namespace Action

/-- Whether or not it succeeds, the action leaves alone what `f` tells of the state. -/
def Keeps (f : σ → γ) (x : Action σ ε α) : Prop := ∀ s, f (x.after s) = f s

namespace Keeps
variable {f : σ → γ} {x y : Action σ ε α}

theorem pure (f : σ → γ) (a : α) : Keeps f (pure a : Action σ ε α) := fun _ => rfl

theorem ofExcept (f : σ → γ) (r : Except ε α) : Keeps f (Action.ofExcept r) := fun _ => rfl

theorem bind {k : α → Action σ ε β} (hx : x.Keeps f) (hk : ∀ a, (k a).Keeps f) : (x >>= k).Keeps f := by
  intro s
  have hfirst : f (x s).2 = f s := hx s
  rw [after, bind_apply]
  rcases hrun : x s with ⟨e | a, t⟩
  · rw [hrun] at hfirst
    exact hfirst
  · rw [hrun] at hfirst
    exact (hk a t).trans hfirst

theorem mapFault (g : ε → ε') (hx : x.Keeps f) : (Action.mapFault g x).Keeps f := by
  intro s
  have hfirst : f (x s).2 = f s := hx s
  rw [after, Action.mapFault]
  rcases hrun : x s with ⟨e | a, t⟩
  · rw [hrun] at hfirst
    exact hfirst
  · rw [hrun] at hfirst
    exact hfirst

theorem ite {p : Prop} [Decidable p] (hx : x.Keeps f) (hy : y.Keeps f) : (if p then x else y).Keeps f := by
  split
  · exact hx
  · exact hy

theorem mapM {g : α → Action σ ε β} (h : ∀ a, (g a).Keeps f) (l : List α) : (l.mapM g).Keeps f := by
  induction l with
  | nil => exact pure f []
  | cons a l ih =>
    rw [List.mapM_cons]
    exact (h a).bind fun b => ih.bind fun bs => pure f (b :: bs)

end Keeps
end Action

/-! ### Readers -/

/-- Every reading of the manager leaves alone what `f` tells of the state. -/
structure DeviceManager.Reads (m : DeviceManager σ) (f : σ → γ) : Prop where
  deviceCount : m.deviceCount.Keeps f
  deviceInfo : ∀ i, (m.deviceInfo i).Keeps f
  hierarchy : m.hierarchy.Keeps f
  latestValues : ∀ es fs, (m.latestValues es fs).Keeps f
  resolveNames : ∀ es, (m.resolveNames es).Keeps f

/-- The transform leaves alone what `f` tells of the state. -/
def Transform.Keeps (f : σ → γ) (x : Transform σ) : Prop := ∀ t, (x.process t).Keeps fun s => f s.2

section Readers
variable {m : DeviceManager σ} {f : σ → γ}

theorem keeps_namesByReading {latestValues : List Entity → List FieldId → Call σ (List FieldValue)}
    (h : ∀ es fs, (latestValues es fs).Keeps f) (es : List Entity) : (namesByReading latestValues es).Keeps f :=
  .ite (.pure f []) ((h es [Field.deviceName]).bind fun vs => .pure f (namesAmong vs))

theorem keeps_readDevice (h : m.Reads f) (permit : Bool) (i : UInt32) :
    (Topology.readDevice m permit i).Keeps f := by
  intro s
  have hinfo : f (m.deviceInfo i s).2 = f s := h.deviceInfo i s
  rw [Action.after, Topology.readDevice]
  rcases hrun : m.deviceInfo i s with ⟨e | info, t⟩
  · rw [hrun] at hinfo
    dsimp only
    split
    · exact hinfo
    · exact hinfo
  · rw [hrun] at hinfo
    exact hinfo

theorem keeps_build (h : m.Reads f) (rules : SelectionRules) (permit : Bool) :
    (Topology.build m rules permit).Keeps f := by
  refine (h.deviceCount.mapFault _).bind fun count => .ite (.ofExcept f _) ?_
  refine (Action.Keeps.mapM (fun i => (keeps_readDevice h permit _).mapFault _) _).bind fun infos => ?_
  refine (h.hierarchy.mapFault _).bind fun listing => (Action.Keeps.ofExcept f _).bind fun forest => ?_
  refine ((h.resolveNames forest.entities).mapFault _).bind fun names => ?_
  exact (Action.Keeps.ofExcept f _).bind fun _ => .pure f _

theorem keeps_collect (h : m.Reads f) (c : Collector) : (c.collect m).Keeps f :=
  .mapM (fun _ => (h.latestValues _ _).bind fun _ => .ite (.pure f _) (.ofExcept f _)) c.entities

theorem keeps_processAll {xs : List (Transform σ)} (h : ∀ x ∈ xs, x.Keeps f) (t : Topology) :
    (Transform.processAll t xs).Keeps fun s => f s.2 := by
  induction xs with
  | nil => exact .pure _ ()
  | cons x xs ih =>
    obtain ⟨hx, hxs⟩ := List.forall_mem_cons.mp h
    exact ((hx t).mapFault _).bind fun _ => ih hxs

theorem keeps_transformed {p : Pipeline σ} (h : ∀ x ∈ p.transforms, x.Keeps f) (metrics : MetricSet) :
    (p.transformed metrics).Keeps f := by
  intro s
  have hall : f (Transform.processAll p.topology p.transforms (metrics, s)).2.2 = f s :=
    keeps_processAll h p.topology (metrics, s)
  rw [Action.after, Pipeline.transformed]
  rcases hrun : Transform.processAll p.topology p.transforms (metrics, s) with ⟨⟨name, r⟩ | ⟨⟩, metrics', t⟩
  · rw [hrun] at hall
    exact hall
  · rw [hrun] at hall
    exact hall

/-- A tick changes the state by its readings and its transforms only. -/
theorem keeps_renderOnce {p : Pipeline σ} (h : p.manager.Reads f) (htransforms : ∀ x ∈ p.transforms, x.Keeps f) :
    p.renderOnce.Keeps f := by
  refine ((keeps_collect h p.collector).mapFault _).bind fun metrics => ?_
  exact (keeps_transformed htransforms metrics).bind fun _ => .pure f _

end Readers

/-! ### Readings on record -/

theorem keeps_call {c : ManagerCall} (hc : c.isLifecycle = false) (x : Call σ α) :
    (Logged.call c x).Keeps Logged.lifecycle := by
  intro s
  have hquiet := Logged.since_record_quiet hc s (x s.state).2
  exact hquiet.lifecycle.trans (List.append_nil s.lifecycle)

/-- Readings open and close nothing. -/
theorem reads_logged (m : DeviceManager σ) : m.logged.Reads Logged.lifecycle where
  deviceCount := keeps_call rfl _
  deviceInfo _ := keeps_call rfl _
  hierarchy := keeps_call rfl _
  latestValues _ _ := keeps_call rfl _
  resolveNames _ := keeps_call rfl _

end Telemetry

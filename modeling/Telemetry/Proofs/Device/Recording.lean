import Telemetry.Collector
import Telemetry.Device.Logged
import Telemetry.Topology.Build

/-! What a record of calls tells. An action on a manager with its calls on record does to the manager what
    it does without the record; the calls that open or close something are what it adds to those before. -/

namespace Telemetry
variable {σ ε ε' α β : Type}

namespace Logged

/-- The manager is in a state, and these are the calls since `s` that open or close something. -/
structure Since (s : Logged σ) (w : List ManagerCall) (t : σ) (u : Logged σ) : Prop where
  state : u.state = t
  lifecycle : u.lifecycle = s.lifecycle ++ w

section Since
variable {s u v : Logged σ} {w z : List ManagerCall} {t t' : σ}

theorem Since.refl (s : Logged σ) : Since s [] s.state s := ⟨rfl, (List.append_nil _).symm⟩

theorem Since.trans (h : Since s w t u) (h' : Since u z t' v) : Since s (w ++ z) t' v where
  state := h'.state
  lifecycle := by rw [h'.lifecycle, h.lifecycle, List.append_assoc]

theorem lifecycle_record (c : ManagerCall) (s : Logged σ) (t : σ) :
    (record c t s.calls).lifecycle = s.lifecycle ++ [c].filter ManagerCall.isLifecycle :=
  List.filter_append s.calls [c]

theorem since_record {c : ManagerCall} (hc : c.isLifecycle = true) (s : Logged σ) (t : σ) :
    Since s [c] t (record c t s.calls) where
  state := rfl
  lifecycle := by rw [lifecycle_record, List.filter_cons_of_pos hc, List.filter_nil]

theorem since_record_quiet {c : ManagerCall} (hc : c.isLifecycle = false) (s : Logged σ) (t : σ) :
    Since s [] t (record c t s.calls) where
  state := rfl
  lifecycle := by rw [lifecycle_record, List.filter_cons_of_neg (by rw [hc]; exact Bool.false_ne_true), List.filter_nil]

end Since

/-- From the state, a change of states leads to another, with these calls that open or close something. -/
def Leads (t : σ) (change : Logged σ → Logged σ) (t' : σ) (w : List ManagerCall) : Prop :=
  ∀ s, s.state = t → Since s w t' (change s)

/-- From the state, the action has a result and a state, and these are its calls that open or close
    something. -/
def Gives (t : σ) (x : Action (Logged σ) ε α) (r : Except ε α × σ) (w : List ManagerCall) : Prop :=
  ∀ s, s.state = t → ∃ u, x s = (r.1, u) ∧ Since s w r.2 u

namespace Gives
variable {x : Action (Logged σ) ε α} {k : α → Action (Logged σ) ε β} {a : α} {e : ε} {t t' : σ}
  {w z : List ManagerCall}

theorem pure (a : α) : Gives t (pure a : Action (Logged σ) ε α) (.ok a, t) [] := by
  rintro s rfl
  exact ⟨s, rfl, .refl s⟩

theorem ofExcept {r r' : Except ε α} (h : r = r') : Gives t (Action.ofExcept r) (r', t) [] := by
  rintro s rfl
  exact ⟨s, congrArg (·, s) h, .refl s⟩

theorem call {c : ManagerCall} {f : Call σ α} {r : Except DeviceError α × σ} (hf : f t = r)
    (hc : c.isLifecycle = true) : Gives t (call c f) r [c] := by
  rintro s rfl
  subst hf
  exact ⟨_, rfl, since_record hc s _⟩

/-- An action that is made after one that succeeded. -/
theorem bind {r : Except ε β × σ} (hx : Gives t x (.ok a, t') w) (hk : Gives t' (k a) r z) :
    Gives t (x >>= k) r (w ++ z) := by
  intro s hs
  obtain ⟨u, hrun, hsince⟩ := hx s hs
  obtain ⟨v, hrun', hsince'⟩ := hk u hsince.state
  exact ⟨v, by rw [Action.bind_apply, hrun, ← hrun'], hsince.trans hsince'⟩

/-- Wherever one action has its result, another has one, too, and ends in the same state. -/
theorem of_runs {y : Action (Logged σ) ε' β} {r : Except ε α} {r' : Except ε' β} (hx : Gives t x (r, t') w)
    (hruns : ∀ s u, x s = (r, u) → y s = (r', u)) : Gives t y (r', t') w := by
  intro s hs
  obtain ⟨u, hrun, hsince⟩ := hx s hs
  exact ⟨u, hruns s u hrun, hsince⟩

theorem bind_error (hx : Gives t x (.error e, t') w) : Gives t (x >>= k) (.error e, t') w :=
  hx.of_runs fun s u hrun => by rw [Action.bind_apply, hrun]

theorem bind_pure (f : α → β) (hx : Gives t x (.ok a, t') w) :
    Gives t (x >>= fun a => Pure.pure (f a)) (.ok (f a), t') w :=
  hx.of_runs fun s u hrun => by rw [Action.bind_apply, hrun]; rfl

theorem mapFault_ok (f : ε → ε') (hx : Gives t x (.ok a, t') w) : Gives t (Action.mapFault f x) (.ok a, t') w :=
  hx.of_runs fun s u hrun => by rw [Action.mapFault, hrun]

theorem mapFault_error (f : ε → ε') (hx : Gives t x (.error e, t') w) :
    Gives t (Action.mapFault f x) (.error (f e), t') w :=
  hx.of_runs fun s u hrun => by rw [Action.mapFault, hrun]

theorem undoing_ok (undo : Logged σ → Logged σ) (hx : Gives t x (.ok a, t') w) :
    Gives t (Action.undoing x undo) (.ok a, t') w :=
  hx.of_runs fun s u hrun => by rw [Action.undoing, hrun]

/-- What undoes an action that failed is made after it. -/
theorem undoing_error {undo : Logged σ → Logged σ} {t'' : σ} (hx : Gives t x (.error e, t') w)
    (hundo : Leads t' undo t'' z) : Gives t (Action.undoing x undo) (.error e, t'') (w ++ z) := by
  intro s hs
  obtain ⟨u, hrun, hsince⟩ := hx s hs
  exact ⟨undo u, by rw [Action.undoing, hrun], hsince.trans (hundo u hsince.state)⟩

end Gives

/-! ### Actions that open and close nothing -/

/-- The action does with the record what it does without, and opens and closes nothing. -/
def Quiet (x : Action (Logged σ) ε α) (y : Action σ ε α) : Prop := ∀ t, Gives t x (y t) []

namespace Quiet
variable {x : Action (Logged σ) ε α} {y : Action σ ε α}

theorem gives (h : Quiet x y) {t : σ} {r : Except ε α × σ} (hy : y t = r) : Gives t x r [] := hy ▸ h t

theorem pure (a : α) : Quiet (pure a : Action (Logged σ) ε α) (pure a) := fun _ => .pure a

theorem ofExcept (r : Except ε α) : Quiet (Action.ofExcept r) (Action.ofExcept r : Action σ ε α) :=
  fun _ => .ofExcept rfl

theorem call {c : ManagerCall} (hc : c.isLifecycle = false) (f : Call σ α) : Quiet (call c f) f := by
  rintro t s rfl
  exact ⟨_, rfl, since_record_quiet hc s _⟩

theorem bind {k : α → Action (Logged σ) ε β} {l : α → Action σ ε β} (hx : Quiet x y) (hk : ∀ a, Quiet (k a) (l a)) :
    Quiet (x >>= k) (y >>= l) := by
  intro t
  rw [Action.bind_apply]
  rcases hy : y t with ⟨e | a, t'⟩
  · exact (hx.gives hy).bind_error
  · exact (hx.gives hy).bind (hk a t')

theorem mapFault (f : ε → ε') (hx : Quiet x y) : Quiet (Action.mapFault f x) (Action.mapFault f y) := by
  intro t
  rw [Action.mapFault]
  rcases hy : y t with ⟨e | a, t'⟩
  · exact (hx.gives hy).mapFault_error f
  · exact (hx.gives hy).mapFault_ok f

theorem ite {p : Prop} [Decidable p] {x' : Action (Logged σ) ε α} {y' : Action σ ε α} (hx : Quiet x y)
    (hx' : Quiet x' y') : Quiet (if p then x else x') (if p then y else y') := by
  split
  · exact hx
  · exact hx'

theorem mapM {f : α → Action (Logged σ) ε β} {g : α → Action σ ε β} (h : ∀ a, Quiet (f a) (g a)) (l : List α) :
    Quiet (l.mapM f) (l.mapM g) := by
  induction l with
  | nil => exact pure []
  | cons a l ih =>
    rw [List.mapM_cons, List.mapM_cons]
    exact (h a).bind fun b => ih.bind fun bs => pure (b :: bs)

end Quiet

variable (m : DeviceManager σ)

theorem quiet_readDevice (permit : Bool) (i : UInt32) :
    Quiet (Topology.readDevice m.logged permit i) (Topology.readDevice m permit i) := by
  intro t s hs
  obtain ⟨u, hrun, hsince⟩ := Quiet.call (c := .deviceInfo i) rfl (m.deviceInfo i) t s hs
  have hdevice : m.logged.deviceInfo i s = ((m.deviceInfo i t).1, u) := hrun
  rw [Topology.readDevice, Topology.readDevice, hdevice]
  rcases hinfo : m.deviceInfo i t with ⟨e | info, t'⟩
  · rw [hinfo] at hsince
    dsimp only
    split
    · exact ⟨u, rfl, hsince⟩
    · exact ⟨u, rfl, hsince⟩
  · rw [hinfo] at hsince
    exact ⟨u, rfl, hsince⟩

theorem quiet_build (rules : SelectionRules) (permit : Bool) :
    Quiet (Topology.build m.logged rules permit) (Topology.build m rules permit) := by
  refine ((Quiet.call rfl m.deviceCount).mapFault _).bind fun count => .ite (.ofExcept _) ?_
  refine (Quiet.mapM (fun i => (quiet_readDevice m permit _).mapFault _) _).bind fun infos => ?_
  refine ((Quiet.call rfl m.hierarchy).mapFault _).bind fun listing => (Quiet.ofExcept _).bind fun f => ?_
  refine ((Quiet.call rfl (m.resolveNames f.entities)).mapFault _).bind fun names => ?_
  exact (Quiet.ofExcept _).bind fun _ => .pure _

theorem quiet_collect (c : Collector) : Quiet (c.collect m.logged) (c.collect m) :=
  Quiet.mapM (fun _ => (Quiet.call rfl (m.latestValues _ _)).bind fun _ => .ite (.pure _) (.ofExcept _)) c.entities

end Logged
end Telemetry

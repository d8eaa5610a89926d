import Telemetry.Pods.Attribution
import Telemetry.Proofs.Collector.Life
import Telemetry.Proofs.Pipeline.Ticks
import Telemetry.Proofs.Simulation.Groups

/-! The states that a run publishes. It is idle and running when it begins; however it ends, it is stopping and
    then stopped, and in between the collector is released. Until then nothing is opened or closed, and once it
    was cancelled it makes no tick. -/

namespace Telemetry

/-- Every pod listing that leaves something alone makes a transform that does. -/
theorem keeps_attribution {σ γ : Type} {f : σ → γ} {list : Action σ Report PodListing} (h : list.Keeps f)
    (type : IdType) (style : LabelStyle) : (Attribution.transform list type style).Keeps f := by
  rintro t ⟨metrics, s⟩
  have hlist : f (list s).2 = f s := h s
  show f ((Attribution.transform list type style).process t (metrics, s)).2.2 = f s
  rw [Attribution.transform]
  dsimp only
  rcases hrun : list s with ⟨r | pods, s'⟩
  · rw [hrun] at hlist
    exact hlist
  · rw [hrun] at hlist
    cases pods with
    | none => exact hlist
    | some pods => exact hlist

namespace Run
open Simulation (State)

variable {σ γ : Type}

/-! ### What is published -/

/-- What a run that began in `s` has published. What `f` tells of the world is the same until it stops. -/
inductive Lived (p : Pipeline σ) (f : σ → γ) (s : σ) (r : Run σ) : Prop where
  | going (ending : r.ending = none) (published : r.published = [(.idle, s), (.running, s)])
      (kept : f r.world = f s)
  | ended (u : σ) (ending : r.ending.isSome = true) (kept : f u = f s)
      (published : r.published =
        [(.idle, s), (.running, s), (.stopping, u), (.stopped, p.collector.release p.manager u)])
      (world : r.world = p.collector.release p.manager u)

section Lived
variable {p : Pipeline σ} {f : σ → γ} {s : σ} {r : Run σ}

theorem lived_start (p : Pipeline σ) (f : σ → γ) (channel : Channel) (s : σ) : Lived p f s (start channel s) :=
  .going rfl rfl rfl

theorem lived_stop (hpublished : r.published = [(.idle, s), (.running, s)]) (hkept : f r.world = f s)
    (ending : Delivery.Ending) : Lived p f s (r.stop p ending) := by
  refine .ended r.world rfl hkept ?_ rfl
  rw [stop, publish, publish, hpublished]
  rfl

theorem lived_step (hkeeps : p.renderOnce.Keeps f) (h : Lived p f s r) (e : Event) : Lived p f s (r.step p e) := by
  cases h with
  | ended u hending hkept hpublished hworld =>
    have hrests : Rests r (r.step p e) := rests_step hending e
    exact .ended u (by rw [hrests.ending, hending]) hkept (hrests.published.trans hpublished)
      (hrests.world.trans hworld)
  | going hending hpublished hkept =>
    cases e with
    | receive | close | cancel => exact .going hending hpublished hkept
    | turn =>
      cases hcancelled : r.cancelled with
      | true =>
        rw [step_turn_of_cancelled hending hcancelled]
        exact lived_stop hpublished hkept _
      | false =>
        have hticked : f (r.ticking p).world = f s := (hkeeps r.world).trans hkept
        rw [step_turn hending hcancelled]
        split
        · exact .going hending hpublished hticked
        · exact lived_stop (f := f) (r := r.ticking p) hpublished hticked _

theorem lived_steps (hkeeps : p.renderOnce.Keeps f) (h : Lived p f s r) (es : List Event) :
    Lived p f s (r.steps p es) := by
  induction es generalizing r with
  | nil => exact h
  | cons e es ih => exact ih (lived_step hkeeps h e)

/-- A run that was cancelled ends with its next turn. -/
theorem ended_of_cancelled {es : List Event} (h : r.cancelled = true) (hturn : .turn ∈ es) :
    (r.steps p es).ending.isSome = true := by
  induction es generalizing r with
  | nil => cases hturn
  | cons e es ih =>
    rcases List.mem_cons.mp hturn with rfl | hlater
    · have hended : (r.step p .turn).ending.isSome = true := by
        cases hending : r.ending with
        | some ending => rw [step_turn_of_ended (by rw [hending]; rfl), hending]; rfl
        | none => rw [step_turn_of_cancelled hending h]; rfl
      have hrests : Rests (r.step p .turn) ((r.step p .turn).steps p es) := rests_steps hended es
      rw [steps_cons, hrests.ending, hended]
    · exact ih (cancelled_step h e) hlater

end Lived

/-! ### Simulated devices -/

section Simulated
variable {sim : Simulation} {o : SetupOptions} {catalog : Except CatalogError (List Counter)} {setup : Setup}
  {w : State}

/-- A set-up that succeeds leaves the groups of its watch, and no others. -/
theorem exists_holds_of_run (h : Setup.run sim.manager o catalog {} = (.ok setup, w)) :
    ∃ made, w.Holds made [setup.collector.watch] := by
  obtain ⟨⟨⟩, s, hconnect, hsession⟩ := Action.bind_eq_ok h
  have hconnected : sim.manager.connect {} = (.ok (), s) := Action.mapFault_eq_ok hconnect
  obtain rfl : ({ connected := true } : State) = s := (Prod.mk.inj hconnected).2
  obtain ⟨⟨topology, report⟩, t, hbuild, hrest⟩ := Action.bind_eq_ok (Action.undoing_eq_ok hsession)
  obtain ⟨counters, t', hcatalog, hrest⟩ := Action.bind_eq_ok hrest
  obtain rfl : t = t' := (Prod.mk.inj (Action.mapFault_eq_ok hcatalog)).2
  obtain ⟨c, u, hstart, hsetup⟩ := Action.bind_eq_ok hrest
  cases hsetup
  obtain ⟨es, t', hselected, hrest⟩ := Action.bind_eq_ok (Action.mapFault_eq_ok hstart)
  obtain rfl : t = t' := (Prod.mk.inj hselected).2
  obtain ⟨watch, v, hwatch, hcollector⟩ := Action.bind_eq_ok hrest
  cases hcollector
  -- Nothing was created before the watch is set up.
  have hbooks : t.books = ({} : State).books := by
    have hkeeps := keeps_build sim.reads_manager o.rules o.permitPlaceholders { connected := true }
    rw [Action.after, Action.mapFault_eq_ok hbuild] at hkeeps
    exact hkeeps
  have hnone : t.Holds 0 [] := State.Holds.start.of_books_eq hbooks
  have hroom : 0 + sim.groupsMade (es.map MonitoredEntity.entity) (Collector.fieldsOf counters) t < UInt32.size := by
    rw [Nat.zero_add]
    exact Nat.lt_of_le_of_lt (sim.groupsMade_le _ _ t) (by decide)
  have hrun := Action.mapFault_eq_ok hwatch
  rcases hnone.startWatch_cases hroom Collector.groupName o.collector.intervalMs with
    ⟨e, t', hrun', -⟩ | ⟨w', t', hrun', -, hholds⟩
  · cases hrun.symm.trans hrun'
  · cases hrun.symm.trans hrun'
    exact ⟨_, hholds⟩

theorem released_of_stopped {xs : List (Transform State)} (h : Setup.run sim.manager o catalog {} = (.ok setup, w))
    (hxs : ∀ x ∈ xs, x.Keeps State.books) (channel : Channel) (es : List Event) {v : State}
    (hstopped : (.stopped, v) ∈ ((start channel w).steps
      { manager := sim.manager, collector := setup.collector, topology := setup.topology, transforms := xs }
      es).published) : v.openGroups = 0 ∧ v.connected = false := by
  obtain ⟨made, hholds⟩ := exists_holds_of_run h
  have hlived := lived_steps (keeps_renderOnce sim.reads_manager hxs)
    (lived_start { manager := sim.manager, collector := setup.collector, topology := setup.topology, transforms := xs }
      State.books channel w) es
  cases hlived with
  | going hending hpublished hkept =>
    rw [hpublished] at hstopped
    simp at hstopped
  | ended u hending hkept hpublished hworld =>
    rw [hpublished] at hstopped
    obtain rfl : v = setup.collector.release sim.manager u := by simpa using hstopped
    have hstopped : (sim.manager.stopWatch setup.collector.watch u).Holds made [] :=
      (hholds.of_books_eq hkept).stopWatch sim
    exact ⟨(hstopped.of_books_eq rfl).openGroups_eq, rfl⟩

end Simulated

/-! ### Every run -/

theorem calls_release (m : DeviceManager σ) (c : Collector) (s : Logged σ) :
    (c.release m.logged s).calls =
      s.calls ++ [.destroyFieldGroup c.watch.fieldGroup, .destroyGroup c.watch.group, .disconnect] := by
  show ((s.calls ++ [_]) ++ [_]) ++ [_] = _
  rw [List.append_assoc, List.append_assoc]
  rfl

/-- A run publishes that it is idle, running, stopping and stopped, once each and in this order, however it ends.
    Nothing is opened or closed before it is stopping; then the handles of the collector are given up, by which
    the groups are destroyed and the connection is closed, before it has stopped. Once it was cancelled it makes
    no tick, and its next turn ends it. Whoever sees that a run over simulated devices has stopped sees no open
    groups and no connection. -/
theorem publishes_and_releases {m : DeviceManager σ} {c : Collector} {topology : Topology}
    {xs : List (Transform (Logged σ))} (hxs : ∀ x ∈ xs, x.Keeps Logged.lifecycle) (channel : Channel) (s : Logged σ)
    (es : List Event) :
    let p : Pipeline (Logged σ) := { manager := m.logged, collector := c, topology, transforms := xs }
    let r := (start channel s).steps p es
    (r.ending = none → r.published = [(.idle, s), (.running, s)] ∧ r.world.lifecycle = s.lifecycle) ∧
      (r.ending.isSome = true → ∃ u v,
        r.published = [(.idle, s), (.running, s), (.stopping, u), (.stopped, v)] ∧ u.lifecycle = s.lifecycle ∧
          v = c.giveUp m.logged u ∧
          v.calls =
            u.calls ++ [.destroyFieldGroup c.watch.fieldGroup, .destroyGroup c.watch.group, .disconnect] ∧
          r.world = v) ∧
      (∀ before after, es = before ++ .cancel :: after →
        (start channel s).ticks p es = (start channel s).ticks p before ∧
          (.turn ∈ after → r.ending.isSome = true)) ∧
      ∀ (sim : Simulation) (o : SetupOptions) (catalog : Except CatalogError (List Counter)) (setup : Setup) (w : State)
        (ys : List (Transform State)), Setup.run sim.manager o catalog {} = (.ok setup, w) →
        (∀ y ∈ ys, y.Keeps State.books) → ∀ v,
        (.stopped, v) ∈ ((start channel w).steps
          { manager := sim.manager, collector := setup.collector, topology := setup.topology, transforms := ys }
          es).published → v.openGroups = 0 ∧ v.connected = false := by
  intro p r
  have hlived : Lived p Logged.lifecycle s r :=
    lived_steps (keeps_renderOnce (reads_logged m) hxs) (lived_start p Logged.lifecycle channel s) es
  refine ⟨fun hgoing => ?_, fun hended => ?_, ?_, fun sim o catalog setup w ys hsetup hys v hstopped =>
    released_of_stopped hsetup hys channel es hstopped⟩
  · cases hlived with
    | going hending hpublished hkept => exact ⟨hpublished, hkept⟩
    | ended u hending => rw [hgoing] at hending; cases hending
  · cases hlived with
    | going hending => rw [hending] at hended; cases hended
    | ended u hending hkept hpublished hworld =>
      exact ⟨u, _, hpublished, hkept, (giveUp_eq_release m.logged c u).symm, calls_release m c u, hworld⟩
  · rintro before after rfl
    refine ⟨?_, fun hturn => ?_⟩
    · have hnone : ((start channel s).steps p before).ticks p (.cancel :: after) = [] := by
        rw [ticks, ticks_of_cancelled rfl after]
        rfl
      rw [ticks_append, hnone, List.append_nil]
    · have hcancelled : (((start channel s).steps p before).step p .cancel).cancelled = true := rfl
      have hended := ended_of_cancelled (p := p) hcancelled hturn
      rwa [← steps_cons, ← steps_append] at hended

/-- A run that fills its channel and is then cancelled, and one over the two plain devices. -/
theorem publishes_and_releases_cancelled :
    let p : Pipeline (Logged State) :=
      { manager := Simulation.standard.manager.logged
        collector := { counters := [], entities := [], options := {}, watch := { group := ⟨1⟩, fieldGroup := ⟨2⟩ } }
        topology := default
        transforms := [Attribution.transform (Action.ofExcept (.ok none)) .uid .current] }
    let es : List Event := [.turn, .turn, .cancel, .turn]
    let r := (start { capacity := 1 } { state := {} }).steps p es
    (∀ x ∈ p.transforms, x.Keeps Logged.lifecycle) ∧ r.delivery.overflows = 1 ∧
      (∃ u v, r.published = [(.idle, { state := {} }), (.running, { state := {} }), (.stopping, u), (.stopped, v)] ∧
        v.calls = u.calls ++ [.destroyFieldGroup ⟨2⟩, .destroyGroup ⟨1⟩, .disconnect]) ∧
      ∃ setup w, Setup.run Simulation.standard.manager {} (.ok []) {} = (.ok setup, w) ∧
        ∀ v, (.stopped, v) ∈ ((start { capacity := 1 } w).steps
          { manager := Simulation.standard.manager, collector := setup.collector, topology := setup.topology }
          es).published → v.openGroups = 0 ∧ v.connected = false := by
  intro p es r
  have hxs : ∀ x ∈ p.transforms, x.Keeps Logged.lifecycle := by
    intro x hx
    rw [List.mem_singleton.mp hx]
    exact keeps_attribution (.ofExcept _ _) _ _
  have hended : r.ending.isSome = true := by decide +kernel
  obtain ⟨-, hstopped, -, hsimulated⟩ := publishes_and_releases (m := Simulation.standard.manager) hxs
    { capacity := 1 } { state := {} } es
  obtain ⟨u, v, hpublished, -, -, hcalls, -⟩ := hstopped hended
  refine ⟨hxs, by decide +kernel, ⟨u, v, hpublished, hcalls⟩, ?_⟩
  rcases hrun : Setup.run Simulation.standard.manager {} (.ok []) {} with ⟨e | setup, w⟩
  · have hok : (Setup.run Simulation.standard.manager {} (.ok []) {}).1.toOption.isSome = true := by decide +kernel
    rw [hrun] at hok
    cases hok
  · exact ⟨setup, w, rfl, hsimulated _ _ _ setup w [] hrun nofun⟩

end Run
end Telemetry

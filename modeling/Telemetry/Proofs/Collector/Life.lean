import Telemetry.Device.Client
import Telemetry.Pipeline.Setup
import Telemetry.Proofs.Device.Recording

/-! The life of a collector, from the session that is opened for it until everything is given up. How far
    it comes the manager decides by what it answers; what is opened and closed on the way depends on
    nothing else, and all that was opened is closed, the connection last. -/

namespace Telemetry
open Logged

variable {σ : Type}

/-! ### Lives -/

/-- At most so many passes; the first that fails is the last. -/
def Collector.passes (m : DeviceManager σ) (c : Collector) : Nat → Call σ Unit
  | 0 => pure ()
  | n + 1 => do
    let _ ← c.collect m
    passes m c n

/-- What a collector holds of its connection: a session, and a watch that keeps the connection open, too. -/
def Collector.holds (c : Collector) (s : σ) : Client σ where
  manager := s
  sessions := SortedMap.empty.insert "session" 0
  watches := SortedMap.empty.insert "watch" { watch := c.watch, connection := 0 }
  next := 1

/-- Gives up the session and then the watch. -/
def Collector.giveUp (m : DeviceManager σ) (c : Collector) (s : σ) : σ :=
  (((c.holds s).dropSession m "session").2.dropWatch m "watch").2.manager

/-- Sets up a collector, has it make passes, and gives everything up. What fails on the way ends the life. -/
def Setup.life (m : DeviceManager σ) (o : SetupOptions) (catalog : Except CatalogError (List Counter)) (n : Nat)
    (s : σ) : σ :=
  match Setup.run m o catalog s with
  | (.error _, s) => s
  | (.ok setup, s) => setup.collector.giveUp m (Action.after (setup.collector.passes m n) s)

/-- How far a life came. -/
inductive Reach where
  | unconnected
  /-- There is a session, but no topology, no counters or no selection. -/
  | connected
  /-- A group was asked for, but not made. -/
  | ungrouped (entities : List Entity)
  /-- A group was made, and a group of fields was asked for, but not made. -/
  | grouped (entities : List Entity) (fields : List FieldId) (group : GroupId)
  /-- Both groups were made, and watching was asked for. -/
  | watching (entities : List Entity) (fields : List FieldId) (group : GroupId) (fieldGroup : FieldGroupId)
  deriving DecidableEq, Repr

namespace Reach

/-- How far a life comes with a manager that answers as this one does from a state on. -/
def of (m : DeviceManager σ) (o : SetupOptions) (catalog : Except CatalogError (List Counter)) (s : σ) : Reach :=
  match m.connect s with
  | (.error _, _) => unconnected
  | (.ok (), s) =>
    match Topology.build m o.rules o.permitPlaceholders s with
    | (.error _, _) => connected
    | (.ok (topology, _), s) =>
      match catalog with
      | .error _ => connected
      | .ok counters =>
        match topology.selected with
        | .error _ => connected
        | .ok es =>
          let entities := es.map MonitoredEntity.entity
          let fields := Collector.fieldsOf counters
          match m.createGroup Collector.groupName entities s with
          | (.error _, _) => ungrouped entities
          | (.ok g, s) =>
            match m.createFieldGroup Collector.groupName fields s with
            | (.error _, _) => grouped entities fields g
            | (.ok f, _) => watching entities fields g f

/-- What is opened and closed in a life that comes so far. -/
def calls (intervalMs : Nat) : Reach → List ManagerCall
  | unconnected => [.connect]
  | connected => [.connect, .disconnect]
  | ungrouped es => [.connect, .createGroup Collector.groupName es, .disconnect]
  | grouped es fs g =>
    [.connect, .createGroup Collector.groupName es, .createFieldGroup Collector.groupName fs, .destroyGroup g,
      .disconnect]
  | watching es fs g f =>
    [.connect, .createGroup Collector.groupName es, .createFieldGroup Collector.groupName fs,
      .watchFields g f intervalMs, .destroyFieldGroup f, .destroyGroup g, .disconnect]

theorem calls_after_disconnect {r : Reach} {intervalMs : Nat} {before after : List ManagerCall}
    (h : r.calls intervalMs = before ++ .disconnect :: after) : after = [] := by
  rcases List.eq_nil_or_concat after with rfl | ⟨rest, last, rfl⟩
  · rfl
  · have hmem : .disconnect ∈ (r.calls intervalMs).dropLast := by
      rw [h, List.concat_eq_append, ← List.cons_append, ← List.append_assoc, List.dropLast_concat]
      simp
    cases r <;> simp [calls] at hmem

end Reach

/-! ### Setting up -/

section Watch
variable {m : DeviceManager σ} {name : String} {es : List Entity} {fs : List FieldId} {ms : Nat} {g : GroupId}
  {f : FieldGroupId} {e : DeviceError} {s t u v : σ}

theorem leads_destroyGroup (m : DeviceManager σ) (g : GroupId) (s : σ) :
    Leads s (Action.after (m.logged.destroyGroup g)) (Action.after (m.destroyGroup g) s) [.destroyGroup g] := by
  rintro s rfl
  exact since_record rfl s _

theorem leads_stopWatch (m : DeviceManager σ) (w : Watch) (s : σ) :
    Leads s (m.logged.stopWatch w) (m.stopWatch w s) [.destroyFieldGroup w.fieldGroup, .destroyGroup w.group] := by
  rintro s rfl
  exact (since_record rfl s _).trans (since_record rfl _ _)

theorem gives_startWatch_ungrouped (hg : m.createGroup name es s = (.error e, t)) :
    Gives s (m.logged.startWatch name es fs ms) (.error e, t) [.createGroup name es] :=
  (Gives.call hg rfl).bind_error

theorem gives_startWatch_unfielded (hg : m.createGroup name es s = (.ok g, t))
    (hf : m.createFieldGroup name fs t = (.error e, u)) :
    Gives s (m.logged.startWatch name es fs ms) (.error e, Action.after (m.destroyGroup g) u)
      [.createGroup name es, .createFieldGroup name fs, .destroyGroup g] :=
  (Gives.call hg rfl).bind ((Gives.call hf rfl).undoing_error (leads_destroyGroup m g u)).bind_error

theorem gives_startWatch_unwatched (hg : m.createGroup name es s = (.ok g, t))
    (hf : m.createFieldGroup name fs t = (.ok f, u)) (hw : m.watchFields g f ms u = (.error e, v)) :
    Gives s (m.logged.startWatch name es fs ms) (.error e, m.stopWatch { group := g, fieldGroup := f } v)
      [.createGroup name es, .createFieldGroup name fs, .watchFields g f ms, .destroyFieldGroup f,
        .destroyGroup g] := by
  refine (Gives.call hg rfl).bind (((Gives.call hf rfl).undoing_ok _).bind ?_)
  exact ((Gives.call hw rfl).undoing_error (leads_stopWatch m { group := g, fieldGroup := f } v)).bind_error

theorem gives_startWatch (hg : m.createGroup name es s = (.ok g, t))
    (hf : m.createFieldGroup name fs t = (.ok f, u)) (hw : m.watchFields g f ms u = (.ok (), v)) :
    Gives s (m.logged.startWatch name es fs ms) (.ok { group := g, fieldGroup := f }, v)
      [.createGroup name es, .createFieldGroup name fs, .watchFields g f ms] := by
  refine (Gives.call hg rfl).bind (((Gives.call hf rfl).undoing_ok _).bind ?_)
  exact ((Gives.call hw rfl).undoing_ok _).bind_pure _

end Watch

section Session
variable {m : DeviceManager σ} {o : SetupOptions} {catalog : Except CatalogError (List Counter)} {topology : Topology}
  {report : BuildReport} {counters : List Counter} {es : List MonitoredEntity} {s t u : σ} {w : List ManagerCall}

theorem gives_inSession_topology {e : TopologyError}
    (hbuild : Topology.build m o.rules o.permitPlaceholders s = (.error e, t)) :
    Gives s (Setup.inSession m.logged o catalog) (.error (.topology e), t) [] :=
  (((quiet_build m _ _).gives hbuild).mapFault_error _).bind_error

section Built
variable (hbuild : Topology.build m o.rules o.permitPlaceholders s = (.ok (topology, report), t))
include hbuild

theorem gives_inSession_catalog {e : CatalogError} :
    Gives s (Setup.inSession m.logged o (.error e)) (.error (.catalog e), t) [] :=
  (((quiet_build m _ _).gives hbuild).mapFault_ok _).bind ((Gives.ofExcept rfl).mapFault_error _).bind_error

theorem gives_inSession_failed {e : TopologyError}
    (hstart : Gives t (Collector.start m.logged topology counters o.collector) (.error e, u) w) :
    Gives s (Setup.inSession m.logged o (.ok counters)) (.error (.collector e), u) w := by
  refine (((quiet_build m _ _).gives hbuild).mapFault_ok _).bind ?_
  refine ((Gives.ofExcept rfl).mapFault_ok _).bind (w := []) ?_
  exact (hstart.mapFault_error _).bind_error

theorem gives_inSession {c : Collector}
    (hstart : Gives t (Collector.start m.logged topology counters o.collector) (.ok c, u) w) :
    Gives s (Setup.inSession m.logged o (.ok counters)) (.ok { collector := c, topology, report }, u) w := by
  refine (((quiet_build m _ _).gives hbuild).mapFault_ok _).bind ?_
  refine ((Gives.ofExcept rfl).mapFault_ok _).bind (w := []) ?_
  exact (hstart.mapFault_ok _).bind_pure _

end Built

theorem gives_start_unselected {e : TopologyError} (hselected : topology.selected = .error e) :
    Gives s (Collector.start m.logged topology counters o.collector) (.error e, s) [] :=
  (Gives.ofExcept hselected).bind_error

section Selected
variable (hselected : topology.selected = .ok es)
include hselected

theorem gives_start_unwatched {e : DeviceError}
    (hwatch : Gives s (m.logged.startWatch Collector.groupName (es.map MonitoredEntity.entity)
      (Collector.fieldsOf counters) o.collector.intervalMs) (.error e, t) w) :
    Gives s (Collector.start m.logged topology counters o.collector) (.error (.device e), t) w :=
  (Gives.ofExcept hselected).bind (w := []) (hwatch.mapFault_error _).bind_error

theorem gives_start {watch : Watch}
    (hwatch : Gives s (m.logged.startWatch Collector.groupName (es.map MonitoredEntity.entity)
      (Collector.fieldsOf counters) o.collector.intervalMs) (.ok watch, t) w) :
    Gives s (Collector.start m.logged topology counters o.collector)
      (.ok { counters, entities := es, options := o.collector, watch }, t) w :=
  (Gives.ofExcept hselected).bind (w := []) ((hwatch.mapFault_ok _).bind_pure _)

end Selected
end Session

/-! ### Giving up -/

section GiveUp
variable (m : DeviceManager σ) (c : Collector)

theorem leads_disconnect (s : σ) :
    Leads s m.logged.disconnect (m.disconnect s) [.disconnect] := by
  rintro s rfl
  exact since_record rfl s _

/-- The session alone closes nothing, and the watch closes the connection after its groups. -/
theorem giveUp_eq_release (s : σ) : c.giveUp m s = c.release m s := rfl

theorem leads_giveUp (s : σ) :
    Leads s (c.giveUp m.logged) (c.giveUp m s)
      [.destroyFieldGroup c.watch.fieldGroup, .destroyGroup c.watch.group, .disconnect] := by
  intro s' hs'
  rw [giveUp_eq_release, giveUp_eq_release]
  have hstop := leads_stopWatch m c.watch s s' hs'
  exact hstop.trans (leads_disconnect m _ _ hstop.state)

theorem quiet_passes (n : Nat) : Quiet (c.passes m.logged n) (c.passes m n) := by
  induction n with
  | zero => exact .pure ()
  | succ n ih => exact (quiet_collect m c).bind fun _ => ih

end GiveUp

/-! ### Whole lives -/

section Life
variable {m : DeviceManager σ} {o : SetupOptions} {catalog : Except CatalogError (List Counter)} {s t u : σ}
  {w : List ManagerCall}

/-- A failure in the session closes the connection. -/
theorem lifecycle_of_failed {e : SetupError} (n : Nat) (hconnect : m.connect s = (.ok (), t))
    (hsession : Gives t (Setup.inSession m.logged o catalog) (.error e, u) w) :
    (Setup.life m.logged o catalog n { state := s }).lifecycle = .connect :: (w ++ [.disconnect]) := by
  have hopen : Gives s m.logged.connect (.ok (), t) [.connect] := .call hconnect rfl
  have hgives : Gives s (Setup.run m.logged o catalog) (.error e, m.disconnect u) (.connect :: (w ++ [.disconnect])) :=
    (hopen.mapFault_ok _).bind (hsession.undoing_error (leads_disconnect m u))
  obtain ⟨s', hrun, hsince⟩ := hgives { state := s } rfl
  rw [Setup.life, hrun]
  exact hsince.lifecycle

/-- A collector that was started gives its groups up, and then the connection, however its passes went. -/
theorem lifecycle_of_started {setup : Setup} (n : Nat) (hconnect : m.connect s = (.ok (), t))
    (hsession : Gives t (Setup.inSession m.logged o catalog) (.ok setup, u) w) :
    (Setup.life m.logged o catalog n { state := s }).lifecycle =
      .connect :: (w ++ [.destroyFieldGroup setup.collector.watch.fieldGroup,
        .destroyGroup setup.collector.watch.group, .disconnect]) := by
  have hopen : Gives s m.logged.connect (.ok (), t) [.connect] := .call hconnect rfl
  have hgives : Gives s (Setup.run m.logged o catalog) (.ok setup, u) (.connect :: w) :=
    (hopen.mapFault_ok _).bind (hsession.undoing_ok _)
  obtain ⟨s', hrun, hsince⟩ := hgives { state := s } rfl
  obtain ⟨s'', hpasses, hsince'⟩ := quiet_passes m setup.collector n u s' hsince.state
  have hafter : Action.after (setup.collector.passes m.logged n) s' = s'' := congrArg Prod.snd hpasses
  have hall := hsince.trans (hsince'.trans (leads_giveUp m setup.collector _ s'' hsince'.state))
  rw [Setup.life, hrun]
  dsimp only
  rw [hafter]
  exact hall.lifecycle

/-- A life opens and closes what belongs to how far it comes. -/
theorem lifecycle_eq_calls (m : DeviceManager σ) (o : SetupOptions) (catalog : Except CatalogError (List Counter))
    (n : Nat) (s : σ) :
    (Setup.life m.logged o catalog n { state := s }).lifecycle =
      (Reach.of m o catalog s).calls o.collector.intervalMs := by
  rcases hconnect : m.connect s with ⟨e | ⟨⟩, s₁⟩
  · have hopen : Gives s m.logged.connect (.error e, s₁) [.connect] := .call hconnect rfl
    have hgives : Gives s (Setup.run m.logged o catalog) (.error (.session e), s₁) [.connect] :=
      (hopen.mapFault_error _).bind_error
    obtain ⟨s', hrun, hsince⟩ := hgives { state := s } rfl
    simp only [Reach.of, hconnect, Setup.life, hrun]
    exact hsince.lifecycle
  rcases hbuild : Topology.build m o.rules o.permitPlaceholders s₁ with ⟨e | ⟨topology, report⟩, s₂⟩
  · simp only [Reach.of, hconnect, hbuild]
    exact lifecycle_of_failed n hconnect (gives_inSession_topology hbuild)
  rcases catalog with e | counters
  · simp only [Reach.of, hconnect, hbuild]
    exact lifecycle_of_failed n hconnect (gives_inSession_catalog hbuild)
  rcases hselected : topology.selected with e | es
  · simp only [Reach.of, hconnect, hbuild, hselected]
    exact lifecycle_of_failed n hconnect (gives_inSession_failed hbuild (gives_start_unselected hselected))
  rcases hgroup : m.createGroup Collector.groupName (es.map MonitoredEntity.entity) s₂ with ⟨e | g, s₃⟩
  · simp only [Reach.of, hconnect, hbuild, hselected, hgroup]
    exact lifecycle_of_failed n hconnect
      (gives_inSession_failed hbuild (gives_start_unwatched hselected (gives_startWatch_ungrouped hgroup)))
  rcases hfields : m.createFieldGroup Collector.groupName (Collector.fieldsOf counters) s₃ with ⟨e | f, s₄⟩
  · simp only [Reach.of, hconnect, hbuild, hselected, hgroup, hfields]
    exact lifecycle_of_failed n hconnect
      (gives_inSession_failed hbuild (gives_start_unwatched hselected (gives_startWatch_unfielded hgroup hfields)))
  simp only [Reach.of, hconnect, hbuild, hselected, hgroup, hfields]
  rcases hwatch : m.watchFields g f o.collector.intervalMs s₄ with ⟨e | ⟨⟩, s₅⟩
  · have hstart := gives_start_unwatched hselected (gives_startWatch_unwatched hgroup hfields hwatch)
    exact lifecycle_of_failed n hconnect (gives_inSession_failed hbuild hstart)
  · have hstart := gives_start hselected (gives_startWatch hgroup hfields hwatch)
    exact lifecycle_of_started n hconnect (gives_inSession hbuild hstart)

/-- However far a life comes, all that was opened is closed, in the opposite order and the connection last.
    Whether destroying a group succeeds, and what it does, changes nothing of this. -/
theorem life_closes (m : DeviceManager σ) (o : SetupOptions) (catalog : Except CatalogError (List Counter)) (n : Nat)
    (s : σ) :
    let log := (Setup.life m.logged o catalog n { state := s }).lifecycle
    log = (Reach.of m o catalog s).calls o.collector.intervalMs ∧
    (∀ destroyGroup destroyFieldGroup,
      (Setup.life { m with destroyGroup, destroyFieldGroup }.logged o catalog n { state := s }).lifecycle = log) ∧
    ∀ before after, log = before ++ .disconnect :: after → after = [] := by
  intro log
  have hlog : log = (Reach.of m o catalog s).calls o.collector.intervalMs := lifecycle_eq_calls m o catalog n s
  refine ⟨hlog, fun destroyGroup destroyFieldGroup => ?_, fun before after h => ?_⟩
  · rw [lifecycle_eq_calls, hlog]
    rfl
  · rw [hlog] at h
    exact Reach.calls_after_disconnect h

end Life
end Telemetry

import Telemetry.Proofs.Catalog.Fields
import Telemetry.Proofs.Collector.Pass
import Telemetry.Proofs.Simulation.Groups
import Telemetry.Proofs.Simulation.Telling
import Telemetry.Proofs.Topology.Selecting

/-! Collectors over simulated devices. What a topology selects stands in the description, and the fields of a
    catalog are known; so a collector can be made as long as there is a connection, and of its passes none fails
    but for the loss of the connection. -/

namespace Telemetry
namespace Simulation
open DeviceManager (ReadAll ReadFault FaultAfter)

variable {sim : Simulation} {s s' : State} {c : Collector} {t : Topology} {report : BuildReport}
  {rules : SelectionRules} {permit : Bool} {counters : List Counter}

/-! ### Setting up -/

theorem tellsIndices_manager (sim : Simulation) : Topology.TellsIndices sim.manager := by
  intro i s info h
  change (whenConnected (fun s => (sim.deviceInfo i, s)) s).1 = .ok info at h
  rw [whenConnected, deviceInfo] at h
  repeat' split at h
  all_goals cases h
  rfl

/-- What is selected stands in the description. -/
theorem placed_selected (hconnected : s.connected = true)
    (hbuild : Topology.build sim.manager rules permit s = (.ok (t, report), s')) :
    ∃ es, t.selected = .ok es ∧ ∀ e ∈ es, (sim.placeOf? e.entity).isSome := by
  have htells : Tells sim (Topology.answers sim.manager s) := tells_answers hconnected
  obtain ⟨es, hselected, hpresents⟩ := Topology.selected_of_build sim.tellsIndices_manager hbuild
  refine ⟨es, hselected, fun e he => ?_⟩
  cases hpresents.told e he with
  | @device i info hinfo =>
    have hlt := (List.getElem?_eq_some_iff.mp hinfo).1
    rw [Topology.length_devices_answers, Topology.Answers.total, htells.count] at hlt
    have hle : (UInt32.ofNat sim.devices.length).toNat ≤ sim.devices.length := by
      rw [UInt32.toNat_ofNat']
      exact Nat.mod_le _ _
    have hdevice := List.getElem?_eq_getElem (Nat.lt_of_lt_of_le hlt hle)
    have hstands := Stands.device hdevice
    rw [UInt32.ofNat_toNat] at hstands
    exact hstands.isSome_placeOf?
  | @partition entry info hentry hinfo =>
    have hentries : (Topology.answers sim.manager s).entries = sim.hierarchy := by
      rw [Topology.Answers.entries, htells.listing]
      rfl
    rw [hentries] at hentry
    obtain ⟨l, p, hstands⟩ := exists_stands_of_under_device hentry
    exact hstands.isSome_placeOf?

/-- A watch can be set up for entities that stand somewhere and fields that there are. -/
theorem startWatch_of_placed {es : List Entity} {ids : List FieldId} (hconnected : s.connected = true)
    (hes : ∀ e ∈ es, (sim.placeOf? e).isSome) (hids : ∀ id ∈ ids, (Field.byId? id).isSome) (name : String)
    (intervalMs : Nat) :
    ∃ w t, sim.manager.startWatch name es ids intervalMs s = (.ok w, t) ∧ t.connected = true := by
  have hlocated : (es.find? fun e => (sim.locate? e).isNone) = none := by
    refine List.find?_eq_none.mpr fun e he hnone => ?_
    have hplace := hes e he
    rw [placeOf?, Option.isNone_iff_eq_none.mp hnone] at hplace
    cases hplace
  have hknown : (ids.find? fun id => (Field.byId? id).isNone) = none := by
    refine List.find?_eq_none.mpr fun id hid hnone => ?_
    have hsome := hids id hid
    rw [Option.isNone_iff_eq_none.mp hnone] at hsome
    cases hsome
  let g : GroupId := ⟨s.lastId + 1⟩
  let t : State := { s with lastId := s.lastId + 1, groups := s.groups.filter (·.1 ≠ g) ++ [(g, es)] }
  have hg : sim.createGroup es s = (.ok g, t) := by
    rw [createGroup, whenConnected_of_connected hconnected, hlocated]
  let f : FieldGroupId := ⟨t.lastId + 1⟩
  let u : State := { t with lastId := t.lastId + 1, fieldGroups := t.fieldGroups.filter (·.1 ≠ f) ++ [(f, ids)] }
  have hf : createFieldGroup ids t = (.ok f, u) := by
    rw [createFieldGroup, whenConnected_of_connected (show t.connected = true from hconnected), hknown]
  have hgroup : u.hasGroup g = true := by simp [State.hasGroup, u, t]
  have hfieldGroup : u.hasFieldGroup f = true := by simp [State.hasFieldGroup, u]
  obtain ⟨v, hw, hv⟩ : ∃ v, watchFields g f u = (.ok (), v) ∧ v.connected = true := by
    rw [watchFields, whenConnected_of_connected (show u.connected = true from hconnected)]
    simp only [hgroup, hfieldGroup, Bool.not_true, Bool.false_eq_true, if_false]
    refine ⟨_, rfl, ?_⟩
    split
    · exact hconnected
    · exact hconnected
  exact ⟨_, v, DeviceManager.startWatch_watched hg hf hw, hv⟩

/-! ### Passes -/

/-- All that a collector reads is there. -/
structure Serves (sim : Simulation) (c : Collector) : Prop where
  entities : ∀ e ∈ c.entities, (sim.placeOf? e.entity).isSome
  fields : ∀ id ∈ Collector.fieldsOf c.counters, (Field.byId? id).isSome

theorem exists_start (hconnected : s.connected = true)
    (hbuild : Topology.build sim.manager rules permit s = (.ok (t, report), s'))
    (hfields : ∀ c ∈ counters, Catalog.HasField c) (options : CollectorOptions) (hconnected' : s'.connected = true) :
    ∃ c u, Collector.start sim.manager t counters options s' = (.ok c, u) ∧ u.connected = true ∧ Serves sim c := by
  obtain ⟨es, hselected, hplaced⟩ := placed_selected hconnected hbuild
  have hes : ∀ e ∈ es.map MonitoredEntity.entity, (sim.placeOf? e).isSome := List.forall_mem_map.mpr hplaced
  have hids : ∀ id ∈ Collector.fieldsOf counters, (Field.byId? id).isSome :=
    List.forall_mem_map.mpr fun c hc => (hfields c hc).isSome_byId?
  obtain ⟨w, u, hwatch, hu⟩ := startWatch_of_placed hconnected' hes hids Collector.groupName options.intervalMs
  refine ⟨{ counters, entities := es, options, watch := w }, u, ?_, hu, hplaced, hids⟩
  rw [Collector.start, hselected, Action.bind_apply, Action.ofExcept]
  dsimp only
  rw [Action.bind_apply, Action.mapFault, hwatch]
  rfl

theorem collect_fst_eq (m : DeviceManager State) (c : Collector) (s : State) :
    (c.collect m s).1 = (c.collect m.logged { state := s }).1 := by
  obtain ⟨u, hrun, -⟩ := Logged.quiet_collect m c s { state := s } rfl
  rw [hrun]

theorem exists_readAll {es : List Entity} {ids : List FieldId} (hconnected : s.connected = true)
    (hes : ∀ e ∈ es, (sim.placeOf? e).isSome) (hids : ∀ id ∈ ids, (Field.byId? id).isSome) :
    ∃ vss t, ReadAll sim.manager ids es s vss t := by
  induction es generalizing s with
  | nil => exact ⟨[], s, .nil s⟩
  | cons e es ih =>
    obtain ⟨he, hes⟩ := List.forall_mem_cons.mp hes
    obtain ⟨fields, hfields, hlength⟩ := findFields_of_known hids
    have hplaced : ∀ x ∈ [e], (sim.placeOf? x).isSome := List.forall_mem_singleton.mpr he
    have hreading := latestValues_of_placed hconnected hfields hplaced
    obtain ⟨vss, t, hall⟩ := ih (s := { s with reads := s.reads + 1 }) hconnected hes
    refine ⟨_, t, .cons hreading ?_ hall⟩
    rw [List.flatMap_singleton, valuesAt, List.length_map, hlength]

theorem collect_of_connected (h : Serves sim c) (hconnected : s.connected = true) :
    ∃ metrics, (c.collect sim.manager s).1 = .ok metrics := by
  obtain ⟨vss, u, hall⟩ := exists_readAll hconnected (List.forall_mem_map.mpr h.entities) h.fields
  rw [collect_fst_eq]
  exact ⟨_, congrArg Prod.fst (Collector.collect_eq_ok_iff (u := { state := u, calls := _ }).mpr ⟨vss, hall, rfl, rfl⟩)⟩

theorem collect_of_lost (hlost : s.connected = false) (hne : c.entities ≠ []) :
    (c.collect sim.manager s).1 = .error (.connectionLost "not connected") := by
  obtain ⟨e, es, hentities⟩ := List.exists_cons_of_ne_nil hne
  have hreading := whenConnected_of_lost hlost fun s => (sim.reading [e.entity] (Collector.fieldsOf c.counters) s.reads,
    { s with reads := s.reads + 1 })
  rw [collect_fst_eq]
  exact congrArg Prod.fst (Collector.collect_eq_error_iff (u := { state := s, calls := _ }).mpr
    ⟨[], e, es, hentities, ⟨.nil s, .refused hreading⟩, rfl⟩)

/-- A pass fails if it has anything to read and the connection is lost, and only then. -/
theorem collect_eq_error_iff (h : Serves sim c) (s : State) (e : DeviceError) :
    (c.collect sim.manager s).1 = .error e ↔
      e = .connectionLost "not connected" ∧ s.connected = false ∧ c.entities ≠ [] := by
  by_cases hne : c.entities = []
  · have hnil : (c.collect sim.manager s).1 = .ok [] := by
      rw [Collector.collect, hne]
      rfl
    simp [hnil, hne]
  · cases hconnected : s.connected with
    | true =>
      obtain ⟨metrics, hmetrics⟩ := collect_of_connected h hconnected
      simp [hmetrics]
    | false => simp [collect_of_lost hconnected hne, hne, eq_comm]

/-! ### Lives of collectors -/

/-- What happens while a collector is alive. -/
inductive Happening where
  | pass
  | drop
  | connect
  deriving DecidableEq, Repr

namespace Happening

def effect (sim : Simulation) (c : Collector) (s : State) : Happening → State
  | pass => Action.after (c.collect sim.manager) s
  | drop => s.dropConnection
  | connect => Action.after sim.manager.connect s

/-- Whether there is a connection after it. -/
def leaves (connected : Bool) : Happening → Bool
  | pass => connected
  | drop => false
  | connect => true

theorem connected_effect (h : Happening) (sim : Simulation) (c : Collector) (s : State) :
    (h.effect sim c s).connected = h.leaves s.connected := by
  cases h with
  | pass => exact keeps_collect (sim.reads_manager_of fun _ _ => rfl) c s
  | drop | connect => rfl

theorem connected_effects (hs : List Happening) (sim : Simulation) (c : Collector) (s : State) :
    (hs.foldl (effect sim c) s).connected = hs.foldl leaves s.connected := by
  induction hs generalizing s with
  | nil => rfl
  | cons h hs ih => rw [List.foldl_cons, List.foldl_cons, ih, connected_effect]

end Happening

/-- Once a topology of simulated devices is built, a collector for any catalog can be made of it, and whatever
    happens to the connection afterwards, its passes succeed: all but those with an entity to read that are made
    while the connection is lost, which fail with just that. -/
theorem serves_until_lost {bytes : List UInt8} {s₀ s₁ s₂ : State} (hcatalog : Catalog.ofBytes bytes = .ok counters)
    (hconnect : sim.manager.connect s₀ = (.ok (), s₁))
    (hbuild : Topology.build sim.manager rules permit s₁ = (.ok (t, report), s₂)) (options : CollectorOptions) :
    ∃ c s₃, Collector.start sim.manager t counters options s₂ = (.ok c, s₃) ∧ t.selected = .ok c.entities ∧
      ∀ hs : List Happening,
        let connected := hs.foldl Happening.leaves true
        let outcome := (c.collect sim.manager (hs.foldl (Happening.effect sim c) s₃)).1
        (connected = true ∨ c.entities = [] → ∃ metrics, outcome = .ok metrics) ∧
        ∀ e, outcome = .error e ↔ e = .connectionLost "not connected" ∧ connected = false ∧ c.entities ≠ [] := by
  have hconnected : s₁.connected = true := by
    cases hconnect
    rfl
  have hconnected' : s₂.connected = true := by
    have hkeeps := keeps_build (sim.reads_manager_of (f := State.connected) fun _ _ => rfl) rules permit s₁
    rw [Action.after, hbuild] at hkeeps
    rwa [← hconnected]
  obtain ⟨c, s₃, hstart, hconnected'', hserves⟩ :=
    exists_start hconnected hbuild (Catalog.hasField_of_ofBytes hcatalog) options hconnected'
  refine ⟨c, s₃, hstart, (Collector.start_eq_ok hstart).1, fun hs => ?_⟩
  intro connected outcome
  have hafter : (hs.foldl (Happening.effect sim c) s₃).connected = connected := by
    rw [Happening.connected_effects, hconnected'']
  have herror (e : DeviceError) : outcome = .error e ↔
      e = .connectionLost "not connected" ∧ connected = false ∧ c.entities ≠ [] := by
    rw [← hafter]
    exact collect_eq_error_iff hserves _ e
  refine ⟨fun hok => ?_, herror⟩
  cases houtcome : outcome with
  | ok metrics => exact ⟨metrics, rfl⟩
  | error e =>
    obtain ⟨-, hlost, hne⟩ := (herror e).mp houtcome
    rcases hok with hok | hok
    · rw [hlost] at hok
      cases hok
    · exact absurd hok hne

/-- With a placeholder for the second device, passes succeed before the connection is lost and once there is one
    again. -/
theorem serves_until_lost_partlyUnavailable :
    let sim := partlyUnavailable
    ∃ t report s₂ counters c s₃,
      Catalog.ofBytes "DCGM_FI_DEV_GPU_TEMP,gauge,t".toUTF8.data.toList = .ok counters ∧
      sim.manager.connect {} = (.ok (), { connected := true }) ∧
      Topology.build sim.manager (.explicit (some .all) none) true { connected := true } = (.ok (t, report), s₂) ∧
      Collector.start sim.manager t counters {} s₂ = (.ok c, s₃) ∧ c.entities.length = 2 ∧
      let outcome := fun hs : List Happening =>
        (c.collect sim.manager (hs.foldl (Happening.effect sim c) s₃)).1
      (∃ metrics, outcome [.pass] = .ok metrics) ∧
        outcome [.pass, .drop] = .error (.connectionLost "not connected") ∧
        ∃ metrics, outcome [.pass, .drop, .pass, .connect] = .ok metrics := by
  intro sim
  obtain ⟨counters, hcatalog⟩ : ∃ counters,
      Catalog.ofBytes "DCGM_FI_DEV_GPU_TEMP,gauge,t".toUTF8.data.toList = .ok counters := ⟨_, rfl⟩
  obtain ⟨t, report, s₂, hbuild, es, hes, hlength⟩ : ∃ t report s₂,
      Topology.build sim.manager (.explicit (some .all) none) true { connected := true } = (.ok (t, report), s₂) ∧
      ∃ es, t.selected = .ok es ∧ es.length = 2 := ⟨_, _, _, rfl, _, rfl, rfl⟩
  have hconnect : sim.manager.connect {} = (.ok (), { connected := true }) := rfl
  obtain ⟨c, s₃, hstart, hselected, hlife⟩ := serves_until_lost hcatalog hconnect hbuild {}
  obtain rfl : es = c.entities := Except.ok.inj (hes.symm.trans hselected)
  have hne : c.entities ≠ [] := by
    intro hnil
    rw [hnil] at hlength
    cases hlength
  refine ⟨t, report, s₂, counters, c, s₃, hcatalog, hconnect, hbuild, hstart, hlength, ?_, ?_, ?_⟩
  · exact (hlife [.pass]).1 (.inl rfl)
  · exact ((hlife [.pass, .drop]).2 _).mpr ⟨rfl, rfl, hne⟩
  · exact (hlife [.pass, .drop, .pass, .connect]).1 (.inl rfl)

end Simulation
end Telemetry

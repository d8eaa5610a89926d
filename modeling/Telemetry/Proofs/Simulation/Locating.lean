import Telemetry.Proofs.Simulation.Mirroring
import Telemetry.Proofs.Simulation.Serving

/-! Entities and the devices they are on. An entity is on the device that its location says; of what is selected from a
    topology, this is the device that the topology has for it. -/

namespace Telemetry
namespace Simulation

/-- Whether the entity is the device at this place or a partition of it. -/
def isOn (sim : Simulation) (place : Nat) (e : Entity) : Bool := (sim.locate? e).any fun l => place == l.device

variable {sim : Simulation} {place : Nat} {e : Entity} {l : Location} {p : Place} {s s' : State} {t : Topology}
  {report : BuildReport} {rules : SelectionRules} {permit : Bool}

/-- If all that has this number is on one device, that is where the entity is. -/
theorem Stands.isOn_iff (h : Stands sim e l p) {d : Nat} (hdevice : ∀ l' p', Stands sim e l' p' → l'.device = d) :
    sim.isOn place e = true ↔ d = place := by
  obtain ⟨l', p', hlocate, -, hstands⟩ := h.exists_locate?
  rw [isOn, hlocate, Option.any_some, beq_iff_eq, hdevice l' p' hstands, eq_comm]

theorem Stands.device_eq {i : UInt32} (hsize : sim.devices.length < UInt32.size)
    (h : Stands sim (Entity.device i) l p) : l.device = i.toNat := by
  generalize he : Entity.device i = e at h
  cases h with
  | device hd => rw [Topology.device_inj he, toNat_ofNat_device hsize hd]
  | partition | subPartition => exact nomatch congrArg Entity.cls he

theorem Stands.mem_partitionsWithin {id : UInt32} (h : Stands sim (Entity.partition id) l p) :
    ∃ y, (l.device, p.device, y) ∈ sim.partitionsWithin ∧ y.id = id := by
  generalize he : Entity.partition id = e at h
  cases h with
  | partition hd hp =>
    exact ⟨_, Simulation.mem_partitionsWithin.mpr ⟨hd, List.mem_of_getElem? hp⟩, congrArg Entity.id he.symm⟩
  | device | subPartition => exact nomatch congrArg Entity.cls he

/-- A number of a partition is on one device only if no such number comes twice. -/
theorem Stands.partition_device_eq {i : Nat} {x : SimulatedDevice} {y : SimulatedPartition}
    (hids : sim.partitionIds.Nodup) (hy : (i, x, y) ∈ sim.partitionsWithin)
    (h : Stands sim (Entity.partition y.id) l p) : l.device = i := by
  obtain ⟨y', hy', hid⟩ := h.mem_partitionsWithin
  rw [← partitionsWithin_ids] at hids
  exact congrArg Prod.fst (List.inj_on_of_nodup_map hids hy' hy hid)

/-- What is selected is on the device that it is known with. -/
theorem isOn_iff_of_build (hsize : sim.devices.length < UInt32.size) (hconnected : s.connected = true)
    (hbuild : Topology.build sim.manager rules permit s = (.ok (t, report), s')) {es : List MonitoredEntity}
    (hselected : t.selected = .ok es) :
    ∀ e ∈ es, sim.isOn place e.entity = true ↔ e.device.index.toNat = place := by
  have htells : Tells sim (Topology.answers sim.manager s) := tells_answers hconnected
  obtain ⟨es', hselected', hpresents⟩ := Topology.selected_of_build sim.tellsIndices_manager hbuild
  obtain rfl : es = es' := Except.ok.inj (hselected.symm.trans hselected')
  have horder := sim.tellsIndices_manager.inOrder s
  have hbuilt := (Topology.built_of_build hbuild).2
  have hentries : (Topology.answers sim.manager s).entries = sim.hierarchy := htells.entries_eq
  intro e he
  cases hpresents.told e he with
  | @device i info hinfo =>
    have hlt := (List.getElem?_eq_some_iff.mp hinfo).1
    rw [Topology.length_devices_answers, htells.total_eq, UInt32.toNat_ofNat_of_lt' hsize] at hlt
    have hstands := Stands.device (List.getElem?_eq_getElem hlt)
    rw [UInt32.ofNat_toNat] at hstands
    have hindex : info.index = i := (horder.index_eq hinfo).trans UInt32.ofNat_toNat
    rw [hindex]
    exact hstands.isOn_iff fun l' p' h => h.device_eq hsize
  | @partition entry info hentry hinfo =>
    have hids : sim.partitionIds.Nodup := by
      rw [← idsUnder_device_hierarchy, ← hentries]
      exact hbuilt.ids_nodup
    have hindex : info.index = entry.parent.id := (horder.index_eq hinfo).trans UInt32.ofNat_toNat
    rw [hentries, under_device_hierarchy] at hentry
    obtain ⟨⟨d, x⟩, hd, hentry⟩ := List.mem_flatMap.mp hentry
    obtain ⟨y, hy, rfl⟩ := List.mem_map.mp hentry
    have hx : sim.devices[d]? = some x := mem_indexed.mp hd
    obtain ⟨q, hq⟩ := List.mem_iff_getElem?.mp hy
    have hwithin : (d, x, y) ∈ sim.partitionsWithin := mem_partitionsWithin.mpr ⟨hx, hy⟩
    rw [hindex]
    change _ ↔ (UInt32.ofNat d).toNat = place
    rw [toNat_ofNat_device hsize hx]
    exact (Stands.partition hx hq).isOn_iff fun l' p' h => h.partition_device_eq hids hwithin

end Simulation
end Telemetry

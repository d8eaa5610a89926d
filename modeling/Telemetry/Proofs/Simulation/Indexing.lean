import Telemetry.Proofs.Simulation.Batches
import Telemetry.Proofs.Simulation.Locating

/-! The index of locations. Its entries stand in the order of the description, so that of all that has one number the
    last is the one that is found. Whatever the manager tells of is found, and what is found is there to be read. -/

namespace Telemetry
namespace Simulation

variable {sim : Simulation} {s : State} {e : Entity} {l l' : Location} {p : Place}

/-! ### The order of the description -/

namespace Location

/-- What is not within a partition comes before all that is. -/
def rank : Option Nat → Nat
  | none => 0
  | some n => n + 1

/-- A device comes before its partitions and these before the next device; and so it is with each of them and its own
    partitions. -/
def Before (l l' : Location) : Prop :=
  l.device < l'.device ∨ l.device = l'.device ∧
    (rank l.partition < rank l'.partition ∨ rank l.partition = rank l'.partition ∧
      rank l.subPartition < rank l'.subPartition)

theorem Before.asymm (h : l.Before l') : ¬ l'.Before l := by
  rw [Before] at h ⊢
  omega

end Location

/-- The entity is described there, and nothing that is described later has its number. -/
def LastAt (sim : Simulation) (e : Entity) (l : Location) : Prop :=
  (∃ p, Stands sim e l p) ∧ ∀ l' p', Stands sim e l' p' → l' ≠ l → l'.Before l

theorem LastAt.unique (h : LastAt sim e l) (h' : LastAt sim e l') : l = l' := by
  obtain ⟨⟨p, hp⟩, hlast⟩ := h
  obtain ⟨⟨p', hp'⟩, hlast'⟩ := h'
  by_contra hne
  exact (hlast l' p' hp' (Ne.symm hne)).asymm (hlast' l p hp hne)

/-! ### Entries in order -/

section Order
open Location (Before)

theorem pairwise_indexed {α : Type} (xs : List α) : (indexed xs).Pairwise fun x y => x.1 < y.1 := by
  have hrange : ((indexed xs).map Prod.fst).Pairwise (· < ·) := by
    rw [map_fst_indexed]
    exact List.pairwise_lt_range
  exact List.pairwise_map.mp hrange

theorem mem_partitionIndex_place {d q : Nat} {y : SimulatedPartition} {x : Entity × Location}
    (h : x ∈ partitionIndex d q y) : x.2.device = d ∧ x.2.partition = some q := by
  rcases List.mem_cons.mp h with rfl | h
  · exact ⟨rfl, rfl⟩
  · obtain ⟨z, -, rfl⟩ := List.mem_map.mp h
    exact ⟨rfl, rfl⟩

theorem mem_deviceIndex_place {d : Nat} {y : SimulatedDevice} {x : Entity × Location} (h : x ∈ deviceIndex d y) :
    x.2.device = d := by
  rcases List.mem_cons.mp h with rfl | h
  · rfl
  · obtain ⟨z, -, hx⟩ := List.mem_flatMap.mp h
    exact (mem_partitionIndex_place hx).1

theorem pairwise_partitionIndex (d q : Nat) (y : SimulatedPartition) :
    (partitionIndex d q y).Pairwise fun x x' => x.2.Before x'.2 := by
  refine List.pairwise_cons.mpr ⟨fun x hx => ?_, List.pairwise_map.mpr ((pairwise_indexed _).imp fun h => ?_)⟩
  · obtain ⟨z, -, rfl⟩ := List.mem_map.mp hx
    exact .inr ⟨rfl, .inr ⟨rfl, Nat.succ_pos _⟩⟩
  · exact .inr ⟨rfl, .inr ⟨rfl, Nat.succ_lt_succ h⟩⟩

theorem pairwise_deviceIndex (d : Nat) (y : SimulatedDevice) :
    (deviceIndex d y).Pairwise fun x x' => x.2.Before x'.2 := by
  refine List.pairwise_cons.mpr ⟨fun x hx => ?_, List.pairwise_flatMap.mpr ⟨fun z _ => ?_, ?_⟩⟩
  · obtain ⟨z, -, hx⟩ := List.mem_flatMap.mp hx
    obtain ⟨hdevice, hpartition⟩ := mem_partitionIndex_place hx
    refine .inr ⟨hdevice.symm, .inl ?_⟩
    rw [hpartition]
    exact Nat.succ_pos _
  · exact pairwise_partitionIndex d z.1 z.2
  · refine (pairwise_indexed _).imp fun h x hx x' hx' => ?_
    obtain ⟨hdevice, hpartition⟩ := mem_partitionIndex_place hx
    obtain ⟨hdevice', hpartition'⟩ := mem_partitionIndex_place hx'
    refine .inr ⟨hdevice.trans hdevice'.symm, .inl ?_⟩
    rw [hpartition, hpartition']
    exact Nat.succ_lt_succ h

/-- The entries of the index stand in the order of the description. -/
theorem pairwise_index (sim : Simulation) : sim.index.Pairwise fun x x' => x.2.Before x'.2 := by
  refine List.pairwise_flatMap.mpr ⟨fun z _ => pairwise_deviceIndex z.1 z.2, ?_⟩
  refine (pairwise_indexed _).imp fun h x hx x' hx' => .inl ?_
  rw [mem_deviceIndex_place hx, mem_deviceIndex_place hx']
  exact h

end Order

/-- Who looks from the end finds the entry behind which there is no other. -/
theorem lastAt_of_locate? (h : sim.locate? e = some l) : LastAt sim e l := by
  refine ⟨stands_of_locate? h, fun l' p' hstands hne => ?_⟩
  obtain ⟨⟨e', l⟩, hfind, rfl⟩ := Option.map_eq_some_iff.mp h
  obtain ⟨he', after, before, hsplit, hafter⟩ := List.find?_eq_some_iff_append.mp hfind
  obtain rfl : e' = e := by simpa using he'
  have hindex : sim.index = before.reverse ++ (e', l) :: after.reverse := by
    rw [← List.reverse_reverse sim.index, hsplit]
    simp
  have hmem : (e', l') ∈ sim.index := mem_index_iff.mpr ⟨p', hstands⟩
  have horder := sim.pairwise_index
  rw [hindex] at hmem horder
  rcases List.mem_append.mp hmem with hbefore | hmem
  · exact (List.pairwise_append.mp horder).2.2 _ hbefore _ List.mem_cons_self
  · rcases List.mem_cons.mp hmem with heq | hbehind
    · exact absurd (congrArg Prod.snd heq) hne
    · simpa using hafter _ (List.mem_reverse.mp hbehind)

theorem locate?_eq_some_iff : sim.locate? e = some l ↔ LastAt sim e l := by
  refine ⟨lastAt_of_locate?, fun h => ?_⟩
  obtain ⟨p, hp⟩ := h.1
  obtain ⟨l', -, hl', -, -⟩ := hp.exists_locate?
  rw [hl', (lastAt_of_locate? hl').unique h]

theorem exists_locate?_iff : (∃ l, sim.locate? e = some l) ↔ sim.Described e := by
  constructor
  · rintro ⟨l, hl⟩
    exact ⟨l, stands_of_locate? hl⟩
  · rintro ⟨l, p, h⟩
    obtain ⟨l', -, hl', -, -⟩ := h.exists_locate?
    exact ⟨l', hl'⟩

/-! ### What the manager tells of -/

/-- An entity that is among some devices, by their number, or that is listed. -/
inductive Told (count : UInt32) (entries : List HierarchyEntry) : Entity → Prop
  | device {i : UInt32} (h : i < count) : Told count entries (Entity.device i)
  | listed {x : HierarchyEntry} (h : x ∈ entries) : Told count entries x.entity

theorem exists_of_mem_hierarchy {entry : HierarchyEntry} (h : entry ∈ sim.hierarchy) :
    ∃ (d : Nat) (x : SimulatedDevice) (q : Nat) (y : SimulatedPartition),
      sim.devices[d]? = some x ∧ x.partitions[q]? = some y ∧ (entry = partitionEntry (UInt32.ofNat d) x y ∨
        ∃ z ∈ y.subPartitions, entry = subPartitionEntry (UInt32.ofNat d) x y z) := by
  obtain ⟨⟨d, x⟩, hd, h⟩ := List.mem_flatMap.mp h
  obtain ⟨y, hy, h⟩ := List.mem_flatMap.mp h
  obtain ⟨q, hq⟩ := List.mem_iff_getElem?.mp hy
  refine ⟨d, x, q, y, mem_indexed.mp hd, hq, ?_⟩
  rw [partitionListing_eq] at h
  rcases List.mem_cons.mp h with rfl | h
  · exact .inl rfl
  · obtain ⟨z, hz, rfl⟩ := List.mem_map.mp h
    exact .inr ⟨z, hz, rfl⟩

theorem Stands.device_lt (h : Stands sim e l p) : l.device < sim.devices.length := by
  cases h with
  | device hd | partition hd | subPartition hd => exact (List.getElem?_eq_some_iff.mp hd).1

theorem Stands.eq_of_device {i : UInt32} (hsize : sim.devices.length < UInt32.size)
    (h : Stands sim (Entity.device i) l p) : l = { device := i.toNat } := by
  have hdevice := h.device_eq hsize
  generalize he : Entity.device i = e at h
  cases h with
  | device => exact congrArg (Location.mk · none none) hdevice
  | partition | subPartition => exact nomatch congrArg Entity.cls he

theorem described_device_iff {i : UInt32} (hsize : sim.devices.length < UInt32.size) :
    sim.Described (Entity.device i) ↔ i < UInt32.ofNat sim.devices.length := by
  rw [UInt32.lt_iff_toNat_lt, UInt32.toNat_ofNat_of_lt' hsize]
  constructor
  · rintro ⟨l, p, h⟩
    rw [← h.device_eq hsize]
    exact h.device_lt
  · intro h
    have hstands := Stands.device (List.getElem?_eq_getElem h)
    rw [UInt32.ofNat_toNat] at hstands
    exact ⟨_, _, hstands⟩

/-- What is described is what the manager tells of. -/
theorem described_iff_told (hsize : sim.devices.length < UInt32.size) :
    sim.Described e ↔ Told (UInt32.ofNat sim.devices.length) sim.hierarchy e := by
  constructor
  · rintro ⟨l, p, h⟩
    cases h with
    | device hd => exact .device ((described_device_iff hsize).mp ⟨_, _, .device hd⟩)
    | partition hd hp =>
      exact .listed (List.mem_of_mem_filter (partitionEntry_mem hd (List.mem_of_getElem? hp)))
    | subPartition hd hp hs =>
      exact .listed (List.mem_of_mem_filter
        (subPartitionEntry_mem hd (List.mem_of_getElem? hp) (List.mem_of_getElem? hs)))
  · intro h
    cases h with
    | device h => exact (described_device_iff hsize).mpr h
    | listed h =>
      obtain ⟨d, x, q, y, hd, hq, rfl | ⟨z, hz, rfl⟩⟩ := exists_of_mem_hierarchy h
      · exact ⟨_, _, .partition hd hq⟩
      · obtain ⟨r, hr⟩ := List.mem_iff_getElem?.mp hz
        exact ⟨_, _, .subPartition hd hq hr⟩

theorem described_parent {entry : HierarchyEntry} (h : entry ∈ sim.hierarchy) : sim.Described entry.parent := by
  obtain ⟨d, x, q, y, hd, hq, rfl | ⟨z, hz, rfl⟩⟩ := exists_of_mem_hierarchy h
  · exact ⟨_, _, .device hd⟩
  · exact ⟨_, _, .partition hd hq⟩

/-! ### Reads -/

/-- A read of what stands at a located place gives the value there. -/
theorem latestValues_of_locate? (hconnected : s.connected = true) {f : Field} (hf : f ∈ Field.table)
    (hlocate : sim.locate? e = some l) (hplace : sim.place? l = some p) :
    (sim.latestValues [e] [f.id] s).1 =
      .ok [{ entity := e, field := f.id, type := f.type, value := valueAt p e f s.reads }] := by
  have hplaceOf : sim.placeOf? e = some p := by rw [placeOf?, hlocate, Option.bind_some, hplace]
  have hfields : findFields [f.id] = .ok [f] := findFields_eq_ok_iff.mpr (.cons ⟨hf, rfl⟩ .nil)
  have hplaced : ∀ x ∈ [e], (sim.placeOf? x).isSome := by simp [hplaceOf]
  rw [latestValues_of_placed hconnected hfields hplaced, List.flatMap_singleton, valuesAt, hplaceOf]
  rfl

/-- The index for one who is connected. It has what the manager tells of and nothing else, each at the last place of its
    number; and a read finds what stands there, so that no entity that has a place is refused. -/
structure Indexes (sim : Simulation) (s : State) (count : UInt32) (entries : List HierarchyEntry) : Prop where
  complete : ∀ e, (∃ l, sim.locate? e = some l) ↔ Told count entries e
  parents : ∀ x ∈ entries, ∃ l, sim.locate? x.parent = some l
  last : ∀ e l, sim.locate? e = some l ↔ LastAt sim e l
  devices : ∀ i l, sim.locate? (Entity.device i) = some l → l = { device := i.toNat }
  inRange : ∀ e l, sim.locate? e = some l → ∃ p, Stands sim e l p ∧ sim.place? l = some p ∧
    ∀ f ∈ Field.table, (sim.latestValues [e] [f.id] s).1 =
      .ok [{ entity := e, field := f.id, type := f.type, value := valueAt p e f s.reads }]
  refused : ∀ es ids e, (sim.latestValues es ids s).1 = .error (.unknownEntity e) → ¬ Told count entries e

/-- Whatever the devices that are counted and the listing have is in the index, at the last place in the description
    that has its number; each place of the index is there, so that no read goes out of range. -/
theorem index_in_range (sim : Simulation) (hsize : sim.devices.length < UInt32.size) (hconnected : s.connected = true) :
    ∃ count entries, (sim.manager.deviceCount s).1 = .ok count ∧ (sim.manager.hierarchy s).1 = .ok entries ∧
      Indexes sim s count entries := by
  refine ⟨_, _, congrArg Prod.fst (whenConnected_of_connected hconnected _),
    congrArg Prod.fst (whenConnected_of_connected hconnected _), ?_⟩
  exact
    { complete := fun e => exists_locate?_iff.trans (described_iff_told hsize)
      parents := fun x hx => exists_locate?_iff.mpr (described_parent hx)
      last := fun e l => locate?_eq_some_iff
      devices := fun i l h => by
        obtain ⟨p, hp⟩ := stands_of_locate? h
        exact hp.eq_of_device hsize
      inRange := fun e l h => by
        obtain ⟨p, hp⟩ := stands_of_locate? h
        exact ⟨p, hp, hp.place?_eq, fun f hf => latestValues_of_locate? hconnected hf h hp.place?_eq⟩
      refused := fun es ids e h => by
        rw [← described_iff_told hsize]
        cases latestValues_eq_error_iff.mp h with
        | entity _ _ _ _ he => exact he }

/-- Numbers that come twice, on one device and on two, the second of which has fewer partitions. -/
def repeatedNumbers : Simulation :=
  { devices :=
      [ { uuid := "GPU-a"
          partitions :=
            [ { id := 5, instanceId := 1 },
              { id := 8, instanceId := 2, profile := some "1g.5gb"
                subPartitions := [{ id := 7, computeInstanceId := 0 }, { id := 7, computeInstanceId := 1 }] },
              { id := 5, instanceId := 3 }] },
        { uuid := "GPU-b", partitions := [{ id := 5, instanceId := 1, profile := some "2g.10gb" }] } ] }

/-- Of three partitions with one number the one of the second device is read, and of two partitions of a partition the
    later one. -/
theorem index_in_range_repeated :
    let s : State := { connected := true }
    repeatedNumbers.devices.length < UInt32.size ∧ s.connected = true ∧
      LastAt repeatedNumbers (Entity.partition 5) { device := 1, partition := some 0 } ∧
      LastAt repeatedNumbers (Entity.subPartition 7) { device := 0, partition := some 1, subPartition := some 1 } ∧
      (∃ count entries, (repeatedNumbers.manager.deviceCount s).1 = .ok count ∧
        (repeatedNumbers.manager.hierarchy s).1 = .ok entries ∧ Indexes repeatedNumbers s count entries) ∧
      ((repeatedNumbers.latestValues [Entity.partition 5] [Field.deviceName] s).1.map fun vs =>
        vs.map FieldValue.value) = .ok [.string "2g.10gb"] := by
  intro s
  obtain ⟨count, entries, hcount, hentries, h⟩ := index_in_range repeatedNumbers (s := s) (by decide) rfl
  exact ⟨by decide, rfl, (h.last _ _).mp (by decide), (h.last _ _).mp (by decide),
    ⟨count, entries, hcount, hentries, h⟩, by decide⟩

end Simulation
end Telemetry

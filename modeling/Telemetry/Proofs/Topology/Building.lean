import Telemetry.Proofs.Topology.Faults

/-! How a build ends. What a device manager answers to its calls, made one after the other in the state
    that the call before left behind, decides everything: each answer that is a fault may end the build,
    and so may the entries of the listing and the rules. The first of these faults is what the build
    ends with. -/

namespace Telemetry
variable {σ : Type}

/-! ### What the listing and the rules are checked for -/

namespace Forest

/-- The entities that a listing has with profiles: partitions, then partitions of partitions. -/
def profiled (listing : List HierarchyEntry) : List Entity :=
  (idsUnder .device listing).map Entity.partition ++ (idsUnder .partition listing).map Entity.subPartition

theorem Links.entities_eq {infos : List DeviceInfo} {es : List HierarchyEntry} {f : Forest} (h : Links infos es f) :
    f.entities = profiled es := by
  rw [profiled, ← h.partition_ids, ← h.subPartition_ids, List.map_map, List.map_map]
  rfl

end Forest

namespace Topology
open Forest

/-- The faults of rules for so many devices and a listing. -/
def ruleFaults (count : Nat) (listing : List HierarchyEntry) (rules : SelectionRules) : List (Option TopologyError) :=
  [(firstMissing (fun i => decide (i.toNat < count)) rules.devices).map .missingDevice,
    (firstMissing (fun id => decide (id ∈ idsUnder .device listing)) rules.partitions).map .missingPartition]

section Validate
variable {infos : List DeviceInfo} {listing : List HierarchyEntry} {t : Topology}

theorem device?_isSome (h : Links infos listing t.forest) (i : UInt32) :
    (t.device? i).isSome = decide (i.toNat < infos.length) := by
  rw [device?, devices, h.devices, Bool.eq_iff_iff, isSome_getElem?, decide_eq_true_iff]

theorem partition?_isSome (h : Links infos listing t.forest) (id : UInt32) :
    (t.partition? id).isSome = decide (id ∈ idsUnder .device listing) := by
  rw [partition?, Forest.partition?, Bool.eq_iff_iff, decide_eq_true_iff, ← h.lookup_partition_isSome]
  cases hslot : t.forest.partitionSlots.lookup id with
  | none => rfl
  | some slot =>
    have hlt := h.partitionSlots.lt_length hslot
    rw [List.length_map] at hlt
    simp [hlt]

theorem validate_ends (h : Links infos listing t.forest) :
    Ends (fun _ => True) (firstFault (ruleFaults infos.length listing t.rules)) t.validate := by
  rw [validate, funext (device?_isSome h), funext (partition?_isSome h), ruleFaults, firstFault_cons, firstFault_cons]
  cases firstMissing (fun i => decide (i.toNat < infos.length)) t.rules.devices with
  | some i => exact .fails _
  | none =>
    cases firstMissing (fun id => decide (id ∈ idsUnder .device listing)) t.rules.partitions with
    | some id => exact .fails _
    | none => exact .gives trivial

end Validate

/-! ### What a manager answers -/

/-- The answers to a call made for one index after the other, and the state after them. -/
def askEach {α : Type} (call : UInt32 → Call σ α) : List Nat → σ → List (Except DeviceError α) × σ
  | [], s => ([], s)
  | i :: is, s =>
    let answer := call (UInt32.ofNat i) s
    let rest := askEach call is answer.2
    (answer.1 :: rest.1, rest.2)

/-- What a manager answers to the calls of a build. -/
structure Answers where
  count : Except DeviceError UInt32
  /-- What the devices are, in the order of their indices. -/
  infos : List (Except DeviceError DeviceInfo)
  listing : Except DeviceError (List HierarchyEntry)
  names : Except DeviceError (List (Entity × String))

namespace Answers

/-- The number of devices, none if it is not told. -/
def total (a : Answers) : UInt32 := a.count.toOption.getD 0

/-- The entries of the listing, none if it is not told. -/
def entries (a : Answers) : List HierarchyEntry := a.listing.toOption.getD []

end Answers

/-- All calls of a build, each made in the state that the one before left behind. -/
def answers (m : DeviceManager σ) (s : σ) : Answers :=
  let count := m.deviceCount s
  let infos := askEach m.deviceInfo (List.range (count.1.toOption.getD 0).toNat) count.2
  let listing := m.hierarchy infos.2
  let names := m.resolveNames (profiled (listing.1.toOption.getD [])) listing.2
  { count := count.1, infos := infos.1, listing := listing.1, names := names.1 }

/-! ### The checks of a build -/

/-- The fault of an answer that may not be one. -/
def deviceFault {α : Type} : Except DeviceError α → Option TopologyError
  | .ok _ => none
  | .error e => some (.device e)

/-- The fault of an answer that a placeholder may stand for. -/
def infoFault (permitPlaceholders : Bool) : Except DeviceError DeviceInfo → Option TopologyError
  | .ok _ => none
  | .error e => if e.isFatal || !permitPlaceholders then some (.device e) else none

def countFault (count : UInt32) : Option TopologyError :=
  if maxDevices < count.toNat then some (.tooManyDevices count) else none

/-- The checks of a build in the order in which they are made, each with its fault if it has one. -/
def checks (rules : SelectionRules) (permitPlaceholders : Bool) (a : Answers) : List (Option TopologyError) :=
  [deviceFault a.count, countFault a.total] ++
    a.infos.map (infoFault permitPlaceholders) ++
    [deviceFault a.listing] ++
    listingFaults a.total.toNat [] a.entries ++
    [deviceFault a.names] ++
    ruleFaults a.total.toNat a.entries rules

/-! ### What is built -/

/-- What a device is taken to be after an answer. -/
def taken (index : Nat) : Except DeviceError DeviceInfo → DeviceInfo
  | .ok info => info
  | .error _ => DeviceInfo.placeholder (UInt32.ofNat index)

/-- What is built of devices, a listing and names. -/
structure Built (rules : SelectionRules) (infos : List DeviceInfo) (listing : List HierarchyEntry)
    (names : List (Entity × String)) (t : Topology) (report : BuildReport) : Prop where
  rules : t.rules = rules
  partitioning : t.partitioning = !listing.isEmpty
  forest : ∃ f, Links infos listing f ∧ attachAll { devices := infos.map fun info => { info } } listing = .ok f ∧
    f.resolve names = (t.forest, report)

theorem Built.links {rules : SelectionRules} {infos : List DeviceInfo} {listing : List HierarchyEntry}
    {names : List (Entity × String)} {t : Topology} {report : BuildReport}
    (h : Built rules infos listing names t report) : Links infos listing t.forest := by
  obtain ⟨f, hlinks, -, hresolve⟩ := h.forest
  have hforest : t.forest = (f.renameAll names).1 := (congrArg Prod.fst hresolve).symm
  rw [hforest]
  exact hlinks.of_nameless_eq (nameless_renameAll f names)

theorem call_ends {α : Type} (x : Call σ α) (s : σ) :
    Action.EndsFrom s (Action.mapFault TopologyError.device x) (fun a t => x s = (.ok a, t)) (deviceFault (x s).1) := by
  rw [Action.EndsFrom, Action.mapFault]
  rcases x s with ⟨_ | a, t⟩
  · exact .fails _
  · exact .gives (by rfl)

theorem readDevice_ends (m : DeviceManager σ) (permit : Bool) (i : Nat) (s : σ) :
    Action.EndsFrom s (Action.mapFault TopologyError.device (readDevice m permit (UInt32.ofNat i)))
      (fun info t => info = taken i (m.deviceInfo (UInt32.ofNat i) s).1 ∧ t = (m.deviceInfo (UInt32.ofNat i) s).2)
      (infoFault permit (m.deviceInfo (UInt32.ofNat i) s).1) := by
  rw [Action.EndsFrom, Action.mapFault, readDevice]
  rcases m.deviceInfo (UInt32.ofNat i) s with ⟨e | info, t⟩
  · dsimp only [infoFault]
    cases e.isFatal <;> cases permit
    · exact .fails _
    · exact .gives ⟨rfl, rfl⟩
    · exact .fails _
    · exact .fails _
  · exact .gives ⟨rfl, rfl⟩

theorem readDevices_ends (m : DeviceManager σ) (permit : Bool) (is : List Nat) (s : σ) :
    Action.EndsFrom s
      (is.mapM fun i => Action.mapFault TopologyError.device (readDevice m permit (UInt32.ofNat i)))
      (fun infos t => infos = List.zipWith taken is (askEach m.deviceInfo is s).1 ∧ t = (askEach m.deviceInfo is s).2)
      (firstFault ((askEach m.deviceInfo is s).1.map (infoFault permit))) := by
  induction is generalizing s with
  | nil => exact .pure ⟨rfl, rfl⟩
  | cons i is ih =>
    rw [List.mapM_cons, askEach, List.map_cons, firstFault_cons]
    refine (readDevice_ends m permit i s).bind ?_
    rintro info t ⟨rfl, rfl⟩
    rw [← Option.or_none (o := firstFault _)]
    refine (ih _).bind ?_
    rintro infos u ⟨rfl, rfl⟩
    exact .pure ⟨rfl, rfl⟩

theorem length_askEach {α : Type} (call : UInt32 → Call σ α) (is : List Nat) (s : σ) :
    (askEach call is s).1.length = is.length := by
  induction is generalizing s with
  | nil => rfl
  | cons i is ih =>
    rw [askEach, List.length_cons, List.length_cons, ih]

/-- With the devices known, the listing and the rules are left to be checked. -/
theorem ofDevices_ends (m : DeviceManager σ) (rules : SelectionRules) (infos : List DeviceInfo) (s : σ) :
    let listing := m.hierarchy s
    let entries := listing.1.toOption.getD []
    let names := m.resolveNames (profiled entries) listing.2
    Action.EndsFrom s (ofDevices m rules infos)
      (fun x _ => ∃ told, listing.1 = .ok entries ∧ names.1 = .ok told ∧ Built rules infos entries told x.1 x.2)
      (firstFault ([deviceFault listing.1] ++ listingFaults infos.length [] entries ++ [deviceFault names.1] ++
        ruleFaults infos.length entries rules)) := by
  intro listing entries names
  simp only [firstFault_append, firstFault_cons, firstFault_nil, Option.or_none, Option.or_assoc]
  refine (call_ends m.hierarchy s).bind fun es t hlisting => ?_
  obtain rfl : entries = es := by simp only [entries, listing, hlisting]; rfl
  obtain rfl : listing.2 = t := by simp only [listing, hlisting]
  refine (Action.EndsFrom.ofExcept ((Links.start infos).attachedAll entries).and_eq).bind ?_
  rintro f _ ⟨⟨hlinks, hattached⟩, rfl⟩
  rw [hlinks.entities_eq]
  refine (call_ends (m.resolveNames (profiled entries)) _).bind fun told u hnames => ?_
  have hrenamed := hlinks.of_nameless_eq (nameless_renameAll f told)
  rw [← Option.or_none (o := firstFault _)]
  refine (Action.EndsFrom.ofExcept (validate_ends hrenamed)).bind fun _ _ _ => ?_
  exact .pure ⟨told, congrArg Prod.fst hlisting, congrArg Prod.fst hnames, rfl, rfl, f, hlinks, hattached, rfl⟩

/-- A build ends with the first fault of its checks, and without any with a topology that is made of
    the answers. -/
theorem build_ends (m : DeviceManager σ) (rules : SelectionRules) (permit : Bool) (s : σ) :
    let a := answers m s
    Action.EndsFrom s (build m rules permit)
      (fun x _ => ∃ told, a.listing = .ok a.entries ∧ a.names = .ok told ∧
        Built rules (List.zipWith taken (List.range a.total.toNat) a.infos) a.entries told x.1 x.2)
      (firstFault (checks rules permit a)) := by
  intro a
  have hchecks : firstFault (checks rules permit a) =
      (deviceFault a.count).or ((countFault a.total).or ((firstFault (a.infos.map (infoFault permit))).or
        (firstFault ([deviceFault a.listing] ++ listingFaults a.total.toNat [] a.entries ++ [deviceFault a.names] ++
          ruleFaults a.total.toNat a.entries rules)))) := by
    simp only [checks, firstFault_append, firstFault_cons, firstFault_nil, Option.or_none, Option.or_assoc]
  rw [hchecks]
  refine (call_ends m.deviceCount s).bind fun count t hcount => ?_
  obtain rfl : a.total = count := by simp only [a, Answers.total, answers, hcount]; rfl
  obtain rfl : (m.deviceCount s).2 = t := by rw [hcount]
  rw [countFault]
  split
  · exact .fails _
  refine (readDevices_ends m permit (List.range a.total.toNat) _).bind ?_
  rintro infos u ⟨hread, rfl⟩
  have hlength : infos.length = a.total.toNat := by
    rw [hread, List.length_zipWith, length_askEach, List.length_range, Nat.min_self]
  have hdevices := ofDevices_ends m rules infos (askEach m.deviceInfo (List.range a.total.toNat) (m.deviceCount s).2).2
  rw [hlength] at hdevices
  subst hread
  exact hdevices

/-- Two devices with a partition each, listed in the reverse order, and one partition of a partition. -/
def twoDevices : DeviceManager Unit where
  connect := pure ()
  disconnect := id
  deviceCount := pure 2
  deviceInfo index := pure { index, uuid := "", model := "", supported := true }
  hierarchy := pure
    [{ parent := .device 1, entity := .partition 7, info := {} },
      { parent := .device 0, entity := .partition 4, info := {} },
      { parent := .partition 7, entity := .subPartition 4, info := {} }]
  latestValues _ _ := pure []
  createGroup _ _ := pure { number := 0 }
  destroyGroup _ := pure ()
  createFieldGroup _ _ := pure { number := 0 }
  destroyFieldGroup _ := pure ()
  watchFields _ _ _ := pure ()

end Topology
end Telemetry

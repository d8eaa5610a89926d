import Mathlib.Data.List.Forall2
import Telemetry.Proofs.Pods.Labelling
import Telemetry.Proofs.SortedMap

/-! Which keys the identifiers of a listing register, and for whom. A key stands for the container that registers
    it last. As long as no key is registered for two, the order of pods, containers, devices and identifiers does
    not matter. -/

namespace Telemetry.Attribution

variable {t : Topology} {pods pods' : List Pod} {k id : String} {h : Holder}

/-! ### Keys of an identifier -/

/-- The keys that an identifier registers: itself, or where it names a partition, the identity of the device, and
    with it the index of the first such device and the partition within it. What follows these two is not read. -/
inductive Registers (t : Topology) (id : String) : String → Prop
  | plain (hplain : ¬ "MIG-".toList <+: id.toList) : Registers t id id
  | device {u : List Char} {parts : List (List Char)} (hid : id.toList = "MIG-".toList ++ Text.join '/' (u :: parts))
    (hparts : ∀ p ∈ u :: parts, '/' ∉ p) : Registers t id (String.ofList u)
  | partition {u x : List Char} {parts : List (List Char)} {d : DeviceInfo} {before after : List DeviceInfo}
    (hid : id.toList = "MIG-".toList ++ Text.join '/' (u :: x :: parts)) (hparts : ∀ p ∈ u :: x :: parts, '/' ∉ p)
    (hdevices : t.devices = before ++ d :: after) (huuid : d.uuid = String.ofList u)
    (hfirst : ∀ d' ∈ before, d'.uuid ≠ d.uuid) : Registers t id s!"{d.index}-{String.ofList x}"

theorem after?_eq_some_iff {ps cs rest : List Char} : after? ps cs = some rest ↔ cs = ps ++ rest := by
  induction ps generalizing cs with
  | nil => simp [after?]
  | cons p ps ih =>
    cases cs with
    | nil => simp [after?]
    | cons c cs =>
      rw [after?]
      split
      · rename_i heq
        simp [ih, heq]
      · rename_i hne
        simp [Ne.symm hne]

theorem after?_eq_none_iff {ps cs : List Char} : after? ps cs = none ↔ ¬ ps <+: cs := by
  rw [Option.eq_none_iff_forall_ne_some]
  constructor
  · rintro hnone ⟨rest, hrest⟩
    exact hnone rest (after?_eq_some_iff.mpr hrest.symm)
  · rintro hprefix rest hrest
    exact hprefix ⟨rest, (after?_eq_some_iff.mp hrest).symm⟩

/-- An identifier that does not name a partition is a key itself. -/
theorem keysOf_of_plain (hplain : ¬ "MIG-".toList <+: id.toList) : keysOf t id = [id] := by
  rw [keysOf, show after? partitionMark id.toList = none from after?_eq_none_iff.mpr hplain]

/-- The identifier of a partition has the key of the device, and before it that of the partition if there is such
    a device. -/
theorem keysOf_of_parts {u : List Char} {parts : List (List Char)}
    (hid : id.toList = "MIG-".toList ++ Text.join '/' (u :: parts)) (hparts : ∀ p ∈ u :: parts, '/' ∉ p) :
    keysOf t id =
      (parts.head?.bind fun x =>
        (t.deviceByUuid? (String.ofList u)).map fun d => partitionKey d.index (String.ofList x)).toList ++
      [String.ofList u] := by
  have hafter : after? partitionMark id.toList = some (Text.join '/' (u :: parts)) := after?_eq_some_iff.mpr hid
  simp only [keysOf, hafter, Text.split_join (List.cons_ne_nil u parts) hparts]
  cases parts with
  | nil => rfl
  | cons x parts =>
    dsimp only
    cases t.deviceByUuid? (String.ofList u) with
    | none => rfl
    | some d => rfl

/-- An identifier names a partition or it does not. -/
theorem plain_or_parts (id : String) :
    ¬ "MIG-".toList <+: id.toList ∨
      ∃ u parts, id.toList = "MIG-".toList ++ Text.join '/' (u :: parts) ∧ ∀ p ∈ u :: parts, '/' ∉ p := by
  by_cases hprefix : "MIG-".toList <+: id.toList
  · obtain ⟨rest, hrest⟩ := hprefix
    obtain ⟨hne, hparts, hjoin⟩ := Text.split_eq_iff.mp (rfl : Text.split '/' rest = _)
    obtain ⟨u, parts, hsplit⟩ := List.exists_cons_of_ne_nil hne
    rw [hsplit] at hparts hjoin
    exact .inr ⟨u, parts, by rw [hjoin, hrest], hparts⟩
  · exact .inl hprefix

theorem deviceByUuid?_eq_some_iff {uuid : String} {d : DeviceInfo} :
    t.deviceByUuid? uuid = some d ↔
      d.uuid = uuid ∧ ∃ before after, t.devices = before ++ d :: after ∧ ∀ d' ∈ before, d'.uuid ≠ d.uuid := by
  rw [Topology.deviceByUuid?, List.find?_eq_some_iff_append, beq_iff_eq]
  refine and_congr_right fun huuid => ?_
  simp [huuid]

/-- The keys of an identifier are those that it registers. -/
theorem mem_keysOf_iff : k ∈ keysOf t id ↔ Registers t id k := by
  constructor
  · intro hk
    rcases plain_or_parts id with hplain | ⟨u, parts, hid, hparts⟩
    · rw [keysOf_of_plain hplain, List.mem_singleton] at hk
      rw [hk]
      exact .plain hplain
    · rw [keysOf_of_parts hid hparts, List.mem_append, List.mem_singleton, Option.mem_toList] at hk
      rcases hk with hk | rfl
      · obtain ⟨x, hx, hk⟩ := Option.bind_eq_some_iff.mp hk
        obtain ⟨d, hd, rfl⟩ := Option.map_eq_some_iff.mp hk
        obtain ⟨huuid, before, after, hdevices, hfirst⟩ := deviceByUuid?_eq_some_iff.mp hd
        obtain ⟨parts, rfl⟩ := List.head?_eq_some_iff.mp hx
        exact .partition hid hparts hdevices huuid hfirst
      · exact .device hid hparts
  · intro hk
    cases hk with
    | plain hplain => rw [keysOf_of_plain hplain, List.mem_singleton]
    | device hid hparts =>
      rw [keysOf_of_parts hid hparts]
      exact List.mem_append_right _ (List.mem_singleton_self _)
    | partition hid hparts hdevices huuid hfirst =>
      have hd := deviceByUuid?_eq_some_iff.mpr ⟨huuid, _, _, hdevices, hfirst⟩
      rw [keysOf_of_parts hid hparts, List.head?_cons, Option.bind_some, hd]
      exact List.mem_append_left _ (List.mem_singleton_self _)

/-! ### Keys of a listing -/

/-- Whether the devices of a resource count: whole devices, and partitions of any profile. -/
def Considered (resource : String) : Prop :=
  resource = "nvidia.com/gpu" ∨ "nvidia.com/mig-".toList <+: resource.toList

/-- A container registers the keys of the identifiers that count. -/
def ContainerRegisters (t : Topology) (c : Container) (k : String) : Prop :=
  ∃ a ∈ c.devices, Considered a.resource ∧ ∃ id ∈ a.ids, Registers t id k

/-- The containers of a listing, each with its pod, in the order of the listing. -/
def placed (pods : List Pod) : List (Pod × Container) := pods.flatMap fun p => p.containers.map (p, ·)

def holderOf (x : Pod × Container) : Holder :=
  { pod := x.1.name, namespaceName := x.1.namespaceName, container := x.2.name }

/-- A key is registered for a holder. -/
def Registered (t : Topology) (pods : List Pod) (k : String) (h : Holder) : Prop :=
  ∃ x ∈ placed pods, ContainerRegisters t x.2 k ∧ holderOf x = h

/-- A key is registered for a holder, and by no container that is listed later. -/
def LastRegistrant (t : Topology) (pods : List Pod) (k : String) (h : Holder) : Prop :=
  ∃ before x after, placed pods = before ++ x :: after ∧ ContainerRegisters t x.2 k ∧ holderOf x = h ∧
    ∀ y ∈ after, ¬ ContainerRegisters t y.2 k

theorem isMonitored_iff {resource : String} : isMonitored resource = true ↔ Considered resource := by
  have hprefix : (after? partitionResource resource.toList).isSome ↔ "nvidia.com/mig-".toList <+: resource.toList := by
    rw [← Option.ne_none_iff_isSome, Ne, after?_eq_none_iff, not_not]
    rfl
  rw [isMonitored, Bool.or_eq_true, beq_iff_eq, hprefix]
  rfl

theorem mem_keys_iff {c : Container} : k ∈ (idsOf c).flatMap (keysOf t) ↔ ContainerRegisters t c k := by
  simp only [idsOf, List.mem_flatMap, List.mem_filter, isMonitored_iff, mem_keysOf_iff, ContainerRegisters]
  constructor
  · rintro ⟨id, ⟨a, ⟨ha, hresource⟩, hid⟩, hk⟩
    exact ⟨a, ha, hresource, id, hid, hk⟩
  · rintro ⟨a, ha, hresource, id, hid, hk⟩
    exact ⟨id, ⟨a, ⟨ha, hresource⟩, hid⟩, hk⟩

theorem holders_eq (t : Topology) (pods : List Pod) :
    holders t pods =
      SortedMap.ofList ((placed pods).flatMap fun x => ((idsOf x.2).flatMap (keysOf t)).map (·, holderOf x)) := by
  rw [holders, entries, placed, List.flatMap_assoc, List.flatMap_assoc]
  simp only [holdersOf, List.flatMap_map]
  rfl

theorem get?_holders_eq_some_iff : (holders t pods).get? k = some h ↔ LastRegistrant t pods k h := by
  rw [holders_eq, SortedMap.get?_ofList_flatMap, Option.map_eq_some_iff]
  simp only [List.find?_eq_some_iff_append, decide_eq_true_eq, mem_keys_iff, Bool.not_eq_true', decide_eq_false_iff_not]
  -- The last registrant is the first that is found from behind.
  constructor
  · rintro ⟨x, ⟨hx, after, before, hsplit, hafter⟩, hholder⟩
    refine ⟨before.reverse, x, after.reverse, ?_, hx, hholder, fun y hy => hafter y (List.mem_reverse.mp hy)⟩
    rw [← List.reverse_inj, hsplit]
    simp
  · rintro ⟨before, x, after, hsplit, hx, hholder, hafter⟩
    refine ⟨x, ⟨hx, after.reverse, before.reverse, ?_, fun y hy => hafter y (List.mem_reverse.mp hy)⟩, hholder⟩
    rw [hsplit]
    simp

theorem LastRegistrant.registered (hlast : LastRegistrant t pods k h) : Registered t pods k h := by
  obtain ⟨before, x, after, hsplit, hx, hholder, -⟩ := hlast
  exact ⟨x, by rw [hsplit]; exact List.mem_append_right _ List.mem_cons_self, hx, hholder⟩

/-- A key that is registered at all has a last registrant. -/
theorem Registered.exists_last (hk : Registered t pods k h) : ∃ h', LastRegistrant t pods k h' := by
  obtain ⟨x, hmem, hx, -⟩ := hk
  have hsome : ((placed pods).reverse.find? fun x => k ∈ (idsOf x.2).flatMap (keysOf t)).isSome :=
    List.find?_isSome.mpr ⟨x, List.mem_reverse.mpr hmem, decide_eq_true (mem_keys_iff.mpr hx)⟩
  obtain ⟨y, hy⟩ := Option.isSome_iff_exists.mp hsome
  refine ⟨holderOf y, get?_holders_eq_some_iff.mp ?_⟩
  rw [holders_eq, SortedMap.get?_ofList_flatMap, hy, Option.map_some]

/-! ### Listings in another order -/

/-- The same things in another order, each replaced by a related one. -/
def Reorders {α : Type} (R : α → α → Prop) (l l' : List α) : Prop := ∃ mid, l.Perm mid ∧ List.Forall₂ R mid l'

theorem Reorders.exists_iff {α : Type} {R : α → α → Prop} {l l' : List α} {P Q : α → Prop} (hl : Reorders R l l')
    (hR : ∀ x y, R x y → (P x ↔ Q y)) : (∃ x ∈ l, P x) ↔ ∃ y ∈ l', Q y := by
  obtain ⟨mid, hperm, hrelated⟩ := hl
  simp only [hperm.mem_iff]
  clear hperm
  induction hrelated with
  | nil => simp
  | cons hxy _ ih => simp [hR _ _ hxy, ih]

structure SameAllocation (a a' : Allocation) : Prop where
  resource : a.resource = a'.resource
  ids : a.ids.Perm a'.ids

structure SameContainer (c c' : Container) : Prop where
  name : c.name = c'.name
  devices : Reorders SameAllocation c.devices c'.devices

structure SamePod (p p' : Pod) : Prop where
  name : p.name = p'.name
  namespaceName : p.namespaceName = p'.namespaceName
  containers : Reorders SameContainer p.containers p'.containers

/-- A listing with its pods, their containers, the devices of these and their identifiers in another order. -/
def Reordered (pods pods' : List Pod) : Prop := Reorders SamePod pods pods'

theorem SameContainer.registers_iff {c c' : Container} (hc : SameContainer c c') :
    ContainerRegisters t c k ↔ ContainerRegisters t c' k := by
  refine hc.devices.exists_iff fun a a' ha => ?_
  simp only [ha.resource, ha.ids.mem_iff]

theorem registered_iff : Registered t pods k h ↔
    ∃ p ∈ pods, ∃ c ∈ p.containers, ContainerRegisters t c k ∧ holderOf (p, c) = h := by
  simp only [Registered, placed, List.mem_flatMap, List.mem_map]
  constructor
  · rintro ⟨_, ⟨p, hp, c, hc, rfl⟩, hk⟩
    exact ⟨p, hp, c, hc, hk⟩
  · rintro ⟨p, hp, c, hc, hk⟩
    exact ⟨(p, c), ⟨p, hp, c, hc, rfl⟩, hk⟩

theorem Reordered.registered_iff (hpods : Reordered pods pods') :
    Registered t pods k h ↔ Registered t pods' k h := by
  rw [Attribution.registered_iff, Attribution.registered_iff]
  refine hpods.exists_iff fun p p' hp => hp.containers.exists_iff fun c c' hc => ?_
  rw [hc.registers_iff, holderOf, holderOf, hp.name, hp.namespaceName, hc.name]

/-- No key is registered for two holders. -/
def Undisputed (t : Topology) (pods : List Pod) : Prop :=
  ∀ k h h', Registered t pods k h → Registered t pods k h' → h = h'

theorem Undisputed.last_iff (hpods : Undisputed t pods) : LastRegistrant t pods k h ↔ Registered t pods k h := by
  refine ⟨LastRegistrant.registered, fun hk => ?_⟩
  obtain ⟨h', hlast⟩ := hk.exists_last
  rwa [hpods k h h' hk hlast.registered]

theorem Undisputed.holders_eq (hpods : Undisputed t pods) (hreordered : Reordered pods pods') :
    holders t pods' = holders t pods := by
  have hpods' : Undisputed t pods' := fun k h h' hk hk' =>
    hpods k h h' (hreordered.registered_iff.mpr hk) (hreordered.registered_iff.mpr hk')
  refine SortedMap.ext_get? fun k => Option.ext fun h => ?_
  rw [get?_holders_eq_some_iff, get?_holders_eq_some_iff, hpods.last_iff, hpods'.last_iff, hreordered.registered_iff]

/-! ### Labels -/

/-- The key of a metric: device and partition where it has the labels of one, otherwise the identity or the name
    of its device. -/
inductive HasKey (type : IdType) (a : Metric) : String → Prop
  | partition {p : PartitionLabels} (hp : a.partition = some p) : HasKey type a s!"{a.gpu}-{p.instanceId}"
  | uid (hnone : a.partition = none) (htype : type = .uid) : HasKey type a a.uuid
  | deviceName (hnone : a.partition = none) (htype : type = .deviceName) : HasKey type a a.device

theorem hasKey_iff {type : IdType} {a : Metric} : HasKey type a k ↔ k = keyOf type a := by
  constructor
  · rintro (hp | ⟨hnone, rfl⟩ | ⟨hnone, rfl⟩)
    · simp only [keyOf, hp]
    · simp only [keyOf, hnone]
    · simp only [keyOf, hnone]
  · intro hk
    cases hp : a.partition with
    | some p =>
      simp only [keyOf, hp] at hk
      rw [hk]
      exact .partition hp
    | none =>
      simp only [keyOf, hp] at hk
      rw [hk]
      cases type with
      | uid => exact .uid hp rfl
      | deviceName => exact .deviceName hp rfl

/-- What follows device and partition in an identifier has no effect. -/
theorem registers_of_more {u x rest : List Char} (hu : '/' ∉ u) (hx : '/' ∉ x) :
    Registers t (String.ofList ("MIG-".toList ++ u ++ '/' :: x ++ '/' :: rest)) k ↔
      Registers t (String.ofList ("MIG-".toList ++ u ++ '/' :: x)) k := by
  obtain ⟨hne, hrest, hjoin⟩ := Text.split_eq_iff.mp (rfl : Text.split '/' rest = _)
  have hmore : (String.ofList ("MIG-".toList ++ u ++ '/' :: x ++ '/' :: rest)).toList =
      "MIG-".toList ++ Text.join '/' (u :: x :: Text.split '/' rest) := by
    simp [Text.join_cons, hne, hjoin]
  have hless : (String.ofList ("MIG-".toList ++ u ++ '/' :: x)).toList = "MIG-".toList ++ Text.join '/' [u, x] := by
    simp [Text.join]
  rw [← mem_keysOf_iff, ← mem_keysOf_iff, keysOf_of_parts hmore (by simpa [hu, hx] using hrest),
    keysOf_of_parts hless (by simp [hu, hx])]
  rfl

/-- The keys of a listing are those that its identifiers register, each for the container that registers it last,
    and what an identifier has behind device and partition is not read. Labelling gives a metric the labels of that
    container if its key is registered, and otherwise leaves it as it is. If no key is registered for two
    containers, the listing may have any order. -/
theorem labels_last_registrants {σ : Type} {list : Action σ Report PodListing} {s u : σ}
    (hlist : list s = (.ok (some pods), u)) (t : Topology) (type : IdType) (style : LabelStyle) :
    (∀ k h, (holders t pods).get? k = some h ↔ LastRegistrant t pods k h) ∧
    (∀ k, ((holders t pods).get? k).isSome ↔ ∃ h, Registered t pods k h) ∧
    (∀ {u x : List Char} (rest : List Char), '/' ∉ u → '/' ∉ x → ∀ k,
      Registers t (String.ofList ("MIG-".toList ++ u ++ '/' :: x ++ '/' :: rest)) k ↔
        Registers t (String.ofList ("MIG-".toList ++ u ++ '/' :: x)) k) ∧
    (∀ metrics, (transform list type style).process t (metrics, s) =
      (.ok (), (metrics.map fun row => row.map (labelled type style (holders t pods)), u))) ∧
    (∀ a k, HasKey type a k →
      let a' := labelled type style (holders t pods) a
      Annotated style a a' ∧ (∀ h, LastRegistrant t pods k h → Carries style h a') ∧
        ((¬ ∃ h, Registered t pods k h) → a' = a) ∧
        (a.attributes.get? (labelNames style).1 = none → ∀ h, Carries style h a' ↔ LastRegistrant t pods k h)) ∧
    (Undisputed t pods → ∀ pods', Reordered pods pods' → holders t pods' = holders t pods ∧
      ∀ list' : Action σ Report PodListing, list' s = (.ok (some pods'), u) → ∀ metrics,
        (transform list' type style).process t (metrics, s) = (transform list type style).process t (metrics, s)) := by
  have hsome (k : String) : ((holders t pods).get? k).isSome ↔ ∃ h, Registered t pods k h := by
    simp only [Option.isSome_iff_exists, get?_holders_eq_some_iff]
    exact ⟨fun ⟨h, hlast⟩ => ⟨h, hlast.registered⟩, fun ⟨h, hk⟩ => hk.exists_last⟩
  refine ⟨fun k h => get?_holders_eq_some_iff, hsome, fun rest hu hx k => registers_of_more hu hx,
    fun metrics => process_of_listing hlist, ?labels, ?order⟩
  case labels =>
    intro a k hkey a'
    obtain rfl := hasKey_iff.mp hkey
    refine ⟨annotated_labelled type style _ a, fun h hlast => ?_, fun hnone => ?_, fun hbare h => ?_⟩
    · have hlabel : a' = label style h a := labelled_of_some (get?_holders_eq_some_iff.mpr hlast)
      rw [hlabel]
      exact carries_label style h a
    · rw [← hsome, Option.not_isSome_iff_eq_none] at hnone
      exact labelled_of_none hnone
    · rw [carries_labelled_iff hbare, get?_holders_eq_some_iff]
  case order =>
    intro hundisputed pods' hreordered
    have hholders := hundisputed.holders_eq hreordered
    refine ⟨hholders, fun list' hlist' metrics => ?_⟩
    rw [process_of_listing hlist, process_of_listing hlist', hholders]

/-- A device, of which a topology knows no partitions. -/
def soleDevice : Topology where
  forest := { devices := [{ info := { index := 0, uuid := "GPU-a", model := "test", supported := true } }] }
  partitioning := false
  rules := .flex

/-- Two pods that hold partitions of one device. -/
def sharedDevice : List Pod :=
  [{ name := "web", namespaceName := "ml"
     containers :=
       [{ name := "main", devices := [{ resource := "nvidia.com/mig-1g.5gb", ids := ["MIG-GPU-a/1/0"] }] }] },
    { name := "batch", namespaceName := "ml"
      containers := [{ name := "main", devices := [{ resource := "nvidia.com/gpu", ids := ["MIG-GPU-a/2/0"] }] }] }]

/-- Both register the device, which is that of the later one, and each its own partition. -/
theorem labels_last_registrants_sharedDevice :
    let list : Action Unit Report PodListing := fun s => (.ok (some sharedDevice), s)
    let web : Holder := { pod := "web", namespaceName := "ml", container := "main" }
    let batch : Holder := { pod := "batch", namespaceName := "ml", container := "main" }
    list () = (.ok (some sharedDevice), ()) ∧ LastRegistrant soleDevice sharedDevice "0-1" web ∧
      LastRegistrant soleDevice sharedDevice "0-2" batch ∧ LastRegistrant soleDevice sharedDevice "GPU-a" batch := by
  intro list web batch
  have hlist : list () = (.ok (some sharedDevice), ()) := rfl
  obtain ⟨hholders, -⟩ := labels_last_registrants hlist soleDevice .uid .current
  exact ⟨hlist, (hholders "0-1" web).mp (by decide), (hholders "0-2" batch).mp (by decide),
    (hholders "GPU-a" batch).mp (by decide)⟩

end Telemetry.Attribution

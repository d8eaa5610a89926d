import Mathlib.Data.List.Nodup
import Telemetry.Proofs.Collector.Rows
import Telemetry.Proofs.Numeral
import Telemetry.Proofs.Pods.Registering

/-! Whose labels the metrics of partitions get. The key of a partition with a profile is registered by the
    identifiers of that partition alone. Without a profile the key is that of the whole device, which the
    identifiers of all its partitions register, so such a metric may get the labels of another one's container. -/

namespace Telemetry.Attribution

variable {t : Topology} {k : String}

/-! ### Identifiers -/

/-- A container has the identifier, for a resource that counts. -/
def Lists (c : Container) (id : String) : Prop := ∃ a ∈ c.devices, Considered a.resource ∧ id ∈ a.ids

/-- The identifier of something within a device or within a partition of it, which has this path. -/
def Within (path id : String) : Prop := ∃ rest, id.toList = "MIG-".toList ++ path.toList ++ '/' :: rest

theorem lists_iff {c : Container} {id : String} : Lists c id ↔ id ∈ idsOf c := by
  simp only [Lists, idsOf, List.mem_flatMap, List.mem_filter, isMonitored_iff, and_assoc]

instance (path id : String) : Decidable (Within path id) :=
  decidable_of_iff ((after? ("MIG-".toList ++ path.toList ++ ['/']) id.toList).isSome = true) <| by
    simp only [Option.isSome_iff_exists, after?_eq_some_iff, Within, List.append_assoc, List.singleton_append]

/-- The identifiers of devices, and of what is within their numbered partitions. -/
inductive Identifies (t : Topology) : String → Prop
  | device {d : DeviceInfo} (hd : d ∈ t.devices) : Identifies t d.uuid
  | within {id number : String} {d : DeviceInfo} (hd : d ∈ t.devices) (hnumber : ∀ c ∈ number.toList, c.isDigit = true)
    (hwithin : Within s!"{d.uuid}/{number}" id) : Identifies t id

/-- The identities of devices are marked as such. -/
def Marked (t : Topology) : Prop := ∀ d ∈ t.devices, "GPU-".toList <+: d.uuid.toList

section Keys
variable {id x : String} {i : UInt32} {d : DeviceInfo}

theorem toList_partitionKey (i : UInt32) (x : String) :
    s!"{i}-{x}".toList = (toString i).toList ++ '-' :: x.toList := by
  have happend : s!"{i}-{x}" = toString i ++ "-" ++ x := rfl
  simp [happend]

theorem toList_path (x y : String) : s!"{x}/{y}".toList = x.toList ++ '/' :: y.toList := by
  have happend : s!"{x}/{y}" = x ++ "/" ++ y := rfl
  simp [happend]

theorem partitionKey_inj {j : UInt32} {y : String} (h : s!"{i}-{x}" = s!"{j}-{y}") : i = j ∧ x = y := by
  have hdash (n : UInt32) : '-' ∉ (toString n).toList := fun hmem => by
    have hdigit := Numeral.isDigit_of_mem_toString hmem
    simp [Char.isDigit] at hdigit
  have hlist := congrArg String.toList h
  rw [toList_partitionKey, toList_partitionKey] at hlist
  have hindex : (toString i).toList = (toString j).toList := by
    have hsplit := congrArg (Text.split '-') hlist
    rw [Text.split_append (hdash i), Text.split_append (hdash j)] at hsplit
    exact (List.cons.inj hsplit).1
  rw [hindex, List.append_cancel_left_eq, List.cons.injEq, String.toList_inj] at hlist
  exact ⟨Numeral.toString_inj.mp (String.toList_inj.mp hindex), hlist.2⟩

/-- The key of a partition begins with a digit. -/
theorem partitionKey_ne {c : Char} {cs rest : List Char} (hc : c.isDigit = false) (hdash : c ≠ '-') :
    s!"{i}-{x}".toList ++ rest ≠ c :: cs := by
  rw [toList_partitionKey]
  cases hdigits : (toString i).toList with
  | nil =>
    intro h
    exact hdash (List.cons.inj h).1.symm
  | cons d ds =>
    have hd : d.isDigit = true := Numeral.isDigit_of_mem_toString (i := i) (by rw [hdigits]; exact List.mem_cons_self)
    intro h
    rw [(List.cons.inj h).1, hc] at hd
    cases hd

theorem Identifies.device_of_plain (hid : Identifies t id) (hplain : ¬ "MIG-".toList <+: id.toList) :
    ∃ d ∈ t.devices, id = d.uuid := by
  cases hid with
  | device hd => exact ⟨_, hd, rfl⟩
  | within _ _ hwithin =>
    obtain ⟨rest, hrest⟩ := hwithin
    exact absurd ⟨_, by rw [hrest, List.append_assoc]⟩ hplain

/-- What has the mark of partitions goes on with that of devices, and has at least two slashes. -/
theorem Identifies.of_mig {cs : List Char} (hid : Identifies t id) (hmarked : Marked t)
    (hmig : id.toList = "MIG-".toList ++ cs) : "GPU-".toList <+: cs ∧ 2 ≤ cs.count '/' := by
  cases hid with
  | device hd =>
    obtain ⟨rest, hrest⟩ := hmarked _ hd
    rw [← hrest] at hmig
    have hmark : 'G' = 'M' := (List.cons.inj hmig).1
    simp at hmark
  | within hd _ hwithin =>
    obtain ⟨rest, hrest⟩ := hwithin
    rw [hrest, List.append_assoc, List.append_cancel_left_eq, toList_path] at hmig
    obtain ⟨tail, htail⟩ := hmarked _ hd
    rw [← hmig]
    refine ⟨⟨_, by rw [← htail, List.append_assoc, List.append_assoc]⟩, ?_⟩
    simp only [List.count_append, List.count_cons_self]
    omega

/-- An identifier has keys of two kinds: one that begins as devices do, for which it is that device or within it,
    and that of the partition that it is within. -/
theorem Identifies.cases_registers (hid : Identifies t id) (hmarked : Marked t) (hk : Registers t id k) :
    ((∃ rest, "GPU-".toList <+: k.toList ++ rest) ∧ (id = k ∨ Within k id)) ∨
      ∃ d ∈ t.devices, ∃ x : String, k = s!"{d.index}-{x}" ∧ Within s!"{d.uuid}/{x}" id := by
  cases hk with
  | plain hplain =>
    obtain ⟨d, hd, rfl⟩ := hid.device_of_plain hplain
    exact .inl ⟨⟨[], by rw [List.append_nil]; exact hmarked d hd⟩, .inl rfl⟩
  | @device u parts hmig hparts =>
    obtain ⟨hgpu, hslashes⟩ := hid.of_mig hmarked hmig
    -- With its two slashes the identifier has a partition behind the device, and more behind that.
    cases parts with
    | nil =>
      have hu : u.count '/' = 0 := List.count_eq_zero.mpr (hparts u List.mem_cons_self)
      simp [Text.join, hu] at hslashes
    | cons y parts =>
      rw [Text.join_cons (List.cons_ne_nil y parts)] at hgpu hmig
      refine .inl ⟨⟨'/' :: Text.join '/' (y :: parts), ?_⟩, .inr ⟨Text.join '/' (y :: parts), ?_⟩⟩
      · rwa [String.toList_ofList (l := u)]
      · rw [hmig, String.toList_ofList (l := u), List.append_assoc]
  | @partition u x parts d before after hmig hparts hdevices huuid hfirst =>
    refine .inr ⟨d, by rw [hdevices]; exact List.mem_append_right _ List.mem_cons_self, String.ofList x, rfl, ?_⟩
    cases parts with
    | nil =>
      obtain ⟨-, hslashes⟩ := hid.of_mig hmarked hmig
      have hu : u.count '/' = 0 := List.count_eq_zero.mpr (hparts u List.mem_cons_self)
      have hx : x.count '/' = 0 := List.count_eq_zero.mpr (hparts x (List.mem_cons_of_mem _ List.mem_cons_self))
      simp [Text.join, hu, hx] at hslashes
    | cons y parts =>
      rw [Text.join_cons (List.cons_ne_nil x _), Text.join_cons (List.cons_ne_nil y parts)] at hmig
      refine ⟨Text.join '/' (y :: parts), ?_⟩
      rw [hmig, toList_path, huuid, String.toList_ofList, String.toList_ofList]
      simp

end Keys

/-! ### Metrics of partitions -/

section Metrics
variable {pods : List Pod} {type : IdType} {style : LabelStyle} {a : Metric} {i : UInt32} {d : DeviceInfo}

/-- Every container of the listing has only identifiers of devices and of what is within their partitions. -/
def Proper (t : Topology) (pods : List Pod) : Prop := ∀ x ∈ placed pods, ∀ id, Lists x.2 id → Identifies t id

theorem proper_iff : Proper t pods ↔ ∀ id ∈ (placed pods).flatMap (fun x => idsOf x.2), Identifies t id := by
  simp only [Proper, lists_iff, List.mem_flatMap, forall_exists_index, and_imp]
  exact ⟨fun h id x hx hid => h x hx id hid, fun h x hx id hid => h id x hx hid⟩

/-- Labelling leaves a metric as it is, or gives it the labels of a container that registers its key. -/
theorem labelled_cases (hbare : a.attributes = SortedMap.empty) (hkey : HasKey type a k) :
    labelled type style (holders t pods) a = a ∨
      ∃ x ∈ placed pods, Carries style (holderOf x) (labelled type style (holders t pods) a) ∧
        ∃ id, Lists x.2 id ∧ Registers t id k := by
  obtain rfl := hasKey_iff.mp hkey
  cases hh : (holders t pods).get? (keyOf type a) with
  | none => exact .inl (labelled_of_none hh)
  | some h =>
    obtain ⟨x, hx, hregisters, rfl⟩ := (get?_holders_eq_some_iff.mp hh).registered
    obtain ⟨l, hl, hresource, id, hid, hk⟩ := hregisters
    have hnone : a.attributes.get? (labelNames style).1 = none := by rw [hbare, SortedMap.get?_empty]
    exact .inr ⟨x, hx, (carries_labelled_iff hnone).mpr hh, id, ⟨l, hl, hresource, hid⟩, hk⟩

theorem within_of_registers_partitionKey {id x : String} (hmarked : Marked t) (hid : Identifies t id)
    (hk : Registers t id s!"{i}-{x}") : ∃ d ∈ t.devices, d.index = i ∧ Within s!"{d.uuid}/{x}" id := by
  rcases hid.cases_registers hmarked hk with ⟨⟨rest, tail, hgpu⟩, -⟩ | ⟨d, hd, y, hkey, hwithin⟩
  · exact absurd hgpu.symm (partitionKey_ne (by decide) (by decide))
  · obtain ⟨rfl, rfl⟩ := partitionKey_inj hkey
    exact ⟨d, hd, rfl, hwithin⟩

theorem eq_or_within_of_registers_uuid {id : String} (hmarked : Marked t) (hid : Identifies t id) (hd : d ∈ t.devices)
    (hk : Registers t id d.uuid) : id = d.uuid ∨ Within d.uuid id := by
  rcases hid.cases_registers hmarked hk with ⟨-, heq⟩ | ⟨other, -, y, hkey, -⟩
  · exact heq
  · obtain ⟨tail, hgpu⟩ := hmarked d hd
    rw [hkey, ← List.append_nil s!"{other.index}-{y}".toList] at hgpu
    exact absurd hgpu.symm (partitionKey_ne (by decide) (by decide))

theorem not_registers_deviceName {id : String} (hmarked : Marked t) (hid : Identifies t id) :
    ¬ Registers t id s!"nvidia{i}" := by
  have hname : s!"nvidia{i}".toList = "nvidia".toList ++ (toString i).toList := String.toList_append ..
  intro hk
  rcases hid.cases_registers hmarked hk with ⟨⟨rest, tail, hgpu⟩, -⟩ | ⟨other, -, y, hkey, -⟩
  · rw [hname] at hgpu
    have hmark : 'G' = 'n' := (List.cons.inj hgpu).1
    simp at hmark
  · rw [hkey, ← List.append_nil s!"{other.index}-{y}".toList] at hname
    exact absurd hname (partitionKey_ne (by decide) (by decide))

end Metrics

/-- What pod labels the metrics of partitions get. Labelling leaves such a metric as it is, or gives it the labels of
    a container that lists an identifier for it: one of the partition, where this has a profile, and otherwise one of
    the device or of anything within it. The device is that of the partition, unless there are others with its index. -/
theorem labels_of_partitions {σ : Type} {m : DeviceManager σ} {counters : List Counter} {options : CollectorOptions}
    {c : Collector} {s₀ s₁ s₂ s₃ u : σ} {metrics : MetricSet} {pods : List Pod} {list : Action σ Report PodListing}
    (hstart : Collector.start m t counters options s₀ = (.ok c, s₁)) (hpass : c.collect m s₂ = (.ok metrics, s₃))
    (hlist : list s₃ = (.ok (some pods), u)) (hmarked : Marked t) (hproper : Proper t pods) (type : IdType)
    (style : LabelStyle) :
    ∃ f : Metric → Metric,
      (transform list type style).process t (metrics, s₃) = (.ok (), (metrics.map fun row => row.map f, u)) ∧
      ∀ e row, (e, row) ∈ c.entities.zip metrics → ∀ p, e.partition = some p → ∀ a ∈ row,
        f a = a ∨ ∃ x ∈ placed pods, Carries style (holderOf x) (f a) ∧ ∃ id, Lists x.2 id ∧
          ((p.profile ≠ "" ∧ ∃ d ∈ t.devices, d.index = e.device.index ∧
              ((t.devices.map DeviceInfo.index).Nodup → d = e.device) ∧ Within s!"{d.uuid}/{p.instanceId}" id) ∨
            (p.profile = "" ∧ type = .uid ∧ (id = e.device.uuid ∨ Within e.device.uuid id))) := by
  refine ⟨_, process_of_listing hlist, fun e row hrow p hp a ha => ?_⟩
  obtain ⟨hselected, -, -⟩ := Collector.start_eq_ok hstart
  have hdevice : e.device ∈ t.devices :=
    (Topology.offers_of_selected hselected e (List.of_mem_zip hrow).1).device_mem
  obtain ⟨counter, -, v, hshows⟩ := Collector.exists_shows_of_mem_zip hpass hrow ha
  by_cases hprofile : p.profile = ""
  · have hnone := hshows.partition_of_nameless hp hprofile
    cases type with
    | uid =>
      refine (labelled_cases hshows.attributes (.uid hnone rfl)).imp_right ?_
      rintro ⟨x, hx, hcarries, id, hid, hk⟩
      rw [hshows.uuid] at hk
      exact ⟨x, hx, hcarries, id, hid,
        .inr ⟨hprofile, rfl, eq_or_within_of_registers_uuid hmarked (hproper x hx id hid) hdevice hk⟩⟩
    | deviceName =>
      -- No identifier registers the name of a device, so the metric stays as it is.
      refine (labelled_cases hshows.attributes (.deviceName hnone rfl)).imp_right ?_
      rintro ⟨x, hx, -, id, hid, hk⟩
      rw [hshows.device] at hk
      exact absurd hk (not_registers_deviceName hmarked (hproper x hx id hid))
  · have hsome := hshows.partition_of_named hp hprofile
    refine (labelled_cases hshows.attributes (.partition hsome)).imp_right ?_
    rintro ⟨x, hx, hcarries, id, hid, hk⟩
    rw [hshows.gpu] at hk
    obtain ⟨d, hd, hindex, hwithin⟩ := within_of_registers_partitionKey hmarked (hproper x hx id hid) hk
    have hsame (hnodup : (t.devices.map DeviceInfo.index).Nodup) : d = e.device :=
      List.inj_on_of_nodup_map hnodup hd hdevice hindex
    exact ⟨x, hx, hcarries, id, hid, .inl ⟨hprofile, d, hd, hindex, hsame, hwithin⟩⟩

/-- A device with two partitions of a profile, one of which is selected. -/
def halves (profile : String) : Topology where
  forest :=
    { devices := [{ info := { index := 0, uuid := "GPU-a", model := "test", supported := true }, partitions := [0, 1] }]
      partitions :=
        [{ id := 7, device := 0, info := { instanceId := 1 }, profile },
          { id := 9, device := 0, info := { instanceId := 2 }, profile }]
      partitionSlots := [(9, 1), (7, 0)] }
  partitioning := true
  rules := .explicit none (some (.indices [7]))

def oneReading : Script where
  values := [.ok [{ type := .int64, value := .int64 42 }]]

theorem marked_halves (profile : String) : Marked (halves profile) :=
  List.forall_mem_singleton.mpr (by decide : "GPU-".toList <+: "GPU-a".toList)

theorem proper_halves (profile : String) : Proper (halves profile) sharedDevice := by
  have hids : ((placed sharedDevice).flatMap fun x => idsOf x.2) = ["MIG-GPU-a/1/0", "MIG-GPU-a/2/0"] := by decide
  rw [proper_iff, hids, List.forall_mem_cons, List.forall_mem_singleton]
  exact ⟨@Identifies.within _ _ "1" _ (List.mem_singleton_self _) (List.forall_mem_singleton.mpr rfl) (by decide),
    @Identifies.within _ _ "2" _ (List.mem_singleton_self _) (List.forall_mem_singleton.mpr rfl) (by decide)⟩

/-- With a profile, the metric of the partition gets the labels of the container that has the partition. -/
theorem labels_of_partitions_halves :
    let list : Action Nat Report PodListing := fun s => (.ok (some sharedDevice), s)
    ∃ c s₁ metrics s₃ a,
      Collector.start oneReading.manager (halves "1g.5gb") [Collector.temperature] {} 0 = (.ok c, s₁) ∧
      c.collect oneReading.manager 0 = (.ok metrics, s₃) ∧ list s₃ = (.ok (some sharedDevice), s₃) ∧
      Marked (halves "1g.5gb") ∧ Proper (halves "1g.5gb") sharedDevice ∧
      (transform list .uid .current).process (halves "1g.5gb") (metrics, s₃) = (.ok (), ([[a]], s₃)) ∧
      ∃ x ∈ placed sharedDevice, Carries .current (holderOf x) a ∧ ∃ id, Lists x.2 id ∧ Within "GPU-a/1" id := by
  intro list
  obtain ⟨c, s₁, e, p, hstart, hentities, hpartition, hindex⟩ : ∃ c s₁ e p,
      Collector.start oneReading.manager (halves "1g.5gb") [Collector.temperature] {} 0 = (.ok c, s₁) ∧
        c.entities = [e] ∧ e.partition = some p ∧ p = { id := 7, instanceId := 1, profile := "1g.5gb" } :=
    ⟨_, _, _, _, rfl, rfl, rfl, rfl⟩
  obtain ⟨a, s₃, hpass, hchanged⟩ : ∃ a s₃, c.collect oneReading.manager 0 = (.ok [[a]], s₃) ∧
      labelled .uid .current (holders (halves "1g.5gb") sharedDevice) a ≠ a := by
    cases hstart
    exact ⟨_, _, rfl, by decide⟩
  have hlist : list s₃ = (.ok (some sharedDevice), s₃) := rfl
  obtain ⟨f, hprocess, hlabels⟩ :=
    labels_of_partitions hstart hpass hlist (marked_halves _) (proper_halves _) .uid .current
  have hf : labelled .uid .current (holders (halves "1g.5gb") sharedDevice) a = f a := by
    have hshown := (Prod.mk.inj (Prod.mk.inj ((process_of_listing hlist).symm.trans hprocess)).2).1
    exact (List.cons.inj (List.cons.inj hshown).1).1
  rw [hf] at hchanged
  have hrow : (e, [a]) ∈ c.entities.zip [[a]] := by
    rw [hentities]
    exact List.mem_singleton_self _
  rcases hlabels e [a] hrow p hpartition a (List.mem_singleton_self a) with hsame | ⟨x, hx, hcarries, id, hid, hheld⟩
  · exact absurd hsame hchanged
  rcases hheld with ⟨-, d, hd, -, -, hwithin⟩ | ⟨hempty, -⟩
  · obtain rfl := List.mem_singleton.mp hd
    rw [hindex] at hwithin
    exact ⟨c, s₁, _, s₃, _, hstart, hpass, hlist, marked_halves _, proper_halves _, hprocess, x, hx, hcarries, id, hid,
      hwithin⟩
  · rw [hindex] at hempty
    exact absurd hempty (by decide)

/-- A pass and its labelling after which the metric of a partition names a container that lists neither the partition
    nor its device. -/
def Mislabels (t : Topology) (pods : List Pod) : Prop :=
  ∃ c s₁ metrics s₃ shown e row p a h,
    Collector.start oneReading.manager t [Collector.temperature] {} 0 = (.ok c, s₁) ∧
    c.collect oneReading.manager 0 = (.ok metrics, s₃) ∧
    (transform (fun s => (.ok (some pods), s)) .uid .current).process t (metrics, s₃) = (.ok (), (shown, s₃)) ∧
    (e, row) ∈ c.entities.zip shown ∧ e.partition = some p ∧ a ∈ row ∧ Carries .current h a ∧
    ∀ x ∈ placed pods, holderOf x = h → ∀ id, Lists x.2 id →
      id ≠ e.device.uuid ∧ ¬ Within s!"{e.device.uuid}/{p.instanceId}" id

/-- Two devices of one index, with a partition of the first. -/
def twins : Topology where
  forest :=
    { devices :=
        [{ info := { index := 0, uuid := "GPU-a", model := "test", supported := true }, partitions := [0] },
          { info := { index := 0, uuid := "GPU-b", model := "test", supported := true } }]
      partitions := [{ id := 7, device := 0, info := { instanceId := 1 }, profile := "1g.5gb" }]
      partitionSlots := [(7, 0)] }
  partitioning := true
  rules := .explicit none (some (.indices [7]))

/-- A pod that holds a partition of the second device. -/
def otherDevice : List Pod :=
  [{ name := "web", namespaceName := "ml"
     containers := [{ name := "main", devices := [{ resource := "nvidia.com/gpu", ids := ["MIG-GPU-b/1/0"] }] }] }]

/-- Without a profile, the metric of a partition goes to the pod that has the other one; and where devices have one
    index, to a pod that has a partition of the other device. -/
theorem labels_of_partitions_strayed :
    (Marked (halves "") ∧ ((halves "").devices.map DeviceInfo.uuid).Nodup ∧ Proper (halves "") sharedDevice ∧
      Mislabels (halves "") sharedDevice) ∧
    (Marked twins ∧ (twins.devices.map DeviceInfo.uuid).Nodup ∧ Proper twins otherDevice ∧
      Mislabels twins otherDevice) := by
  refine ⟨⟨marked_halves _, by decide, proper_halves _, ?_⟩, ?_, by decide, ?_, ?_⟩
  · refine ⟨_, _, _, _, _, _, _, _, _, { pod := "batch", namespaceName := "ml", container := "main" }, rfl, rfl, rfl,
      List.mem_singleton_self _, rfl, List.mem_singleton_self _, ⟨by decide, by decide, by decide⟩, ?_⟩
    simp only [lists_iff]
    decide
  · exact List.forall_mem_cons.mpr ⟨(by decide : "GPU-".toList <+: "GPU-a".toList),
      List.forall_mem_singleton.mpr (by decide : "GPU-".toList <+: "GPU-b".toList)⟩
  · have hids : ((placed otherDevice).flatMap fun x => idsOf x.2) = ["MIG-GPU-b/1/0"] := by decide
    rw [proper_iff, hids, List.forall_mem_singleton]
    exact @Identifies.within _ _ "1" _ (List.mem_cons_of_mem _ (List.mem_singleton_self _))
      (List.forall_mem_singleton.mpr rfl) (by decide)
  · refine ⟨_, _, _, _, _, _, _, _, _, { pod := "web", namespaceName := "ml", container := "main" }, rfl, rfl, rfl,
      List.mem_singleton_self _, rfl, List.mem_singleton_self _, ⟨by decide, by decide, by decide⟩, ?_⟩
    simp only [lists_iff]
    decide

end Telemetry.Attribution

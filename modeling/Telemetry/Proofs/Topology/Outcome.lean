import Telemetry.Proofs.Topology.Building

/-! The outcome of a build: it fails if and only if one of its checks does, and then with the first fault
    in their order. Of rules with ascending indices, the fault names the smallest one that is missing. -/

namespace Telemetry

/-- The indices that a rule lists one by one. -/
def Selection.listed : Option Selection → List UInt32
  | some (.indices is) => is
  | _ => []

namespace Topology
open Selection (listed)

variable {σ : Type}

/-! ### Missing indices -/

/-- The smallest of the listed indices that are not there. -/
def SmallestMissing (there : UInt32 → Prop) (sel : Option Selection) (i : UInt32) : Prop :=
  i ∈ listed sel ∧ ¬there i ∧ ∀ j ∈ listed sel, ¬there j → i ≤ j

section Missing
variable {there : UInt32 → Prop} [DecidablePred there] {sel : Option Selection} {i : UInt32}

theorem firstMissing_eq_find? (found : UInt32 → Bool) (sel : Option Selection) :
    firstMissing found sel = (listed sel).find? fun i => !found i := by
  cases sel with
  | none => rfl
  | some sel => cases sel <;> rfl

theorem smallestMissing_of_firstMissing (hasc : (listed sel).Pairwise (· < ·))
    (h : firstMissing (fun i => decide (there i)) sel = some i) : SmallestMissing there sel i := by
  rw [firstMissing_eq_find?] at h
  obtain ⟨hi, before, after, hsplit, hbefore⟩ := List.find?_eq_some_iff_append.mp h
  rw [hsplit] at hasc
  rw [SmallestMissing, hsplit]
  refine ⟨by simp, by simpa using hi, fun j hj hmissing => ?_⟩
  rcases List.mem_append.mp hj with hj | hj
  · have hthere := hbefore j hj
    simp [hmissing] at hthere
  · rcases List.mem_cons.mp hj with rfl | hj
    · exact UInt32.le_refl j
    · exact UInt32.le_of_lt (List.rel_of_pairwise_cons (List.pairwise_append.mp hasc).2.1 hj)

end Missing

/-! ### Faults of rules -/

/-- Whether the fault is that a rule names what is not there. -/
def isMissing : TopologyError → Bool
  | .missingDevice _ => true
  | .missingPartition _ => true
  | _ => false

section FaultsOfRules
variable {e : TopologyError}

theorem deviceFault_ne {α : Type} (he : isMissing e = true) (r : Except DeviceError α) : deviceFault r ≠ some e := by
  cases r with
  | ok _ => exact (Option.some_ne_none e).symm
  | error err =>
    rintro ⟨⟩
    exact Bool.false_ne_true he

theorem countFault_ne (he : isMissing e = true) (count : UInt32) : countFault count ≠ some e := by
  rw [countFault]
  split
  · rintro ⟨⟩
    exact Bool.false_ne_true he
  · exact (Option.some_ne_none e).symm

theorem infoFault_ne (he : isMissing e = true) (permit : Bool) (r : Except DeviceError DeviceInfo) :
    infoFault permit r ≠ some e := by
  cases r with
  | ok _ => exact (Option.some_ne_none e).symm
  | error err =>
    rw [infoFault]
    split
    · rintro ⟨⟩
      exact Bool.false_ne_true he
    · exact (Option.some_ne_none e).symm

theorem entryFault_ne (he : isMissing e = true) (count : Nat) (earlier : List HierarchyEntry) (entry : HierarchyEntry) :
    Forest.entryFault count earlier entry ≠ some e := by
  intro h
  rw [Forest.entryFault] at h
  repeat' split at h
  all_goals
    cases h
    try exact Bool.false_ne_true he

theorem not_mem_listingFaults (he : isMissing e = true) (count : Nat) (earlier es : List HierarchyEntry) :
    some e ∉ Forest.listingFaults count earlier es := by
  induction es generalizing earlier with
  | nil => exact List.not_mem_nil
  | cons entry es ih =>
    rw [Forest.listingFaults, List.mem_cons, not_or]
    exact ⟨(entryFault_ne he count earlier entry).symm, ih _⟩

/-- Only the rules have faults of what is missing. -/
theorem mem_ruleFaults {rules : SelectionRules} {permit : Bool} {a : Answers} (he : isMissing e = true)
    (h : firstFault (checks rules permit a) = some e) : some e ∈ ruleFaults a.total.toNat a.entries rules := by
  obtain ⟨c, hc, rfl⟩ := List.exists_of_findSome?_eq_some h
  simp only [checks, List.mem_append, List.mem_cons, List.not_mem_nil, or_false, List.mem_map] at hc
  rcases hc with ((((hc | ⟨r, -, hc⟩) | hc) | hc) | hc) | hc
  · rcases hc with hc | hc
    · exact absurd hc.symm (deviceFault_ne he _)
    · exact absurd hc.symm (countFault_ne he _)
  · exact absurd hc (infoFault_ne he _ r)
  · exact absurd hc.symm (deviceFault_ne he _)
  · exact absurd hc (not_mem_listingFaults he _ _ _)
  · exact absurd hc.symm (deviceFault_ne he _)
  · exact hc

end FaultsOfRules

/-! ### The outcome -/

/-- A build succeeds if and only if none of its checks has a fault, and fails with the first fault
    otherwise. What a rule with ascending indices misses is reported by its smallest missing index, and
    entries with parents of other classes are as good as not listed. -/
theorem build_outcome (m : DeviceManager σ) (rules : SelectionRules) (permit : Bool) (s : σ) :
    ((∃ x, (build m rules permit s).1 = .ok x) ↔ ∀ c ∈ checks rules permit (answers m s), c = none) ∧
    (∀ e, (build m rules permit s).1 = .error e ↔ firstFault (checks rules permit (answers m s)) = some e) ∧
    (∀ i, (build m rules permit s).1 = .error (.missingDevice i) → (listed rules.devices).Pairwise (· < ·) →
      SmallestMissing (fun i => i < (answers m s).total) rules.devices i) ∧
    (∀ id, (build m rules permit s).1 = .error (.missingPartition id) → (listed rules.partitions).Pairwise (· < ·) →
      SmallestMissing (fun id => id ∈ idsUnder .device (answers m s).entries) rules.partitions id) ∧
    ∀ (f : Forest) (es : List HierarchyEntry),
      f.attachAll es = f.attachAll (es.filter fun e => e.parent.cls = .device ∨ e.parent.cls = .partition) := by
  have hends : Ends _ _ (build m rules permit s).1 := build_ends m rules permit s
  refine ⟨?success, fun e => hends.eq_error_iff, ?device, ?partition, Forest.attachAll_filter⟩
  case success =>
    rw [hends.exists_ok_iff, firstFault_eq_none_iff]
  case device =>
    intro i hi hasc
    have hmem := mem_ruleFaults rfl (hends.eq_error_iff.mp hi)
    simp only [ruleFaults, List.mem_cons, List.not_mem_nil, or_false] at hmem
    rcases hmem with hmem | hmem
    · obtain ⟨j, hj, ⟨⟩⟩ := Option.map_eq_some_iff.mp hmem.symm
      exact smallestMissing_of_firstMissing hasc hj
    · obtain ⟨j, -, ⟨⟩⟩ := Option.map_eq_some_iff.mp hmem.symm
  case partition =>
    intro id hid hasc
    have hmem := mem_ruleFaults rfl (hends.eq_error_iff.mp hid)
    simp only [ruleFaults, List.mem_cons, List.not_mem_nil, or_false] at hmem
    rcases hmem with hmem | hmem
    · obtain ⟨j, -, ⟨⟩⟩ := Option.map_eq_some_iff.mp hmem.symm
    · obtain ⟨j, hj, ⟨⟩⟩ := Option.map_eq_some_iff.mp hmem.symm
      exact smallestMissing_of_firstMissing hasc hj

theorem build_outcome_twoDevices :
    let rules := SelectionRules.explicit (some (.indices [0, 2, 3])) none
    (build twoDevices rules false ()).1 = .error (.missingDevice 2) ∧
      firstFault (checks rules false (answers twoDevices ())) = some (.missingDevice 2) ∧
      SmallestMissing (fun i => i < (answers twoDevices ()).total) rules.devices 2 := by
  intro rules
  have hresult : (build twoDevices rules false ()).1 = .error (.missingDevice 2) := rfl
  obtain ⟨-, herror, hdevice, -⟩ := build_outcome twoDevices rules false ()
  exact ⟨hresult, (herror _).mp hresult, hdevice 2 hresult (by decide)⟩

end Topology
end Telemetry

import Telemetry.Pods.Attribution

/-! What labelling does to metrics. A metric gets the three labels of its holder or none of them, and whatever
    else it has stays as it was. -/

namespace Telemetry.Attribution

variable {type : IdType} {style : LabelStyle} {h : Holder} {hs : SortedMap Holder} {a a' : Metric}

/-- The keys of the labels for pod, namespace and container. -/
def podKeys (style : LabelStyle) : List String :=
  [(labelNames style).1, (labelNames style).2.1, (labelNames style).2.2]

/-- The metric has all three labels of a holder. -/
structure Carries (style : LabelStyle) (h : Holder) (a : Metric) : Prop where
  pod : a.attributes.get? (labelNames style).1 = some h.pod
  namespaceName : a.attributes.get? (labelNames style).2.1 = some h.namespaceName
  container : a.attributes.get? (labelNames style).2.2 = some h.container

/-- A metric as it was but for labels with the keys of the style. -/
structure Annotated (style : LabelStyle) (a a' : Metric) : Prop where
  same : a' = { a with attributes := a'.attributes }
  entries : ∀ x ∈ a'.attributes.toList, x ∈ a.attributes.toList ∨ x.1 ∈ podKeys style
  others : ∀ key, key ∉ podKeys style → a'.attributes.get? key = a.attributes.get? key

/-- No metric has the labels of two holders. -/
theorem Carries.unique {h' : Holder} (hc : Carries style h a) (hc' : Carries style h' a) : h = h' := by
  obtain ⟨⟩ := h
  obtain ⟨⟩ := h'
  simp only [Holder.mk.injEq]
  exact ⟨Option.some.inj (hc.pod.symm.trans hc'.pod), Option.some.inj (hc.namespaceName.symm.trans hc'.namespaceName),
    Option.some.inj (hc.container.symm.trans hc'.container)⟩

theorem attributes_label (style : LabelStyle) (h : Holder) (a : Metric) :
    (label style h a).attributes =
      ((a.attributes.insert (labelNames style).1 h.pod).insert (labelNames style).2.1 h.namespaceName).insert
        (labelNames style).2.2 h.container := rfl

theorem carries_label (style : LabelStyle) (h : Holder) (a : Metric) : Carries style h (label style h a) := by
  cases style <;> constructor <;> simp [label, labelNames]

theorem annotated_label (style : LabelStyle) (h : Holder) (a : Metric) : Annotated style a (label style h a) where
  same := rfl
  entries := by
    intro x hx
    rw [attributes_label] at hx
    rcases SortedMap.mem_insertEntry hx with rfl | hx
    · exact .inr (by simp [podKeys])
    rcases SortedMap.mem_insertEntry hx with rfl | hx
    · exact .inr (by simp [podKeys])
    rcases SortedMap.mem_insertEntry hx with rfl | hx
    · exact .inr (by simp [podKeys])
    · exact .inl hx
  others := by
    intro key hkey
    simp only [podKeys, List.mem_cons, List.not_mem_nil, or_false, not_or] at hkey
    simp [attributes_label, Ne.symm hkey.1, Ne.symm hkey.2.1, Ne.symm hkey.2.2]

theorem Annotated.refl (style : LabelStyle) (a : Metric) : Annotated style a a :=
  ⟨rfl, fun _ hx => .inl hx, fun _ _ => rfl⟩

section Annotated
variable (hannotated : Annotated style a a')
include hannotated

theorem Annotated.counter : a'.counter = a.counter := by rw [hannotated.same]

theorem Annotated.value : a'.value = a.value := by rw [hannotated.same]

theorem Annotated.gpu : a'.gpu = a.gpu := by rw [hannotated.same]

theorem Annotated.partition : a'.partition = a.partition := by rw [hannotated.same]

end Annotated

theorem labelled_of_some (hh : hs.get? (keyOf type a) = some h) : labelled type style hs a = label style h a := by
  rw [labelled, hh]

theorem labelled_of_none (hh : hs.get? (keyOf type a) = none) : labelled type style hs a = a := by
  rw [labelled, hh]

theorem annotated_labelled (type : IdType) (style : LabelStyle) (hs : SortedMap Holder) (a : Metric) :
    Annotated style a (labelled type style hs a) := by
  cases hh : hs.get? (keyOf type a) with
  | none =>
    rw [labelled_of_none hh]
    exact .refl style a
  | some h =>
    rw [labelled_of_some hh]
    exact annotated_label style h a

/-- A metric without labels for a pod carries those of the holder that its key stands for, and of no other. -/
theorem carries_labelled_iff (hbare : a.attributes.get? (labelNames style).1 = none) :
    Carries style h (labelled type style hs a) ↔ hs.get? (keyOf type a) = some h := by
  cases hh : hs.get? (keyOf type a) with
  | none =>
    rw [labelled_of_none hh]
    refine iff_of_false (fun hcarries => ?_) nofun
    rw [hcarries.pod] at hbare
    cases hbare
  | some h' =>
    rw [labelled_of_some hh, Option.some_inj]
    constructor
    · exact fun hcarries => (carries_label style h' a).unique hcarries
    · rintro rfl
      exact carries_label style h' a

section Process
variable {σ : Type} {list : Action σ Report PodListing} {t : Topology} {metrics shown : MetricSet} {s u : σ}

theorem process_of_listing {pods : List Pod} (hlist : list s = (.ok (some pods), u)) :
    (transform list type style).process t (metrics, s) =
      (.ok (), (metrics.map fun row => row.map (labelled type style (holders t pods)), u)) := by
  simp only [transform, hlist]
  rfl

/-- Labelling that does not fail changes each metric by itself, and only in its labels. -/
theorem exists_annotated_of_process (h : (transform list type style).process t (metrics, s) = (.ok (), (shown, u))) :
    ∃ f : Metric → Metric, (∀ a, Annotated style a (f a)) ∧ shown = metrics.map fun row => row.map f := by
  rcases hlist : list s with ⟨r | _ | pods, s'⟩
  · simp only [transform, hlist] at h
    cases h
  · simp only [transform, hlist] at h
    cases h
    exact ⟨id, .refl style, by simp⟩
  · rw [process_of_listing hlist] at h
    cases h
    exact ⟨_, annotated_labelled type style (holders t pods), rfl⟩

end Process
end Telemetry.Attribution

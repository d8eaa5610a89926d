import Mathlib.Data.List.Forall2
import Telemetry.Proofs.Pods.Registering
import Telemetry.Proofs.SortedMap

/-! What labelling leaves alone. The metrics keep their number, their order and all that they have but the three labels
    of one style, of which a metric gets all or none. No key is made of labels, so that labelling again changes nothing
    more; and the two styles have no label in common, so that neither disturbs the other. -/

namespace Telemetry

/-- The metrics that a transform leaves. -/
def Transform.leaves {σ : Type} (x : Transform σ) (t : Topology) (metrics : MetricSet) (s : σ) : MetricSet :=
  (x.process t (metrics, s)).2.1

namespace Attribution

variable {type type' : IdType} {style : LabelStyle} {h : Holder} {a a' : Metric}

/-- The metric as it was, or with the labels of a holder in place of those that it had under their keys. -/
inductive Touched (style : LabelStyle) (a : Metric) : Metric → Prop
  | not : Touched style a a
  | labels (h : Holder) {a' : Metric} (hannotated : Annotated style a a') (hcarries : Carries style h a') :
    Touched style a a'

/-! ### Labels by their keys -/

/-- What a holder has under a key. -/
def Holder.label? (style : LabelStyle) (h : Holder) (key : String) : Option String :=
  if key = (labelNames style).1 then some h.pod
  else if key = (labelNames style).2.1 then some h.namespaceName
  else if key = (labelNames style).2.2 then some h.container
  else none

theorem get?_label (style : LabelStyle) (h : Holder) (a : Metric) (key : String) :
    (label style h a).attributes.get? key = (Holder.label? style h key).or (a.attributes.get? key) := by
  rw [attributes_label, SortedMap.get?_insert, SortedMap.get?_insert, SortedMap.get?_insert, Holder.label?]
  cases style <;> grind [labelNames]

/-- No key is one of both styles. -/
theorem label?_legacy_or_current (h h' : Holder) (key : String) :
    Holder.label? .legacy h key = none ∨ Holder.label? .current h' key = none := by
  grind [Holder.label?, labelNames]

theorem label_eq_of_get? {b : Metric} (hsame : b = { a with attributes := b.attributes })
    (hget : ∀ key, b.attributes.get? key = (label style h a).attributes.get? key) : b = label style h a := by
  rw [hsame, SortedMap.ext_get? hget]
  rfl

theorem label_label (style : LabelStyle) (h : Holder) (a : Metric) :
    label style h (label style h a) = label style h a := by
  refine label_eq_of_get? rfl fun key => ?_
  rw [get?_label, get?_label, ← Option.or_assoc, Option.or_self]

theorem label_comm (h h' : Holder) (a : Metric) :
    label .current h' (label .legacy h a) = label .legacy h (label .current h' a) := by
  refine label_eq_of_get? rfl fun key => ?_
  rw [get?_label, get?_label, get?_label, get?_label]
  rcases label?_legacy_or_current h h' key with hnone | hnone <;> rw [hnone, Option.none_or, Option.none_or]

/-! ### Labelling one metric -/

/-- The key of a metric is not made of its labels. -/
theorem keyOf_label (type : IdType) (style : LabelStyle) (h : Holder) (a : Metric) :
    keyOf type (label style h a) = keyOf type a := rfl

theorem touched_labelled (type : IdType) (style : LabelStyle) (hs : SortedMap Holder) (a : Metric) :
    Touched style a (labelled type style hs a) := by
  cases hh : hs.get? (keyOf type a) with
  | none =>
    rw [labelled_of_none hh]
    exact .not
  | some h =>
    rw [labelled_of_some hh]
    exact .labels h (annotated_label style h a) (carries_label style h a)

theorem labelled_labelled (type : IdType) (style : LabelStyle) (hs : SortedMap Holder) (a : Metric) :
    labelled type style hs (labelled type style hs a) = labelled type style hs a := by
  cases hh : hs.get? (keyOf type a) with
  | none => rw [labelled_of_none hh, labelled_of_none hh]
  | some h =>
    have hlabel : labelled type style hs (label style h a) = label style h (label style h a) := labelled_of_some hh
    rw [labelled_of_some hh, hlabel, label_label]

theorem labelled_comm (hs hs' : SortedMap Holder) (a : Metric) :
    labelled type' .current hs' (labelled type .legacy hs a) =
      labelled type .legacy hs (labelled type' .current hs' a) := by
  cases hh : hs.get? (keyOf type a) <;> cases hh' : hs'.get? (keyOf type' a) <;>
    simp only [labelled, keyOf_label, hh, hh', label_comm]

/-! ### Labelling all metrics -/

section Process
variable {σ τ : Type} {list : Action σ Report PodListing} {list' : Action τ Report PodListing} {s s' : σ} {u u' : τ}

/-- What becomes of a metric, once the listing has ended. -/
def changed (type : IdType) (style : LabelStyle) (t : Topology) : Except Report PodListing → Metric → Metric
  | .ok (some pods), a => labelled type style (holders t pods) a
  | .ok none, a | .error _, a => a

theorem changed_of_unlisted {r : Except Report PodListing} (hr : ∀ pods, r ≠ .ok (some pods)) (type : IdType)
    (style : LabelStyle) (t : Topology) : changed type style t r = id := by
  rcases r with r | _ | pods
  · rfl
  · rfl
  · exact absurd rfl (hr pods)

theorem map_map_id (metrics : MetricSet) : (metrics.map fun row => row.map id) = metrics := by simp

theorem process_eq (list : Action σ Report PodListing) (type : IdType) (style : LabelStyle) (t : Topology)
    (metrics : MetricSet) (s : σ) :
    (transform list type style).process t (metrics, s) =
      ((list s).1.map fun _ => (), (metrics.map fun row => row.map (changed type style t (list s).1)), (list s).2) := by
  rcases hlist : list s with ⟨r | _ | pods, s'⟩
  · rw [changed_of_unlisted (by simp), map_map_id]
    simp [transform, hlist, Except.map]
  · rw [changed_of_unlisted (by simp), map_map_id]
    simp [transform, hlist, Except.map]
  · exact process_of_listing hlist

theorem leaves_eq (list : Action σ Report PodListing) (type : IdType) (style : LabelStyle) (t : Topology)
    (metrics : MetricSet) (s : σ) :
    (transform list type style).leaves t metrics s =
      metrics.map fun row => row.map (changed type style t (list s).1) := by
  rw [Transform.leaves, process_eq]

theorem touched_changed (type : IdType) (style : LabelStyle) (t : Topology) (r : Except Report PodListing)
    (a : Metric) : Touched style a (changed type style t r a) := by
  rcases r with r | _ | pods
  · exact .not
  · exact .not
  · exact touched_labelled type style (holders t pods) a

theorem changed_changed (type : IdType) (style : LabelStyle) (t : Topology) (r : Except Report PodListing)
    (a : Metric) : changed type style t r (changed type style t r a) = changed type style t r a := by
  rcases r with r | _ | pods
  · rfl
  · rfl
  · exact labelled_labelled type style (holders t pods) a

theorem changed_comm (t t' : Topology) (r r' : Except Report PodListing) (a : Metric) :
    changed type' .current t' r' (changed type .legacy t r a) =
      changed type .legacy t r (changed type' .current t' r' a) := by
  rcases r with r | _ | pods
  · rfl
  · rfl
  · rcases r' with r' | _ | pods'
    · rfl
    · rfl
    · exact labelled_comm (holders t pods) (holders t' pods') a

theorem map_map_changed (metrics : MetricSet) (f g : Metric → Metric) :
    ((metrics.map fun row => row.map f).map fun row => row.map g) = metrics.map fun row => row.map fun a => g (f a) := by
  simp only [List.map_map, Function.comp_def]

/-- Labelling ends as the listing of pods does. Every metric stays in its place, with no attribute changed or all three
    labels of the style, and no metric changes if the listing fails or there is none. The same listing changes nothing
    more, and labelling in one style can be done before or after labelling in the other. -/
theorem process_touches_labels_only (list : Action σ Report PodListing) (list' : Action τ Report PodListing)
    (type type' : IdType) (t t' : Topology) (metrics : MetricSet) :
    (∀ style s,
      let x := transform list type style
      (x.process t (metrics, s)).1 = ((list s).1.map fun _ => ()) ∧
      List.Forall₂ (List.Forall₂ (Touched style)) metrics (x.leaves t metrics s) ∧
      ((∀ pods, (list s).1 ≠ .ok (some pods)) → x.leaves t metrics s = metrics) ∧
      ∀ s', (list s').1 = (list s).1 → x.leaves t (x.leaves t metrics s) s' = x.leaves t metrics s) ∧
    ∀ s s' u u', (list s').1 = (list s).1 → (list' u').1 = (list' u).1 →
      let x := transform list type .legacy
      let y := transform list' type' .current
      y.leaves t' (x.leaves t metrics s) u = x.leaves t (y.leaves t' metrics u') s' := by
  refine ⟨fun style s => ⟨?outcome, ?frame, ?unlisted, fun s' hs => ?again⟩, fun s s' u u' hs hu => ?order⟩
  case outcome => rw [process_eq]
  case frame =>
    rw [leaves_eq, List.forall₂_map_right_iff, List.forall₂_same]
    intro row _
    rw [List.forall₂_map_right_iff, List.forall₂_same]
    exact fun a _ => touched_changed type style t (list s).1 a
  case unlisted =>
    intro hnone
    rw [leaves_eq, changed_of_unlisted hnone, map_map_id]
  case again =>
    rw [leaves_eq, leaves_eq, hs, map_map_changed]
    simp only [changed_changed]
  case order =>
    dsimp only
    rw [leaves_eq, leaves_eq, leaves_eq, leaves_eq, hs, hu, map_map_changed, map_map_changed]
    simp only [changed_comm]

/-- Samples of a partition and of its whole device, the second one with a label of its own. -/
def sharedSamples : MetricSet :=
  let sample : Metric :=
    { counter := { field := 150, name := "DCGM_FI_DEV_GPU_TEMP", type := .gauge, help := "" }, value := "40", gpu := "0"
      uuid := "GPU-a", device := "nvidia0", model := "test", style := .current, partition := none, hostname := none
      attributes := SortedMap.empty }
  [[{ sample with partition := some { profile := "1g.5gb", instanceId := "1" } },
    { sample with attributes := SortedMap.ofList [("pod", "old"), ("zone", "a")] }]]

/-- Two listings that name different holders of the device, in both orders. -/
theorem process_touches_labels_only_sharedDevice :
    let list : Action Unit Report PodListing := fun s => (.ok (some sharedDevice), s)
    let list' : Action Unit Report PodListing := fun s => (.ok (some (sharedDevice.take 1)), s)
    let x := transform list .uid .legacy
    let y := transform list' .uid .current
    let both := y.leaves soleDevice (x.leaves soleDevice sharedSamples ()) ()
    (both.map fun row => row.map fun a => a.attributes.toList) =
      [[[("container", "main"), ("container_name", "main"), ("namespace", "ml"), ("pod", "web"), ("pod_name", "web"),
            ("pod_namespace", "ml")],
        [("container", "main"), ("container_name", "main"), ("namespace", "ml"), ("pod", "web"), ("pod_name", "batch"),
            ("pod_namespace", "ml"), ("zone", "a")]]] ∧
      both = x.leaves soleDevice (y.leaves soleDevice sharedSamples ()) () ∧
      x.leaves soleDevice (x.leaves soleDevice sharedSamples ()) () = x.leaves soleDevice sharedSamples () := by
  intro list list' x y both
  obtain ⟨hone, htwo⟩ := process_touches_labels_only list list' .uid .uid soleDevice soleDevice sharedSamples
  exact ⟨by decide +kernel, htwo () () () () rfl rfl, (hone .legacy ()).2.2.2 () rfl⟩

end Process
end Attribution
end Telemetry

import Telemetry.Device.Manager

/-! Watches. A watch has fields sampled for entities and owns a group of each; setting one up leaves
    nothing behind when it fails, and stopping it destroys the groups in the opposite order. -/

namespace Telemetry

/-- The two groups of a watch. -/
structure Watch where
  group : GroupId
  fieldGroup : FieldGroupId
  deriving DecidableEq, Repr, Inhabited

namespace DeviceManager

variable {σ : Type}

/-- Destroys the groups of a watch; a failure to do so is passed over. -/
def stopWatch (m : DeviceManager σ) (w : Watch) (s : σ) : σ :=
  Action.after (m.destroyGroup w.group) (Action.after (m.destroyFieldGroup w.fieldGroup) s)

/-- Has the fields sampled for the entities. If a step fails, the groups made so far are destroyed. -/
def startWatch (m : DeviceManager σ) (name : String) (entities : List Entity) (fields : List FieldId)
    (intervalMs : Nat) : Call σ Watch := do
  let group ← m.createGroup name entities
  let fieldGroup ← Action.undoing (m.createFieldGroup name fields) (Action.after (m.destroyGroup group))
  let watch : Watch := { group, fieldGroup }
  Action.undoing (m.watchFields group fieldGroup intervalMs) (m.stopWatch watch)
  pure watch

section StartWatch
variable {m : DeviceManager σ} {name : String} {entities : List Entity} {fields : List FieldId} {intervalMs : Nat}
  {g : GroupId} {f : FieldGroupId} {e : DeviceError} {s t u v : σ}

theorem startWatch_ungrouped (hg : m.createGroup name entities s = (.error e, t)) :
    m.startWatch name entities fields intervalMs s = (.error e, t) := by
  rw [startWatch, Action.bind_apply, hg]

theorem startWatch_unfielded (hg : m.createGroup name entities s = (.ok g, t))
    (hf : m.createFieldGroup name fields t = (.error e, u)) :
    m.startWatch name entities fields intervalMs s = (.error e, Action.after (m.destroyGroup g) u) := by
  rw [startWatch, Action.bind_apply, hg]
  dsimp only
  rw [Action.bind_apply, Action.undoing, hf]

theorem startWatch_unwatched (hg : m.createGroup name entities s = (.ok g, t))
    (hf : m.createFieldGroup name fields t = (.ok f, u)) (hw : m.watchFields g f intervalMs u = (.error e, v)) :
    m.startWatch name entities fields intervalMs s = (.error e, m.stopWatch { group := g, fieldGroup := f } v) := by
  rw [startWatch, Action.bind_apply, hg]
  dsimp only
  rw [Action.bind_apply, Action.undoing, hf]
  dsimp only
  rw [Action.bind_apply, Action.undoing, hw]

theorem startWatch_watched (hg : m.createGroup name entities s = (.ok g, t))
    (hf : m.createFieldGroup name fields t = (.ok f, u)) (hw : m.watchFields g f intervalMs u = (.ok (), v)) :
    m.startWatch name entities fields intervalMs s = (.ok { group := g, fieldGroup := f }, v) := by
  rw [startWatch, Action.bind_apply, hg]
  dsimp only
  rw [Action.bind_apply, Action.undoing, hf]
  dsimp only
  rw [Action.bind_apply, Action.undoing, hw]
  rfl

end StartWatch

end DeviceManager
end Telemetry

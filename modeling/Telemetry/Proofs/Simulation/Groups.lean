import Mathlib.Data.List.Perm.Basic
import Telemetry.Device.Watch
import Telemetry.Proofs.Keeping
import Telemetry.Simulation.Manager

/-! The groups of simulated devices. As long as the numbers last, a group that is created is like no other;
    so setting up a watch adds its two groups and their pair to what there is or leaves all of it as it was,
    and stopping a watch takes away what setting it up has added. -/

namespace Telemetry
namespace Simulation
open scoped List

/-- The number of groups that are created for a watch, whether or not it can be set up. -/
def groupsMade (sim : Simulation) (entities : List Entity) (fields : List FieldId) (s : State) : Nat :=
  match sim.createGroup entities s with
  | (.error _, _) => 0
  | (.ok _, t) =>
    match createFieldGroup fields t with
    | (.error _, _) => 1
    | (.ok _, _) => 2

/-- What the groups are known by: themselves, what is watched, and the number that was handed out last. -/
def State.books (s : State) :
    List (GroupId × List Entity) × List (FieldGroupId × List FieldId) × List (GroupId × FieldGroupId) × UInt32 :=
  (s.groups, s.fieldGroups, s.watched, s.lastId)

/-- The groups and what is watched are those of some watches, and `made` numbers were handed out. -/
structure State.Holds (made : Nat) (ws : List Watch) (s : State) : Prop where
  groups : (s.groups.map Prod.fst).Perm (ws.map Watch.group)
  fieldGroups : (s.fieldGroups.map Prod.fst).Perm (ws.map Watch.fieldGroup)
  watched : s.watched.Perm (ws.map fun w => (w.group, w.fieldGroup))
  lastId : s.lastId.toNat = made
  groups_nodup : (ws.map Watch.group).Nodup
  fieldGroups_nodup : (ws.map Watch.fieldGroup).Nodup
  group_le : ∀ w ∈ ws, w.group.number.toNat ≤ made
  fieldGroup_le : ∀ w ∈ ws, w.fieldGroup.number.toNat ≤ made

variable {sim : Simulation} {s t : State} {made : Nat} {w : Watch} {ws ws' : List Watch} {name : String}
  {entities : List Entity} {fields : List FieldId} {intervalMs : Nat}

/-! ### Creating and destroying groups -/

namespace State

/-- With a new group of entities. -/
def addGroup (g : GroupId) (entities : List Entity) (s : State) : State :=
  { s with lastId := g.number, groups := s.groups ++ [(g, entities)] }

/-- With a new group of fields. -/
def addFieldGroup (f : FieldGroupId) (fields : List FieldId) (s : State) : State :=
  { s with lastId := f.number, fieldGroups := s.fieldGroups ++ [(f, fields)] }

def addWatched (g : GroupId) (f : FieldGroupId) (s : State) : State := { s with watched := s.watched ++ [(g, f)] }

end State

theorem createGroup_cases (sim : Simulation) (entities : List Entity) (s : State) :
    (∃ e, sim.createGroup entities s = (.error e, s)) ∨
      s.connected = true ∧ ∃ g t, g.number = s.lastId + 1 ∧ sim.createGroup entities s = (.ok g, t) ∧
        (s.groups.filter (·.1 ≠ g) = s.groups → t = s.addGroup g entities) := by
  rw [createGroup, whenConnected]
  cases hconnected : s.connected with
  | false => exact .inl ⟨_, rfl⟩
  | true =>
    cases entities.find? fun e => (sim.locate? e).isNone with
    | some e => exact .inl ⟨_, rfl⟩
    | none =>
      refine .inr ⟨rfl, _, _, rfl, rfl, fun hfresh => ?_⟩
      simp only [State.addGroup, hconnected, hfresh]

theorem createFieldGroup_cases (fields : List FieldId) (s : State) :
    (∃ e, createFieldGroup fields s = (.error e, s)) ∨
      ∃ f t, f.number = s.lastId + 1 ∧ createFieldGroup fields s = (.ok f, t) ∧
        (s.fieldGroups.filter (·.1 ≠ f) = s.fieldGroups → t = s.addFieldGroup f fields) := by
  rw [createFieldGroup, whenConnected]
  cases hconnected : s.connected with
  | false => exact .inl ⟨_, rfl⟩
  | true =>
    cases fields.find? fun id => (Field.byId? id).isNone with
    | some id => exact .inl ⟨_, rfl⟩
    | none =>
      refine .inr ⟨_, _, rfl, rfl, fun hfresh => ?_⟩
      simp only [State.addFieldGroup, hconnected, hfresh]

theorem watchFields_eq {g : GroupId} {f : FieldGroupId} (hconnected : s.connected = true) (hg : s.hasGroup g = true)
    (hf : s.hasFieldGroup f = true) (hnew : (g, f) ∉ s.watched) :
    watchFields g f s = (.ok (), s.addWatched g f) := by
  simp [watchFields, whenConnected, State.addWatched, hconnected, hg, hf, hnew]

theorem stopWatch_eq (sim : Simulation) (w : Watch) (s : State) :
    sim.manager.stopWatch w s =
      { s with
        groups := s.groups.filter (·.1 ≠ w.group)
        fieldGroups := s.fieldGroups.filter (·.1 ≠ w.fieldGroup)
        watched := (s.watched.filter (·.2 ≠ w.fieldGroup)).filter (·.1 ≠ w.group) } := rfl

theorem groupsMade_le (sim : Simulation) (entities : List Entity) (fields : List FieldId) (s : State) :
    sim.groupsMade entities fields s ≤ 2 := by
  rw [groupsMade]
  split
  · omega
  · split <;> omega

/-! ### Readings -/

theorem keeps_whenConnected {α β : Type} {f : State → β} {g : State → Except DeviceError α × State}
    (h : ∀ s, f (g s).2 = f s) : (whenConnected g).Keeps f := by
  intro s
  rw [Action.after, whenConnected]
  split
  · exact h s
  · rfl

/-- Readings leave everything alone but the number of readings. -/
theorem reads_manager_of {γ : Type} {f : State → γ} (h : ∀ s reads, f { s with reads } = f s) (sim : Simulation) :
    sim.manager.Reads f where
  deviceCount := keeps_whenConnected fun _ => rfl
  deviceInfo _ := keeps_whenConnected fun _ => rfl
  hierarchy := keeps_whenConnected fun _ => rfl
  latestValues _ _ := keeps_whenConnected fun s => h s _
  resolveNames := keeps_namesByReading fun _ _ => keeps_whenConnected fun s => h s _

theorem reads_manager (sim : Simulation) : sim.manager.Reads State.books := sim.reads_manager_of fun _ _ => rfl

/-! ### Keys -/

section Keys
variable {κ β : Type} [DecidableEq κ] {l : List (κ × β)} {k : κ} {ks : List κ}

theorem filter_ne_eq_self (h : (l.map Prod.fst).Perm ks) (hk : k ∉ ks) : l.filter (·.1 ≠ k) = l := by
  refine List.filter_eq_self.mpr fun x hx => decide_eq_true ?_
  rintro rfl
  exact hk (h.mem_iff.mp (List.mem_map_of_mem hx))

theorem map_fst_filter_ne (h : (l.map Prod.fst).Perm (k :: ks)) (hk : k ∉ ks) :
    ((l.filter (·.1 ≠ k)).map Prod.fst).Perm ks := by
  have hrest : (k :: ks).filter (· ≠ k) = ks := by
    rw [List.filter_cons_of_neg (by simp), List.filter_eq_self]
    intro j hj
    exact decide_eq_true (ne_of_mem_of_not_mem hj hk)
  calc (l.filter (·.1 ≠ k)).map Prod.fst
    _ = (l.map Prod.fst).filter (· ≠ k) := by rw [List.filter_map]; rfl
    _ ~ (k :: ks).filter (· ≠ k) := h.filter _
    _ = ks := hrest

end Keys

/-! ### Numbers -/

theorem toNat_succ {n : UInt32} (h : n.toNat + 1 < UInt32.size) : (n + 1).toNat = n.toNat + 1 := by
  rw [UInt32.toNat_add, UInt32.toNat_one, Nat.mod_eq_of_lt h]

namespace State.Holds

theorem start : ({} : State).Holds 0 [] :=
  ⟨.nil, .nil, .nil, rfl, .nil, .nil, fun _ h => absurd h List.not_mem_nil, fun _ h => absurd h List.not_mem_nil⟩

theorem perm (h : s.Holds made ws) (hperm : ws.Perm ws') : s.Holds made ws' where
  groups := h.groups.trans (hperm.map _)
  fieldGroups := h.fieldGroups.trans (hperm.map _)
  watched := h.watched.trans (hperm.map _)
  lastId := h.lastId
  groups_nodup := (hperm.map _).nodup_iff.mp h.groups_nodup
  fieldGroups_nodup := (hperm.map _).nodup_iff.mp h.fieldGroups_nodup
  group_le w hw := h.group_le w (hperm.mem_iff.mpr hw)
  fieldGroup_le w hw := h.fieldGroup_le w (hperm.mem_iff.mpr hw)

theorem of_books_eq (h : s.Holds made ws) (hbooks : t.books = s.books) : t.Holds made ws := by
  rw [books, books, Prod.mk.injEq, Prod.mk.injEq, Prod.mk.injEq] at hbooks
  obtain ⟨hgroups, hfieldGroups, hwatched, hlastId⟩ := hbooks
  exact
    { h with
      groups := hgroups ▸ h.groups
      fieldGroups := hfieldGroups ▸ h.fieldGroups
      watched := hwatched ▸ h.watched
      lastId := hlastId ▸ h.lastId }

theorem openGroups_eq (h : s.Holds made ws) : s.openGroups = 2 * ws.length := by
  have hgroups := h.groups.length_eq
  have hfieldGroups := h.fieldGroups.length_eq
  simp only [List.length_map] at hgroups hfieldGroups
  rw [openGroups, hgroups, hfieldGroups, Nat.two_mul]

section Numbers
variable (h : s.Holds made ws)
include h

theorem not_mem_groups {g : GroupId} (hg : made < g.number.toNat) : g ∉ ws.map Watch.group := by
  intro hmem
  obtain ⟨w, hw, rfl⟩ := List.mem_map.mp hmem
  exact Nat.not_lt.mpr (h.group_le w hw) hg

theorem not_mem_fieldGroups {f : FieldGroupId} (hf : made < f.number.toNat) : f ∉ ws.map Watch.fieldGroup := by
  intro hmem
  obtain ⟨w, hw, rfl⟩ := List.mem_map.mp hmem
  exact Nat.not_lt.mpr (h.fieldGroup_le w hw) hf

theorem watched_groups : (s.watched.map Prod.fst).Perm (ws.map Watch.group) := by
  have hmap := h.watched.map Prod.fst
  rwa [List.map_map] at hmap

theorem toNat_next (hroom : made + 1 < UInt32.size) : (s.lastId + 1).toNat = made + 1 := by
  rw [← h.lastId] at hroom ⊢
  exact toNat_succ hroom

end Numbers

/-! ### Setting up and stopping a watch -/

theorem advance (h : s.Holds made ws) {n : Nat} {last : UInt32} (hlast : last.toNat = n) (hle : made ≤ n) :
    ({ s with lastId := last } : State).Holds n ws :=
  { h with
    lastId := hlast
    group_le := fun w hw => Nat.le_trans (h.group_le w hw) hle
    fieldGroup_le := fun w hw => Nat.le_trans (h.fieldGroup_le w hw) hle }

/-- A watch over groups with new numbers joins the others. -/
theorem add (h : s.Holds made ws) {g : GroupId} {f : FieldGroupId} (hg : g.number.toNat = made + 1)
    (hf : f.number.toNat = made + 2) (entities : List Entity) (fields : List FieldId) :
    (((s.addGroup g entities).addFieldGroup f fields).addWatched g f).Holds (made + 2)
      ({ group := g, fieldGroup := f } :: ws) where
  groups := by
    rw [State.addWatched, addFieldGroup, addGroup, List.map_append]
    exact (List.perm_append_singleton _ _).trans (h.groups.cons g)
  fieldGroups := by
    rw [State.addWatched, addFieldGroup, addGroup, List.map_append]
    exact (List.perm_append_singleton _ _).trans (h.fieldGroups.cons f)
  watched := (List.perm_append_singleton _ _).trans (h.watched.cons (g, f))
  lastId := hf
  groups_nodup := List.nodup_cons.mpr ⟨h.not_mem_groups (g := g) (by omega), h.groups_nodup⟩
  fieldGroups_nodup := List.nodup_cons.mpr ⟨h.not_mem_fieldGroups (f := f) (by omega), h.fieldGroups_nodup⟩
  group_le := List.forall_mem_cons.mpr
    ⟨by rw [hg]; omega, fun w hw => Nat.le_trans (h.group_le w hw) (Nat.le_add_right made 2)⟩
  fieldGroup_le := List.forall_mem_cons.mpr
    ⟨Nat.le_of_eq hf, fun w hw => Nat.le_trans (h.fieldGroup_le w hw) (Nat.le_add_right made 2)⟩

/-- A group of entities that was made for nothing leaves no more than its number. -/
theorem undo_createGroup (h : s.Holds made ws) {g : GroupId} (hg : made < g.number.toNat) (entities : List Entity) :
    Action.after (destroyGroup g) (s.addGroup g entities) = { s with lastId := g.number } := by
  have hfresh : g ∉ ws.map Watch.group := h.not_mem_groups hg
  have hgroups : (s.groups ++ [(g, entities)]).filter (·.1 ≠ g) = s.groups := by
    rw [List.filter_append, filter_ne_eq_self h.groups hfresh]
    simp
  calc Action.after (destroyGroup g) (s.addGroup g entities)
    _ = { s with
          lastId := g.number
          groups := (s.groups ++ [(g, entities)]).filter (·.1 ≠ g)
          watched := s.watched.filter (·.1 ≠ g) } := rfl
    _ = { s with lastId := g.number } := by rw [hgroups, filter_ne_eq_self h.watched_groups hfresh]

/-- A watch that cannot be set up leaves the groups and what is watched as they were. -/
theorem startWatch_cases (h : s.Holds made ws) (hroom : made + sim.groupsMade entities fields s < UInt32.size)
    (name : String) (intervalMs : Nat) :
    (∃ e t, sim.manager.startWatch name entities fields intervalMs s = (.error e, t) ∧
        t = { s with lastId := t.lastId } ∧ t.Holds (made + sim.groupsMade entities fields s) ws) ∨
      ∃ w t, sim.manager.startWatch name entities fields intervalMs s = (.ok w, t) ∧ t.connected = s.connected ∧
        t.Holds (made + sim.groupsMade entities fields s) (w :: ws) := by
  rcases createGroup_cases sim entities s with ⟨e, hcreate⟩ | ⟨hconnected, g, t, hnumber, hcreate, ht⟩
  · have hmade : sim.groupsMade entities fields s = 0 := by rw [groupsMade, hcreate]
    rw [hmade]
    exact .inl ⟨e, s, DeviceManager.startWatch_ungrouped hcreate, rfl, h⟩
  have hmade : 0 < sim.groupsMade entities fields s := by
    rw [groupsMade, hcreate]
    dsimp only
    split <;> omega
  have hg : g.number.toNat = made + 1 := by rw [hnumber, h.toNat_next (by omega)]
  obtain rfl := ht (filter_ne_eq_self h.groups (h.not_mem_groups (by omega)))
  rcases createFieldGroup_cases fields (s.addGroup g entities) with ⟨e, hcreate'⟩ | ⟨f, t, hnumber', hcreate', ht⟩
  · have hmade : sim.groupsMade entities fields s = 1 := by rw [groupsMade, hcreate]; dsimp only; rw [hcreate']
    rw [hmade]
    refine .inl ⟨e, { s with lastId := g.number }, ?_, rfl, h.advance hg (Nat.le_succ made)⟩
    exact (DeviceManager.startWatch_unfielded hcreate hcreate').trans
      (congrArg (Prod.mk _) (h.undo_createGroup (by omega) entities))
  · have hmade : sim.groupsMade entities fields s = 2 := by rw [groupsMade, hcreate]; dsimp only; rw [hcreate']
    have hf : f.number.toNat = made + 2 := by
      have hlast : (s.addGroup g entities).lastId.toNat = made + 1 := hg
      rw [hnumber', toNat_succ (by omega), hlast]
    obtain rfl := ht (filter_ne_eq_self h.fieldGroups (h.not_mem_fieldGroups (by omega)))
    have hnew : (g, f) ∉ s.watched := by
      intro hmem
      exact h.not_mem_groups (g := g) (by omega) (h.watched_groups.mem_iff.mp (List.mem_map_of_mem hmem))
    have hwatch := watchFields_eq (s := (s.addGroup g entities).addFieldGroup f fields) hconnected
      (by simp [State.hasGroup, State.addFieldGroup, State.addGroup])
      (by simp [State.hasFieldGroup, State.addFieldGroup]) hnew
    rw [hmade]
    exact .inr ⟨_, _, DeviceManager.startWatch_watched hcreate hcreate' hwatch, rfl, h.add hg hf entities fields⟩

/-- Stopping a watch destroys its groups and no others, with or without a connection. -/
theorem stopWatch (h : s.Holds made (w :: ws)) (sim : Simulation) : (sim.manager.stopWatch w s).Holds made ws := by
  rw [stopWatch_eq]
  have hgroup := List.nodup_cons.mp h.groups_nodup
  have hfieldGroup := List.nodup_cons.mp h.fieldGroups_nodup
  have hrest : (((w :: ws).map fun w => (w.group, w.fieldGroup)).filter (·.2 ≠ w.fieldGroup)).filter
      (·.1 ≠ w.group) = ws.map fun w => (w.group, w.fieldGroup) := by
    rw [List.map_cons, List.filter_cons_of_neg (by simp), List.filter_filter, List.filter_eq_self]
    intro x hx
    obtain ⟨w', hw', rfl⟩ := List.mem_map.mp hx
    have hne : w'.group ≠ w.group := ne_of_mem_of_not_mem (List.mem_map_of_mem hw') hgroup.1
    have hne' : w'.fieldGroup ≠ w.fieldGroup := ne_of_mem_of_not_mem (List.mem_map_of_mem hw') hfieldGroup.1
    simp [hne, hne']
  exact
    { groups := map_fst_filter_ne h.groups hgroup.1
      fieldGroups := map_fst_filter_ne h.fieldGroups hfieldGroup.1
      watched := hrest ▸ (h.watched.filter _).filter _
      lastId := h.lastId
      groups_nodup := hgroup.2
      fieldGroups_nodup := hfieldGroup.2
      group_le := fun w' hw' => h.group_le w' (.tail w hw')
      fieldGroup_le := fun w' hw' => h.fieldGroup_le w' (.tail w hw') }

end State.Holds
end Simulation
end Telemetry

import Mathlib.Data.List.Induction
import Telemetry.Proofs.Simulation.Groups
import Telemetry.Proofs.Simulation.Telling

/-! The numbers of groups. Whatever calls are made of simulated devices, the groups that are open are those that were
    created and not destroyed, groups of entities and groups of fields have their numbers from one row, and watches
    are of open groups only. This is also why a call that fails leaves the books as they were: for a group that is
    not open there is nothing to strike out. -/

namespace Telemetry
namespace Simulation

/-! ### Calls and their history -/

/-- The calls that may change a manager's state. -/
inductive GroupCall where
  | createGroup (entities : List Entity)
  | createFieldGroup (fields : List FieldId)
  | destroyGroup (g : GroupId)
  | destroyFieldGroup (f : FieldGroupId)
  | watchFields (g : GroupId) (f : FieldGroupId)
  | read (entities : List Entity) (fields : List FieldId)
  | connect
  | disconnect
  | loseConnection
  deriving DecidableEq, Repr

/-- What a call is answered with: a failure, or the number that is handed out if there is one. -/
abbrev GroupAnswer := Except DeviceError (Option UInt32)

/-- Makes the call. -/
def GroupCall.make (sim : Simulation) (s : State) : GroupCall → GroupAnswer × State
  | createGroup entities => ((sim.createGroup entities s).1.map fun g => some g.number, (sim.createGroup entities s).2)
  | createFieldGroup fields =>
    ((Simulation.createFieldGroup fields s).1.map fun f => some f.number, (Simulation.createFieldGroup fields s).2)
  | destroyGroup g => ((Simulation.destroyGroup g s).1.map fun _ => none, (Simulation.destroyGroup g s).2)
  | destroyFieldGroup f =>
    ((Simulation.destroyFieldGroup f s).1.map fun _ => none, (Simulation.destroyFieldGroup f s).2)
  | watchFields g f => ((Simulation.watchFields g f s).1.map fun _ => none, (Simulation.watchFields g f s).2)
  | read entities fields =>
    ((sim.latestValues entities fields s).1.map fun _ => none, (sim.latestValues entities fields s).2)
  | connect => ((sim.manager.connect s).1.map fun _ => none, (sim.manager.connect s).2)
  | disconnect => (.ok none, sim.manager.disconnect s)
  | loseConnection => (.ok none, s.dropConnection)

/-- A call with its answer. -/
structure GroupEntry where
  call : GroupCall
  answer : GroupAnswer

/-- The call with the answer it gets. -/
def GroupCall.entry (sim : Simulation) (s : State) (c : GroupCall) : GroupEntry :=
  { call := c, answer := (c.make sim s).1 }

/-- The calls with their answers, each made in the state that the call before left behind. -/
def history (sim : Simulation) : List GroupCall → State → List GroupEntry
  | [], _ => []
  | c :: cs, s => c.entry sim s :: history sim cs (c.make sim s).2

/-- The state after the calls. -/
def afterCalls (sim : Simulation) (cs : List GroupCall) (s : State) : State :=
  cs.foldl (fun s c => (c.make sim s).2) s

namespace GroupEntry

/-- The number that was handed out. -/
def number? (x : GroupEntry) : Option UInt32 :=
  match x.answer with
  | .ok n => n
  | .error _ => none

/-- The group of entities that was created. -/
def made? (x : GroupEntry) : Option GroupId :=
  match x.call with
  | .createGroup _ => x.number?.map GroupId.mk
  | _ => none

/-- The group of fields that was created. -/
def fieldsMade? (x : GroupEntry) : Option FieldGroupId :=
  match x.call with
  | .createFieldGroup _ => x.number?.map FieldGroupId.mk
  | _ => none

/-- The group of entities that was destroyed. -/
def ended? (x : GroupEntry) : Option GroupId :=
  match x.call, x.answer with
  | .destroyGroup g, .ok _ => some g
  | _, _ => none

/-- The group of fields that was destroyed. -/
def fieldsEnded? (x : GroupEntry) : Option FieldGroupId :=
  match x.call, x.answer with
  | .destroyFieldGroup f, .ok _ => some f
  | _, _ => none

end GroupEntry

/-- The numbers that were handed out, in their order. -/
def numbers (xs : List GroupEntry) : List UInt32 := xs.filterMap GroupEntry.number?

/-- The groups of entities that were created. -/
def groupsCreated (xs : List GroupEntry) : List GroupId := xs.filterMap GroupEntry.made?

/-- The groups of fields that were created. -/
def fieldGroupsCreated (xs : List GroupEntry) : List FieldGroupId := xs.filterMap GroupEntry.fieldsMade?

/-- The groups of entities that were destroyed. -/
def groupsDestroyed (xs : List GroupEntry) : List GroupId := xs.filterMap GroupEntry.ended?

/-- The groups of fields that were destroyed. -/
def fieldGroupsDestroyed (xs : List GroupEntry) : List FieldGroupId := xs.filterMap GroupEntry.fieldsEnded?

theorem afterCalls_concat (sim : Simulation) (cs : List GroupCall) (c : GroupCall) (s : State) :
    afterCalls sim (cs ++ [c]) s = (c.make sim (afterCalls sim cs s)).2 := by
  rw [afterCalls, List.foldl_append]
  rfl

theorem history_concat (sim : Simulation) (cs : List GroupCall) (c : GroupCall) (s : State) :
    history sim (cs ++ [c]) s = history sim cs s ++ [c.entry sim (afterCalls sim cs s)] := by
  induction cs generalizing s with
  | nil => rfl
  | cons d cs ih => exact congrArg (_ :: ·) (ih _)

/-! ### Books -/

/-- Of the things that were created, those are open that were not destroyed, and none is destroyed twice. -/
structure Book {κ : Type} [DecidableEq κ] (created destroyed opened : List κ) : Prop where
  opened_eq : opened = created.filter (· ∉ destroyed)
  destroyed_mem : ∀ k ∈ destroyed, k ∈ created
  nodup : destroyed.Nodup

namespace Book
variable {κ : Type} [DecidableEq κ] {created destroyed opened : List κ} {k : κ}

theorem mem_iff (h : Book created destroyed opened) : k ∈ opened ↔ k ∈ created ∧ k ∉ destroyed := by
  rw [h.opened_eq, List.mem_filter, decide_eq_true_iff]

theorem create (h : Book created destroyed opened) (hk : k ∉ created) :
    Book (created ++ [k]) destroyed (opened ++ [k]) where
  opened_eq := by
    have hnot : k ∉ destroyed := fun hmem => hk (h.destroyed_mem k hmem)
    rw [List.filter_append, ← h.opened_eq, List.filter_cons_of_pos (by simpa using hnot), List.filter_nil]
  destroyed_mem j hj := List.mem_append_left _ (h.destroyed_mem j hj)
  nodup := h.nodup

theorem destroy (h : Book created destroyed opened) (hk : k ∈ opened) :
    Book created (destroyed ++ [k]) (opened.filter (· ≠ k)) where
  opened_eq := by
    rw [h.opened_eq, List.filter_filter]
    refine List.filter_congr fun j _ => ?_
    simp [and_comm]
  destroyed_mem := by
    intro j hj
    rcases List.mem_append.mp hj with hj | hj
    · exact h.destroyed_mem j hj
    · rw [List.mem_singleton.mp hj]
      exact (h.mem_iff.mp hk).1
  nodup := by
    have hnew := (h.mem_iff.mp hk).2
    refine List.nodup_append.mpr ⟨h.nodup, List.nodup_singleton k, fun j hj l hl => ?_⟩
    rw [List.mem_singleton.mp hl]
    exact ne_of_mem_of_not_mem hj hnew

end Book

/-- The books of simulated devices, given the numbers that were handed out and the groups that were created and
    destroyed: each kind of groups has a book of its own, their numbers come from one row that ascends, and only what
    is open is watched. -/
structure State.Kept (ns : List UInt32) (gs gs' : List GroupId) (fs fs' : List FieldGroupId) (s : State) : Prop where
  lastId : s.lastId.toNat = ns.length
  ascending : ns.Pairwise (· < ·)
  number_le : ∀ n ∈ ns, n ≤ s.lastId
  group_number : ∀ g ∈ gs, g.number ∈ ns
  fieldGroup_number : ∀ f ∈ fs, f.number ∈ ns
  apart : ∀ g ∈ gs, ∀ f ∈ fs, g.number ≠ f.number
  groups : Book gs gs' (s.groups.map Prod.fst)
  fieldGroups : Book fs fs' (s.fieldGroups.map Prod.fst)
  watched : ∀ w ∈ s.watched, w.1 ∈ s.groups.map Prod.fst ∧ w.2 ∈ s.fieldGroups.map Prod.fst

variable {sim : Simulation} {s t : State} {g : GroupId} {f : FieldGroupId} {ns : List UInt32} {gs gs' : List GroupId}
  {fs fs' : List FieldGroupId}

theorem hasGroup_iff : s.hasGroup g = true ↔ g ∈ s.groups.map Prod.fst := by
  simp [State.hasGroup]

theorem hasFieldGroup_iff : s.hasFieldGroup f = true ↔ f ∈ s.fieldGroups.map Prod.fst := by
  simp [State.hasFieldGroup]

namespace State.Kept

theorem start : ({} : State).Kept [] [] [] [] [] where
  lastId := rfl
  ascending := .nil
  number_le := nofun
  group_number := nofun
  fieldGroup_number := nofun
  apart := nofun
  groups := ⟨rfl, nofun, .nil⟩
  fieldGroups := ⟨rfl, nofun, .nil⟩
  watched := nofun

theorem of_books_eq (h : s.Kept ns gs gs' fs fs') (hbooks : t.books = s.books) : t.Kept ns gs gs' fs fs' := by
  rw [books, books, Prod.mk.injEq, Prod.mk.injEq, Prod.mk.injEq] at hbooks
  obtain ⟨hgroups, hfieldGroups, hwatched, hlastId⟩ := hbooks
  exact
    { h with
      lastId := hlastId ▸ h.lastId
      number_le := hlastId ▸ h.number_le
      groups := hgroups ▸ h.groups
      fieldGroups := hfieldGroups ▸ h.fieldGroups
      watched := by
        rw [hwatched, hgroups, hfieldGroups]
        exact h.watched }

/-! ### New groups -/

section New
variable (h : s.Kept ns gs gs' fs fs') {n : UInt32} (hn : n = s.lastId + 1) (hroom : ns.length + 1 < UInt32.size)
include h hn hroom

theorem toNat_new : n.toNat = ns.length + 1 := by
  rw [← h.lastId] at hroom ⊢
  rw [hn, toNat_succ hroom]

theorem lt_new : ∀ m ∈ ns, m < n := by
  intro m hm
  have hle := UInt32.le_iff_toNat_le.mp (h.number_le m hm)
  rw [h.lastId] at hle
  rw [UInt32.lt_iff_toNat_lt, h.toNat_new hn hroom]
  omega

theorem ascending_new : (ns ++ [n]).Pairwise (· < ·) :=
  List.pairwise_append.mpr ⟨h.ascending, List.pairwise_singleton _ n, fun m hm _ hk =>
    List.mem_singleton.mp hk ▸ h.lt_new hn hroom m hm⟩

theorem le_new : ∀ m ∈ ns ++ [n], m ≤ n := by
  intro m hm
  rcases List.mem_append.mp hm with hm | hm
  · exact UInt32.le_of_lt (h.lt_new hn hroom m hm)
  · exact List.mem_singleton.mp hm ▸ UInt32.le_refl n

theorem new_not_mem : n ∉ ns := fun hmem => UInt32.lt_irrefl n (h.lt_new hn hroom n hmem)

end New

theorem addGroup (h : s.Kept ns gs gs' fs fs') (hg : g.number = s.lastId + 1) (hroom : ns.length + 1 < UInt32.size)
    (entities : List Entity) : (s.addGroup g entities).Kept (ns ++ [g.number]) (gs ++ [g]) gs' fs fs' where
  lastId := by rw [State.addGroup, h.toNat_new hg hroom, List.length_append, List.length_singleton]
  ascending := h.ascending_new hg hroom
  number_le := h.le_new hg hroom
  group_number := by
    intro g' hg'
    rw [List.mem_append, List.mem_singleton] at hg' ⊢
    exact hg'.imp (h.group_number g') (congrArg GroupId.number)
  fieldGroup_number f hf := List.mem_append_left _ (h.fieldGroup_number f hf)
  apart := by
    intro g' hg' f hf
    rcases List.mem_append.mp hg' with hg' | hg'
    · exact h.apart g' hg' f hf
    · rw [List.mem_singleton.mp hg']
      exact (ne_of_mem_of_not_mem (h.fieldGroup_number f hf) (h.new_not_mem hg hroom)).symm
  groups := by
    rw [State.addGroup, List.map_append]
    exact h.groups.create fun hmem => h.new_not_mem hg hroom (h.group_number g hmem)
  fieldGroups := h.fieldGroups
  watched := by
    intro w hw
    rw [State.addGroup, List.map_append]
    exact (h.watched w hw).imp_left (List.mem_append_left _)

theorem addFieldGroup (h : s.Kept ns gs gs' fs fs') (hf : f.number = s.lastId + 1)
    (hroom : ns.length + 1 < UInt32.size) (fields : List FieldId) :
    (s.addFieldGroup f fields).Kept (ns ++ [f.number]) gs gs' (fs ++ [f]) fs' where
  lastId := by rw [State.addFieldGroup, h.toNat_new hf hroom, List.length_append, List.length_singleton]
  ascending := h.ascending_new hf hroom
  number_le := h.le_new hf hroom
  group_number g hg := List.mem_append_left _ (h.group_number g hg)
  fieldGroup_number := by
    intro f' hf'
    rw [List.mem_append, List.mem_singleton] at hf' ⊢
    exact hf'.imp (h.fieldGroup_number f') (congrArg FieldGroupId.number)
  apart := by
    intro g hg f' hf'
    rcases List.mem_append.mp hf' with hf' | hf'
    · exact h.apart g hg f' hf'
    · rw [List.mem_singleton.mp hf']
      exact ne_of_mem_of_not_mem (h.group_number g hg) (h.new_not_mem hf hroom)
  groups := h.groups
  fieldGroups := by
    rw [State.addFieldGroup, List.map_append]
    exact h.fieldGroups.create fun hmem => h.new_not_mem hf hroom (h.fieldGroup_number f hmem)
  watched := by
    intro w hw
    rw [State.addFieldGroup, List.map_append]
    exact (h.watched w hw).imp_right (List.mem_append_left _)

/-! ### Groups that are destroyed -/

theorem map_fst_filter {κ β : Type} [DecidableEq κ] (l : List (κ × β)) (k : κ) :
    (l.filter (·.1 ≠ k)).map Prod.fst = (l.map Prod.fst).filter (· ≠ k) := by
  rw [List.filter_map]
  rfl

theorem destroyGroup (h : s.Kept ns gs gs' fs fs') (hg : s.hasGroup g = true) :
    (Simulation.destroyGroup g s).1 = .ok () ∧ (Simulation.destroyGroup g s).2.Kept ns gs (gs' ++ [g]) fs fs' := by
  refine ⟨if_pos hg, ?_⟩
  rw [Simulation.destroyGroup]
  exact
    { h with
      groups := by
        rw [map_fst_filter]
        exact h.groups.destroy (hasGroup_iff.mp hg)
      watched := by
        intro w hw
        obtain ⟨hw, hne⟩ := List.mem_filter.mp hw
        rw [map_fst_filter]
        exact (h.watched w hw).imp_left fun hmem => List.mem_filter.mpr ⟨hmem, hne⟩ }

theorem destroyFieldGroup (h : s.Kept ns gs gs' fs fs') (hf : s.hasFieldGroup f = true) :
    (Simulation.destroyFieldGroup f s).1 = .ok () ∧
      (Simulation.destroyFieldGroup f s).2.Kept ns gs gs' fs (fs' ++ [f]) := by
  refine ⟨if_pos hf, ?_⟩
  rw [Simulation.destroyFieldGroup]
  exact
    { h with
      fieldGroups := by
        rw [map_fst_filter]
        exact h.fieldGroups.destroy (hasFieldGroup_iff.mp hf)
      watched := by
        intro w hw
        obtain ⟨hw, hne⟩ := List.mem_filter.mp hw
        rw [map_fst_filter]
        exact (h.watched w hw).imp_right fun hmem => List.mem_filter.mpr ⟨hmem, hne⟩ }

/-- Of a group that is not open there is nothing to strike out. -/
theorem destroyGroup_unknown (h : s.Kept ns gs gs' fs fs') (hg : s.hasGroup g = false) :
    Simulation.destroyGroup g s = (.error (.unknownGroup g.number), s) := by
  -- The watches are struck out before the group is looked up, so that none names it has to come from the books.
  have hopen : g ∉ s.groups.map Prod.fst := fun hmem => Bool.false_ne_true (hg.symm.trans (hasGroup_iff.mpr hmem))
  have hwatched : s.watched.filter (·.1 ≠ g) = s.watched :=
    List.filter_eq_self.mpr fun w hw => decide_eq_true (ne_of_mem_of_not_mem (h.watched w hw).1 hopen)
  rw [Simulation.destroyGroup, hg, filter_ne_eq_self (.refl _) hopen, hwatched]
  rfl

theorem destroyFieldGroup_unknown (h : s.Kept ns gs gs' fs fs') (hf : s.hasFieldGroup f = false) :
    Simulation.destroyFieldGroup f s = (.error (.unknownGroup f.number), s) := by
  have hopen : f ∉ s.fieldGroups.map Prod.fst :=
    fun hmem => Bool.false_ne_true (hf.symm.trans (hasFieldGroup_iff.mpr hmem))
  have hwatched : s.watched.filter (·.2 ≠ f) = s.watched :=
    List.filter_eq_self.mpr fun w hw => decide_eq_true (ne_of_mem_of_not_mem (h.watched w hw).2 hopen)
  rw [Simulation.destroyFieldGroup, hf, filter_ne_eq_self (.refl _) hopen, hwatched]
  rfl

/-! ### Watches -/

theorem watchFields_cases (g : GroupId) (f : FieldGroupId) (s : State) :
    (∃ e, Simulation.watchFields g f s = (.error e, s)) ∨
      s.hasGroup g = true ∧ s.hasFieldGroup f = true ∧
        ∃ t, Simulation.watchFields g f s = (.ok (), t) ∧ t = { s with watched := t.watched } ∧
          ∀ w ∈ t.watched, w ∈ s.watched ∨ w = (g, f) := by
  rw [Simulation.watchFields, whenConnected]
  split
  · split
    · exact .inl ⟨_, rfl⟩
    · rename_i hg
      split
      · exact .inl ⟨_, rfl⟩
      · rename_i hf
        refine .inr ⟨by simpa using hg, by simpa using hf, _, rfl, ?_⟩
        split
        · exact ⟨rfl, fun w hw => .inl hw⟩
        · exact ⟨rfl, fun w hw => by simpa using hw⟩
  · exact .inl ⟨_, rfl⟩

theorem watch (h : s.Kept ns gs gs' fs fs') (hg : s.hasGroup g = true) (hf : s.hasFieldGroup f = true)
    (ht : t = { s with watched := t.watched }) (hwatched : ∀ w ∈ t.watched, w ∈ s.watched ∨ w = (g, f)) :
    t.Kept ns gs gs' fs fs' := by
  rw [ht]
  refine { h with watched := fun w hw => ?_ }
  rcases hwatched w hw with hw | rfl
  · exact h.watched w hw
  · exact ⟨hasGroup_iff.mp hg, hasFieldGroup_iff.mp hf⟩

end State.Kept

/-! ### Runs of calls -/

/-- The books agree with a history. -/
def State.Accords (xs : List GroupEntry) (s : State) : Prop :=
  s.Kept (numbers xs) (groupsCreated xs) (groupsDestroyed xs) (fieldGroupsCreated xs) (fieldGroupsDestroyed xs)

theorem filterMap_concat {α β : Type} (f : α → Option β) (xs : List α) (x : α) :
    (xs ++ [x]).filterMap f = xs.filterMap f ++ (f x).toList := by
  rw [List.filterMap_append, List.filterMap_eq_flatMap_toList f [x], List.flatMap_singleton]

namespace State.Accords
variable {xs : List GroupEntry} {x : GroupEntry} {c : GroupCall}

theorem concat (h : s.Kept (numbers xs ++ x.number?.toList) (groupsCreated xs ++ x.made?.toList)
    (groupsDestroyed xs ++ x.ended?.toList) (fieldGroupsCreated xs ++ x.fieldsMade?.toList)
    (fieldGroupsDestroyed xs ++ x.fieldsEnded?.toList)) : s.Accords (xs ++ [x]) := by
  rw [Accords, numbers, groupsCreated, groupsDestroyed, fieldGroupsCreated, fieldGroupsDestroyed]
  simp only [filterMap_concat]
  exact h

/-- Where nothing is handed out and nothing is destroyed, the books stay as they are. -/
theorem quiet (h : s.Accords xs) (hbooks : t.books = s.books) (hnumber : x.number? = none) (hended : x.ended? = none)
    (hfieldsEnded : x.fieldsEnded? = none) : t.Accords (xs ++ [x]) := by
  have hmade : x.made? = none := by
    rw [GroupEntry.made?, hnumber]
    cases x.call <;> rfl
  have hfieldsMade : x.fieldsMade? = none := by
    rw [GroupEntry.fieldsMade?, hnumber]
    cases x.call <;> rfl
  refine concat ?_
  simp only [hnumber, hmade, hfieldsMade, hended, hfieldsEnded, Option.toList_none, List.append_nil]
  exact State.Kept.of_books_eq h hbooks

theorem failed (h : s.Accords xs) (c : GroupCall) (e : DeviceError) :
    s.Accords (xs ++ [{ call := c, answer := .error e }]) :=
  h.quiet rfl rfl (by cases c <;> rfl) (by cases c <;> rfl)

end State.Accords

/-- A call that only succeeds or fails hands out no number. -/
theorem number?_map_none {α : Type} (c : GroupCall) (r : Except DeviceError α) :
    GroupEntry.number? { call := c, answer := r.map fun _ => none } = none := by
  cases r <;> rfl

namespace State.Accords
variable {xs : List GroupEntry} {c : GroupCall} (h : s.Accords xs)
include h

theorem createGroup (entities : List Entity)
    (hroom : (numbers (xs ++ [GroupCall.entry sim s (.createGroup entities)])).length < UInt32.size) :
    (GroupCall.make sim s (.createGroup entities)).2.Accords
      (xs ++ [GroupCall.entry sim s (.createGroup entities)]) := by
  rw [GroupCall.entry, GroupCall.make] at *
  rcases createGroup_cases sim entities s with ⟨e, hcall⟩ | ⟨-, g, t, hg, hcall, ht⟩
  · rw [hcall]
    exact h.failed _ e
  · rw [hcall, numbers, filterMap_concat, List.length_append] at hroom
    have hnew := h.new_not_mem hg hroom
    have hopen : g ∉ s.groups.map Prod.fst := fun hmem => hnew (h.group_number g (h.groups.mem_iff.mp hmem).1)
    obtain rfl := ht (filter_ne_eq_self (.refl _) hopen)
    rw [hcall]
    refine concat ?_
    simpa [GroupEntry.number?, GroupEntry.made?, GroupEntry.fieldsMade?, GroupEntry.ended?, GroupEntry.fieldsEnded?,
      Except.map] using h.addGroup hg hroom entities

theorem createFieldGroup (fields : List FieldId)
    (hroom : (numbers (xs ++ [GroupCall.entry sim s (.createFieldGroup fields)])).length < UInt32.size) :
    (GroupCall.make sim s (.createFieldGroup fields)).2.Accords
      (xs ++ [GroupCall.entry sim s (.createFieldGroup fields)]) := by
  rw [GroupCall.entry, GroupCall.make] at *
  rcases createFieldGroup_cases fields s with ⟨e, hcall⟩ | ⟨f, t, hf, hcall, ht⟩
  · rw [hcall]
    exact h.failed _ e
  · rw [hcall, numbers, filterMap_concat, List.length_append] at hroom
    have hnew := h.new_not_mem hf hroom
    have hopen : f ∉ s.fieldGroups.map Prod.fst :=
      fun hmem => hnew (h.fieldGroup_number f (h.fieldGroups.mem_iff.mp hmem).1)
    obtain rfl := ht (filter_ne_eq_self (.refl _) hopen)
    rw [hcall]
    refine concat ?_
    simpa [GroupEntry.number?, GroupEntry.made?, GroupEntry.fieldsMade?, GroupEntry.ended?, GroupEntry.fieldsEnded?,
      Except.map] using h.addFieldGroup hf hroom fields

theorem destroyGroup (sim : Simulation) (g : GroupId) :
    (GroupCall.make sim s (.destroyGroup g)).2.Accords (xs ++ [GroupCall.entry sim s (.destroyGroup g)]) := by
  rw [GroupCall.entry, GroupCall.make]
  cases hg : s.hasGroup g with
  | false =>
    rw [h.destroyGroup_unknown hg]
    exact h.failed _ _
  | true =>
    obtain ⟨hanswer, hkept⟩ := State.Kept.destroyGroup h hg
    rw [hanswer]
    refine concat ?_
    simpa [GroupEntry.number?, GroupEntry.made?, GroupEntry.fieldsMade?, GroupEntry.ended?, GroupEntry.fieldsEnded?,
      Except.map] using hkept

theorem destroyFieldGroup (sim : Simulation) (f : FieldGroupId) :
    (GroupCall.make sim s (.destroyFieldGroup f)).2.Accords
      (xs ++ [GroupCall.entry sim s (.destroyFieldGroup f)]) := by
  rw [GroupCall.entry, GroupCall.make]
  cases hf : s.hasFieldGroup f with
  | false =>
    rw [h.destroyFieldGroup_unknown hf]
    exact h.failed _ _
  | true =>
    obtain ⟨hanswer, hkept⟩ := State.Kept.destroyFieldGroup h hf
    rw [hanswer]
    refine concat ?_
    simpa [GroupEntry.number?, GroupEntry.made?, GroupEntry.fieldsMade?, GroupEntry.ended?, GroupEntry.fieldsEnded?,
      Except.map] using hkept

theorem watchFields (sim : Simulation) (g : GroupId) (f : FieldGroupId) :
    (GroupCall.make sim s (.watchFields g f)).2.Accords (xs ++ [GroupCall.entry sim s (.watchFields g f)]) := by
  rw [GroupCall.entry, GroupCall.make]
  rcases State.Kept.watchFields_cases g f s with ⟨e, hcall⟩ | ⟨hg, hf, t, hcall, ht, hwatched⟩
  · rw [hcall]
    exact h.failed _ e
  · rw [hcall]
    refine concat ?_
    simpa [GroupEntry.number?, GroupEntry.made?, GroupEntry.fieldsMade?, GroupEntry.ended?, GroupEntry.fieldsEnded?,
      Except.map] using h.watch hg hf ht hwatched

/-- What a call does to the books is what its answer says. -/
theorem step (hroom : (numbers (xs ++ [c.entry sim s])).length < UInt32.size) :
    (c.make sim s).2.Accords (xs ++ [c.entry sim s]) := by
  cases c with
  | createGroup entities => exact h.createGroup entities hroom
  | createFieldGroup fields => exact h.createFieldGroup fields hroom
  | destroyGroup g => exact h.destroyGroup sim g
  | destroyFieldGroup f => exact h.destroyFieldGroup sim f
  | watchFields g f => exact h.watchFields sim g f
  | read entities fields =>
    exact h.quiet (sim.reads_manager.latestValues entities fields s) (number?_map_none _ _) rfl rfl
  | connect => exact h.quiet rfl rfl rfl rfl
  | disconnect => exact h.quiet rfl rfl rfl rfl
  | loseConnection => exact h.quiet rfl rfl rfl rfl

/-- A call that fails leaves the books as they are. -/
theorem books_of_failed {e : DeviceError} (hfailed : (c.make sim s).1 = .error e) :
    (c.make sim s).2.books = s.books := by
  cases c with
  | createGroup entities =>
    rw [GroupCall.make] at hfailed ⊢
    rcases createGroup_cases sim entities s with ⟨e', hcall⟩ | ⟨-, g, t, -, hcall, -⟩ <;> rw [hcall] at hfailed ⊢
    cases hfailed
  | createFieldGroup fields =>
    rw [GroupCall.make] at hfailed ⊢
    rcases createFieldGroup_cases fields s with ⟨e', hcall⟩ | ⟨f, t, -, hcall, -⟩ <;> rw [hcall] at hfailed ⊢
    cases hfailed
  | destroyGroup g =>
    rw [GroupCall.make] at hfailed ⊢
    cases hg : s.hasGroup g with
    | false => rw [h.destroyGroup_unknown hg]
    | true =>
      rw [(State.Kept.destroyGroup h hg).1] at hfailed
      cases hfailed
  | destroyFieldGroup f =>
    rw [GroupCall.make] at hfailed ⊢
    cases hf : s.hasFieldGroup f with
    | false => rw [h.destroyFieldGroup_unknown hf]
    | true =>
      rw [(State.Kept.destroyFieldGroup h hf).1] at hfailed
      cases hfailed
  | watchFields g f =>
    rw [GroupCall.make] at hfailed ⊢
    rcases State.Kept.watchFields_cases g f s with ⟨e', hcall⟩ | ⟨-, -, t, hcall, -⟩ <;> rw [hcall] at hfailed ⊢
    cases hfailed
  | read entities fields => exact sim.reads_manager.latestValues entities fields s
  | connect => rfl
  | disconnect => rfl
  | loseConnection => rfl

end State.Accords

/-- Whatever calls are made, the books agree with what the answers to them were. -/
theorem accords_afterCalls (sim : Simulation) (cs : List GroupCall)
    (hroom : (numbers (history sim cs {})).length < UInt32.size) :
    (afterCalls sim cs {}).Accords (history sim cs {}) := by
  -- Call after call: the bound on the numbers that were handed out holds of fewer calls, too.
  induction cs using List.reverseRecOn with
  | nil => exact State.Kept.start
  | append_singleton cs c ih =>
    rw [afterCalls_concat, history_concat] at *
    have hprefix : (numbers (history sim cs {})).length < UInt32.size := by
      rw [numbers, filterMap_concat, List.length_append] at hroom
      exact Nat.lt_of_le_of_lt (Nat.le_add_right _ _) hroom
    exact (ih hprefix).step hroom

theorem destroyGroup_ok_iff : (destroyGroup g s).1 = .ok () ↔ s.hasGroup g = true := by
  cases hg : s.hasGroup g <;> simp [destroyGroup, hg]

theorem destroyFieldGroup_ok_iff : (destroyFieldGroup f s).1 = .ok () ↔ s.hasFieldGroup f = true := by
  cases hf : s.hasFieldGroup f <;> simp [destroyFieldGroup, hf]

section Accorded
variable {xs : List GroupEntry} (h : s.Accords xs)
include h

theorem State.Accords.hasGroup_iff :
    s.hasGroup g = true ↔ g ∈ groupsCreated xs ∧ g ∉ groupsDestroyed xs :=
  Simulation.hasGroup_iff.trans h.groups.mem_iff

theorem State.Accords.hasFieldGroup_iff :
    s.hasFieldGroup f = true ↔ f ∈ fieldGroupsCreated xs ∧ f ∉ fieldGroupsDestroyed xs :=
  Simulation.hasFieldGroup_iff.trans h.fieldGroups.mem_iff

/-- A number is of no use for groups of the other kind. -/
theorem State.Accords.destroyGroup_other (hf : f ∈ fieldGroupsCreated xs) :
    (Simulation.destroyGroup ⟨f.number⟩ s).1 = .error (.unknownGroup f.number) := by
  have hunknown : s.hasGroup ⟨f.number⟩ ≠ true := fun hg => h.apart _ (h.hasGroup_iff.mp hg).1 f hf rfl
  exact if_neg hunknown

theorem State.Accords.destroyFieldGroup_other (hg : g ∈ groupsCreated xs) :
    (Simulation.destroyFieldGroup ⟨g.number⟩ s).1 = .error (.unknownGroup g.number) := by
  have hunknown : s.hasFieldGroup ⟨g.number⟩ ≠ true := fun hf => h.apart g hg _ (h.hasFieldGroup_iff.mp hf).1 rfl
  exact if_neg hunknown

end Accorded

/-- What the groups of simulated devices are after some calls, and what the next call finds. -/
structure Orderly (sim : Simulation) (xs : List GroupEntry) (s : State) : Prop where
  /-- Each number is greater than all before it, of either kind. -/
  ascending : (numbers xs).Pairwise (· < ·)
  watched_open : ∀ w ∈ s.watched, s.hasGroup w.1 = true ∧ s.hasFieldGroup w.2 = true
  books_of_failed : ∀ c e, (GroupCall.make sim s c).1 = .error e → (GroupCall.make sim s c).2.books = s.books
  destroyGroup_ok : ∀ g, (destroyGroup g s).1 = .ok () ↔ g ∈ groupsCreated xs ∧ g ∉ groupsDestroyed xs
  destroyFieldGroup_ok : ∀ f,
    (destroyFieldGroup f s).1 = .ok () ↔ f ∈ fieldGroupsCreated xs ∧ f ∉ fieldGroupsDestroyed xs
  /-- The number of a group is of no use for groups of the other kind. -/
  destroyGroup_other : ∀ f ∈ fieldGroupsCreated xs,
    (destroyGroup ⟨f.number⟩ s).1 = .error (.unknownGroup f.number)
  destroyFieldGroup_other : ∀ g ∈ groupsCreated xs,
    (destroyFieldGroup ⟨g.number⟩ s).1 = .error (.unknownGroup g.number)
  destroyed_once : (groupsDestroyed xs).Nodup
  fieldsDestroyed_once : (fieldGroupsDestroyed xs).Nodup
  /-- With a group go the watches that name it and no others. -/
  watched_destroyGroup : ∀ g w, w ∈ (destroyGroup g s).2.watched ↔ w ∈ s.watched ∧ w.1 ≠ g
  watched_destroyFieldGroup : ∀ f w, w ∈ (destroyFieldGroup f s).2.watched ↔ w ∈ s.watched ∧ w.2 ≠ f

/-- As long as the numbers last, the groups are in order after whatever calls, with or without a connection. -/
theorem orderly_afterCalls (sim : Simulation) (cs : List GroupCall)
    (hroom : (numbers (history sim cs {})).length < UInt32.size) :
    Orderly sim (history sim cs {}) (afterCalls sim cs {}) := by
  have h := accords_afterCalls sim cs hroom
  exact
    { ascending := h.ascending
      watched_open := fun w hw => (h.watched w hw).imp hasGroup_iff.mpr hasFieldGroup_iff.mpr
      books_of_failed := fun c e hfailed => h.books_of_failed hfailed
      destroyGroup_ok := fun g => destroyGroup_ok_iff.trans h.hasGroup_iff
      destroyFieldGroup_ok := fun f => destroyFieldGroup_ok_iff.trans h.hasFieldGroup_iff
      destroyGroup_other := fun f hf => h.destroyGroup_other hf
      destroyFieldGroup_other := fun g hg => h.destroyFieldGroup_other hg
      destroyed_once := h.groups.nodup
      fieldsDestroyed_once := h.fieldGroups.nodup
      watched_destroyGroup := by
        intro g w
        rw [destroyGroup, List.mem_filter, decide_eq_true_iff]
      watched_destroyFieldGroup := by
        intro f w
        rw [destroyFieldGroup, List.mem_filter, decide_eq_true_iff] }

/-- A watch is set up, a group is destroyed as what it is not, and then the connection is lost. -/
def watchThenLose : List GroupCall :=
  [.connect, .createGroup [Entity.device 0], .createFieldGroup [Field.deviceUuid], .watchFields ⟨1⟩ ⟨2⟩,
    .destroyGroup ⟨2⟩, .loseConnection, .destroyGroup ⟨1⟩]

theorem orderly_watchThenLose :
    (numbers (history partlyUnavailable watchThenLose {})).length < UInt32.size ∧
      Orderly partlyUnavailable (history partlyUnavailable watchThenLose {})
        (afterCalls partlyUnavailable watchThenLose {}) ∧
      groupsDestroyed (history partlyUnavailable watchThenLose {}) = [⟨1⟩] := by
  have hroom : (numbers (history partlyUnavailable watchThenLose {})).length < UInt32.size := by decide
  exact ⟨hroom, orderly_afterCalls partlyUnavailable watchThenLose hroom, by decide⟩

end Simulation
end Telemetry

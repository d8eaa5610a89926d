import Mathlib.Data.List.Nodup
import Telemetry.Proofs.Device.Exchange

/-! The books of a client of simulated devices. After every step of every run the groups are those of the watches
    that are held, and a connection is closed by the step that gives up the last handle on it. -/

namespace Telemetry
namespace Client
open Logged Simulation
open scoped List

variable {σ : Type}

/-! ### Giving up -/

section GiveUp
variable {sim : Simulation} {c : Client (Logged State)} {made : Nat} {former : Option Handle}

theorem since_destroy (m : DeviceManager σ) (h : Handle) (s : Logged σ) :
    Since s h.destroys (h.destroy m s.state) (h.destroy m.logged s) := by
  cases h with
  | session n => exact .refl s
  | watch w => exact leads_stopWatch m w.watch s.state s rfl

theorem manager_giveUp (m : DeviceManager σ) (h : Handle) (c : Client σ) :
    (c.giveUp m (some h)).manager =
      if c.holds h.connection then h.destroy m c.manager else m.disconnect (h.destroy m c.manager) := by
  rw [giveUp, settle_eq]
  rfl

/-- What belongs to a handle is destroyed before its connection is closed. -/
theorem lifecycle_giveUp (m : DeviceManager σ) (former : Option Handle) (c : Client (Logged σ)) :
    (c.giveUp m.logged former).manager.lifecycle =
      c.manager.lifecycle ++ (former.bind Handle.watch?).toList.flatMap destroying ++
        ((former.map Handle.connection).filter fun n => !c.holds n).toList.map fun _ => .disconnect := by
  cases former with
  | none => simp [giveUp]
  | some h =>
    have hdestroyed := since_destroy m h c.manager
    rw [manager_giveUp, Option.bind_some, ← Handle.destroys]
    cases hholds : c.holds h.connection with
    | true => simp [Option.filter, hholds, hdestroyed.lifecycle]
    | false =>
      have hclosed := hdestroyed.trans (leads_disconnect m _ _ hdestroyed.state)
      simp [Option.filter, hholds, hclosed.lifecycle]

theorem disconnect_holds {s : State} {ws : List Watch} (h : s.Holds made ws) (sim : Simulation) :
    (sim.manager.disconnect s).Holds made ws :=
  h.of_books_eq rfl

theorem books_giveUp (h : c.manager.state.Holds made ((former.bind Handle.watch?).toList ++ c.live))
    (sim : Simulation) : (c.giveUp sim.manager.logged former).manager.state.Holds made c.live := by
  cases former with
  | none => exact h
  | some x =>
    have hdestroyed : (x.destroy sim.manager c.manager.state).Holds made c.live := by
      cases x with
      | session n => exact h
      | watch w => exact h.stopWatch sim
    have hstate := (since_destroy sim.manager x c.manager).state
    rw [manager_giveUp]
    split
    · rw [hstate]
      exact hdestroyed
    · show (sim.manager.disconnect _).Holds made c.live
      rw [hstate]
      exact disconnect_holds hdestroyed sim

/-- Whoever is still connected holds something. -/
theorem handles_ne_nil_of_connected
    (h : c.manager.state.connected = true → former.toList ++ c.handles ≠ [])
    (hconnected : (c.giveUp sim.manager.logged former).manager.state.connected = true) : c.handles ≠ [] := by
  cases former with
  | none => exact h hconnected
  | some x =>
    rw [manager_giveUp] at hconnected
    split at hconnected
    · next hholds =>
      obtain ⟨y, hy, -⟩ := holds_iff.mp hholds
      exact List.ne_nil_of_mem hy
    · exact absurd hconnected Bool.false_ne_true

end GiveUp

/-! ### What is given up -/

section GivenUp
variable (sim : Simulation)

/-- The watches that are held by one client and no longer by another. -/
def givenUp (c c' : Client σ) : List Watch := c.live.filter (· ∉ c'.live)

/-- The connections that are kept open by one client and no longer by another. -/
def closed (c c' : Client σ) : List Connection := (List.range c.next).filter fun n => c.holds n && !c'.holds n

/-- The connections that events close, one after the other. -/
def closings (c : Client (Logged State)) : List Event → List Connection
  | [] => []
  | e :: es => c.closed (c.step sim e) ++ closings (c.step sim e) es

end GivenUp

/-! ### What a step does -/

theorem filter_eq_toList {α : Type} {l : List α} {p : α → Bool} {o : Option α} (hnodup : l.Nodup)
    (h : ∀ a, a ∈ l ∧ p a = true ↔ a ∈ o) : l.filter p = o.toList := by
  cases o with
  | none =>
    refine List.filter_eq_nil_iff.mpr fun a ha hp => ?_
    exact Option.not_mem_none a ((h a).mp ⟨ha, hp⟩)
  | some b =>
    refine List.perm_singleton.mp ((List.perm_ext_iff_of_nodup (hnodup.filter p) (List.nodup_singleton b)).mpr ?_)
    intro a
    rw [List.mem_filter, h, List.mem_singleton, Option.mem_some_iff, eq_comm]

section Step
variable {sim : Simulation} {c c₁ : Client (Logged State)} {e : Event} {given taken : Option Handle}
  {opening : List ManagerCall} {made : Nat} {n : Connection}

namespace Exchange
variable (hx : c.Exchange sim e given taken opening c₁)
include hx

theorem handles_step : (c.step sim e).handles = c₁.handles := by rw [hx.step_eq, handles_giveUp]

theorem mem_handles_iff {h : Handle} : h ∈ given ∨ h ∈ (c.step sim e).handles ↔ h ∈ taken ∨ h ∈ c.handles := by
  have hmem := hx.handles.mem_iff (a := h)
  rwa [List.mem_append, List.mem_append, Option.mem_toList, Option.mem_toList, ← hx.handles_step] at hmem

theorem next_step : (c.step sim e).next = c₁.next := by rw [hx.step_eq, next_giveUp]

/-- Of the connections that were there before, none is held anew. -/
theorem holds_of_holds_step (hn : n < c.next) (h : (c.step sim e).holds n = true) : c.holds n = true := by
  obtain ⟨x, hx', rfl⟩ := holds_iff.mp h
  rcases hx.mem_handles_iff.mp (.inr hx') with htaken | hheld
  · rcases hx.connection with ⟨-, hconnection⟩ | ⟨-, hnew⟩
    · exact hconnection x htaken
    · rw [hnew] at htaken
      cases htaken
      exact absurd hn (Nat.lt_irrefl _)
  · exact holds_iff.mpr ⟨x, hheld, rfl⟩

/-- The connections that a step closes are those that the handle given up was the last on. -/
theorem closed_eq (hlt : ∀ n, c.holds n = true → n < c.next) :
    c.closed (c.step sim e) =
      ((given.map Handle.connection).filter fun n => !(c.step sim e).holds n).toList := by
  refine filter_eq_toList List.nodup_range fun n => ?_
  rw [Bool.and_eq_true, List.mem_range, Option.mem_filter_iff]
  constructor
  · rintro ⟨-, hheld, hgone⟩
    refine ⟨?_, hgone⟩
    obtain ⟨x, hmem, rfl⟩ := holds_iff.mp hheld
    rcases hx.mem_handles_iff.mpr (.inr hmem) with hgiven | hkept
    · exact Option.mem_map_of_mem Handle.connection hgiven
    · rw [holds_iff.mpr ⟨x, hkept, rfl⟩] at hgone
      cases hgone
  · rintro ⟨hgiven, hgone⟩
    obtain ⟨x, hmem, rfl⟩ := Option.map_eq_some_iff.mp hgiven
    have hheld := holds_iff.mpr ⟨x, hx.held x hmem, rfl⟩
    exact ⟨hlt _ hheld, hheld, hgone⟩

theorem live_perm : ((given.bind Handle.watch?).toList ++ (c.step sim e).live).Perm
    ((taken.bind Handle.watch?).toList ++ c.live) := by
  have hfilterMap (o : Option Handle) (l : List Handle) :
      (o.toList ++ l).filterMap Handle.watch? = (o.bind Handle.watch?).toList ++ l.filterMap Handle.watch? := by
    cases o with
    | none => rfl
    | some h => cases h <;> rfl
  have hperm := hx.handles.filterMap Handle.watch?
  rwa [hfilterMap, hfilterMap, ← hx.handles_step, filterMap_handles, filterMap_handles] at hperm

section Books
variable (hbooks : c.manager.state.Holds made c.live) (hroom : made + c.groupsMade sim e < UInt32.size)
include hbooks hroom

theorem books_step : (c.step sim e).manager.state.Holds (made + c.groupsMade sim e) (c.step sim e).live := by
  have hopened := ((hx.books made hbooks hroom).1).perm hx.live_perm.symm
  rw [hx.step_eq, live_giveUp] at hopened ⊢
  exact books_giveUp hopened sim

theorem connected_step (hconnected : c.manager.state.connected = true → c.handles ≠ [])
    (h : (c.step sim e).manager.state.connected = true) : (c.step sim e).handles ≠ [] := by
  rw [hx.handles_step]
  rw [hx.step_eq] at h
  -- Whoever is connected before anything is given up held something or takes something up.
  refine handles_ne_nil_of_connected (fun hopened hnil => ?_) h
  have hperm := hx.handles
  rw [hnil, List.nil_perm, List.append_eq_nil_iff] at hperm
  rcases (hx.books made hbooks hroom).2 hopened with hbefore | htaken
  · exact hconnected hbefore hperm.2
  · rw [Option.toList_eq_nil_iff.mp hperm.1] at htaken
    cases htaken

/-- The watches that are held no more are those that the handle given up was. -/
theorem givenUp_eq : c.givenUp (c.step sim e) = (given.bind Handle.watch?).toList := by
  have hnodup : ((taken.bind Handle.watch?).toList ++ c.live).Nodup :=
    List.Nodup.of_map Watch.group (hx.books made hbooks hroom).1.groups_nodup
  have hnodup' := hx.live_perm.nodup_iff.mpr hnodup
  refine filter_eq_toList (List.nodup_append.mp hnodup).2.1 fun w => ?_
  rw [decide_eq_true_eq]
  constructor
  · rintro ⟨hlive, hgone⟩
    have hmem := hx.live_perm.mem_iff.mpr (List.mem_append_right _ hlive)
    exact Option.mem_toList.mp ((List.mem_append.mp hmem).resolve_right hgone)
  · intro hgiven
    obtain ⟨h, hmem, hwatch⟩ := Option.bind_eq_some_iff.mp hgiven
    refine ⟨filterMap_handles c ▸ List.mem_filterMap.mpr ⟨h, hx.held h hmem, hwatch⟩, fun hkept => ?_⟩
    exact (List.nodup_append.mp hnodup').2.2 w (Option.mem_toList.mpr hgiven) w hkept rfl

/-- The groups of the watch given up are destroyed, and then the connection is closed. -/
theorem lifecycle_step (hlt : ∀ n, c.holds n = true → n < c.next) :
    (c.step sim e).manager.lifecycle =
      c.manager.lifecycle ++ opening ++ (c.givenUp (c.step sim e)).flatMap destroying ++
        (c.closed (c.step sim e)).map fun _ => .disconnect := by
  rw [hx.givenUp_eq hbooks hroom, hx.closed_eq hlt, ← hx.lifecycle]
  have hlog := lifecycle_giveUp sim.manager given c₁
  simp only [hx.step_eq, holds_giveUp]
  exact hlog

end Books
end Exchange

/-- A watch that is set up is held from then on. -/
theorem mem_live_of_watched {session key : String} {entities : List Entity} {fields : List FieldId} {intervalMs : Nat}
    {w : Watch} (hsession : c.sessions.get? session = some n) (hbooks : c.manager.state.Holds made c.live)
    (hroom : made + c.groupsMade sim (.watch session key entities fields intervalMs) < UInt32.size)
    (hwatched : (openWatch sim.manager.logged n key entities fields intervalMs c).1 = .ok w) :
    w ∈ (c.step sim (.watch session key entities fields intervalMs)).live := by
  obtain ⟨calls, u, hlogged, -⟩ := exists_startWatch_logged sim.manager "w" entities fields intervalMs c.manager
  rw [openWatch, hlogged] at hwatched
  rcases hrun : sim.manager.startWatch "w" entities fields intervalMs c.manager.state with ⟨e | w', t⟩
  · rw [hrun] at hwatched
    cases hwatched
  · rw [hrun] at hwatched
    cases hwatched
    obtain ⟨opening, v, hx⟩ := exchange_watch key hsession hrun
    have hmem := hx.live_perm.mem_iff.mpr (List.mem_append_left _ (Option.mem_toList.mpr rfl))
    refine (List.mem_append.mp hmem).resolve_left fun hgiven => ?_
    -- The watch that is given up was held before, and the new one is none of those.
    obtain ⟨h, hh, hwatch⟩ := Option.bind_eq_some_iff.mp (Option.mem_toList.mp hgiven)
    have hlive : w ∈ c.live := filterMap_handles c ▸ List.mem_filterMap.mpr ⟨h, hx.held h hh, hwatch⟩
    have hnodup := (hx.books made hbooks hroom).1.groups_nodup
    exact (List.nodup_cons.mp hnodup).1 (List.mem_map_of_mem hlive)

end Step

/-! ### Connections -/

/-- The account of the connections: each that was made is held or was closed once, and never both. -/
structure Accounted (closed : List Connection) (c : Client (Logged State)) : Prop where
  lt : ∀ n, c.holds n = true → n < c.next
  count : ∀ n < c.next, closed.count n = if c.holds n then 0 else 1
  made : ∀ n ∈ closed, n < c.next
  connects : c.manager.lifecycle.count .connect = c.next
  disconnects : c.manager.lifecycle.count .disconnect = closed.length

namespace Accounted
variable {sim : Simulation} {c c₁ : Client (Logged State)} {e : Event} {given taken : Option Handle}
  {opening : List ManagerCall} {made : Nat} {closed : List Connection}

theorem start : Accounted [] Client.start where
  lt _ h := absurd h Bool.false_ne_true
  count _ h := absurd h (Nat.not_lt_zero _)
  made := nofun
  connects := rfl
  disconnects := rfl

theorem mem_closed_iff {c c' : Client σ} {n : Connection} :
    n ∈ c.closed c' ↔ n < c.next ∧ c.holds n = true ∧ c'.holds n = false := by
  rw [Client.closed, List.mem_filter, List.mem_range, Bool.and_eq_true, Bool.not_eq_true']

/-- A connection that is new is held from then on. -/
theorem holds_new (h : Accounted closed c) (hx : c.Exchange sim e given taken opening c₁)
    (hnew : taken = some (.session c.next)) : (c.step sim e).holds c.next = true := by
  rcases hx.mem_handles_iff.mpr (.inl hnew) with hgiven | hheld
  · have hbefore := h.lt c.next (holds_iff.mpr ⟨_, hx.held _ hgiven, rfl⟩)
    exact absurd hbefore (Nat.lt_irrefl _)
  · exact holds_iff.mpr ⟨_, hheld, rfl⟩

theorem count_step (h : Accounted closed c) (hx : c.Exchange sim e given taken opening c₁) {n : Connection}
    (hn : n < (c.step sim e).next) :
    (closed ++ c.closed (c.step sim e)).count n = if (c.step sim e).holds n then 0 else 1 := by
  have hnodup : (c.closed (c.step sim e)).Nodup := List.nodup_range.filter _
  rw [List.count_append, hnodup.count]
  simp only [mem_closed_iff]
  by_cases hold : n < c.next
  · -- It may have been closed earlier, or be closed by this step, but not both.
    rw [h.count n hold]
    cases hbefore : c.holds n with
    | true => cases (c.step sim e).holds n <;> simp [hold]
    | false =>
      cases hafter : (c.step sim e).holds n with
      | true => rw [hx.holds_of_holds_step hold hafter] at hbefore; cases hbefore
      | false => simp
  · rcases hx.connection with ⟨hnext, -⟩ | ⟨hnext, hnew⟩
    · rw [hx.next_step, hnext] at hn
      exact absurd hn hold
    · rw [hx.next_step, hnext] at hn
      obtain rfl : n = c.next := Nat.le_antisymm (Nat.le_of_lt_succ hn) (Nat.le_of_not_lt hold)
      rw [List.count_eq_zero_of_not_mem fun hmem => hold (h.made _ hmem), h.holds_new hx hnew]
      simp

theorem step (h : Accounted closed c) (hx : c.Exchange sim e given taken opening c₁)
    (hbooks : c.manager.state.Holds made c.live) (hroom : made + c.groupsMade sim e < UInt32.size) :
    Accounted (closed ++ c.closed (c.step sim e)) (c.step sim e) := by
  have hle : c.next ≤ (c.step sim e).next := by
    rw [hx.next_step, hx.next]
    exact Nat.le_add_right _ _
  have hlog := hx.lifecycle_step hbooks hroom h.lt
  refine ⟨fun n hn => ?_, fun n hn => h.count_step hx hn, fun n hn => ?_, ?_, ?_⟩
  · obtain ⟨x, hmem, rfl⟩ := holds_iff.mp hn
    rcases hx.mem_handles_iff.mp (.inr hmem) with htaken | hheld
    · rcases hx.connection with ⟨-, hconnection⟩ | ⟨hnext, hnew⟩
      · exact Nat.lt_of_lt_of_le (h.lt _ (hconnection x htaken)) hle
      · rw [hnew] at htaken
        cases htaken
        rw [hx.next_step, hnext]
        exact Nat.lt_succ_self _
    · exact Nat.lt_of_lt_of_le (h.lt _ (holds_iff.mpr ⟨x, hheld, rfl⟩)) hle
  · rcases List.mem_append.mp hn with hearlier | hnow
    · exact Nat.lt_of_lt_of_le (h.made n hearlier) hle
    · exact Nat.lt_of_lt_of_le (mem_closed_iff.mp hnow).1 hle
  · have hdestroying : ((c.givenUp (c.step sim e)).flatMap destroying).count .connect = 0 :=
      List.count_eq_zero_of_not_mem (by simp [destroying])
    have hdisconnecting : ((c.closed (c.step sim e)).map fun _ => ManagerCall.disconnect).count .connect = 0 :=
      List.count_eq_zero_of_not_mem (by simp)
    rw [hlog, List.count_append, List.count_append, List.count_append, h.connects, hdestroying, hdisconnecting,
      hx.next_step, hx.next]
    rfl
  · have hdestroying : ((c.givenUp (c.step sim e)).flatMap destroying).count .disconnect = 0 :=
      List.count_eq_zero_of_not_mem (by simp [destroying])
    rw [hlog, List.count_append, List.count_append, List.count_append, h.disconnects, hdestroying,
      List.count_eq_zero_of_not_mem hx.disconnect_not_mem, List.map_const', List.count_replicate_self,
      List.length_append]
    rfl

end Accounted

/-! ### Every run -/

/-- What holds after every run: the groups and what is watched are those of the watches that are held, whoever
    is connected holds something, and the connections are accounted for. -/
structure Kept (made : Nat) (closed : List Connection) (c : Client (Logged State)) : Prop where
  books : c.manager.state.Holds made c.live
  connected : c.manager.state.connected = true → c.handles ≠ []
  accounted : Accounted closed c

namespace Kept
variable {sim : Simulation} {c : Client (Logged State)} {made : Nat} {closed : List Connection}

theorem start : Kept 0 [] Client.start := ⟨.start, nofun, .start⟩

theorem step (h : Kept made closed c) {e : Event} (hroom : made + c.groupsMade sim e < UInt32.size) :
    Kept (made + c.groupsMade sim e) (closed ++ c.closed (c.step sim e)) (c.step sim e) := by
  obtain ⟨given, taken, opening, c₁, hx⟩ := exists_exchange sim c e
  exact ⟨hx.books_step h.books hroom, hx.connected_step h.books hroom h.connected,
    h.accounted.step hx h.books hroom⟩

theorem steps (h : Kept made closed c) (es : List Event) (hroom : made + c.groupsMadeBy sim es < UInt32.size) :
    Kept (made + c.groupsMadeBy sim es) (closed ++ c.closings sim es) (c.steps sim es) := by
  induction es generalizing c made closed with
  | nil => exact (List.append_nil closed).symm ▸ h
  | cons e es ih =>
    rw [groupsMadeBy, ← Nat.add_assoc] at hroom ⊢
    rw [closings, ← List.append_assoc]
    exact ih (h.step (by omega)) hroom

end Kept

section Concat
variable (sim : Simulation) (c : Client (Logged State)) (es : List Event) (e : Event)

theorem groupsMadeBy_concat :
    c.groupsMadeBy sim (es ++ [e]) = c.groupsMadeBy sim es + (c.steps sim es).groupsMade sim e := by
  induction es generalizing c with
  | nil => exact Nat.add_comm _ _
  | cons e' es ih =>
    rw [List.cons_append, groupsMadeBy, ih, groupsMadeBy, Nat.add_assoc]
    rfl

theorem closings_concat :
    c.closings sim (es ++ [e]) = c.closings sim es ++ (c.steps sim es).closed ((c.steps sim es).step sim e) := by
  induction es generalizing c with
  | nil => exact List.append_nil _
  | cons e' es ih =>
    rw [List.cons_append, closings, ih, closings, List.append_assoc]
    rfl

end Concat

/-- After every step of every run, the open groups and what is watched are those of the watches that are held. A
    watch that is set up is one of these, and one that fails leaves all as it was. Every connection that was made
    is held or was closed once; what a step closes is what it gave up the last handle on, and the groups of that
    handle are destroyed before. Where nothing is held, no group is open and no one is connected. -/
theorem handles_keep_books (sim : Simulation) (es : List Event) (e : Event)
    (hroom : start.groupsMadeBy sim (es ++ [e]) < UInt32.size) :
    let c := start.steps sim es
    let c' := c.step sim e
    let closed := start.closings sim (es ++ [e])
    ((c'.manager.state.groups.map Prod.fst).Perm (c'.live.map Watch.group) ∧
        (c'.manager.state.fieldGroups.map Prod.fst).Perm (c'.live.map Watch.fieldGroup) ∧
        c'.manager.state.watched.Perm (c'.live.map fun w => (w.group, w.fieldGroup)) ∧
        c'.manager.state.openGroups = 2 * c'.live.length) ∧
      (∀ session key entities fields intervalMs n, e = .watch session key entities fields intervalMs →
        c.sessions.get? session = some n →
        match (openWatch sim.manager.logged n key entities fields intervalMs c).1 with
        | .ok w => w ∈ c'.live
        | .error _ =>
          c'.handles = c.handles ∧ c'.manager.state.groups = c.manager.state.groups ∧
            c'.manager.state.fieldGroups = c.manager.state.fieldGroups ∧
            c'.manager.state.watched = c.manager.state.watched) ∧
      (c'.manager.lifecycle.count .connect = c'.next ∧ c'.manager.lifecycle.count .disconnect = closed.length ∧
        ∀ n < c'.next, closed.count n = if c'.holds n then 0 else 1) ∧
      (∃ opening, .disconnect ∉ opening ∧
        c'.manager.lifecycle =
          c.manager.lifecycle ++ opening ++ (c.givenUp c').flatMap destroying ++
            (c.closed c').map fun _ => .disconnect) ∧
      (c'.handles = [] → c'.manager.state.openGroups = 0 ∧ c'.manager.state.connected = false) := by
  intro c c' closed
  rw [groupsMadeBy_concat] at hroom
  have hbefore : Kept (0 + start.groupsMadeBy sim es) (start.closings sim es) c := Kept.start.steps es (by omega)
  have hroom' : 0 + start.groupsMadeBy sim es + c.groupsMade sim e < UInt32.size := by rwa [Nat.zero_add]
  have hafter := hbefore.step hroom'
  rw [← closings_concat] at hafter
  obtain ⟨given, taken, opening, c₁, hx⟩ := exists_exchange sim c e
  refine ⟨⟨hafter.books.groups, hafter.books.fieldGroups, hafter.books.watched, hafter.books.openGroups_eq⟩, ?_,
    ⟨hafter.accounted.connects, hafter.accounted.disconnects, hafter.accounted.count⟩,
    ⟨opening, hx.disconnect_not_mem, hx.lifecycle_step hbefore.books hroom' hbefore.accounted.lt⟩, ?_⟩
  · rintro session key entities fields intervalMs n rfl hsession
    split
    · next w hwatched => exact mem_live_of_watched hsession hbefore.books hroom' hwatched
    · next err hfailed => exact step_of_failed hsession hbefore.books hroom' hfailed
  · intro hnone
    have hlive : c'.live = [] := by rw [← filterMap_handles, hnone, List.filterMap_nil]
    have hopen := hafter.books.openGroups_eq
    rw [hlive] at hopen
    refine ⟨hopen, ?_⟩
    cases hconnected : c'.manager.state.connected with
    | false => rfl
    | true => exact absurd hnone (hafter.connected hconnected)

/-- A watch that outlives its sessions and the connection, and is then given up. -/
theorem handles_keep_books_outliving :
    let es : List Event := [.connect "a", .clone "a" "b", .watch "b" "w" [Entity.device 0] [150] 1000, .dropSession "a",
      .loseConnection, .dropSession "b"]
    let c := start.steps Simulation.standard es
    let c' := c.step Simulation.standard (.dropWatch "w")
    start.groupsMadeBy Simulation.standard (es ++ [.dropWatch "w"]) < UInt32.size ∧ c.live.length = 1 ∧
      c.closed c' = [0] ∧ c'.manager.state.openGroups = 0 ∧ c'.manager.state.connected = false := by
  intro es c c'
  have hroom : start.groupsMadeBy Simulation.standard (es ++ [.dropWatch "w"]) < UInt32.size := by decide +kernel
  obtain ⟨-, -, -, -, hnone⟩ := handles_keep_books Simulation.standard es (.dropWatch "w") hroom
  exact ⟨hroom, by decide +kernel, by decide +kernel, hnone (by decide +kernel)⟩

end Client
end Telemetry

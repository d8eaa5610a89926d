import Telemetry.Device.Client
import Telemetry.Proofs.Collector.Life
import Telemetry.Proofs.Simulation.Groups

/-! What happens to the handles of a client of simulated devices. Sessions and watches are opened, cloned and
    dropped in any order, and the connection may be lost in between; every step takes up a handle or none, and
    gives one up or none. -/

namespace Telemetry
namespace Client
open Logged Simulation
open scoped List

variable {σ : Type}

/-! ### Handles -/

/-- The calls that destroy the groups of a watch. -/
def destroying (w : Watch) : List ManagerCall := [.destroyFieldGroup w.fieldGroup, .destroyGroup w.group]

/-- What keeps a connection open. -/
inductive Handle where
  | session (connection : Connection)
  | watch (held : HeldWatch)
  deriving DecidableEq, Repr

namespace Handle

def connection : Handle → Connection
  | session n => n
  | watch w => w.connection

def watch? : Handle → Option Watch
  | session _ => none
  | watch w => some w.watch

/-- The calls that destroy what belongs to the handle alone. -/
def destroys (h : Handle) : List ManagerCall := h.watch?.toList.flatMap destroying

/-- Destroys what belongs to the handle alone. -/
def destroy (m : DeviceManager σ) : Handle → σ → σ
  | session _, s => s
  | watch w, s => m.stopWatch w.watch s

end Handle

/-- The sessions and the watches that are held. -/
def handles (c : Client σ) : List Handle :=
  c.sessions.values.map Handle.session ++ c.watches.values.map Handle.watch

/-- The watches that are held. -/
def live (c : Client σ) : List Watch := c.watches.values.map HeldWatch.watch

/-- Gives up a handle, if there was one: what belongs to it is destroyed, and then its connection is closed
    unless another handle keeps it open. -/
def giveUp (m : DeviceManager σ) (former : Option Handle) (c : Client σ) : Client σ :=
  match former with
  | none => c
  | some h => { c with manager := h.destroy m c.manager }.settle m h.connection

section Handles
variable {c : Client σ} {m : DeviceManager σ} {n : Connection} {former : Option Handle}

theorem holds_iff : c.holds n = true ↔ ∃ h ∈ c.handles, h.connection = n := by
  simp only [holds, handles, SortedMap.values, Bool.or_eq_true, List.any_eq_true, beq_iff_eq, List.mem_append,
    List.mem_map, or_and_right, exists_or, exists_exists_and_eq_and, Handle.connection]

theorem filterMap_handles (c : Client σ) : c.handles.filterMap Handle.watch? = c.live := by
  have hsessions : (c.sessions.values.map Handle.session).filterMap Handle.watch? = [] := by
    rw [List.filterMap_map]
    exact List.filterMap_eq_nil_iff.mpr fun _ _ => rfl
  have hwatches : (c.watches.values.map Handle.watch).filterMap Handle.watch? = c.live := by
    rw [List.filterMap_map, live, ← List.filterMap_eq_map]
    rfl
  rw [handles, List.filterMap_append, hsessions, hwatches, List.nil_append]

theorem giveUpSession_eq (m : DeviceManager σ) (former : Option Connection) (c : Client σ) :
    c.giveUpSession m former = c.giveUp m (former.map Handle.session) := by
  cases former <;> rfl

theorem giveUpWatch_eq (m : DeviceManager σ) (former : Option HeldWatch) (c : Client σ) :
    c.giveUpWatch m former = c.giveUp m (former.map Handle.watch) := by
  cases former <;> rfl

theorem settle_eq (m : DeviceManager σ) (n : Connection) (c : Client σ) :
    c.settle m n = { c with manager := if c.holds n then c.manager else m.disconnect c.manager } := by
  rw [settle]
  split <;> rfl

theorem giveUp_eq (m : DeviceManager σ) (former : Option Handle) (c : Client σ) :
    c.giveUp m former = { c with manager := (c.giveUp m former).manager } := by
  cases former with
  | none => rfl
  | some h => rw [giveUp, settle_eq]

@[simp] theorem handles_giveUp : (c.giveUp m former).handles = c.handles := by
  rw [giveUp_eq]
  rfl

@[simp] theorem live_giveUp : (c.giveUp m former).live = c.live := by
  rw [giveUp_eq]
  rfl

@[simp] theorem holds_giveUp : (c.giveUp m former).holds n = c.holds n := by
  rw [giveUp_eq]
  rfl

@[simp] theorem next_giveUp : (c.giveUp m former).next = c.next := by
  rw [giveUp_eq]

end Handles

/-! ### Runs -/

/-- What happens to the handles and to the connection. -/
inductive Event where
  | connect (key : String)
  | clone (key newKey : String)
  | dropSession (key : String)
  | watch (session key : String) (entities : List Entity) (fields : List FieldId) (intervalMs : Nat)
  | dropWatch (key : String)
  | loseConnection
  deriving DecidableEq, Repr

variable (sim : Simulation)

/-- What an event does; nothing, if it is about a session or a watch that is not held. -/
def step (c : Client (Logged State)) : Event → Client (Logged State)
  | .connect key => Action.after (openSession sim.manager.logged key) c
  | .clone key newKey => (c.cloneSession? sim.manager.logged key newKey).getD c
  | .dropSession key => (c.dropSession sim.manager.logged key).2
  | .watch session key entities fields intervalMs =>
    match c.sessions.get? session with
    | none => c
    | some n => Action.after (openWatch sim.manager.logged n key entities fields intervalMs) c
  | .dropWatch key => (c.dropWatch sim.manager.logged key).2
  | .loseConnection => { c with manager := { c.manager with state := c.manager.state.dropConnection } }

def steps (c : Client (Logged State)) (es : List Event) : Client (Logged State) := es.foldl (step sim) c

/-- A client that holds nothing, of devices that were never used. -/
def start : Client (Logged State) := { manager := { state := {} } }

/-- The number of groups that an event creates. -/
def groupsMade (c : Client (Logged State)) : Event → Nat
  | .watch session _ entities fields _ =>
    match c.sessions.get? session with
    | none => 0
    | some _ => sim.groupsMade entities fields c.manager.state
  | _ => 0

/-- The number of groups that events create, one after the other. -/
def groupsMadeBy (c : Client (Logged State)) : List Event → Nat
  | [] => 0
  | e :: es => c.groupsMade sim e + groupsMadeBy (c.step sim e) es

/-! ### What a step exchanges -/

/-- A step opens something for a handle that it takes up, or for none, and leads to a client that has this
    handle in place of another, which it then gives up. -/
structure Exchange (c : Client (Logged State)) (e : Event) (given taken : Option Handle) (opening : List ManagerCall)
    (c₁ : Client (Logged State)) : Prop where
  step_eq : c.step sim e = c₁.giveUp sim.manager.logged given
  held : ∀ h ∈ given, h ∈ c.handles
  handles : (given.toList ++ c₁.handles).Perm (taken.toList ++ c.handles)
  lifecycle : c₁.manager.lifecycle = c.manager.lifecycle ++ opening
  disconnect_not_mem : .disconnect ∉ opening
  next : c₁.next = c.next + opening.count .connect
  connection : c₁.next = c.next ∧ (∀ h ∈ taken, c.holds h.connection = true) ∨
    c₁.next = c.next + 1 ∧ taken = some (.session c.next)
  books : ∀ made, c.manager.state.Holds made c.live → made + c.groupsMade sim e < UInt32.size →
    -- Nothing is given up yet: the groups of a watch that is taken up come to those that were there.
    c₁.manager.state.Holds (made + c.groupsMade sim e) ((taken.bind Handle.watch?).toList ++ c.live) ∧
      (c₁.manager.state.connected = true → c.manager.state.connected = true ∨ taken.isSome = true)

section Keys
variable {α : Type} {f : α → Handle} {m : SortedMap α} {key : String} {l l' : List Handle} {given taken : List Handle}

theorem perm_insert (f : α → Handle) (m : SortedMap α) (key : String) (a : α) :
    (((m.get? key).map f).toList ++ (m.insert key a).values.map f).Perm ((some (f a)).toList ++ m.values.map f) := by
  have hvalues := (m.perm_values_insert key a).map f
  rwa [List.map_append, ← Option.toList_map, List.map_cons] at hvalues

theorem perm_erase (f : α → Handle) (m : SortedMap α) (key : String) :
    (((m.get? key).map f).toList ++ (m.erase key).values.map f).Perm
      ((none : Option Handle).toList ++ m.values.map f) := by
  have hvalues := (m.perm_values_erase key).map f
  rwa [List.map_append, ← Option.toList_map] at hvalues

theorem mem_of_get? {h : Handle} (hh : h ∈ (m.get? key).map f) : h ∈ m.values.map f :=
  (perm_erase f m key).subset (List.mem_append_left _ (Option.mem_toList.mpr hh))

theorem perm_sessions (h : (given ++ l').Perm (taken ++ l)) (watches : List Handle) :
    (given ++ (l' ++ watches)).Perm (taken ++ (l ++ watches)) := by
  rw [← List.append_assoc, ← List.append_assoc]
  exact h.append_right watches

theorem perm_watches (h : (given ++ l').Perm (taken ++ l)) (sessions : List Handle) :
    (given ++ (sessions ++ l')).Perm (taken ++ (sessions ++ l)) :=
  calc given ++ (sessions ++ l')
    _ ~ sessions ++ (given ++ l') := List.perm_append_comm_assoc ..
    _ ~ sessions ++ (taken ++ l) := h.append_left sessions
    _ ~ taken ++ (sessions ++ l) := List.perm_append_comm_assoc ..

end Keys

section Exchange
variable {sim : Simulation} {c : Client (Logged State)}

/-- Where nothing is opened, handles are exchanged and that is all. -/
theorem exchange_of_unopened {e : Event} {given taken : Option Handle} {c₁ : Client (Logged State)}
    (hstep : c.step sim e = c₁.giveUp sim.manager.logged given) (held : ∀ h ∈ given, h ∈ c.handles)
    (handles : (given.toList ++ c₁.handles).Perm (taken.toList ++ c.handles)) (hmanager : c₁.manager = c.manager)
    (hnext : c₁.next = c.next) (hmade : c.groupsMade sim e = 0)
    (htaken : ∀ h ∈ taken, c.holds h.connection = true ∧ h.watch? = none) : c.Exchange sim e given taken [] c₁ where
  step_eq := hstep
  held := held
  handles := handles
  lifecycle := by rw [hmanager, List.append_nil]
  disconnect_not_mem := List.not_mem_nil
  next := hnext
  connection := .inl ⟨hnext, fun h hh => (htaken h hh).1⟩
  books made h _ := by
    have hnone : taken.bind Handle.watch? = none := Option.bind_eq_none_iff.mpr fun h hh => (htaken h hh).2
    rw [hnone, hmade, hmanager]
    exact ⟨h, .inl⟩

theorem exchange_nothing {e : Event} (hstep : c.step sim e = c) (hmade : c.groupsMade sim e = 0) :
    c.Exchange sim e none none [] c :=
  exchange_of_unopened hstep nofun (.refl _) rfl rfl hmade nofun

theorem exchange_connect (sim : Simulation) (c : Client (Logged State)) (key : String) :
    c.Exchange sim (.connect key) ((c.sessions.get? key).map .session) (some (.session c.next)) [.connect]
      { c with
        manager := record .connect { c.manager.state with connected := true } c.manager.calls
        sessions := c.sessions.insert key c.next
        next := c.next + 1 } where
  step_eq := giveUpSession_eq _ _ _
  held _ h := List.mem_append_left _ (mem_of_get? h)
  handles := perm_sessions (perm_insert Handle.session c.sessions key c.next) _
  lifecycle := lifecycle_record _ _ _
  disconnect_not_mem := by simp
  next := rfl
  connection := .inr ⟨rfl, rfl⟩
  books _ h _ := ⟨h.of_books_eq rfl, fun _ => .inr rfl⟩

theorem exchange_clone {n : Connection} {key : String} (h : c.sessions.get? key = some n) (sim : Simulation)
    (newKey : String) :
    c.Exchange sim (.clone key newKey) ((c.sessions.get? newKey).map .session) (some (.session n)) []
      { c with sessions := c.sessions.insert newKey n } := by
  have hheld : .session n ∈ c.handles := List.mem_append_left _ (mem_of_get? (by rw [h]; rfl))
  refine exchange_of_unopened ?_ (fun _ h => List.mem_append_left _ (mem_of_get? h))
    (perm_sessions (perm_insert Handle.session c.sessions newKey n) _) rfl rfl rfl ?_
  · rw [step, cloneSession?, h, Option.map_some, Option.getD_some, keepSession, giveUpSession_eq]
  · rintro _ ⟨⟩
    exact ⟨holds_iff.mpr ⟨_, hheld, rfl⟩, rfl⟩

theorem exchange_dropSession (sim : Simulation) (c : Client (Logged State)) (key : String) :
    c.Exchange sim (.dropSession key) ((c.sessions.get? key).map .session) none []
      { c with sessions := c.sessions.erase key } :=
  exchange_of_unopened (giveUpSession_eq _ _ _) (fun _ h => List.mem_append_left _ (mem_of_get? h))
    (perm_sessions (perm_erase Handle.session c.sessions key) _) rfl rfl rfl nofun

theorem exchange_dropWatch (sim : Simulation) (c : Client (Logged State)) (key : String) :
    c.Exchange sim (.dropWatch key) ((c.watches.get? key).map .watch) none []
      { c with watches := c.watches.erase key } :=
  exchange_of_unopened (giveUpWatch_eq _ _ _) (fun _ h => List.mem_append_right _ (mem_of_get? h))
    (perm_watches (perm_erase Handle.watch c.watches key) _) rfl rfl rfl nofun

theorem exchange_loseConnection (sim : Simulation) (c : Client (Logged State)) :
    c.Exchange sim .loseConnection none none []
      { c with manager := { c.manager with state := c.manager.state.dropConnection } } where
  step_eq := rfl
  held := nofun
  handles := .refl _
  lifecycle := (List.append_nil _).symm
  disconnect_not_mem := List.not_mem_nil
  next := rfl
  connection := .inl ⟨rfl, nofun⟩
  books _ h _ := ⟨h.of_books_eq rfl, nofun⟩

/-- Setting up a watch opens and closes no connection. -/
theorem exists_startWatch_logged (m : DeviceManager σ) (name : String) (entities : List Entity) (fields : List FieldId)
    (intervalMs : Nat) (s : Logged σ) :
    ∃ calls u, m.logged.startWatch name entities fields intervalMs s =
        ((m.startWatch name entities fields intervalMs s.state).1, u) ∧
      Since s calls (m.startWatch name entities fields intervalMs s.state).2 u ∧
      .connect ∉ calls ∧ .disconnect ∉ calls := by
  rcases hg : m.createGroup name entities s.state with ⟨e | g, t⟩
  · obtain ⟨u, hrun, hsince⟩ := gives_startWatch_ungrouped hg s rfl
    rw [DeviceManager.startWatch_ungrouped hg]
    exact ⟨_, u, hrun, hsince, by simp, by simp⟩
  rcases hf : m.createFieldGroup name fields t with ⟨e | f, t'⟩
  · obtain ⟨u, hrun, hsince⟩ := gives_startWatch_unfielded hg hf s rfl
    rw [DeviceManager.startWatch_unfielded hg hf]
    exact ⟨_, u, hrun, hsince, by simp, by simp⟩
  rcases hw : m.watchFields g f intervalMs t' with ⟨e | ⟨⟩, t''⟩
  · obtain ⟨u, hrun, hsince⟩ := gives_startWatch_unwatched hg hf hw s rfl
    rw [DeviceManager.startWatch_unwatched hg hf hw]
    exact ⟨_, u, hrun, hsince, by simp, by simp⟩
  · obtain ⟨u, hrun, hsince⟩ := gives_startWatch hg hf hw s rfl
    rw [DeviceManager.startWatch_watched hg hf hw]
    exact ⟨_, u, hrun, hsince, by simp, by simp⟩

section Watch
variable {session : String} {entities : List Entity} {fields : List FieldId} {intervalMs : Nat} {n : Connection}
  {t : State}

theorem exchange_watch_failed {e : DeviceError} (key : String) (hsession : c.sessions.get? session = some n)
    (hrun : sim.manager.startWatch "w" entities fields intervalMs c.manager.state = (.error e, t)) :
    ∃ opening u, u.state = t ∧
      c.Exchange sim (.watch session key entities fields intervalMs) none none opening { c with manager := u } := by
  obtain ⟨calls, u, hlogged, hsince, hconnect, hdisconnect⟩ :=
    exists_startWatch_logged sim.manager "w" entities fields intervalMs c.manager
  rw [hrun] at hlogged hsince
  refine ⟨calls, u, hsince.state, ?_, nofun, .refl _, hsince.lifecycle, hdisconnect, ?_, .inl ⟨rfl, nofun⟩,
    fun made hbooks hroom => ?_⟩
  · rw [step, hsession]
    dsimp only
    rw [Action.after, openWatch, hlogged]
    rfl
  · rw [List.count_eq_zero_of_not_mem hconnect]
    rfl
  · rw [groupsMade, hsession] at hroom ⊢
    rcases hbooks.startWatch_cases hroom "w" intervalMs with ⟨e', t', hrun', hsame, hbooks'⟩ | ⟨w, t', hrun', -⟩
    · obtain ⟨-, rfl⟩ := Prod.mk.inj (hrun.symm.trans hrun')
      dsimp only
      rw [hsince.state]
      exact ⟨hbooks', fun h => .inl (by rw [hsame] at h; exact h)⟩
    · cases hrun.symm.trans hrun'

theorem exchange_watch {w : Watch} (key : String) (hsession : c.sessions.get? session = some n)
    (hrun : sim.manager.startWatch "w" entities fields intervalMs c.manager.state = (.ok w, t)) :
    ∃ opening u,
      c.Exchange sim (.watch session key entities fields intervalMs) ((c.watches.get? key).map .watch)
        (some (.watch { watch := w, connection := n })) opening
        { c with manager := u, watches := c.watches.insert key { watch := w, connection := n } } := by
  obtain ⟨calls, u, hlogged, hsince, hconnect, hdisconnect⟩ :=
    exists_startWatch_logged sim.manager "w" entities fields intervalMs c.manager
  rw [hrun] at hlogged hsince
  refine ⟨calls, u, ?_, fun _ h => List.mem_append_right _ (mem_of_get? h),
    perm_watches (perm_insert Handle.watch c.watches key _) _, hsince.lifecycle, hdisconnect, ?_, .inl ⟨rfl, ?_⟩,
    fun made hbooks hroom => ?_⟩
  · rw [step, hsession]
    dsimp only
    rw [Action.after, openWatch, hlogged]
    exact giveUpWatch_eq _ _ _
  · rw [List.count_eq_zero_of_not_mem hconnect]
    rfl
  · rintro _ ⟨⟩
    exact holds_iff.mpr ⟨.session n, List.mem_append_left _ (mem_of_get? (by rw [hsession]; rfl)), rfl⟩
  · rw [groupsMade, hsession] at hroom ⊢
    rcases hbooks.startWatch_cases hroom "w" intervalMs with ⟨e', t', hrun', -⟩ | ⟨w', t', hrun', hconnected, hbooks'⟩
    · cases hrun.symm.trans hrun'
    · cases hrun.symm.trans hrun'
      dsimp only
      rw [hsince.state]
      exact ⟨hbooks', fun h => .inl (hconnected ▸ h)⟩

/-- A watch that fails leaves the handles, the groups and what is watched as they were. -/
theorem step_of_failed {made : Nat} {key : String} {e : DeviceError} (hsession : c.sessions.get? session = some n)
    (hbooks : c.manager.state.Holds made c.live)
    (hroom : made + c.groupsMade sim (.watch session key entities fields intervalMs) < UInt32.size)
    (hfailed : (openWatch sim.manager.logged n key entities fields intervalMs c).1 = .error e) :
    (c.step sim (.watch session key entities fields intervalMs)).handles = c.handles ∧
      (c.step sim (.watch session key entities fields intervalMs)).manager.state.groups = c.manager.state.groups ∧
      (c.step sim (.watch session key entities fields intervalMs)).manager.state.fieldGroups =
        c.manager.state.fieldGroups ∧
      (c.step sim (.watch session key entities fields intervalMs)).manager.state.watched =
        c.manager.state.watched := by
  obtain ⟨calls, v, hlogged, -⟩ := exists_startWatch_logged sim.manager "w" entities fields intervalMs c.manager
  rw [groupsMade, hsession] at hroom
  rcases hbooks.startWatch_cases hroom "w" intervalMs with ⟨e', t, hrun, hsame, -⟩ | ⟨w, t, hrun, -⟩
  · obtain ⟨opening, u, rfl, hx⟩ := exchange_watch_failed key hsession hrun
    rw [hx.step_eq]
    have hgroups : u.state.groups = c.manager.state.groups := by rw [hsame]
    have hfieldGroups : u.state.fieldGroups = c.manager.state.fieldGroups := by rw [hsame]
    have hwatched : u.state.watched = c.manager.state.watched := by rw [hsame]
    exact ⟨rfl, hgroups, hfieldGroups, hwatched⟩
  · rw [hrun] at hlogged
    rw [openWatch, hlogged] at hfailed
    cases hfailed

end Watch

/-- Every step exchanges a handle for another, or for none. -/
theorem exists_exchange (sim : Simulation) (c : Client (Logged State)) (e : Event) :
    ∃ given taken opening c₁, c.Exchange sim e given taken opening c₁ := by
  cases e with
  | connect key => exact ⟨_, _, _, _, exchange_connect sim c key⟩
  | clone key newKey =>
    cases hsession : c.sessions.get? key with
    | none => exact ⟨_, _, _, _, exchange_nothing (by rw [step, cloneSession?, hsession]; rfl) rfl⟩
    | some n => exact ⟨_, _, _, _, exchange_clone hsession sim newKey⟩
  | dropSession key => exact ⟨_, _, _, _, exchange_dropSession sim c key⟩
  | watch session key entities fields intervalMs =>
    cases hsession : c.sessions.get? session with
    | none => exact ⟨_, _, _, _, exchange_nothing (by rw [step, hsession]) (by rw [groupsMade, hsession])⟩
    | some n =>
      rcases hrun : sim.manager.startWatch "w" entities fields intervalMs c.manager.state with ⟨e | w, t⟩
      · obtain ⟨opening, u, -, hexchange⟩ := exchange_watch_failed key hsession hrun
        exact ⟨_, _, _, _, hexchange⟩
      · obtain ⟨opening, u, hexchange⟩ := exchange_watch key hsession hrun
        exact ⟨_, _, _, _, hexchange⟩
  | dropWatch key => exact ⟨_, _, _, _, exchange_dropWatch sim c key⟩
  | loseConnection => exact ⟨_, _, _, _, exchange_loseConnection sim c⟩

end Exchange

end Client
end Telemetry

import Telemetry.Proofs.SortedMap
import Telemetry.Settings.Loading

/-! What is under a key when layers of values lie one over the other. Where keys lead to no place within a value and
    no value is a table, a layer puts its values in place of what the keys had, and all other keys keep theirs. -/

namespace Telemetry

open SortedMap

namespace SettingValue
variable {k : String} {v base : SettingValue} {es es' : List (String × SettingValue)}

/-! ### Keys -/

/-- A key that leads to no place within: no further step can follow any part of it. -/
def IsName (k : String) : Prop := '.' ∉ k.toList ∧ '[' ∉ k.toList

instance (k : String) : Decidable (IsName k) := inferInstanceAs (Decidable (_ ∧ _))

theorem readSteps_of_ne {c : Char} (hpoint : c ≠ '.') (hbracket : c ≠ '[') (fuel : Nat) (cs : List Char) :
    readSteps fuel (c :: cs) = none := by
  unfold readSteps
  split
  · contradiction
  · rfl
  · next heq => exact absurd (List.cons.inj heq).1 hpoint
  · next heq => exact absurd (List.cons.inj heq).1 hbracket
  · rfl

theorem path_of_isName (h : IsName k) : path k = (k, []) := by
  simp only [path]
  cases hrest : k.toList.drop (k.toList.takeWhile isKeyChar).length with
  | nil =>
    have hall : k.toList.takeWhile isKeyChar = k.toList :=
      (List.takeWhile_prefix isKeyChar).eq_of_length_le (List.drop_eq_nil_iff.mp hrest)
    rw [hall, String.ofList_toList]
    split <;> simp_all [readSteps]
  | cons c cs =>
    have hc : c ∈ k.toList := List.mem_of_mem_drop (hrest ▸ List.mem_cons_self)
    have hpoint : c ≠ '.' := fun heq => h.1 (heq ▸ hc)
    have hbracket : c ≠ '[' := fun heq => h.2 (heq ▸ hc)
    rw [readSteps_of_ne hpoint hbracket, ite_self]

/-! ### Layers -/

/-- Entries that each put a value in place of what their key had. -/
def Plain (es : List (String × SettingValue)) : Prop := ∀ e ∈ es, IsName e.1 ∧ ∀ inner, e.2 ≠ .table inner

theorem lookup_putEntry (j k : String) (v : SettingValue) (es : List (String × SettingValue)) :
    lookup j (putEntry k v es) = if k = j then some v else lookup j es := by
  induction es with
  | nil => rfl
  | cons e es ih =>
    rw [putEntry]
    split
    · next heq =>
      rw [lookup, lookup, heq]
      split <;> rfl
    · next hne =>
      rw [lookup, lookup, ih]
      split
      · next heq => rw [if_neg fun hk => hne (heq.trans hk.symm)]
      · rfl

theorem get?_overlay {j : String} (hv : ∀ inner, v ≠ .table inner) :
    (overlay k v base).get? j = if k = j then some v else base.get? j := by
  cases v with
  | table inner => exact absurd rfl (hv inner)
  | _ => exact lookup_putEntry j k _ base.entries

/-- A layer has its own values, and gives what lies below it for all other keys. -/
theorem get?_layer (hes : Plain es) (k : String) (base : SettingValue) :
    (base.layer es).get? k = (lookup k es.reverse).or (base.get? k) := by
  induction es generalizing base with
  | nil => rfl
  | cons e es ih =>
    obtain ⟨⟨hname, hleaf⟩, hrest⟩ := List.forall_mem_cons.mp hes
    have hcons : base.layer (e :: es) = (overlay e.1 e.2 base).layer es := by
      simp only [layer, List.foldl_cons, path_of_isName hname, putAt]
    rw [hcons, ih hrest, get?_overlay hleaf, List.reverse_cons, lookup_append, Option.or_assoc, lookup]
    split <;> rfl

theorem putEntry_of_forall_ne (h : ∀ e ∈ es, e.1 ≠ k) : putEntry k v es = es ++ [(k, v)] := by
  induction es with
  | nil => rfl
  | cons e es ih =>
    obtain ⟨hne, hes⟩ := List.forall_mem_cons.mp h
    rw [putEntry, if_neg hne, ih hes, List.cons_append]

/-- Entries of which no key comes again stay as they are when each is put where its key was. -/
theorem foldl_putEntry (h : ((es ++ es').map Prod.fst).Nodup) :
    es'.foldl (fun t e => putEntry e.1 e.2 t) es = es ++ es' := by
  induction es' generalizing es with
  | nil => rw [List.foldl_nil, List.append_nil]
  | cons e es' ih =>
    have hfresh : ∀ x ∈ es, x.1 ≠ e.1 := by
      intro x hx heq
      rw [List.map_append, List.nodup_append] at h
      exact h.2.2 x.1 (List.mem_map_of_mem hx) e.1 (by simp) heq
    have hsplit : es ++ e :: es' = (es ++ [e]) ++ es' := (List.append_cons es e es')
    rw [hsplit] at h ⊢
    rw [List.foldl_cons, putEntry_of_forall_ne hfresh, ih h]

end SettingValue
/-! ### Settings -/

/-- A setting. -/
inductive Setting where
  | collectors
  | address
  | collectInterval
  | kubernetes
  | idType
  | useOldNamespace
  | devices
  | noHostname
  | fakeGpus
  | simulation
  | podResourcesSocket
  | channelCapacity
  | shutdownTimeout
  | logLevel
  deriving DecidableEq, Repr

namespace Setting

/-- The key of a setting in a file. -/
def key : Setting → String
  | collectors => "collectors"
  | address => "address"
  | collectInterval => "collect_interval_ms"
  | kubernetes => "kubernetes"
  | idType => "kubernetes_gpu_id_type"
  | useOldNamespace => "use_old_namespace"
  | devices => "devices"
  | noHostname => "no_hostname"
  | fakeGpus => "fake_gpus"
  | simulation => "simulation"
  | podResourcesSocket => "pod_resources_socket"
  | channelCapacity => "channel_capacity"
  | shutdownTimeout => "shutdown_timeout_ms"
  | logLevel => "log_level"

/-- What a setting is if no layer above says otherwise; there is no description of devices then. -/
def embedded : Setting → SettingValue
  | collectors => .text "/etc/gpu-telemetry-exporter/default-counters.csv"
  | address => .text "0.0.0.0:9400"
  | collectInterval => .word 30000
  | kubernetes | useOldNamespace | noHostname | fakeGpus => .bool false
  | idType => .text "uid"
  | devices => .text "f"
  | simulation => .nil
  | podResourcesSocket => .text "/var/lib/kubelet/pod-resources/kubelet.sock"
  | channelCapacity => .word 10
  | shutdownTimeout => .word 2000
  | logLevel => .text "info"

/-- What the command line says of a setting. A switch that is not set says nothing, and two settings have no option. -/
def onCommandLine (a : Arguments) : Setting → Option SettingValue
  | collectors => a.collectors.map .text
  | address => a.address.map .text
  | collectInterval => a.collectIntervalMs.map .word
  | kubernetes => if a.kubernetes then some (.bool true) else none
  | idType => a.idType.map .text
  | useOldNamespace => if a.useOldNamespace then some (.bool true) else none
  | devices => a.devices.map .text
  | noHostname => if a.noHostname then some (.bool true) else none
  | fakeGpus => if a.fakeGpus then some (.bool true) else none
  | simulation => a.simulation.map .text
  | podResourcesSocket => a.podResourcesSocket.map .text
  | channelCapacity | shutdownTimeout => none
  | logLevel => a.logLevel.map .text

end Setting

namespace Settings
variable {a : Arguments} {dir : String} {file es es' : List (String × SettingValue)}

open SettingValue

theorem plain_append : Plain (es ++ es') ↔ Plain es ∧ Plain es' := List.forall_mem_append

theorem plain_given {α : Type} {key : String} {f : α → SettingValue} (hkey : IsName key)
    (hf : ∀ x inner, f x ≠ .table inner) (v : Option α) : Plain (given key f v) := by
  intro e he
  obtain ⟨x, -, rfl⟩ := List.mem_map.mp he
  exact ⟨hkey, hf x⟩

theorem plain_switched {key : String} (hkey : IsName key) (b : Bool) : Plain (switched key b) := by
  intro e he
  rw [switched] at he
  split at he
  · cases List.mem_singleton.mp he
    exact ⟨hkey, nofun⟩
  · exact absurd he List.not_mem_nil

theorem plain_argumentsLayer (a : Arguments) : Plain (argumentsLayer a) := by
  simp only [argumentsLayer, plain_append, and_assoc]
  refine ⟨?_, ?_, ?_, ?_, ?_, ?_, ?_, ?_, ?_, ?_, ?_, ?_⟩
  all_goals first
    | exact plain_given (by decide) nofun _
    | exact plain_switched (by decide) _

theorem plain_defaultLayer (dir : String) : Plain (defaultLayer dir) := by
  simp only [Plain, defaultLayer, List.mem_cons, List.not_mem_nil, or_false, ne_eq, forall_eq_or_imp, forall_eq,
    reduceCtorEq, not_false_eq_true, implies_true, and_true]
  decide

@[simp] theorem reverse_given {α : Type} (key : String) (f : α → SettingValue) (v : Option α) :
    (given key f v).reverse = given key f v := by
  cases v <;> rfl

@[simp] theorem reverse_switched (key : String) (b : Bool) : (switched key b).reverse = switched key b := by
  cases b <;> rfl

theorem lookup_given {α : Type} (k key : String) (f : α → SettingValue) (v : Option α) :
    lookup k (given key f v) = if key = k then v.map f else none := by
  cases v with
  | none => simp [given, lookup]
  | some x => simp [given, lookup]

theorem lookup_switched (k key : String) (b : Bool) :
    lookup k (switched key b) = if key = k then if b then some (.bool true) else none else none := by
  cases b <;> simp [switched, lookup]

/-! ### All layers -/

theorem lookup_argumentsLayer (a : Arguments) (x : Setting) :
    lookup x.key (argumentsLayer a).reverse = x.onCommandLine a := by
  cases x <;> simp [argumentsLayer, lookup_append, lookup_given, lookup_switched, Setting.key, Setting.onCommandLine]

theorem lookup_defaultLayer (dir : String) (x : Setting) :
    (lookup x.key (defaultLayer dir).reverse).getD .nil = x.embedded := by
  cases x <;> rfl

theorem get?_layered (hfile : Plain file) (hnodup : (file.map Prod.fst).Nodup) (k : String) :
    (layered dir file a).get? k =
      (lookup k (argumentsLayer a).reverse).or ((lookup k file).or (lookup k (defaultLayer dir).reverse)) := by
  have hbottom : (SettingValue.table []).get? k = none := rfl
  rw [layered, get?_layer (plain_argumentsLayer a), get?_layer hfile, get?_layer (plain_defaultLayer dir), hbottom,
    Option.or_none, lookup_reverse k hnodup]

/-- Each setting by itself has the value of the highest layer that has one for it. -/
theorem valueOf_layered (hfile : Plain file) (hnodup : (file.map Prod.fst).Nodup) (x : Setting) :
    valueOf (layered dir file a) x.key = ((x.onCommandLine a).or (lookup x.key file)).getD x.embedded := by
  rw [valueOf, get?_layered hfile hnodup, lookup_argumentsLayer, ← lookup_defaultLayer dir x, ← Option.or_assoc,
    Option.getD_or]

theorem valueOf_configDir (hfile : Plain file) (hnodup : (file.map Prod.fst).Nodup)
    (hdir : lookup "config_dir" file = none) : valueOf (layered dir file a) "config_dir" = .text dir := by
  have harguments : lookup "config_dir" (argumentsLayer a).reverse = none := by
    simp [argumentsLayer, lookup_append, lookup_given, lookup_switched]
  rw [valueOf, get?_layered hfile hnodup, harguments, hdir]
  rfl

end Settings
end Telemetry

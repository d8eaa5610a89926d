import Telemetry.Proofs.Ending
import Telemetry.Proofs.Settings.Files

/-! Settings from three layers. Each setting is what its value in the highest layer that has one means, whatever the
    layers have for other settings and whatever lies below; and loading fails only by such a value, or by a file that
    cannot be read at all. -/

namespace Telemetry

open SortedMap

/-! ### Meanings -/

/-- What settings are. -/
inductive SettingKind where
  | text
  | optional
  | word
  | bool
  | address
  | idType
  | rules
  deriving DecidableEq, Repr

namespace SettingKind

abbrev Value : SettingKind → Type
  | text => String
  | optional => Option String
  | word => UInt64
  | bool => Bool
  | address => SocketAddress
  | idType => IdType
  | rules => SelectionRules

/-- A value that is valid for a setting, and what the setting is by it. -/
def Means (key : String) : (k : SettingKind) → SettingValue → k.Value → Prop
  | text, v, s => v.toText key = .ok s
  | optional, v, none => v = .nil
  | optional, v, some s => v.toText key = .ok s
  | word, v, n => v.toWord key = .ok n
  | bool, v, b => v.toBool key = .ok b
  | address, v, a => ∃ s, v.toText key = .ok s ∧ SocketAddress.parse? s = some a
  | idType, v, t => ∃ s, v = .text s ∧ IdType.ofName? s = some t
  | rules, v, r => ∃ s, v.toText key = .ok s ∧ SelectionRules.parse s = .ok r

end SettingKind

namespace Setting

def kind : Setting → SettingKind
  | collectors | podResourcesSocket | logLevel => .text
  | simulation => .optional
  | collectInterval | channelCapacity | shutdownTimeout => .word
  | kubernetes | useOldNamespace | noHostname | fakeGpus => .bool
  | address => .address
  | idType => .idType
  | devices => .rules

/-- The value of the highest layer that has the setting: the command line, the file, or what is built in. -/
def winning (a : Arguments) (entries : List (String × Settings.Scalar)) (x : Setting) : SettingValue :=
  ((x.onCommandLine a).or ((lookup x.key entries).map Settings.Scalar.value)).getD x.embedded

/-- What a setting is by a value. -/
def Means (x : Setting) (v : SettingValue) (y : x.kind.Value) : Prop := x.kind.Means x.key v y

end Setting

namespace Settings

/-- A setting among all. -/
def get (s : Settings) : (x : Setting) → x.kind.Value
  | .collectors => s.collectors
  | .address => s.address
  | .collectInterval => s.collectIntervalMs
  | .kubernetes => s.kubernetes
  | .idType => s.idType
  | .useOldNamespace => s.useOldNamespace
  | .devices => s.rules
  | .noHostname => s.noHostname
  | .fakeGpus => s.fakeGpus
  | .simulation => s.simulation
  | .podResourcesSocket => s.podResourcesSocket
  | .channelCapacity => s.channelCapacity
  | .shutdownTimeout => s.shutdownTimeoutMs
  | .logLevel => s.logLevel

/-- The settings with each as it is given. -/
def ofEach (dir : String) (y : (x : Setting) → x.kind.Value) : Settings where
  configDir := dir
  collectors := y .collectors
  address := y .address
  collectIntervalMs := y .collectInterval
  kubernetes := y .kubernetes
  idType := y .idType
  useOldNamespace := y .useOldNamespace
  rules := y .devices
  noHostname := y .noHostname
  fakeGpus := y .fakeGpus
  simulation := y .simulation
  podResourcesSocket := y .podResourcesSocket
  channelCapacity := y .channelCapacity
  shutdownTimeoutMs := y .shutdownTimeout
  logLevel := y .logLevel

theorem get_ofEach (dir : String) (y : (x : Setting) → x.kind.Value) (x : Setting) : (ofEach dir y).get x = y x := by
  cases x <;> rfl

/-- What is built in is valid for each setting, and is what it is by default. -/
theorem means_embedded (x : Setting) : x.Means x.embedded (({} : Settings).get x) := by
  cases x
  case address | idType | devices => exact ⟨_, rfl, by decide +kernel⟩
  all_goals rfl

variable {v : SettingValue} {s : Settings}

theorem addressOf_eq_ok_iff {a : SocketAddress} :
    addressOf v = .ok a ↔ Setting.address.Means (valueOf v Setting.address.key) a := by
  rw [addressOf, bind_eq_ok_iff]
  refine exists_congr fun s => and_congr_right fun _ => ?_
  cases SocketAddress.parse? s <;> simp [pure, Except.pure]

theorem rulesOf_eq_ok_iff {r : SelectionRules} :
    rulesOf v = .ok r ↔ Setting.devices.Means (valueOf v Setting.devices.key) r := by
  rw [rulesOf, bind_eq_ok_iff]
  refine exists_congr fun s => and_congr_right fun _ => ?_
  cases SelectionRules.parse s <;> simp [pure, Except.pure]

theorem idTypeNamed_eq_ok_iff {name : String} {t : IdType} :
    idTypeNamed name = .ok t ↔ IdType.ofName? name = some t := by
  rw [idTypeNamed]
  cases IdType.ofName? name <;> simp

/-- A type of identifiers that is no table is a text. -/
theorem idTypeOf_eq_ok_iff {t : IdType} (h : ∀ inner, valueOf v Setting.idType.key ≠ .table inner) :
    idTypeOf v = .ok t ↔ Setting.idType.Means (valueOf v Setting.idType.key) t := by
  have hkey : Setting.idType.key = "kubernetes_gpu_id_type" := rfl
  rw [hkey] at h ⊢
  rw [idTypeOf]
  cases hvalue : valueOf v "kubernetes_gpu_id_type" with
  | text name =>
    simp only [idTypeNamed_eq_ok_iff]
    exact ⟨fun ht => ⟨name, rfl, ht⟩, fun ⟨_, heq, ht⟩ => (SettingValue.text.inj heq) ▸ ht⟩
  | table inner => exact absurd hvalue (h inner)
  | _ => exact ⟨nofun, fun ⟨_, heq, _⟩ => nomatch heq⟩

theorem simulationOf_eq_ok_iff {path : Option String} :
    simulationOf v = .ok path ↔ Setting.simulation.Means (valueOf v Setting.simulation.key) path := by
  have hkey : Setting.simulation.key = "simulation" := rfl
  have hnil : (.ok none : Except SettingsError (Option String)) = .ok path ↔ Setting.simulation.Means .nil path := by
    cases path <;> simp [Setting.Means, Setting.kind, SettingKind.Means, SettingValue.toText]
  rw [hkey, simulationOf, valueOf]
  split
  · next hnone => rwa [hnone]
  · next hsome => rwa [hsome]
  · next w hw hsome =>
    rw [hsome, Option.getD_some]
    have hread (p : String) : w.toText "simulation" = .ok p ↔ Setting.simulation.Means w (some p) := Iff.rfl
    have hnone : Setting.simulation.Means w none ↔ w = .nil := Iff.rfl
    have hne : w ≠ .nil := hw
    cases path with
    | none =>
      rw [hnone]
      cases w.toText "simulation" <;> simp [Except.map, hne]
    | some p =>
      rw [← hread]
      cases w.toText "simulation" <;> simp [Except.map]

theorem ofValue_eq_ok_iff (h : ∀ inner, valueOf v Setting.idType.key ≠ .table inner) :
    ofValue v = .ok s ↔ configDirOf v = .ok s.configDir ∧ ∀ x : Setting, x.Means (valueOf v x.key) (s.get x) := by
  simp only [ofValue, bind_eq_ok_iff, addressOf_eq_ok_iff, rulesOf_eq_ok_iff, idTypeOf_eq_ok_iff h,
    simulationOf_eq_ok_iff]
  constructor
  · rintro ⟨_, hcollectors, _, haddress, _, hinterval, _, hkubernetes, _, hidType, _, hnamespace, _, hrules, _,
      hhostname, _, hfake, _, hsimulation, _, hsocket, _, hcapacity, _, htimeout, _, hlevel, _, hdir, hs⟩
    cases hs
    refine ⟨hdir, fun x => ?_⟩
    cases x <;> assumption
  · rintro ⟨hdir, heach⟩
    exact ⟨_, heach .collectors, _, heach .address, _, heach .collectInterval, _, heach .kubernetes, _, heach .idType,
      _, heach .useOldNamespace, _, heach .devices, _, heach .noHostname, _, heach .fakeGpus, _, heach .simulation,
      _, heach .podResourcesSocket, _, heach .channelCapacity, _, heach .shutdownTimeout, _, heach .logLevel,
      _, hdir, rfl⟩

/-! ### Loading -/

section Loading
variable {a : Arguments} {dir : String} {file : Option String} {entries : List (String × Scalar)}

/-- Whatever lies below it, the value that wins is the one that a setting has. -/
theorem valueOf_winning (hfile : IsFlat file entries) (x : Setting) :
    valueOf (layered dir (values entries) a) x.key = x.winning a entries := by
  rw [valueOf_layered hfile.plain hfile.nodup_values, lookup_values, Setting.winning]

theorem configDirOf_layered (hfile : IsFlat file entries) : configDirOf (layered dir (values entries) a) = .ok dir := by
  have hdir : lookup "config_dir" (values entries) = none := by
    rw [lookup_values, lookup_eq_none_of_forall_ne fun e he => (hfile.names e he).2]
    rfl
  rw [configDirOf, valueOf_configDir hfile.plain hfile.nodup_values hdir]

theorem winning_idType_ne_table (a : Arguments) (entries : List (String × Scalar))
    (inner : List (String × SettingValue)) : Setting.idType.winning a entries ≠ .table inner := by
  rw [Setting.winning, Setting.onCommandLine, Setting.embedded]
  cases a.idType with
  | some name => simp
  | none =>
    cases lookup Setting.idType.key entries with
    | some x => exact x.value_ne_table inner
    | none => simp

theorem load_eq_ok_iff (hfile : IsFlat file entries) : load dir file a = .ok s ↔
    (∀ e ∈ entries, ¬ e.2.NonFinite) ∧ s.configDir = dir ∧ ∀ x : Setting, x.Means (x.winning a entries) (s.get x) := by
  have htable : ∀ inner, valueOf (layered dir (values entries) a) Setting.idType.key ≠ .table inner := by
    rw [valueOf_winning hfile]
    exact winning_idType_ne_table a entries
  rw [load_of_isFlat hfile]
  by_cases hnot : ∃ e ∈ entries, e.2.NonFinite
  · obtain ⟨e, he, hfault⟩ := hnot
    rw [if_pos ⟨e, he, hfault⟩]
    exact ⟨nofun, fun h => absurd hfault (h.1 e he)⟩
  · have hfinite : ∀ e ∈ entries, ¬ e.2.NonFinite := fun e he hfault => hnot ⟨e, he, hfault⟩
    rw [if_neg hnot, ofValue_eq_ok_iff htable, configDirOf_layered hfile]
    simp only [valueOf_winning hfile, Except.ok.injEq]
    exact ⟨fun ⟨hdir, heach⟩ => ⟨hfinite, hdir.symm, heach⟩, fun ⟨_, hdir, heach⟩ => ⟨hdir.symm, heach⟩⟩

/-- Loading fails only by a file that cannot be read or by a value that wins and is not valid. -/
theorem load_eq_error_iff (hfile : IsFlat file entries) : (∃ e, load dir file a = .error e) ↔
    (∃ e ∈ entries, e.2.NonFinite) ∨ ∃ x : Setting, ∀ y, ¬ x.Means (x.winning a entries) y := by
  constructor
  · rintro ⟨e, herror⟩
    by_contra hvalid
    push Not at hvalid
    obtain ⟨hfinite, heach⟩ := hvalid
    choose y hy using heach
    have hload : load dir file a = .ok (ofEach dir y) :=
      (load_eq_ok_iff hfile).mpr ⟨hfinite, rfl, fun x => by rw [get_ofEach]; exact hy x⟩
    rw [hload] at herror
    cases herror
  · intro hfault
    cases hload : load dir file a with
    | error e => exact ⟨e, rfl⟩
    | ok s =>
      obtain ⟨hfinite, -, heach⟩ := (load_eq_ok_iff hfile).mp hload
      rcases hfault with ⟨e, he, hnot⟩ | ⟨x, hx⟩
      · exact absurd hnot (hfinite e he)
      · exact absurd (heach x) (hx _)

/-- Settings are loaded with each by itself as the value means that wins for it; a value that is overridden, or under a
    key of no setting, is no matter unless it makes the file unreadable. -/
theorem load_iff_winning (hfile : IsFlat file entries) (dir : String) (a : Arguments) :
    (∀ s, load dir file a = .ok s ↔
      (∀ e ∈ entries, ¬ e.2.NonFinite) ∧ s.configDir = dir ∧ ∀ x : Setting, x.Means (x.winning a entries) (s.get x)) ∧
    ((∃ e, load dir file a = .error e) ↔
      (∃ e ∈ entries, e.2.NonFinite) ∨ ∃ x : Setting, ∀ y, ¬ x.Means (x.winning a entries) y) :=
  ⟨fun _ => load_eq_ok_iff hfile, load_eq_error_iff hfile⟩

/-- A rule that cannot be read but is overridden, a switch that only the file sets, and a key of no setting; the same
    rule fails where nothing overrides it. -/
theorem load_iff_winning_overridden :
    load "/etc" (some "devices: x:1\nkubernetes: yes\ncollect_interval_ms: 1000\nunknown: 7\n")
        { devices := some "i:0,5", noHostname := true } =
      .ok { configDir := "/etc", rules := .explicit none (some (.indices [0, 5])), kubernetes := true,
            collectIntervalMs := 1000, noHostname := true } ∧
    ∃ e, load "/etc" (some "devices: x:1\nkubernetes: yes\ncollect_interval_ms: 1000\nunknown: 7\n")
      { noHostname := true } = .error e := by
  have hflat : IsFlat (some "devices: x:1\nkubernetes: yes\ncollect_interval_ms: 1000\nunknown: 7\n")
      [("devices", .text "x:1"), ("kubernetes", .text "yes"), ("collect_interval_ms", .int 1000),
        ("unknown", .int 7)] := ⟨by decide +kernel, by decide, by decide⟩
  constructor
  · refine ((load_iff_winning hflat "/etc" _).1 _).mpr ⟨by decide, rfl, fun x => ?_⟩
    cases x
    case devices => exact ⟨_, rfl, by decide +kernel⟩
    case kubernetes | collectInterval | noHostname => rfl
    all_goals exact means_embedded _
  · refine (load_iff_winning hflat "/etc" _).2.mpr (.inr ⟨.devices, ?_⟩)
    have hrefused : ∀ r, SelectionRules.parse "x:1" ≠ .ok r := by
      have hparse : (SelectionRules.parse "x:1").toOption = none := by decide +kernel
      intro r hr
      rw [hr] at hparse
      cases hparse
    rintro r ⟨s, hs, hr⟩
    cases hs
    exact hrefused r hr

/-- An infinity fails although every value that wins is valid: the one that it would be is overridden. -/
theorem load_nonFinite_overridden :
    IsFlat (some "log_level: .inf\n") [("log_level", .double ".inf")] ∧
      (∀ x : Setting, ∃ y, x.Means (x.winning { logLevel := some "debug" } [("log_level", .double ".inf")]) y) ∧
      load "" (some "log_level: .inf\n") { logLevel := some "debug" } = .error .unreadableFile := by
  have hflat : IsFlat (some "log_level: .inf\n") [("log_level", .double ".inf")] :=
    ⟨by decide +kernel, by decide, by decide⟩
  refine ⟨hflat, fun x => ?_, ?_⟩
  · cases x
    case logLevel => exact ⟨"debug", rfl⟩
    all_goals exact ⟨_, means_embedded _⟩
  · rw [load_of_isFlat hflat, if_pos (by decide)]

end Loading

end Settings
end Telemetry

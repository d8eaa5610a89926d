import Telemetry.Selection.Reading
import Telemetry.Settings.Arguments
import Telemetry.Settings.Basic
import Telemetry.Settings.File

/-! Loading the settings from three layers: what they are unless said otherwise, a file, and the command
    line. Each setting comes from the last layer that has it, and only what it comes from has to be
    valid. -/

namespace Telemetry
namespace Settings

open SettingValue

/-! ### Layers -/

/-- The layer at the bottom. -/
def defaultLayer (configDir : String) : List (String × SettingValue) :=
  let s : Settings := {}
  [ ("config_dir", .text configDir), ("collectors", .text s.collectors), ("address", .text s.address.text),
    ("collect_interval_ms", .word s.collectIntervalMs), ("kubernetes", .bool s.kubernetes),
    ("kubernetes_gpu_id_type", .text s.idType.name), ("use_old_namespace", .bool s.useOldNamespace),
    ("devices", .text s.rules.render), ("no_hostname", .bool s.noHostname), ("fake_gpus", .bool s.fakeGpus),
    ("pod_resources_socket", .text s.podResourcesSocket), ("channel_capacity", .word s.channelCapacity),
    ("shutdown_timeout_ms", .word s.shutdownTimeoutMs), ("log_level", .text s.logLevel) ]

/-- A setting of the command line, if it is given. -/
def given {α : Type} (key : String) (f : α → SettingValue) (v : Option α) : List (String × SettingValue) :=
  v.toList.map fun a => (key, f a)

/-- A switch of the command line, if it is set; a switch cannot turn a setting off. -/
def switched (key : String) (b : Bool) : List (String × SettingValue) := if b then [(key, .bool true)] else []

/-- The layer of the command line. -/
def argumentsLayer (a : Arguments) : List (String × SettingValue) :=
  given "collectors" .text a.collectors ++ given "address" .text a.address ++
    given "collect_interval_ms" .word a.collectIntervalMs ++ switched "kubernetes" a.kubernetes ++
    given "kubernetes_gpu_id_type" .text a.idType ++ switched "use_old_namespace" a.useOldNamespace ++
    given "devices" .text a.devices ++ switched "no_hostname" a.noHostname ++ switched "fake_gpus" a.fakeGpus ++
    given "simulation" .text a.simulation ++ given "pod_resources_socket" .text a.podResourcesSocket ++
    given "log_level" .text a.logLevel

/-- All layers, one over the other. -/
def layered (configDir : String) (file : List (String × SettingValue)) (a : Arguments) : SettingValue :=
  (((table []).layer (defaultLayer configDir)).layer file).layer (argumentsLayer a)

/-! ### Settings from their values -/

/-- The value under a key, which some layer always has. -/
def valueOf (v : SettingValue) (key : String) : SettingValue := (v.get? key).getD .nil

def wordOf (v : SettingValue) (key : String) : Except SettingsError UInt64 := (valueOf v key).toWord key

def boolOf (v : SettingValue) (key : String) : Except SettingsError Bool := (valueOf v key).toBool key

def textOf (v : SettingValue) (key : String) : Except SettingsError String := (valueOf v key).toText key

def addressOf (v : SettingValue) : Except SettingsError SocketAddress := do
  let s ← textOf v "address"
  match SocketAddress.parse? s with
  | some a => pure a
  | none => .error (.invalid "invalid socket address syntax" "address")

def rulesOf (v : SettingValue) : Except SettingsError SelectionRules := do
  let s ← textOf v "devices"
  match SelectionRules.parse s with
  | .ok r => pure r
  | .error e => .error (.invalid e.message "devices")

def unknownIdType (s : String) : SettingsError :=
  .invalid s!"enum KubernetesGpuIdType does not have variant constructor {s}" "kubernetes_gpu_id_type"

def idTypeNamed (s : String) : Except SettingsError IdType :=
  match IdType.ofName? s with
  | some t => .ok t
  | none => .error (unknownIdType s)

/-- The type of identifiers: its name, or a table with its name as the only key. -/
def idTypeOf (v : SettingValue) : Except SettingsError IdType :=
  match valueOf v "kubernetes_gpu_id_type" with
  | .text s => idTypeNamed s
  | .table [(s, _)] => idTypeNamed s
  | _ =>
    .error <| .invalid
      "value of enum KubernetesGpuIdType should be represented by either string or table with exactly one key"
      "kubernetes_gpu_id_type"

/-- The file that describes the simulated devices, unless there is nothing. -/
def simulationOf (v : SettingValue) : Except SettingsError (Option String) :=
  match v.get? "simulation" with
  | none | some .nil => .ok none
  | some w => (w.toText "simulation").map some

/-- The kind of a value, as messages about the directory name it. -/
def kindForDirectory : SettingValue → String
  | .int n => s!"integer \x60{n}\x60"
  | .word n => s!"integer \x60{n}\x60"
  | .double x =>
    let whole := if x.shortest.toList.contains '.' then "" else ".0"
    s!"floating point \x60{x.shortest}{whole}\x60"
  | v => v.describe

/-- The directory, which has to be a text. -/
def configDirOf (v : SettingValue) : Except SettingsError String :=
  match valueOf v "config_dir" with
  | .text s => .ok s
  | w => .error (.plain s!"invalid type: {kindForDirectory w}, expected path string")

/-- The settings that a table of values gives. -/
def ofValue (v : SettingValue) : Except SettingsError Settings := do
  let collectors ← textOf v "collectors"
  let address ← addressOf v
  let collectIntervalMs ← wordOf v "collect_interval_ms"
  let kubernetes ← boolOf v "kubernetes"
  let idType ← idTypeOf v
  let useOldNamespace ← boolOf v "use_old_namespace"
  let rules ← rulesOf v
  let noHostname ← boolOf v "no_hostname"
  let fakeGpus ← boolOf v "fake_gpus"
  let simulation ← simulationOf v
  let podResourcesSocket ← textOf v "pod_resources_socket"
  let channelCapacity ← wordOf v "channel_capacity"
  let shutdownTimeoutMs ← wordOf v "shutdown_timeout_ms"
  let logLevel ← textOf v "log_level"
  let configDir ← configDirOf v
  pure
    { configDir, collectors, address, collectIntervalMs, kubernetes, idType, useOldNamespace, rules, noHostname,
      fakeGpus, simulation, podResourcesSocket, channelCapacity, shutdownTimeoutMs, logLevel }

/-- The settings that a file's text and the command line give; there may be no file. -/
def load (configDir : String) (file : Option String) (a : Arguments) : Except SettingsError Settings := do
  let entries ← match file with | none => pure [] | some content => readFile content
  ofValue (layered configDir entries a)

end Settings
end Telemetry

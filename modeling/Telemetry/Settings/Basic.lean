import Telemetry.Json.Basic
import Telemetry.Pods.IdType
import Telemetry.Selection.Basic
import Telemetry.Server.Address

/-! The settings of the exporter. -/

namespace Telemetry

/-- What the exporter is told to do. -/
structure Settings where
  /-- The directory in which the file of settings is looked for. -/
  configDir : String := ""
  /-- The file with the catalog of counters. -/
  collectors : String := "/etc/gpu-telemetry-exporter/default-counters.csv"
  address : SocketAddress := .v4 0 0 0 0 9400
  collectIntervalMs : UInt64 := 30000
  /-- Whether metrics get the labels of the pods that hold the devices. -/
  kubernetes : Bool := false
  idType : IdType := .uid
  useOldNamespace : Bool := false
  rules : SelectionRules := .flex
  noHostname : Bool := false
  /-- Whether a placeholder may stand for a device that cannot be queried. -/
  fakeGpus : Bool := false
  /-- The file that describes the simulated devices. -/
  simulation : Option String := none
  podResourcesSocket : String := "/var/lib/kubelet/pod-resources/kubelet.sock"
  channelCapacity : UInt64 := 10
  shutdownTimeoutMs : UInt64 := 2000
  logLevel : String := "info"
  deriving DecidableEq, Repr, Inhabited

namespace Settings

/-- What is wrong with settings of which every one is valid by itself, the first of all. -/
def fault? (s : Settings) : Option String :=
  if s.collectIntervalMs = 0 then some "collect_interval_ms must be positive"
  else if s.channelCapacity = 0 then some "channel_capacity must be positive"
  else if s.collectors.isEmpty then some "a counter file must be configured"
  else none

def wordJson (n : UInt64) : Json := .int n.toNat

/-- The settings as a JSON value, without the directory. -/
def toJson (s : Settings) : Json :=
  .object <|
    [ ("collectors", .string s.collectors), ("address", .string s.address.text),
      ("collect_interval_ms", wordJson s.collectIntervalMs), ("kubernetes", .bool s.kubernetes),
      ("kubernetes_gpu_id_type", .string s.idType.name), ("use_old_namespace", .bool s.useOldNamespace),
      ("devices", .string s.rules.render), ("no_hostname", .bool s.noHostname), ("fake_gpus", .bool s.fakeGpus) ] ++
      (s.simulation.toList.map fun p => ("simulation", .string p)) ++
      [ ("pod_resources_socket", .string s.podResourcesSocket), ("channel_capacity", wordJson s.channelCapacity),
        ("shutdown_timeout_ms", wordJson s.shutdownTimeoutMs), ("log_level", .string s.logLevel) ]

end Settings
end Telemetry

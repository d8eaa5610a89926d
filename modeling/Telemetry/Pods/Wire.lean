import Telemetry.Pods.Basic
import Telemetry.Wire.Message

/-! Pods as protocol buffers: what a listing of pods is written as, and what is read from bytes. A text
    that comes twice counts as it came last; lists grow. -/

namespace Telemetry

open Wire

/-! ### Writing -/

def Allocation.encode (a : Allocation) : List UInt8 := textField 1 a.resource ++ textsField 2 a.ids

def Container.encode (c : Container) : List UInt8 :=
  textField 1 c.name ++ messagesField 2 (c.devices.map Allocation.encode)

def Pod.encode (p : Pod) : List UInt8 :=
  textField 1 p.name ++ textField 2 p.namespaceName ++ messagesField 3 (p.containers.map Container.encode)

/-- The bytes of a listing of pods. -/
def Pod.encodeListing (ps : List Pod) : List UInt8 := messagesField 1 (ps.map Pod.encode)

/-! ### Reading -/

/-- The value of a field of a message; a fault is one within the field. -/
def fieldOf {α : Type} (message field : String) (r : Except DecodeError α) : Except DecodeError α :=
  r.mapError (·.within message field)

def Allocation.merge (depth : Nat) : Merge Allocation := fun tag t a bs =>
  match tag with
  | 1 => fieldOf "ContainerDevices" "resource_name" <|
    (readText t bs).map fun (s, rest) => ({ a with resource := s }, rest)
  | 2 => fieldOf "ContainerDevices" "device_ids" <|
    (readText t bs).map fun (s, rest) => ({ a with ids := a.ids ++ [s] }, rest)
  | tag => mergeUnknown depth tag t a bs

def Container.merge (depth : Nat) : Merge Container := fun tag t c bs =>
  match tag with
  | 1 => fieldOf "ContainerResources" "name" <|
    (readText t bs).map fun (s, rest) => ({ c with name := s }, rest)
  | 2 => fieldOf "ContainerResources" "devices" <|
    (readNested Allocation.merge {} depth t bs).map fun (d, rest) => ({ c with devices := c.devices ++ [d] }, rest)
  | tag => mergeUnknown depth tag t c bs

def Pod.merge (depth : Nat) : Merge Pod := fun tag t p bs =>
  match tag with
  | 1 => fieldOf "PodResources" "name" <|
    (readText t bs).map fun (s, rest) => ({ p with name := s }, rest)
  | 2 => fieldOf "PodResources" "namespace" <|
    (readText t bs).map fun (s, rest) => ({ p with namespaceName := s }, rest)
  | 3 => fieldOf "PodResources" "containers" <|
    (readNested Container.merge {} depth t bs).map fun (c, rest) =>
      ({ p with containers := p.containers ++ [c] }, rest)
  | tag => mergeUnknown depth tag t p bs

def Pod.mergeListing (depth : Nat) : Merge (List Pod) := fun tag t ps bs =>
  match tag with
  | 1 => fieldOf "ListPodResourcesResponse" "pod_resources" <|
    (readNested Pod.merge {} depth t bs).map fun (p, rest) => (ps ++ [p], rest)
  | tag => mergeUnknown depth tag t ps bs

/-- The pod that some bytes are. -/
def Pod.decode (bs : List UInt8) : Except DecodeError Pod := readMessage (Pod.merge maxDepth) {} bs

/-- The listing of pods that some bytes are. -/
def Pod.decodeListing (bs : List UInt8) : Except DecodeError (List Pod) :=
  readMessage (Pod.mergeListing maxDepth) [] bs

end Telemetry

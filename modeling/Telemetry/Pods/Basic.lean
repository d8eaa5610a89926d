/-! Pods with their containers, and the devices that are allocated to these. -/

namespace Telemetry

/-- Devices of one resource that a container holds. -/
structure Allocation where
  resource : String := ""
  ids : List String := []
  deriving DecidableEq, Repr, Inhabited

/-- A container. -/
structure Container where
  name : String := ""
  devices : List Allocation := []
  deriving DecidableEq, Repr, Inhabited

/-- A pod. -/
structure Pod where
  name : String := ""
  namespaceName : String := ""
  containers : List Container := []
  deriving DecidableEq, Repr, Inhabited

/-- What a listing of pods gives: none where there is no one to ask. -/
abbrev PodListing := Option (List Pod)

end Telemetry

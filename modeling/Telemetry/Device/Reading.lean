import Telemetry.Device.Entity
import Telemetry.Device.Field
import Telemetry.Double.Fixed

/-! Readings of fields. In place of a reading a manager may hand out a sentinel, a code that stands for
    its absence; each of the integer, double and string types has four. -/

namespace Telemetry

/-- A value as the device manager hands it out. -/
inductive RawValue where
  | int64 (n : Int64)
  | double (x : Double)
  | string (s : String)
  | blob (bytes : List UInt8)
  deriving DecidableEq, Repr, Inhabited

/-- A value of a field for an entity. -/
structure FieldValue where
  entity : Entity
  field : FieldId
  type : FieldType
  value : RawValue
  deriving DecidableEq, Repr, Inhabited

/-! ### Sentinels -/

namespace Sentinel

/-- The four reasons for the absence of a reading, in the order of their codes. -/
inductive Reason where
  | blank
  | notFound
  | notSupported
  | notPermissioned
  deriving DecidableEq, Repr

namespace Reason

def all : List Reason := [blank, notFound, notSupported, notPermissioned]

/-- The distance of a code from the first of its row. -/
def offset : Reason → Nat
  | blank => 0
  | notFound => 1
  | notSupported => 2
  | notPermissioned => 3

end Reason

/-- The code among the integers of 32 bits. -/
def int32 (r : Reason) : Int64 := Int64.ofNat (0x7ffffff0 + r.offset)

/-- The code among the integers of 64 bits. -/
def int64 (r : Reason) : Int64 := Int64.ofNat (0x7ffffffffffffff0 + r.offset)

/-- The code among the doubles. -/
def double (r : Reason) : Double := Double.ofRatio false (Nat.pow 2 47 + r.offset) 1

/-- The code among the strings. -/
def string : Reason → String
  | .blank => "<<<NULL>>>"
  | .notFound => "<<<NOT_FOUND>>>"
  | .notSupported => "<<<NOT_SUPPORTED>>>"
  | .notPermissioned => "<<<NOT_PERM>>>"

def isInt (n : Int64) : Bool := Reason.all.any fun r => n == int32 r || n == int64 r

def isDouble (x : Double) : Bool := Reason.all.any fun r => x == double r

def isString (s : String) : Bool := Reason.all.any fun r => s == string r

end Sentinel

namespace RawValue

/-- Whether the value is a code for the absence of a reading; bytes have none. -/
def isSentinel? : RawValue → Option Bool
  | int64 n => some (Sentinel.isInt n)
  | double x => some (Sentinel.isDouble x)
  | string s => some (Sentinel.isString s)
  | blob _ => none

end RawValue

/-! ### Texts of readings -/

/-- What stands for a value that its declared type does not cover. -/
def conversionFailure : String := "ERROR - FAILED TO CONVERT TO STRING"

/-- A double as a sample shows it: six places, or the words for what has no digits. -/
def sampleDouble (x : Double) : String :=
  if x.isNaN then "NaN"
  else if x.isInfinite then if x.isNegative then "-Inf" else "+Inf"
  else x.fixed 6

namespace FieldValue

/-- The text of a value by its declared type, or none for a sentinel of that type. -/
def sample (v : FieldValue) : Option String :=
  match v.type, v.value with
  | .string, .string s => if Sentinel.isString s then none else some s
  | .double, .double x => if Sentinel.isDouble x then none else some (sampleDouble x)
  | .int64, .int64 n => if Sentinel.isInt n then none else some (toString n.toInt)
  | _, _ => some conversionFailure

end FieldValue
end Telemetry

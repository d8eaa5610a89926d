import Telemetry.Double.Basic

/-! Values of the JSON data model. A number is an integer of at most 64 bits or a double, and an object
    is the list of its members. -/

namespace Telemetry

/-- A JSON value. -/
inductive Json where
  | null
  | bool (b : Bool)
  | int (n : Int)
  | double (x : Double)
  | string (s : String)
  | array (xs : List Json)
  | object (members : List (String × Json))
  deriving Inhabited, Repr

namespace Json

/-- The value of the last member with this name among some members. -/
def lastMember? (key : String) (ms : List (String × Json)) : Option Json :=
  (ms.reverse.find? fun m => m.1 == key).map Prod.snd

/-- The value of a member of an object; of members with one name the last counts. -/
def get? (j : Json) (key : String) : Option Json :=
  match j with
  | object ms => lastMember? key ms
  | _ => none

end Json
end Telemetry

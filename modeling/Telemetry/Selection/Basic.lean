import Telemetry.Text.Quoted
import Telemetry.Text.Split

/-! Which entities to monitor. The flexible rule leaves the choice to the topology; explicit rules
    name one class or both, each as a whole or by an ascending list of indices. -/

namespace Telemetry

/-- Which entities of one class to monitor. -/
inductive Selection where
  | all
  /-- The entities with these indices, which ascend. -/
  | indices (is : List UInt32)
  deriving DecidableEq, Repr, Inhabited

/-- Rules for the entities to monitor; when both classes are given, partitions win. -/
inductive SelectionRules where
  | flex
  | explicit (devices partitions : Option Selection)
  deriving DecidableEq, Repr, Inhabited

/-- The two classes that a rule can name. -/
inductive SelectableClass where
  | device
  | partition
  deriving DecidableEq, Repr

namespace SelectableClass

def name : SelectableClass → String
  | device => "device"
  | partition => "partition"

end SelectableClass

/-- Why a rule text is refused. -/
inductive SelectionError where
  | empty
  | multipleRanges (token : String)
  | flexWithRange
  | flexCombined
  | unknownClass (key : String)
  | duplicateClass (cls : SelectableClass)
  | danglingRange (item : String)
  | notANumber (text : String)
  | reversedRange (first last : UInt32)
  | rangeTooWide (first last : UInt32)
  | emptyItem (list : String)
  deriving DecidableEq, Repr

namespace SelectionError

open Text

def message : SelectionError → String
  | empty => "no device selection rule given"
  | multipleRanges token => s!"there can only be one specified range in {quoted token}"
  | flexWithRange => "no range can be specified with the flex option"
  | flexCombined => "the flex option cannot be combined with other rules"
  | unknownClass key => s!"the only valid options preceding ':<range>' are 'g' or 'i', found {quoted key}"
  | duplicateClass cls => s!"the {cls.name} class was specified more than once"
  | danglingRange item => s!"range {quoted item} has more than one '-'"
  | notANumber text => s!"{quoted text} is not a valid index"
  | reversedRange first last => s!"range {first}-{last} is reversed"
  | rangeTooWide first last => s!"range {first}-{last} spans more than 1024 indices"
  | emptyItem list => s!"empty element in index list {quoted list}"

end SelectionError

namespace SelectionRules

/-- The rule for devices, if there is one. -/
def devices : SelectionRules → Option Selection
  | flex => none
  | explicit d _ => d

/-- The rule for partitions, if there is one. -/
def partitions : SelectionRules → Option Selection
  | flex => none
  | explicit _ p => p

end SelectionRules

/-! ### Writing -/

/-- The decimal digits of an index. -/
def indexChars (i : UInt32) : List Char := Nat.toDigits 10 i.toNat

namespace Selection

/-- What follows the key of a class: nothing for the whole class, else a colon and the indices. -/
def chars : Selection → List Char
  | all => []
  | indices is => ':' :: Text.join ',' (is.map indexChars)

end Selection

namespace SelectionRules

/-- The rules as a rule text. -/
def chars : SelectionRules → List Char
  | flex => ['f']
  | explicit d p =>
    Text.join ';' ((d.map fun s => 'g' :: s.chars).toList ++ (p.map fun s => 'i' :: s.chars).toList)

/-- The rules as a rule text. -/
def render (r : SelectionRules) : String := String.ofList r.chars

end SelectionRules
end Telemetry

import Telemetry.Numeral
import Telemetry.Selection.Basic
import Telemetry.Text.Blank

/-! Rule texts. Tokens stand between semicolons, blanks around them not counting. A token is the key
    of the flexible rule, or the key of a class with an optional colon and list; a list has indices
    and ranges of indices between commas. The first fault from the left is reported. -/

namespace Telemetry
namespace SelectionRules

open Text

/-- The number of indices that a range may have at most. -/
def maxRangeLength : Nat := 1024

/-- An ascending list with one more index, unless it is there already. -/
def insertIndex (i : UInt32) : List UInt32 → List UInt32
  | [] => [i]
  | j :: js => if i < j then i :: j :: js else if i = j then j :: js else j :: insertIndex i js

/-- The indices from `first` to `last`. -/
def range (first last : UInt32) : List UInt32 :=
  (List.range (last.toNat - first.toNat + 1)).map fun k => UInt32.ofNat (first.toNat + k)

def readIndex (cs : List Char) : Except SelectionError UInt32 :=
  match Numeral.word32? cs with
  | some i => .ok i
  | none => .error (.notANumber (String.ofList cs))

/-- First and last index of an item of a list. -/
def readBounds (item : List Char) : Except SelectionError (UInt32 × UInt32) :=
  match split '-' item with
  | [single] => do
    let i ← readIndex single
    pure (i, i)
  | [first, last] => do
    let i ← readIndex first
    let j ← readIndex last
    pure (i, j)
  | _ => .error (.danglingRange (String.ofList item))

/-- The indices of an item of `list`. -/
def readItem (list item : List Char) : Except SelectionError (List UInt32) :=
  if item = [] then .error (.emptyItem (String.ofList list))
  else do
    let (first, last) ← readBounds item
    if last < first then .error (.reversedRange first last)
    else if maxRangeLength ≤ last.toNat - first.toNat then .error (.rangeTooWide first last)
    else .ok (range first last)

/-- The indices of the items, put one after the other into an ascending list. -/
def readItems (list : List Char) : List (List Char) → List UInt32 → Except SelectionError (List UInt32)
  | [], acc => .ok acc
  | item :: items, acc => do
    let is ← readItem list item
    readItems list items (is.foldl (fun js i => insertIndex i js) acc)

/-- The indices of a list, ascending and each once. -/
def readList (list : List Char) : Except SelectionError (List UInt32) :=
  readItems list (split ',' list) []

/-- What follows the key of a class: nothing, or a list. -/
def readSelection : Option (List Char) → Except SelectionError Selection
  | none => .ok .all
  | some list => do
    let is ← readList list
    pure (.indices is)

/-- What the tokens so far have said. -/
structure Seen where
  flex : Bool := false
  devices : Option Selection := none
  partitions : Option Selection := none
  deriving DecidableEq, Repr

/-- The rule that a key introduces: the flexible one, or that of a class. -/
inductive Key where
  | flex
  | cls (c : SelectableClass)
  deriving DecidableEq, Repr

/-- Each key has a short and a long spelling. -/
def readKey (key : List Char) : Option Key :=
  let s := String.ofList key
  if s = "f" ∨ s = "flex" then some .flex
  else if s = "g" ∨ s = "device" then some (.cls .device)
  else if s = "i" ∨ s = "partition" then some (.cls .partition)
  else none

/-- The selection of a class so far. -/
def Seen.get (seen : Seen) : SelectableClass → Option Selection
  | .device => seen.devices
  | .partition => seen.partitions

/-- With the selection of a class. -/
def Seen.set (seen : Seen) (s : Selection) : SelectableClass → Seen
  | .device => { seen with devices := some s }
  | .partition => { seen with partitions := some s }

/-- What one more token adds, its key and what follows the colon being given. -/
def Seen.add (seen : Seen) (key : List Char) (list : Option (List Char)) : Except SelectionError Seen :=
  match readKey key with
  | some .flex => if list.isSome then .error .flexWithRange else .ok { seen with flex := true }
  | some (.cls c) =>
    if (seen.get c).isSome then .error (.duplicateClass c)
    else do
      let s ← readSelection list
      pure (seen.set s c)
  | none => .error (.unknownClass (String.ofList key))

/-- What one more token, trimmed, adds. -/
def Seen.addToken (seen : Seen) (token : List Char) : Except SelectionError Seen :=
  if token = [] then .error .empty
  else
    match split ':' token with
    | [key] => seen.add key none
    | [key, list] => seen.add key (some list)
    | _ => .error (.multipleRanges (String.ofList token))

/-- What all tokens say. -/
def readTokens : Seen → List (List Char) → Except SelectionError Seen
  | seen, [] => .ok seen
  | seen, token :: tokens => do
    let seen ← seen.addToken token
    readTokens seen tokens

/-- The rules that a row of characters names. -/
def ofChars (cs : List Char) : Except SelectionError SelectionRules := do
  let tokens := (split ';' cs).map trim
  let seen ← readTokens {} tokens
  if seen.flex then
    if 1 < tokens.length then .error .flexCombined else .ok .flex
  else .ok (.explicit seen.devices seen.partitions)

/-- The rules that a text names. -/
def parse (s : String) : Except SelectionError SelectionRules := ofChars s.toList

end SelectionRules
end Telemetry

import Telemetry.Double.Shortest
import Telemetry.Numeral
import Telemetry.SortedMap
import Telemetry.Text.LowerCase
import Telemetry.Text.Quoted

/-! Values of settings before their meaning is known, and what they become where a number, a truth value
    or a text is wanted. Tables of values are laid one over the other key by key; a key may be a path to
    a place within. -/

namespace Telemetry

/-- A value of a setting. -/
inductive SettingValue where
  | nil
  | bool (b : Bool)
  | int (n : Int)
  | word (n : UInt64)
  | double (x : Double)
  | text (s : String)
  | list (vs : List SettingValue)
  | table (entries : List (String × SettingValue))
  deriving Inhabited, Repr

/-- Why there are no settings. -/
inductive SettingsError where
  /-- A value is of a kind that a setting cannot use. -/
  | type (found expected key : String)
  /-- A value is not valid for its setting. -/
  | invalid (message key : String)
  /-- A value is of a kind that cannot be used at all. -/
  | plain (message : String)
  | missingFile (path : String)
  | unreadableFile
  deriving DecidableEq, Repr

def SettingsError.message : SettingsError → String
  | type found expected key => s!"invalid type: {found}, expected {expected} for key \x60{key}\x60"
  | invalid message key => s!"{message} for key \x60{key}\x60"
  | plain message => message
  | missingFile path => s!"configuration file \"{path}\" not found"
  | unreadableFile => ""

namespace SettingValue

/-! ### Kinds -/

/-- A value as messages name it. -/
def describe : SettingValue → String
  | nil => "unit value"
  | bool b => s!"boolean \x60{b}\x60"
  | int n => s!"64-bit integer \x60{n}\x60"
  | word n => s!"64-bit unsigned integer \x60{n}\x60"
  | double x => s!"floating point \x60{x.shortest}\x60"
  | text s => s!"string {Text.quoted s}"
  | list _ => "sequence"
  | table _ => "map"

def isYes (s : String) : Bool := ["true", "on", "yes"].contains (Text.lowerCase s)

def isNo (s : String) : Bool := ["false", "off", "no"].contains (Text.lowerCase s)

/-- A number of 64 bits; one that is too small or too large becomes the nearest that is not. -/
def clampWord (n : Int) : UInt64 := UInt64.ofNat (min n.toNat (UInt64.size - 1))

/-- The whole number of 64 bits nearest to a double. -/
def roundWord (x : Double) : UInt64 :=
  if x.isNaN then 0
  else if x.isInfinite then if x.isNegative then 0 else clampWord UInt64.size
  else clampWord x.roundAway

/-- The value as a whole number that is not negative. -/
def toWord (key : String) (v : SettingValue) : Except SettingsError UInt64 :=
  match v with
  | word n => .ok n
  | int n =>
    if 0 ≤ n then .ok (UInt64.ofNat n.toNat)
    else .error (.type v.describe "an unsigned 64 bit or less integer" key)
  | bool b => .ok (if b then 1 else 0)
  | double x => .ok (roundWord x)
  | text s =>
    if isYes s then .ok 1
    else if isNo s then .ok 0
    else
      match Numeral.word64? s.toList with
      | some n => .ok n
      | none => .error (.type v.describe "an integer" key)
  | nil | list _ | table _ => .error (.type v.describe "an integer" key)

/-- The value as a truth value. -/
def toBool (key : String) (v : SettingValue) : Except SettingsError Bool :=
  match v with
  | bool b => .ok b
  | int n => .ok (n != 0)
  | word n => .ok (n != 0)
  | double x => .ok (!x.isZero)
  | text s =>
    if isYes s || s == "1" then .ok true
    else if isNo s || s == "0" then .ok false
    else .error (.type (describe (.text (Text.lowerCase s))) "a boolean" key)
  | nil | list _ | table _ => .error (.type v.describe "a boolean" key)

/-- The value as a text. -/
def toText (key : String) (v : SettingValue) : Except SettingsError String :=
  match v with
  | text s => .ok s
  | bool b => .ok (toString b)
  | int n => .ok (toString n)
  | word n => .ok (toString n)
  | double x => .ok x.shortest
  | nil | list _ | table _ => .error (.type v.describe "a string" key)

/-! ### Tables -/

/-- A step of a path. -/
inductive Step where
  | key (k : String)
  /-- An element of a list, from the end if the number is negative. -/
  | element (i : Int)
  deriving DecidableEq, Repr

def isKeyChar (c : Char) : Bool := c.isAlphanum || c == '_' || c == '-'

/-- Further steps of a path: a point and a key, or a number in brackets. -/
def readSteps : Nat → List Char → Option (List Step)
  | _, [] => some []
  | 0, _ => none
  | fuel + 1, '.' :: cs =>
    let k := cs.takeWhile isKeyChar
    if k.isEmpty then none
    else (readSteps fuel (cs.drop k.length)).map (.key (String.ofList k) :: ·)
  | fuel + 1, '[' :: cs =>
    let body := (cs.dropWhile (· == ' '))
    let i := body.takeWhile (· != ']')
    let digits := (i.reverse.dropWhile (· == ' ')).reverse
    match body.drop i.length, digits.head?, Numeral.int64? 10 digits with
    | ']' :: rest, some c, some n =>
      if c = '+' then none else (readSteps fuel rest).map (.element n.toInt :: ·)
    | _, _, _ => none
  | _ + 1, _ => none

/-- The path that a key is; a key that is no path leads to itself. -/
def path (key : String) : String × List Step :=
  let cs := key.toList
  let k := cs.takeWhile isKeyChar
  match if k.isEmpty then none else readSteps cs.length (cs.drop k.length) with
  | some steps => (String.ofList k, steps)
  | none => (key, [])

/-- The entries of a table; other values have none. -/
def entries : SettingValue → List (String × SettingValue)
  | table es => es
  | _ => []

/-- The elements of a list; other values have none. -/
def elements : SettingValue → List SettingValue
  | list vs => vs
  | _ => []

/-- Entries with a value under a key, in place of what the key had. -/
def putEntry (k : String) (v : SettingValue) : List (String × SettingValue) → List (String × SettingValue)
  | [] => [(k, v)]
  | (j, w) :: es => if j = k then (k, v) :: es else (j, w) :: putEntry k v es

/-- The value under a key of a table. -/
def get? (v : SettingValue) (k : String) : Option SettingValue := SortedMap.lookup k v.entries

mutual

/-- A value with another laid over what a key has: of a table every entry by itself, any other value as
    a whole. -/
def overlay (k : String) (v : SettingValue) (base : SettingValue) : SettingValue :=
  match v with
  | table es => table (putEntry k (overlayAll es ((base.get? k).getD (table []))) base.entries)
  | v => table (putEntry k v base.entries)

/-- A value with the entries of a table laid over it. No entries leave it as it is. -/
def overlayAll (es : List (String × SettingValue)) (base : SettingValue) : SettingValue :=
  match es with
  | [] => base
  | (k, v) :: es => overlayAll es (overlay k v base)

end

/-- The place of an element of a list, which grows if need be. -/
def place (i : Int) (length : Nat) : Nat := if 0 ≤ i then i.toNat else length - i.natAbs

/-- A value with another put at the end of a path within it. -/
def putAt (v : SettingValue) : List Step → SettingValue → SettingValue
  | [], _ => v
  | [.key k], base => overlay k v base
  | .key k :: steps, base =>
    table (putEntry k (putAt v steps ((base.get? k).getD nil)) base.entries)
  | .element i :: steps, base =>
    let vs := base.elements
    let n := place i vs.length
    let grown := vs ++ List.replicate (n + 1 - vs.length) nil
    list (grown.set n (putAt v steps (grown.getD n nil)))

/-- A table with the entries of another layer laid over it, each at the path that its key is. -/
def layer (base : SettingValue) (es : List (String × SettingValue)) : SettingValue :=
  es.foldl (fun base (k, v) => let (first, steps) := path k; putAt v (.key first :: steps) base) base

end SettingValue
end Telemetry

import Telemetry.Double.Reading
import Telemetry.Settings.Value
import Telemetry.Yaml.Node

/-! Files of settings: YAML texts with a table at the top. No key may come twice in a table, and keys are
    texts, numbers or truth values. -/

namespace Telemetry
namespace Settings

open Yaml

/-- A double in the forms that a file may use, the words for what is not finite among them. -/
def isDouble (s : String) : Bool :=
  [".inf", ".Inf", ".INF", "+.inf", "+.Inf", "+.INF", "-.inf", "-.Inf", "-.INF", ".nan", ".NaN", ".NAN"].contains s ||
    (s.toList.any Char.isDigit && (Double.ofChars? s.toList).isSome)

/-- An integer in the forms that a file may use. -/
def integer? (s : String) : Option Int64 :=
  let plain := Numeral.int64? 10 s.toList
  match s.toList with
  | '0' :: 'x' :: cs => Numeral.int64? 16 cs
  | '0' :: 'o' :: cs => Numeral.int64? 8 cs
  | '+' :: cs => Numeral.int64? 10 cs
  | _ => plain

/-- What a scalar stands for; a double is kept as it is written. -/
inductive Scalar where
  | nil
  | bool (b : Bool)
  | int (n : Int64)
  | double (s : String)
  | text (s : String)
  deriving DecidableEq, Repr

/-- The meaning of a scalar without quotes and tag. -/
def plainScalar (s : String) : Scalar :=
  match integer? s with
  | some n => .int n
  | none =>
    if s = "" ∨ s = "~" ∨ s = "null" then .nil
    else if s = "true" then .bool true
    else if s = "false" then .bool false
    else if isDouble s then .double s
    else .text s

/-- The meaning of a scalar with one of the core tags; where the text does not fit there is nothing. -/
def taggedScalar (tag s : String) : Scalar :=
  if tag = "tag:yaml.org,2002:bool" then
    if s = "true" then .bool true else if s = "false" then .bool false else .nil
  else if tag = "tag:yaml.org,2002:int" then ((Numeral.int64? 10 s.toList).map Scalar.int).getD .nil
  else if tag = "tag:yaml.org,2002:float" then if isDouble s then .double s else .nil
  else if tag = "tag:yaml.org,2002:null" then .nil
  else .text s

def scalar (style : Style) (tag : Option String) (s : String) : Scalar :=
  match style, tag with
  | .plain, none => plainScalar s
  | .plain, some t => taggedScalar t s
  | _, _ => .text s

/-- The value that a scalar is; doubles have to be finite. -/
def Scalar.value? : Scalar → Option SettingValue
  | nil => some .nil
  | bool b => some (.bool b)
  | int n => some (.int n.toInt)
  | double s => (Double.ofChars? s.toList).map SettingValue.double
  | text s => some (.text s)

/-- The key that a scalar is. -/
def Scalar.key? : Scalar → Option String
  | nil => none
  | bool b => some (toString b)
  | int n => some (toString n.toInt)
  | double s | text s => some s

/-- The keys of a mapping, each as it stands for something and as a text. -/
def readKey : Node → Option (Scalar × String)
  | .scalar style tag s => let x := scalar style tag s; x.key?.map (x, ·)
  | _ => none

mutual

/-- The value that a node is. -/
def readNode : Node → Option SettingValue
  | .scalar style tag s => (scalar style tag s).value?
  | .list ns => (readNodes ns).map SettingValue.list
  | .mapping es => do
    let keys ← es.mapM fun e => readKey e.1
    let values ← readValues es
    if (keys.map Prod.fst).Nodup then
      some (.table ((keys.map Prod.snd).zip values |>.foldl (fun t e => SettingValue.putEntry e.1 e.2 t) []))
    else none

def readNodes : List Node → Option (List SettingValue)
  | [] => some []
  | n :: ns => do
    let v ← readNode n
    let vs ← readNodes ns
    pure (v :: vs)

def readValues : List (Node × Node) → Option (List SettingValue)
  | [] => some []
  | (_, n) :: es => do
    let v ← readNode n
    let vs ← readValues es
    pure (v :: vs)

end

/-- The entries of a file of settings; a file without anything has none. -/
def readFile (text : String) : Except SettingsError (List (String × SettingValue)) :=
  match parse? lenient text with
  | some none => .ok []
  | some (some n) =>
    match readNode n with
    | some (.table es) => .ok es
    | _ => .error .unreadableFile
  | none => .error .unreadableFile

end Settings
end Telemetry

import Telemetry.Double.Shortest
import Telemetry.Json.Basic

/-! JSON texts of values, without any space. A double without digits is written as null. -/

namespace Telemetry
namespace Json

/-- How a character of a text is written. -/
def escapeChar (c : Char) : List Char :=
  if c = '"' then ['\\', '"']
  else if c = '\\' then ['\\', '\\']
  else if c = '\n' then ['\\', 'n']
  else if c = '\r' then ['\\', 'r']
  else if c = '\t' then ['\\', 't']
  else if c.toNat < 0x20 then
    ['\\', 'u', '0', '0', Nat.digitChar (c.toNat / 16), Nat.digitChar (c.toNat % 16)]
  else [c]

/-- A text between quotes. -/
def writeString (s : String) : String := String.ofList ('"' :: s.toList.flatMap escapeChar ++ ['"'])

/-- A double, with a point even if it is whole. -/
def writeDouble (x : Double) : String :=
  let s := x.shortest
  if !x.isFinite then "null" else if s.toList.contains '.' then s else s ++ ".0"

mutual

/-- The text of a value. -/
def write : Json → String
  | null => "null"
  | bool true => "true"
  | bool false => "false"
  | int n => toString n
  | double x => writeDouble x
  | string s => writeString s
  | array xs => "[" ++ ",".intercalate (writeElements xs) ++ "]"
  | object ms => "\x7b" ++ ",".intercalate (writeMembers ms) ++ "\x7d"

def writeElements : List Json → List String
  | [] => []
  | x :: xs => write x :: writeElements xs

def writeMembers : List (String × Json) → List String
  | [] => []
  | (key, x) :: ms => (writeString key ++ ":" ++ write x) :: writeMembers ms

end

end Json
end Telemetry

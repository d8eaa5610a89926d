import Telemetry.Double.Reading
import Telemetry.Numeral
import Telemetry.Simulation.Reading
import Telemetry.Yaml.Node

/-! Descriptions of simulated devices as YAML texts. Where a text is wanted, a scalar is taken as it is
    written; where a number is wanted, it must not be quoted. A record may also be given as the list of
    its fields in order. -/

namespace Telemetry
namespace Simulation

open Yaml

/-! ### Scalars -/

/-- What the core tags of YAML begin with. -/
def coreTag (name : String) : String := "tag:yaml.org,2002:" ++ name

/-- The text of a scalar that may stand for something else than a text: a plain one, or lines kept as they
    are under the tag of what is wanted. -/
def bare? (tag : String) : Node → Option String
  | .scalar .plain _ s => some s
  | .scalar .literal (some t) s => if t = tag then some s else none
  | _ => none

def isNullWord (s : String) : Bool := s == "null" || s == "Null" || s == "NULL" || s == "~"

def boolWord? (s : String) : Option Bool :=
  if s = "true" ∨ s = "True" ∨ s = "TRUE" then some true
  else if s = "false" ∨ s = "False" ∨ s = "FALSE" then some false
  else none

/-- The base that two characters in front of digits announce, with the digits. -/
def based? : List Char → Option (Nat × List Char)
  | '0' :: 'x' :: cs => some (16, cs)
  | '0' :: 'o' :: cs => some (8, cs)
  | '0' :: 'b' :: cs => some (2, cs)
  | _ => none

/-- Whether digits begin with a zero that does not count. -/
def hasLeadingZero : List Char → Bool
  | '0' :: c :: cs => (c :: cs).all Char.isDigit
  | _ => false

def dropPlus : List Char → List Char
  | '+' :: cs => cs
  | cs => cs

def dropSign : List Char → List Char
  | '+' :: cs => cs
  | '-' :: cs => cs
  | cs => cs

/-- A whole number that is not negative, to any of the bases. -/
def unsigned? (cs : List Char) : Option Nat :=
  let body := dropPlus cs
  match based? body with
  | some (base, ds) => Numeral.natural? base ds
  | none => if hasLeadingZero body then none else Numeral.natural? 10 body

/-- A whole number with a minus in front of it, to any of the bases. -/
def negative? : List Char → Option Nat
  | '-' :: cs =>
    match based? cs with
    | some (base, ds) => Numeral.natural? base ds
    | none => if hasLeadingZero cs then none else Numeral.natural? 10 cs
  | _ => none

/-- A whole number of at most 64 bits, with or without a sign. -/
def integer? (cs : List Char) : Option Int :=
  match (unsigned? cs).filter (· < UInt64.size), (negative? cs).filter (· ≤ Nat.pow 2 63) with
  | some n, _ => some n
  | none, some n => some (-n)
  | none, none => none

/-- A whole number of more than 64 bits and at most 128. -/
def isWide (cs : List Char) : Bool :=
  ((unsigned? cs).any (· < Nat.pow 2 128)) || (negative? cs).any (· ≤ Nat.pow 2 127)

/-- A finite double, or a word for one that is not finite. -/
def double? (cs : List Char) : Option Double :=
  let body := dropPlus cs
  let word := String.ofList body
  if [".inf", ".Inf", ".INF"].contains word then some (Double.infinity false)
  else if ["-.inf", "-.Inf", "-.INF"].contains (String.ofList cs) then some (Double.infinity true)
  else if [".nan", ".NaN", ".NAN"].contains (String.ofList cs) then some Double.nan
  else if body.length < cs.length && body.head?.any (fun c => c == '+' || c == '-') then none
  else (Double.ofChars? body).filter Double.isFinite

/-! ### Values -/

def yamlText? : Node → Option String
  | .scalar _ _ s => some s
  | _ => none

/-- A text that is not there if nothing or a word for nothing is written. -/
def yamlOptionalText? : Node → Option (Option String)
  | .scalar .plain none s => some (if s.isEmpty || isNullWord s then none else some s)
  | .scalar .plain (some t) s =>
    if t = coreTag "null" then if isNullWord s then some none else none else some (some s)
  | .scalar _ _ s => some (some s)
  | _ => none

def yamlFlag? (n : Node) : Option Bool := (bare? (coreTag "bool") n).bind boolWord?

/-- A whole number of 32 bits. -/
def yamlWord? (n : Node) : Option UInt32 := do
  let s ← bare? (coreTag "int") n
  let i ← unsigned? s.toList
  if i < UInt32.size then some (UInt32.ofNat i) else none

/-- The reading that a whole number is: an integer if 64 bits hold it with its sign, else a double. -/
def integerReading (n : Int) : FixedReading :=
  if Numeral.fitsInt64 n then .int (Int64.ofInt n) else .double (Double.ofInt n)

/-- The reading of a scalar that is not quoted. Words for truth and for nothing are no readings, and
    neither are whole numbers of more than 64 bits. -/
def bareReading? (s : String) : Option FixedReading :=
  let cs := s.toList
  if s.isEmpty || isNullWord s || (boolWord? s).isSome then none
  else
    match integer? cs with
    | some n => some (integerReading n)
    | none =>
      if isWide cs then none
      else if hasLeadingZero (dropSign cs) then some (.text s)
      else
        match double? cs with
        | some x => some (.double x)
        | none => some (.text s)

/-- The reading of a scalar under a tag: of a number of its kind, or of the text. A tag of one's own, and
    one for truth or nothing, has none. -/
def taggedReading? (t s : String) : Option FixedReading :=
  if t.startsWith "!" ∨ t = coreTag "bool" ∨ t = coreTag "null" then none
  else if t = coreTag "int" then (integer? s.toList).map integerReading
  else if t = coreTag "float" then (double? s.toList).map FixedReading.double
  else some (.text s)

def yamlReading? : Node → Option FixedReading
  | .scalar _ (some t) s => taggedReading? t s
  | .scalar .plain none s => bareReading? s
  | .scalar _ none s => some (.text s)
  | _ => none

/-- Whether a value is left empty. -/
def isVoid : Node → Bool
  | .scalar .plain _ "" => true
  | _ => false

def yamlList? : Node → Option (List Node)
  | .list ns => some ns
  | n => if isVoid n then some [] else none

/-- The entries of a mapping, whose keys have to be scalars. -/
def textKeys? (es : List (Node × Node)) : Option (List (String × Node)) :=
  es.mapM fun (k, v) => (yamlText? k).map (·, v)

/-- The entries of a map, which may be left empty; of two with one key the later counts. -/
def yamlEntries? : Node → Option (List (String × Node))
  | .mapping es => textKeys? es
  | n => if isVoid n then some [] else none

/-- The fields of a record: entries of a mapping, none of them twice, or elements of a list without any
    left over. -/
def yamlFields? (names : List String) : Node → Option (List (String × Node))
  | .mapping es => do
    let fs ← textKeys? es
    let known := fs.filter fun f => names.contains f.1
    if (known.map Prod.fst).Nodup then some known else none
  | .list ns => if names.length < ns.length then none else some (names.zip ns)
  | _ => none

/-- What a description needs of YAML values. -/
def yamlFormat : DocumentFormat Node where
  list? := yamlList?
  entries? := yamlEntries?
  fields? := yamlFields?
  text? := yamlText?
  optionalText? := yamlOptionalText?
  flag? := yamlFlag?
  word? := yamlWord?
  reading? := yamlReading?

/-- The description that a YAML text is. -/
def ofYaml? (text : String) : Option Simulation :=
  match parse? strict text with
  | some (some n) => read? yamlFormat n
  | _ => none

end Simulation
end Telemetry

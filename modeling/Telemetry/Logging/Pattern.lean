import Telemetry.Numeral

/-! Patterns for the values of fields, as far as it matters whether a text is one: groups and classes are
    closed, what repeats has something to repeat, and a backslash has a meaning. -/

namespace Telemetry
namespace Pattern

/-- Whether a backslash takes a character for itself. -/
def isEscapable (c : Char) : Bool := 0x20 < c.toNat && c.toNat < 0x7f && !c.isAlphanum && c != '<' && c != '>'

/-- The letters that stand for a class, a control or an end of the text behind a backslash. -/
def hasMeaning (c : Char) : Bool := "dDsSwWafnrtvAz".toList.contains c

/-- The letters of the classes of characters. -/
def isClassLetter (c : Char) : Bool := "LMNPSZC".toList.contains c

/-- The number of digits behind the letter of an escape by code point. -/
def codeLength? : Char → Option Nat
  | 'x' => some 2
  | 'u' => some 4
  | 'U' => some 8
  | _ => none

/-- Whether digits name a character. -/
def isCode (ds : List Char) : Bool :=
  match Numeral.natural? 16 ds with
  | some n => n.isValidChar
  | none => false

/-- What follows an escape, given what follows its backslash. -/
def afterEscape? : List Char → Option (List Char)
  | [] => none
  | c :: cs =>
    if isEscapable c || hasMeaning c then some cs
    else if c = 'p' ∨ c = 'P' then
      match cs with
      | l :: cs => if isClassLetter l then some cs else none
      | [] => none
    else
      match codeLength? c with
      | none => none
      | some k => if (cs.take k).length = k && isCode (cs.take k) then some (cs.drop k) else none

/-- What follows a class, given what follows its opening bracket; `depth` is the number of classes around
    the place, and `first` says whether a closing bracket would be an element. -/
def afterClass? : Nat → Nat → Bool → List Char → Option (List Char)
  | 0, _, _, _ => none
  | _, _, _, [] => none
  | fuel + 1, depth, first, '^' :: cs => afterClass? fuel depth first cs
  | fuel + 1, depth, true, ']' :: cs => afterClass? fuel depth false cs
  | fuel + 1, depth, false, ']' :: cs => if depth = 0 then some cs else afterClass? fuel (depth - 1) false cs
  | fuel + 1, depth, _, '[' :: cs => afterClass? fuel (depth + 1) true cs
  | fuel + 1, depth, _, '\\' :: cs => (afterEscape? cs).bind (afterClass? fuel depth false)
  | fuel + 1, depth, _, _ :: cs => afterClass? fuel depth false cs

/-- Whether a character may stand in the name of a group. -/
def isNameChar (c : Char) : Bool := c.isAlphanum || c == '_' || c == '.' || c == '[' || c == ']'

/-- What follows the name of a group. -/
def afterName? (cs : List Char) : Option (List Char) :=
  let name := cs.takeWhile isNameChar
  match name, cs.drop name.length with
  | c :: _, '>' :: cs => if c.isAlpha || c = '_' then some cs else none
  | _, _ => none

/-- What follows the opening of a group, and whether it is a group: flags for the rest are none. -/
def afterOpening? : List Char → Option (Bool × List Char)
  | '?' :: 'P' :: '<' :: cs => (afterName? cs).map (true, ·)
  | '?' :: '<' :: cs => (afterName? cs).map (true, ·)
  | '?' :: cs =>
    let flags := cs.takeWhile fun c => "imsUuxR-".toList.contains c
    match flags, cs.drop flags.length with
    | _, ':' :: cs => some (true, cs)
    | _ :: _, ')' :: cs => some (false, cs)
    | _, _ => none
  | cs => some (true, cs)

/-- Whether a text goes on as a pattern; `depth` groups are open, and `operand` says whether there is
    something to repeat. -/
def goesOn : Nat → Nat → Bool → List Char → Bool
  | 0, _, _, _ => false
  | _, depth, _, [] => depth == 0
  | fuel + 1, depth, operand, c :: cs =>
    if c = '*' ∨ c = '+' ∨ c = '?' then operand && goesOn fuel depth true cs
    else if c = '\x7b' then false
    else if c = '|' then goesOn fuel depth false cs
    else if c = ')' then depth != 0 && goesOn fuel (depth - 1) true cs
    else if c = '(' then
      match afterOpening? cs with
      | none => false
      | some (true, cs) => goesOn fuel (depth + 1) false cs
      | some (false, cs) => goesOn fuel depth false cs
    else if c = '[' then
      match afterClass? cs.length.succ 0 true cs with
      | none => false
      | some cs => goesOn fuel depth true cs
    else if c = '\\' then
      match afterEscape? cs with
      | none => false
      | some cs => goesOn fuel depth true cs
    else goesOn fuel depth true cs

/-- Whether a text is a pattern. -/
def isPattern (cs : List Char) : Bool := goesOn cs.length.succ 0 false cs

end Pattern
end Telemetry

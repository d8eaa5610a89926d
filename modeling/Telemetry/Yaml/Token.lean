import Telemetry.Numeral
import Telemetry.Yaml.Dialect

/-! The tokens of a YAML text. Indentation becomes tokens for the beginning and the end of blocks. A key
    is not known as such before its colon is seen; until then its place among the tokens is kept, and
    the tokens that mark it are put there afterwards. -/

namespace Telemetry
namespace Yaml

/-- How a scalar is written; only a plain one can stand for anything but a text. -/
inductive Style where
  | plain
  | quoted
  /-- Lines that are kept as they are. -/
  | literal
  /-- Lines that are joined. -/
  | folded
  deriving DecidableEq, Repr, Inhabited

/-- A token. -/
inductive Token where
  | directive
  | tagDirective (handle start : String)
  | documentStart
  | documentEnd
  | blockListStart
  | blockMappingStart
  | blockEnd
  | flowListStart
  | flowListEnd
  | flowMappingStart
  | flowMappingEnd
  | blockEntry
  | flowEntry
  | key
  | value
  | alias (name : String)
  | anchor (name : String)
  | tag (handle suffix : String)
  | scalar (style : Style) (text : String)
  deriving DecidableEq, Repr, Inhabited

/-- A place where a key may have begun. -/
structure PossibleKey where
  /-- The number of tokens before it. -/
  token : Nat
  index : Nat
  line : Nat
  column : Nat
  /-- Whether nothing but a key can stand there. -/
  required : Bool
  deriving Repr

/-- The state of reading tokens. -/
structure Scanner where
  rest : List Char
  index : Nat := 0
  line : Nat := 0
  column : Nat := 0
  /-- The column of the innermost block, and of those around it. -/
  indent : Int := -1
  outer : List Int := []
  /-- The possible keys of the brackets that are open and of the block around them, innermost first. -/
  keys : List (Option PossibleKey) := [none]
  /-- Whether a key may begin. -/
  keyAllowed : Bool := true
  /-- Whether only blanks stand before on the line. -/
  atLineStart : Bool := true
  tokens : Array Token := #[]

namespace Scanner

variable (D : Dialect)

/-- Whether a text is at its end or goes on with a blank or the end of a line. -/
def blankOrEnd : List Char → Bool
  | [] => true
  | c :: _ => isBlank c || D.isBreak c

def endOfLine : List Char → Bool
  | [] => true
  | c :: _ => D.isBreak c

def inFlow (s : Scanner) : Bool := 1 < s.keys.length

/-- Behind one character that does not end a line. -/
def skip (s : Scanner) : Scanner :=
  match s.rest with
  | [] => s
  | c :: cs =>
    { s with
      rest := cs, index := s.index + 1, column := s.column + 1, atLineStart := s.atLineStart && isBlank c }

def skipMany (n : Nat) (s : Scanner) : Scanner := Nat.repeat skip n s

/-- Behind the end of a line, with the character that stands for it. -/
def skipBreak (s : Scanner) : Scanner × Char :=
  let next (n : Nat) (cs : List Char) : Scanner :=
    { s with rest := cs, index := s.index + n, line := s.line + 1, column := 0, atLineStart := true }
  match s.rest with
  | '\r' :: '\n' :: cs => (next 2 cs, '\n')
  | '\u2028' :: cs => (next 1 cs, '\u2028')
  | '\u2029' :: cs => (next 1 cs, '\u2029')
  | _ :: cs => (next 1 cs, '\n')
  | [] => (s, '\n')

/-- Behind the characters that pass a test. -/
def skipWhile (p : Char → Bool) : Nat → Scanner → Scanner
  | 0, s => s
  | fuel + 1, s =>
    match s.rest with
    | c :: _ => if p c then skipWhile p fuel s.skip else s
    | [] => s

def skipAll (p : Char → Bool) (s : Scanner) : Scanner := skipWhile p s.rest.length s

def push (t : Token) (s : Scanner) : Scanner := { s with tokens := s.tokens.push t }

def insert (i : Nat) (t : Token) (s : Scanner) : Scanner :=
  { s with tokens := (s.tokens.toList.take i ++ t :: s.tokens.toList.drop i).toArray }

/-! ### Keys and blocks -/

/-- Gives up the possible key; none if there had to be one. -/
def dropKey (s : Scanner) : Option Scanner :=
  match s.keys with
  | some k :: ks => if k.required then none else some { s with keys := none :: ks }
  | _ => some s

/-- Keeps the place as one where a key may begin. -/
def keepKey (s : Scanner) : Option Scanner :=
  if s.keyAllowed then do
    let s ← s.dropKey
    let k : PossibleKey :=
      { token := s.tokens.size, index := s.index, line := s.line, column := s.column
        required := !s.inFlow && s.indent == s.column }
    pure { s with keys := some k :: s.keys.drop 1 }
  else some s

/-- Whether a possible key cannot be one any more: it is too long, or the line has ended. -/
def isStale (s : Scanner) (k : PossibleKey) : Bool :=
  (k.line < s.line || k.index + 1024 < s.index) && (D.flowKeyOnLine || !s.inFlow)

/-- Gives up the keys that cannot be keys any more. -/
def dropStale (s : Scanner) : Option Scanner := do
  let keys ← s.keys.mapM fun k =>
    match k with
    | none => some none
    | some k => if isStale D s k then if k.required then none else some none else some (some k)
  pure { s with keys }

/-- Ends the blocks that are indented further than a column. -/
def closeBlocks (column : Int) : Nat → Scanner → Scanner
  | 0, s => s
  | fuel + 1, s =>
    if s.inFlow || s.indent ≤ column then s
    else closeBlocks column fuel { s.push .blockEnd with indent := s.outer.headD (-1), outer := s.outer.drop 1 }

def unroll (column : Int) (s : Scanner) : Scanner := closeBlocks column (s.outer.length + 1) s

/-- Begins a block at a column, unless there is one; its token is put at a place among the tokens. -/
def openBlock (column place : Nat) (t : Token) (s : Scanner) : Scanner :=
  if s.inFlow || (column : Int) ≤ s.indent then s
  else { s.insert place t with indent := column, outer := s.indent :: s.outer }

/-! ### Between tokens -/

/-- Behind a comment, if there is one. -/
def skipComment (s : Scanner) : Scanner :=
  match s.rest with
  | '#' :: _ => s.skipAll fun c => !D.isBreak c
  | _ => s

/-- Behind blanks, comments and ends of lines. -/
def skipToToken : Nat → Scanner → Option Scanner
  | 0, s => some s
  | fuel + 1, s =>
    match s.rest with
    | ' ' :: _ => skipToToken fuel s.skip
    | '\t' :: _ =>
      if D.leadingTabs then
        if !s.inFlow && s.atLineStart && (s.column : Int) < s.indent then
          let s := s.skipAll isBlank |>.skipComment D
          if endOfLine D s.rest then skipToToken fuel s else none
        else skipToToken fuel s.skip
      else if s.inFlow || !s.keyAllowed then skipToToken fuel s.skip
      else some s
    | '#' :: _ => skipToToken fuel (s.skipComment D)
    | c :: _ =>
      if D.isBreak c then
        let s := s.skipBreak.1
        skipToToken fuel (if s.inFlow then s else { s with keyAllowed := true })
      else some s
    | [] => some s

/-! ### Scalars -/

/-- What stands for the blanks and ends of lines between two pieces of a scalar: a single end of a line
    becomes a space, and of several the first is dropped. -/
def fold (first : Option Char) (others : List Char) : List Char :=
  match first with
  | none => others
  | some '\n' => if others.isEmpty then [' '] else others
  | some c => c :: others

/-- What separates two pieces of a scalar: the blanks on the line of the first, or ends of lines. -/
structure Gap where
  blanks : List Char := []
  broken : Bool := false
  first : Option Char := none
  others : List Char := []

def Gap.text (g : Gap) : List Char := if g.broken then fold g.first g.others else g.blanks

/-- Behind blanks and ends of lines. Blanks count on the first line only; a tab in front of a piece
    that has to be indented is refused if `tabs` says so. -/
def readGap (tabs : Scanner → Bool) : Nat → Gap → Scanner → Option (Gap × Scanner)
  | 0, g, s => some (g, s)
  | fuel + 1, g, s =>
    match s.rest with
    | [] => some (g, s)
    | c :: _ =>
      if isBlank c then
        if g.broken then if c == '\t' && !tabs s then none else readGap tabs fuel g s.skip
        else readGap tabs fuel { g with blanks := g.blanks ++ [c] } s.skip
      else if D.isBreak c then
        let (s, b) := s.skipBreak
        if g.broken then readGap tabs fuel { g with others := g.others ++ [b] } s
        else readGap tabs fuel { g with broken := true, first := some b } s
      else some (g, s)

/-- Whether a line begins with the mark of the beginning or of the end of a document. -/
def atDocumentMark (s : Scanner) : Bool :=
  s.column == 0 &&
    match s.rest with
    | '-' :: '-' :: '-' :: cs => blankOrEnd D cs
    | '.' :: '.' :: '.' :: cs => blankOrEnd D cs
    | _ => false

/-- Whether a plain scalar ends at a character. -/
def endsPlain (s : Scanner) : Bool :=
  match s.rest with
  | [] => true
  | ':' :: cs => blankOrEnd D cs || (s.inFlow && (cs.head?.any isFlowIndicator))
  | c :: _ => isBlank c || D.isBreak c || (s.inFlow && isFlowIndicator c)

/-- The characters of a piece of a plain scalar. -/
def readPlainPiece : Nat → List Char → Scanner → List Char × Scanner
  | 0, acc, s => (acc, s)
  | fuel + 1, acc, s =>
    if endsPlain D s then (acc, s)
    else readPlainPiece fuel (acc ++ s.rest.take 1) s.skip

/-- The pieces of a plain scalar behind what was read of it, which ends with a gap. -/
def readPlain (indent : Int) : Nat → List Char → Gap → Scanner → Option (List Char × Bool × Scanner)
  | 0, acc, g, s => some (acc, g.broken, s)
  | fuel + 1, acc, g, s =>
    if atDocumentMark D s || s.rest.head? == some '#' then some (acc, g.broken, s)
    else do
      let (piece, t) := readPlainPiece D s.rest.length [] s
      let (acc, g) := if piece.isEmpty then (acc, g) else (acc ++ g.text ++ piece, {})
      if t.inFlow && D.flowKeyOnLine && t.rest.head? == some ':' && !blankOrEnd D (t.rest.drop 1) then none
      else if piece.isEmpty || !(t.rest.head?.any fun c => isBlank c || D.isBreak c) then some (acc, g.broken, t)
      else do
        let indented (s : Scanner) : Bool := indent ≤ (s.column : Int)
        let (g, t) ← readGap D indented t.rest.length g t
        if !t.inFlow && (t.column : Int) < indent then some (acc, g.broken, t)
        else readPlain indent fuel acc g t

/-- Some hexadecimal digits as a character. -/
def hexChar? (cs : List Char) : Option Char := do
  let n ← Numeral.natural? 16 cs
  if n.isValidChar then some (Char.ofNat n) else none

/-- What stands behind a backslash: the character that it means, and the number of characters. -/
def escape? : List Char → Option (Char × Nat)
  | '0' :: _ => some ('\x00', 1)
  | 'a' :: _ => some ('\x07', 1)
  | 'b' :: _ => some ('\x08', 1)
  | 't' :: _ => some ('\t', 1)
  | '\t' :: _ => some ('\t', 1)
  | 'n' :: _ => some ('\n', 1)
  | 'v' :: _ => some ('\x0b', 1)
  | 'f' :: _ => some ('\x0c', 1)
  | 'r' :: _ => some ('\r', 1)
  | 'e' :: _ => some ('\x1b', 1)
  | ' ' :: _ => some (' ', 1)
  | '"' :: _ => some ('"', 1)
  | '/' :: _ => some ('/', 1)
  | '\\' :: _ => some ('\\', 1)
  | 'N' :: _ => some ('\x85', 1)
  | '_' :: _ => some ('\xa0', 1)
  | 'L' :: _ => some ('\u2028', 1)
  | 'P' :: _ => some ('\u2029', 1)
  | 'x' :: cs => if cs.length < 2 then none else (hexChar? (cs.take 2)).map (·, 3)
  | 'u' :: cs => if cs.length < 4 then none else (hexChar? (cs.take 4)).map (·, 5)
  | 'U' :: cs => if cs.length < 8 then none else (hexChar? (cs.take 8)).map (·, 9)
  | _ => none

/-- The characters of a quoted scalar up to the closing quote. -/
def readQuoted (double : Bool) : Nat → List Char → Scanner → Option (List Char × Scanner)
  | 0, _, _ => none
  | fuel + 1, acc, s =>
    if atDocumentMark D s then none
    else
      match s.rest with
      | [] => none
      | '\'' :: '\'' :: _ =>
        if double then readQuoted double fuel (acc ++ ['\'']) s.skip
        else readQuoted double fuel (acc ++ ['\'']) (s.skipMany 2)
      | '\'' :: _ => if double then readQuoted double fuel (acc ++ ['\'']) s.skip else some (acc, s.skip)
      | '"' :: _ => if double then some (acc, s.skip) else readQuoted double fuel (acc ++ ['"']) s.skip
      | '\\' :: cs =>
        if !double then readQuoted double fuel (acc ++ ['\\']) s.skip
        else if cs.head?.any D.isBreak then do
          let s := s.skip.skipBreak.1
          let (g, s) ← readGap D (fun _ => true) s.rest.length { broken := true } s
          readQuoted double fuel (acc ++ g.text) s
        else do
          let (c, n) ← escape? cs
          readQuoted double fuel (acc ++ [c]) (s.skipMany (n + 1))
      | c :: _ =>
        if isBlank c || D.isBreak c then do
          let (g, s) ← readGap D (fun _ => true) s.rest.length {} s
          readQuoted double fuel (acc ++ g.text) s
        else readQuoted double fuel (acc ++ [c]) s.skip

/-- How a block scalar ends: without its last end of a line, with it, or with all empty lines. -/
inductive Chomping where
  | strip
  | clip
  | keep
  deriving DecidableEq

/-- The signs behind the mark of a block scalar: how it ends and how far it is indented. -/
def readHeader (s : Scanner) : Option (Chomping × Option Nat × Scanner) :=
  let chomping? (s : Scanner) : Option Chomping :=
    match s.rest with
    | '+' :: _ => some .keep
    | '-' :: _ => some .strip
    | _ => none
  let digit? (s : Scanner) : Option Nat :=
    match s.rest with
    | c :: _ => if c.isDigit then some (c.toNat - 48) else none
    | [] => none
  let checked (r : Chomping × Option Nat × Scanner) := if r.2.1 = some 0 then none else some r
  match chomping? s, digit? s with
  | some c, _ =>
    match digit? s.skip with
    | some n => checked (c, some n, s.skip.skip)
    | none => some (c, none, s.skip)
  | none, some n =>
    match chomping? s.skip with
    | some c => checked (c, some n, s.skip.skip)
    | none => checked (.clip, some n, s.skip)
  | none, none => some (.clip, none, s)

/-- Behind the empty lines in front of a line of a block scalar, with their ends and the widest column. -/
def readBreaks (indent : Option Nat) : Nat → List Char → Nat → Scanner → Option (List Char × Nat × Scanner)
  | 0, acc, widest, s => some (acc, widest, s)
  | fuel + 1, acc, widest, s =>
    let inside := match indent with | none => true | some n => s.column < n
    match s.rest with
    | ' ' :: _ =>
      if inside then readBreaks indent fuel acc (max widest (s.column + 1)) s.skip else some (acc, widest, s)
    | '\t' :: _ => if inside then none else some (acc, widest, s)
    | c :: _ =>
      if D.isBreak c then
        let (s, b) := s.skipBreak
        readBreaks indent fuel (acc ++ [b]) widest s
      else some (acc, widest, s)
    | [] => some (acc, widest, s)

/-- Lines that were read: their text, the end of the last one, the empty lines behind it, and the rest. -/
abbrev Lines := List Char × Option Char × List Char × Scanner

/-- The lines of a block scalar. `first` is the end of the line before, `breaks` the empty lines behind it. -/
def readLines (literal : Bool) (indent : Nat) :
    Nat → List Char → Option Char → List Char → Bool → Scanner → Option Lines
  | 0, acc, first, breaks, _, s => some (acc, first, breaks, s)
  | fuel + 1, acc, first, breaks, blankBefore, s =>
    if s.column != indent || s.rest.isEmpty then some (acc, first, breaks, s)
    else do
      let blankHere := s.rest.head?.any isBlank
      let lead :=
        if !literal && first == some '\n' && !blankBefore && !blankHere then if breaks.isEmpty then [' '] else []
        else first.toList
      let line := s.rest.takeWhile fun c => !D.isBreak c
      let s := s.skipMany line.length
      let acc := acc ++ lead ++ breaks ++ line
      if s.rest.isEmpty then some (acc, none, [], s)
      else do
        let (s, b) := s.skipBreak
        let (breaks, _, s) ← readBreaks D (some indent) s.rest.length [] 0 s
        readLines literal indent fuel acc (some b) breaks blankHere s

/-- A block scalar, behind its mark. -/
def readBlock (literal : Bool) (s : Scanner) : Option (List Char × Scanner) := do
  let (chomping, width, s) ← readHeader s
  let s := (s.skipAll isBlank).skipComment D
  if !endOfLine D s.rest then none
  else do
    let s := if s.rest.isEmpty then s else s.skipBreak.1
    let least := (s.indent + 1).toNat
    let given := width.map fun n => if 0 ≤ s.indent then s.indent.toNat + n else n
    let (breaks, widest, s) ← readBreaks D given s.rest.length [] 0 s
    let indent := given.getD (max widest (max least 1))
    let (text, last, breaks, s) ← readLines D literal indent (s.rest.length + 1) [] none breaks false s
    let ending :=
      match chomping with
      | .strip => []
      | .clip => last.toList
      | .keep => last.toList ++ breaks
    pure (text ++ ending, s)

/-! ### Tokens -/

/-- The characters of a name behind a mark. -/
def readName (s : Scanner) : Option (String × Scanner) :=
  let t := s.skipAll D.isNameChar
  let name := s.rest.take (t.index - s.index)
  let behind := blankOrEnd D t.rest || (t.rest.head?.any fun c => "?:,]\x7d%@\x60".toList.contains c)
  if name.isEmpty || !behind then none else some (String.ofList name, t)

/-- A tag: handle and suffix, behind which a blank has to stand, or a comma within brackets. -/
def readTag (s : Scanner) : Option ((String × String) × Scanner) := do
  let uri (c : Char) : Bool :=
    c.isAlphanum || "-_;/?:@&=+$.!~*'()%#".toList.contains c || (!s.inFlow && ",[]".toList.contains c)
  let ended (r : (String × String) × Scanner) : Option ((String × String) × Scanner) :=
    if blankOrEnd D r.2.rest || (s.inFlow && r.2.rest.head? == some ',') then some r else none
  match s.rest with
  | '!' :: '<' :: cs =>
    let name := cs.takeWhile (· != '>')
    if name.length = cs.length || name.isEmpty then none
    else ended (("", String.ofList name), s.skipMany (name.length + 3))
  | '!' :: cs =>
    let word := cs.takeWhile isWordChar
    match cs.drop word.length with
    | '!' :: rest =>
      let suffix := rest.takeWhile uri
      if suffix.isEmpty then none
      else
        let handle := String.ofList ('!' :: word ++ ['!'])
        ended ((handle, String.ofList suffix), s.skipMany (word.length + 2 + suffix.length))
    | _ =>
      let suffix := cs.takeWhile uri
      ended (("!", String.ofList suffix), s.skipMany (1 + suffix.length))
  | _ => none

/-- A directive, up to the end of its line. -/
def readDirective (s : Scanner) : Option (Token × Scanner) :=
  let line := s.rest.takeWhile fun c => !D.isBreak c
  let words := ((String.ofList line).splitOn " ").filter fun w => !w.isEmpty
  let s := s.skipMany line.length
  match words with
  | "%YAML" :: version :: _ => if version.startsWith "1." then some (.directive, s) else none
  | "%TAG" :: handle :: start :: _ => some (.tagDirective handle start, s)
  | "%TAG" :: _ => none
  | name :: _ => if name.length < 2 || name == "%YAML" then none else some (.directive, s)
  | [] => none

/-- Without a possible key, and with a key allowed or not. -/
def settled (allowed : Bool) (s : Scanner) : Option Scanner :=
  s.dropKey.map fun s => { s with keyAllowed := allowed }

/-- Opens brackets. -/
def openFlow (t : Token) (s : Scanner) : Option Scanner :=
  s.keepKey.map fun s => { s.skip.push t with keys := none :: s.keys, keyAllowed := true }

/-- Closes brackets. -/
def closeFlow (t : Token) (s : Scanner) : Option Scanner :=
  (s.settled false).map fun s =>
    let keys := if s.inFlow then s.keys.drop 1 else s.keys
    { s.skip.push t with keys }

/-- A sign that begins an entry of a list or a key. -/
def blockSign (start sign : Token) (allowed : Bool) (s : Scanner) : Option Scanner :=
  if s.inFlow then if sign = .key then (s.settled false).map fun s => s.skip.push sign else none
  else if !s.keyAllowed then none
  else do
    let s := s.openBlock s.column s.tokens.size start
    let s ← s.settled allowed
    pure (s.skip.push sign)

/-- Whether only tabs stand between a colon and a word. -/
def tabsThenWord (cs : List Char) : Bool :=
  cs.head? == some '\t' && (cs.dropWhile (· == '\t')).head?.any isWordChar

/-- The colon between a key and its value. -/
def valueSign (s : Scanner) : Option Scanner :=
  if !D.tabAfterColon && tabsThenWord (s.rest.drop 1) then none
  else
    match s.keys with
    | some k :: ks =>
      let s := { s with keys := none :: ks, keyAllowed := false }
      let s := s.insert k.token .key
      some (((s.openBlock k.column k.token .blockMappingStart).skip).push .value)
    | _ =>
      if s.inFlow then some { s.skip.push .value with keyAllowed := false }
      else if !s.keyAllowed then none
      else some { (s.openBlock s.column s.tokens.size .blockMappingStart).skip.push .value with keyAllowed := true }

/-- A scalar between quotes. -/
def quoted (double : Bool) (s : Scanner) : Option Scanner := do
  let s ← s.keepKey
  let line := s.line
  let (text, s) ← readQuoted D double (s.rest.length + 1) [] s.skip
  let behind := (s.skipAll isBlank).rest
  let clean :=
    match behind with
    | [] => true
    | ':' :: _ => s.inFlow || line = s.line
    | '#' :: _ => s.rest != behind
    | c :: _ => D.isBreak c || (s.inFlow && (c == ',' || c == '\x7d' || c == ']'))
  if D.looseAfterQuote || clean then
    pure { s.push (.scalar .quoted (String.ofList text)) with keyAllowed := false }
  else none

def plain (s : Scanner) : Option Scanner := do
  let s ← s.keepKey
  let s := { s with keyAllowed := false }
  let (text, broken, s) ← readPlain D (s.indent + 1) (s.rest.length + 1) [] {} s
  let s := s.push (.scalar .plain (String.ofList text))
  pure (if broken then { s with keyAllowed := true } else s)

def block (literal : Bool) (s : Scanner) : Option Scanner := do
  let s ← s.settled true
  let (text, s) ← readBlock D literal s.skip
  pure (s.push (.scalar (if literal then .literal else .folded) (String.ofList text)))

/-- A mark that begins or ends a document. -/
def documentMark (t : Token) (s : Scanner) : Option Scanner :=
  ((s.unroll (-1)).settled false).map fun s => (s.skipMany 3).push t

/-- The next token, in front of which the scanner stands. -/
def next (s : Scanner) : Option Scanner :=
  let c := s.rest.headD ' '
  let cs := s.rest.drop 1
  if s.column = 0 && c == '%' then do
    let s ← (s.unroll (-1)).settled false
    let (t, s) ← readDirective D s
    pure (s.push t)
  else if atDocumentMark D s then documentMark (if c == '-' then .documentStart else .documentEnd) s
  else
    match c with
    | '[' => s.openFlow .flowListStart
    | '\x7b' => s.openFlow .flowMappingStart
    | ']' => s.closeFlow .flowListEnd
    | '\x7d' => s.closeFlow .flowMappingEnd
    | ',' => (s.settled true).map fun s => s.skip.push .flowEntry
    | '*' => do
      let s ← s.keepKey
      let (name, s) ← readName D s.skip
      pure { s.push (.alias name) with keyAllowed := false }
    | '&' => do
      let s ← s.keepKey
      let (name, s) ← readName D s.skip
      pure { s.push (.anchor name) with keyAllowed := false }
    | '!' => do
      let s ← s.keepKey
      let ((handle, suffix), s) ← readTag D s
      pure { s.push (.tag handle suffix) with keyAllowed := false }
    | '\'' => quoted D false s
    | '"' => quoted D true s
    | '-' => if blankOrEnd D cs then s.blockSign .blockListStart .blockEntry true else plain D s
    | '?' =>
      if s.inFlow || blankOrEnd D cs then s.blockSign .blockMappingStart .key (!s.inFlow) else plain D s
    | ':' => if s.inFlow || blankOrEnd D cs then valueSign D s else plain D s
    | '|' => if s.inFlow then none else block D true s
    | '>' => if s.inFlow then none else block D false s
    | '%' | '@' | '\x60' | '\t' => none
    | _ => plain D s

/-- All tokens to come. -/
def run : Nat → Scanner → Option (List Token)
  | 0, _ => none
  | fuel + 1, s => do
    let s ← skipToToken D (s.rest.length + 1) s
    let s ← dropStale D s
    let s := s.unroll s.column
    if s.rest.isEmpty then do
      let s ← (s.unroll (-1)).settled false
      pure s.tokens.toList
    else do
      let s ← next D s
      run fuel s

end Scanner

/-- The tokens of a text. -/
def tokens? (D : Dialect) (text : String) : Option (List Token) :=
  let cs := text.toList
  let cs := if D.endsAtZero then cs.takeWhile (· != '\x00') else cs
  let body := match cs with | '\ufeff' :: r => r | r => r
  if body.all D.permits then Scanner.run D (2 * body.length + 2) { rest := body } else none

end Yaml
end Telemetry

import Telemetry.Yaml.Token

/-! The values of a YAML text. Tokens nest into scalars, lists and mappings; an alias is the value that
    bears its name as an anchor, which stands before it. -/

namespace Telemetry
namespace Yaml

/-- A value. A tag is given in full, with the handle replaced by what it stands for. -/
inductive Node where
  | scalar (style : Style) (tag : Option String) (text : String)
  | list (items : List Node)
  | mapping (entries : List (Node × Node))
  deriving Inhabited, Repr

namespace Node

/-- The value where nothing is written. -/
def empty : Node := .scalar .plain none ""

/-- What is known while tokens are read: the tokens to come, the values with anchors, and what the
    handles of tags stand for. -/
structure Context where
  tokens : List Token
  anchors : List (String × Node) := []
  handles : List (String × String) := []

abbrev Reader := StateT Context Option

/-- The next token, which is not taken. -/
def peek : Reader (Option Token) := fun c => some (c.tokens.head?, c)

/-- Takes the next token. -/
def drop : Reader Unit := fun c => some ((), { c with tokens := c.tokens.drop 1 })

/-- Takes the next token if it is the one given, and says whether it was. -/
def take (t : Token) : Reader Bool := do
  if (← peek) == some t then
    drop
    pure true
  else pure false

/-- Takes the next token, which has to be the one given. -/
def expect (t : Token) : Reader Unit := do
  if !(← take t) then failure

/-- Whether the next token is one of those given, or there is none. -/
def nextIn (ts : List Token) : Reader Bool := do
  match ← peek with
  | none => pure true
  | some t => pure (ts.contains t)

/-- The tag that a handle and a suffix stand for. -/
def resolveTag (handle suffix : String) (c : Context) : Option String :=
  match c.handles.lookup handle with
  | some start => some (start ++ suffix)
  | none =>
    if handle = "" then some suffix
    else if handle = "!" then some ("!" ++ suffix)
    else if handle = "!!" then some ("tag:yaml.org,2002:" ++ suffix)
    else none

/-- Anchor and tag in front of a value, in either order. -/
def readProperties : Nat → Option String → Option String → Reader (Option String × Option String)
  | 0, a, t => pure (a, t)
  | fuel + 1, a, t => do
    match ← peek, a, t with
    | some (.anchor name), none, t =>
      drop
      readProperties fuel (some name) t
    | some (.tag handle suffix), a, none =>
      drop
      let t ← fun c => (resolveTag handle suffix c).map (·, c)
      readProperties fuel a (some t)
    | _, a, t => pure (a, t)

variable (D : Dialect)

mutual

/-- A value. `block` says whether a block may stand here, and `loose` whether a list that is indented no
    further than the key in front of it may. -/
def read (fuel : Nat) (block loose : Bool) : Reader Node :=
  match fuel with
  | 0 => failure
  | fuel + 1 => do
    match ← peek with
    | some (.alias name) =>
      drop
      fun c => (c.anchors.lookup name).map (·, c)
    | _ => do
      let (anchor, tag) ← readProperties 2 none none
      let n ← readContent fuel block loose (anchor.isSome || tag.isSome) tag
      match anchor with
      | none => pure n
      | some name => fun c => some (n, { c with anchors := (name, n) :: c.anchors })

/-- What stands behind anchor and tag; nothing needs one of them. -/
def readContent (fuel : Nat) (block loose marked : Bool) (tag : Option String) : Reader Node :=
  match fuel with
  | 0 => failure
  | fuel + 1 => do
    match ← peek with
    | some (.scalar style text) =>
      drop
      pure (.scalar style tag text)
    | some .blockEntry => if loose then .list <$> readLooseList fuel else missing marked tag
    | some .flowListStart =>
      drop
      .list <$> readFlowList fuel true
    | some .flowMappingStart =>
      drop
      .mapping <$> readFlowMapping fuel true
    | some .blockListStart =>
      if block then
        drop
        .list <$> readBlockList fuel
      else missing marked tag
    | some .blockMappingStart =>
      if block then
        drop
        .mapping <$> readBlockMapping fuel
      else missing marked tag
    | _ => missing marked tag

/-- A value of which only anchor or tag are written. -/
def missing (marked : Bool) (tag : Option String) : Reader Node :=
  if marked then pure (.scalar .plain tag "") else failure

/-- A value, or nothing in front of one of some tokens. -/
def readOrEmpty (fuel : Nat) (ends : List Token) (block loose : Bool) : Reader Node :=
  match fuel with
  | 0 => failure
  | fuel + 1 => do
    if ← nextIn ends then pure empty else read fuel block loose

def readBlockList (fuel : Nat) : Reader (List Node) :=
  match fuel with
  | 0 => failure
  | fuel + 1 => do
    if ← take .blockEntry then
      let n ← readOrEmpty fuel [.blockEntry, .blockEnd] true false
      let ns ← readBlockList fuel
      pure (n :: ns)
    else
      expect .blockEnd
      pure []

def readLooseList (fuel : Nat) : Reader (List Node) :=
  match fuel with
  | 0 => failure
  | fuel + 1 => do
    if ← take .blockEntry then
      let n ← readOrEmpty fuel [.blockEntry, .key, .value, .blockEnd] true false
      let ns ← readLooseList fuel
      pure (n :: ns)
    else pure []

def readBlockMapping (fuel : Nat) : Reader (List (Node × Node)) :=
  match fuel with
  | 0 => failure
  | fuel + 1 => do
    let ends := [Token.key, .value, .blockEnd]
    if ← take .blockEnd then pure []
    else
      let key ←
        if ← take .key then readOrEmpty fuel ends true true
        else if D.valueWithoutKey && (← peek) == some .value then pure empty
        else failure
      let value ← if ← take .value then readOrEmpty fuel ends true true else pure empty
      let es ← readBlockMapping fuel
      pure ((key, value) :: es)

def readFlowList (fuel : Nat) (first : Bool) : Reader (List Node) :=
  match fuel with
  | 0 => failure
  | fuel + 1 => do
    if ← take .flowListEnd then pure []
    else
      if !first then expect .flowEntry
      if ← take .flowListEnd then pure []
      else
        let n ←
          if ← take .key then
            let key ← readOrEmpty fuel [.value, .flowEntry, .flowListEnd] false false
            let value ←
              if ← take .value then readOrEmpty fuel [.flowEntry, .flowListEnd] false false else pure empty
            pure (.mapping [(key, value)])
          else read fuel false false
        let ns ← readFlowList fuel false
        pure (n :: ns)

def readFlowMapping (fuel : Nat) (first : Bool) : Reader (List (Node × Node)) :=
  match fuel with
  | 0 => failure
  | fuel + 1 => do
    if ← take .flowMappingEnd then pure []
    else
      if !first then expect .flowEntry
      if ← take .flowMappingEnd then pure []
      else
        let e ←
          if ← take .key then
            let key ← readOrEmpty fuel [.value, .flowEntry, .flowMappingEnd] false false
            let value ←
              if ← take .value then readOrEmpty fuel [.flowEntry, .flowMappingEnd] false false else pure empty
            pure (key, value)
          else
            let key ← read fuel false false
            pure (key, empty)
        let es ← readFlowMapping fuel false
        pure (e :: es)

end

/-- Takes directives and says whether there were any. -/
def readDirectives : Nat → Bool → Reader Bool
  | 0, found => pure found
  | fuel + 1, found => do
    match ← peek with
    | some .directive =>
      drop
      readDirectives fuel true
    | some (.tagDirective handle start) =>
      drop
      fun c => some ((), { c with handles := (handle, start) :: c.handles })
      readDirectives fuel true
    | _ => pure found

/-- Takes marks of the end of a document. -/
def readEnds : Nat → Reader Unit
  | 0 => pure ()
  | fuel + 1 => do if ← take .documentEnd then readEnds fuel

/-- The only document of a row of tokens, or none if there are no tokens. -/
def readDocument (fuel : Nat) : Reader (Option Node) := do
  readEnds fuel
  if (← peek).isNone then pure none
  else do
    let directives ← readDirectives fuel false
    let n ←
      if ← take .documentStart then
        readOrEmpty D fuel [.directive, .documentStart, .documentEnd] true false
      else if directives then failure
      else read D fuel true false
    readEnds fuel
    if (← peek).isNone then pure (some n) else failure

end Node

/-- The value of a text with one document; a text without any has no value. -/
def parse? (D : Dialect) (text : String) : Option (Option Node) := do
  let ts ← tokens? D text
  let (n, _) ← Node.readDocument D (8 * ts.length + 8) { tokens := ts }
  pure n

end Yaml
end Telemetry

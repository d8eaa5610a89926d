import Telemetry.Metric
import Telemetry.Text.Split

/-! The text that scrapers read. It has a block for every counter name: a line with the help text, a
    line with the type, and a line for every sample. The blocks of the catalog come first and in its
    order, then those of other counters in the order in which their samples come. -/

namespace Telemetry

structure Block where
  counter : Counter
  samples : List Metric
  deriving DecidableEq

namespace Exposition

/-! ### Grouping -/

/-- Blocks in the order in which they are shown, and the place of each name's block among them. -/
structure Grouping where
  blocks : List Block := []
  slots : SortedMap Nat := SortedMap.empty
  deriving DecidableEq

namespace Grouping

/-- With an empty block at the end, the block of the counter's name from now on. -/
def append (g : Grouping) (c : Counter) : Grouping where
  blocks := g.blocks ++ [{ counter := c, samples := [] }]
  slots := g.slots.insert c.name g.blocks.length

/-- With a sample at the end of the block at a place. -/
def addSample (g : Grouping) (slot : Nat) (m : Metric) : Grouping :=
  { g with blocks := g.blocks.modify slot fun b => { b with samples := b.samples ++ [m] } }

/-- With a block for a counter, unless its name has one already. -/
def addCounter (g : Grouping) (c : Counter) : Grouping :=
  match g.slots.get? c.name with
  | some _ => g
  | none => g.append c

/-- With a sample in the block of its name, which is a new one if the name has none. -/
def addMetric (g : Grouping) (m : Metric) : Grouping :=
  match g.slots.get? m.counter.name with
  | some slot => g.addSample slot m
  | none => (g.append m.counter).addSample g.blocks.length m

end Grouping

/-- The blocks of a catalog, with a set of metrics put into them one after the other. -/
def group (catalog : List Counter) (metrics : MetricSet) : Grouping :=
  metrics.flatten.foldl Grouping.addMetric (catalog.foldl Grouping.addCounter {})

/-! ### Writing -/

/-- The text with `written` in place of a character. -/
def replaceChar (c : Char) (written : List Char) (cs : List Char) : List Char :=
  cs.flatMap fun x => if x = c then written else [x]

/-- A help text as it is written. Backslashes come first, so that those of newlines stay single. -/
def escapeHelp (cs : List Char) : List Char := replaceChar '\n' ['\\', 'n'] (replaceChar '\\' ['\\', '\\'] cs)

/-- How a character of the value of a label is written. -/
def escapeLabelChar : Char → List Char
  | '\\' => ['\\', '\\']
  | '"' => ['\\', '"']
  | '\n' => ['\\', 'n']
  | c => [c]

def helpMark : List Char := ['#', ' ', 'H', 'E', 'L', 'P', ' ']

def typeMark : List Char := ['#', ' ', 'T', 'Y', 'P', 'E', ' ']

def helpLine (c : Counter) : List Char := helpMark ++ c.name.toList ++ ' ' :: escapeHelp c.help.toList

def typeLine (c : Counter) : List Char := typeMark ++ c.name.toList ++ ' ' :: c.type.name.toList

def labelChars (label : String × String) : List Char :=
  label.1.toList ++ '=' :: '"' :: label.2.toList.flatMap escapeLabelChar ++ ['"']

def sampleLine (m : Metric) : List Char :=
  m.counter.name.toList ++ '\x7b' :: Text.join ',' (m.labels.map labelChars) ++ '\x7d' :: ' ' :: m.value.toList

def blockLines (b : Block) : List (List Char) :=
  helpLine b.counter :: typeLine b.counter :: b.samples.map sampleLine

def lines (catalog : List Counter) (metrics : MetricSet) : List (List Char) :=
  (group catalog metrics).blocks.flatMap blockLines

/-- The text of a catalog and a set of metrics. -/
def render (catalog : List Counter) (metrics : MetricSet) : String :=
  String.ofList (Text.unlines (lines catalog metrics))

end Exposition
end Telemetry

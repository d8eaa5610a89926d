/-! Dialects of YAML. Two documents of a program may be read by different rules; what differs between the
    readers is which characters they take, which of them end a line, and how they treat tabs. -/

namespace Telemetry
namespace Yaml

def isBlank (c : Char) : Bool := c == ' ' || c == '\t'

def isLineEnd (c : Char) : Bool := c == '\n' || c == '\r'

/-- The characters that end a scalar within brackets. -/
def isFlowIndicator (c : Char) : Bool := c == ',' || c == '[' || c == ']' || c == '\x7b' || c == '\x7d'

def isWordChar (c : Char) : Bool := c.isAlphanum || c == '-' || c == '_'

/-- What a reader of YAML decides for itself. -/
structure Dialect where
  /-- Whether a character may stand in a text. -/
  permits : Char → Bool
  /-- Whether a character ends a line. -/
  isBreak : Char → Bool
  /-- Whether a character may stand in the name of an anchor. -/
  isNameChar : Char → Bool
  /-- Whether the text ends at the first character with the number zero. -/
  endsAtZero : Bool
  /-- Whether tabs may stand in front of the content of a line that is not indented further. -/
  leadingTabs : Bool
  /-- Whether a colon may be followed by nothing but tabs in front of a word. -/
  tabAfterColon : Bool
  /-- Whether a value may stand without a key in a block of entries. -/
  valueWithoutKey : Bool
  /-- Whether a key within brackets has to be complete on its line. -/
  flowKeyOnLine : Bool
  /-- Whether anything may follow a quoted text on its line. -/
  looseAfterQuote : Bool

/-- Characters that are neither controls nor unassigned for good. -/
def isPrintable (c : Char) : Bool :=
  let n := c.toNat
  c == '\t' || c == '\n' || c == '\r' || (0x20 ≤ n && n ≤ 0x7e) || n == 0x85 || (0xa0 ≤ n && n ≤ 0xd7ff) ||
    (0xe000 ≤ n && n ≤ 0xfffd) || 0x10000 ≤ n

/-- The rules for descriptions of devices. -/
def strict : Dialect where
  permits := isPrintable
  isBreak c := isLineEnd c || c == '\x85' || c == '\u2028' || c == '\u2029'
  isNameChar := isWordChar
  endsAtZero := false
  leadingTabs := false
  tabAfterColon := true
  valueWithoutKey := false
  flowKeyOnLine := true
  looseAfterQuote := true

/-- The rules for files of settings. -/
def lenient : Dialect where
  permits _ := true
  isBreak := isLineEnd
  isNameChar c := !isBlank c && !isLineEnd c && !isFlowIndicator c
  endsAtZero := true
  leadingTabs := true
  tabAfterColon := false
  valueWithoutKey := true
  flowKeyOnLine := false
  looseAfterQuote := false

end Yaml
end Telemetry

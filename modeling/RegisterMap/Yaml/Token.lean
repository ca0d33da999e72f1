/-!
Tokens of YAML text with their positions, and the problems that stop reading. A problem names
the line of its context when there is one, else the line where it was found.
-/

namespace RegisterMap

namespace Yaml

structure Mark where
  index : Nat := 0
  line : Nat := 0
  column : Nat := 0
  deriving DecidableEq, Repr, Inhabited

inductive ScalarStyle where
  | plain
  | singleQuoted
  | doubleQuoted
  | literal
  | folded
  deriving DecidableEq, Repr, Inhabited

inductive TokenKind where
  | streamStart
  | streamEnd
  | versionDirective (major minor : Nat)
  | tagDirective (handle pfx : String)
  | documentStart
  | documentEnd
  | blockSequenceStart
  | blockMappingStart
  | blockEnd
  | flowSequenceStart
  | flowSequenceEnd
  | flowMappingStart
  | flowMappingEnd
  | blockEntry
  | flowEntry
  | key
  | value
  | alias (name : String)
  | anchor (name : String)
  | tag (handle suffix : String)
  | scalar (text : String) (style : ScalarStyle)
  deriving DecidableEq, Repr, Inhabited

structure Token where
  kind : TokenKind
  start : Mark
  stop : Mark
  deriving DecidableEq, Repr, Inhabited

/-- Where a problem was found: while reading characters, cutting tokens, or reading the
structure of the tokens. -/
inductive Stage where
  | reader
  | scanner
  | parser
  deriving DecidableEq, Repr

inductive Problem where
  | located (stage : Stage) (context problem : Mark) (text : String)
  | plain (text : String)
  deriving DecidableEq, Repr

/-- The line shown with a problem: that of its context if it is not the first line, else
that of the problem; lines of the tokenizer count from one, those of the parser from zero. -/
def Problem.line : Problem → Nat
  | .located stage ctx prob _ =>
    let bump := if stage = .scanner then 1 else 0
    if ctx.line ≠ 0 then ctx.line + bump
    else if prob.line ≠ 0 then prob.line + bump
    else 0
  | .plain _ => 0

def Problem.message (p : Problem) : String :=
  let text := match p with
    | .located _ _ _ t => t
    | .plain t => t
  if p.line = 0 then "yaml: " ++ text else "yaml: line " ++ Nat.repr p.line ++ ": " ++ text

def isBlank (c : Char) : Bool := c == ' ' || c == '\t'

def isBreak (c : Char) : Bool :=
  c == '\r' || c == '\n' || c.toNat == 0x85 || c.toNat == 0x2028 || c.toNat == 0x2029

def isEnd (c : Char) : Bool := c.toNat == 0

def isBreakOrEnd (c : Char) : Bool := isBreak c || isEnd c

def isBlankOrEnd (c : Char) : Bool := isBlank c || isBreak c || isEnd c

def isWordChar (c : Char) : Bool :=
  ('0' ≤ c && c ≤ '9') || ('A' ≤ c && c ≤ 'Z') || ('a' ≤ c && c ≤ 'z') || c == '_' || c == '-'

def isDigit (c : Char) : Bool := '0' ≤ c && c ≤ '9'

def isHex (c : Char) : Bool := isDigit c || ('a' ≤ c && c ≤ 'f') || ('A' ≤ c && c ≤ 'F')

def hexValue (c : Char) : Nat :=
  if isDigit c then c.toNat - 48 else if 'a' ≤ c && c ≤ 'f' then c.toNat - 87 else c.toNat - 55

def isAllowed (c : Char) : Bool :=
  let n := c.toNat
  n == 0x09 || n == 0x0A || n == 0x0D || (0x20 ≤ n && n ≤ 0x7E) || n == 0x85 ||
    (0xA0 ≤ n && n ≤ 0xD7FF) || (0xE000 ≤ n && n ≤ 0xFFFD) || (0x10000 ≤ n && n ≤ 0x10FFFF)

end Yaml

end RegisterMap

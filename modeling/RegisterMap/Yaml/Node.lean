import RegisterMap.Yaml.Event

/-!
The nodes of the first document of a YAML text, each with its line and its tag in short form.
An anchor names its node from the moment the node starts, so a collection may refer to itself;
an alias refers to the latest node of its name before it.
-/

namespace RegisterMap

namespace Yaml

inductive Node where
  | scalar (line : Nat) (tag value : String)
  | sequence (line : Nat) (tag : String) (items : List Node)
  | mapping (line : Nat) (tag : String) (entries : List (Node × Node))
  | alias (line : Nat) (name : String) (target occurrence : Nat)
  deriving Repr, Inhabited

namespace Node

def line : Node → Nat
  | .scalar l .. => l
  | .sequence l .. => l
  | .mapping l .. => l
  | .alias l .. => l

/-- The text of a node: the value of a scalar, the name of an alias, nothing for a
collection. -/
def text : Node → String
  | .scalar _ _ v => v
  | .alias _ name _ _ => name
  | _ => ""

def kindIndex : Node → Nat
  | .scalar .. => 0
  | .sequence .. => 1
  | .mapping .. => 2
  | .alias .. => 3

def tag : Node → String
  | .scalar _ t _ => t
  | .sequence _ t _ => t
  | .mapping _ t _ => t
  | .alias .. => ""

def isMerge : Node → Bool
  | .scalar _ t v => v == "<<" && (t == "" || t == "!" || t == mergeTag)
  | _ => false

end Node

structure Document where
  root : Node
  anchored : Array Node
  deriving Repr

def Document.tagOf (d : Document) : Node → String
  | .alias _ _ target _ => (d.anchored[target]?.map Node.tag).getD ""
  | n => n.tag

/-- The state of the composer: the event reader with one event looked at and not yet taken,
the anchored nodes so far, and the latest node of each anchor name. -/
structure Composer where
  parser : Parser
  pending : Option Event := none
  anchored : Array Node := #[]
  names : List (String × Nat) := []
  aliases : Nat := 0

abbrev Compose := StateT Composer (Except Problem)

namespace Compose

def peek : Compose Event := do
  let c ← get
  match c.pending with
  | some e => return e
  | none =>
    match Parse.next.run c.parser with
    | .error p => throw p
    | .ok (some e, parser) =>
      set { c with parser, pending := some e }
      return e
    | .ok (none, parser) =>
      let m := parser.lexer.mark
      let e : Event := { kind := .streamEnd, start := m, stop := m }
      set { c with parser, pending := some e }
      return e

def take : Compose Unit := modify fun c => { c with pending := none }

def reserve (anchor : Option String) : Compose (Option Nat) := do
  match anchor with
  | none => return none
  | some name =>
    let c ← get
    let i := c.anchored.size
    set { c with anchored := c.anchored.push default, names := (name, i) :: c.names }
    return some i

def fill (slot : Option Nat) (n : Node) : Compose Unit :=
  match slot with
  | none => pure ()
  | some i => modify fun c => { c with anchored := c.anchored.set! i n }

def tagOr (written fallback : String) : String :=
  if written != "" && written != "!" then shortTag written else fallback

def scalarTag (value : String) (style : ScalarStyle) : String :=
  if style != .plain then strTag
  else if value == "<<" then mergeTag
  else (resolvePlain "" value).1

def exhausted : Problem := .plain "document nesting is too deep"

mutual

def node : Nat → Compose Node
  | 0 => throw exhausted
  | fuel + 1 => do
    let e ← peek
    let line := e.start.line + 1
    match e.kind with
    | .scalar anchor tag value style =>
      let n := Node.scalar line (tagOr tag (scalarTag value style)) value
      let slot ← reserve anchor
      fill slot n
      take
      return n
    | .alias name =>
      match (← get).names.lookup name with
      | none => throw (.plain ("unknown anchor '" ++ name ++ "' referenced"))
      | some i =>
        let c ← get
        set { c with aliases := c.aliases + 1 }
        take
        return .alias line name i c.aliases
    | .sequenceStart anchor tag _ =>
      let slot ← reserve anchor
      take
      let items ← sequenceItems fuel
      take
      let n := Node.sequence line (tagOr tag seqTag) items
      fill slot n
      return n
    | .mappingStart anchor tag _ =>
      let slot ← reserve anchor
      take
      let entries ← mappingEntries fuel
      take
      let n := Node.mapping line (tagOr tag mapTag) entries
      fill slot n
      return n
    | _ => throw (.plain "attempted to parse unknown event")

def sequenceItems : Nat → Compose (List Node)
  | 0 => throw exhausted
  | fuel + 1 => do
    let e ← peek
    if e.kind == .sequenceEnd then return []
    let n ← node fuel
    return n :: (← sequenceItems fuel)

def mappingEntries : Nat → Compose (List (Node × Node))
  | 0 => throw exhausted
  | fuel + 1 => do
    let e ← peek
    if e.kind == .mappingEnd then return []
    let k ← node fuel
    let v ← node fuel
    return (k, v) :: (← mappingEntries fuel)

end

def document (fuel : Nat) : Compose (Option Document) := do
  let _ ← peek
  take
  let e ← peek
  match e.kind with
  | .documentStart _ =>
    take
    let root ← node fuel
    let _ ← peek
    take
    return some { root, anchored := (← get).anchored }
  | _ => return none

end Compose

def Document.read (text : String) : Except Problem (Option Document) := do
  let parser := Parser.start text
  let fuel := 4 * text.length + 64
  let (d, _) ← (Compose.document fuel).run { parser }
  return d

end Yaml

end RegisterMap

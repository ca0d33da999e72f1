import RegisterMap.Yaml.Token.Lexer
import RegisterMap.Yaml.Scalar

/-!
The structure of YAML tokens as a stream of events. The reader is a machine whose phase says
what may come next, with stacks of phases and of marks for the nodes it is inside; a missing
node is an empty plain scalar at the place it would have stood.
-/

namespace RegisterMap

namespace Yaml

/-- What an event says. An anchor is a name that later aliases can refer to; a tag is the
resolved tag text, empty when none is written. -/
inductive EventKind where
  | streamStart
  | streamEnd
  | documentStart (isImplicit : Bool)
  | documentEnd (isImplicit : Bool)
  | alias (name : String)
  | scalar (anchor : Option String) (tag value : String) (style : ScalarStyle)
  | sequenceStart (anchor : Option String) (tag : String) (flow : Bool)
  | sequenceEnd
  | mappingStart (anchor : Option String) (tag : String) (flow : Bool)
  | mappingEnd
  deriving DecidableEq, Repr, Inhabited

structure Event where
  kind : EventKind
  start : Mark
  stop : Mark
  deriving DecidableEq, Repr, Inhabited

inductive Phase where
  | streamStart
  | implicitDocumentStart
  | documentStart
  | documentContent
  | documentEnd
  | blockNode
  | blockNodeOrIndentlessSequence
  | flowNode
  | blockSequenceFirstEntry
  | blockSequenceEntry
  | indentlessSequenceEntry
  | blockMappingFirstKey
  | blockMappingKey
  | blockMappingValue
  | flowSequenceFirstEntry
  | flowSequenceEntry
  | flowSequenceEntryMappingKey
  | flowSequenceEntryMappingValue
  | flowSequenceEntryMappingEnd
  | flowMappingFirstKey
  | flowMappingKey
  | flowMappingValue
  | flowMappingEmptyValue
  | finished
  deriving DecidableEq, Repr, Inhabited

structure Parser where
  lexer : Lexer
  phase : Phase := .streamStart
  phases : List Phase := []
  marks : List Mark := []
  tagDirectives : List (String × String) := []
  ended : Bool := false
  deriving Repr

abbrev Parse := StateT Parser (Except Problem)

def defaultTagDirectives : List (String × String) := [("!", "!"), ("!!", typePrefix)]

namespace Parse

def lex {α : Type} (x : Lex α) : Parse α := fun p => do
  let (a, l) ← x.run p.lexer
  pure (a, { p with lexer := l })

def token : Parse Token := lex Lex.front

def skip : Parse Unit := do
  let t ← token
  lex Lex.advance
  if t.kind == .streamEnd then modify fun p => { p with ended := true }

def budget : Parse Nat := do
  let l := (← get).lexer
  return l.input.size - l.mark.index + l.queue.size + 4

def fail {α : Type} (problem : Mark) (text : String) : Parse α :=
  throw (.located .parser {} problem text)

def failIn {α : Type} (context problem : Mark) (text : String) : Parse α :=
  throw (.located .parser context problem text)

def goto (s : Phase) : Parse Unit := modify fun p => { p with phase := s }

def pushPhase (s : Phase) : Parse Unit := modify fun p => { p with phases := s :: p.phases }

def popPhase : Parse Unit := modify fun p =>
  match p.phases with
  | s :: rest => { p with phase := s, phases := rest }
  | [] => { p with phase := .finished }

def pushMark (m : Mark) : Parse Unit := modify fun p => { p with marks := m :: p.marks }

def popMark : Parse Mark := do
  let p ← get
  match p.marks with
  | m :: rest =>
    set { p with marks := rest }
    return m
  | [] => return {}

def empty (m : Mark) : Event := { kind := .scalar none "" "" .plain, start := m, stop := m }

def directives (seenVersion : Bool) : Nat → Parse Unit
  | 0 => pure ()
  | n + 1 => do
    let t ← token
    match t.kind with
    | .versionDirective major minor =>
      if seenVersion then fail t.start "found duplicate %YAML directive"
      if major != 1 || minor != 1 then fail t.start "found incompatible YAML document"
      skip
      directives true n
    | .tagDirective handle pfx =>
      if (← get).tagDirectives.any (·.1 == handle) then fail t.start "found duplicate %TAG directive"
      modify fun p => { p with tagDirectives := p.tagDirectives ++ [(handle, pfx)] }
      skip
      directives seenVersion n
    | _ =>
      let add := fun (ds : List (String × String)) (d : String × String) =>
        if ds.any (·.1 == d.1) then ds else ds ++ [d]
      modify fun p => { p with tagDirectives := defaultTagDirectives.foldl add p.tagDirectives }

def skipDocumentEnds : Nat → Parse Token
  | 0 => token
  | n + 1 => do
    let t ← token
    if t.kind == .documentEnd then
      skip
      skipDocumentEnds n
    else return t

def isDirective (t : Token) : Bool :=
  match t.kind with
  | .versionDirective _ _ => true
  | .tagDirective _ _ => true
  | _ => false

def streamStart : Parse Event := do
  let t ← token
  if t.kind != .streamStart then fail t.start "did not find expected <stream-start>"
  goto .implicitDocumentStart
  skip
  return { kind := .streamStart, start := t.start, stop := t.stop }

/-- The start of a document, or the end of the stream. The first document may begin without
`---`; a later one must begin with it. -/
def documentStart (isImplicit : Bool) : Parse Event := do
  let t ← if isImplicit then token else skipDocumentEnds (← budget)
  if isImplicit && !isDirective t && t.kind != .documentStart && t.kind != .streamEnd then
    directives false (← budget)
    pushPhase .documentEnd
    goto .blockNode
    return { kind := .documentStart true, start := t.start, stop := t.start }
  else if t.kind != .streamEnd then
    let start := t.start
    directives false (← budget)
    let t ← token
    if t.kind != .documentStart then fail t.start "did not find expected <document start>"
    pushPhase .documentEnd
    goto .documentContent
    skip
    return { kind := .documentStart false, start, stop := t.stop }
  else
    goto .finished
    skip
    return { kind := .streamEnd, start := t.start, stop := t.stop }

def documentEnd : Parse Event := do
  let t ← token
  let explicit := t.kind == .documentEnd
  if explicit then skip
  modify fun p => { p with tagDirectives := [], phase := .documentStart }
  return { kind := .documentEnd (!explicit), start := t.start,
           stop := if explicit then t.stop else t.start }

/-- A node: an alias, or a scalar or collection with an optional anchor and tag. Where a
block node may stand, a block collection may start; where `indentless` allows it, a sequence
may start with `-` at the indentation of the enclosing mapping. -/
def node (block indentless : Bool) : Parse Event := do
  let first ← token
  match first.kind with
  | .alias name =>
    popPhase
    skip
    return { kind := .alias name, start := first.start, stop := first.stop }
  | _ => pure ()
  let mut t := first
  let mut stop := first.start
  let mut anchor : Option String := none
  let mut written : Option (String × String) := none
  let mut tagMark := first.start
  match first.kind with
  | .anchor name =>
    anchor := some name
    stop := first.stop
    skip
    t ← token
    match t.kind with
    | .tag handle suffix =>
      written := some (handle, suffix)
      tagMark := t.start
      stop := t.stop
      skip
      t ← token
    | _ => pure ()
  | .tag handle suffix =>
    written := some (handle, suffix)
    stop := first.stop
    skip
    t ← token
    match t.kind with
    | .anchor name =>
      anchor := some name
      stop := t.stop
      skip
      t ← token
    | _ => pure ()
  | _ => pure ()
  let start := first.start
  let tag ← match written with
    | none => pure ""
    | some (handle, suffix) =>
      if handle.isEmpty then pure suffix
      else match (← get).tagDirectives.lookup handle with
        | some pfx =>
          if (pfx ++ suffix).isEmpty then failIn start tagMark "found undefined tag handle"
          else pure (pfx ++ suffix)
        | none => failIn start tagMark "found undefined tag handle"
  if indentless && t.kind == .blockEntry then
    goto .indentlessSequenceEntry
    return { kind := .sequenceStart anchor tag false, start, stop := t.stop }
  match t.kind with
  | .scalar text style =>
    popPhase
    skip
    return { kind := .scalar anchor tag text style, start, stop := t.stop }
  | .flowSequenceStart =>
    goto .flowSequenceFirstEntry
    return { kind := .sequenceStart anchor tag true, start, stop := t.stop }
  | .flowMappingStart =>
    goto .flowMappingFirstKey
    return { kind := .mappingStart anchor tag true, start, stop := t.stop }
  | .blockSequenceStart =>
    if block then
      goto .blockSequenceFirstEntry
      return { kind := .sequenceStart anchor tag false, start, stop := t.stop }
  | .blockMappingStart =>
    if block then
      goto .blockMappingFirstKey
      return { kind := .mappingStart anchor tag false, start, stop := t.stop }
  | _ => pure ()
  if anchor.isSome || !tag.isEmpty then
    popPhase
    return { kind := .scalar anchor tag "" .plain, start, stop }
  failIn start t.start "did not find expected node content"

def documentContent : Parse Event := do
  let t ← token
  if isDirective t || t.kind == .documentStart || t.kind == .documentEnd || t.kind == .streamEnd then
    popPhase
    return empty t.start
  else node true false

def blockSequenceEntry (first : Bool) : Parse Event := do
  if first then
    pushMark (← token).start
    skip
  let t ← token
  match t.kind with
  | .blockEntry =>
    skip
    let n ← token
    if n.kind != .blockEntry && n.kind != .blockEnd then
      pushPhase .blockSequenceEntry
      node true false
    else
      goto .blockSequenceEntry
      return empty t.stop
  | .blockEnd =>
    popPhase
    let _ ← popMark
    skip
    return { kind := .sequenceEnd, start := t.start, stop := t.stop }
  | _ =>
    let context ← popMark
    failIn context t.start "did not find expected '-' indicator"

def indentlessSequenceEntry : Parse Event := do
  let t ← token
  if t.kind == .blockEntry then
    skip
    let n ← token
    if n.kind != .blockEntry && n.kind != .key && n.kind != .value && n.kind != .blockEnd then
      pushPhase .indentlessSequenceEntry
      node true false
    else
      goto .indentlessSequenceEntry
      return empty t.stop
  else
    popPhase
    return { kind := .sequenceEnd, start := t.start, stop := t.start }

def blockMappingKey (first : Bool) : Parse Event := do
  if first then
    pushMark (← token).start
    skip
  let t ← token
  match t.kind with
  | .key =>
    skip
    let n ← token
    if n.kind != .key && n.kind != .value && n.kind != .blockEnd then
      pushPhase .blockMappingValue
      node true true
    else
      goto .blockMappingValue
      return empty t.stop
  | .blockEnd =>
    popPhase
    let _ ← popMark
    skip
    return { kind := .mappingEnd, start := t.start, stop := t.stop }
  | _ =>
    let context ← popMark
    failIn context t.start "did not find expected key"

def blockMappingValue : Parse Event := do
  let t ← token
  if t.kind == .value then
    skip
    let n ← token
    if n.kind != .key && n.kind != .value && n.kind != .blockEnd then
      pushPhase .blockMappingKey
      node true true
    else
      goto .blockMappingKey
      return empty t.stop
  else
    goto .blockMappingKey
    return empty t.start

/-- An entry of a flow sequence, or its end. An entry that is a key starts a mapping of one
pair. -/
def flowSequenceEntry (first : Bool) : Parse Event := do
  if first then
    pushMark (← token).start
    skip
  let mut t ← token
  if t.kind != .flowSequenceEnd then
    if !first then
      if t.kind == .flowEntry then
        skip
        t ← token
      else
        let context ← popMark
        failIn context t.start "did not find expected ',' or ']'"
    if t.kind == .key then
      goto .flowSequenceEntryMappingKey
      skip
      return { kind := .mappingStart none "" true, start := t.start, stop := t.stop }
    else if t.kind != .flowSequenceEnd then
      pushPhase .flowSequenceEntry
      return ← node false false
  popPhase
  let _ ← popMark
  skip
  return { kind := .sequenceEnd, start := t.start, stop := t.stop }

def flowSequenceEntryMappingKey : Parse Event := do
  let t ← token
  if t.kind != .value && t.kind != .flowEntry && t.kind != .flowSequenceEnd then
    pushPhase .flowSequenceEntryMappingValue
    node false false
  else
    skip
    goto .flowSequenceEntryMappingValue
    return empty t.stop

def flowSequenceEntryMappingValue : Parse Event := do
  let t ← token
  if t.kind == .value then
    skip
    let n ← token
    if n.kind != .flowEntry && n.kind != .flowSequenceEnd then
      pushPhase .flowSequenceEntryMappingEnd
      return ← node false false
  goto .flowSequenceEntryMappingEnd
  return empty t.start

def flowSequenceEntryMappingEnd : Parse Event := do
  let t ← token
  goto .flowSequenceEntry
  return { kind := .mappingEnd, start := t.start, stop := t.start }

def flowMappingKey (first : Bool) : Parse Event := do
  if first then
    pushMark (← token).start
    skip
  let mut t ← token
  if t.kind != .flowMappingEnd then
    if !first then
      if t.kind == .flowEntry then
        skip
        t ← token
      else
        let context ← popMark
        failIn context t.start "did not find expected ',' or '\x7d'"
    if t.kind == .key then
      skip
      let n ← token
      if n.kind != .value && n.kind != .flowEntry && n.kind != .flowMappingEnd then
        pushPhase .flowMappingValue
        return ← node false false
      else
        goto .flowMappingValue
        return empty n.start
    else if t.kind != .flowMappingEnd then
      pushPhase .flowMappingEmptyValue
      return ← node false false
  popPhase
  let _ ← popMark
  skip
  return { kind := .mappingEnd, start := t.start, stop := t.stop }

def flowMappingValue (isEmpty : Bool) : Parse Event := do
  let t ← token
  if isEmpty then
    goto .flowMappingKey
    return empty t.start
  let mut t := t
  if t.kind == .value then
    skip
    t ← token
    if t.kind != .flowEntry && t.kind != .flowMappingEnd then
      pushPhase .flowMappingKey
      return ← node false false
  goto .flowMappingKey
  return empty t.start

def next : Parse (Option Event) := do
  let p ← get
  if p.ended then return none
  match p.phase with
  | .streamStart => some <$> streamStart
  | .implicitDocumentStart => some <$> documentStart true
  | .documentStart => some <$> documentStart false
  | .documentContent => some <$> documentContent
  | .documentEnd => some <$> documentEnd
  | .blockNode => some <$> node true false
  | .blockNodeOrIndentlessSequence => some <$> node true true
  | .flowNode => some <$> node false false
  | .blockSequenceFirstEntry => some <$> blockSequenceEntry true
  | .blockSequenceEntry => some <$> blockSequenceEntry false
  | .indentlessSequenceEntry => some <$> indentlessSequenceEntry
  | .blockMappingFirstKey => some <$> blockMappingKey true
  | .blockMappingKey => some <$> blockMappingKey false
  | .blockMappingValue => some <$> blockMappingValue
  | .flowSequenceFirstEntry => some <$> flowSequenceEntry true
  | .flowSequenceEntry => some <$> flowSequenceEntry false
  | .flowSequenceEntryMappingKey => some <$> flowSequenceEntryMappingKey
  | .flowSequenceEntryMappingValue => some <$> flowSequenceEntryMappingValue
  | .flowSequenceEntryMappingEnd => some <$> flowSequenceEntryMappingEnd
  | .flowMappingFirstKey => some <$> flowMappingKey true
  | .flowMappingKey => some <$> flowMappingKey false
  | .flowMappingValue => some <$> flowMappingValue false
  | .flowMappingEmptyValue => some <$> flowMappingValue true
  | .finished => return none

end Parse

def Parser.start (text : String) : Parser := { lexer := Lexer.start text }

end Yaml

end RegisterMap

import RegisterMap.Yaml.Token

/-!
Cutting YAML text into tokens on demand, through a queue that the reader takes from.
Indentation opens and closes block collections; a simple key is known only at its `:`, so its
key token is put into the queue afterwards, at the place recorded when the key began. Every
loop reads a character per round and is bounded by fuel counting the characters left.
-/

namespace RegisterMap

namespace Yaml

structure SimpleKey where
  possible : Bool := false
  required : Bool := false
  tokenNumber : Nat := 0
  mark : Mark := {}
  deriving Repr, Inhabited

structure Lexer where
  input : Array Char
  ends : Array Nat := #[]
  size : Nat := 0
  skipped : Nat := 0
  sawEnd : Bool := false
  bytesRead : Nat := 0
  decoded : Nat := 0
  endMarks : Nat := 0
  head : Char := Char.ofNat 0
  mark : Mark := {}
  newlines : Nat := 0
  queue : Array Token := #[]
  tokensTaken : Nat := 0
  available : Bool := false
  started : Bool := false
  flowLevel : Nat := 0
  indent : Int := -1
  indents : List Int := []
  keyAllowed : Bool := false
  keys : Array SimpleKey := #[]
  keyOfToken : List (Nat × Nat) := []
  deriving Repr

abbrev Lex := StateT Lexer (Except Problem)

namespace Lex

def peek (k : Nat := 0) : Lex Char := do
  let l ← get
  return l.input.getD (l.mark.index + k) (Char.ofNat 0)

def here : Lex Mark := do return (← get).mark

def budget : Lex Nat := do
  let l ← get
  return l.input.size - l.mark.index + 2

def chunk : Nat := 512

/-- The number of characters, from the `k`-th on, whose bytes all lie within the first
`bytes` bytes. -/
def decodedUpTo (ends : Array Nat) (bytes : Nat) : Nat → Nat → Nat
  | 0, k => k
  | fuel + 1, k =>
    if k < ends.size && ends.getD k 0 ≤ bytes then decodedUpTo ends bytes fuel (k + 1) else k

/-- Fills the reading buffer until `n` characters wait in it. A round reads a chunk of bytes
when all bytes read are decoded or it is not the `first` round, then decodes every character
whose bytes are all read; after the end of the text it puts an end marker instead. A
character that YAML text may not hold stops reading when it is decoded. -/
def refill (n : Nat) : Nat → Bool → Lex Unit
  | 0, _ => pure ()
  | fuel + 1, first => do
    let l ← get
    let done := if l.decoded = 0 then l.skipped else l.ends.getD (l.decoded - 1) 0
    let l := if !first || done == l.bytesRead then
        if l.bytesRead < l.size then
          { l with bytesRead := l.bytesRead + min (chunk - (l.bytesRead - done)) (l.size - l.bytesRead) }
        else { l with sawEnd := true }
      else l
    let d := decodedUpTo l.ends l.bytesRead (l.input.size + 1) l.decoded
    if !((l.input.extract l.decoded d).all isAllowed) then
      throw (.located .reader {} {} "control characters are not allowed")
    let l := { l with decoded := d }
    if l.sawEnd then
      set { l with endMarks := l.endMarks + 1 }
    else
      set l
      if l.mark.index + n > l.decoded + l.endMarks then refill n fuel false

/-- Makes sure that `n` characters wait in the reading buffer. When fewer do, the waiting
ones move to its front, so the current character becomes its first one, and it is filled. -/
def ensure (n : Nat) : Lex Unit := do
  let l ← get
  if l.mark.index + n > l.decoded + l.endMarks then
    set { l with head := l.input.getD l.mark.index (Char.ofNat 0) }
    refill n (l.size / 256 + 8) true

def skip : Lex Unit := do
  let c ← peek
  modify fun l => { l with
    mark := { l.mark with index := l.mark.index + 1, column := l.mark.column + 1 },
    newlines := if isBlank c then l.newlines else 0 }

def skipLine : Lex Unit := do
  let c ← peek
  let d ← peek 1
  if c == '\r' && d == '\n' then
    modify fun l => { l with mark := { index := l.mark.index + 2, line := l.mark.line + 1, column := 0 },
                             newlines := l.newlines + 1 }
  else if isBreak c then
    modify fun l => { l with mark := { index := l.mark.index + 1, line := l.mark.line + 1, column := 0 },
                             newlines := l.newlines + 1 }

def read (buf : String) : Lex String := do
  let c ← peek
  skip
  return buf.push c

/-- Reads a line break into `buf`: a line feed for the ASCII breaks and next line, the
separator itself for a line or paragraph separator. -/
def readLine (buf : String) : Lex String := do
  let c ← peek
  if c == '\r' || c == '\n' || c.toNat == 0x85 then
    skipLine
    return buf.push '\n'
  else if c.toNat == 0x2028 || c.toNat == 0x2029 then
    skipLine
    return buf.push c
  else return buf

def fail {α : Type} (context : Mark) (text : String) : Lex α := do
  throw (.located .scanner context (← here) text)

def push (t : Token) : Lex Unit := modify fun l => { l with queue := l.queue.push t }

def insertAt (i : Nat) (t : Token) : Lex Unit := modify fun l =>
  let q := l.queue.toList
  { l with queue := (q.take i ++ t :: q.drop i).toArray }

def single (kind : TokenKind) : Lex Unit := do
  let s ← here
  skip
  push { kind, start := s, stop := ← here }

/-- Forgets the possible simple key of the current flow level; a required one is missing
its `:`. -/
def removeKey : Lex Unit := do
  let l ← get
  let i := l.keys.size - 1
  match l.keys[i]? with
  | some k =>
    if k.possible then
      if k.required then fail k.mark "could not find expected ':'"
      set { l with keys := l.keys.modify i (fun k => { k with possible := false }),
                   keyOfToken := l.keyOfToken.filter (·.1 != k.tokenNumber) }
  | none => pure ()

def saveKey : Lex Unit := do
  let l ← get
  if l.keyAllowed then
    let k : SimpleKey :=
      { possible := true, required := l.flowLevel == 0 && l.indent == (l.mark.column : Int),
        tokenNumber := l.tokensTaken + l.queue.size, mark := l.mark }
    removeKey
    modify fun l =>
      let i := l.keys.size - 1
      { l with keys := l.keys.modify i (fun _ => k),
               keyOfToken := (k.tokenNumber, i) :: l.keyOfToken.filter (·.1 != k.tokenNumber) }

/-- Whether the simple key at place `i` can still be a key: it is on the current line and at
most 1024 characters back. A key that can no longer be one is dropped, or is a problem if it
is required. -/
def keyValid (i : Nat) : Lex Bool := do
  let l ← get
  match l.keys[i]? with
  | none => return false
  | some k =>
    if !k.possible then return false
    if k.mark.line < l.mark.line || k.mark.index + 1024 < l.mark.index then
      if k.required then fail k.mark "could not find expected ':'"
      modify fun l => { l with keys := l.keys.modify i fun k => { k with possible := false } }
      return false
    return true

def increaseFlow : Lex Unit := do
  modify fun l => { l with keys := l.keys.push { mark := l.mark }, flowLevel := l.flowLevel + 1 }
  let l ← get
  if 10000 < l.flowLevel then fail l.mark "exceeded max depth of 10000"

def decreaseFlow : Lex Unit := do
  let l ← get
  if 0 < l.flowLevel then
    let dropped := match l.keys.back? with
      | some k => l.keyOfToken.filter (·.1 != k.tokenNumber)
      | none => l.keyOfToken
    set { l with flowLevel := l.flowLevel - 1, keys := l.keys.pop, keyOfToken := dropped }

/-- Opens a block at `column` if it is deeper than the current indentation, with a token of
`kind` at the end of the queue or before the token numbered `number`. -/
def rollIndent (column : Nat) (number : Option Nat) (kind : TokenKind) (m : Mark) : Lex Unit := do
  let l ← get
  if l.flowLevel == 0 && l.indent < (column : Int) then
    set { l with indents := l.indent :: l.indents, indent := column }
    if 10000 < l.indents.length + 1 then
      fail ((l.keys.back?.map (·.mark)).getD {}) "exceeded max depth of 10000"
    let t : Token := { kind, start := m, stop := m }
    match number with
    | some n => insertAt (n - l.tokensTaken) t
    | none => push t

def unrollLoop (column : Int) (m : Mark) : Nat → Lex Unit
  | 0 => pure ()
  | n + 1 => do
    let l ← get
    if column < l.indent then
      push { kind := .blockEnd, start := m, stop := m }
      match l.indents with
      | i :: rest => modify fun l => { l with indent := i, indents := rest }
      | [] => modify fun l => { l with indent := -1 }
      unrollLoop column m n

def unrollIndent (column : Int) (m : Mark) : Lex Unit := do
  let l ← get
  if l.flowLevel == 0 then unrollLoop column m (l.indents.length + 1)

def eatSpaces : Nat → Lex Unit
  | 0 => pure ()
  | n + 1 => do
    let l ← get
    let c ← peek
    if c == ' ' || ((0 < l.flowLevel || !l.keyAllowed) && c == '\t') then
      skip
      ensure 1
      eatSpaces n

def eatToBreak : Nat → Lex Unit
  | 0 => pure ()
  | n + 1 => do
    if !isBreakOrEnd (← peek) then
      skip
      ensure 1
      eatToBreak n

def toNextToken : Nat → Lex Unit
  | 0 => pure ()
  | n + 1 => do
    ensure 1
    if (← here).column == 0 && (← get).head.toNat == 0xFEFF then skip
    ensure 1
    eatSpaces (← budget)
    if (← peek) == '#' then eatToBreak (← budget)
    if isBreak (← peek) then
      ensure 2
      skipLine
      if (← get).flowLevel == 0 then modify fun l => { l with keyAllowed := true }
      toNextToken n

def blanksAhead (k : Nat) : Nat → Lex Nat
  | 0 => return k
  | n + 1 => do if isBlank (← peek k) then blanksAhead (k + 1) n else return k

def skipN : Nat → Lex Unit
  | 0 => pure ()
  | n + 1 => do skip; skipN n

def trailingComment : Lex Unit := do
  if (← get).newlines == 0 then
    let k ← blanksAhead 0 512
    if (← peek k) == '#' then
      skipN k
      eatToBreak (← budget)

def readWhile (p : Char → Bool) (buf : String) : Nat → Lex String
  | 0 => return buf
  | n + 1 => do
    if p (← peek) then
      let buf ← read buf
      ensure 1
      readWhile p buf n
    else return buf

def eatBlanks : Nat → Lex Unit
  | 0 => pure ()
  | n + 1 => do
    if isBlank (← peek) then
      skip
      eatBlanks n

/-! ### Anchors, tags and directives -/

def scanAnchor (isAlias : Bool) : Lex Token := do
  let s ← here
  skip
  let name ← readWhile isWordChar "" (← budget)
  let e ← here
  let c ← peek
  if name.isEmpty || !(isBlankOrEnd c || c == '?' || c == ':' || c == ',' || c == ']' || c == '}' ||
      c == '%' || c == '@' || c == '`') then
    fail s "did not find expected alphabetic or numeric character"
  return { kind := if isAlias then .alias name else .anchor name, start := s, stop := e }

def scanTagHandle (directive : Bool) (s : Mark) : Lex String := do
  if (← peek) != '!' then fail s "did not find expected '!'"
  let h ← read ""
  let h ← readWhile isWordChar h (← budget)
  if (← peek) == '!' then read h
  else
    if directive && h != "!" then fail s "did not find expected '!'"
    return h

def isUriChar (verbatim : Bool) (c : Char) : Bool :=
  isWordChar c || ";/?:@&=+$.%!~*'()".toList.contains c || (verbatim && (c == ',' || c == '[' || c == ']'))

def utf8Width (b : Nat) : Nat :=
  if b < 0x80 then 1 else if b / 32 == 6 then 2 else if b / 16 == 14 then 3
  else if b / 8 == 30 then 4 else 0

def uriEscapes (s : Mark) (acc : List UInt8) (left : Option Nat) : Nat → Lex (List UInt8)
  | 0 => return acc
  | n + 1 => do
    if left == some 0 then return acc
    let c ← peek
    let d ← peek 1
    let e ← peek 2
    if !(c == '%' && isHex d && isHex e) then fail s "did not find URI escaped octet"
    let octet := hexValue d * 16 + hexValue e
    let left ← match left with
      | none =>
        let w := utf8Width octet
        if w == 0 then fail s "found an incorrect leading UTF-8 octet"
        pure w
      | some w =>
        if octet / 64 != 2 then fail s "found an incorrect trailing UTF-8 octet"
        pure w
    skip; skip; skip
    uriEscapes s (acc ++ [octet.toUInt8]) (some (left - 1)) n

def tagUriLoop (verbatim : Bool) (s : Mark) (buf : String) (found : Bool) : Nat → Lex (String × Bool)
  | 0 => return (buf, found)
  | n + 1 => do
    let c ← peek
    if isUriChar verbatim c then
      if c == '%' then
        let bytes ← uriEscapes s [] none 5
        tagUriLoop verbatim s (buf ++ ((String.fromUTF8? ⟨bytes.toArray⟩).getD "")) true n
      else
        let buf ← read buf
        tagUriLoop verbatim s buf true n
    else return (buf, found)

def scanTagUri (verbatim : Bool) (head : String) (s : Mark) : Lex String := do
  let (uri, found) ← tagUriLoop verbatim s (String.ofList (head.toList.drop 1)) (!head.isEmpty) (← budget)
  if !found then fail s "did not find expected tag URI"
  return uri

def scanTag : Lex Token := do
  let s ← here
  let (handle, suffix) ← do
    if (← peek 1) == '<' then
      skip; skip
      let suffix ← scanTagUri true "" s
      if (← peek) != '>' then fail s "did not find the expected '>'"
      skip
      pure ("", suffix)
    else
      let h ← scanTagHandle false s
      if h.length > 1 && h.front == '!' && h.back == '!' then
        let suffix ← scanTagUri false "" s
        pure (h, suffix)
      else
        let suffix ← scanTagUri false h s
        if suffix.isEmpty then pure ("", "!") else pure ("!", suffix)
  let c ← peek
  if !isBlankOrEnd c then
    if (← get).flowLevel == 0 || c != ',' then fail s "did not find expected whitespace or line break"
  return { kind := .tag handle suffix, start := s, stop := ← here }

def versionLoop (s : Mark) (value len : Nat) : Nat → Lex (Nat × Nat)
  | 0 => return (value, len)
  | n + 1 => do
    let c ← peek
    if isDigit c then
      if 2 < len + 1 then fail s "found extremely long version number"
      skip
      versionLoop s (value * 10 + (c.toNat - 48)) (len + 1) n
    else return (value, len)

def versionNumber (s : Mark) : Lex Nat := do
  let (v, len) ← versionLoop s 0 0 4
  if len == 0 then fail s "did not find expected version number"
  return v

def scanDirective : Lex Token := do
  let s ← here
  skip
  let name ← readWhile isWordChar "" (← budget)
  if name.isEmpty then fail s "could not find expected directive name"
  if !isBlankOrEnd (← peek) then fail s "found unexpected non-alphabetical character"
  let kind ← do
    if name == "YAML" then
      eatBlanks (← budget)
      let major ← versionNumber s
      if (← peek) != '.' then fail s "did not find expected digit or '.' character"
      skip
      let minor ← versionNumber s
      pure (TokenKind.versionDirective major minor)
    else if name == "TAG" then
      eatBlanks (← budget)
      let h ← scanTagHandle true s
      if !isBlank (← peek) then fail s "did not find expected whitespace"
      eatBlanks (← budget)
      let pfx ← scanTagUri true "" s
      if !isBlankOrEnd (← peek) then fail s "did not find expected whitespace or line break"
      pure (TokenKind.tagDirective h pfx)
    else fail s "found unknown directive name"
  let e ← here
  eatBlanks (← budget)
  if (← peek) == '#' then eatToBreak (← budget)
  if !isBreakOrEnd (← peek) then fail s "did not find expected comment or line break"
  if isBreak (← peek) then skipLine
  return { kind, start := s, stop := e }

/-! ### Scalars -/

structure Folding where
  text : String := ""
  leadingBreak : String := ""
  trailingBreaks : String := ""
  whitespaces : String := ""
  leadingBlanks : Bool := false

/-- Puts the blanks and breaks before a character of a plain scalar into its text: a single
line break becomes a space, further ones stay, and blanks within a line stay. -/
def Folding.join (f : Folding) : Folding :=
  if f.leadingBlanks then
    let t :=
      if f.leadingBreak.front == '\n' then
        if f.trailingBreaks.isEmpty then f.text.push ' ' else f.text ++ f.trailingBreaks
      else f.text ++ f.leadingBreak ++ f.trailingBreaks
    { f with text := t, leadingBreak := "", trailingBreaks := "", leadingBlanks := false }
  else if f.whitespaces.isEmpty then f
  else { f with text := f.text ++ f.whitespaces, whitespaces := "" }

def atDocumentMarker : Lex Bool := do
  let c0 ← peek
  let c1 ← peek 1
  let c2 ← peek 2
  let c3 ← peek 3
  return (← here).column == 0 &&
    ((c0 == '-' && c1 == '-' && c2 == '-') || (c0 == '.' && c1 == '.' && c2 == '.')) && isBlankOrEnd c3

def isFlowIndicator (c : Char) : Bool := c == ',' || c == '?' || c == '[' || c == ']' || c == '{' || c == '}'

def plainWord (f : Folding) (stop : Mark) : Nat → Lex (Folding × Mark)
  | 0 => return (f, stop)
  | n + 1 => do
    let c ← peek
    let d ← peek 1
    if isBlankOrEnd c then return (f, stop)
    let flow := 0 < (← get).flowLevel
    if flow && c == ':' && isFlowIndicator d then return (f, stop)
    if (c == ':' && isBlankOrEnd d) || (flow && isFlowIndicator c) then return (f, stop)
    let f := f.join
    let t ← read f.text
    let stop ← here
    ensure 2
    plainWord { f with text := t } stop n

def plainBlanks (indent : Int) (s : Mark) (f : Folding) : Nat → Lex Folding
  | 0 => return f
  | n + 1 => do
    let c ← peek
    if isBlank c then
      if f.leadingBlanks && ((← here).column : Int) < indent && c == '\t' then
        fail s "found a tab character that violates indentation"
      if !f.leadingBlanks then
        let w ← read f.whitespaces
        ensure 1
        plainBlanks indent s { f with whitespaces := w } n
      else
        skip
        ensure 1
        plainBlanks indent s f n
    else if isBreak c then
      ensure 2
      if !f.leadingBlanks then
        let lb ← readLine f.leadingBreak
        ensure 1
        plainBlanks indent s { f with whitespaces := "", leadingBreak := lb, leadingBlanks := true } n
      else
        let tb ← readLine f.trailingBreaks
        ensure 1
        plainBlanks indent s { f with trailingBreaks := tb } n
    else return f

def plainBody (indent : Int) (s : Mark) (f : Folding) (stop : Mark) : Nat → Lex (Folding × Mark)
  | 0 => return (f, stop)
  | n + 1 => do
    ensure 4
    if ← atDocumentMarker then return (f, stop)
    if (← peek) == '#' then return (f, stop)
    let (f, stop) ← plainWord f stop (← budget)
    let c ← peek
    if !(isBlank c || isBreak c) then return (f, stop)
    ensure 1
    let f ← plainBlanks indent s f (← budget)
    if (← get).flowLevel == 0 && ((← here).column : Int) < indent then return (f, stop)
    plainBody indent s f stop n

def scanPlain : Lex Token := do
  let s ← here
  let indent := (← get).indent + 1
  let (f, e) ← plainBody indent s {} s (← budget)
  if f.leadingBlanks then modify fun l => { l with keyAllowed := true }
  return { kind := .scalar f.text .plain, start := s, stop := e }

/-- The text of a one-letter escape of a double-quoted scalar, or the number of hexadecimal
digits that follow `x`, `u` and `U`. -/
def escape (c : Char) : Option (String ⊕ Nat) :=
  match c with
  | '0' => some (.inl (String.singleton (Char.ofNat 0)))
  | 'a' => some (.inl "\x07")
  | 'b' => some (.inl "\x08")
  | 't' => some (.inl "\t")
  | '\t' => some (.inl "\t")
  | 'n' => some (.inl "\n")
  | 'v' => some (.inl "\x0b")
  | 'f' => some (.inl "\x0c")
  | 'r' => some (.inl "\r")
  | 'e' => some (.inl "\x1b")
  | ' ' => some (.inl " ")
  | '"' => some (.inl "\"")
  | '\'' => some (.inl "'")
  | '\\' => some (.inl "\\")
  | 'N' => some (.inl (String.singleton (Char.ofNat 0x85)))
  | '_' => some (.inl (String.singleton (Char.ofNat 0xA0)))
  | 'L' => some (.inl (String.singleton (Char.ofNat 0x2028)))
  | 'P' => some (.inl (String.singleton (Char.ofNat 0x2029)))
  | 'x' => some (.inr 2)
  | 'u' => some (.inr 4)
  | 'U' => some (.inr 8)
  | _ => none

def hexLoop (k acc : Nat) : Nat → Lex (Option Nat)
  | 0 => return some acc
  | n + 1 => do
    let c ← peek k
    if isHex c then hexLoop (k + 1) (acc * 16 + hexValue c) n else return none

def hexAhead (len : Nat) : Lex (Option Nat) := hexLoop 0 0 len

/-- Reads the characters of a quoted scalar up to a blank, a line break or its closing
quote. -/
def quotedWord (single : Bool) (s : Mark) (f : Folding) : Nat → Lex Folding
  | 0 => return f
  | n + 1 => do
    let c ← peek
    let d ← peek 1
    if isBlankOrEnd c then return f
    if single && c == '\'' && d == '\'' then
      skip; skip
      ensure 2
      quotedWord single s { f with text := f.text.push '\'' } n
    else if single && c == '\'' then return f
    else if !single && c == '"' then return f
    else if !single && c == '\\' && isBreak d then
      ensure 3
      skip
      skipLine
      return { f with leadingBlanks := true }
    else if !single && c == '\\' then
      match escape d with
      | none => fail s "found unknown escape character"
      | some (.inl t) =>
        skip; skip
        ensure 2
        quotedWord single s { f with text := f.text ++ t } n
      | some (.inr len) =>
        skip; skip
        ensure len
        match ← hexAhead len with
        | none => fail s "did not find expected hexdecimal number"
        | some v =>
          if (0xD800 ≤ v && v ≤ 0xDFFF) || 0x10FFFF < v then
            fail s "found invalid Unicode character escape code"
          skipN len
          ensure 2
          quotedWord single s { f with text := f.text.push (Char.ofNat v) } n
    else
      let t ← read f.text
      ensure 2
      quotedWord single s { f with text := t } n

def quotedBlanks (f : Folding) : Nat → Lex Folding
  | 0 => return f
  | n + 1 => do
    let c ← peek
    if isBlank c then
      if !f.leadingBlanks then
        let w ← read f.whitespaces
        ensure 1
        quotedBlanks { f with whitespaces := w } n
      else
        skip
        ensure 1
        quotedBlanks f n
    else if isBreak c then
      ensure 2
      if !f.leadingBlanks then
        let lb ← readLine f.leadingBreak
        ensure 1
        quotedBlanks { f with whitespaces := "", leadingBreak := lb, leadingBlanks := true } n
      else
        let tb ← readLine f.trailingBreaks
        ensure 1
        quotedBlanks { f with trailingBreaks := tb } n
    else return f

def Folding.joinQuoted (f : Folding) : Folding :=
  if f.leadingBlanks then
    let t :=
      if !f.leadingBreak.isEmpty && f.leadingBreak.front == '\n' then
        if f.trailingBreaks.isEmpty then f.text.push ' ' else f.text ++ f.trailingBreaks
      else f.text ++ f.leadingBreak ++ f.trailingBreaks
    { f with text := t, leadingBreak := "", trailingBreaks := "" }
  else { f with text := f.text ++ f.whitespaces, whitespaces := "" }

def quotedBody (single : Bool) (s : Mark) (f : Folding) : Nat → Lex String
  | 0 => return f.text
  | n + 1 => do
    ensure 4
    if ← atDocumentMarker then fail s "found unexpected document indicator"
    if isEnd (← peek) then fail s "found unexpected end of stream"
    ensure 2
    let f ← quotedWord single s { f with leadingBlanks := false } (← budget)
    ensure 1
    let c ← peek
    if (single && c == '\'') || (!single && c == '"') then return f.text
    let f ← quotedBlanks f (← budget)
    quotedBody single s f.joinQuoted n

def scanQuoted (single : Bool) : Lex Token := do
  let s ← here
  skip
  let text ← quotedBody single s {} (← budget)
  skip
  return { kind := .scalar text (if single then .singleQuoted else .doubleQuoted), start := s,
           stop := ← here }

def indentSpaces (indent : Nat) : Nat → Lex Unit
  | 0 => pure ()
  | k + 1 => do
    if (indent == 0 || (← here).column < indent) && (← peek) == ' ' then
      skip
      ensure 1
      indentSpaces indent k

def breaksLoop (s : Mark) (indent maxIndent : Nat) (breaks : String) (stop : Mark) :
    Nat → Lex (Nat × String × Mark)
  | 0 => return (maxIndent, breaks, stop)
  | n + 1 => do
    indentSpaces indent (← budget)
    let col := (← here).column
    let maxIndent := max maxIndent col
    if (indent == 0 || col < indent) && (← peek) == '\t' then
      fail s "found a tab character where an indentation space is expected"
    if !isBreak (← peek) then return (maxIndent, breaks, stop)
    ensure 2
    let breaks ← readLine breaks
    breaksLoop s indent maxIndent breaks (← here) n

/-- Reads the indentation and empty lines before a line of a block scalar, and settles the
indentation when it is not known yet. -/
def blockBreaks (s : Mark) (indent : Nat) (breaks : String) (stop : Mark) : Lex (Nat × String × Mark) := do
  let (maxIndent, breaks, stop) ← breaksLoop s indent 0 breaks stop (← budget)
  if indent == 0 then
    let l ← get
    return (max (max maxIndent (l.indent + 1).toNat) 1, breaks, stop)
  return (indent, breaks, stop)

def restOfLine (t : String) : Nat → Lex String
  | 0 => return t
  | k + 1 => do
    if isBreakOrEnd (← peek) then return t
    let t ← read t
    ensure 1
    restOfLine t k

def blockLines (literal : Bool) (s : Mark) (indent : Nat) (text leadingBreak trailingBreaks : String)
    (leadingBlank : Bool) (stop : Mark) : Nat → Lex (String × String × String × Mark)
  | 0 => return (text, leadingBreak, trailingBreaks, stop)
  | n + 1 => do
    if !((← here).column == indent && !isEnd (← peek)) then
      return (text, leadingBreak, trailingBreaks, stop)
    let trailingBlank := isBlank (← peek)
    let text :=
      if !literal && !leadingBlank && !trailingBlank && !leadingBreak.isEmpty && leadingBreak.front == '\n' then
        if trailingBreaks.isEmpty then text.push ' ' else text
      else text ++ leadingBreak
    let text := text ++ trailingBreaks
    let leadingBlank := isBlank (← peek)
    let text ← restOfLine text (← budget)
    ensure 2
    let lb ← readLine ""
    let (indent, tb, stop) ← blockBreaks s indent "" stop
    blockLines literal s indent text lb tb leadingBlank stop n

def scanBlock (literal : Bool) : Lex Token := do
  let s ← here
  skip
  let c ← peek
  let (chomping, increment) ← do
    if c == '+' || c == '-' then
      skip
      let ch : Int := if c == '+' then 1 else -1
      let d ← peek
      if isDigit d then
        if d == '0' then fail s "found an indentation indicator equal to 0"
        skip
        pure (ch, d.toNat - 48)
      else pure (ch, 0)
    else if isDigit c then
      if c == '0' then fail s "found an indentation indicator equal to 0"
      skip
      let d ← peek
      if d == '+' || d == '-' then
        skip
        pure ((if d == '+' then 1 else -1 : Int), c.toNat - 48)
      else pure (0, c.toNat - 48)
    else pure (0, 0)
  eatBlanks (← budget)
  if (← peek) == '#' then eatToBreak (← budget)
  if !isBreakOrEnd (← peek) then fail s "did not find expected comment or line break"
  if isBreak (← peek) then skipLine
  let e ← here
  let l ← get
  let indent := if 0 < increment then (if 0 ≤ l.indent then (l.indent + increment).toNat else increment) else 0
  let (indent, tb, e) ← blockBreaks s indent "" e
  let (text, lb, tb, e) ← blockLines literal s indent "" "" tb false e (← budget)
  let text := if chomping != -1 then text ++ lb else text
  let text := if chomping == 1 then text ++ tb else text
  return { kind := .scalar text (if literal then .literal else .folded), start := s, stop := e }

/-! ### Tokens -/

def keyCandidate (scan : Lex Token) : Lex Unit := do
  saveKey
  modify fun l => { l with keyAllowed := false }
  push (← scan)

def fetchValue : Lex Unit := do
  let l ← get
  let i := l.keys.size - 1
  if ← keyValid i then
    match (← get).keys[i]? with
    | some k =>
      insertAt (k.tokenNumber - l.tokensTaken) { kind := .key, start := k.mark, stop := k.mark }
      rollIndent k.mark.column (some k.tokenNumber) .blockMappingStart k.mark
      modify fun l => { l with keys := l.keys.modify i (fun k => { k with possible := false }),
                               keyOfToken := l.keyOfToken.filter (·.1 != k.tokenNumber),
                               keyAllowed := false }
    | none => pure ()
  else
    let l ← get
    if l.flowLevel == 0 then
      if !l.keyAllowed then fail l.mark "mapping values are not allowed in this context"
      rollIndent l.mark.column none .blockMappingStart l.mark
    modify fun l => { l with keyAllowed := l.flowLevel == 0 }
  single .value

def startsPlain (flow : Bool) (c d : Char) : Bool :=
  !(isBlankOrEnd c || "-?:,[]\x7b\x7d#&*!|>'\"%@`".toList.contains c) ||
    (c == '-' && !isBlank d) || (!flow && (c == '?' || c == ':') && !isBlankOrEnd d)

def fetchToken : Lex Unit := do
  let c ← peek
  let d ← peek 1
  let l ← get
  let flow := 0 < l.flowLevel
  if c == '[' || c == '{' then
    saveKey
    increaseFlow
    modify fun l => { l with keyAllowed := true }
    single (if c == '[' then .flowSequenceStart else .flowMappingStart)
  else if c == ']' || c == '}' then
    removeKey
    decreaseFlow
    modify fun l => { l with keyAllowed := false }
    single (if c == ']' then .flowSequenceEnd else .flowMappingEnd)
  else if c == ',' then
    removeKey
    modify fun l => { l with keyAllowed := true }
    single .flowEntry
  else if c == '-' && isBlankOrEnd d then
    if !flow then
      if !l.keyAllowed then fail l.mark "block sequence entries are not allowed in this context"
      rollIndent l.mark.column none .blockSequenceStart l.mark
    removeKey
    modify fun l => { l with keyAllowed := true }
    single .blockEntry
  else if c == '?' && (flow || isBlankOrEnd d) then
    if !flow then
      if !l.keyAllowed then fail l.mark "mapping keys are not allowed in this context"
      rollIndent l.mark.column none .blockMappingStart l.mark
    removeKey
    modify fun l => { l with keyAllowed := !flow }
    single .key
  else if c == ':' && (flow || isBlankOrEnd d) then fetchValue
  else if c == '*' then keyCandidate (scanAnchor true)
  else if c == '&' then keyCandidate (scanAnchor false)
  else if c == '!' then keyCandidate scanTag
  else if (c == '|' || c == '>') && !flow then
    removeKey
    modify fun l => { l with keyAllowed := true }
    push (← scanBlock (c == '|'))
  else if c == '\'' || c == '"' then keyCandidate (scanQuoted (c == '\''))
  else if startsPlain flow c d then keyCandidate scanPlain
  else fail l.mark "found character that cannot start any token"

def fetchNext : Lex Unit := do
  ensure 1
  if !(← get).started then
    let m ← here
    modify fun l => { l with indent := -1, keys := #[{}], keyOfToken := [], keyAllowed := true,
                             started := true }
    push { kind := .streamStart, start := m, stop := m }
  else
    let scanMark ← here
    toNextToken (← budget)
    unrollIndent (← here).column scanMark
    ensure 4
    let c ← peek
    let m ← here
    if isEnd c then
      if m.column != 0 then
        modify fun l => { l with mark := { l.mark with column := 0, line := l.mark.line + 1 } }
      unrollIndent (-1) (← here)
      removeKey
      modify fun l => { l with keyAllowed := false }
      let m ← here
      push { kind := .streamEnd, start := m, stop := m }
    else if m.column == 0 && c == '%' then
      unrollIndent (-1) m
      removeKey
      modify fun l => { l with keyAllowed := false }
      push (← scanDirective)
    else if ← atDocumentMarker then
      unrollIndent (-1) m
      removeKey
      modify fun l => { l with keyAllowed := false }
      skipN 3
      push { kind := if c == '-' then .documentStart else .documentEnd, start := m, stop := ← here }
    else
      fetchToken
      let l ← get
      match l.queue.back? with
      | some t => if t.kind != .blockEntry then trailingComment
      | none => trailingComment

/-- Whether more tokens must be read before the front one can be taken: fewer than three
wait, or the front one may still become a simple key. -/
def needMore : Lex Bool := do
  let l ← get
  if 3 ≤ l.queue.size then
    match l.keyOfToken.lookup l.tokensTaken with
    | none => return false
    | some i => keyValid i
  else return true

def fetchMore : Nat → Lex Unit
  | 0 => pure ()
  | n + 1 => do
    if ← needMore then
      fetchNext
      fetchMore n
    else modify fun l => { l with available := true }

def front : Lex Token := do
  let l ← get
  if !l.available then fetchMore (l.input.size - l.mark.index + 16)
  let l ← get
  match l.queue[0]? with
  | some t => return t
  | none => return { kind := .streamEnd, start := l.mark, stop := l.mark }

def advance : Lex Unit := modify fun l =>
  { l with queue := l.queue.extract 1 l.queue.size, tokensTaken := l.tokensTaken + 1,
           available := false }

end Lex

def byteEnds (start : Nat) (cs : List Char) : Array Nat :=
  (cs.foldl (fun (acc : Array Nat × Nat) c =>
    let e := acc.2 + c.utf8Size
    (acc.1.push e, e)) (#[], start)).1

/-- A lexer at the start of a text. A byte order mark at the start is dropped. The first read
takes a chunk of the text, and the end of a text of fewer than three bytes is seen at once. -/
def Lexer.start (text : String) : Lexer :=
  let (cs, skipped) := match text.toList with
    | c :: rest => if c.toNat == 0xFEFF then (rest, 3) else (c :: rest, 0)
    | [] => ([], 0)
  let size := text.utf8ByteSize
  { input := cs.toArray, ends := byteEnds skipped cs, size, skipped,
    bytesRead := min Lex.chunk size, sawEnd := size < 3 }

end Yaml

end RegisterMap

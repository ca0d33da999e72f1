import RegisterMap.Literal
import RegisterMap.Header.Line
import RegisterMap.Header.Define

/-!
Scanning a header for register declarations. An offset opens a register; a position waits for
the next length, which completes a bit field of the open register, and a length with nothing
waiting is noted and dropped. The first bad value or overlong line stops the scan, keeping what
was found before it.
-/

namespace RegisterMap

namespace Header

def maxBits : Nat := Nat.pow 2 16

inductive Event where
  | offset (line : Nat) (name : Bytes) (offset : Nat)
  | bitField (line : Nat) (name : Bytes) (start stop : Nat)
  deriving DecidableEq, Repr

inductive Fault where
  | notLiteral
  | tooWide (bits : Nat)
  deriving DecidableEq, Repr

inductive ScanError where
  | badValue (line : Nat) (define : Define) (fault : Fault)
  | lineTooLong
  deriving DecidableEq, Repr

def Fault.message (value : Bytes) : Fault → String
  | .notLiteral => Literal.invalidMessage value.quote
  | .tooWide v =>
    "macro integer value out of range: " ++ Nat.repr v ++ " bits, at most " ++ Nat.repr maxBits

def ScanError.message : ScanError → String
  | .badValue n d f => "line " ++ Nat.repr n ++ ": " ++ d.name.toLossy ++ ": " ++ f.message d.value
  | .lineTooLong => "bufio.Scanner: token too long"

structure Context where
  inRegister : Bool := false
  pending : Option Nat := none
  deriving DecidableEq, Repr

structure Effect where
  context : Context
  event : Option Event := none
  note : Option String := none
  deriving Repr

def value (n : Nat) (d : Define) : Except ScanError Nat :=
  match Literal.value? d.value with
  | some v => .ok v
  | none => .error (.badValue n d .notLiteral)

def bits (n : Nat) (d : Define) : Except ScanError Nat :=
  match value n d with
  | .ok v => if maxBits < v then .error (.badValue n d (.tooWide v)) else .ok v
  | .error e => .error e

def orphanNote (n : Nat) (d : Define) : String :=
  "line " ++ Nat.repr n ++ ": ignoring " ++ d.name.toLossy ++ ", no matching position"

def Context.step (cx : Context) (n : Nat) (d : Define) : Except ScanError Effect :=
  let (role, base) := Role.ofName d.name
  if role = .offset ∧ d.value ≠ d.name then
    match value n d with
    | .ok v => .ok { context := { cx with inRegister := true }, event := some (.offset n base v) }
    | .error e => .error e
  else if !cx.inRegister then .ok { context := cx }
  else match role with
    | .position =>
      match bits n d with
      | .ok v => .ok { context := { cx with pending := some v } }
      | .error e => .error e
    | .length =>
      match cx.pending with
      | none => .ok { context := cx, note := some (orphanNote n d) }
      | some s =>
        match bits n d with
        | .ok v => .ok { context := { cx with pending := none }, event := some (.bitField n base s (s + v)) }
        | .error e => .error e
    | _ => .ok { context := cx }

inductive Finding where
  | event (e : Event)
  | note (text : String)
  deriving DecidableEq, Repr

structure Scan where
  findings : List Finding := []
  error : Option ScanError := none
  deriving Repr

def Scan.events (s : Scan) : List Event :=
  s.findings.filterMap fun | .event e => some e | .note _ => none

def Scan.log (s : Scan) : List String :=
  s.findings.filterMap fun | .note t => some t | .event _ => none

def Effect.findings (eff : Effect) : List Finding :=
  eff.event.toList.map .event ++ eff.note.toList.map .note

structure Progress where
  context : Context := {}
  findings : List Finding := []
  error : Option ScanError := none

def Progress.line (p : Progress) (l : Bytes × Nat) : Progress :=
  if p.error.isSome then p
  else match Define.ofLine? l.1 with
    | none => p
    | some d =>
      match p.context.step l.2 d with
      | .error e => { p with error := some e }
      | .ok eff => { p with context := eff.context, findings := eff.findings.reverse ++ p.findings }

def scan (text : Bytes) : Scan :=
  let ls := lines text
  let p := (ls.lines.zipIdx 1).foldl Progress.line {}
  { findings := p.findings.reverse,
    error := match p.error with
      | some e => some e
      | none => if ls.tooLong then some .lineTooLong else none }

end Header

end RegisterMap

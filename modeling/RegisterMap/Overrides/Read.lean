import RegisterMap.Overrides.Validate
import RegisterMap.Literal
import RegisterMap.Yaml.Decode

/-!
Override sets written in YAML: a mapping with the keys `structs`, `registers` and `docs`, every
other key refused. Indices are header literals and bit bounds non-negative numbers; a set that
reads is checked, and refused with all its problems.
-/

namespace RegisterMap

open Yaml

inductive LiteralFault where
  | notScalar
  | notLiteral (text : Bytes)
  deriving DecidableEq, Repr

structure LiteralError where
  line : Nat
  fault : LiteralFault
  deriving DecidableEq, Repr

def LiteralError.message (e : LiteralError) : String :=
  "line " ++ Nat.repr e.line ++ ": " ++
    match e.fault with
    | .notScalar => "invalid macro integer value: expected a scalar"
    | .notLiteral text => Literal.invalidMessage (Bytes.quote text)

def LiteralError.read (_ : String) (n : Node) : Except LiteralError Datum :=
  match n with
  | .scalar line _ value =>
    match Literal.value? (Bytes.ofString value) with
    | some v => .ok (.count v)
    | none => .error ⟨line, .notLiteral (Bytes.ofString value)⟩
  | other => .error ⟨other.line, .notScalar⟩

def literalName : String := "types.Integer"

inductive ReadError where
  | malformed (p : Yaml.Problem)
  | mismatched (lines : List String)
  | badLiteral (e : LiteralError)
  | invalid (problems : List Overrides.Problem)
  deriving Repr

def ReadError.message : ReadError → String
  | .malformed p => p.message
  | .mismatched lines => mismatchMessage lines
  | .badLiteral e => e.message
  | .invalid ps => Overrides.problemsMessage ps

def ReadError.ofDecode : DecodeError LiteralError → ReadError
  | .malformed p => .malformed p
  | .mismatched lines => .mismatched lines
  | .custom e => .badLiteral e

/-- Reads the first document of YAML text as a header literal with a decoder; a text with no
document, or with a null one, gives `start`. -/
def Literal.readYamlBy (decode : Yaml.Decoder LiteralError) (start : Nat) (text : String) :
    Except ReadError Nat :=
  match decode LiteralError.read (.custom literalName) (.count start) text with
  | .ok (.count v) => .ok v
  | .ok _ => .ok start
  | .error e => .error (ReadError.ofDecode e)

def Literal.readYaml (start : Nat) (text : String) : Except ReadError Nat :=
  Literal.readYamlBy Yaml.decode start text

namespace Overrides

def fieldSchema : Schema :=
  .record "overrides.StructField"
    [("index", .custom literalName), ("name", .text), ("type", .text), ("doc", .text)]

def bitFieldSchema : Schema :=
  .record "overrides.RegisterField" [("start", .count), ("end", .count), ("name", .text), ("doc", .text)]

def schema : Schema :=
  .record "overrides.Set"
    [("structs", .dict (.list fieldSchema)), ("registers", .dict (.list bitFieldSchema)),
     ("docs", .dict .text)]

def countOf : Datum → Nat
  | .count n => n
  | _ => 0

def fieldOf : Datum → Field
  | .record [i, n, t, d] => { index := countOf i, name := n.bytes, typeName := t.bytes, doc := d.bytes }
  | _ => { index := 0, name := [], typeName := [] }

def bitFieldOf : Datum → BitField
  | .record [s, e, n, d] => { start := countOf s, stop := countOf e, name := n.bytes, doc := d.bytes }
  | _ => { start := 0, stop := 0, name := [] }

def itemsOf : Datum → List Datum
  | .list items => items
  | _ => []

def tableOf {α : Type} (f : Datum → α) : Datum → Table α
  | .dict entries => entries.foldl (fun t e => t.insert e.1 (f e.2)) Table.empty
  | _ => Table.empty

def ofDatum : Datum → Overrides
  | .record [s, r, d] =>
    { structs := tableOf (fun v => (itemsOf v).map fieldOf) s
      registers := tableOf (fun v => (itemsOf v).map bitFieldOf) r
      docs := tableOf Datum.bytes d }
  | _ => empty

/-- Reads an override set from the first document of YAML text with a decoder, and checks it.
A text with no document, or a null one, is the empty set. -/
def readBy (decode : Yaml.Decoder LiteralError) (text : String) : Except ReadError Overrides :=
  match decode LiteralError.read schema schema.zero text with
  | .error e => .error (ReadError.ofDecode e)
  | .ok d =>
    let o := ofDatum d
    match problems o with
    | [] => .ok o
    | ps => .error (.invalid ps)

def read (text : String) : Except ReadError Overrides := readBy Yaml.decode text

end Overrides

end RegisterMap

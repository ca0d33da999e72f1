import RegisterMap.Ident
import RegisterMap.Header.Scan
import RegisterMap.Overrides.Basic

/-!
Building a register block from the declarations of a header. An offset adds a field and opens
the register of its type, which starts with the override bit fields of that type; a type
declared again keeps its place with a fresh layout. The finished block has its fields sorted
stably by offset.
-/

namespace RegisterMap

structure Builder where
  name : Bytes
  stem : Bytes
  overrides : Overrides
  cases : Ident.Cases := .standard
  fields : List Field
  registers : List Register := []
  current : Option Nat := none

namespace Builder

/-- A builder for the block `name`, whose macros share the prefix `stem`, naming with the case
mappings `cases`. -/
def startBy (cases : Ident.Cases) (name stem : Bytes) (overrides : Overrides) : Builder :=
  { name, stem, overrides, cases, fields := overrides.structFields name }

def start (name stem : Bytes) (overrides : Overrides) : Builder := startBy .standard name stem overrides

def redeclaredNote (line : Nat) (typeName : Bytes) : String :=
  "line " ++ Nat.repr line ++ ": register " ++ typeName.toLossy ++ " redeclared, replacing its bit fields"

/-- Adds the field of an offset declaration and opens its register; a note comes with a
type declared before. -/
def offset (b : Builder) (line : Nat) (base : Bytes) (index : Nat) : Builder × List String :=
  let field : Field :=
    { index, name := Ident.fieldNameBy b.cases.lower base b.stem,
      typeName := Ident.typeNameBy b.cases base b.name }
  let reg : Register := { name := field.typeName, bitFields := b.overrides.registerFields field.typeName }
  let fields := b.fields ++ [field]
  match b.registers.findIdx? (·.name == field.typeName) with
  | some i =>
    ({ b with fields, registers := b.registers.set i reg, current := some i },
      [redeclaredNote line field.typeName])
  | none =>
    ({ b with fields, registers := b.registers ++ [reg], current := some b.registers.length }, [])

def bitField (b : Builder) (base : Bytes) (start stop : Nat) : Builder :=
  match b.current with
  | none => b
  | some i =>
    let name := Ident.bitFieldNameBy b.cases.lower base b.stem
    let f : BitField := { start, stop, name, doc := b.overrides.doc name }
    { b with registers := b.registers.modify i fun r => { r with bitFields := r.bitFields ++ [f] } }

def handle (b : Builder) : Header.Event → Builder × List String
  | .offset line name index => b.offset line name index
  | .bitField _ name start stop => (b.bitField name start stop, [])

def finish (b : Builder) (doc : Bytes) : Block where
  name := b.name
  doc := doc
  fields := b.fields.mergeSort fun x y => decide (x.index ≤ y.index)
  registers := b.registers

end Builder

end RegisterMap

import RegisterMap.Text.Bytes

/-!
The register block of a peripheral, as generated from a header: its fields, one register
each at a byte offset, and the bit field layouts of the register types, in the order they
were found.
-/

namespace RegisterMap

structure Field where
  index : Nat
  name : Bytes
  typeName : Bytes
  doc : Bytes := []
  deriving DecidableEq, Repr

structure BitField where
  start : Nat
  stop : Nat
  name : Bytes
  doc : Bytes := []
  deriving DecidableEq, Repr

structure Register where
  name : Bytes
  bitFields : List BitField := []
  deriving DecidableEq, Repr

structure Block where
  name : Bytes
  doc : Bytes
  fields : List Field
  registers : List Register
  deriving DecidableEq, Repr

end RegisterMap

import RegisterMap.Model.Basic

/-!
Writing a register block as source text: a structure listing the fields, then a register
definition per type with its bit fields. Offsets are upper-case hexadecimal of at least three
digits, bit bounds decimal of at least two, and documentation stands on a line of its own.
-/

namespace RegisterMap

/-- The words of the generated definitions: the macros that define structures and
registers, the access mode of fields and the integer type of registers. -/
structure Dialect where
  structMacro : String
  regMacro : String
  access : String
  word : String
  deriving DecidableEq, Repr

namespace Dialect

def default : Dialect := ⟨"embedded_util::mmio", "embedded_util::reg", "rw", "u32"⟩

def docLine (doc : Bytes) : Bytes :=
  if doc = [] then [] else Bytes.ofString "        /// " ++ doc ++ [10]

def fieldLine (d : Dialect) (f : Field) : Bytes :=
  docLine f.doc ++ Bytes.ofString "        [0x" ++ Bytes.padLeft 3 48 (Bytes.hexDigits true f.index) ++
    Bytes.ofString ("] " ++ d.access ++ " ") ++ f.name ++ Bytes.ofString ": " ++ f.typeName ++
    Bytes.ofString ",\n"

def bitFieldLine (f : BitField) : Bytes :=
  docLine f.doc ++ Bytes.ofString "        [" ++ Bytes.padLeft 2 48 (Bytes.decimal f.start) ++
    Bytes.ofString ".." ++ Bytes.padLeft 2 48 (Bytes.decimal f.stop) ++ Bytes.ofString "] " ++
    f.name ++ Bytes.ofString ",\n"

def closing : Bytes := Bytes.ofString "    \x7d\n\x7d\n"

def registerText (d : Dialect) (r : Register) : Bytes :=
  Bytes.ofString ("\n" ++ d.regMacro ++ "! \x7b\n    pub struct ") ++ r.name ++
    Bytes.ofString (": " ++ d.word ++ " \x7b\n") ++ r.bitFields.flatMap bitFieldLine ++ closing

def render (d : Dialect) (b : Block) : Bytes :=
  Bytes.ofString "//! " ++ b.doc ++ Bytes.ofString ("\n\n" ++ d.structMacro ++ "! \x7b\n    pub struct ") ++
    b.name ++ Bytes.ofString " \x7b\n" ++ b.fields.flatMap d.fieldLine ++ closing ++
    b.registers.flatMap d.registerText

end Dialect

end RegisterMap

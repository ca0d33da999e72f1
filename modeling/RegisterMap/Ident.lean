import RegisterMap.Text.Lower
import RegisterMap.Text.Digit

/-!
Identifiers of the generated definitions, from upper snake case macro names: register types in
Pascal case (`PDS_CTL2` gives `PdsCtl2`), fields and bit fields in lower case without the
peripheral prefix and never with a leading digit. The case mappings are a parameter (`Cases`).
-/

namespace RegisterMap

namespace Ident

def underscore : UInt8 := 95

/-- The case mappings names are written with: `upper` for the first character of each word of
a type name, `lower` for the rest of the word and for field names. -/
structure Cases where
  upper : Bytes → Bytes
  lower : Bytes → Bytes

/-- The case mappings of the program: the full Unicode upper case, and the streaming lower
case of `Text.lowerStream`. -/
def Cases.standard : Cases where
  upper b := encode (Text.upper (decode b))
  lower := Text.lowerStream

def capitalizeBy (c : Cases) (word : Bytes) : Bytes :=
  match decode word with
  | [] => []
  | g :: _ => c.upper (word.take g.bytes.length) ++ c.lower (word.drop g.bytes.length)

/-- The type name of a register: its words capitalized and joined, with a `0` added when
that gives the name of the enclosing structure. -/
def typeNameBy (c : Cases) (base structName : Bytes) : Bytes :=
  let name := ((Bytes.splitOn underscore base).filter (· ≠ [])).flatMap (capitalizeBy c)
  if name = structName then name ++ Bytes.ofString "0" else name

def typeName (base structName : Bytes) : Bytes := typeNameBy .standard base structName

def strip (base pre : Bytes) : Bytes :=
  match Bytes.dropPrefix? pre base with
  | some name => if name = [] then base else name
  | none => base

def startsWithDigit (name : Bytes) : Bool :=
  match decode name with
  | .char c :: _ => Text.isDecimalDigit c
  | _ => false

/-- A name in lower case by the case mapping `lower`, with an underscore before a leading
decimal digit. -/
def normalizeBy (lower : Bytes → Bytes) (name : Bytes) : Bytes :=
  let low := lower name
  if startsWithDigit low then underscore :: low else low

def fieldNameBy (lower : Bytes → Bytes) (base pre : Bytes) : Bytes := normalizeBy lower (strip base pre)

def fieldName (base pre : Bytes) : Bytes := fieldNameBy Cases.standard.lower base pre

/-- Markers repeated after the prefix of bit field macros; the first that leaves something
of the name is removed. -/
def markers : List Bytes := [Bytes.ofString "REG_", Bytes.ofString "REG2_"]

def dropMarker (name : Bytes) : List Bytes → Bytes
  | [] => name
  | m :: ms =>
    match Bytes.dropPrefix? m name with
    | some rest => if rest = [] then dropMarker name ms else rest
    | none => dropMarker name ms

def bitFieldNameBy (lower : Bytes → Bytes) (base pre : Bytes) : Bytes :=
  normalizeBy lower (dropMarker (strip base pre) markers)

def bitFieldName (base pre : Bytes) : Bytes := bitFieldNameBy Cases.standard.lower base pre

end Ident

end RegisterMap

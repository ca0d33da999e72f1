import RegisterMap.Table
import RegisterMap.Model.Basic

/-!
Overrides: entries curated by hand and merged into the blocks built from headers, fields by
block name, bit fields by register type and documentation by bit field name. Merging sets joins
the lists and lets a later documentation string replace an earlier one.
-/

namespace RegisterMap

structure Overrides where
  structs : Table (List Field) := .empty
  registers : Table (List BitField) := .empty
  docs : Table Bytes := .empty
  deriving Repr, DecidableEq

namespace Overrides

def empty : Overrides := {}

def structFields (o : Overrides) (name : Bytes) : List Field := (o.structs.find? name).getD []

def registerFields (o : Overrides) (name : Bytes) : List BitField :=
  (o.registers.find? name).getD []

def doc (o : Overrides) (name : Bytes) : Bytes := (o.docs.find? name).getD []

/-- The entries of `a` followed by those of `b`: lists are joined, a documentation string of
`b` replaces that of `a`. -/
def merge (a b : Overrides) : Overrides where
  structs := a.structs.unionWith (· ++ ·) b.structs
  registers := a.registers.unionWith (· ++ ·) b.registers
  docs := a.docs.unionWith (fun _ w => w) b.docs

def mergeAll (sets : List (Option Overrides)) : Overrides :=
  sets.foldl (fun acc s => match s with | some s => acc.merge s | none => acc) empty

end Overrides

end RegisterMap

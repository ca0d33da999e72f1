import RegisterMap.Overrides.Basic
import RegisterMap.Text.Utf8

/-!
Checking override sets. Every field needs a name and a type, every bit field a name and a
non-empty range. Problems are listed by block name and then by register type name, each in
increasing order, entries in list order, and for one bit field a missing name before an
empty range.
-/

namespace RegisterMap

namespace Overrides

inductive Problem where
  | unnamedField (owner : Bytes) (index : Nat)
  | unnamedBitField (owner : Bytes) (start stop : Nat)
  | emptyRange (owner name : Bytes) (start stop : Nat)
  deriving DecidableEq, Repr

def hexMarked (n : Nat) : String := "0x" ++ (Bytes.hexDigits false n).toLossy

def Problem.message : Problem → String
  | .unnamedField o i =>
    "invalid override: field of " ++ o.toLossy ++ " at " ++ hexMarked i ++ " needs a name and a type"
  | .unnamedBitField o s e =>
    "invalid override: unnamed bit field [" ++ Nat.repr s ++ ".." ++ Nat.repr e ++ "] in " ++ o.toLossy
  | .emptyRange o n s e =>
    "invalid override: empty bit range [" ++ Nat.repr s ++ ".." ++ Nat.repr e ++ "] of " ++
      o.toLossy ++ "." ++ n.toLossy

def fieldProblems (owner : Bytes) (f : Field) : List Problem :=
  if f.name = [] ∨ f.typeName = [] then [.unnamedField owner f.index] else []

def bitFieldProblems (owner : Bytes) (f : BitField) : List Problem :=
  (if f.name = [] then [.unnamedBitField owner f.start f.stop] else []) ++
    (if f.stop ≤ f.start then [.emptyRange owner f.name f.start f.stop] else [])

def problems (o : Overrides) : List Problem :=
  o.structs.entries.flatMap (fun e => e.2.flatMap (fieldProblems e.1)) ++
    o.registers.entries.flatMap (fun e => e.2.flatMap (bitFieldProblems e.1))

def problemsMessage (ps : List Problem) : String := "\n".intercalate (ps.map Problem.message)

end Overrides

end RegisterMap

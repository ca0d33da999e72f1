import RegisterMap.Text.Quoted

/-!
Integer literals of register headers: a decimal numeral, or hexadecimal digits after a
lower-case `0x`, possibly wrapped in parentheses and marked unsigned, as in `(0x004U)`.
Parentheses and `u`/`U` marks are dropped from both ends in any mix; what is left must be a
non-empty run of digits of the base, with no sign and no separator, of value below 2^64.
-/

namespace RegisterMap

namespace Literal

def bound : Nat := Nat.pow 2 64

def isWrapper (b : UInt8) : Bool := b == 40 || b == 41 || b == 117 || b == 85

def digit? (base : Nat) (b : UInt8) : Option Nat :=
  let n := b.toNat
  let v :=
    if 48 ≤ n ∧ n ≤ 57 then some (n - 48)
    else if 97 ≤ n ∧ n ≤ 102 then some (n - 87)
    else if 65 ≤ n ∧ n ≤ 70 then some (n - 55)
    else none
  match v with
  | some d => if d < base then some d else none
  | none => none

def digitsFrom (base acc : Nat) : Bytes → Option Nat
  | [] => some acc
  | b :: bs => match digit? base b with
    | some d => digitsFrom base (acc * base + d) bs
    | none => none

def numeral? (base : Nat) (ds : Bytes) : Option Nat :=
  if ds.isEmpty then none
  else match digitsFrom base 0 ds with
    | some v => if v < bound then some v else none
    | none => none

def value? (v : Bytes) : Option Nat :=
  let s := Bytes.trim isWrapper v
  match Bytes.dropPrefix? (Bytes.ofString "0x") s with
  | some ds => numeral? 16 ds
  | none => numeral? 10 s

def invalidMessage (quoted : String) : String := "invalid macro integer value " ++ quoted

end Literal

end RegisterMap

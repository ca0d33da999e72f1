import RegisterMap.Text.Bytes

/-!
Base64 text with the standard alphabet and `=` padding. Line breaks in the text are ignored;
the text must then come in groups of four characters, and padding may only close the last
group.
-/

namespace RegisterMap

namespace Base64

def sextet? (c : Char) : Option Nat :=
  if 'A' ≤ c && c ≤ 'Z' then some (c.toNat - 65)
  else if 'a' ≤ c && c ≤ 'z' then some (c.toNat - 71)
  else if '0' ≤ c && c ≤ '9' then some (c.toNat + 4)
  else if c == '+' then some 62
  else if c == '/' then some 63
  else none

def group (a b c d : Char) : Option (Bytes × Bool) :=
  match sextet? a, sextet? b with
  | some x, some y =>
    let n := x * 262144 + y * 4096
    if c == '=' && d == '=' then some ([(n / 65536).toUInt8], true)
    else match sextet? c with
      | some z =>
        let n := n + z * 64
        if d == '=' then some ([(n / 65536).toUInt8, (n / 256 % 256).toUInt8], true)
        else match sextet? d with
          | some w =>
            let n := n + w
            some ([(n / 65536).toUInt8, (n / 256 % 256).toUInt8, (n % 256).toUInt8], false)
          | none => none
      | none => none
  | _, _ => none

def groups : List Char → Option Bytes
  | [] => some []
  | a :: b :: c :: d :: rest =>
    match group a b c d with
    | some (bs, padded) =>
      if padded && !rest.isEmpty then none
      else (groups rest).map (bs ++ ·)
    | none => none
  | _ => none

def decode (s : String) : Option Bytes :=
  groups (s.toList.filter fun c => c != '\r' && c != '\n')

end Base64

end RegisterMap

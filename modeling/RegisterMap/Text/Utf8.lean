import RegisterMap.Text.Bytes

/-!
Reading bytes as UTF-8. A well-formed encoding gives a character; a byte that does not start
one is read alone, as a stray byte, and reading goes on at the next byte. Well-formed means
shortest form, no surrogate halves and nothing above U+10FFFF.
-/

namespace RegisterMap

/-- One unit of text read from bytes: a character, or a byte that begins no well-formed
encoding. -/
inductive Glyph where
  | char (c : Char)
  | stray (b : UInt8)
  deriving DecidableEq, Repr, Inhabited

namespace Glyph

def isTrailing (b : UInt8) : Bool := b &&& 0xC0 == 0x80

def payload (b : UInt8) : Nat := (b &&& 0x3F).toNat

/-- The character encoded at the front of `b0 :: rest`, with the number of continuation
bytes it uses, if that front is a well-formed encoding of more than one byte. -/
def multi? (b0 : UInt8) (rest : Bytes) : Option (Char × Nat) :=
  if 0xC2 ≤ b0 ∧ b0 ≤ 0xDF then
    match rest with
    | b1 :: _ =>
      if isTrailing b1 then some (Char.ofNat ((b0 &&& 0x1F).toNat * 64 + payload b1), 1)
      else none
    | [] => none
  else if 0xE0 ≤ b0 ∧ b0 ≤ 0xEF then
    match rest with
    | b1 :: b2 :: _ =>
      let lo : UInt8 := if b0 = 0xE0 then 0xA0 else 0x80
      let hi : UInt8 := if b0 = 0xED then 0x9F else 0xBF
      if lo ≤ b1 ∧ b1 ≤ hi ∧ isTrailing b2 then
        some (Char.ofNat ((b0 &&& 0x0F).toNat * 4096 + payload b1 * 64 + payload b2), 2)
      else none
    | _ => none
  else if 0xF0 ≤ b0 ∧ b0 ≤ 0xF4 then
    match rest with
    | b1 :: b2 :: b3 :: _ =>
      let lo : UInt8 := if b0 = 0xF0 then 0x90 else 0x80
      let hi : UInt8 := if b0 = 0xF4 then 0x8F else 0xBF
      if lo ≤ b1 ∧ b1 ≤ hi ∧ isTrailing b2 ∧ isTrailing b3 then
        some (Char.ofNat ((b0 &&& 0x07).toNat * 262144 + payload b1 * 4096 + payload b2 * 64
          + payload b3), 3)
      else none
    | _ => none
  else none

def bytes : Glyph → Bytes
  | .char c => String.utf8EncodeChar c
  | .stray b => [b]

/-- The character shown for a glyph where only well-formed text can stand: a stray byte
becomes U+FFFD. -/
def lossy : Glyph → Char
  | .char c => c
  | .stray _ => '�'

end Glyph

def decodeOnto (acc : List Glyph) : Bytes → List Glyph
  | [] => acc.reverse
  | b :: rest =>
    if b < 0x80 then decodeOnto (.char (Char.ofNat b.toNat) :: acc) rest
    else match Glyph.multi? b rest with
      | some (c, n) => decodeOnto (.char c :: acc) (rest.drop n)
      | none => decodeOnto (.stray b :: acc) rest
termination_by bs => bs.length
decreasing_by all_goals simp only [List.length_cons, List.length_drop]; omega

def decode (b : Bytes) : List Glyph := decodeOnto [] b

def encode (gs : List Glyph) : Bytes := gs.flatMap Glyph.bytes

def Bytes.toLossy (b : Bytes) : String := String.ofList ((decode b).map Glyph.lossy)

def Bytes.isUtf8 (b : Bytes) : Bool := (decode b).all fun | .char _ => true | .stray _ => false

end RegisterMap

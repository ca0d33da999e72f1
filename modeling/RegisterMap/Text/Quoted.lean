import RegisterMap.Text.Printable

/-!
Quoted text, as error messages show a value: between double quotes, a printable character
stands as it is, a quote or backslash gets a backslash, the usual controls their one-letter
escapes, other bytes below U+0080 and stray bytes two hexadecimal digits after `\x`, and
other characters four digits after `\u` or eight after `\U`.
-/

namespace RegisterMap

namespace Text

def hexFixed (width n : Nat) : List Char :=
  (List.range width).reverse.map fun i =>
    let d := n / Nat.pow 16 i % 16
    if d < 10 then Char.ofNat (48 + d) else Char.ofNat (87 + d)

def escapeChar (c : Char) : List Char :=
  match c.toNat with
  | 0x07 => ['\\', 'a']
  | 0x08 => ['\\', 'b']
  | 0x0C => ['\\', 'f']
  | 0x0A => ['\\', 'n']
  | 0x0D => ['\\', 'r']
  | 0x09 => ['\\', 't']
  | 0x0B => ['\\', 'v']
  | n =>
    if n < 0x20 ∨ n = 0x7F then '\\' :: 'x' :: hexFixed 2 n
    else if n < 0x10000 then '\\' :: 'u' :: hexFixed 4 n
    else '\\' :: 'U' :: hexFixed 8 n

end Text

namespace Glyph

def quoted : Glyph → List Char
  | .stray b => '\\' :: 'x' :: Text.hexFixed 2 b.toNat
  | .char c =>
    if c = '"' ∨ c = '\\' then ['\\', c]
    else if Text.isPrintable c then [c]
    else Text.escapeChar c

end Glyph

def Bytes.quote (b : Bytes) : String :=
  String.ofList ('"' :: (decode b).flatMap Glyph.quoted ++ ['"'])

/-- A character written between single quotes, with the same escapes, except that the single
quote gets a backslash and the double quote does not. -/
def Text.quoteChar (c : Char) : String :=
  let body :=
    if c = '\'' ∨ c = '\\' then ['\\', c]
    else if Text.isPrintable c then [c]
    else Text.escapeChar c
  String.ofList ('\'' :: body ++ ['\''])

end RegisterMap

import RegisterMap.Text.Utf8

/-!
Blank characters and the words of a line. A blank is a character of the Unicode White_Space
property: the ASCII blanks, U+0085, U+00A0 and the wide spaces and separators above U+167F.
Words are the maximal runs of non-blank glyphs; a stray byte is never blank.
-/

namespace RegisterMap

namespace Text

def isBlank (c : Char) : Bool :=
  let n := c.toNat
  (0x09 ≤ n && n ≤ 0x0D) || n == 0x20 || n == 0x85 || n == 0xA0 || n == 0x1680 ||
    (0x2000 ≤ n && n ≤ 0x200A) || n == 0x2028 || n == 0x2029 || n == 0x202F || n == 0x205F ||
    n == 0x3000

end Text

namespace Glyph

def isBlank : Glyph → Bool
  | .char c => Text.isBlank c
  | .stray _ => false

end Glyph

/-- Adds a glyph in front of the words of what follows it, given as the word that the
following glyphs begin and the words after that. -/
def wordStep (g : Glyph) (acc : List Glyph × List (List Glyph)) : List Glyph × List (List Glyph) :=
  if g.isBlank then ([], if acc.1.isEmpty then acc.2 else acc.1 :: acc.2)
  else (g :: acc.1, acc.2)

def words (gs : List Glyph) : List (List Glyph) :=
  let r := gs.foldr wordStep ([], [])
  if r.1.isEmpty then r.2 else r.1 :: r.2

end RegisterMap

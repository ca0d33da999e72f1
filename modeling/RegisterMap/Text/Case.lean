import RegisterMap.Text.CaseTable

/-!
Upper and lower case of characters by the full Unicode mappings, and the properties that decide
capital sigma: inside a word it becomes `ς` unless the next character that is not
case-ignorable, within 31 of them, is cased.
-/

namespace RegisterMap

namespace Text

def inRanges (rs : List (Nat × Nat)) (n : Nat) : Bool := rs.any fun r => r.1 ≤ n && n ≤ r.2

def mapChar (special : List (Nat × List Nat)) (runs : List CaseRun) (c : Char) : List Char :=
  match special.find? (·.1 == c.toNat) with
  | some (_, t) => t.map Char.ofNat
  | none =>
    match runs.findSome? (·.image? c.toNat) with
    | some n => [Char.ofNat n]
    | none => [c]

def upperChar (c : Char) : List Char := mapChar upperSpecial upperRuns c

def lowerChar (c : Char) : List Char := mapChar lowerSpecial lowerRuns c

def maxIgnorable : Nat := 30

end Text

namespace Glyph

def isCased : Glyph → Bool
  | .char c => Text.inRanges Text.casedRanges c.toNat
  | .stray _ => false

def isIgnorable : Glyph → Bool
  | .char c => Text.inRanges Text.ignorableRanges c.toNat
  | .stray _ => false

def upper : Glyph → List Glyph
  | .char c => (Text.upperChar c).map .char
  | g => [g]

def lower : Glyph → List Glyph
  | .char c => (Text.lowerChar c).map .char
  | g => [g]

end Glyph

namespace Text

def upper (gs : List Glyph) : List Glyph := gs.flatMap Glyph.upper

end Text

end RegisterMap

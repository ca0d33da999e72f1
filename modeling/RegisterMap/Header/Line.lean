import RegisterMap.Text.Bytes

/-!
The lines of a header. Lines end at a line feed, and one carriage return before it is
dropped; text after the last line feed is a last line, and nothing after it is none. A line
of `maxLineBytes` bytes or more, counted before its line feed and carriage return removal,
cannot be read: reading stops there.
-/

namespace RegisterMap

namespace Header

def maxLineBytes : Nat := Nat.pow 2 20

structure Lines where
  lines : List Bytes
  tooLong : Bool
  deriving Repr

def dropReturn (l : Bytes) : Bytes :=
  match Bytes.dropSuffix? [13] l with
  | some l' => l'
  | none => l

def lineStep (l : Bytes) (r : Lines) : Lines :=
  if maxLineBytes ≤ l.length then ⟨[], true⟩ else ⟨dropReturn l :: r.lines, r.tooLong⟩

def readLines (ls : List Bytes) : Lines := ls.foldr lineStep ⟨[], false⟩

def rawLines (text : Bytes) : List Bytes :=
  let pieces := Bytes.splitOn 10 text
  match pieces.getLast? with
  | some [] => pieces.dropLast
  | _ => pieces

def lines (text : Bytes) : Lines := readLines (rawLines text)

end Header

end RegisterMap

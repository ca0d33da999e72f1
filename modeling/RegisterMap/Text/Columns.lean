/-!
Text in aligned columns. A table is a list of lines, each a list of cells. Every cell of a line
but its last belongs to a column, and is padded with spaces to the width of the column: the
width of its widest cell, counted in characters, plus the padding. The last cell of a line is
written as it is, and every line ends with a newline.
-/

namespace RegisterMap

namespace Text

def columnWidths (lines : List (List String)) : List Nat :=
  lines.foldl (fun ws line =>
    let cells := (line.dropLast.map String.length)
    let n := max ws.length cells.length
    (List.range n).map fun i => max (ws.getD i 0) (cells.getD i 0)) []

def columns (padding : Nat) (lines : List (List String)) : String :=
  let ws := columnWidths lines
  let row := fun (line : List String) =>
    let padded := line.dropLast.zipIdx.map fun (c, i) =>
      c ++ String.ofList (List.replicate (ws.getD i 0 + padding - c.length) ' ')
    String.join padded ++ line.getLastD "" ++ "\n"
  String.join (lines.map row)

end Text

end RegisterMap

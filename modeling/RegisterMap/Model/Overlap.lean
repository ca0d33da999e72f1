import RegisterMap.Model.Basic

/-!
Checks of a register layout. The overlap groups are the connected components of at least two
nodes of the graph joining overlapping bit fields, found by a components routine given as a
parameter, then sorted. A bit field is out of range when empty, reversed or past the width.
-/

namespace RegisterMap

namespace BitField

def overlaps (a b : BitField) : Bool := a.start < b.stop && b.start < a.stop

def outOfRange (width : Nat) (f : BitField) : Bool := f.stop ≤ f.start || width < f.stop

end BitField

structure Graph where
  nodes : Nat
  edges : List (Nat × Nat)
  deriving Repr

abbrev Components := Graph → List (List Nat)

namespace Graph

def adj (g : Graph) (i j : Nat) : Bool := g.edges.contains (i, j) || g.edges.contains (j, i)

def grow (g : Graph) (members : List Nat) : List Nat :=
  (List.range g.nodes).filter fun j => members.contains j || members.any fun i => g.adj i j

def closeUnder (g : Graph) : Nat → List Nat → List Nat
  | 0, members => members
  | fuel + 1, members =>
    let next := g.grow members
    if next.length = members.length then members else g.closeUnder fuel next

def component (g : Graph) (i : Nat) : List Nat := g.closeUnder g.nodes (g.grow [i])

def components (g : Graph) : List (List Nat) :=
  ((List.range g.nodes).foldl (fun (acc : List Nat × List (List Nat)) i =>
    if acc.1.contains i then acc
    else
      let c := g.component i
      (acc.1 ++ c, acc.2 ++ [c])) ([], [])).2

end Graph

namespace Register

def overlapsAt (fs : List BitField) (i j : Nat) : Bool :=
  match fs[i]?, fs[j]? with
  | some a, some b => a.overlaps b
  | _, _ => false

/-- The overlap graph of a layout: a node per bit field, and an edge from each bit field to
every later one that it overlaps. -/
def overlapGraph (fs : List BitField) : Graph where
  nodes := fs.length
  edges := (List.range fs.length).flatMap fun i =>
    ((List.range fs.length).filter fun j => i < j && overlapsAt fs i j).map (i, ·)

/-- The overlap groups of a layout as places, with `components` for the connected components
of a graph: the components of at least two places, each in increasing order, ordered by their
first place. -/
def groupPlacesBy (components : Components) (fs : List BitField) : List (List Nat) :=
  let groups := ((components (overlapGraph fs)).filter (2 ≤ ·.length)).map
    fun c => c.mergeSort (· ≤ ·)
  -- the groups have different first places, so any sort by them gives this order
  groups.mergeSort fun a b => a.headD 0 ≤ b.headD 0

def overlapGroupsBy (components : Components) (r : Register) : List (List BitField) :=
  (groupPlacesBy components r.bitFields).map fun g => g.filterMap fun i => r.bitFields[i]?

def overlapGroups (r : Register) : List (List BitField) := overlapGroupsBy Graph.components r

def outOfRange (r : Register) (width : Nat) : List BitField := r.bitFields.filter (·.outOfRange width)

end Register

end RegisterMap

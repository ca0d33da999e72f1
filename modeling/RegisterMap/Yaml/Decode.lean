import RegisterMap.Yaml.Node
import RegisterMap.Text.Base64
import RegisterMap.Text.Quoted

/-!
Reading a YAML document into values of a fixed shape (text, counts, values of the caller's
reader, lists, dictionaries and records), node by node. Mismatches are collected and reading
goes on; problems of the scalar syntax, of aliases and of the caller's reader stop it at once.
A merge key `<<` brings in the pairs that the mapping does not set itself.
-/

namespace RegisterMap

namespace Yaml

inductive Schema where
  | text
  | count
  | custom (name : String)
  | list (item : Schema)
  | dict (item : Schema)
  | record (name : String) (fields : List (String × Schema))
  deriving Repr, Inhabited

def Schema.name : Schema → String
  | .text => "string"
  | .count => "uint"
  | .custom name => name
  | .list item => "[]" ++ item.name
  | .dict item => "map[string]" ++ item.name
  | .record name _ => name

inductive Datum where
  | text (b : Bytes)
  | count (n : Nat)
  | absent
  | list (items : List Datum)
  | dict (entries : List (Bytes × Datum))
  | record (fields : List Datum)
  deriving Repr, Inhabited

mutual

def Schema.zero : Schema → Datum
  | .text => .text []
  | .count => .count 0
  | .record _ fields => .record (Schema.zeros fields)
  | _ => .absent

def Schema.zeros : List (String × Schema) → List Datum
  | [] => []
  | (_, s) :: rest => s.zero :: Schema.zeros rest

end

def Datum.bytes : Datum → Bytes
  | .text b => b
  | _ => []

inductive Stop (ε : Type) where
  | problem (p : Problem)
  | custom (e : ε)
  deriving Repr

/-- The state of reading: the mismatches so far, the aliases being read, counts of the nodes
read in all and through aliases, and the keys that a merge must not overwrite. -/
structure Reading where
  mismatches : Array String := #[]
  active : List Nat := []
  decoded : Nat := 0
  aliased : Nat := 0
  depth : Nat := 0
  merged : Option (List Bytes) := none

abbrev Dec (ε : Type) := StateT Reading (Except (Stop ε))

/-- The count of a float, cut toward zero; a value below `-2^63` or equal to `2^64` becomes
`2^63`, a negative one wraps around `2^64`, and NaN or a value above `2^64` has none. -/
def floatCount (f : Float) : Option Nat :=
  if f.isNaN || f > 18446744073709551616.0 then none
  else if f == 18446744073709551616.0 then some (Nat.pow 2 63)
  else if f ≥ 0.0 then some f.toUInt64.toNat
  else if f < -9223372036854775808.0 then some (Nat.pow 2 63)
  else
    let t := (-f).toUInt64.toNat
    some (if t == 0 then 0 else Nat.pow 2 64 - t)

/-- The share of nodes read through aliases above which a document of `decoded` nodes is
refused: 99% up to 400000 nodes, 10% from 4000000, and in between falling in a straight line.
Whether `aliased / decoded` exceeds it is decided in integers. -/
def overAliased (aliased decoded : Nat) : Bool :=
  100 < aliased && 1000 < decoded &&
    (if decoded ≤ 400000 then 99 * decoded < 100 * aliased
     else if 4000000 ≤ decoded then 10 * decoded < 100 * aliased
     else decoded * (99 * 3600000 - 89 * (decoded - 400000)) < aliased * 100 * 3600000)

namespace Dec

variable {ε : Type}

def stop {α : Type} (text : String) : Dec ε α := throw (.problem (.plain text))

def lift {α : Type} (x : Except Problem α) : Dec ε α :=
  match x with
  | .ok a => pure a
  | .error p => throw (.problem p)

def mismatch (text : String) : Dec ε Unit :=
  modify fun r => { r with mismatches := r.mismatches.push text }

/-- Records that a node of a kind the shape cannot hold was met. The value is shown unless
the node is a collection, cut to seven bytes when it is longer than ten. -/
def mistyped (n : Node) (s : Schema) : Dec ε Unit :=
  let tag := n.tag
  let shown :=
    if tag == seqTag || tag == mapTag then ""
    else
      let b := Bytes.ofString n.text
      if 10 < b.length then " `" ++ Bytes.toLossy (b.take 7) ++ "...`" else " `" ++ n.text ++ "`"
  mismatch ("line " ++ Nat.repr n.line ++ ": cannot unmarshal " ++ shortTag tag ++ shown ++
    " into " ++ s.name)

def tick : Dec ε Unit := do
  let r ← get
  let r := { r with decoded := r.decoded + 1, aliased := if 0 < r.depth then r.aliased + 1 else r.aliased }
  set r
  if overAliased r.aliased r.decoded then stop "document contains excessive aliasing"

def duplicates (keys : List Node) : List String :=
  (keys.zipIdx.map fun (k, i) =>
    ((keys.drop (i + 1)).filter fun j => j.kindIndex == k.kindIndex && j.text == k.text).map fun j =>
      "line " ++ Nat.repr j.line ++ ": mapping key " ++ Bytes.quote (Bytes.ofString j.text) ++
        " already defined at line " ++ Nat.repr k.line).flatten

def resolved (n : Node) : Dec ε (String × Value) :=
  match n with
  | .scalar _ tag value => if tag == strTag then pure (strTag, .str value) else lift (resolve tag value)
  | _ => pure ("", .null)

/-- The text a key stands for when keys are compared for a merge, none for a key that is not
text: a date, a number or a Boolean key is no text there. -/
def keyText (doc : Document) (k : Node) : Dec ε (Option Bytes) := do
  let k := match k with
    | .alias _ _ target _ => (doc.anchored[target]?).getD k
    | _ => k
  match k with
  | .scalar _ _ value =>
    let (tag, v) ← resolved k
    if tag == binaryTag then return Base64.decode value
    match v with
    | .str s => return some (Bytes.ofString s)
    | _ => return none
  | _ => return none

def setKey (entries : List (Bytes × Datum)) (k : Bytes) (v : Datum) : List (Bytes × Datum) :=
  if entries.any (·.1 == k) then entries.map fun e => if e.1 == k then (k, v) else e
  else entries ++ [(k, v)]

def mayMerge (k : Bytes) : Option (List Bytes) → Bool × Option (List Bytes)
  | none => (true, none)
  | some seen => if seen.contains k then (false, some seen) else (true, some (k :: seen))

section

variable (doc : Document) (read : String → Node → Except ε Datum)

def scalar (s : Schema) (n : Node) (value : String) (cur : Datum) : Dec ε (Bool × Datum) := do
  let (tag, v) ← resolved n
  let binary ← if tag == binaryTag then
      match Base64.decode value with
      | some b => pure (some b)
      | none => stop "!!binary value contains invalid base64 data"
    else pure none
  match v with
  | .null =>
    match s with
    | .list _ => return (true, .absent)
    | .dict _ => return (true, .absent)
    | _ => return (false, cur)
  | _ =>
    match s, v with
    | .text, _ => return (true, .text (binary.getD (Bytes.ofString value)))
    | .count, .int i =>
      if 0 ≤ i then return (true, .count i.toNat)
      mistyped n s
      return (false, cur)
    | .count, .uint k => return (true, .count k)
    | .count, .float f =>
      match floatCount f with
      | some k => return (true, .count k)
      | none =>
        mistyped n s
        return (false, cur)
    | _, _ =>
      mistyped n s
      return (false, cur)

mutual

def node : Nat → Schema → Node → Datum → Dec ε (Bool × Datum)
  | 0, _, _, _ => stop "document contains excessive aliasing"
  | fuel + 1, s, n, cur => do
    tick
    match n with
    | .alias _ name target occurrence =>
      if (← get).active.contains occurrence then
        stop ("anchor '" ++ name ++ "' value contains itself")
      modify fun r => { r with active := occurrence :: r.active, depth := r.depth + 1 }
      let result ← match doc.anchored[target]? with
        | some t => node fuel s t cur
        | none => pure (false, cur)
      modify fun r => { r with active := r.active.erase occurrence, depth := r.depth - 1 }
      return result
    | _ =>
      match s with
      | .custom name =>
        if n.tag != nullTag then
          match read name n with
          | .ok d => return (true, d)
          | .error e => throw (.custom e)
      | _ => pure ()
      match n with
      | .scalar _ _ value => scalar s n value cur
      | .sequence _ _ items => sequence fuel s n items cur
      | .mapping _ _ entries => mapping fuel s n entries cur
      | .alias .. => return (false, cur)

def sequence : Nat → Schema → Node → List Node → Datum → Dec ε (Bool × Datum)
  | 0, _, _, _, _ => stop "document contains excessive aliasing"
  | fuel + 1, .list item, _, items, _ => do
    let mut kept : Array Datum := #[]
    for i in items do
      let (ok, d) ← node fuel item i item.zero
      if ok then kept := kept.push d
    return (true, .list kept.toList)
  | _, s, n, _, cur => do
    mistyped n s
    return (false, cur)

def mapping : Nat → Schema → Node → List (Node × Node) → Datum → Dec ε (Bool × Datum)
  | 0, _, _, _, _ => stop "document contains excessive aliasing"
  | fuel + 1, s, n, entries, cur => do
  let dups := duplicates (entries.map (·.1))
  if !dups.isEmpty then
    for d in dups do mismatch d
    return (false, cur)
  match s with
  | .dict item => dict fuel item entries cur
  | .record name fields => record fuel name fields entries cur
  | _ =>
    mistyped n s
    return (false, cur)

def dict : Nat → Schema → List (Node × Node) → Datum → Dec ε (Bool × Datum)
  | 0, _, _, _ => stop "document contains excessive aliasing"
  | fuel + 1, item, entries, cur => do
  let mut guard := (← get).merged
  modify fun r => { r with merged := none }
  let (fresh, start) := match cur with
    | .dict es => (false, es)
    | _ => (true, [])
  let mut out := start
  let mut mergeNode : Option Node := none
  for (k, v) in entries do
    if k.isMerge then
      mergeNode := some v
      continue
    let (ok, kd) ← node fuel .text k (.text [])
    if ok then
      let key := kd.bytes
      let (allowed, g) := mayMerge key guard
      guard := g
      if allowed then
        let (okv, vd) ← node fuel item v item.zero
        if okv || (doc.tagOf v == nullTag && (fresh || !out.any (·.1 == key))) then
          out := setKey out key vd
  modify fun r => { r with merged := guard }
  match mergeNode with
  | some m => return (true, ← merge fuel (.dict item) entries m (.dict out))
  | none => return (true, .dict out)

def record : Nat → String → List (String × Schema) → List (Node × Node) → Datum →
    Dec ε (Bool × Datum)
  | 0, _, _, _, _ => stop "document contains excessive aliasing"
  | fuel + 1, name, fields, entries, cur => do
  let mut guard := (← get).merged
  modify fun r => { r with merged := none }
  let mut values := match cur with
    | .record vs => vs
    | _ => Schema.zeros fields
  let mut done : List Nat := []
  let mut mergeNode : Option Node := none
  for (k, v) in entries do
    if k.isMerge then
      mergeNode := some v
      continue
    let (ok, kd) ← node fuel .text k (.text [])
    if !ok then continue
    let key := kd.bytes
    let (allowed, g) := mayMerge key guard
    guard := g
    if !allowed then continue
    match fields.findIdx? fun f => Bytes.ofString f.1 == key with
    | some i =>
      if done.contains i then
        mismatch ("line " ++ Nat.repr k.line ++ ": field " ++ Bytes.toLossy key ++
          " already set in type " ++ name)
        continue
      done := i :: done
      let fieldSchema := (fields[i]?.map (·.2)).getD .text
      let (_, fd) ← node fuel fieldSchema v (values.getD i fieldSchema.zero)
      values := values.set i fd
    | none =>
      mismatch ("line " ++ Nat.repr k.line ++ ": field " ++ Bytes.toLossy key ++
        " not found in type " ++ name)
  modify fun r => { r with merged := guard }
  match mergeNode with
  | some m => return (true, ← merge fuel (.record name fields) entries m (.record values))
  | none => return (true, .record values)

/-- Brings the pairs of the mapping or mappings under a merge key into a value, under the keys
the mapping with the merge key does not set itself. -/
def merge : Nat → Schema → List (Node × Node) → Node → Datum → Dec ε Datum
  | 0, _, _, _, _ => stop "document contains excessive aliasing"
  | fuel + 1, s, entries, m, cur => do
  let saved := (← get).merged
  if saved.isNone then
    let mut keys : List Bytes := []
    for (k, _) in entries do
      match ← keyText doc k with
      | some t => keys := t :: keys
      | none => pure ()
    modify fun r => { r with merged := some keys }
  let wantMap : Dec ε Datum := stop "map merge requires map or sequence of maps as the value"
  let isMapping : Node → Bool := fun
    | .mapping .. => true
    | .alias _ _ target _ =>
      match doc.anchored[target]? with
      | some (.mapping ..) => true
      | _ => false
    | _ => false
  let out ← match m with
    | .mapping .. => do pure (← node fuel s m cur).2
    | .alias .. => do
      if !isMapping m then wantMap
      else pure (← node fuel s m cur).2
    | .sequence _ _ items => do
      let mut acc := cur
      for i in items do
        if !isMapping i then
          acc ← wantMap
        else
          acc := (← node fuel s i acc).2
      pure acc
    | _ => wantMap
  modify fun r => { r with merged := saved }
  return out

end

end

end Dec

inductive DecodeError (ε : Type) where
  | malformed (p : Problem)
  | mismatched (lines : List String)
  | custom (e : ε)
  deriving Repr

def mismatchMessage (lines : List String) : String :=
  "yaml: unmarshal errors:\n  " ++ String.intercalate "\n  " lines

/-- Reads the first document of a YAML text into a value of a shape, starting from `start`.
A text with no document leaves the value as it was. -/
def decode {ε : Type} (read : String → Node → Except ε Datum) (s : Schema) (start : Datum)
    (text : String) : Except (DecodeError ε) Datum :=
  match Document.read text with
  | .error p => .error (.malformed p)
  | .ok none => .ok start
  | .ok (some doc) =>
    let fuel := 128 * (text.length + 16)
    match (Dec.node doc read fuel s doc.root start).run {} with
    | .error (.problem p) => .error (.malformed p)
    | .error (.custom e) => .error (.custom e)
    | .ok ((_, d), r) =>
      if r.mismatches.isEmpty then .ok d else .error (.mismatched r.mismatches.toList)

/-- A decoder of YAML text into values of a shape, as `decode` is one: the first document read
from a starting value, with the caller's reader for the nodes of its own kind. -/
abbrev Decoder (ε : Type) :=
  (String → Node → Except ε Datum) → Schema → Datum → String → Except (DecodeError ε) Datum

end Yaml

end RegisterMap

import RegisterMap.Text.Blank

/-!
Macro definitions: a line `#define NAME VALUE ...` of at least three words. A macro's role
comes from the suffix of its name, `_OFFSET`, `_POS` or `_LEN`, checked in that order and
dropped from the name.
-/

namespace RegisterMap

structure Define where
  name : Bytes
  value : Bytes
  deriving DecidableEq, Repr

namespace Define

def keyword : Bytes := Bytes.ofString "#define"

def isCommentMark (b : UInt8) : Bool := b == 47 || b == 42

def ofLine? (line : Bytes) : Option Define :=
  match (words (decode line)).map encode with
  | w :: name :: value :: _ =>
    if w = keyword then some ⟨name, Bytes.trimRight isCommentMark value⟩ else none
  | _ => none

end Define

inductive Role where
  | offset
  | position
  | length
  | other
  deriving DecidableEq, Repr, Inhabited

namespace Role

def suffixes : List (String × Role) :=
  [("_OFFSET", .offset), ("_POS", .position), ("_LEN", .length)]

def ofName (name : Bytes) : Role × Bytes :=
  go suffixes
where
  go : List (String × Role) → Role × Bytes
    | [] => (.other, name)
    | (s, r) :: rest =>
      match Bytes.dropSuffix? (Bytes.ofString s) name with
      | some base => (r, base)
      | none => go rest

def word : Role → String
  | .offset => "offset"
  | .position => "position"
  | .length => "length"
  | .other => "other"

end Role

end RegisterMap

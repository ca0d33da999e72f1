import RegisterMap.Yaml.Token
import RegisterMap.Text.Numeral

/-!
What a plain scalar stands for: null, a Boolean, an integer (decimal, after `0x`, `0o` or `0b`,
or octal after a leading `0`), a float, a date, or else a string. A tag asks for one of these
kinds; quoted and block scalars are strings.
-/

namespace RegisterMap

namespace Yaml

def typePrefix : String := "tag:yaml.org,2002:"

def shortTag (t : String) : String :=
  if t.startsWith typePrefix then "!!" ++ String.ofList (t.toList.drop typePrefix.length) else t

def strTag : String := "!!str"
def seqTag : String := "!!seq"
def mapTag : String := "!!map"
def nullTag : String := "!!null"
def boolTag : String := "!!bool"
def intTag : String := "!!int"
def floatTag : String := "!!float"
def timestampTag : String := "!!timestamp"
def binaryTag : String := "!!binary"
def mergeTag : String := "!!merge"

inductive Value where
  | null
  | bool (b : Bool)
  | int (i : Int)
  | uint (n : Nat)
  | float (f : Float)
  | str (s : String)
  | timestamp
  deriving Repr, Inhabited

def digitsIn (base : Nat) (cs : List Char) : Option Nat :=
  if cs.isEmpty then none
  else cs.foldl (fun acc c => acc.bind fun v =>
    let d := if isDigit c then c.toNat - 48
      else if 'a' ≤ c && c ≤ 'z' then c.toNat - 87
      else if 'A' ≤ c && c ≤ 'Z' then c.toNat - 55 else 99
    if d < base then some (v * base + d) else none) (some 0)

/-- An integer read in a base as a number reader reads it: a signed 64-bit value if it fits,
else an unsigned one. -/
def integerIn (base : Nat) (s : String) : Option Value :=
  match Text.signedIn base (Bytes.ofString s) with
  | .ok i => some (.int i)
  | .error _ =>
    match Text.unsignedIn base (Bytes.ofString s) with
    | .ok n => some (.uint n)
    | .error _ => none

def signedIn (base : Nat) (s : String) : Option Value :=
  match Text.signedIn base (Bytes.ofString s) with
  | .ok i => some (.int i)
  | .error _ => none

/-- The parts of a decimal float: digits with a point or an exponent, as mantissa and power
of ten; a sign is allowed when `signed`. -/
def decimalParts (signed : Bool) (cs : List Char) : Option (Bool × Nat × Int) :=
  let (neg, cs) := match cs with
    | '-' :: r => (signed, if signed then r else cs)
    | '+' :: r => (false, if signed then r else cs)
    | _ => (false, cs)
  let intPart := cs.takeWhile isDigit
  let rest := cs.drop intPart.length
  let (frac, rest, hasPoint) := match rest with
    | '.' :: r => (r.takeWhile isDigit, r.drop (r.takeWhile isDigit).length, true)
    | _ => ([], rest, false)
  if intPart.isEmpty && (frac.isEmpty || !hasPoint) then none
  else
    let expo : Option Int := match rest with
      | [] => some 0
      | e :: r =>
        if e == 'e' || e == 'E' then
          let (eneg, ds) := match r with
            | '-' :: d => (true, d)
            | '+' :: d => (false, d)
            | d => (false, d)
          match digitsIn 10 ds with
          | some v => some (if eneg then -(v : Int) else v)
          | none => none
        else none
    match expo, digitsIn 10 (intPart ++ frac) with
    | some x, some m => some (neg, m, x - frac.length)
    | _, _ => none

def decimalFloat (parts : Bool × Nat × Int) : Option Float :=
  let (neg, m, x) := parts
  let f := if 0 ≤ x then Float.ofScientific m false x.toNat else Float.ofScientific m true (-x).toNat
  if f.isInf then none else some (if neg then -f else f)

/-- Whether text has the shape of a YAML float: an optional sign, digits with an optional
point and fraction or a point and digits, and an optional exponent. -/
def isFloatShaped (cs : List Char) : Bool :=
  let cs := match cs with
    | '-' :: r => r
    | '+' :: r => r
    | _ => cs
  let intPart := cs.takeWhile isDigit
  let rest := cs.drop intPart.length
  let rest := match rest with
    | '.' :: r => if intPart.isEmpty && (r.takeWhile isDigit).isEmpty then ['x'] else r.drop (r.takeWhile isDigit).length
    | r => if intPart.isEmpty then ['x'] else r
  match rest with
  | [] => true
  | e :: r =>
    (e == 'e' || e == 'E') &&
      let ds := match r with
        | '-' :: d => d
        | '+' :: d => d
        | d => d
      !ds.isEmpty && ds.all isDigit

def daysIn (year month : Nat) : Nat :=
  if month == 2 then
    if (year % 4 == 0 && year % 100 != 0) || year % 400 == 0 then 29 else 28
  else if month == 4 || month == 6 || month == 9 || month == 11 then 30 else 31

def shortNumber (cs : List Char) : Option (Nat × List Char) :=
  match cs with
  | a :: b :: r =>
    if isDigit a && isDigit b then some ((a.toNat - 48) * 10 + (b.toNat - 48), r)
    else if isDigit a then some (a.toNat - 48, b :: r) else none
  | [a] => if isDigit a then some (a.toNat - 48, []) else none
  | [] => none

def datePrefix (cs : List Char) : Option (List Char) :=
  let y := cs.take 4
  if y.length == 4 && y.all isDigit && cs.getD 4 ' ' == '-' then
    match shortNumber (cs.drop 5) with
    | some (m, '-' :: r) =>
      match shortNumber r with
      | some (d, rest) =>
        let year := (digitsIn 10 y).getD 0
        if 1 ≤ m && m ≤ 12 && 1 ≤ d && d ≤ daysIn year m then some rest else none
      | none => none
    | _ => none
  else none

def timePrefix (cs : List Char) : Option (List Char) :=
  match shortNumber cs with
  | some (h, ':' :: r) =>
    match shortNumber r with
    | some (mi, ':' :: r) =>
      match shortNumber r with
      | some (s, rest) =>
        if h < 24 && mi < 60 && s < 60 then
          match rest with
          | c :: d :: more =>
            if (c == '.' || c == ',') && isDigit d then some ((d :: more).dropWhile isDigit)
            else some rest
          | _ => some rest
        else none
      | none => none
    | _ => none
  | _ => none

/-- Whether text is a zone: `Z`, or a sign with two-digit hours and minutes, at most 24 hours
and 60 minutes. -/
def isZone (cs : List Char) : Bool :=
  match cs with
  | ['Z'] => true
  | [s, a, b, ':', c, d] =>
    (s == '+' || s == '-') && [a, b, c, d].all isDigit &&
      (a.toNat - 48) * 10 + (b.toNat - 48) ≤ 24 && (c.toNat - 48) * 10 + (d.toNat - 48) ≤ 60
  | _ => false

/-- Whether text is a date, a date with a time and zone after `T` or `t`, or a date with a
time after spaces. -/
def isTimestamp (s : String) : Bool :=
  match datePrefix s.toList with
  | some [] => true
  | some (sep :: r) =>
    if sep == 'T' || sep == 't' then
      match timePrefix r with
      | some z => isZone z
      | none => false
    else if sep == ' ' then timePrefix (r.dropWhile (· == ' ')) == some [] else false
  | none => false

def fixedWord? (s : String) : Option (String × Value) :=
  if s == "true" || s == "True" || s == "TRUE" then some (boolTag, .bool true)
  else if s == "false" || s == "False" || s == "FALSE" then some (boolTag, .bool false)
  else if s == "" || s == "~" || s == "null" || s == "Null" || s == "NULL" then some (nullTag, .null)
  else if s == ".nan" || s == ".NaN" || s == ".NAN" then some (floatTag, .float (0.0 / 0.0))
  else if s == ".inf" || s == ".Inf" || s == ".INF" || s == "+.inf" || s == "+.Inf" || s == "+.INF" then
    some (floatTag, .float (1.0 / 0.0))
  else if s == "-.inf" || s == "-.Inf" || s == "-.INF" then some (floatTag, .float (-1.0 / 0.0))
  else if s == "<<" then some (mergeTag, .str "<<")
  else none

/-- The kind of the first character of a plain scalar: a sign, a digit, a letter that may
start a fixed word, a point, or none of these. -/
def hint (s : String) : Char :=
  match s.toList with
  | [] => 'N'
  | c :: _ =>
    if c == '+' || c == '-' then 'S'
    else if isDigit c then 'D'
    else if "yYnNtTfFoO~".toList.contains c then 'M'
    else if c == '.' then '.'
    else ' '

def resolvePlain (tag s : String) : String × Value :=
  let h := hint s
  if h == ' ' || tag == strTag || tag == binaryTag then (strTag, .str s)
  else match fixedWord? s with
    | some r => r
    | none =>
      if h == '.' then
        -- a float whose underscores stand between digits
        let digits := s.toList.filter (· != '_')
        match if Text.separatorsFit (Bytes.ofString s) then decimalParts false digits >>= decimalFloat
            else none with
        | some f => (floatTag, .float f)
        | none => (strTag, .str s)
      else if h == 'D' || h == 'S' then
        if (tag == "" || tag == timestampTag) && isTimestamp s then (timestampTag, .timestamp)
        else
          let plain := String.ofList (s.toList.filter (· != '_'))
          let afterPrefix := String.ofList (plain.toList.drop 2)
          let negated := "-" ++ String.ofList (plain.toList.drop 3)
          let float := if isFloatShaped plain.toList then
              (decimalParts true plain.toList >>= decimalFloat).map Value.float
            else none
          -- a sign may follow the prefix of a binary or octal number
          let binary := if plain.startsWith "0b" then integerIn 2 afterPrefix
            else if plain.startsWith "-0b" then signedIn 2 negated else none
          let octal := if plain.startsWith "0o" then integerIn 8 afterPrefix
            else if plain.startsWith "-0o" then signedIn 8 negated else none
          match integerIn 0 plain <|> float <|> binary <|> octal with
          | some (.float f) => (floatTag, .float f)
          | some v => (intTag, v)
          | none => (strTag, .str s)
      else (strTag, .str s)

def isResolvable (tag : String) : Bool :=
  tag == "" || tag == strTag || tag == boolTag || tag == intTag || tag == floatTag ||
    tag == timestampTag || tag == nullTag

/-- The tag and value of a scalar that asks for `tag`: an integer may stand for a float, and
any text for a string; a scalar of another kind than its tag asks for cannot be read. -/
def resolve (tag s : String) : Except Problem (String × Value) :=
  let tag := shortTag tag
  if !isResolvable tag then .ok (tag, .str s)
  else
    let (rtag, v) := resolvePlain tag s
    if tag == "" || tag == rtag || tag == strTag || tag == binaryTag then .ok (rtag, v)
    else
      let refused : Except Problem (String × Value) :=
        .error (.plain ("cannot decode " ++ rtag ++ " `" ++ s ++ "` as a " ++ tag))
      if tag == floatTag && rtag == intTag then
        match v with
        | .int i => .ok (floatTag, .float (Float.ofInt i))
        | _ => refused
      else refused

end Yaml

end RegisterMap

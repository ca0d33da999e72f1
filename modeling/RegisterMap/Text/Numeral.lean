import RegisterMap.Text.Bytes

/-!
Integer numerals as the number readers of many tools read them: digits of a base from 2 to 36,
with a base prefix and `_` separators in base 0 and an optional sign. Values must fit 64 bits;
digits are read from the left, so an overflow is refused before a bad character after it.
-/

namespace RegisterMap

namespace Text

inductive NumberFault where
  | malformed
  | outOfRange
  deriving DecidableEq, Repr

def maxWord : Nat := Nat.pow 2 64 - 1

def smallLetter (c : UInt8) : UInt8 := c ||| 0x20

def digitValue (c : UInt8) : Option Nat :=
  if 48 ≤ c ∧ c ≤ 57 then some (c.toNat - 48)
  else if 97 ≤ smallLetter c ∧ smallLetter c ≤ 122 then some ((smallLetter c).toNat - 87)
  else none

/-- Reads digits of a base onto `n`, skipping underscores when `separators` allows them; fails
at the first byte that is no digit of the base, or as soon as the value passes `maxWord`.
Gives the value and whether an underscore was skipped. -/
def accumulate (base : Nat) (separators : Bool) : Bytes → Nat → Bool → Except NumberFault (Nat × Bool)
  | [], n, seen => .ok (n, seen)
  | c :: cs, n, seen =>
    if c = 95 ∧ separators then accumulate base separators cs n true
    else match digitValue c with
      | some d =>
        if d < base then
          if maxWord < n * base + d then .error .outOfRange
          else accumulate base separators cs (n * base + d) seen
        else .error .malformed
      | none => .error .malformed

/-- What came last in a walk over a number: its start, a digit or prefix, an underscore, or
anything else. -/
inductive Seen where
  | start
  | digit
  | underscore
  | other
  deriving DecidableEq, Repr

def separatorsFitFrom (hex : Bool) : Seen → Bytes → Bool
  | seen, [] => seen != .underscore
  | seen, c :: cs =>
    if (48 ≤ c ∧ c ≤ 57) ∨ (hex ∧ 97 ≤ smallLetter c ∧ smallLetter c ≤ 102) then
      separatorsFitFrom hex .digit cs
    else if c = 95 then seen == .digit && separatorsFitFrom hex .underscore cs
    else seen != .underscore && separatorsFitFrom hex .other cs

/-- Whether every underscore of a number, after its sign, stands between two digits, a base
prefix counting as a digit. -/
def separatorsFit (b : Bytes) : Bool :=
  let body := match b with
    | 43 :: r => r
    | 45 :: r => r
    | r => r
  match body with
  | 48 :: p :: r =>
    if smallLetter p = 98 ∨ smallLetter p = 111 ∨ smallLetter p = 120 then
      separatorsFitFrom (smallLetter p = 120) .digit r
    else separatorsFitFrom false .start body
  | _ => separatorsFitFrom false .start body

/-- The base of a number and its digits: a `0b`, `0o` or `0x` prefix followed by at least one
byte names base 2, 8 or 16, another leading `0` base 8, and anything else is decimal. -/
def basePrefix : Bytes → Nat × Bytes
  | 48 :: p :: r@(_ :: _) =>
    if smallLetter p = 98 then (2, r)
    else if smallLetter p = 111 then (8, r)
    else if smallLetter p = 120 then (16, r)
    else (8, p :: r)
  | 48 :: r => (8, r)
  | s => (10, s)

/-- The value of an unsigned 64-bit number in a base from 2 to 36, or, for base 0, in the base
its prefix names, with underscores between digits; or why it was refused. -/
def unsignedIn (base : Nat) (s : Bytes) : Except NumberFault Nat :=
  if s.isEmpty then .error .malformed
  else
    let (b, digits) := if base = 0 then basePrefix s else (base, s)
    match accumulate b (base = 0) digits 0 false with
    | .error f => .error f
    | .ok (n, seen) => if seen && !separatorsFit s then .error .malformed else .ok n

/-- The value of a signed 64-bit number, an optional sign before an unsigned number read as
`unsignedIn` reads it, or why it was refused. -/
def signedIn (base : Nat) (s : Bytes) : Except NumberFault Int :=
  let (neg, body) : Bool × Bytes := match s with
    | 43 :: r => (false, r)
    | 45 :: r => (true, r)
    | r => (false, r)
  if s.isEmpty then .error .malformed
  else match unsignedIn base body with
    | .error f => .error f
    | .ok n =>
      if neg then (if Nat.pow 2 63 < n then .error .outOfRange else .ok (-(n : Int)))
      else if Nat.pow 2 63 ≤ n then .error .outOfRange else .ok n

end Text

end RegisterMap

import RegisterMap.Text.Quoted
import RegisterMap.Text.Numeral

/-!
The values of command-line flags, read from their text: booleans, 64-bit integers with base
prefixes, and durations with units from `ns` to `h`. A refused text gives the message of its
reader, which quotes the text.
-/

namespace RegisterMap

namespace Cli

open Text

structure NumberError where
  reader : String
  text : String
  fault : NumberFault
  deriving DecidableEq, Repr

def NumberError.message (e : NumberError) : String :=
  "strconv." ++ e.reader ++ ": parsing " ++ Bytes.quote (Bytes.ofString e.text) ++ ": " ++
    match e.fault with
    | .malformed => "invalid syntax"
    | .outOfRange => "value out of range"

def readUnsigned (text : String) : Except NumberError Nat :=
  (unsignedIn 0 (Bytes.ofString text)).mapError (NumberError.mk "ParseUint" text)

def readSigned (text : String) : Except NumberError Int :=
  (signedIn 0 (Bytes.ofString text)).mapError (NumberError.mk "ParseInt" text)

def readBool (text : String) : Except NumberError Bool :=
  if ["1", "t", "T", "TRUE", "true", "True"].contains text then .ok true
  else if ["0", "f", "F", "FALSE", "false", "False"].contains text then .ok false
  else .error ⟨"ParseBool", text, .malformed⟩

inductive DurationError where
  | malformed (text : String)
  | missingUnit (text : String)
  | unknownUnit (unit text : String)
  deriving DecidableEq, Repr

/-- Text between double quotes as duration messages write it: a byte below a space or above
`~` as `\x` and two hexadecimal digits, a quote or backslash after a backslash. -/
def durationQuote (s : String) : String :=
  let byte := fun (b : UInt8) =>
    if b < 0x20 ∨ 0x80 ≤ b then '\\' :: 'x' :: Text.hexFixed 2 b.toNat
    else if b = 34 ∨ b = 92 then ['\\', Char.ofNat b.toNat]
    else [Char.ofNat b.toNat]
  String.ofList ('"' :: (Bytes.ofString s).flatMap byte ++ ['"'])

def DurationError.message : DurationError → String
  | .malformed t => "time: invalid duration " ++ durationQuote t
  | .missingUnit t => "time: missing unit in duration " ++ durationQuote t
  | .unknownUnit u t => "time: unknown unit " ++ durationQuote u ++ " in duration " ++ durationQuote t

def unitNanos (u : String) : Option Nat :=
  match u with
  | "ns" => some 1
  | "us" => some 1000
  | "µs" => some 1000
  | "μs" => some 1000
  | "ms" => some 1000000
  | "s" => some 1000000000
  | "m" => some 60000000000
  | "h" => some 3600000000000
  | _ => none

def isDigitByte (c : UInt8) : Bool := 48 ≤ c && c ≤ 57

/-- The leading decimal digits of a duration term, with what follows them; none when the value
passes 2^63. -/
def leadingInt : Bytes → Nat → Option (Nat × Bytes)
  | [], x => some (x, [])
  | c :: cs, x =>
    if isDigitByte c then
      if Nat.pow 2 63 / 10 < x ∨ Nat.pow 2 63 < x * 10 + (c.toNat - 48) then none
      else leadingInt cs (x * 10 + (c.toNat - 48))
    else some (x, c :: cs)

/-- The digits after the point of a duration term: their value and its scale, a power of ten;
digits that would make the value pass 2^63 - 1 are read over and dropped. -/
def leadingFraction : Bytes → Nat → Float → Bool → Nat × Float × Bytes
  | [], x, scale, _ => (x, scale, [])
  | c :: cs, x, scale, overflowed =>
    if isDigitByte c then
      if overflowed ∨ (Nat.pow 2 63 - 1) / 10 < x ∨ Nat.pow 2 63 < x * 10 + (c.toNat - 48) then
        leadingFraction cs x scale true
      else leadingFraction cs (x * 10 + (c.toNat - 48)) (scale * 10) overflowed
    else (x, scale, c :: cs)

/-- Reads the terms of a duration onto a total of nanoseconds. Every term consumes at least
one byte, so `fuel` at least the length of the text suffices. -/
def durationTerms (orig : String) : Nat → Bytes → Nat → Except DurationError Nat
  | _, [], total => .ok total
  | 0, _ :: _, _ => .error (.malformed orig)
  | fuel + 1, s@(c :: _), total => do
    if !(c == 46 || isDigitByte c) then throw (.malformed orig)
    let some (v, rest) := leadingInt s 0 | throw (.malformed orig)
    let pre := rest.length != s.length
    let (f, scale, rest, post) := match rest with
      | 46 :: r => let (f, scale, r') := leadingFraction r 0 1 false; (f, scale, r', r'.length != r.length)
      | r => (0, 1, r, false)
    if !pre && !post then throw (.malformed orig)
    let unit := rest.takeWhile fun b => !(b == 46 || isDigitByte b)
    let rest := rest.drop unit.length
    if unit.isEmpty then throw (.missingUnit orig)
    let unitText := Bytes.toLossy unit
    let some n := unitNanos unitText | throw (.unknownUnit unitText orig)
    if Nat.pow 2 63 / n < v then throw (.malformed orig)
    let v := v * n + (if 0 < f then (Float.ofNat f * (Float.ofNat n / scale)).toUInt64.toNat else 0)
    if Nat.pow 2 63 < v then throw (.malformed orig)
    if Nat.pow 2 63 < total + v then throw (.malformed orig)
    durationTerms orig fuel rest (total + v)

def readDuration (text : String) : Except DurationError Int := do
  let (neg, body) : Bool × Bytes := match Bytes.ofString text with
    | 43 :: r => (false, r)
    | 45 :: r => (true, r)
    | r => (false, r)
  if body = [48] then return 0
  if body.isEmpty then throw (.malformed text)
  let total ← durationTerms text body.length body 0
  if neg then return -(total : Int)
  if Nat.pow 2 63 - 1 < total then throw (.malformed text)
  return total

end Cli

end RegisterMap

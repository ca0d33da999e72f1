import RegisterMap.Text.Case

/-!
Lower case of text as a streaming case mapper computes it, through a window of 128 bytes into an
output buffer of fixed size. Each pass starts outside a word, so where a window or the buffer
ends within a word, a capital sigma at the restart becomes `σ`. A window is read in pieces: a
character, stray bytes copied as they are, or a character cut by the end of the window.
-/

namespace RegisterMap

namespace Text

/-- What a window holds at its front: a piece of bytes with its character if they encode one,
or a character cut by the end of the window. -/
inductive Piece where
  | whole (bytes : Bytes) (c : Option Char)
  | cut
  deriving DecidableEq, Repr

def announced (b : UInt8) : Nat :=
  if b < 0xC2 then 1 else if b < 0xE0 then 2 else if b < 0xF0 then 3 else if b < 0xF8 then 4
  else 1

/-- The piece at the front of a window; at the end of the input a cut character is read as
its first byte alone. -/
def pieceAt (atEnd : Bool) : Bytes → Option Piece
  | [] => none
  | b :: rest =>
    if b < 0x80 then some (.whole [b] (some (Char.ofNat b.toNat)))
    else
      let need := announced b
      if need = 1 then some (.whole [b] none)
      else if rest.length + 1 < need then some (if atEnd then .whole [b] none else .cut)
      else
        let tail := (rest.take (need - 1)).takeWhile Glyph.isTrailing
        if tail.length + 1 < need then some (.whole (b :: tail) none)
        else some (.whole (b :: tail) ((Glyph.multi? b rest).map (·.1)))

def Piece.cased : Option Char → Bool
  | some c => (Glyph.char c).isCased
  | none => false

def Piece.ignorable : Option Char → Bool
  | some c => (Glyph.char c).isIgnorable
  | none => false

def Piece.lowered (bytes : Bytes) : Option Char → Bytes
  | some c => encode ((Glyph.char c).lower)
  | none => bytes

inductive PassEnd where
  | done
  | short
  | full
  deriving DecidableEq, Repr

/-- What a pass gives: the output up to the last point where it may stop, the number of
window bytes mapped to it, and why it stopped. -/
structure Pass where
  out : Bytes
  used : Nat
  stop : PassEnd
  deriving Repr

def sigmaBytes (cased : Bool) : Bytes := if cased then [0xCF, 0x83] else [0xCF, 0x82]

def capitalSigmaBytes : Bytes := [0xCE, 0xA3]

/-- Where a pass stands: reading pieces, inside a word or not, or looking past case-ignorable
pieces after a capital sigma inside a word. There `ignored` holds the bytes looked past, last
byte first, `ignoredLen` their number, and `left` how many more pieces may be looked past. -/
inductive Stage where
  | reading (inWord : Bool)
  | afterSigma (ignored : Bytes) (ignoredLen : Nat) (left : Nat)
  deriving DecidableEq, Repr

/-- A pass over a window of `total` bytes with room for `room` output bytes. `out` holds what
was written, last byte first, and `used` the window bytes mapped to it; `rest` is what remains
of the window. After a capital sigma the sigma sits at window byte `used`, and `rest` starts
after the pieces looked past. -/
def passFrom (room : Nat) (atEnd : Bool) (total : Nat) :
    Nat → Stage → (out : Bytes) → (used : Nat) → (rest : Bytes) → Pass
  | 0, _, out, used, _ => { out := out.reverse, used, stop := .done }
  | fuel + 1, .reading inWord, out, used, rest =>
    let emit := fun (bytes : Bytes) (word : Bool) (n : Nat) =>
      if out.length + bytes.length ≤ room then
        passFrom room atEnd total fuel (.reading word) (bytes.reverse ++ out) (used + n)
          (rest.drop n)
      else { out := out.reverse, used, stop := .full }
    match pieceAt atEnd rest with
    | none => { out := out.reverse, used, stop := .done }
    | some .cut => { out := out.reverse, used, stop := .short }
    | some (.whole bytes c) =>
      if !inWord then
        if Piece.cased c then emit (Piece.lowered bytes c) true bytes.length
        else emit bytes false bytes.length
      else if !Piece.cased c && !Piece.ignorable c then emit bytes false bytes.length
      else if bytes ≠ capitalSigmaBytes then emit (Piece.lowered bytes c) true bytes.length
      else if out.length + 2 > room then { out := out.reverse, used, stop := .full }
      else passFrom room atEnd total fuel (.afterSigma [] 0 maxIgnorable) out used (rest.drop 2)
  | fuel + 1, .afterSigma ignored ignoredLen left, out, used, rest =>
    let before := { out := out.reverse, used, stop := PassEnd.short : Pass }
    match pieceAt atEnd rest with
    | none =>
      if atEnd then
        { out := (ignored ++ (sigmaBytes false).reverse ++ out).reverse, used := total,
          stop := .done }
      else before
    | some .cut => before
    | some (.whole bytes c) =>
      if !Piece.ignorable c then
        passFrom room atEnd total fuel (.reading true)
          (ignored ++ (sigmaBytes (Piece.cased c)).reverse ++ out) (used + 2 + ignoredLen) rest
      else if out.length + 2 + ignoredLen + bytes.length > room then { before with stop := .full }
      else match left with
        | 0 =>
          passFrom room atEnd total fuel (.reading true)
            (bytes.reverse ++ ignored ++ (sigmaBytes false).reverse ++ out)
            (used + 2 + ignoredLen + bytes.length) (rest.drop bytes.length)
        | left + 1 =>
          passFrom room atEnd total fuel (.afterSigma (bytes.reverse ++ ignored)
            (ignoredLen + bytes.length) left) out used (rest.drop bytes.length)

/-- A pass over a window with room for `room` output bytes, `atEnd` when the input ends with
the window. -/
def pass (room : Nat) (atEnd : Bool) (window : Bytes) : Pass :=
  passFrom room atEnd window.length (2 * window.length + 2) (.reading false) [] 0 window

def initialBuffer : Nat := 128

def grow (size : Nat) : Nat :=
  if size ≤ 32 then 64 else if size ≤ 256 then 2 * size else size + size / 2

/-- The passes after the first one that changed its window: `out` is the output so far, `size`
the size of the output buffer and `window` that of the input window. -/
def lowerRest (s : Bytes) : Nat → (out : Bytes) → (size window : Nat) → (read : Nat) → Bytes
  | 0, out, _, _, _ => out
  | fuel + 1, out, size, window, read =>
    let w := (s.drop read).take window
    let atEnd := read + w.length == s.length
    let p := pass (size - out.length) atEnd w
    let out := out ++ p.out
    let read := read + p.used
    match p.stop with
    | .done => if read == s.length then out else lowerRest s fuel out size window read
    | .full =>
      lowerRest s fuel out (if p.out.isEmpty then grow size else size) window read
    | .short =>
      if atEnd then out
      else lowerRest s fuel out size (if p.used == 0 then grow window else window) read

def lowerSame (s : Bytes) : Nat → (read : Nat) → Bytes
  | 0, _ => s
  | fuel + 1, read =>
    let w := (s.drop read).take initialBuffer
    let p := pass initialBuffer (read + w.length == s.length) w
    if p.used == 0 || p.out != w.take p.used then
      let size := if read + p.out.length ≤ initialBuffer then initialBuffer
        else s.length + p.out.length - p.used
      lowerRest s (4 * s.length + 64) (s.take read ++ p.out) size initialBuffer (read + p.used)
    else if read + p.used == s.length then s
    else lowerSame s fuel (read + p.used)

def lowerStream (s : Bytes) : Bytes :=
  if s.isEmpty then [] else lowerSame s (s.length + 1) 0

end Text

end RegisterMap

/-!
Raw text. Header files are read as bytes that need not be valid UTF-8, so the names and
values taken from them, and the definitions written from those, are lists of bytes. This
module holds the byte-level operations: trimming, prefixes and suffixes, splitting, and
decimal and hexadecimal numerals.
-/

namespace RegisterMap

abbrev Bytes := List UInt8

namespace Bytes

def ofString (s : String) : Bytes := s.toList.flatMap String.utf8EncodeChar

def trimLeft (p : UInt8 → Bool) (b : Bytes) : Bytes := b.dropWhile p

def trimRight (p : UInt8 → Bool) (b : Bytes) : Bytes := (b.reverse.dropWhile p).reverse

def trim (p : UInt8 → Bool) (b : Bytes) : Bytes := trimRight p (trimLeft p b)

def dropPrefix? : Bytes → Bytes → Option Bytes
  | [], b => some b
  | _ :: _, [] => none
  | p :: ps, x :: xs => if p = x then dropPrefix? ps xs else none

def dropSuffix? (suf b : Bytes) : Option Bytes :=
  (dropPrefix? suf.reverse b.reverse).map List.reverse

def splitStep (sep x : UInt8) (acc : List Bytes) : List Bytes :=
  if x = sep then [] :: acc
  else match acc with
    | [] => [[x]]
    | p :: ps => (x :: p) :: ps

def splitOn (sep : UInt8) (b : Bytes) : List Bytes := b.foldr (splitStep sep) [[]]

def intercalate (sep : Bytes) : List Bytes → Bytes
  | [] => []
  | [b] => b
  | b :: bs => b ++ sep ++ intercalate sep bs

def decimal (n : Nat) : Bytes := ofString (Nat.repr n)

def hexDigit (upper : Bool) (d : Nat) : UInt8 :=
  if d < 10 then (48 + d).toUInt8
  else if upper then (55 + d).toUInt8 else (87 + d).toUInt8

def hexDigits (upper : Bool) (n : Nat) : Bytes :=
  if n < 16 then [hexDigit upper n] else hexDigits upper (n / 16) ++ [hexDigit upper (n % 16)]
termination_by n
decreasing_by omega

def padLeft (width : Nat) (fill : UInt8) (b : Bytes) : Bytes :=
  List.replicate (width - b.length) fill ++ b

def lt : Bytes → Bytes → Bool
  | [], [] => false
  | [], _ :: _ => true
  | _ :: _, [] => false
  | a :: as, b :: bs => a < b || (a == b && lt as bs)

theorem dropPrefix?_append (pre rest : Bytes) : dropPrefix? pre (pre ++ rest) = some rest := by
  induction pre with
  | nil => rfl
  | cons p ps ih => simp [dropPrefix?, ih]

theorem eq_append_of_dropPrefix? {pre b rest : Bytes} (h : dropPrefix? pre b = some rest) :
    b = pre ++ rest := by
  induction pre generalizing b with
  | nil => simp_all [dropPrefix?]
  | cons p ps ih =>
    cases b with
    | nil => simp [dropPrefix?] at h
    | cons x xs =>
      simp only [dropPrefix?] at h
      split at h
      · subst_vars; simp [ih h]
      · simp at h

theorem dropPrefix?_eq_some_iff {pre b rest : Bytes} :
    dropPrefix? pre b = some rest ↔ b = pre ++ rest :=
  ⟨eq_append_of_dropPrefix?, fun h => h ▸ dropPrefix?_append pre rest⟩

end Bytes

end RegisterMap

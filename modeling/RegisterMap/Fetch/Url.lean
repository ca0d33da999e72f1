import RegisterMap.Text.Quoted

/-!
URLs as a web client reads and writes them: fragment, scheme, query, authority and path, with
percent escapes decoded where they may stand and refused where a host cannot hold them. Writing
a URL puts the escapes back, keeping path and fragment as written when they read back the same.
-/

namespace RegisterMap

/-- A URL, read into its parts. A URL with a scheme and a path that does not start with `/`
keeps that path as it is, in `rootless`. -/
structure Url where
  scheme : Bytes := []
  rootless : Bytes := []
  user : Option (Bytes × Option Bytes) := none
  host : Bytes := []
  path : Bytes := []
  rawPath : Bytes := []
  omitHost : Bool := false
  forceQuery : Bool := false
  rawQuery : Bytes := []
  fragment : Bytes := []
  rawFragment : Bytes := []
  deriving DecidableEq, Repr

namespace Url

inductive Part where
  | host
  | zone
  | path
  | userPassword
  | fragment
  deriving DecidableEq, Repr

inductive Error where
  | controlCharacter
  | missingScheme
  | colonInFirstSegment
  | missingBracket
  | badPort (port : Bytes)
  | badEscape (text : Bytes)
  | badHostCharacter (c : Bytes)
  | badUserinfo
  deriving DecidableEq, Repr

def Error.message : Error → String
  | .controlCharacter => "net/url: invalid control character in URL"
  | .missingScheme => "missing protocol scheme"
  | .colonInFirstSegment => "first path segment in URL cannot contain colon"
  | .missingBracket => "missing ']' in host"
  | .badPort p => "invalid port " ++ Bytes.quote p ++ " after host"
  | .badEscape t => "invalid URL escape " ++ Bytes.quote t
  | .badHostCharacter c => "invalid character " ++ Bytes.quote c ++ " in host name"
  | .badUserinfo => "net/url: invalid userinfo"

def byte (c : Char) : UInt8 := c.toNat.toUInt8

def oneOf (s : String) (b : UInt8) : Bool := s.toList.any fun c => byte c == b

def isAlnum (b : UInt8) : Bool :=
  (65 ≤ b && b ≤ 90) || (97 ≤ b && b ≤ 122) || (48 ≤ b && b ≤ 57)

def isHex (b : UInt8) : Bool := (48 ≤ b && b ≤ 57) || (65 ≤ b && b ≤ 70) || (97 ≤ b && b ≤ 102)

def hexValue (b : UInt8) : Nat :=
  if 48 ≤ b && b ≤ 57 then (b - 48).toNat
  else if 97 ≤ b && b ≤ 102 then (b - 87).toNat
  else (b - 55).toNat

def needsEscape (b : UInt8) (part : Part) : Bool :=
  if isAlnum b then false
  else if (part == .host || part == .zone) && oneOf "!$&'()*+,;=:[]<>\"" b then false
  else if oneOf "-_.~" b then false
  else if oneOf "$&+,/:;=?@" b then
    match part with
    | .path => b == byte '?'
    | .userPassword => b == byte '@' || b == byte '/' || b == byte '?' || b == byte ':'
    | .fragment => false
    | _ => true
  else if part == .fragment && oneOf "!()*" b then false
  else true

def unescape (part : Part) : Bytes → Except Error Bytes
  | [] => .ok []
  | 37 :: rest =>
    match rest with
    | h :: l :: more =>
      if !(isHex h && isHex l) then .error (.badEscape (37 :: (rest.take 2)))
      else
        let v := hexValue h * 16 + hexValue l
        let three : Bytes := [37, h, l]
        if part == .host && hexValue h < 8 && three != Bytes.ofString "%25" then
          .error (.badEscape three)
        else if part == .zone && three != Bytes.ofString "%25" && v != 32 &&
            needsEscape v.toUInt8 .host then
          .error (.badEscape three)
        else (unescape part more).map (v.toUInt8 :: ·)
    | _ => .error (.badEscape (37 :: rest.take 2))
  | b :: rest =>
    if (part == .host || part == .zone) && b < 128 && needsEscape b part then
      .error (.badHostCharacter [b])
    else (unescape part rest).map (b :: ·)

def hexUpper (n : Nat) : UInt8 := if n < 10 then (48 + n).toUInt8 else (55 + n).toUInt8

def escape (part : Part) (s : Bytes) : Bytes :=
  s.flatMap fun b =>
    if needsEscape b part then [37, hexUpper (b.toNat / 16), hexUpper (b.toNat % 16)] else [b]

def validEncoded (part : Part) (s : Bytes) : Bool :=
  s.all fun b => oneOf "!$&'()*+,;=:@[]%" b || !needsEscape b part

def validOptionalPort : Bytes → Bool
  | [] => true
  | 58 :: ds => ds.all fun d => 48 ≤ d && d ≤ 57
  | _ => false

def lastIndex (b : UInt8) (s : Bytes) : Option Nat :=
  (s.zipIdx.filter (·.1 == b)).getLast?.map (·.2)

def firstIndex (b : UInt8) (s : Bytes) : Option Nat := s.findIdx? (· == b)

def cut (b : UInt8) (s : Bytes) : Bytes × Option Bytes :=
  match firstIndex b s with
  | some i => (s.take i, some (s.drop (i + 1)))
  | none => (s, none)

def occursAt (sub s : Bytes) (i : Nat) : Bool := (s.drop i).take sub.length == sub

def find? (sub s : Bytes) : Option Nat := (List.range (s.length + 1)).find? (occursAt sub s)

def parseHost (host : Bytes) : Except Error Bytes :=
  match host with
  | 91 :: _ =>
    match lastIndex 93 host with
    | none => .error .missingBracket
    | some i =>
      let colonPort := host.drop (i + 1)
      if !validOptionalPort colonPort then .error (.badPort colonPort)
      else
        match find? (Bytes.ofString "%25") (host.take i) with
        | some z => do
          let a ← unescape .host (host.take z)
          let b ← unescape .zone ((host.take i).drop z)
          let c ← unescape .host (host.drop i)
          return a ++ b ++ c
        | none => unescape .host host
  | _ =>
    match lastIndex 58 host with
    | some i =>
      let colonPort := host.drop i
      if !validOptionalPort colonPort then .error (.badPort colonPort) else unescape .host host
    | none => unescape .host host

def validUserinfo (s : String) : Bool :=
  s.toList.all fun c =>
    ('A' ≤ c && c ≤ 'Z') || ('a' ≤ c && c ≤ 'z') || ('0' ≤ c && c ≤ '9') ||
      "-._:~!$&'()*+,;=%@".toList.contains c

def parseAuthority (authority : Bytes) : Except Error (Option (Bytes × Option Bytes) × Bytes) :=
  match lastIndex 64 authority with
  | none => do return (none, ← parseHost authority)
  | some i => do
    let host ← parseHost (authority.drop (i + 1))
    let info := authority.take i
    if !validUserinfo (Bytes.toLossy info) then throw .badUserinfo
    match cut 58 info with
    | (name, none) => return (some (← unescape .userPassword name, none), host)
    | (name, some pw) =>
      return (some (← unescape .userPassword name, some (← unescape .userPassword pw)), host)

def schemeSplit (s : Bytes) : Except Error (Bytes × Bytes) :=
  let rec go (i : Nat) : Bytes → Except Error (Bytes × Bytes)
    | [] => .ok ([], s)
    | b :: rest =>
      if (65 ≤ b && b ≤ 90) || (97 ≤ b && b ≤ 122) then go (i + 1) rest
      else if isAlnum b || b == byte '+' || b == byte '-' || b == byte '.' then
        if i == 0 then .ok ([], s) else go (i + 1) rest
      else if b == 58 then
        if i == 0 then .error .missingScheme else .ok (s.take i, rest)
      else .ok ([], s)
  go 0 s

def lowerAscii (s : Bytes) : Bytes := s.map fun b => if 65 ≤ b && b ≤ 90 then b + 32 else b

def withPath (u : Url) (p : Bytes) : Except Error Url := do
  let path ← unescape .path p
  return { u with path, rawPath := if escape .path path == p then [] else p }

def parseMain (raw : Bytes) : Except Error Url := do
  if raw.any (fun b => b < 32 || b == 127) then throw .controlCharacter
  if raw == [byte '*'] then return { path := raw }
  let (scheme, rest) ← schemeSplit raw
  let scheme := lowerAscii scheme
  let (rest, forceQuery, rawQuery) :=
    if rest.getLast? == some 63 && rest.count 63 == 1 then (rest.dropLast, true, [])
    else match cut 63 rest with
      | (r, some q) => (r, false, q)
      | (r, none) => (r, false, [])
  let u : Url := { scheme, forceQuery, rawQuery }
  if rest.head? != some 47 then
    if !scheme.isEmpty then return { u with rootless := rest }
    if (cut 47 rest).1.contains 58 then throw .colonInFirstSegment
  if (!scheme.isEmpty || !occursAt (Bytes.ofString "///") rest 0) &&
      occursAt (Bytes.ofString "//") rest 0 then
    let afterSlashes := rest.drop 2
    let (authority, rest) := match firstIndex 47 afterSlashes with
      | some i => (afterSlashes.take i, afterSlashes.drop i)
      | none => (afterSlashes, [])
    let (user, host) ← parseAuthority authority
    withPath { u with user, host } rest
  else if !scheme.isEmpty && rest.head? == some 47 then withPath { u with omitHost := true } rest
  else withPath u rest

/-- Reads a URL. A failure names the text that could not be read: the URL without its
fragment, or the whole URL when the fragment is at fault. -/
def parse (raw : Bytes) : Except (Bytes × Error) Url :=
  let (main, frag) := cut 35 raw
  match parseMain main with
  | .error e => .error (main, e)
  | .ok u =>
    match frag with
    | none => .ok u
    | some [] => .ok u
    | some f =>
      match unescape .fragment f with
      | .error e => .error (raw, e)
      | .ok fragment =>
        .ok { u with fragment, rawFragment := if escape .fragment fragment == f then [] else f }

def escapedPath (u : Url) : Bytes :=
  let fromRaw :=
    if !u.rawPath.isEmpty && validEncoded .path u.rawPath then
      match unescape .path u.rawPath with
      | .ok p => if p == u.path then some u.rawPath else none
      | .error _ => none
    else none
  match fromRaw with
  | some p => p
  | none => if u.path == [byte '*'] then u.path else escape .path u.path

def escapedFragment (u : Url) : Bytes :=
  let fromRaw :=
    if !u.rawFragment.isEmpty && validEncoded .fragment u.rawFragment then
      match unescape .fragment u.rawFragment with
      | .ok f => if f == u.fragment then some u.rawFragment else none
      | .error _ => none
    else none
  fromRaw.getD (escape .fragment u.fragment)

def userText : Bytes × Option Bytes → Bytes
  | (name, none) => escape .userPassword name
  | (name, some pw) => escape .userPassword name ++ [58] ++ escape .userPassword pw

def query (u : Url) : Bytes := if u.forceQuery || !u.rawQuery.isEmpty then 63 :: u.rawQuery else []

def fragmentText (u : Url) : Bytes := if u.fragment.isEmpty then [] else 35 :: u.escapedFragment

def render (u : Url) : Bytes :=
  let head := if u.scheme.isEmpty then [] else u.scheme ++ [58]
  if !u.rootless.isEmpty then
    head ++ u.rootless ++ u.query ++ u.fragmentText
  else
    let auth :=
      if !u.scheme.isEmpty || !u.host.isEmpty || u.user.isSome then
        if u.omitHost && u.host.isEmpty && u.user.isNone then []
        else
          (if !u.host.isEmpty || !u.path.isEmpty || u.user.isSome then Bytes.ofString "//" else []) ++
            (match u.user with | some ui => userText ui ++ [64] | none => []) ++
            escape .host u.host
      else []
    let path := u.escapedPath
    let slash := if !path.isEmpty && path.head? != some 47 && !u.host.isEmpty then [47] else []
    let soFar := head ++ auth ++ slash
    let dot :=
      if soFar.isEmpty && (cut 47 path).1.contains 58 then Bytes.ofString "./" else []
    soFar ++ dot ++ path ++ u.query ++ u.fragmentText

def replaceFirst (old new s : Bytes) : Bytes :=
  match find? old s with
  | some i => s.take i ++ new ++ s.drop (i + old.length)
  | none => s

def redacted (u : Url) : Bytes :=
  match u.user with
  | some (name, some pw) =>
    replaceFirst (userText (name, some pw) ++ [64]) (name ++ Bytes.ofString ":***@") u.render
  | _ => u.render

def hasPort (host : Bytes) : Bool :=
  match lastIndex 58 host, lastIndex 93 host with
  | some c, some b => c > b
  | some _, none => true
  | none, _ => false

def dropEmptyPort (host : Bytes) : Bytes :=
  if hasPort host && host.getLast? == some 58 then host.dropLast else host

end Url

end RegisterMap

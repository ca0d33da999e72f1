import RegisterMap.Cli.Value

/-!
Flags of a command line and how arguments set them: `--name=value`, `--name value`, groups of
short names `-abc`, and `--` ending the flags. The first unknown flag or bad value stops the
reading, and a flag set twice keeps its last value.
-/

namespace RegisterMap

namespace Cli

inductive FlagKind where
  | bool
  | text
  | int
  | uint
  | duration
  deriving DecidableEq, Repr

inductive FlagValue where
  | bool (b : Bool)
  | text (s : String)
  | int (i : Int)
  | uint (n : Nat)
  | duration (nanos : Int)
  deriving DecidableEq, Repr

inductive ValueError where
  | number (e : NumberError)
  | duration (e : DurationError)
  deriving DecidableEq, Repr

def ValueError.message : ValueError → String
  | .number e => e.message
  | .duration e => e.message

namespace FlagKind

def typeName : FlagKind → String
  | .bool => ""
  | .text => "string"
  | .int => "int"
  | .uint => "uint"
  | .duration => "duration"

def read : FlagKind → String → Except ValueError FlagValue
  | .bool, s => (readBool s).map FlagValue.bool |>.mapError .number
  | .text, s => .ok (.text s)
  | .int, s => (readSigned s).map FlagValue.int |>.mapError .number
  | .uint, s => (readUnsigned s).map FlagValue.uint |>.mapError .number
  | .duration, s => (readDuration s).map FlagValue.duration |>.mapError .duration

def isZero : FlagKind → String → Bool
  | .bool, s => s == "false"
  | .text, s => s.isEmpty
  | .int, s => s == "0"
  | .uint, s => s == "0"
  | .duration, s => s == "0" || s == "0s"

end FlagKind

/-- A flag: its long name, its short name if any, the kind of its value, what it is for and the
text of its default value. -/
structure Flag where
  name : String
  short : Option Char := none
  kind : FlagKind
  usage : String
  default : String
  deriving DecidableEq, Repr

namespace Flag

def valueOptional (f : Flag) : Bool := f.kind == .bool

def shownName (f : Flag) : String :=
  match f.short with
  | some c => "-" ++ c.toString ++ ", --" ++ f.name
  | none => "--" ++ f.name

def help (command : String) : Flag :=
  { name := "help", short := some 'h', kind := .bool, usage := "help for " ++ command,
    default := "false" }

end Flag

def findLong (fs : List Flag) (name : String) : Option Flag := fs.find? (·.name == name)

def findShort (fs : List Flag) (c : UInt8) : Option Flag :=
  fs.find? fun f => f.short.any (·.toNat == c.toNat)

inductive FlagError where
  | badSyntax (arg : String)
  | unknownLong (name : String)
  | unknownShort (c : UInt8) (group : String)
  | missingLong (arg : String)
  | missingShort (c : UInt8) (group : String)
  | invalid (value : String) (flag : Flag) (e : ValueError)
  deriving DecidableEq, Repr

def FlagError.message : FlagError → String
  | .badSyntax a => "bad flag syntax: " ++ a
  | .unknownLong n => "unknown flag: --" ++ n
  | .unknownShort c g =>
    "unknown shorthand flag: " ++ Text.quoteChar (Char.ofNat c.toNat) ++ " in -" ++ g
  | .missingLong a => "flag needs an argument: " ++ a
  | .missingShort c g =>
    "flag needs an argument: " ++ Text.quoteChar (Char.ofNat c.toNat) ++ " in -" ++ g
  | .invalid v f e =>
    "invalid argument " ++ Bytes.quote (Bytes.ofString v) ++ " for " ++
      Bytes.quote (Bytes.ofString f.shownName) ++ " flag: " ++ e.message

/-- What reading a command line gave: the values set, the latest first, the plain
arguments in order, and whether `--` ended the flags. -/
structure Reading where
  values : List (String × FlagValue) := []
  args : List String := []
  dashed : Bool := false
  deriving Repr

namespace Reading

def assign (r : Reading) (f : Flag) (value : String) : Except FlagError Reading :=
  match f.kind.read value with
  | .ok v => .ok { r with values := (f.name, v) :: r.values }
  | .error e => .error (.invalid value f e)

def changed (r : Reading) (f : Flag) : Bool := (r.values.lookup f.name).isSome

def valueOf (r : Reading) (f : Flag) : FlagValue :=
  match r.values.lookup f.name with
  | some v => v
  | none => match f.kind.read f.default with
    | .ok v => v
    | .error _ => .text f.default

def text (r : Reading) (f : Flag) : String :=
  match r.valueOf f with
  | .text s => s
  | _ => f.default

def enabled (r : Reading) (f : Flag) : Bool :=
  match r.valueOf f with
  | .bool b => b
  | _ => false

def natural (r : Reading) (f : Flag) : Nat :=
  match r.valueOf f with
  | .uint n => n
  | _ => 0

def nanos (r : Reading) (f : Flag) : Int :=
  match r.valueOf f with
  | .duration d => d
  | _ => 0

end Reading

def isTestGroup (g : Bytes) : Bool := (Bytes.dropPrefix? (Bytes.ofString "test.") g).isSome

/-- Reads a group of short names, given without its dash, with the argument after it if any.
Tells whether that argument was taken as a value. -/
def readShortGroup (fs : List Flag) (r : Reading) (next : Option String) :
    Bytes → Except FlagError (Reading × Bool)
  | [] => .ok (r, false)
  | g@(c :: rest) =>
    if isTestGroup g then .ok (r, false)
    else match findShort fs c with
      | none => .error (.unknownShort c (Bytes.toLossy g))
      | some f =>
        match rest with
        | 61 :: v@(_ :: _) => (r.assign f (Bytes.toLossy v)).map (·, false)
        | _ =>
          if f.valueOptional then
            match r.assign f "true" with
            | .ok r => readShortGroup fs r next rest
            | .error e => .error e
          else if !rest.isEmpty then (r.assign f (Bytes.toLossy rest)).map (·, false)
          else match next with
            | some v => (r.assign f v).map (·, true)
            | none => .error (.missingShort c (Bytes.toLossy g))

/-- Reads an argument starting with `--` and more, with the argument after it if any. Tells
whether that argument was taken as a value. -/
def readLong (fs : List Flag) (r : Reading) (arg : String) (next : Option String) :
    Except FlagError (Reading × Bool) :=
  let body := arg.drop 2 |>.toString
  if body.isEmpty || body.startsWith "-" || body.startsWith "=" then .error (.badSyntax arg)
  else
    let (name, value?) := match body.splitOn "=" with
      | n :: v :: more => (n, some ("=".intercalate (v :: more)))
      | _ => (body, none)
    match findLong fs name with
    | none => .error (.unknownLong name)
    | some f =>
      match value? with
      | some v => (r.assign f v).map (·, false)
      | none =>
        if f.valueOptional then (r.assign f "true").map (·, false)
        else match next with
          | some v => (r.assign f v).map (·, true)
          | none => .error (.missingLong arg)

def readFlags (fs : List Flag) : List String → Reading → Except FlagError Reading
  | [], r => .ok r
  | arg :: rest, r =>
    if arg.isEmpty || !arg.startsWith "-" || arg == "-" then
      readFlags fs rest { r with args := r.args ++ [arg] }
    else if arg == "--" then .ok { r with args := r.args ++ rest, dashed := true }
    else
      let step :=
        if arg.startsWith "--" then readLong fs r arg rest.head?
        else readShortGroup fs r rest.head? (Bytes.ofString arg).tail
      match step with
      | .error e => .error e
      | .ok (r, taken) => readFlags fs (rest.drop (if taken then 1 else 0)) r
termination_by args => args.length
decreasing_by all_goals (simp only [List.length_drop, List.length_cons]; omega)

def spaces (n : Nat) : String := String.ofList (List.replicate n ' ')

def Flag.head (f : Flag) : String :=
  (match f.short with
    | some c => "  -" ++ c.toString ++ ", --" ++ f.name
    | none => "      --" ++ f.name) ++
  (if f.kind.typeName.isEmpty then "" else " " ++ f.kind.typeName)

/-- What a flag's usage line says after its head: the usage and the default, when the default
is not the zero value. -/
def Flag.explanation (f : Flag) : String :=
  f.usage ++
    if f.kind.isZero f.default then ""
    else if f.kind == .text then " (default " ++ Bytes.quote (Bytes.ofString f.default) ++ ")"
    else " (default " ++ f.default ++ ")"

def byName (fs : List Flag) : List Flag := fs.mergeSort fun a b => !(b.name < a.name)

/-- The usage lines of flags, ordered by name; each usage starts two columns after the longest
head, and a usage that runs over several lines is indented as far. -/
def usages (fs : List Flag) : String :=
  let sorted := byName fs
  let width := (sorted.map (·.head.utf8ByteSize)).foldl max 0 + 1
  let line := fun (f : Flag) =>
    let body := f.explanation.replace "\n" ("\n" ++ spaces (width + 2))
    f.head ++ " " ++ spaces (width - f.head.utf8ByteSize) ++ " " ++ body ++ "\n"
  String.join (sorted.map line)

end Cli

end RegisterMap

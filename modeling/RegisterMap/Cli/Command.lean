import RegisterMap.Cli.Flag
import RegisterMap.Text.Case
import RegisterMap.Text.Blank

/-!
Nested commands of a command line, how a command line picks one, and their help. The command is
found from the top, each plain argument that names a command below descending into it; the
command then reads its flags and runs its action or shows its help.
-/

namespace RegisterMap

namespace Cli

inductive ArgRule where
  | open
  | none
  | atLeast (n : Nat)
  | atMost (n : Nat)
  | exactly (n : Nat)
  deriving DecidableEq, Repr

inductive Offer where
  | nothing
  | noFiles
  | topics
  deriving DecidableEq, Repr

structure Command (α : Type) where
  use : String
  short : String := ""
  long : String := ""
  args : ArgRule := .open
  flags : List Flag := []
  persistent : List Flag := []
  action : Option α := none
  flagsInUse : Bool := true
  isHelp : Bool := false
  aliases : List String := []
  hidden : Bool := false
  rawArgs : Bool := false
  offers : Offer := .nothing
  children : List (Command α) := []

namespace Command

variable {α : Type}

def name (c : Command α) : String := (c.use.splitOn " ").headD ""

def runnable (c : Command α) : Bool := c.action.isSome

mutual

/-- Whether a command is offered among the commands of its parent: it can run or has such
commands below it, and it is neither hidden nor the help command. -/
def available : Command α → Bool
  | ⟨_, _, _, _, _, _, action, _, isHelp, _, hidden, _, _, children⟩ =>
    !hidden && !isHelp && (action.isSome || anyAvailable children)

def anyAvailable : List (Command α) → Bool
  | [] => false
  | c :: cs => c.available || anyAvailable cs

end

def sorted (cs : List (Command α)) : List (Command α) := cs.mergeSort fun a b => !(b.name < a.name)

def calledBy (c : Command α) (word : String) : Bool := c.name == word || c.aliases.contains word

end Command

structure Placed (α : Type) where
  above : List (Command α)
  cmd : Command α

namespace Placed

variable {α : Type}

def path (p : Placed α) : String := " ".intercalate ((p.above ++ [p.cmd]).map (·.name))

def inherited (p : Placed α) : List Flag := p.above.flatMap (·.persistent)

def localFlags (p : Placed α) (withHelp : Bool) : List Flag :=
  p.cmd.flags ++ p.cmd.persistent ++ if withHelp then [Flag.help p.cmd.name] else []

def flags (p : Placed α) (withHelp : Bool) : List Flag := p.localFlags withHelp ++ p.inherited

end Placed

/-- Whether an argument is a flag that takes the next argument as its value: without `=`, a long
flag that is unknown or not a boolean, or a two-byte short flag likewise. -/
def takesValue (fs : List Flag) (arg : String) : Bool :=
  if arg.contains '=' then false
  else if arg.startsWith "--" then !((findLong fs (arg.drop 2).toString).any (·.valueOptional))
  else
    arg.startsWith "-" && arg.utf8ByteSize == 2 &&
      !((findShort fs ((Bytes.ofString arg).getD 1 0)).any (·.valueOptional))

/-- The plain arguments of a command line, up to `--`; a flag that takes a value with at most
one argument after it ends them. -/
def plainArgs (fs : List Flag) : List String → List String
  | [] => []
  | arg :: rest =>
    if arg == "--" then []
    else if takesValue fs arg then
      match rest with
      | [] => []
      | [_] => []
      | _ :: more => plainArgs fs more
    else if !arg.isEmpty && !arg.startsWith "-" then arg :: plainArgs fs rest
    else plainArgs fs rest
termination_by structural args => args

/-- A command line without the first plain argument equal to `x`, passing over flag values;
unchanged if there is none before `--`. -/
def withoutFirst (fs : List Flag) (x : String) : List String → List String
  | [] => []
  | arg :: rest =>
    if arg == "--" then arg :: rest
    else if takesValue fs arg then
      match rest with
      | v :: more => arg :: v :: withoutFirst fs x more
      | [] => [arg]
    else if !arg.startsWith "-" && arg == x then rest
    else arg :: withoutFirst fs x rest

def descend {α : Type} : Nat → Placed α → List String → Placed α × List String
  | 0, p, args => (p, args)
  | fuel + 1, p, args =>
    let fs := p.flags false
    match plainArgs fs args with
    | [] => (p, args)
    | next :: _ =>
      match p.cmd.children.find? (·.calledBy next) with
      | some sub => descend fuel ⟨p.above ++ [p.cmd], sub⟩ (withoutFirst fs next args)
      | none => (p, args)

def lowerSimple (s : String) : String :=
  String.ofList (s.toList.map fun c =>
    match Text.lowerChar c with
    | [d] => d
    | _ => if c.toNat = 0x130 then 'i' else c)

/-- One row of the edit distance table: the distances of a prefix of one text, one byte longer
than the prefix of `prev`, to the prefixes of `t`. -/
def editRow (t : Bytes) (prev : List Nat) (c : UInt8) : List Nat :=
  let start := prev.headD 0 + 1
  let step := fun (acc : List Nat × Nat) (x : UInt8 × Nat × Nat) =>
    let v := if x.1 == c then x.2.1 else min (min x.2.2 acc.2) x.2.1 + 1
    (v :: acc.1, v)
  ((t.zip (prev.zip prev.tail)).foldl step ([start], start)).1.reverse

/-- The edit distance of two byte strings: the fewest insertions, deletions and substitutions
that turn one into the other. -/
def editDistance (s t : Bytes) : Nat :=
  (s.foldl (editRow t) (List.range (t.length + 1))).getLastD 0

/-- The names of the offered commands below `c` that are within two edits of a typed name or
start with it, in any case. -/
def suggestionsFor {α : Type} (c : Command α) (typed : String) : List String :=
  let t := lowerSimple typed
  (c.children.filter (·.available)).filterMap fun k =>
    let n := lowerSimple k.name
    if editDistance (Bytes.ofString t) (Bytes.ofString n) ≤ 2 || n.startsWith t then some k.name
    else none

def suggestionText {α : Type} (c : Command α) (typed : String) : String :=
  match suggestionsFor c typed with
  | [] => ""
  | ss => "\n\nDid you mean this?\n" ++ String.join (ss.map fun s => "\t" ++ s ++ "\n")

def quote (s : String) : String := Bytes.quote (Bytes.ofString s)

/-- The command that a command line names below `top`, with the arguments left for it; at the
top, a plain argument that names no command is an error. -/
def find {α : Type} (top : Command α) (args : List String) : Except String (Placed α × List String) :=
  let (p, rest) := descend (args.length + 1) ⟨[], top⟩ args
  match p.cmd.args, p.above, plainArgs (p.flags false) rest with
  | .open, [], typed :: _ =>
    if p.cmd.children.isEmpty then .ok (p, rest)
    else .error ("unknown command " ++ quote typed ++ " for " ++ quote p.path ++ suggestionText p.cmd typed)
  | _, _, _ => .ok (p, rest)

def ArgRule.check (rule : ArgRule) (path : String) (args : List String) : Option String :=
  match rule, args with
  | .none, a :: _ => some ("unknown command " ++ quote a ++ " for " ++ quote path)
  | .atLeast n, _ =>
    if args.length < n then
      some ("requires at least " ++ Nat.repr n ++ " arg(s), only received " ++ Nat.repr args.length)
    else Option.none
  | .atMost n, _ =>
    if n < args.length then
      some ("accepts at most " ++ Nat.repr n ++ " arg(s), received " ++ Nat.repr args.length)
    else Option.none
  | .exactly n, _ =>
    if args.length != n then
      some ("accepts " ++ Nat.repr n ++ " arg(s), received " ++ Nat.repr args.length)
    else Option.none
  | _, _ => Option.none

inductive Request (α : Type) where
  | help (p : Placed α)
  | run (p : Placed α) (action : α) (flags : Reading)
  | fail (message : String)

def request {α : Type} (top : Command α) (args : List String) : Request α :=
  match find top args with
  | .error m => .fail m
  | .ok (p, rest) =>
    match (if p.cmd.rawArgs then .ok { args := rest } else readFlags (p.flags true) rest {}) with
    | .error e => .fail e.message
    | .ok r =>
      if r.enabled (Flag.help p.cmd.name) then .help p
      else match p.cmd.action with
        | none => .help p
        | some a =>
          match p.cmd.args.check p.path r.args with
          | some m => .fail m
          | none => .run p a r

def trimEnd (s : String) : String :=
  String.ofList (s.toList.reverse.dropWhile Text.isBlank).reverse

def padRight (s : String) (width : Nat) : String := s ++ spaces (width - s.length)

namespace Placed

variable {α : Type}

def namePadding (p : Placed α) : Nat := (p.cmd.children.map (·.name.utf8ByteSize)).foldl max 11

/-- How the command is invoked: the path above it, its usage line, and `[flags]` when it
reads flags and its usage line does not say so. -/
def useLine (p : Placed α) (withHelp : Bool) : String :=
  let line := if p.above.isEmpty then p.cmd.use
    else " ".intercalate (p.above.map (·.name)) ++ " " ++ p.cmd.use
  if p.cmd.flagsInUse && !(p.flags withHelp).isEmpty && (line.splitOn "[flags]").length == 1 then
    line ++ " [flags]"
  else line

/-- The usage text of a command: how it is invoked, the commands below it, its flags and the
flags it shares with the commands above. -/
def usage (p : Placed α) (withHelp : Bool) : String :=
  let c := p.cmd
  let listed := Command.anyAvailable c.children
  let shown := (Command.sorted c.children).filter fun k => k.available || k.name == "help"
  let localFs := p.localFlags withHelp
  "Usage:" ++
  (if c.runnable then "\n  " ++ p.useLine withHelp else "") ++
  (if listed then "\n  " ++ p.path ++ " [command]" else "") ++
  (if listed then
    "\n\nAvailable Commands:" ++
      String.join (shown.map fun k => "\n  " ++ padRight k.name p.namePadding ++ " " ++ k.short)
   else "") ++
  (if localFs.isEmpty then "" else "\n\nFlags:\n" ++ trimEnd (usages localFs)) ++
  (if p.inherited.isEmpty then "" else "\n\nGlobal Flags:\n" ++ trimEnd (usages p.inherited)) ++
  (if listed then
    "\n\nUse \"" ++ p.path ++ " [command] --help\" for more information about a command."
   else "") ++
  "\n"

def help (p : Placed α) (withHelp : Bool) : String :=
  let top := if p.cmd.long.isEmpty then p.cmd.short else p.cmd.long
  (if top.isEmpty then "" else trimEnd top ++ "\n\n") ++
  (if p.cmd.runnable || !p.cmd.children.isEmpty then p.usage withHelp else "")

end Placed

/-- Whether text can stand between backquotes: no backquote, byte order mark, or control
character but tab. -/
def canBackquote (s : String) : Bool :=
  s.toList.all fun c =>
    c.toNat != 96 && c.toNat != 0xFEFF && (c.toNat ≥ 0x20 || c == '\t') && c.toNat != 0x7F

/-- Words as a list shows them when no help topic matches: between brackets, each between
backquotes when it can be, else quoted. -/
def topicList (words : List String) : String :=
  let tick := String.singleton (Char.ofNat 96)
  "[" ++ " ".intercalate (words.map fun w => if canBackquote w then tick ++ w ++ tick else quote w) ++ "]"

end Cli

end RegisterMap

import RegisterMap.Cli.Command

/-!
Completion of a command line as the shell scripts ask for it: the words before the last find the
command, and the last is completed as a flag's value, a flag name not set yet, or the name of a
command below, then with what the command offers for its arguments.
-/

namespace RegisterMap

namespace Cli

inductive Directive where
  | standard
  | noSpace
  | noFiles
  deriving DecidableEq, Repr

namespace Directive

def code : Directive → Nat
  | .standard => 0
  | .noSpace => 2
  | .noFiles => 4

def name : Directive → String
  | .standard => "ShellCompDirectiveDefault"
  | .noSpace => "ShellCompDirectiveNoSpace"
  | .noFiles => "ShellCompDirectiveNoFileComp"

end Directive

structure Choice where
  word : String
  about : String
  deriving DecidableEq, Repr

def trimBlanks (s : String) : String :=
  String.ofList ((s.toList.dropWhile Text.isBlank).reverse.dropWhile Text.isBlank).reverse

namespace Choice

def text (c : Choice) : String := c.word ++ "\t" ++ c.about

/-- The line of a choice in an answer, with its description or without: only what comes before
a line break, without blanks at either end. -/
def line (descriptions : Bool) (c : Choice) : String :=
  let s := if descriptions then c.text else (c.text.splitOn "\t").headD ""
  trimBlanks ((s.splitOn "\n").headD "")

end Choice

/-- The answer to a completion request: the choices, the directive, and the error that cut the
completion short, if any. -/
structure Answer where
  choices : List Choice := []
  directive : Directive := .standard
  error : Option String := none
  deriving Repr

/-- What the program writes for an answer: on the standard output the choices, one a line, then
the directive's number after a colon; on the standard error the error, if any, and the
directive's name. -/
def Answer.output (descriptions : Bool) (a : Answer) : String × String :=
  (String.join (a.choices.map fun c => c.line descriptions ++ "\n") ++
      ":" ++ Nat.repr a.directive.code ++ "\n",
    (match a.error with
      | some e => "[Debug] [Error] " ++ e ++ "\n"
      | none => "") ++
    "Completion ended with directive: " ++ a.directive.name ++ "\n")

def wordList (ws : List String) : String := "[" ++ " ".intercalate ws ++ "]"

def flagChoices (word : String) (f : Flag) : List Choice :=
  (if ("--" ++ f.name).startsWith word then [⟨"--" ++ f.name, f.usage⟩] else []) ++
  match f.short with
  | some c => if ("-" ++ c.toString).startsWith word then [⟨"-" ++ c.toString, f.usage⟩] else []
  | none => []

/-- The commands below `c` that completion lists: those offered and the help command, in the
order of their names. -/
def listedCommands {α : Type} (c : Command α) : List (Command α) :=
  (Command.sorted c.children).filter fun k => k.available || k.isHelp

def commandChoices {α : Type} (c : Command α) (word : String) : List Choice :=
  (listedCommands c).filterMap fun k =>
    if k.name.startsWith word then some ⟨k.name, k.short⟩ else none

/-- Whether a word looks like a flag: a dash and a byte other than a dash, or any byte, a dash
and at least one more byte. -/
def looksLikeFlag : Bytes → Bool
  | _ :: 45 :: _ :: _ => true
  | 45 :: c :: _ => c != 45
  | _ => false

/-- The flag of a name in a completion: a short name when it is one byte long, else a long
one. -/
def flagNamed (fs : List Flag) (name : Bytes) : Option Flag :=
  match name with
  | [c] => findShort fs c
  | _ => findLong fs (Bytes.toLossy name)

/-- Where the word to complete stands: the flag whose value it is, the words before it read as
the command's arguments, the word itself, and a flag name that the command does not know. -/
structure Target where
  flag : Option Flag := none
  args : List String
  word : String
  unknown : Option String := none
  deriving Repr

/-- Where `last` stands after the words `args`, among the flags `fs`. A word `-…` without `=`
is a flag name. In `-…=value` the flag is the name after `--`, or else the byte before `=`, and
the word is the value. Otherwise a word before that looks like a flag without `=` names the flag,
by the name after `--` or its last byte, and is taken off the arguments; a boolean flag named
so takes no value and leaves the words as they are. -/
def target (fs : List Flag) (args : List String) (last : String) : Target :=
  let lb := Bytes.ofString last
  let equalAt := lb.findIdx? (· == 61)
  let dashed := lb.head? == some 45
  if dashed && equalAt.isNone then { args, word := last }
  else
    let (named, word) : Bytes × String :=
      match equalAt with
      | some i =>
        if dashed then
          let head := lb.take i
          (if (Bytes.ofString "--").isPrefixOf head then head.drop 2 else head.drop (i - 1),
            Bytes.toLossy (lb.drop (i + 1)))
        else ([], last)
      | none => ([], last)
    let (named, kept) : Bytes × List String :=
      if !named.isEmpty then (named, args)
      else match args.getLast? with
        | some prev =>
          let pb := Bytes.ofString prev
          if looksLikeFlag pb && !pb.contains 61 then
            (if (Bytes.ofString "--").isPrefixOf pb then pb.drop 2 else pb.drop (pb.length - 1),
              args.dropLast)
          else ([], args)
        | none => ([], args)
    if named.isEmpty then { args := kept, word }
    else match flagNamed fs named with
      | none => { args, word := last, unknown := some (Bytes.toLossy named) }
      | some f =>
        if !(dashed && equalAt.isSome) && f.valueOptional then { args, word }
        else { flag := some f, args := kept, word }

/-- Adds what command `c` offers for its arguments `args` to an answer; help topics are the
commands below the command that the arguments name from `top`. -/
def offerFor {α : Type} (top c : Command α) (args : List String) (word : String) (a : Answer) :
    Answer :=
  match c.offers with
  | .nothing => a
  | .noFiles => { a with directive := .noFiles }
  | .topics =>
    match find top args with
    | .error _ => { a with directive := .noFiles }
    | .ok (q, _) => { a with choices := a.choices ++ commandChoices q.cmd word, directive := .noFiles }

/-- The answer for a command found with `p`, its flags read into `r`, as `t` places the word
to complete; `flagNames` tells whether flags are still read there. -/
def answerAt {α : Type} (top : Command α) (p : Placed α) (r : Reading) (t : Target)
    (flagNames : Bool) : Answer :=
  let args := if p.cmd.rawArgs then t.args else r.args
  match t.flag with
  | some _ => if flagNames then {} else offerFor top p.cmd args t.word {}
  | none =>
    if t.word.startsWith "-" && !t.word.contains '=' && flagNames then
      let fs := (byName p.inherited ++ byName (p.localFlags true)).filter fun f => !r.changed f
      let choices := fs.flatMap (flagChoices t.word)
      let directive : Directive :=
        match choices with
        | [c] => if c.text.endsWith "=" then .noSpace else .noFiles
        | _ => .noFiles
      if p.cmd.rawArgs then offerFor top p.cmd args t.word { choices, directive }
      else { choices, directive }
    else
      let own := p.cmd.flags ++ [Flag.help p.cmd.name]
      let base : Answer :=
        if args.isEmpty && !own.any r.changed then
          { choices := commandChoices p.cmd t.word,
            directive := if (listedCommands p.cmd).isEmpty then .standard else .noFiles }
        else {}
      offerFor top p.cmd args t.word base

def complete {α : Type} (top : Command α) (words : List String) : Answer :=
  let last := words.getLastD ""
  let before := words.dropLast
  match find top before with
  | .error _ => { error := some ("Unable to find a command for arguments: " ++ wordList before) }
  | .ok (p, rest) =>
    let fs := p.flags true
    let t : Target := if p.cmd.rawArgs then { args := rest, word := last } else target fs rest last
    let read : Except FlagError Reading :=
      if p.cmd.rawArgs then .ok { args := t.args } else readFlags fs t.args {}
    match read with
    | .error e =>
      { error := some ("Error while parsing flags from args " ++ wordList t.args ++ ": " ++
          e.message) }
    | .ok r =>
      let flagNames := !r.dashed
      match t.unknown, flagNames with
      | some n, true =>
        { error := some ("Subcommand '" ++ p.cmd.name ++ "' does not support flag '" ++ n ++ "'") }
      | _, _ =>
        if r.changed (Flag.help p.cmd.name) then { directive := .noFiles }
        else answerAt top p r t flagNames

end Cli

end RegisterMap

import RegisterMap.Cli.Command
import RegisterMap.Cli.Complete
import RegisterMap.Cli.Console
import RegisterMap.Cli.Scripts
import RegisterMap.Batch
import RegisterMap.Model.Overlap
import RegisterMap.Overrides.Read
import RegisterMap.Text.Columns

/-!
The command line of the generator, `mmio-gen`: `list`, `convert`, `check`, `generate`, `help`,
`completion` and the hidden `__complete`. Any failure ends the run with the program's name and
the message on the standard error, and status 1.
-/

namespace RegisterMap

namespace Cli

inductive Task where
  | list
  | convert
  | check
  | generate
  | help
  | completion (shell : String)
  | complete
  deriving DecidableEq, Repr

def programName : String := "mmio-gen"

namespace Options

def verbose : Flag :=
  { name := "verbose", short := some 'v', kind := .bool, default := "false",
    usage := "report the declarations dropped while scanning headers" }

def headers : Flag :=
  { name := "headers", kind := .bool, default := "false",
    usage := "show the header URLs instead of the documentation" }

def device : Flag :=
  { name := "device", short := some 'd', kind := .text, default := "",
    usage := "take the structure name, prefix and documentation from a known device" }

def structName : Flag :=
  { name := "name", short := some 'n', kind := .text, default := "", usage := "structure name" }

def stem : Flag :=
  { name := "prefix", short := some 'p', kind := .text, default := "",
    usage := "macro prefix removed from field names" }

def doc : Flag :=
  { name := "doc", kind := .text, default := "", usage := "documentation line of the generated file" }

def overrides : Flag :=
  { name := "overrides", kind := .text, default := "", usage := "YAML file with additional overrides" }

def noDefault : Flag :=
  { name := "no-default-overrides", kind := .bool, default := "false",
    usage := "do not apply the built-in overrides" }

def userAgent : Flag :=
  { name := "user-agent", kind := .text, default := Fetch.defaultUserAgent,
    usage := "user agent used to download headers" }

def structMacro : Flag :=
  { name := "struct-macro", kind := .text, default := Dialect.default.structMacro,
    usage := "macro defining structures" }

def regMacro : Flag :=
  { name := "reg-macro", kind := .text, default := Dialect.default.regMacro,
    usage := "macro defining registers" }

def access : Flag :=
  { name := "access", kind := .text, default := Dialect.default.access,
    usage := "access mode of structure fields" }

def word : Flag :=
  { name := "word", kind := .text, default := Dialect.default.word, usage := "integer type of registers" }

def output : Flag :=
  { name := "output", short := some 'o', kind := .text, default := "",
    usage := "output file, stdout by default" }

def width : Flag :=
  { name := "width", kind := .uint, default := "32", usage := "register width in bits" }

def jobs : Flag :=
  { name := "jobs", short := some 'j', kind := .int, default := "1",
    usage := "number of headers processed at once" }

def only : Flag :=
  { name := "only", kind := .text, default := "", usage := "comma separated device identifiers" }

def failFast : Flag :=
  { name := "fail-fast", kind := .bool, default := "false",
    usage := "stop at the first header that cannot be parsed" }

def interval : Flag :=
  { name := "interval", kind := .duration, default := "1s",
    usage := "minimum delay between two downloads" }

def ext : Flag :=
  { name := "ext", kind := .text, default := "rs", usage := "extension of the written files" }

def noDescriptions : Flag :=
  { name := "no-descriptions", kind := .bool, default := "false",
    usage := "disable completion descriptions" }

def header : List Flag := [device, structName, stem, doc, overrides, noDefault, userAgent]

def dialect : List Flag := [structMacro, regMacro, access, word]

end Options

def shellCommand (shell long : String) (flagsInUse : Bool := true) : Command Task :=
  { use := shell, short := "Generate the autocompletion script for " ++ shell, long,
    args := .none, flags := [Options.noDescriptions], action := some (.completion shell),
    flagsInUse, offers := .noFiles }

def completionCommand : Command Task :=
  { use := "completion", short := "Generate the autocompletion script for the specified shell",
    long := "Generate the autocompletion script for " ++ programName ++ " for the specified shell.\n" ++
      "See each sub-command's help for details on how to use the generated script.\n",
    args := .none, offers := .noFiles,
    children := [
      shellCommand "bash" ("Generate the autocompletion script for the bash shell.\n\n" ++
        "This script depends on the 'bash-completion' package.\n" ++
        "If it is not installed already, you can install it via your OS's package manager.\n\n" ++
        "To load completions in your current shell session:\n\n" ++
        "\tsource <(" ++ programName ++ " completion bash)\n\n" ++
        "To load completions for every new session, execute once:\n\n" ++
        "#### Linux:\n\n" ++
        "\t" ++ programName ++ " completion bash > /etc/bash_completion.d/" ++ programName ++ "\n\n" ++
        "#### macOS:\n\n" ++
        "\t" ++ programName ++ " completion bash > $(brew --prefix)/etc/bash_completion.d/" ++ programName ++ "\n\n" ++
        "You will need to start a new shell for this setup to take effect.\n") false,
      shellCommand "zsh" ("Generate the autocompletion script for the zsh shell.\n\n" ++
        "If shell completion is not already enabled in your environment you will need\n" ++
        "to enable it.  You can execute the following once:\n\n" ++
        "\techo \"autoload -U compinit; compinit\" >> ~/.zshrc\n\n" ++
        "To load completions in your current shell session:\n\n" ++
        "\tsource <(" ++ programName ++ " completion zsh); compdef _" ++ programName ++ " " ++ programName ++ "\n\n" ++
        "To load completions for every new session, execute once:\n\n" ++
        "#### Linux:\n\n" ++
        "\t" ++ programName ++ " completion zsh > \"$\x7bfpath[1]\x7d/_" ++ programName ++ "\"\n\n" ++
        "#### macOS:\n\n" ++
        "\t" ++ programName ++ " completion zsh > $(brew --prefix)/share/zsh/site-functions/_" ++ programName ++ "\n\n" ++
        "You will need to start a new shell for this setup to take effect.\n"),
      shellCommand "fish" ("Generate the autocompletion script for the fish shell.\n\n" ++
        "To load completions in your current shell session:\n\n" ++
        "\t" ++ programName ++ " completion fish | source\n\n" ++
        "To load completions for every new session, execute once:\n\n" ++
        "\t" ++ programName ++ " completion fish > ~/.config/fish/completions/" ++ programName ++ ".fish\n\n" ++
        "You will need to start a new shell for this setup to take effect.\n"),
      shellCommand "powershell" ("Generate the autocompletion script for powershell.\n\n" ++
        "To load completions in your current shell session:\n\n" ++
        "\t" ++ programName ++ " completion powershell | Out-String | Invoke-Expression\n\n" ++
        "To load completions for every new session, add the output of the above command\n" ++
        "to your powershell profile.\n")] }

def commands : Command Task :=
  { use := programName, short := "Generate MMIO definitions from C register headers",
    long := programName ++ " converts the #define register headers of vendor SDKs into\n" ++
      "embedded_util::mmio! structures and embedded_util::reg! registers.",
    persistent := [Options.verbose],
    children := [
      { use := "generate OUT_DIR", short := "Download and convert the headers of the known devices",
        long := "Download the header of every known device, or of the devices given with\n" ++
          "--only, and write the definitions of each one to OUT_DIR/<id>.rs.",
        args := .exactly 1, action := some .generate,
        flags := [Options.jobs, Options.only, Options.overrides, Options.noDefault, Options.failFast,
          Options.interval, Options.userAgent, Options.ext] ++ Options.dialect },
      { use := "convert [HEADER]", short := "Convert a single header",
        long := "Convert a single header read from a file, an http(s) URL or the standard\n" ++
          "input. Without HEADER, the header of --device is downloaded, or the standard\n" ++
          "input is read if no device is given.",
        args := .atMost 1, action := some .convert,
        flags := Options.header ++ Options.dialect ++ [Options.output] },
      { use := "check [HEADER]", short := "Report overlapping and out of range bit fields",
        long := "Build the structure of a header and report, per register, the bit fields\n" ++
          "sharing bits (aliases) and the bit fields that do not fit in a register.\n" ++
          "The command fails if a bit field is out of range.",
        args := .atMost 1, action := some .check, flags := Options.header ++ [Options.width] },
      { use := "list", short := "List the known devices", args := .none, action := some .list,
        flags := [Options.headers] },
      { use := "help [command]", short := "Help about any command",
        long := "Help provides help for any command in the application.\n" ++
          "Simply type " ++ programName ++ " help [path to command] for full details.",
        action := some .help, isHelp := true, offers := .topics },
      completionCommand] }

/-- The hidden command that completes a command line: its arguments are the words typed, the
last one being the word to complete. -/
def completeCommand : Command Task :=
  { use := "__complete [command-line]", aliases := ["__completeNoDesc"], hidden := true,
    rawArgs := true, flagsInUse := false, args := .atLeast 1, action := some .complete,
    short := "Request shell completion choices for the specified command-line",
    long := "__complete is a special command that is used by the shell completion logic\n" ++
      "to request completion choices for the specified command-line." }

def withCompletion : Command Task :=
  { commands with children := commands.children ++ [completeCommand] }

/-- The commands that a command line sees: the hidden completion command is there only when the
command line calls it. -/
def commandsFor (args : List String) : Command Task :=
  match find withCompletion args with
  | .ok (p, _) => if p.cmd.name == completeCommand.name then withCompletion else commands
  | .error _ => commands

/-- The known devices in aligned columns: identifier, name, prefix, and the documentation or
the header. -/
def deviceTable (headers : Bool) : String :=
  Text.columns 2 (["ID", "NAME", "PREFIX", if headers then "HEADER" else "DOC"] ::
    Device.all.map fun d => [d.id, d.name, d.stem, if headers then d.header else d.doc])

def dialectOf (r : Reading) : Except String Dialect :=
  let d : Dialect :=
    ⟨r.text Options.structMacro, r.text Options.regMacro, r.text Options.access, r.text Options.word⟩
  if d.structMacro.isEmpty || d.regMacro.isEmpty || d.access.isEmpty || d.word.isEmpty then
    .error ("empty emitter setting: \x7bStructMacro:" ++ d.structMacro ++ " RegMacro:" ++ d.regMacro ++
      " Access:" ++ d.access ++ " Word:" ++ d.word ++ "\x7d")
  else .ok d

/-- Where the header comes from: the argument, the header of `--device`, or the standard
input, written `-`. -/
def source (r : Reading) : String :=
  match r.args with
  | a :: _ => a
  | [] =>
    match Device.find Device.all (r.text Options.device) with
    | .ok d => if (r.text Options.device).isEmpty then "-" else d.header
    | .error _ => "-"

def fieldList (fs : List BitField) : Bytes :=
  Bytes.intercalate (Bytes.ofString ", ") (fs.map fun f =>
    f.name ++ Bytes.ofString ("[" ++ Nat.repr f.start ++ ".." ++ Nat.repr f.stop ++ "]"))

/-- The report on the registers of a block: per register, a line for each group of bit fields
sharing bits and a line for the bit fields that do not fit in `width` bits. -/
def registerReport (width : Nat) (b : Block) : Bytes :=
  b.registers.flatMap fun reg =>
    (reg.overlapGroups.flatMap fun g =>
      reg.name ++ Bytes.ofString ": overlapping bit fields " ++ fieldList g ++ [10]) ++
    match reg.outOfRange width with
    | [] => []
    | fs => reg.name ++ Bytes.ofString ": bit fields out of range " ++ fieldList fs ++ [10]

def blockSummary (b : Block) : Bytes :=
  b.name ++ Bytes.ofString (": " ++ Nat.repr b.fields.length ++ " fields, " ++
    Nat.repr b.registers.length ++ " registers\n")

def hasOutOfRange (width : Nat) (b : Block) : Bool :=
  b.registers.any fun reg => !(reg.outOfRange width).isEmpty

namespace Session

open Session

variable {m : Type → Type} [Monad m]

def loadOverrides (c : Console m) (path : String) (noDefault : Bool) : Session m Overrides := do
  let base := if noDefault then [] else [some Overrides.builtin]
  if path.isEmpty then return Overrides.mergeAll base
  match ← (c.disk.read path : m _) with
  | .error e => throw e.message
  | .ok data =>
    match Overrides.read (Bytes.toLossy data) with
    | .error e => throw (path ++ ": " ++ e.message)
    | .ok o => return Overrides.mergeAll (base ++ [some o])

/-- What is generated from one header: the device's name, prefix and documentation, replaced
by the flags given, and the overrides. -/
def configure (c : Console m) (r : Reading) : Session m Config := do
  let id := r.text Options.device
  let (name, stem, doc) ←
    if id.isEmpty then pure ("", "", "")
    else match Device.find Device.all id with
      | .ok d => pure (d.name, d.stem, d.doc)
      | .error e => throw e.message
  let name := if (r.text Options.structName).isEmpty then name else r.text Options.structName
  let stem := if (r.text Options.stem).isEmpty then stem else r.text Options.stem
  let doc := if r.changed Options.doc then r.text Options.doc else doc
  if name.isEmpty then throw "no structure name, use --device or --name"
  let o ← loadOverrides c (r.text Options.overrides) (r.enabled Options.noDefault)
  return { name := Bytes.ofString name, stem := Bytes.ofString stem, doc := Bytes.ofString doc,
           overrides := o }

/-- The text of a header: the standard input for `-`, a download for an `http(s)` URL, else
a file. -/
def readHeader (c : Console m) (r : Reading) (src : String) : Session m Bytes := do
  if src == "-" then return ← (c.stdin : m _)
  if src.startsWith "http://" || src.startsWith "https://" then
    match ← (c.download { userAgent := r.text Options.userAgent } src : m _) with
    | .ok t => return Bytes.ofString t
    | .error e => throw e.message
  match ← (c.disk.read src : m _) with
  | .ok b => return b
  | .error e => throw e.message

def notes (r : Reading) (log : List String) : Session m Unit :=
  if r.enabled Options.verbose then warnLines log else pure ()

def convert (c : Console m) (r : Reading) : Session m Unit := do
  let cfg ← configure c r
  let dialect ← ofExcept (dialectOf r)
  let text ← readHeader c r (source r)
  let g := generate text { cfg with dialect }
  notes r g.log
  match g.result with
  | .error e => throw e.message
  | .ok data =>
    let out := r.text Options.output
    if out.isEmpty || out == "-" then say data
    else match ← (c.disk.write out data : m _) with
      | .ok () => pure ()
      | .error e => throw e.message

def check (c : Console m) (r : Reading) : Session m Unit := do
  let cfg ← configure c r
  let text ← readHeader c r (source r)
  let b := build text cfg
  notes r b.log
  match b.result with
  | .error e => throw e.message
  | .ok block =>
    let width := r.natural Options.width
    say (registerReport width block ++ blockSummary block)
    if hasOutOfRange width block then throw "check failed"

def generateAll (c : Console m) (r : Reading) : Session m Unit := do
  let only := r.text Options.only
  let devs ←
    if only.isEmpty then pure Device.all
    else match Device.select Device.all (only.splitOn ",") with
      | .ok ds => pure ds
      | .error es => throw (Device.notFoundMessage es)
  let o ← loadOverrides c (r.text Options.overrides) (r.enabled Options.noDefault)
  let dialect ← ofExcept (dialectOf r)
  let fetcher : Fetch.Fetcher :=
    { userAgent := r.text Options.userAgent, limited := decide (0 < r.nanos Options.interval) }
  let s : Batch.Settings :=
    { outDir := r.args.headD "", ext := r.text Options.ext, failFast := r.enabled Options.failFast,
      overrides := o, dialect,
      logPrefix := if r.enabled Options.verbose then some "" else none }
  let report ← (Batch.runIn c.disk (c.download fetcher) s devs : m _)
  say (Bytes.ofString report.progress)
  warnLines report.log
  match report.error? with
  | some msg => throw msg
  | none => pure ()

/-- Shows the help of the command that words name, or says that none does and shows the usage
of the program on the standard error. -/
def helpTopic (r : Reading) : Session m Unit :=
  match find commands r.args with
  | .ok (p, _) => say (Bytes.ofString (p.help true))
  | .error _ =>
    warn ("Unknown help topic " ++ topicList r.args ++ "\n" ++ (Placed.mk [] commands).usage false)

/-- Answers a completion request from the words typed: `calledAs` is the name the hidden
command was called by, which tells whether descriptions are wanted. -/
def completeLine (top : Command Task) (calledAs : String) (words : List String) : Session m Unit := do
  let (out, err) := (complete top words).output (calledAs != "__completeNoDesc")
  say (Bytes.ofString out)
  warn err

def dispatch (c : Console m) (args : List String) : Session m Unit :=
  let top := commandsFor args
  match request top args with
  | .fail msg => throw msg
  | .help p => say (Bytes.ofString (p.help true))
  | .run _ task r =>
    match task with
    | .list => say (Bytes.ofString (deviceTable (r.enabled Options.headers)))
    | .convert => convert c r
    | .check => check c r
    | .generate => generateAll c r
    | .help => helpTopic r
    | .completion shell =>
      match Scripts.forShell shell programName (!r.enabled Options.noDescriptions) with
      | some script => say (Bytes.ofString script)
      | none => pure ()
    | .complete =>
      completeLine top ((plainArgs ((Placed.mk [] top).flags false) args).headD "") r.args

end Session

def run {m : Type → Type} [Monad m] (c : Console m) (args : List String) : m Exit :=
  (Session.dispatch c args).finish programName

end Cli

end RegisterMap

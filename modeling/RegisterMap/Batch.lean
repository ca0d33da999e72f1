import RegisterMap.Pipeline
import RegisterMap.Device
import RegisterMap.Files
import RegisterMap.Fetch.Client

/-!
Regenerating the definitions of a list of devices, one after the other. The output directory
is made first; if that fails, every device fails with that error. Each device's header is
downloaded, converted and written to `<out>/<id>.<ext>`; with `failFast`, a header that cannot
be scanned cancels the devices after it. A progress line is printed per device.
-/

namespace RegisterMap

namespace Batch

inductive Failure where
  | fetch (e : Fetch.FetchError)
  | scan (e : Header.ScanError)
  | file (e : FileError)
  | canceled
  deriving Repr

def Failure.message : Failure → String
  | .fetch e => e.message
  | .scan e => e.message
  | .file e => e.message
  | .canceled => "context canceled"

structure Settings where
  outDir : String
  ext : String := ""
  failFast : Bool := false
  overrides : Overrides := .empty
  dialect : Dialect := .default
  logPrefix : Option String := none
  progress : Bool := true

structure Outcome where
  device : Device
  result : Except Failure String

/-- What a batch did: the outcome of each device in order, the progress text and the logged
lines. -/
structure Report where
  outcomes : List Outcome
  progress : String
  log : List String

def Outcome.line (o : Outcome) : String :=
  match o.result with
  | .ok _ => "processing " ++ o.device.id ++ "... done\n"
  | .error f => "processing " ++ o.device.id ++ "... error: " ++ f.message ++ "\n"

def Report.error? (r : Report) : Option String :=
  match r.outcomes.filterMap fun o => match o.result with
    | .error f => some (o.device.id ++ ": " ++ f.message)
    | .ok _ => none with
  | [] => none
  | lines => some ("\n".intercalate lines)

structure Progress where
  outcomes : Array Outcome := #[]
  text : String := ""
  log : Array String := #[]
  canceled : Bool := false

def Settings.target (s : Settings) (d : Device) : String :=
  Paths.join s.outDir (d.id ++ "." ++ (if s.ext.isEmpty then "rs" else s.ext))

def Settings.config (s : Settings) (d : Device) : Config :=
  { name := Bytes.ofString d.name, stem := Bytes.ofString d.stem, doc := Bytes.ofString d.doc,
    overrides := s.overrides, dialect := s.dialect }

/-- Converts a downloaded header of a device and writes it, giving the written path and the
notes of the conversion. -/
def convert [Monad m] (disk : Storage m) (s : Settings) (d : Device) (text : String) :
    m (Except Failure String × List String) := do
  let g := generate (Bytes.ofString text) (s.config d)
  match g.result with
  | .error e => return (.error (.scan e), g.log)
  | .ok data =>
    let path := s.target d
    match ← disk.write path data with
    | .ok () => return (.ok path, g.log)
    | .error e => return (.error (.file e), g.log)

def Progress.record (s : Settings) (p : Progress) (d : Device) (result : Except Failure String)
    (notes : List String) : Progress :=
  let o : Outcome := { device := d, result }
  let logged := match s.logPrefix with
    | some pre => notes.map fun n => pre ++ d.id ++ ": " ++ n
    | none => []
  let stop := match result with
    | .error (.scan (.badValue ..)) => s.failFast
    | _ => false
  { outcomes := p.outcomes.push o,
    text := if s.progress then p.text ++ o.line else p.text,
    log := p.log ++ logged.toArray, canceled := p.canceled || stop }

/-- Processes one device: downloads its header unless the batch was canceled, converts it and
writes the result. -/
def step [Monad m] (disk : Storage m) (fetch : String → m (Except Fetch.FetchError String))
    (s : Settings) (p : Progress) (d : Device) : m Progress := do
  if p.canceled then return p.record s d (.error .canceled) []
  match ← fetch d.header with
  | .error e => return p.record s d (.error (.fetch e)) []
  | .ok text =>
    let (result, notes) ← convert disk s d text
    return p.record s d result notes

def runIn [Monad m] (disk : Storage m) (fetch : String → m (Except Fetch.FetchError String))
    (s : Settings) (ds : List Device) : m Report := do
  match ← disk.mkdirAll s.outDir with
  | .error e =>
    return { outcomes := ds.map fun d => { device := d, result := .error (.file e) },
             progress := "", log := [] }
  | .ok () =>
    let p ← ds.foldlM (step disk fetch s) {}
    return { outcomes := p.outcomes.toList, progress := p.text, log := p.log.toList }

/-- Runs a batch over devices on a directory tree, with a downloader; gives the report and the
tree afterwards. -/
def run (s : Settings) (fetch : String → Except Fetch.FetchError String) (fs : FileSystem)
    (ds : List Device) : Report × FileSystem :=
  Id.run ((runIn FileSystem.storage (fun u => pure (fetch u)) s ds).run fs)

end Batch

end RegisterMap

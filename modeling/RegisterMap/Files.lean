import RegisterMap.Text.Bytes

/-!
A directory tree as a program sees it: files and directories by their path, looked up one
component at a time, and a disk that may hold only so many more bytes. Writing truncates the
file first, so a write that runs out of room leaves the bytes that fit; making a directory with
its parents keeps the parents made before a failure.
-/

namespace RegisterMap

inductive FileFault where
  | notFound
  | notDirectory
  | isDirectory
  | nameTooLong
  | alreadyExists
  | invalidArgument
  | permissionDenied
  | noSpace
  | other (text : String)
  deriving DecidableEq, Repr

def FileFault.text : FileFault → String
  | .notFound => "no such file or directory"
  | .notDirectory => "not a directory"
  | .isDirectory => "is a directory"
  | .nameTooLong => "file name too long"
  | .alreadyExists => "file exists"
  | .invalidArgument => "invalid argument"
  | .permissionDenied => "permission denied"
  | .noSpace => "no space left on device"
  | .other t => t

structure FileError where
  op : String
  path : String
  fault : FileFault
  deriving DecidableEq, Repr

def FileError.message (e : FileError) : String := e.op ++ " " ++ e.path ++ ": " ++ e.fault.text

/-- A directory tree. The working directory is the empty path; a path that starts with `/`
starts at a root that holds nothing. `room` is how many more bytes the disk takes, if it is
limited. -/
structure FileSystem where
  files : List (List String × Bytes) := []
  dirs : List (List String) := []
  room : Option Nat := none
  deriving Repr

inductive Entry where
  | file (data : Bytes)
  | directory
  | absent
  deriving DecidableEq, Repr

namespace FileSystem

def maxName : Nat := 255

def isDir (fs : FileSystem) (p : List String) : Bool :=
  p.isEmpty || p == ["/"] || fs.dirs.contains p

def fileAt (fs : FileSystem) (p : List String) : Option Bytes := fs.files.lookup p

def origin (p : String) : List String := if p.startsWith "/" then ["/"] else []

def step (fs : FileSystem) (cur : List String) (c : String) : Except FileFault (List String) :=
  if c == "" || c == "." then .ok cur
  else if c == ".." then .ok (if cur.length ≤ 1 then cur else cur.dropLast)
  else if maxName < c.utf8ByteSize then .error .nameTooLong
  else
    let next := cur ++ [c]
    if fs.isDir next then .ok next
    else if (fs.fileAt next).isSome then .error .notDirectory
    else .error .notFound

def locate (fs : FileSystem) (p : String) : Except FileFault (List String × String) :=
  let comps := p.splitOn "/"
  let last := comps.getLastD ""
  (comps.dropLast.foldlM (step fs) (origin p)).map fun d => (d, last)

def entryIn (fs : FileSystem) (dir : List String) (last : String) : Except FileFault (List String × Entry) :=
  if last == "" || last == "." then .ok (dir, .directory)
  else if last == ".." then .ok (if dir.length ≤ 1 then dir else dir.dropLast, .directory)
  else if maxName < last.utf8ByteSize then .error .nameTooLong
  else
    let p := dir ++ [last]
    if fs.isDir p then .ok (p, .directory)
    else match fs.fileAt p with
      | some b => .ok (p, .file b)
      | none => .ok (p, .absent)

def lookup (fs : FileSystem) (p : String) : Except FileFault (List String × Entry) := do
  if p.isEmpty then throw .notFound
  if p.contains (Char.ofNat 0) then throw .invalidArgument
  let (dir, last) ← fs.locate p
  fs.entryIn dir last

def read (fs : FileSystem) (p : String) : Except FileError Bytes :=
  match fs.lookup p with
  | .error f => .error ⟨"open", p, f⟩
  | .ok (_, .file b) => .ok b
  | .ok (_, .directory) => .error ⟨"read", p, .isDirectory⟩
  | .ok (_, .absent) => .error ⟨"open", p, .notFound⟩

def openWrite (fs : FileSystem) (p : String) : Except FileError (List String) :=
  match fs.lookup p with
  | .error f => .error ⟨"open", p, f⟩
  | .ok (_, .directory) => .error ⟨"open", p, .isDirectory⟩
  | .ok (q, _) => .ok q

def put (fs : FileSystem) (q : List String) (data : Bytes) : FileSystem :=
  { fs with files := (q, data) :: fs.files.filter (·.1 != q) }

/-- Truncates the file at the place `q` and writes `data` into it, as far as the disk has room,
counting the bytes the truncation frees. -/
def fill (fs : FileSystem) (p : String) (q : List String) (data : Bytes) :
    Except FileError Unit × FileSystem :=
  match fs.room with
  | none => (.ok (), fs.put q data)
  | some n =>
    let free := n + ((fs.fileAt q).map List.length).getD 0
    if data.length ≤ free then (.ok (), { fs.put q data with room := some (free - data.length) })
    else (.error ⟨"write", p, .noSpace⟩, { fs.put q (data.take free) with room := some 0 })

/-- Puts bytes into a file, replacing what it held; gives the tree afterwards, which holds part of
the bytes when the disk ran out of room. -/
def write (fs : FileSystem) (p : String) (data : Bytes) : Except FileError Unit × FileSystem :=
  match fs.openWrite p with
  | .error e => (.error e, fs)
  | .ok q => fs.fill p q data

def mkdir (fs : FileSystem) (p : String) : Except FileError FileSystem :=
  match fs.lookup p with
  | .error f => .error ⟨"mkdir", p, f⟩
  | .ok (_, .directory) => .ok fs
  | .ok (_, .file _) => .error ⟨"mkdir", p, .alreadyExists⟩
  | .ok (q, .absent) => .ok { fs with dirs := q :: fs.dirs }

def lastElement (p : String) : Nat × Nat :=
  let cs := p.toList
  let i := cs.length - (cs.reverse.takeWhile (· == '/')).length
  let j := i - ((cs.take i).reverse.takeWhile (· != '/')).length
  (i, j)

def commit (fs : FileSystem) : Except FileError FileSystem → Except FileError Unit × FileSystem
  | .ok after => (.ok (), after)
  | .error e => (.error e, fs)

/-- Creates a directory and the directories above it that are missing, and gives the tree with
the directories made, also those made before a failure. A file in its place is not a
directory. -/
def mkdirAll (fs : FileSystem) (p : String) : Nat → Except FileError Unit × FileSystem
  | 0 => fs.commit (fs.mkdir p)
  | fuel + 1 =>
    match fs.lookup p with
    | .ok (_, .directory) => (.ok (), fs)
    | .ok (_, .file _) => (.error ⟨"mkdir", p, .notDirectory⟩, fs)
    | _ =>
      let (_, j) := lastElement p
      let parent := if 1 < j then fs.mkdirAll (String.ofList (p.toList.take (j - 1))) fuel
        else (.ok (), fs)
      match parent with
      | (.error e, made) => (.error e, made)
      | (.ok (), made) => made.commit (made.mkdir p)

def listing (fs : FileSystem) : List (String × Bytes) :=
  (fs.files.map fun (p, b) => ("/".intercalate p, b)).reverse

end FileSystem

structure Storage (m : Type → Type) where
  read : String → m (Except FileError Bytes)
  write : String → Bytes → m (Except FileError Unit)
  mkdirAll : String → m (Except FileError Unit)

namespace FileSystem

def storage : Storage (StateM FileSystem) where
  read p := return (← get).read p
  write p data := modifyGet fun fs => fs.write p data
  mkdirAll p := modifyGet fun fs => fs.mkdirAll p (p.length + 1)

end FileSystem

namespace Paths

/-- A path in its shortest form: no empty or `.` components, no `..` after a name, and no
`..` at the root. The empty path is `.`. -/
def clean (p : String) : String :=
  let rooted := p.startsWith "/"
  let step := fun (acc : List String) (c : String) =>
    if c == "" || c == "." then acc
    else if c == ".." then
      match acc with
      | top :: rest => if top == ".." then c :: acc else rest
      | [] => if rooted then [] else [c]
    else c :: acc
  let parts := ((p.splitOn "/").foldl step []).reverse
  let body := "/".intercalate parts
  if rooted then "/" ++ body else if body.isEmpty then "." else body

def join (a b : String) : String :=
  if a.isEmpty then (if b.isEmpty then "" else clean b)
  else if b.isEmpty then clean a
  else clean (a ++ "/" ++ b)

end Paths

end RegisterMap

import RegisterMap.Cli.Program

/-!
The program's entry point: the command line of the generator on the machine's files and
standard streams. Downloads go through a network where no server can be reached.
-/

namespace RegisterMap

namespace Machine

def errorNumber : IO.Error → Option UInt32
  | .alreadyExists _ n _ | .otherError n _ | .resourceBusy n _ | .resourceVanished n _
  | .unsupportedOperation n _ | .hardwareFault n _ | .unsatisfiedConstraints n _
  | .illegalOperation n _ | .protocolError n _ | .timeExpired n _ | .interrupted _ n _
  | .noFileOrDirectory _ n _ | .invalidArgument _ n _ | .permissionDenied _ n _
  | .resourceExhausted _ n _ | .inappropriateType _ n _ | .noSuchThing _ n _ => some n
  | _ => none

def faultOf (e : IO.Error) : FileFault :=
  match errorNumber e with
  | some 2 => .notFound
  | some 13 => .permissionDenied
  | some 17 => .alreadyExists
  | some 20 => .notDirectory
  | some 21 => .isDirectory
  | some 22 => .invalidArgument
  | some 28 => .noSpace
  | some 36 => .nameTooLong
  | _ => .other (toString e)

def disk : Storage IO where
  read p := do
    try
      let data ← IO.FS.readBinFile ⟨p⟩
      return .ok data.toList
    catch e =>
      let fault := faultOf e
      return .error ⟨if fault == .isDirectory then "read" else "open", p, fault⟩
  write p data := do
    match ← (IO.FS.Handle.mk ⟨p⟩ .write).toBaseIO with
    | .error e => return .error ⟨"open", p, faultOf e⟩
    | .ok h =>
      try
        h.write (ByteArray.mk data.toArray)
        h.flush
        return .ok ()
      catch e => return .error ⟨"write", p, faultOf e⟩
  mkdirAll p := do
    try
      IO.FS.createDirAll ⟨p⟩
      return .ok ()
    catch e => return .error ⟨"mkdir", p, faultOf e⟩

partial def readAll (s : IO.FS.Stream) (acc : ByteArray) : IO ByteArray := do
  let chunk ← s.read 65536
  if chunk.isEmpty then return acc else readAll s (acc ++ chunk)

def console : Cli.Console IO where
  disk := disk
  stdin := do return (← readAll (← IO.getStdin) ByteArray.empty).toList
  download f url := return (f.fetch Fetch.Network.none false url).result

end Machine

end RegisterMap

def main (args : List String) : IO UInt32 := do
  let exit ← RegisterMap.Cli.run RegisterMap.Machine.console args
  let out ← IO.getStdout
  out.write (ByteArray.mk exit.out.toArray)
  out.flush
  let err ← IO.getStderr
  err.putStr exit.err
  err.flush
  return exit.code.toUInt32

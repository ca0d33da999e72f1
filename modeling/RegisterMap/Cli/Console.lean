import RegisterMap.Files
import RegisterMap.Fetch.Client

/-!
What a run of the command line needs from the machine it runs on: its files, its standard input
and downloads, as operations in a monad. The simulated console keeps a directory tree as state,
has a fixed standard input and downloads from a given network, so that a run is a function of
these and its arguments.
-/

namespace RegisterMap

namespace Cli

structure Console (m : Type → Type) where
  disk : Storage m
  stdin : m Bytes
  download : Fetch.Fetcher → String → m (Except Fetch.FetchError String)

/-- A console over a directory tree held as state, with standard input `input` and the
servers of `net`. -/
def Console.simulated (input : Bytes) (net : Fetch.Network) : Console (StateM FileSystem) where
  disk := FileSystem.storage
  stdin := pure input
  download f url := pure (f.fetch net false url).result

structure Streams where
  out : Bytes := []
  err : String := ""
  deriving Repr

structure Exit where
  out : Bytes
  err : String
  code : Nat
  deriving Repr

abbrev Session (m : Type → Type) := ExceptT String (StateT Streams m)

namespace Session

variable {m : Type → Type} [Monad m]

def say (b : Bytes) : Session m Unit := modify fun s => { s with out := s.out ++ b }

def warn (t : String) : Session m Unit := modify fun s => { s with err := s.err ++ t }

def ofExcept {α : Type} : Except String α → Session m α
  | .ok a => pure a
  | .error e => throw e

def warnLines (lines : List String) : Session m Unit :=
  warn (String.join (lines.map fun l => if l.endsWith "\n" then l else l ++ "\n"))

end Session

/-- Ends a session under a program's name: an error is written on the standard error after the
name and gives status 1. -/
def Session.finish {m : Type → Type} [Monad m] (program : String) (s : Session m Unit) : m Exit := do
  let (result, streams) ← (ExceptT.run s).run {}
  match result with
  | .ok () => return { out := streams.out, err := streams.err, code := 0 }
  | .error msg =>
    let line := program ++ ": " ++ msg
    return { out := streams.out, err := streams.err ++ (if line.endsWith "\n" then line else line ++ "\n"),
             code := 1 }

end Cli

end RegisterMap

import Overseer.Environment
import Overseer.Text.Decimal

namespace Overseer

open Overseer.Text

def defaultMarker : String := "Listening on:"

def defaultChunkSize : Nat := 1024

def defaultMaxLine : Nat := 64 * 1024

def dispatcherName : String := "supervisor-events"

structure Config where
  marker : String
  chunkSize : Nat
  maxLine : Nat
deriving DecidableEq

namespace Config

def default : Config := ⟨defaultMarker, defaultChunkSize, defaultMaxLine⟩

-- A read that asks for nothing would never end.
def withChunkSize (config : Config) (size : Nat) : Config :=
  { config with chunkSize := max size 1 }

-- An empty marker and a chunk size that is no positive number keep the
-- default.
def ofEnvironment (environment : Environment) : Config :=
  let marker :=
    match environment.text? "LAUNCHER_READINESS_MARKER" with
    | some marker => if marker = "" then defaultMarker else marker
    | none => defaultMarker
  let chunkSize :=
    match (environment.text? "LAUNCHER_READ_CHUNK").bind unsigned with
    | some size => if size = 0 then defaultChunkSize else size
    | none => defaultChunkSize
  ⟨marker, chunkSize, defaultMaxLine⟩

end Config

end Overseer

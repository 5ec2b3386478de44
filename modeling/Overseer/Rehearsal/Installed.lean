import Overseer.Loader.Basic
import Overseer.Machine.Image
import Overseer.Machine.Places

namespace Overseer.Rehearsal

open Overseer.Loader
open Overseer.Machine

-- Libraries as they lie on a machine, opened where they are.

-- Some of what others can look up in the libraries of the system. A name is
-- also found in the library that all others need.
def systemNames : List String :=
  ["abort", "calloc", "environ", "exit", "fork", "free", "getenv", "getpid", "kill", "malloc",
    "memcpy", "open", "printf", "puts", "qsort_r", "read", "strlen", "strtod", "write"]

def mathematicalNames : List String :=
  ["cos", "cosf", "exp", "floor", "log", "pow", "sin", "sinf", "sqrt", "tan"]

def namesOf (library : String) : List String :=
  if library = "libm.so.6" then mathematicalNames ++ systemNames else systemNames

def unterminated? (name : List UInt8) : Option (List UInt8) :=
  let name := if name.getLast? = some 0 then name.dropLast else name
  if name.contains 0 then none else some name

def loading (files : Files) (path : Path) (symbol : String) : Loading :=
  let name := unterminated? (Text.Utf8.encode symbol)
  match (unterminated? path.bytes).map (lookupPath files) with
  | some (.ok (.library library)) =>
      .loaded (name.any fun name =>
        (namesOf library).contains (Text.Utf8.text name))
  | some (.ok (.ordinary node)) =>
      -- No symbol has a name with a zero in it.
      Image.load (files.content node) (name.getD [0])
  | _ => .refused

-- Opening closes the library again when the symbol is not there. Whoever opens
-- a deadly library does not live to see that it cannot be opened.
def openInstalled (files : Files) : Opener Unit := fun _ path symbol =>
  match loading files path symbol with
  | .refused | .deadly _ =>
      (.error (.libraryOpen path
        (path.display ++ ": cannot open shared object file: No such file or directory")), ())
  | .loaded true => (.ok ⟨path, true⟩, ())
  | .loaded false =>
      (.error (.symbolMissing path symbol (path.display ++ ": undefined symbol: " ++ symbol)), ())

end Overseer.Rehearsal

import Overseer.Path

namespace Overseer

-- What can go wrong, by cause, and how it is explained.

inductive LoadFault
  | homeNotSet
  | libraryOpen (path : Path) (reason : String)
  | symbolMissing (path : Path) (symbol : String) (reason : String)
deriving DecidableEq

namespace LoadFault

def message : LoadFault → String
  | homeNotSet => "Runtime home not set"
  | libraryOpen path reason => "Failed to load " ++ path.display ++ ": " ++ reason
  | symbolMissing path symbol reason =>
      "Symbol " ++ symbol ++ " not found in " ++ path.display ++ ": " ++ reason

def name : LoadFault → String
  | homeNotSet => "home_not_set"
  | libraryOpen _ _ => "library_open"
  | symbolMissing _ _ _ => "symbol_missing"

def code (fault : LoadFault) : String := "runtime::" ++ fault.name

def help : LoadFault → String
  | homeNotSet =>
      "Call set_home() with the runtime install directory before requesting the entry point."
  | libraryOpen _ _ =>
      "Verify the runtime install contains the native library for this platform."
  | symbolMissing _ _ _ =>
      "The library loaded but does not export the expected entry point. " ++
        "Is this the right runtime?"

end LoadFault

abbrev Pid := UInt32

inductive Fault
  | spawnFailed (program : String) (reason : String)
  | terminationFailed (pid : Pid) (reason : String)
  | runtime (fault : LoadFault)
  | io (reason : String)
deriving DecidableEq

namespace Fault

def message : Fault → String
  | spawnFailed program reason => "Failed to spawn '" ++ program ++ "': " ++ reason
  | terminationFailed pid reason =>
      "Failed to signal process group " ++ toString pid.toNat ++ ": " ++ reason
  | runtime fault => fault.message
  | io reason => "I/O error: " ++ reason

def name : Fault → String
  | spawnFailed _ _ => "spawn_failed"
  | terminationFailed _ _ => "termination_failed"
  | runtime _ => "runtime"
  | io _ => "io"

def code : Fault → String
  | runtime fault => fault.code
  | fault => "supervisor::" ++ fault.name

def help : Fault → Option String
  | spawnFailed _ _ =>
      some ("Check that the runtime home points at a valid install and that the launcher " ++
        "may execute it.")
  | terminationFailed _ _ =>
      some ("The process may already be gone, or the launcher lacks permission to signal it.")
  | runtime fault => some fault.help
  | io _ => none

end Fault

end Overseer

import Overseer.Path
import Overseer.Shell.Command

namespace Overseer.Machine

open Overseer.Shell
open Overseer.Text

-- The files of a machine, and which of them a path leads to.

inductive Device
  | null
  | zeros
  | full
  -- There is no terminal.
  | terminal
deriving DecidableEq

inductive Entry
  | directory
  | plain
  | device (device : Device)
  | descriptor (number : Nat)
  | program (name : String)
  | library (name : String)
  | link (target : Bytes)
  | ordinary (node : Nat)
deriving DecidableEq

structure Node where
  content : Bytes
  executable : Bool

structure Files where
  entries : List (Bytes × Entry)
  nodes : List (Nat × Node)
  nextNode : Nat
  environment : List (String × Bytes)
  here : Option Bytes

inductive FileFault
  | missing
  | denied
  | notDirectory
  | isDirectory
  | occupied
  | nameTooLong
  | tooManyLinks
  | noDevice
  | argumentsTooLong
  | zeroInside
deriving DecidableEq

def FileFault.reason : FileFault → String
  | missing => "No such file or directory"
  | denied => "Permission denied"
  | notDirectory => "Not a directory"
  | isDirectory => "Is a directory"
  | occupied => "File exists"
  | nameTooLong => "File name too long"
  | tooManyLinks => "Too many levels of symbolic links"
  | noDevice => "No such device or address"
  | argumentsTooLong => "Argument list too long"
  | zeroInside => "nul byte found in provided data"

-- The number under which the system knows it, if it gets that far.
def FileFault.number? : FileFault → Option Nat
  | missing => some 2
  | denied => some 13
  | notDirectory => some 20
  | isDirectory => some 21
  | occupied => some 17
  | nameTooLong => some 36
  | tooManyLinks => some 40
  | noDevice => some 6
  | argumentsTooLong => some 7
  | zeroInside => none

def FileFault.message (fault : FileFault) : String :=
  match fault.number? with
  | some number => fault.reason ++ " (os error " ++ toString number ++ ")"
  | none => fault.reason

def standardDirectories : List String :=
  ["/", "/dev", "/etc", "/home", "/proc", "/proc/self", "/proc/self/fd", "/root", "/run", "/tmp",
    "/usr", "/usr/bin", "/usr/lib", "/usr/lib/x86_64-linux-gnu", "/usr/local", "/usr/local/bin",
    "/usr/sbin", "/var", "/var/tmp"]

def standardFiles : List String :=
  ["/etc/group", "/etc/hostname", "/etc/hosts", "/etc/passwd", "/proc/version"]

-- What the system itself is made of lies under one directory, to which the
-- others lead.
def standardLinks : List (String × String) :=
  [("/bin", "usr/bin"), ("/sbin", "usr/sbin"), ("/lib", "usr/lib"), ("/lib64", "usr/lib"),
    ("/dev/fd", "/proc/self/fd"), ("/dev/stdin", "/proc/self/fd/0"),
    ("/dev/stdout", "/proc/self/fd/1"), ("/dev/stderr", "/proc/self/fd/2"),
    ("/proc/self/root", "/"), ("/usr/bin/sh", "dash")]

def standardDevices : List (String × Device) :=
  [("/dev/full", .full), ("/dev/null", .null), ("/dev/tty", .terminal), ("/dev/zero", .zeros)]

def programNames : List String :=
  ["[", "cat", "cut", "dash", "echo", "false", "head", "mktemp", "printf", "rm", "sed", "seq",
    "setsid", "sleep", "sort", "test", "tr", "true", "wc"]

def libraryNames : List String := ["libc.so.6", "libm.so.6"]

def programDirectory : String := "/usr/bin/"

def libraryDirectory : String := "/usr/lib/x86_64-linux-gnu/"

def somewhere : Bytes := [Path.dot]

def Files.standard : Files :=
  let named (entry : String × Entry) : Bytes × Entry := (Utf8.encode entry.1, entry.2)
  let entries : List (String × Entry) :=
    (standardDirectories.map fun path => (path, .directory)) ++
      (standardFiles.map fun path => (path, .plain)) ++
      (standardDevices.map fun (path, device) => (path, .device device)) ++
      ((List.range 10).map fun n => ("/proc/self/fd/" ++ toString n, .descriptor n)) ++
      (standardLinks.map fun (path, target) => (path, .link (Utf8.encode target))) ++
      (programNames.map fun name => (programDirectory ++ name, .program name)) ++
      (libraryNames.map fun name => (libraryDirectory ++ name, .library name))
  { entries := (somewhere, .directory) :: entries.map named
    nodes := [], nextNode := 0, environment := [], here := none }

def Files.find (files : Files) (path : Bytes) : Option Entry :=
  (files.entries.find? fun entry => entry.1 = path).map Prod.snd

def Files.node? (files : Files) (number : Nat) : Option Node := files.nodes.lookup number

-- What is in an ordinary file.
def Files.content (files : Files) (number : Nat) : Bytes :=
  ((files.node? number).map Node.content).getD []

def Files.isExecutable (files : Files) (number : Nat) : Bool :=
  (files.node? number).any Node.executable

def Files.children (files : Files) (directory : Bytes) : List Bytes :=
  let start := if directory = [Path.slash] then directory else directory ++ [Path.slash]
  let names := files.entries.filterMap fun entry =>
    if start.isPrefixOf entry.1 && start.length < entry.1.length &&
        !(entry.1.drop start.length).contains Path.slash then
      some (entry.1.drop start.length)
    else none
  names.mergeSort

end Overseer.Machine

import Overseer.Shell.Condition
import Overseer.Tool.Desk

namespace Overseer.Tool

open Overseer.Machine
open Overseer.Shell
open Overseer.Text

-- What conditions find out about files.

-- What is asked of the file with a name. The first user may do everything that
-- somebody may do, and all files are that user's.
def examineFile (files : Files) (operator : String) (name : Bytes) : Bool :=
  if operator = "-h" || operator = "-L" then
    match files.find? false name with
    | .ok (_, .link _) => true
    | _ => false
  else
    match files.find? true name with
    | .error _ => false
    | .ok (place, entry) =>
        match operator, entry with
        | "-e", _ | "-r", _ | "-w", _ | "-O", _ | "-G", _ => true
        | "-d", entry => entry = .directory
        | "-c", .device _ => true
        | "-f", .plain | "-f", .program _ | "-f", .library _ | "-f", .ordinary _ => true
        | "-s", .ordinary node => !(files.content node).isEmpty
        | "-s", .plain => !(Utf8.encode "/proc/").isPrefixOf place
        | "-s", .program _ | "-s", .library _ | "-s", .directory => true
        | "-x", .directory | "-x", .program _ => true
        | "-x", .ordinary node => files.isExecutable node
        | "-k", .directory => [Utf8.encode "/tmp", Utf8.encode "/var/tmp"].contains place
        | _, _ => false

def witness (files : Files) : Witness where
  examine := examineFile files
  same a b :=
    match files.find? true a, files.find? true b with
    | .ok (place, .ordinary node), .ok (other, .ordinary same) => place = other || node = same
    | .ok (place, _), .ok (other, _) => place = other
    | _, _ => false

def badConditionMessage : BadCondition → Bytes
  | .unclosed => Utf8.encode "missing ']'"
  | .badNumber text => Utf8.encode "invalid integer " ++ inApostrophes text
  | .unexpected text => Utf8.encode "extra argument " ++ inApostrophes text
  | .noOperand operator => Utf8.encode "missing argument after " ++ inApostrophes operator
  | .unclosedGroup => Utf8.encode "')' expected"

def examine (arguments : List Bytes) : Work Unit := do
  match condition (witness (← get).files) arguments with
  | .ok value => setStatus (if value then 0 else 1)
  | .error bad => complain 2 (badConditionMessage bad)

def examineBracketed (arguments : List Bytes) : Work Unit :=
  if arguments.getLast? = some [93] then examine arguments.dropLast
  else complain 2 (badConditionMessage .unclosed)

end Overseer.Tool

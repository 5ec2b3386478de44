import Overseer.Machine.Storage
import Overseer.Shell.Expansion

namespace Overseer.Tool

open Overseer.Machine
open Overseer.Shell
open Overseer.Text

-- Programs that work on texts and files, each of which does everything at once
-- when it has all that it reads.

structure Desk where
  name : Bytes
  files : Files
  environment : List (String × Bytes)
  input : Option Bytes
  -- The input was asked for before all of it was there.
  waits : Bool
  -- The newest first, and whether it is a complaint.
  written : List (Bool × Bytes)
  status : Nat

abbrev Work := StateM Desk

def Desk.start (name : Bytes) (files : Files) (environment : List (String × Bytes))
    (input : Option Bytes) : Desk :=
  { name, files, environment, input, waits := false, written := [], status := 0 }

def say (bytes : Bytes) : Work Unit :=
  modify fun desk => { desk with written := (false, bytes) :: desk.written }

def warn (bytes : Bytes) : Work Unit :=
  modify fun desk => { desk with written := (true, bytes) :: desk.written }

def setStatus (status : Nat) : Work Unit := modify fun desk => { desk with status }

-- A failure of some kind. A worse one stays.
def fail (status : Nat) : Work Unit :=
  modify fun desk => { desk with status := max desk.status status }

def complain (status : Nat) (text : Bytes) : Work Unit := do
  warn ((← get).name ++ Utf8.encode ": " ++ text ++ [10])
  fail status

def inApostrophes (name : Bytes) : Bytes := 39 :: name ++ [39]

def shown (name : Bytes) : Bytes :=
  let plain (byte : UInt8) : Bool :=
    (48 ≤ byte && byte ≤ 57) || (65 ≤ byte && byte ≤ 90) || (97 ≤ byte && byte ≤ 122) ||
      [37, 43, 44, 45, 46, 47, 58, 64, 95, 93].contains byte || 128 ≤ byte
  if !name.isEmpty && name.all plain then name else inApostrophes name

def plainComplaint (name : Bytes) (fault : FileFault) : Bytes :=
  shown name ++ Utf8.encode (": " ++ fault.reason)

def seeHelp (status : Nat) : Work Unit := do
  let name := (← get).name
  warn (Utf8.encode "Try '" ++ name ++ Utf8.encode " --help' for more information.\n")
  fail status

def misused (status : Nat) (text : Bytes) : Work Unit := do
  complain status text
  seeHelp status

def readInput : Work Bytes := do
  let desk ← get
  match desk.input with
  | some bytes =>
      set { desk with input := some [] }
      pure bytes
  | none =>
      set { desk with waits := true }
      pure []

def isHyphen (name : Bytes) : Bool := name = [45]

-- What a file has in it. A hyphen stands for the input.
def readNamed (name : Bytes) : Work (Except FileFault Bytes) := do
  if isHyphen name then do pure (.ok (← readInput))
  else
    match lookupPath (← get).files name with
    | .ok (.ordinary node) => pure (.ok ((← get).files.content node))
    | .ok (.descriptor 0) => do pure (.ok (← readInput))
    | .ok .directory => pure (.error .isDirectory)
    | .ok (.device .terminal) => pure (.error .noDevice)
    | .ok _ => pure (.ok [])
    | .error fault => pure (.error fault)

def forFiles (names : List Bytes) (complaint : Bytes → FileFault → Bytes)
    (work : Bytes → Work Unit) : Work Unit :=
  (if names.isEmpty then [[45]] else names).forM fun name => do
    match ← readNamed name with
    | .ok bytes => work bytes
    | .error fault => complain 1 (complaint name fault)

def splitOn (separator : UInt8) (bytes : Bytes) : List Bytes :=
  let (fields, last) := bytes.foldr
    (fun byte (fields, current) =>
      if byte = separator then (current :: fields, []) else (fields, byte :: current))
    (([] : List Bytes), ([] : Bytes))
  last :: fields

def linesOf (bytes : Bytes) : List Bytes :=
  if bytes.isEmpty then []
  else splitOn 10 (if bytes.getLast? = some 10 then bytes.dropLast else bytes)

def unlines (lines : List Bytes) : Bytes := lines.flatMap fun line => line ++ [10]

def isDigit (byte : UInt8) : Bool := 48 ≤ byte && byte ≤ 57

end Overseer.Tool

import Overseer.Machine.Basic
import Overseer.Tool.Index

namespace Overseer.Machine

open Overseer.Shell
open Overseer.Text

-- Which programs there are, and what they do.

-- A shell at the beginning of a script. It reads the script as it runs, so it
-- does not know its last command for the last.
def shellStart (line : Nat) (scope : Scope) (script : List Char) : Program :=
  .shell
    { scope, frames := [.lines (Token.ofScript line script)], traps := [], caught := []
      rouse := 0, jobs := [], printed := 0, functions := [], aliases := [], yields := false
      evaluates := false }

def duration? (text : Bytes) : Option Nat := do
  let (length, unit) ← readDecimal? (Utf8.text text).toList
  let seconds ← [([], 1), (['s'], 1), (['m'], 60), (['h'], 3600), (['d'], 86400)].lookup unit
  if length.value < 0 then none
  else some (length.value.toNat * 1000 * millisecond * seconds / Nat.pow 10 length.places)

def misused (called : Bytes) (texts : List Bytes) (status : Nat) : Program :=
  let lines := texts.flatMap fun text => called ++ Utf8.encode ": " ++ text ++ [10]
  .print []
    (lines ++ Utf8.encode "Try '" ++ called ++ Utf8.encode " --help' for more information.\n")
    status

def sleeper (now : Nat) (called : Bytes) (arguments : List Bytes) : Program :=
  match Tool.choose ⟨"", "", true⟩ arguments with
  | .error text => misused called [text] 1
  | .ok chosen =>
      let lengths := chosen.operands
      let wrong := lengths.filter fun length => (duration? length).isNone
      if lengths.isEmpty then misused called [Utf8.encode "missing operand"] 1
      else if !wrong.isEmpty then
        misused called
          (wrong.map fun text => Utf8.encode "invalid time interval " ++ Tool.inApostrophes text) 1
      else .sleep (now + (lengths.filterMap duration?).foldl Nat.add 0)

-- The options before a shell's other arguments, in one scope with those that
-- remain, and whether a script is among these.
def shellOptions (script : Bool) : Nat → Scope → Except Bytes (Bool × Scope)
  | 0, scope => .ok (script, scope)
  | fuel + 1, scope =>
      match scope.arguments with
      | (sign :: letters) :: rest =>
          if sign ≠ 45 && sign ≠ 43 then .ok (script, scope)
          else if sign = 45 && (letters = [] || letters = [45]) then
            .ok (script, { scope with arguments := rest })
          else
            let plain := letters.filter fun letter => letter ≠ 99 && letter ≠ 111
            let named := letters.contains 111
            match scope.turnAll (sign = 45) plain with
            | .error wrong => .error (Utf8.encode "Illegal option -" ++ [wrong])
            | .ok scope =>
                let scope := { scope with arguments := if named then rest.drop 1 else rest }
                match named, rest with
                | true, name :: _ =>
                    match scope.turnNamed? (sign = 45) (Utf8.text name) with
                    | some scope => shellOptions (script || letters.contains 99) fuel scope
                    | none => .error (Utf8.encode "Illegal option -o " ++ name)
                | _, _ => shellOptions (script || letters.contains 99) fuel scope
      | _ => .ok (script, scope)

def openComplaint (creates : Bool) (name : Bytes) (fault : FileFault) : Bytes :=
  let (before, unknown) :=
    if creates then ("cannot create ", "Directory nonexistent")
    else ("cannot open ", "No such file")
  let reason := if fault = .missing || fault = .notDirectory then unknown else fault.reason
  Utf8.encode before ++ name ++ Utf8.encode (": " ++ reason)

def shellProgram (files : Files) (name : Bytes) (arguments : List Bytes)
    (environment : List (String × Bytes)) : Program :=
  let refused (text : Bytes) : Program :=
    .print [] (name ++ Utf8.encode ": 0: " ++ text ++ [10]) 2
  match shellOptions false (arguments.length + 1) (.start name arguments environment) with
  | .error text => refused text
  | .ok (true, scope) =>
      match scope.arguments with
      | [] => refused (Utf8.encode "-c requires an argument")
      | script :: names =>
          shellStart 1 { scope with name := names.headD name, arguments := names.drop 1 }
            (Utf8.text script).toList
  | .ok (false, scope) =>
      match scope.arguments with
      | file :: rest =>
          if scope.has 115 then .script scope []
          else
            match lookupPath files file with
            | .ok (.ordinary node) =>
                shellStart 1 { scope with name := file, arguments := rest }
                  (Utf8.text (files.content node)).toList
            | .ok _ => .print [] [] 0
            | .error fault => refused (openComplaint false file fault)
      | [] => .script scope []

def program (now : Nat) (files : Files) (environment : List (String × Bytes)) (name : String)
    (called : Bytes) (arguments : List Bytes) : Program :=
  let tool := Program.tool ⟨name, called, arguments, environment⟩
  match name with
  | "dash" => shellProgram files called arguments environment
  | "sleep" => sleeper now called arguments
  | "cat" => if arguments.all Tool.isHyphen then .copy called else tool
  | "head" =>
      match Tool.portionOf arguments with
      | .ok (portion, []) => .head portion.lines portion.count
      | _ => tool
  | _ => tool

end Overseer.Machine

import Overseer.Tool.Desk

namespace Overseer.Tool

open Overseer.Shell
open Overseer.Text

-- Options among the arguments of a tool.

-- The letters of the options that a tool knows, and those that take an argument
-- of their own.
structure OptionTable where
  plain : String
  withArgument : String
  -- Options may come after other arguments.
  permutes : Bool

structure Chosen where
  options : List (Char × Bytes)
  operands : List Bytes

def Chosen.has (chosen : Chosen) (letter : Char) : Bool :=
  chosen.options.any fun option => option.1 = letter

def Chosen.last? (chosen : Chosen) (letter : Char) : Option Bytes :=
  (chosen.options.reverse.find? fun option => option.1 = letter).map Prod.snd

-- The letters of one argument, the first of which may use the rest up or ask
-- for the next argument.
def letters (table : OptionTable) : Bytes → List Bytes →
    Except Bytes (List (Char × Bytes) × List Bytes)
  | [], rest => .ok ([], rest)
  | byte :: bytes, rest =>
      let letter := Char.ofNat byte.toNat
      if table.plain.toList.contains letter then
        (letters table bytes rest).map fun (others, rest) => ((letter, []) :: others, rest)
      else if table.withArgument.toList.contains letter then
        if !bytes.isEmpty then .ok ([(letter, bytes)], rest)
        else
          match rest with
          | argument :: rest => .ok ([(letter, argument)], rest)
          | [] => .error (Utf8.encode "option requires an argument -- " ++ inApostrophes [byte])
      else .error (Utf8.encode "invalid option -- " ++ inApostrophes [byte])

-- Every round uses up an argument.
def chooseWithin (table : OptionTable) : Nat → List Bytes → Except Bytes Chosen
  | 0, arguments => .ok ⟨[], arguments⟩
  | fuel + 1, arguments =>
      match arguments with
      | [] => .ok ⟨[], []⟩
      | [45, 45] :: rest => .ok ⟨[], rest⟩
      | (45 :: 45 :: name) :: _ =>
          .error (Utf8.encode "unrecognized option '--" ++ name ++ [39])
      | (45 :: byte :: bytes) :: rest => do
          let (found, rest) ← letters table (byte :: bytes) rest
          let others ← chooseWithin table fuel rest
          pure ⟨found ++ others.options, others.operands⟩
      | operand :: rest =>
          if table.permutes then do
            let others ← chooseWithin table fuel rest
            pure ⟨others.options, operand :: others.operands⟩
          else .ok ⟨[], operand :: rest⟩

def choose (table : OptionTable) (arguments : List Bytes) : Except Bytes Chosen :=
  chooseWithin table (arguments.length + 1) arguments

def choosing (table : OptionTable) (status : Nat) (arguments : List Bytes)
    (work : Chosen → Work Unit) : Work Unit :=
  match choose table arguments with
  | .ok chosen => work chosen
  | .error text => misused status text

end Overseer.Tool

import Overseer.Shell.Printing
import Overseer.Tool.Options

namespace Overseer.Tool

open Overseer.Machine
open Overseer.Shell
open Overseer.Text

-- Tools that print something made of their arguments alone.

def isEchoOption (argument : Bytes) : Bool :=
  match argument with
  | 45 :: letter :: letters =>
      (letter :: letters).all fun letter => [110, 101, 69].contains letter
  | _ => false

def echo (arguments : List Bytes) : Work Unit := do
  let options := arguments.takeWhile isEchoOption
  let letters := options.flatMap (List.drop 1)
  let words := Scope.spaced (arguments.drop options.length)
  let resolves := letters.reverse.find? fun letter => letter = 101 || letter = 69
  let (text, stops) := if resolves = some 101 then resolve words else (words, false)
  say (if stops || letters.contains 110 then text else text ++ [10])

def printFaultMessage : PrintFault → Bytes
  | .notNumber argument => inApostrophes argument ++ Utf8.encode ": expected a numeric value"
  | .partly argument => inApostrophes argument ++ Utf8.encode ": value not completely converted"
  | .tooFar argument =>
      inApostrophes argument ++ Utf8.encode ": Numerical result out of range"
  | .badDirective directive | .noLetter directive =>
      directive ++ Utf8.encode ": invalid conversion specification"
  | .noFormat => Utf8.encode "missing operand"
  | .excess argument =>
      Utf8.encode "warning: ignoring excess arguments, starting with " ++ inApostrophes argument

def format (arguments : List Bytes) : Work Unit := do
  let printed := printf arguments
  say printed.text
  printed.faults.forM fun fault =>
    match fault with
    | .noFormat => misused 1 (printFaultMessage fault)
    | .excess _ => complain 0 (printFaultMessage fault)
    | fault => complain 1 (printFaultMessage fault)

def decimalOf? (text : Bytes) : Option Decimal :=
  match readDecimal? (Utf8.text text).toList with
  | some (decimal, []) => some decimal
  | _ => none

def scaledTo (places : Nat) (decimal : Decimal) : Int :=
  decimal.value * (Nat.pow 10 (places - decimal.places) : Nat)

def steps (first step last : Decimal) : List Bytes :=
  let places := max first.places step.places
  let exact := max places last.places
  let (start, step, stop) := (scaledTo exact first, scaledTo exact step, scaledTo exact last)
  let size : Nat :=
    if (0 < step && stop < start) || (step < 0 && start < stop) then 0
    else ((stop - start) / step).toNat + 1
  let shrink : Int := (Nat.pow 10 (exact - places) : Nat)
  (List.range size).map fun (i : Nat) => Utf8.encode (pointed places ((start + step * i) / shrink))

-- Options come before the numbers, some of which look like options.
def isNumeric (argument : Bytes) : Bool :=
  match argument with
  | 45 :: second :: _ => isDigit second || second = Path.dot
  | _ => false

def countOut (arguments : List Bytes) : Work Unit :=
  let numbers := arguments.dropWhile fun argument => !isNumeric argument
  let given := arguments.take (arguments.length - numbers.length)
  choosing ⟨"", "s", false⟩ 1 given fun chosen =>
    let operands := chosen.operands ++ numbers
    match operands.mapM decimalOf? with
    | none =>
        let wrong := (operands.find? fun text => (decimalOf? text).isNone).getD []
        misused 1 (Utf8.encode "invalid floating point argument: " ++ inApostrophes wrong)
    | some decimals =>
        let shown (first step last : Decimal) : Work Unit :=
          if step.value = 0 then
            misused 1 (Utf8.encode "invalid Zero increment value: " ++
              inApostrophes ((operands[1]?).getD []))
          else
            let lines := steps first step last
            if lines.isEmpty then pure ()
            else say (Scope.joined ((chosen.last? 's').getD [10]) lines ++ [10])
        match decimals with
        | [] => misused 1 (Utf8.encode "missing operand")
        | [last] => shown ⟨1, 0⟩ ⟨1, 0⟩ last
        | [first, last] => shown first ⟨1, 0⟩ last
        | [first, step, last] => shown first step last
        | _ => misused 1 (Utf8.encode "extra operand " ++ inApostrophes ((operands[3]?).getD []))

end Overseer.Tool

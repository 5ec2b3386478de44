import Overseer.Shell.Arithmetic
import Overseer.Shell.Pattern

namespace Overseer.Shell

open Overseer.Text

-- From words to the arguments they stand for. To expand a word can change
-- parameters, and it can be refused.

structure Scope where
  name : Bytes
  arguments : List Bytes
  values : List (String × Bytes)
  exported : List String
  status : Nat
  root : Nat
  lastBackground : Option Nat
  -- The letters of the options that are on.
  options : Bytes

inductive Refusal
  | unset (name : String)
  | required (name : String) (text : Bytes)
  | badSubstitution
  | badName (name : String)
  | badDescriptor
  | badNumber (text : Bytes)
  | arithmetic (reason : String) (expression : Bytes)

def Refusal.message : Refusal → Bytes
  | unset name => Utf8.encode (name ++ ": parameter not set")
  | required name text => Utf8.encode (name ++ ": ") ++ text
  | badSubstitution => Utf8.encode "Bad substitution"
  | badName name => Utf8.encode (name ++ ": bad variable name")
  | badDescriptor => Utf8.encode "Syntax error: Bad fd number"
  | badNumber text => Utf8.encode "Illegal number: " ++ text
  | arithmetic reason expression =>
      Utf8.encode ("arithmetic expression: " ++ reason ++ ": \"") ++ expression ++ [34]

namespace Scope

-- The options that a shell takes, in the order in which it tells them, each
-- with the name that some have besides their letter.
def allOptions : List (UInt8 × String) :=
  [(117, "nounset"), (98, "notify"), (97, "allexport"), (67, "noclobber"), (69, "emacs"),
    (86, "vi"), (118, "verbose"), (120, "xtrace"), (115, "stdin"), (110, "noexec"),
    (109, "monitor"), (105, "interactive"), (73, "ignoreeof"), (102, "noglob"), (101, "errexit")]

def has (scope : Scope) (letter : UInt8) : Bool := scope.options.contains letter

def exitsOnFailure (scope : Scope) : Bool := scope.has 101

def refusesUnset (scope : Scope) : Bool := scope.has 117

def tells (scope : Scope) : Bool := scope.has 120

def exportsAll (scope : Scope) : Bool := scope.has 97

def turn (on : Bool) (scope : Scope) (letter : UInt8) : Scope :=
  let others := scope.options.filter (· ≠ letter)
  { scope with options := if on then letter :: others else others }

def turnAll (on : Bool) (letters : Bytes) (scope : Scope) : Except UInt8 Scope :=
  match letters.find? fun letter => (allOptions.lookup letter).isNone with
  | some wrong => .error wrong
  | none => .ok (letters.foldl (turn on) scope)

def turnNamed? (on : Bool) (name : String) (scope : Scope) : Option Scope :=
  (allOptions.find? fun option => option.2 = name).map fun option => scope.turn on option.1

def numberOf? (bytes : Bytes) : Option Nat :=
  if !bytes.isEmpty && bytes.all fun byte => 48 ≤ byte && byte ≤ 57 then
    some (bytes.foldl (fun n byte => 10 * n + (byte.toNat - 48)) 0)
  else none

def withExported (scope : Scope) (name : String) : Scope :=
  if scope.exported.contains name then scope
  else { scope with exported := name :: scope.exported }

def set (scope : Scope) (name : String) (value : Bytes) : Scope :=
  let values := (name, value) :: scope.values.filter fun entry => entry.1 ≠ name
  let scope := if scope.exportsAll then scope.withExported name else scope
  { scope with values }

-- The parameters that every script begins with. Those of the environment go
-- before the last ones but not before the first.
def firstValues (environment : List (String × Bytes)) : List (String × Bytes) :=
  [("IFS", [32, 9, 10]), ("OPTIND", [49])] ++ environment ++
    [("PS1", Utf8.encode "# "), ("PS2", Utf8.encode "> "), ("PS4", Utf8.encode "+ ")]

def start (name : Bytes) (arguments : List Bytes) (environment : List (String × Bytes)) : Scope :=
  { name, arguments, values := firstValues environment, exported := environment.map Prod.fst
    status := 0, root := 0, lastBackground := none, options := [] }

def unset (scope : Scope) (name : String) : Scope :=
  { scope with
    values := scope.values.filter fun entry => entry.1 ≠ name
    exported := scope.exported.filter (· ≠ name) }

def restore (scope : Scope) (saved : String × Option Bytes) : Scope :=
  match saved.2 with
  | some value => scope.set saved.1 value
  | none => { scope with values := scope.values.filter fun entry => entry.1 ≠ saved.1 }

def environment (scope : Scope) : List (String × Bytes) :=
  scope.values.filter fun entry => scope.exported.contains entry.1

def ofNat (n : Nat) : Bytes := Utf8.encode (toString n)

def ofInt (n : Int) : Bytes := Utf8.encode (toString n)

def spaced : List Bytes → Bytes
  | [] => []
  | [first] => first
  | first :: rest => first ++ 32 :: spaced rest

def joined (separator : Bytes) : List Bytes → Bytes
  | [] => []
  | [first] => first
  | first :: rest => first ++ separator ++ joined separator rest

def separators (scope : Scope) : Bytes := (scope.values.lookup "IFS").getD [32, 9, 10]

def lookup? (scope : Scope) (name : String) : Option Bytes :=
  match name with
  | "?" => some (ofNat scope.status)
  | "$" => some (ofNat scope.root)
  | "!" => scope.lastBackground.map ofNat
  | "#" => some (ofNat scope.arguments.length)
  | "@" | "*" =>
      if scope.arguments.isEmpty then none
      else some (joined (scope.separators.take 1) scope.arguments)
  | "0" => some scope.name
  | "-" => some ((allOptions.map Prod.fst).filter scope.has)
  | _ =>
      match name.toNat? with
      | some n => scope.arguments[n - 1]?
      | none => scope.values.lookup name

-- Parameters that may be without a value even when that is refused.
def isLenient (name : String) : Bool := ["@", "*", "!"].contains name

end Scope

abbrev Expanding (α : Type) := StateT Scope (Except Refusal) α

def assign (name : String) (value : Bytes) : Expanding Unit :=
  modify fun scope => scope.set name value

inductive Obstacle
  | refusal (refusal : Refusal)
  | divisionByZero

-- The value of an expression. Only the side that is needed is looked at.
def Term.evaluate : Term → StateT Scope (Except Obstacle) Int64
  | .number value => pure value
  | .parameter name => do
      let text := ((← get).lookup? name).getD []
      match numberIn? text with
      | some value => pure value
      | none => throw (.refusal (.badNumber text))
  | .unary operator term => do pure (operateOn operator (← term.evaluate))
  | .binary operator first second => do
      let a ← first.evaluate
      let b ← second.evaluate
      match operate operator a b with
      | some value => pure value
      | none => throw .divisionByZero
  | .both first second => do
      let a ← first.evaluate
      if a = 0 then pure 0 else pure (truthValue ((← second.evaluate) ≠ 0))
  | .either first second => do
      let a ← first.evaluate
      if a ≠ 0 then pure 1 else pure (truthValue ((← second.evaluate) ≠ 0))
  | .choice condition yes no => do
      let a ← condition.evaluate
      if a ≠ 0 then yes.evaluate else no.evaluate
  | .assign name operator term => do
      let right ← term.evaluate
      let value ← match operator with
        | none => pure right
        | some operator => do
            let text := ((← get).lookup? name).getD []
            match numberIn? text with
            | none => throw (.refusal (.badNumber text))
            | some left =>
                match operate operator left right with
                | some value => pure value
                | none => throw .divisionByZero
      modify fun scope => scope.set name (Scope.ofInt value.toInt)
      pure value

def evaluateText (expression : Bytes) : Expanding Bytes := fun scope =>
  match Term.ofText (Utf8.text expression).toList with
  | .error reason => .error (.arithmetic reason expression)
  | .ok term =>
      match term.evaluate.run scope with
      | .ok (value, scope) => .ok (Scope.ofInt value.toInt, scope)
      | .error (.refusal refusal) => .error refusal
      | .error .divisionByZero => .error (.arithmetic "division by zero" expression)

def requiredText (evenEmpty : Bool) (text : Bytes) : Bytes :=
  if !text.isEmpty then text
  else if evenEmpty then Utf8.encode "parameter not set or null"
  else Utf8.encode "parameter not set"

def isMissing (evenEmpty : Bool) (value : Option Bytes) : Bool :=
  match value with
  | none => true
  | some bytes => evenEmpty && bytes.isEmpty

def Piece.isQuoted : Piece → Bool
  | .text _ quoted | .value _ quoted | .printed _ _ quoted => quoted
  | .parameter _ _ _ quoted | .arithmetic _ quoted => quoted

mutual

def Piece.expand : Piece → Expanding Bytes
  | .text bytes _ | .value bytes _ => pure bytes
  | .printed _ _ _ => pure []
  | .arithmetic expression _ => do evaluateText (← expandPieces expression)
  | .parameter name use operand _ => do
      let value := (← get).lookup? name
      match use with
      | .malformed => throw .badSubstitution
      | .value =>
          if value.isNone && (← get).refusesUnset && !Scope.isLenient name then throw (.unset name)
          else pure (value.getD [])
      | .length => pure (Scope.ofNat (value.getD []).length)
      | .fallback evenEmpty =>
          if isMissing evenEmpty value then expandPieces operand else pure (value.getD [])
      | .assignment evenEmpty =>
          if isMissing evenEmpty value then do
            let text ← expandPieces operand
            if !isName name.toList then throw (.badName name)
            assign name text
            pure text
          else pure (value.getD [])
      | .instead evenEmpty =>
          if isMissing evenEmpty value then pure [] else expandPieces operand
      | .required evenEmpty =>
          if isMissing evenEmpty value then do
            throw (.required name (requiredText evenEmpty (← expandPieces operand)))
          else pure (value.getD [])
      | .without atEnd longest => do
          let marks ← markPieces operand
          pure ((Pattern.ofMarks marks).strip atEnd longest (value.getD []))

def expandPieces : List Piece → Expanding Bytes
  | [] => pure []
  | piece :: rest => do
      let first ← piece.expand
      pure (first ++ (← expandPieces rest))

-- A word as a pattern. What is quoted has no special meaning.
def markPieces : List Piece → Expanding (List Mark)
  | [] => pure []
  | piece :: rest => do
      let bytes ← piece.expand
      pure ((bytes.map fun byte => ⟨byte, !piece.isQuoted⟩) ++ (← markPieces rest))

end

end Overseer.Shell

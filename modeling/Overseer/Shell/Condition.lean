import Overseer.Shell.Arithmetic

namespace Overseer.Shell

open Overseer.Text

-- Conditions on texts, numbers and files.

inductive BadCondition
  | unclosed
  | badNumber (text : Bytes)
  | unexpected (text : Bytes)
  | noOperand (operator : Bytes)
  | unclosedGroup
deriving DecidableEq

def BadCondition.message : BadCondition → Bytes
  | unclosed => Utf8.encode "missing ]"
  | badNumber text => Utf8.encode "Illegal number: " ++ text
  | unexpected text => text ++ Utf8.encode ": unexpected operator"
  | noOperand operator => operator ++ Utf8.encode ": argument expected"
  | unclosedGroup => Utf8.encode "closing paren expected"

-- What a word of a condition is.
inductive Role
  | operand
  | unary
  | binary
  | not
  | and
  | or
  | opening
  | closing
  | nothing
deriving DecidableEq

def unaryOperators : List String :=
  ["-n", "-z", "-b", "-c", "-d", "-e", "-f", "-g", "-G", "-h", "-k", "-L", "-O", "-p", "-r", "-s",
    "-S", "-t", "-u", "-w", "-x"]

def binaryOperators : List String :=
  ["=", "!=", "<", ">", "-eq", "-ne", "-lt", "-le", "-gt", "-ge", "-nt", "-ot", "-ef"]

def roleOf (word : Bytes) : Role :=
  let text := Utf8.text word
  match text with
  | "!" => .not
  | "-a" => .and
  | "-o" => .or
  | "(" => .opening
  | ")" => .closing
  | _ =>
      if unaryOperators.contains text then .unary
      else if binaryOperators.contains text then .binary
      else .operand

-- Words that follow tell whether a word is an operator. What could apply to
-- one word is an operand if it is the last word, or if an operator between two
-- words comes next and a word after it.
def firstRole : List Bytes → Role
  | [] => .nothing
  | word :: rest =>
      match roleOf word, rest with
      | .unary, [] | .opening, [] => .operand
      | .unary, next :: _ :: _ => if roleOf next = .binary then .operand else .unary
      | role, _ => role

structure Witness where
  examine : String → Bytes → Bool
  same : Bytes → Bytes → Bool

def compareNumbers (operator : String) (a b : Int) : Bool :=
  match operator with
  | "-eq" => a = b
  | "-ne" => a ≠ b
  | "-lt" => a < b
  | "-le" => a ≤ b
  | "-gt" => b < a
  | _ => b ≤ a

abbrev Holding := Except BadCondition (Bool × List Bytes)

section

variable (witness : Witness)

-- All files are equally old.
def compareTexts (operator : String) (a b : Bytes) : Except BadCondition Bool :=
  match operator with
  | "=" => .ok (a = b)
  | "!=" => .ok (a ≠ b)
  | "<" => .ok (a < b)
  | ">" => .ok (b < a)
  | "-nt" | "-ot" => .ok false
  | "-ef" => .ok (witness.same a b)
  | _ =>
      match integer? a, integer? b with
      | none, _ => .error (.badNumber a)
      | _, none => .error (.badNumber b)
      | some a, some b => .ok (compareNumbers operator a b)

def examineOne (operator operand : Bytes) : Except BadCondition Bool :=
  match Utf8.text operator with
  | "-n" => .ok !operand.isEmpty
  | "-z" => .ok operand.isEmpty
  | "-t" => if (integer? operand).isNone then .error (.badNumber operand) else .ok false
  | text => .ok (witness.examine text operand)

mutual

def holdsAny : Nat → Role → List Bytes → Holding
  | 0, _, _ => .error .unclosedGroup
  | fuel + 1, role, words => do
      let (first, rest) ← holdsAll fuel role words
      if firstRole (rest.drop 1) = .or then
        let (second, rest) ← holdsAny fuel (firstRole (rest.drop 2)) (rest.drop 2)
        pure (first || second, rest)
      else pure (first, rest)

def holdsAll : Nat → Role → List Bytes → Holding
  | 0, _, _ => .error .unclosedGroup
  | fuel + 1, role, words => do
      let (first, rest) ← holdsUnlessNot fuel role words
      if firstRole (rest.drop 1) = .and then
        let (second, rest) ← holdsAll fuel (firstRole (rest.drop 2)) (rest.drop 2)
        pure (first && second, rest)
      else pure (first, rest)

def holdsUnlessNot : Nat → Role → List Bytes → Holding
  | 0, _, _ => .error .unclosedGroup
  | fuel + 1, role, words =>
      if role = .not then do
        let next := firstRole (words.drop 1)
        let (value, rest) ←
          holdsUnlessNot fuel next (if next = .nothing then words else words.drop 1)
        pure (!value, rest)
      else holdsOne fuel role words

def holdsOne : Nat → Role → List Bytes → Holding
  | 0, _, _ => .error .unclosedGroup
  | fuel + 1, role, words =>
      match role, words with
      | .nothing, _ | _, [] => pure (false, words)
      | .opening, _ :: rest => do
          if firstRole rest = .closing then pure (false, rest)
          else
            let (value, rest) ← holdsAny fuel (firstRole rest) rest
            if firstRole (rest.drop 1) = .closing then pure (value, rest.drop 1)
            else throw .unclosedGroup
      | .unary, [operator] => throw (.noOperand operator)
      | .unary, operator :: operand :: rest => do
          pure (← examineOne witness operator operand, operand :: rest)
      | _, first :: rest =>
          if firstRole rest = .binary then
            match rest with
            | operator :: second :: others => do
                pure (← compareTexts witness (Utf8.text operator) first second, second :: others)
            | operator :: _ => throw (.noOperand operator)
            | [] => pure (!first.isEmpty, words)
          else pure (!first.isEmpty, words)

end

-- At most one word may be left, which counts as used.
def conditionWithin (role : Role) (words : List Bytes) : Except BadCondition Bool := do
  match ← holdsAny witness (4 * words.length + 4) role words with
  | (_, word :: _ :: _) => throw (.unexpected word)
  | (value, _) => pure value

-- Whether a condition holds. By how many words it has it is known what some of
-- them are.
def condition : List Bytes → Except BadCondition Bool
  | [] => .ok false
  | first :: rest =>
      let words := first :: rest
      let isShort := words.length = 3 || words.length = 4
      if words.length = 3 && (rest.head?.map roleOf) = some .binary then
        conditionWithin witness .operand words
      else if isShort && roleOf first = .opening && rest.getLast? = some [41] then
        conditionWithin witness (firstRole rest.dropLast) rest.dropLast
      else if isShort && roleOf first = .not then (condition rest).map (!·)
      else conditionWithin witness (firstRole words) words

end

end Overseer.Shell

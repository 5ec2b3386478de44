import Overseer.Tool.Options

namespace Overseer.Tool

open Overseer.Shell
open Overseer.Text

-- The stream editor, as far as it puts one text in the place of another.

inductive Matcher
  | one (byte : UInt8)
  | any
  | among (negated : Bool) (ranges : List (UInt8 × UInt8))

def Matcher.accepts : Matcher → UInt8 → Bool
  | .one expected, byte => byte = expected
  | .any, _ => true
  | .among negated ranges, byte =>
      (ranges.any fun range => range.1 ≤ byte && byte ≤ range.2) != negated

structure Part where
  matcher : Matcher
  repeats : Bool

structure Expression where
  parts : List Part
  fromStart : Bool
  toEnd : Bool

-- How long the longest beginning of a text is that parts match.
def longest (toEnd : Bool) : List Part → Bytes → Option Nat
  | [], bytes => if toEnd && !bytes.isEmpty then none else some 0
  | part :: parts, [] => if part.repeats then longest toEnd parts [] else none
  | part :: parts, byte :: bytes =>
      let accepts := part.matcher.accepts byte
      if part.repeats then
        let further := if accepts then longest toEnd (part :: parts) bytes else none
        max (further.map (· + 1)) (longest toEnd parts (byte :: bytes))
      else if accepts then (longest toEnd parts bytes).map (· + 1)
      else none
termination_by parts bytes => parts.length + bytes.length

def escaped (byte : UInt8) : UInt8 := if byte = 110 then 10 else byte

def matcherOf (byte : UInt8) (rest : Bytes) : Matcher × Bytes :=
  match byte, rest with
  | 92, next :: after => (.one (escaped next), after)
  | 46, _ => (.any, rest)
  | 91, _ =>
      let negated := rest.head? = some 94
      let marks := (if negated then rest.drop 1 else rest).map fun byte => (⟨byte, true⟩ : Mark)
      match ranges true (marks.length + 1) marks with
      | some (found, after) => (.among negated found, after.map Mark.byte)
      | none => (.one byte, rest)
  | _, _ => (.one byte, rest)

def partsOf : Nat → Bytes → List Part
  | 0, _ => []
  | _ + 1, [] => []
  | fuel + 1, byte :: rest =>
      let (matcher, after) := matcherOf byte rest
      match after with
      | 42 :: after => ⟨matcher, true⟩ :: partsOf fuel after
      | after => ⟨matcher, false⟩ :: partsOf fuel after

def Expression.ofText (text : Bytes) : Expression :=
  let fromStart := text.head? = some 94
  let text := if fromStart then text.drop 1 else text
  let toEnd := text.getLast? = some 36
  let text := if toEnd then text.dropLast else text
  ⟨partsOf (text.length + 1) text, fromStart, toEnd⟩

-- A replacement, in which an ampersand stands for what was matched.
def replaced (found : Bytes) : Bytes → Bytes
  | 92 :: byte :: rest => escaped byte :: replaced found rest
  | 38 :: rest => found ++ replaced found rest
  | byte :: rest => byte :: replaced found rest
  | [] => []

structure Substitution where
  expression : Expression
  replacement : Bytes
  everywhere : Bool

-- A line from some place on. Nothing of no length is found at the end of what
-- was found before.
def Substitution.apply (substitution : Substitution) : Nat → Bool → Bool → Bytes → Bytes
  | 0, _, _, line => line
  | fuel + 1, atStart, afterFound, line =>
      let expression := substitution.expression
      let found := if expression.fromStart && !atStart then none
        else longest expression.toEnd expression.parts line
      match found.filter fun size => 0 < size || !afterFound, line with
      | some size, _ =>
          let rest := line.drop size
          let changed := replaced (line.take size) substitution.replacement
          if !substitution.everywhere then changed ++ rest
          else if 0 < size then changed ++ substitution.apply fuel false true rest
          else changed ++ rest.take 1 ++
            (if rest.isEmpty then [] else substitution.apply fuel false false (rest.drop 1))
      | none, byte :: rest => byte :: substitution.apply fuel false false rest
      | none, [] => []

-- What stands before a delimiter, and what after it. A delimiter after a
-- backslash is a part of the text.
def upTo (delimiter : UInt8) : Bytes → Option (Bytes × Bytes)
  | [] => none
  | 92 :: byte :: rest =>
      (upTo delimiter rest).map fun (text, after) =>
        (if byte = delimiter then byte :: text else 92 :: byte :: text, after)
  | byte :: rest =>
      if byte = delimiter then some ([], rest)
      else (upTo delimiter rest).map fun (text, after) => (byte :: text, after)

def Substitution.ofText? (script : Bytes) : Except String Substitution :=
  match script with
  | 115 :: delimiter :: rest =>
      match upTo delimiter rest with
      | none => .error "unterminated `s' command"
      | some (text, after) =>
          match upTo delimiter after with
          | some (replacement, []) => .ok ⟨.ofText text, replacement, false⟩
          | some (replacement, [103]) => .ok ⟨.ofText text, replacement, true⟩
          | some _ => .error "unknown option to `s'"
          | none => .error "unterminated `s' command"
  | command => .error ("unknown command: `" ++ Utf8.text (command.take 1) ++ "'")

def edit (arguments : List Bytes) : Work Unit :=
  choosing ⟨"", "", true⟩ 1 arguments fun chosen =>
    match chosen.operands with
    | [] => misused 1 (Utf8.encode "no script specified")
    | script :: names =>
        match Substitution.ofText? script with
        | .error reason => complain 1 (Utf8.encode ("-e expression #1: " ++ reason))
        | .ok substitution =>
            let complaint (name : Bytes) (fault : Machine.FileFault) : Bytes :=
              Utf8.encode "can't read " ++ name ++ Utf8.encode (": " ++ fault.reason)
            forFiles names complaint fun bytes =>
              let lines := unlines ((linesOf bytes).map fun line =>
                substitution.apply (line.length + 1) true false line)
              say (if bytes.getLast? = some 10 then lines else lines.dropLast)

end Overseer.Tool

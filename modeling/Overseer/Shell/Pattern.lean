import Overseer.Shell.Command
import Overseer.Text.Utf8

namespace Overseer.Shell

-- Patterns, as they are matched against texts: an asterisk stands for any
-- text, a question mark for any byte, and brackets for any of several bytes.

inductive Atom
  | one (byte : UInt8)
  | any
  | many
  | among (negated : Bool) (ranges : List (UInt8 × UInt8))
deriving DecidableEq

abbrev Pattern := List Atom

-- A byte of a pattern's text, and whether it may have its special meaning.
structure Mark where
  byte : UInt8
  active : Bool
deriving DecidableEq

def classRanges (name : Bytes) : List (UInt8 × UInt8) :=
  match Text.Utf8.text name with
  | "digit" => [(48, 57)]
  | "upper" => [(65, 90)]
  | "lower" => [(97, 122)]
  | "alpha" => [(65, 90), (97, 122)]
  | "alnum" => [(48, 57), (65, 90), (97, 122)]
  | "space" => [(9, 13), (32, 32)]
  | "blank" => [(9, 9), (32, 32)]
  | "punct" => [(33, 47), (58, 64), (91, 96), (123, 126)]
  | "xdigit" => [(48, 57), (65, 70), (97, 102)]
  | _ => []

-- The ranges up to the closing bracket, and what follows it. A bracket that
-- comes first closes nothing.
def ranges (first : Bool) : Nat → List Mark → Option (List (UInt8 × UInt8) × List Mark)
  | 0, _ => none
  | _ + 1, [] => none
  | fuel + 1, mark :: rest =>
      if mark.byte = 93 && mark.active && !first then some ([], rest)
      else if mark.byte = 91 && rest.head?.any (fun next => next.byte = 58) then
        let name := (rest.drop 1).takeWhile fun next => next.byte ≠ 58
        (ranges false fuel (rest.drop (name.length + 3))).map fun (others, after) =>
          (classRanges (name.map Mark.byte) ++ others, after)
      else
        match rest with
        | ⟨45, true⟩ :: last :: after =>
            if last.byte = 93 && last.active then
              (ranges false fuel rest).map fun (others, after) =>
                ((mark.byte, mark.byte) :: others, after)
            else
              (ranges false fuel after).map fun (others, after) =>
                ((mark.byte, last.byte) :: others, after)
        | _ =>
            (ranges false fuel rest).map fun (others, after) =>
              ((mark.byte, mark.byte) :: others, after)

def patternOf : Nat → List Mark → Pattern
  | 0, _ => []
  | _ + 1, [] => []
  | fuel + 1, mark :: rest =>
      if !mark.active then .one mark.byte :: patternOf fuel rest
      else if mark.byte = 42 then .many :: patternOf fuel rest
      else if mark.byte = 63 then .any :: patternOf fuel rest
      else if mark.byte = 91 then
        let negated := rest.head?.any fun next => next.active && (next.byte = 33 || next.byte = 94)
        match ranges true (rest.length + 1) (if negated then rest.drop 1 else rest) with
        | some (found, after) => .among negated found :: patternOf fuel after
        | none => .one mark.byte :: patternOf fuel rest
      else .one mark.byte :: patternOf fuel rest

def Pattern.ofMarks (marks : List Mark) : Pattern := patternOf (marks.length + 1) marks

def Atom.accepts (atom : Atom) (byte : UInt8) : Bool :=
  match atom with
  | .one expected => byte = expected
  | .any | .many => true
  | .among negated ranges =>
      (ranges.any fun range => range.1 ≤ byte && byte ≤ range.2) != negated

def Pattern.accepts : Pattern → Bytes → Bool
  | [], bytes => bytes.isEmpty
  | .many :: atoms, [] => Pattern.accepts atoms []
  | .many :: atoms, byte :: bytes =>
      Pattern.accepts atoms (byte :: bytes) || Pattern.accepts (.many :: atoms) bytes
  | _ :: _, [] => false
  | atom :: atoms, byte :: bytes => atom.accepts byte && Pattern.accepts atoms bytes
termination_by atoms bytes => atoms.length + bytes.length

-- A text without what a pattern matches at one end of it, as little or as
-- much as it can.
def Pattern.strip (pattern : Pattern) (atEnd longest : Bool) (bytes : Bytes) : Bytes :=
  let cuts := List.range (bytes.length + 1)
  let ordered := if atEnd = longest then cuts else cuts.reverse
  let matching := ordered.find? fun (cut : Nat) =>
    pattern.accepts (if atEnd then bytes.drop cut else bytes.take cut)
  match matching with
  | some cut => if atEnd then bytes.take cut else bytes.drop cut
  | none => bytes

end Overseer.Shell

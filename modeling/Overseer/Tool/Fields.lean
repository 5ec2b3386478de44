import Overseer.Shell.Printing
import Overseer.Tool.Options

namespace Overseer.Tool

open Overseer.Shell
open Overseer.Text

-- Tools that go by the parts of lines: bytes and fields.

structure Span where
  first : Nat
  last : Option Nat

def Span.has (span : Span) (place : Nat) : Bool :=
  span.first ≤ place && span.last.all fun last => place ≤ last

inductive BadSpan
  | fromZero
  | withoutEnds
  | decreasing
  | invalid (text : Bytes)

def spanOf (text : Bytes) : Except BadSpan Span := do
  let value (digits : Bytes) : Except BadSpan Nat :=
    match Scope.numberOf? digits with
    | some 0 => throw .fromZero
    | some n => pure n
    | none => throw (.invalid digits)
  match splitOn 45 text with
  | [only] => do
      let n ← value only
      pure ⟨n, some n⟩
  | [[], []] => throw .withoutEnds
  | [[], last] => do pure ⟨1, some (← value last)⟩
  | [first, []] => do pure ⟨← value first, none⟩
  | [first, last] => do
      let first ← value first
      let last ← value last
      if last < first then throw .decreasing
      pure ⟨first, some last⟩
  | _ => throw (.invalid text)

def BadSpan.message (fields : Bool) : BadSpan → Bytes
  | .fromZero =>
      Utf8.encode (if fields then "fields are numbered from 1"
        else "byte/character positions are numbered from 1")
  | .withoutEnds => Utf8.encode "invalid range with no endpoint: -"
  | .decreasing => Utf8.encode "invalid decreasing range"
  | .invalid text =>
      Utf8.encode (if fields then "invalid field value " else "invalid byte/character position ") ++
        inApostrophes text

def selected {α : Type} (spans : List Span) (parts : List α) : List α :=
  (parts.zip (List.range parts.length)).filterMap fun (part, i) =>
    if spans.any fun span => span.has (i + 1) then some part else none

-- A line without the delimiter is kept as a whole.
def cutLine (fields : Bool) (spans : List Span) (delimiter : UInt8) (line : Bytes) : Bytes :=
  if !fields then selected spans line
  else if !line.contains delimiter then line
  else Scope.joined [delimiter] (selected spans (splitOn delimiter line))

def cut (arguments : List Bytes) : Work Unit :=
  choosing ⟨"", "bcfd", true⟩ 1 arguments fun chosen =>
    match chosen.options.filter fun option => option.1 ≠ 'd' with
    | [] => misused 1 (Utf8.encode "you must specify a list of bytes, characters, or fields")
    | [(letter, list)] =>
        let fields := letter = 'f'
        match (splitOn 44 list).mapM spanOf, chosen.last? 'd' with
        | .error bad, _ => misused 1 (bad.message fields)
        | .ok _, some (_ :: _ :: _) =>
            misused 1 (Utf8.encode "the delimiter must be a single character")
        | .ok spans, given =>
            if given.isSome && !fields then
              misused 1 (Utf8.encode
                "an input delimiter may be specified only when operating on fields")
            else
              let delimiter := (given.bind List.head?).getD (if given.isSome then 0 else 9)
              forFiles chosen.operands plainComplaint fun bytes =>
                say (unlines ((linesOf bytes).map (cutLine fields spans delimiter)))
    | _ => misused 1 (Utf8.encode "only one list may be specified")

def bytesFrom (first last : UInt8) : Bytes :=
  ((List.range (last.toNat + 1)).drop first.toNat).map UInt8.ofNat

-- A set that is written with ranges, classes and escapes.
def setBytes : Nat → Bytes → Except Bytes Bytes
  | 0, _ => .ok []
  | _ + 1, [] => .ok []
  | fuel + 1, byte :: rest => do
      let single : Except Bytes Bytes := do
        let (first, after) := if byte = backslash then escape rest else (byte, rest)
        match after with
        | 45 :: next :: others => do
            let (last, others) := if next = backslash then escape others else (next, others)
            if last < first then
              throw (Utf8.encode "range-endpoints of '" ++ [first, 45, last] ++
                Utf8.encode "' are in reverse collating sequence order")
            pure (bytesFrom first last ++ (← setBytes fuel others))
        | _ => do pure (first :: (← setBytes fuel after))
      match byte, rest with
      | 91, 58 :: after =>
          let name := after.takeWhile (· ≠ 58)
          match after.drop name.length with
          | 58 :: 93 :: others =>
              let found := (classRanges name).flatMap fun range => bytesFrom range.1 range.2
              if found.isEmpty then
                throw (Utf8.encode "invalid character class " ++ inApostrophes name)
              pure (found ++ (← setBytes fuel others))
          | _ => single
      | _, _ => single

def squeezed (set : Bytes) (bytes : Bytes) : Bytes :=
  (bytes.foldl
    (fun ((shown, last) : Bytes × Option UInt8) byte =>
      if last = some byte && set.contains byte then (shown, last) else (byte :: shown, some byte))
    ([], none)).1.reverse

def exchange (source target : Bytes) (byte : UInt8) : UInt8 :=
  -- The last of several equal bytes counts.
  match (source.zip (List.range source.length)).reverse.find? fun entry => entry.1 = byte with
  | some (_, i) => (target[i]?).getD ((target.getLast?).getD byte)
  | none => byte

def transliterate (arguments : List Bytes) : Work Unit :=
  choosing ⟨"cds", "", false⟩ 1 arguments fun chosen =>
    let complemented (set : Bytes) : Bytes :=
      if chosen.has 'c' then (bytesFrom 0 255).filter fun byte => !set.contains byte else set
    let missing (reason : String) : Work Unit := do
      warn ((← get).name ++ Utf8.encode ": missing operand after " ++
        inApostrophes (chosen.operands.headD []) ++ Utf8.encode ("\n" ++ reason ++ "\n"))
      seeHelp 1
    match chosen.operands.mapM fun text => setBytes (text.length + 1) text with
    | .error text => complain 1 text
    | .ok [] => misused 1 (Utf8.encode "missing operand")
    | .ok [only] => do
        let set := complemented only
        if chosen.has 'd' && chosen.has 's' then
          missing "Two strings must be given when both deleting and squeezing repeats."
        else if chosen.has 'd' then
          say ((← readInput).filter fun byte => !set.contains byte)
        else if chosen.has 's' then say (squeezed set (← readInput))
        else missing "Two strings must be given when translating."
    | .ok [first, second] => do
        let source := complemented first
        let input ← readInput
        let changed := if chosen.has 'd' then input.filter fun byte => !source.contains byte
          else input.map (exchange source second)
        say (if chosen.has 's' then squeezed second changed else changed)
    | .ok _ =>
        misused 1 (Utf8.encode "extra operand " ++ inApostrophes ((chosen.operands[2]?).getD []))

end Overseer.Tool

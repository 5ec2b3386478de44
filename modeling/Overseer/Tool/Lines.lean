import Overseer.Tool.Options

namespace Overseer.Tool

open Overseer.Machine
open Overseer.Shell
open Overseer.Text

-- Tools that give their lines back, all or some of them, or count them.

def concatenate (arguments : List Bytes) : Work Unit :=
  choosing ⟨"u", "", true⟩ 1 arguments fun chosen =>
    forFiles chosen.operands plainComplaint say

structure Portion where
  lines : Bool
  count : Nat

def takeHead (lines : Bool) : Nat → Bytes → Bytes × Nat
  | 0, _ => ([], 0)
  | count, [] => ([], count)
  | count + 1, byte :: bytes =>
      let (rest, left) :=
        takeHead lines (if lines && byte ≠ 10 then count + 1 else count) bytes
      (byte :: rest, left)

-- How the beginning is asked for, also in an old way: a hyphen and digits.
def portionOf (arguments : List Bytes) : Except Bytes (Portion × List Bytes) := do
  let arguments := match arguments with
    | (45 :: digit :: digits) :: others =>
        if isDigit digit then [45, 110] :: (digit :: digits) :: others else arguments
    | _ => arguments
  let chosen ← choose ⟨"", "nc", true⟩ arguments
  match chosen.options.getLast? with
  | none => pure (⟨true, 10⟩, chosen.operands)
  | some (letter, text) =>
      match Scope.numberOf? text with
      | some count => pure (⟨letter = 'n', count⟩, chosen.operands)
      | none =>
          let unit := if letter = 'n' then "lines" else "bytes"
          throw (Utf8.encode ("invalid number of " ++ unit ++ ": ") ++ inApostrophes text)

-- Of a file without an end only so many bytes are read.
def readUpTo (limit : Nat) (name : Bytes) : Work (Except FileFault Bytes) := do
  match lookupPath (← get).files name with
  | .ok (.device .zeros) => pure (.ok (List.replicate limit 0))
  | _ => readNamed name

def head (arguments : List Bytes) : Work Unit :=
  match portionOf arguments with
  | .error text => misused 1 text
  | .ok (portion, names) => do
      let _ ← names.foldlM
        (fun isFirst name => do
          let header := if names.length ≤ 1 then []
            else (if isFirst then [] else [10]) ++ Utf8.encode "==> " ++ name ++
              Utf8.encode " <==\n"
          match ← readUpTo (if portion.lines then 0 else portion.count) name with
          | .ok bytes => do
              say (header ++ (takeHead portion.lines portion.count bytes).1)
              pure false
          | .error fault => do
              complain 1 (Utf8.encode "cannot open " ++ inApostrophes name ++
                Utf8.encode (" for reading: " ++ fault.reason))
              pure isFirst)
        true

def leadingNumber (line : Bytes) : Int :=
  let text := line.dropWhile fun byte => byte = 32 || byte = 9
  let value (digits : Bytes) : Nat := (Scope.numberOf? (digits.takeWhile isDigit)).getD 0
  match text with
  | 45 :: digits => -(value digits : Int)
  | digits => value digits

def compareLines (numeric : Bool) (a b : Bytes) : Ordering :=
  let bytes : Ordering := if a = b then .eq else if a < b then .lt else .gt
  if numeric then (compare (leadingNumber a) (leadingNumber b)).then bytes else bytes

-- Without what is the same as the line before.
def withoutRepeats (same : Bytes → Bytes → Bool) : List Bytes → List Bytes
  | a :: b :: rest =>
      if same a b then withoutRepeats same (a :: rest) else a :: withoutRepeats same (b :: rest)
  | lines => lines
termination_by lines => lines.length

def sort (arguments : List Bytes) : Work Unit :=
  choosing ⟨"nru", "", true⟩ 2 arguments fun chosen => do
    let numeric := chosen.has 'n'
    let names := if chosen.operands.isEmpty then [[45]] else chosen.operands
    let texts ← names.mapM fun name => do
      match ← readNamed name with
      | .ok bytes => pure bytes
      | .error fault => do
          complain 2 (Utf8.encode "cannot read: " ++ plainComplaint name fault)
          pure []
    let inOrder (a b : Bytes) : Bool :=
      let order := compareLines numeric a b
      (if chosen.has 'r' then order.swap else order) ≠ .gt
    let lines := (texts.flatMap linesOf).mergeSort inOrder
    let same (a b : Bytes) : Bool :=
      if numeric then leadingNumber a = leadingNumber b else a = b
    if (← get).status = 0 then
      say (unlines (if chosen.has 'u' then withoutRepeats same lines else lines))

def isSpace (byte : UInt8) : Bool := byte = 32 || (9 ≤ byte && byte ≤ 13)

def countWords (bytes : Bytes) : Nat :=
  (bytes.foldl
    (fun ((count, inWord) : Nat × Bool) byte =>
      if isSpace byte then (count, false) else (if inWord then count else count + 1, true))
    (0, false)).1

def padLeft (width : Nat) (bytes : Bytes) : Bytes :=
  List.replicate (width - bytes.length) 32 ++ bytes

-- All three counts are shown, unless some are asked for. A single one takes as
-- much room as it needs.
def count (arguments : List Bytes) : Work Unit :=
  choosing ⟨"clw", "", true⟩ 1 arguments fun chosen =>
    let asked (letter : Char) : Bool := chosen.options.isEmpty || chosen.has letter
    let names := if chosen.operands.isEmpty then [[]] else chosen.operands
    names.forM fun name => do
      match ← readNamed (if name.isEmpty then [45] else name) with
      | .error fault => complain 1 (plainComplaint name fault)
      | .ok bytes =>
          let counts := (if asked 'l' then [bytes.count 10] else []) ++
            (if asked 'w' then [countWords bytes] else []) ++
            (if asked 'c' then [bytes.length] else [])
          let width := if counts.length ≤ 1 then 1
            else if name.isEmpty then 7 else (toString bytes.length).length
          let shownCounts := counts.map fun n => padLeft width (Scope.ofNat n)
          say (Scope.joined [32] (shownCounts ++ if name.isEmpty then [] else [name]) ++ [10])

end Overseer.Tool

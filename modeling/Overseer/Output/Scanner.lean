import Overseer.Text.Utf8

namespace Overseer.Output

open Overseer.Text

-- Detection of the first completed line that contains a marker, in bounded
-- memory: the head of an overlong line is dropped, but a tail long enough to
-- complete a marker across the cut is kept, and a marker already seen in the
-- dropped part is remembered.

def newline : UInt8 := 10

def occurs (word : List UInt8) : List UInt8 → Bool
  | [] => word.isEmpty
  | byte :: bytes => word.isPrefixOf (byte :: bytes) || occurs word bytes

structure Scanner where
  marker : List UInt8
  line : Array UInt8
  maxLine : Nat
  lineHit : Bool
  matched : Bool
deriving DecidableEq

namespace Scanner

-- A bound below the marker's length could never hold a whole marker.
def new (marker : String) (maxLine : Nat) : Scanner :=
  let bytes := Utf8.encode marker
  { marker := bytes, line := #[], maxLine := max maxLine bytes.length,
    lineHit := false, matched := false }

def lineHasMarker (scanner : Scanner) : Bool :=
  !scanner.marker.isEmpty && occurs scanner.marker scanner.line.toList

def trim (scanner : Scanner) : Scanner :=
  if scanner.maxLine < scanner.line.size then
    let keep := scanner.marker.length - 1
    { scanner with
      lineHit := scanner.lineHit || scanner.lineHasMarker
      line := scanner.line.extract (scanner.line.size - keep) scanner.line.size }
  else scanner

def scan (scanner : Scanner) : List UInt8 → Bool × Scanner
  | [] => (false, scanner.trim)
  | byte :: bytes =>
      if byte = newline then
        if scanner.lineHit || scanner.lineHasMarker then
          (true, { scanner with line := #[], matched := true })
        else scan { scanner with line := #[] } bytes
      else scan { scanner with line := scanner.line.push byte } bytes

def feed (scanner : Scanner) (bytes : List UInt8) : Bool × Scanner :=
  if scanner.matched then (false, scanner) else scanner.scan bytes

def describe (scanner : Scanner) : String :=
  let bytes (list : List UInt8) := "[" ++ ", ".intercalate (list.map (toString ·.toNat)) ++ "]"
  "LineScanner \x7b marker: " ++ bytes scanner.marker ++
    ", line: " ++ bytes scanner.line.toList ++
    ", max_line: " ++ toString scanner.maxLine ++
    ", line_hit: " ++ toString scanner.lineHit ++
    ", matched: " ++ toString scanner.matched ++ " \x7d"

end Scanner

end Overseer.Output

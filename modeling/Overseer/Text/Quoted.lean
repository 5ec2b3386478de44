import Overseer.Text.Extending
import Overseer.Text.Unprintable
import Overseer.Text.Utf8

namespace Overseer.Text.Quoted

-- Text between double quotes, with everything escaped that a reader of a log
-- line could not see or could misread.

def char (c : Char) : String :=
  if c = '\x00' then "\\0"
  else if c = '\t' then "\\t"
  else if c = '\n' then "\\n"
  else if c = '\r' then "\\r"
  else if c = '\\' then "\\\\"
  else if c = '"' then "\\\""
  else if isExtending c || isUnprintable c then
    "\\u\x7b" ++ String.ofList (Nat.toDigits 16 c.toNat) ++ "\x7d"
  else c.toString

def text (value : String) : String :=
  "\"" ++ String.join (value.toList.map char) ++ "\""

def byte (value : UInt8) : String :=
  let digits := (Nat.toDigits 16 value.toNat).map Char.toUpper
  "\\x" ++ String.ofList (List.replicate (2 - digits.length) '0' ++ digits)

def pieces : List UInt8 → List String
  | [] => []
  | lead :: rest =>
      match Utf8.following lead with
      | none => byte lead :: pieces rest
      | some ranges =>
          let count := Utf8.fitting ranges rest
          if count = ranges.length then
            char (Utf8.scalar lead (rest.take count)) :: pieces (rest.drop count)
          else
            byte lead :: ((rest.take count).map byte ++ pieces (rest.drop count))
termination_by bytes => bytes.length
decreasing_by
  all_goals simp only [List.length_cons, List.length_drop]
  all_goals omega

def bytes (value : List UInt8) : String := "\"" ++ String.join (pieces value) ++ "\""

end Overseer.Text.Quoted

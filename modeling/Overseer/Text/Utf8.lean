namespace Overseer.Text.Utf8

-- Text as bytes and bytes as text. A well-formed character is a lead byte
-- followed by bytes from fixed ranges; whatever does not fit is replaced, one
-- replacement character for each longest beginning of a well-formed sequence,
-- so that a damaged stream loses as little as possible.

structure Range where
  low : UInt8
  high : UInt8
deriving DecidableEq

def Range.contains (range : Range) (byte : UInt8) : Bool :=
  decide (range.low ≤ byte) && decide (byte ≤ range.high)

def continuation : Range := ⟨0x80, 0xBF⟩

-- What may follow a lead byte, position by position. The narrowed second
-- ranges keep out overlong forms, surrogates and values past the last plane.
-- A byte that starts no sequence has no entry.
def following (lead : UInt8) : Option (List Range) :=
  if lead ≤ 0x7F then some []
  else if lead ≤ 0xC1 then none
  else if lead ≤ 0xDF then some [continuation]
  else if lead = 0xE0 then some [⟨0xA0, 0xBF⟩, continuation]
  else if lead = 0xED then some [⟨0x80, 0x9F⟩, continuation]
  else if lead ≤ 0xEF then some [continuation, continuation]
  else if lead = 0xF0 then some [⟨0x90, 0xBF⟩, continuation, continuation]
  else if lead ≤ 0xF3 then some [continuation, continuation, continuation]
  else if lead = 0xF4 then some [⟨0x80, 0x8F⟩, continuation, continuation]
  else none

def replacement : Char := '\uFFFD'

def leadBits (lead : UInt8) : Nat :=
  if lead ≤ 0x7F then lead.toNat
  else if lead ≤ 0xDF then lead.toNat % 32
  else if lead ≤ 0xEF then lead.toNat % 16
  else lead.toNat % 8

def scalar (lead : UInt8) (rest : List UInt8) : Char :=
  Char.ofNat (rest.foldl (fun value byte => value * 64 + byte.toNat % 64) (leadBits lead))

def fitting : List Range → List UInt8 → Nat
  | range :: ranges, byte :: bytes =>
      if range.contains byte then fitting ranges bytes + 1 else 0
  | _, _ => 0

-- Decoding of a whole byte string. A sequence that is cut short or broken off
-- by an unfit byte gives one replacement for everything that did fit, and
-- decoding goes on with the unfit byte.
def lossy : List UInt8 → List Char
  | [] => []
  | lead :: rest =>
      match following lead with
      | none => replacement :: lossy rest
      | some ranges =>
          let count := fitting ranges rest
          if count = ranges.length then
            scalar lead (rest.take count) :: lossy (rest.drop count)
          else
            replacement :: lossy (rest.drop count)
termination_by bytes => bytes.length
decreasing_by
  all_goals simp only [List.length_cons, List.length_drop]
  all_goals omega

def text (bytes : List UInt8) : String := String.ofList (lossy bytes)

def encode (text : String) : List UInt8 := text.toList.flatMap String.utf8EncodeChar

-- The text whose encoding the bytes are, if there is one. Decoding replaces
-- exactly the ill-formed parts, and those do not encode back to themselves.
def strict (bytes : List UInt8) : Option String :=
  if encode (text bytes) = bytes then some (text bytes) else none

end Overseer.Text.Utf8

import Overseer.Text.Utf8

namespace Overseer.Output

open Overseer.Text

-- Decoding of a stream that arrives in pieces. Only the bytes of a character
-- that may still be completed are held back, so no piece boundary is visible
-- in the text and no text waits longer than it must.

structure Decoder where
  pending : List UInt8
deriving DecidableEq

namespace Decoder

def empty : Decoder := ⟨[]⟩

def start (byte : UInt8) : List Char × List UInt8 :=
  match Utf8.following byte with
  | none => ([Utf8.replacement], [])
  | some [] => ([Utf8.scalar byte []], [])
  | some (_ :: _) => ([], [byte])

def advance (pending : List UInt8) (byte : UInt8) : List Char × List UInt8 :=
  match pending with
  | [] => start byte
  | lead :: got =>
      match ((Utf8.following lead).getD []).drop got.length with
      | [] => (Utf8.replacement :: (start byte).1, (start byte).2)
      | range :: more =>
          if range.contains byte then
            if more.isEmpty then ([Utf8.scalar lead (got ++ [byte])], [])
            else ([], lead :: (got ++ [byte]))
          else (Utf8.replacement :: (start byte).1, (start byte).2)

def absorb (state : String × List UInt8) (byte : UInt8) : String × List UInt8 :=
  let (chars, pending) := advance state.2 byte
  (chars.foldl String.push state.1, pending)

def decode (decoder : Decoder) (bytes : List UInt8) : String × Decoder :=
  let (text, pending) := bytes.foldl absorb ("", decoder.pending)
  (text, ⟨pending⟩)

def finish (decoder : Decoder) : Option String × Decoder :=
  match decoder.pending with
  | [] => (none, decoder)
  | held => (some (Utf8.text held), empty)

end Decoder

end Overseer.Output

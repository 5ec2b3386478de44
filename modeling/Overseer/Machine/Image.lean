import Overseer.Machine.Files
import Overseer.Machine.Signals

namespace Overseer.Machine

open Overseer.Shell
open Overseer.Text

-- Libraries as they lie in files: whether they can be loaded, and what can be
-- looked up in them.

def wholeNumber (bytes : List UInt8) : Nat := bytes.foldr (fun byte n => byte.toNat + 256 * n) 0

def pageSize : Nat := 4096

def pageDown (address : Nat) : Nat := address / pageSize * pageSize

def pageUp (address : Nat) : Nat := pageDown (address + pageSize - 1)

structure Segment where
  kind : Nat
  offset : Nat
  address : Nat
  fileSize : Nat
  memorySize : Nat

namespace Segment

def loads (segment : Segment) : Bool := segment.kind = 1

def isDynamic (segment : Segment) : Bool := segment.kind = 2 && segment.fileSize ≠ 0

def start (segment : Segment) : Nat := pageDown segment.address

def stop (segment : Segment) : Nat :=
  pageUp (segment.address + max segment.fileSize segment.memorySize)

-- Whole pages of the file have to come to whole pages of memory.
def fits (segment : Segment) : Bool :=
  segment.address % pageSize = segment.offset % pageSize && segment.offset < Nat.pow 2 63

-- What is at an address. The last page of a file is filled up with zeros, and
-- beyond it there is nothing.
def byte (segment : Segment) (file : Array UInt8) (address : Nat) : Except Nat UInt8 :=
  let filled := segment.address + segment.fileSize
  let place := pageDown segment.offset + (address - segment.start)
  if filled ≤ address && address < segment.address + segment.memorySize then .ok 0
  else if address < pageUp filled then
    if place < pageUp file.size then .ok (file.getD place 0) else .error busError
  else .ok 0

end Segment

structure Image where
  file : Array UInt8
  segments : List Segment
  notes : List (Nat × Nat)

namespace Image

def inFile? (file : Array UInt8) (size place : Nat) : Option Nat :=
  if place + size ≤ file.size then some (wholeNumber (file.extract place (place + size)).toList)
  else none

def byte (image : Image) (address : Nat) : Except Nat UInt8 :=
  let found := image.segments.reverse.find? fun segment =>
    segment.loads && segment.start ≤ address && address < segment.stop
  match found with
  | some segment => segment.byte image.file address
  | none => .error segmentationFault

def number (image : Image) (size address : Nat) : Except Nat Nat := do
  pure (wholeNumber (← (List.range size).mapM fun i => image.byte (address + i)))

def nameWithin (image : Image) : Nat → Nat → Except Nat Bytes
  | 0, _ => .ok []
  | fuel + 1, address => do
      let byte ← image.byte address
      if byte = 0 then pure []
      else pure (byte :: (← nameWithin image fuel (address + 1)))

def longestSymbol : Nat := 4096

def nameAt (image : Image) (address : Nat) : Except Nat Bytes :=
  image.nameWithin longestSymbol address

-- The first bytes of every library: the mark, words of 64 bits with the least
-- byte first, and the version, followed by a system and nothing else.
def hasMark (file : Array UInt8) : Bool :=
  (file.extract 0 7).toList = [127, 69, 76, 70, 2, 1, 1] &&
    (file[7]? = some 0 || file[7]? = some 3) && file[8]? = some 0 &&
    (file.extract 9 16).toList = List.replicate 7 0

def headerSize : Nat := 64

def segmentSize : Nat := 56

def isHeader (file : Array UInt8) : Bool :=
  headerSize ≤ file.size && hasMark file && inFile? file 2 16 = some 3 &&
    inFile? file 2 18 = some 62 && inFile? file 4 20 = some 1 &&
    inFile? file 2 54 = some segmentSize

def segment? (file : Array UInt8) (place : Nat) : Option Segment := do
  pure
    { kind := ← inFile? file 4 place
      offset := ← inFile? file 8 (place + 8), address := ← inFile? file 8 (place + 16)
      fileSize := ← inFile? file 8 (place + 32), memorySize := ← inFile? file 8 (place + 40) }

def ofFile? (file : Array UInt8) : Option (Image × Nat) := do
  if !isHeader file then none
  else
    let place ← inFile? file 8 32
    let count ← inFile? file 2 56
    let segments ← (List.range count).mapM fun i => segment? file (place + segmentSize * i)
    let loaded := segments.filter Segment.loads
    let noted ← (segments.filter Segment.isDynamic).getLast?
    if loaded.isEmpty || !loaded.all Segment.fits then none
    else pure (⟨file, segments, []⟩, noted.address)

def notesFrom (image : Image) : Nat → Nat → Except Nat (List (Nat × Nat))
  | 0, _ => .ok []
  | fuel + 1, address => do
      let number ← image.number 8 address
      if number = 0 then pure []
      else
        let value ← image.number 8 (address + 8)
        pure ((number, value) :: (← notesFrom image fuel (address + 16)))

def note? (image : Image) (number : Nat) : Option Nat := image.notes.reverse.lookup number

def note (image : Image) (number : Nat) : Except Nat Nat :=
  match image.note? number with
  | some value => .ok value
  | none => .error segmentationFault

-- The numbers of notes.
def hashNote : Nat := 4
def namesNote : Nat := 5
def symbolsNote : Nat := 6

def hashOf (name : Bytes) : Nat :=
  name.foldl
    (fun hash byte =>
      let hash := (16 * hash + byte.toNat) % Nat.pow 2 32
      let high := hash / Nat.pow 2 28
      (hash ^^^ (high * Nat.pow 2 4)) % Nat.pow 2 28)
    0

def rowFrom (image : Image) (chains : Nat) : Nat → Nat → Except Nat (List Nat)
  | 0, _ | _, 0 => .ok []
  | fuel + 1, index => do
      let next ← image.number 4 (chains + 4 * index)
      pure (index :: (← rowFrom image chains fuel next))

def candidates (image : Image) (name : Bytes) : Except Nat (List Nat) :=
  match image.note? hashNote with
  | none => .ok []
  | some table => do
      let rows ← image.number 4 table
      if rows = 0 then pure []
      else
        let index ← image.number 4 (table + 8 + 4 * (hashOf name % rows))
        image.rowFrom (table + 8 + 4 * rows) (image.file.size + 1) index

def defines (image : Image) (name : Bytes) (index : Nat) : Except Nat Bool := do
  let address := (← image.note symbolsNote) + 24 * index
  let found ← image.nameAt ((← image.note namesNote) + (← image.number 4 address))
  let binding := (← image.number 1 (address + 4)) / 16
  let value ← image.number 8 (address + 8)
  pure (found = name && (binding = 1 || binding = 2) && value ≠ 0)

def exportsName (image : Image) (name : Bytes) : Except Nat Bool := do
  (← image.candidates name).anyM (image.defines name)

end Image

inductive Loading
  | refused
  -- Whoever loads it dies of a signal.
  | deadly (signal : Nat)
  | loaded (hasSymbol : Bool)
deriving DecidableEq

def Image.load (content symbol : Bytes) : Loading :=
  match ofFile? content.toArray with
  | none => .refused
  | some (bare, notes) =>
      let outcome : Except Nat Bool := do
        let image := { bare with notes := ← bare.notesFrom (content.length + 1) notes }
        image.exportsName symbol
      match outcome with
      | .ok hasSymbol => .loaded hasSymbol
      | .error signal => .deadly signal

end Overseer.Machine

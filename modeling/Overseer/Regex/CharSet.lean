namespace Overseer.Regex

-- Sets of characters, as ranges of their numbers. The ranges are in order, and
-- no two of them touch each other.

structure CharSet where
  ranges : List (Nat × Nat)
  isFolded : Bool

namespace CharSet

def lastCode : Nat := 0x10FFFF

def beforeGap : Nat := 0xD7FF

def afterGap : Nat := 0xE000

def next (code : Nat) : Nat := if code = beforeGap then afterGap else code + 1

def previous (code : Nat) : Nat := if code = afterGap then beforeGap else code - 1

-- Puts a range among others and joins it with those that it touches.
def insertRange (range : Nat × Nat) : List (Nat × Nat) → List (Nat × Nat)
  | [] => [range]
  | other :: rest =>
      if range.2 + 1 < other.1 then range :: other :: rest
      else if other.2 + 1 < range.1 then other :: insertRange range rest
      else insertRange (min range.1 other.1, max range.2 other.2) rest

def join (ranges others : List (Nat × Nat)) : List (Nat × Nat) := others.foldr insertRange ranges

def nothing : CharSet := ⟨[], true⟩

def range (first last : Char) : CharSet := ⟨[(first.toNat, last.toNat)], false⟩

def one (c : Char) : CharSet := range c c

def ofRanges (ranges : List (Char × Char)) : CharSet :=
  ⟨join [] (ranges.map fun (first, last) => (first.toNat, last.toNat)), ranges.isEmpty⟩

def single? (set : CharSet) : Option Char :=
  match set.ranges with
  | [(first, last)] => if first = last then some (Char.ofNat first) else none
  | _ => none

def union (left right : CharSet) : CharSet :=
  if right.ranges.isEmpty || left.ranges = right.ranges then left
  else ⟨join left.ranges right.ranges, left.isFolded && right.isFolded⟩

-- With more characters, whatever their cases.
def adding (set more : CharSet) : CharSet := ⟨join set.ranges more.ranges, false⟩

def overlap? (left right : Nat × Nat) : Option (Nat × Nat) :=
  let first := max left.1 right.1
  let last := min left.2 right.2
  if first ≤ last then some (first, last) else none

def intersection (left right : CharSet) : CharSet :=
  if left.ranges.isEmpty then left
  else if right.ranges.isEmpty then nothing
  else
    ⟨left.ranges.flatMap fun range => right.ranges.filterMap (overlap? range),
      left.isFolded && right.isFolded⟩

def withoutRange (other range : Nat × Nat) : List (Nat × Nat) :=
  match overlap? range other with
  | none => [range]
  | some (first, last) =>
      (if range.1 < first then [(range.1, previous first)] else []) ++
        (if last < range.2 then [(next last, range.2)] else [])

def difference (left right : CharSet) : CharSet :=
  if left.ranges.isEmpty || right.ranges.isEmpty then left
  else
    ⟨right.ranges.foldl (fun ranges other => ranges.flatMap (withoutRange other)) left.ranges,
      left.isFolded && right.isFolded⟩

def symmetricDifference (left right : CharSet) : CharSet :=
  difference (union left right) (intersection left right)

def gaps : Nat → List (Nat × Nat) → List (Nat × Nat)
  | start, [] => [(start, lastCode)]
  | start, (first, last) :: rest =>
      (if start < first then [(start, previous first)] else []) ++
        if last = lastCode then [] else gaps (next last) rest

-- All other characters. All characters together have both cases of a letter.
def complement (set : CharSet) : CharSet :=
  if set.ranges.isEmpty then ⟨[(0, lastCode)], true⟩
  else ⟨gaps 0 set.ranges, set.isFolded⟩

def otherCase (range : Nat × Nat) : List (Nat × Nat) :=
  let shift := 'a'.toNat - 'A'.toNat
  let upper := (overlap? range ('a'.toNat, 'z'.toNat)).map fun (first, last) =>
    (first - shift, last - shift)
  let lower := (overlap? range ('A'.toNat, 'Z'.toNat)).map fun (first, last) =>
    (first + shift, last + shift)
  upper.toList ++ lower.toList

-- A set with both cases of its letters, as far as ASCII has them.
def folded (set : CharSet) : CharSet :=
  if set.isFolded then set else ⟨join set.ranges (set.ranges.flatMap otherCase), true⟩

end CharSet

end Overseer.Regex

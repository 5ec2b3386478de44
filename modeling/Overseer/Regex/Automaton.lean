import Overseer.Regex.Expression
import Overseer.Text.Utf8

namespace Overseer.Regex

open Overseer.Text

-- Automata for expressions, and what a search with one comes to. All ways to
-- match are followed at once through the bytes of a text, the preferred ones
-- first. Once a way is through, those that are less preferred are given up.

inductive Node
  | through
  | read (set : List (Nat × Nat)) (next : Nat)
  | byte (next : Nat)
  | edge (edge : Edge) (next : Nat)
  -- The first of several is preferred.
  | fork (nexts : List Nat)

abbrev Nodes := Array Node

def add (node : Node) (nodes : Nodes) : Nat × Nodes := (nodes.size, nodes.push node)

def fork (isEager : Bool) (inner outer : Nat) : Node :=
  .fork (if isEager then [inner, outer] else [outer, inner])

-- Adds the nodes of an expression before those that come next, and tells where
-- they begin.
mutual

def Expression.build (next : Nat) (nodes : Nodes) : Expression → Nat × Nodes
  | .empty => (next, nodes)
  | .literal text =>
      text.foldr (fun c (next, nodes) => add (.read [(c.toNat, c.toNat)] next) nodes) (next, nodes)
  | .set _ ranges => add (.read ranges next) nodes
  | .edge edge => add (.edge edge next) nodes
  | .group _ body => body.build next nodes
  | .sequence parts => buildParts next nodes parts
  | .alternatives branches =>
      let (starts, nodes) := buildBranches next nodes branches
      add (.fork starts) nodes
  | .repeated .optional isEager body =>
      let (start, nodes) := body.build next nodes
      add (fork isEager start next) nodes
  | .repeated .some isEager body =>
      let (again, nodes) := add (.fork []) nodes
      let (start, nodes) := body.build again nodes
      (start, nodes.setIfInBounds again (fork isEager start next))
  | .repeated .any isEager body =>
      let (again, nodes) := add (.fork []) nodes
      let (start, nodes) := body.build again nodes
      let nodes := nodes.setIfInBounds again (fork isEager start next)
      if body.mayReadNothing then add (fork isEager start next) nodes else (again, nodes)

def buildParts (next : Nat) (nodes : Nodes) : List Expression → Nat × Nodes
  | [] => (next, nodes)
  | part :: parts =>
      let (rest, nodes) := buildParts next nodes parts
      part.build rest nodes

def buildBranches (next : Nat) (nodes : Nodes) : List Expression → List Nat × Nodes
  | [] => ([], nodes)
  | branch :: branches =>
      let (start, nodes) := branch.build next nodes
      let (starts, nodes) := buildBranches next nodes branches
      (start :: starts, nodes)

end

structure Automaton where
  nodes : Nodes
  start : Nat

-- A match may start anywhere, rather earlier than later.
def Automaton.ofExpression (expression : Expression) : Automaton :=
  let (through, nodes) := add .through #[]
  let (start, nodes) := expression.build through nodes
  let (search, nodes) := add (.fork []) nodes
  let (skipped, nodes) := add (.byte search) nodes
  ⟨nodes.setIfInBounds search (fork false skipped start), search⟩

namespace Automaton

def node (automaton : Automaton) (place : Nat) : Node :=
  (automaton.nodes[place]?).getD (.fork [])

-- A byte of a text, with the character that begins there and how many bytes of
-- it follow.
structure Spot where
  byte : UInt8
  begins : Option (Char × Nat)

def spots (text : String) : List Spot :=
  text.toList.flatMap fun c =>
    match Utf8.encode (String.singleton c) with
    | [] => []
    | first :: others =>
        ⟨first, some (c, others.length)⟩ :: others.map fun byte => ⟨byte, none⟩

def isWordByte (byte : UInt8) : Bool :=
  byte < 0x80 && ((Char.ofNat byte.toNat).isAlphanum || byte = '_'.toNat.toUInt8)

-- A way to match: where it is, and how many bytes it lets pass before.
structure Way where
  place : Nat
  waits : Nat
deriving DecidableEq

structure Front where
  ways : List Way
  behind : List Edge
  afterWord : Bool
  afterCarriage : Bool

-- Goes through nodes that read nothing, as far as the edges allow, and puts
-- those that were not reached before to the others, the last one first. Places
-- that are left come in the order of preference.
def follow (automaton : Automaton) (holds : Edge → Bool) :
    Nat → List Nat → Array Bool × List Way → Array Bool × List Way
  | 0, _, reached => reached
  | _ + 1, [], reached => reached
  | fuel + 1, place :: places, (seen, ways) =>
      if (seen[place]?).getD true then follow automaton holds fuel places (seen, ways)
      else
        let seen := seen.setIfInBounds place true
        match automaton.node place with
        | .through | .read _ _ | .byte _ =>
            follow automaton holds fuel places (seen, ⟨place, 0⟩ :: ways)
        | .edge edge next =>
            follow automaton holds fuel (if holds edge then next :: places else places)
              (seen, ⟨place, 0⟩ :: ways)
        | .fork nexts => follow automaton holds fuel (nexts ++ places) (seen, ways)

-- Every node adds its successors once.
def enough (automaton : Automaton) : Nat :=
  automaton.nodes.foldl
    (fun total node =>
      match node with
      | .fork nexts => total + nexts.length + 1
      | _ => total + 2)
    1

-- The ways that several lead to, in the same order. One that lets bytes pass
-- stays as it is.
def followAll (automaton : Automaton) (holds : Edge → Bool) (ways : List Way) : List Way :=
  let fuel := automaton.enough
  let (_, reached) := ways.foldl
    (fun (seen, reached) way =>
      if 0 < way.waits then (seen, way :: reached)
      else follow automaton holds (fuel + 1) [way.place] (seen, reached))
    (Array.replicate automaton.nodes.size false, [])
  reached.reverse

def atStart (automaton : Automaton) : Front :=
  let behind := [Edge.textStart, .lineStart false, .lineStart true]
  ⟨automaton.followAll behind.contains [⟨automaton.start, 0⟩], behind, false, false⟩

def Front.holds (front : Front) (next : Option UInt8) (edge : Edge) : Bool :=
  let newline : UInt8 := 10
  let carriage : UInt8 := 13
  let word := next.any isWordByte
  front.behind.contains edge ||
    match edge with
    | .textStart | .lineStart false => false
    | .lineStart true => front.afterCarriage && next ≠ some newline
    | .textEnd => next.isNone
    | .lineEnd false => next.all (· = newline)
    | .lineEnd true =>
        next.all fun byte => byte = carriage || (byte = newline && !front.afterCarriage)
    | .wordStart => !front.afterWord && word
    | .wordEnd => front.afterWord && !word
    | .wordEdge => front.afterWord ≠ word
    | .noWordEdge => front.afterWord = word

-- The ways as they are once the next byte or the end is known. Nothing changes
-- unless an edge is there that was not known of.
def Front.look (automaton : Automaton) (front : Front) (next : Option UInt8) : List Way :=
  let isNew (way : Way) : Bool :=
    match way.waits, automaton.node way.place with
    | 0, .edge edge _ => front.holds next edge && !front.behind.contains edge
    | _, _ => false
  if front.ways.any isNew then automaton.followAll (front.holds next) front.ways else front.ways

def isThrough (automaton : Automaton) (way : Way) : Bool :=
  way.waits = 0 && automaton.node way.place matches .through

-- Where a way goes with a byte. Such a way may have to let more bytes pass.
def pass (automaton : Automaton) (spot : Spot) (way : Way) : Option Way :=
  let after (next : Nat) (waits : Nat) : Way := ⟨if waits = 0 then next else way.place, waits⟩
  match automaton.node way.place, way.waits, spot.begins with
  | .read _ next, waits + 1, _ => some (after next waits)
  | .read set next, 0, some (c, others) =>
      if set.any fun (first, last) => first ≤ c.toNat && c.toNat ≤ last then
        some (after next others)
      else none
  | .byte next, _, _ => some ⟨next, 0⟩
  | _, _, _ => none

def step (automaton : Automaton) (front : Front) (spot : Spot) : Front :=
  let ways := (front.look automaton (some spot.byte)).takeWhile fun way =>
    !automaton.isThrough way
  let behind := if spot.byte = 10 then [Edge.lineStart false, .lineStart true] else []
  ⟨automaton.followAll behind.contains (ways.filterMap (automaton.pass spot)), behind,
    isWordByte spot.byte, spot.byte = 13⟩

-- A search counts only if the match it settles on goes to the end of the text.
def findsToEnd (automaton : Automaton) (text : String) : Bool :=
  let front := (spots text).foldl automaton.step automaton.atStart
  (front.look automaton none).any automaton.isThrough

end Automaton

end Overseer.Regex

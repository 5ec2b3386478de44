import Overseer.Regex.CharSet
import Overseer.Regex.Term

namespace Overseer.Regex

-- What a term means under its flags. Expressions are put together in a short
-- form: what reads nothing is left out, and parts of parts are parts.
--
-- Of characters beyond ASCII only their numbers are known. The classes that
-- have a letter to themselves, and other spellings of a letter, are there only
-- where ASCII alone counts.

inductive Edge
  | textStart
  | textEnd
  -- Lines may also be ended by a carriage return, alone or before the newline.
  | lineStart (carriage : Bool)
  | lineEnd (carriage : Bool)
  | wordStart
  | wordEnd
  | wordEdge
  | noWordEdge
deriving DecidableEq

inductive Expression
  | empty
  | literal (text : List Char)
  -- A set of characters, and whether only ASCII counts for it.
  | set (isNarrow : Bool) (ranges : List (Nat × Nat))
  | edge (edge : Edge)
  | repeated (count : Count) (isEager : Bool) (body : Expression)
  | group (index : Nat) (body : Expression)
  | sequence (parts : List Expression)
  -- The first of several is preferred.
  | alternatives (branches : List Expression)

namespace Expression

mutual

def mayReadNothing : Expression → Bool
  | .empty | .edge _ => true
  | .literal text => text.isEmpty
  | .set _ _ => false
  | .repeated count _ body => count ≠ .some || body.mayReadNothing
  | .group _ body => body.mayReadNothing
  | .sequence parts => allMayReadNothing parts
  | .alternatives branches => someMayReadNothing branches

def allMayReadNothing : List Expression → Bool
  | [] => true
  | part :: parts => part.mayReadNothing && allMayReadNothing parts

def someMayReadNothing : List Expression → Bool
  | [] => false
  | branch :: branches => branch.mayReadNothing || someMayReadNothing branches

end

mutual

-- Whether an expression never reads a character, and yet has a match.
def readsNothing : Expression → Bool
  | .empty | .edge _ => true
  | .literal text => text.isEmpty
  | .set _ _ => false
  | .repeated _ _ body => body.readsNothing
  | .group _ body => body.readsNothing
  | .sequence parts => allReadNothing parts
  | .alternatives branches => allReadNothing branches

def allReadNothing : List Expression → Bool
  | [] => true
  | part :: parts => part.readsNothing && allReadNothing parts

end

-- A set with one character is that character. An empty one has no match.
def ofSet (isNarrow : Bool) (set : CharSet) : Expression :=
  match set.single? with
  | some c => literal [c]
  | none => .set (isNarrow || set.ranges.isEmpty) set.ranges

-- To repeat what reads nothing changes nothing.
def ofCount (count : Count) (isEager : Bool) (body : Expression) : Expression :=
  if !body.readsNothing then repeated count isEager body
  else if count = .some then body
  else repeated .optional isEager body

def partsOf : Expression → List Expression
  | empty => []
  | sequence parts => parts
  | part => [part]

def mergeLiterals : List Expression → List Expression
  | [] => []
  | part :: parts =>
      match part, mergeLiterals parts with
      | literal text, literal more :: rest => literal (text ++ more) :: rest
      | part, rest => part :: rest

def ofParts (parts : List Expression) : Expression :=
  match mergeLiterals (parts.flatMap partsOf) with
  | [] => empty
  | [part] => part
  | parts => sequence parts

def branchesOf : Expression → List Expression
  | alternatives branches => branches
  | branch => [branch]

def singleChar? : Expression → Option Char
  | literal [c] => some c
  | _ => none

def ranges? : Expression → Option (List (Nat × Nat))
  | set _ ranges => some ranges
  | _ => none

def ofChoices? (branches : List Expression) : Option Expression :=
  match branches.mapM singleChar? with
  | some choices =>
      some (ofSet false (CharSet.ofRanges (choices.map fun c => (c, c))))
  | none =>
      (branches.mapM ranges?).map fun ranges =>
        ofSet false ⟨CharSet.join [] ranges.flatten, false⟩

def ofBranches (branches : List Expression) : Expression :=
  match branches.flatMap branchesOf with
  | [] => set true []
  | [branch] => branch
  | branches => (ofChoices? branches).getD (alternatives branches)

end Expression

structure Flags where
  anyCase : Bool
  multiline : Bool
  dotAll : Bool
  swapped : Bool
  carriage : Bool
  -- Characters beyond ASCII count.
  unicode : Bool

def Flags.initial : Flags := ⟨false, false, false, false, false, true⟩

def Flags.set (flags : Flags) (switch : Char × Bool) : Flags :=
  match switch with
  | ('i', value) => { flags with anyCase := value }
  | ('m', value) => { flags with multiline := value }
  | ('s', value) => { flags with dotAll := value }
  | ('U', value) => { flags with swapped := value }
  | ('R', value) => { flags with carriage := value }
  | ('u', value) => { flags with unicode := value }
  | _ => flags

def Flags.setAll (flags : Flags) (switches : Switches) : Flags := switches.foldl Flags.set flags

def asciiRanges : List (String × List (Char × Char)) :=
  [("alnum", [('0', '9'), ('A', 'Z'), ('a', 'z')]),
    ("alpha", [('A', 'Z'), ('a', 'z')]),
    ("ascii", [('\x00', '\x7F')]),
    ("blank", [('\t', '\t'), (' ', ' ')]),
    ("cntrl", [('\x00', '\x1F'), ('\x7F', '\x7F')]),
    ("digit", [('0', '9')]),
    ("graph", [('!', '~')]),
    ("lower", [('a', 'z')]),
    ("print", [(' ', '~')]),
    ("punct", [('!', '/'), (':', '@'), ('[', '\x60'), ('\x7b', '~')]),
    ("space", [('\t', '\r'), (' ', ' ')]),
    ("upper", [('A', 'Z')]),
    ("word", [('0', '9'), ('A', 'Z'), ('_', '_'), ('a', 'z')]),
    ("xdigit", [('0', '9'), ('A', 'F'), ('a', 'f')])]

def asciiClass (name : String) : CharSet :=
  CharSet.ofRanges ((asciiRanges.lookup name).getD [])

namespace Flags

-- A byte beyond ASCII alone is no character.
def accepts (flags : Flags) (literal : Literal) : Bool :=
  flags.unicode || !literal.isByte || literal.char.toNat < 0x80

-- A set as it is with the flag for any case. Beyond ASCII nothing is known of
-- cases, so it has to be known that nothing is to be done.
def fold? (flags : Flags) (set : CharSet) : Option CharSet :=
  if !flags.anyCase then some set
  else if !flags.unicode then some set.folded
  else if set.ranges.isEmpty || set.isFolded then some { set with isFolded := true }
  else none

-- A set or all that is not in it. The latter is always more than ASCII.
def finish? (flags : Flags) (isNegated : Bool) (set : CharSet) : Option CharSet := do
  let set ← flags.fold? set
  if !isNegated then pure set else if flags.unicode then pure set.complement else none

def shorthand? (flags : Flags) (shorthand : Shorthand) : Option CharSet :=
  if flags.unicode || shorthand.isNegated then none else some (asciiClass shorthand.name)

def member? (flags : Flags) (literal : Literal) : Option Char :=
  if flags.unicode || literal.char.toNat < 0x80 then some literal.char else none

-- The set that a member of a class adds to those before it.
mutual

def addMember? (flags : Flags) (set : CharSet) : ClassTerm → Option CharSet
  | .nothing => some set
  | .literal literal => (flags.member? literal).map fun c => set.adding (.one c)
  | .range first last => do
      pure (set.adding (.range (← flags.member? first) (← flags.member? last)))
  | .named name isNegated => do pure (set.union (← flags.finish? isNegated (asciiClass name)))
  | .shorthand shorthand => do pure (set.union (← flags.shorthand? shorthand))
  | .nested isNegated body => do
      pure (set.union (← flags.finish? isNegated (← flags.addMember? .nothing body)))
  | .union members => flags.addMembers? set members
  | .combined combination left right => do
      let left ← flags.addMember? .nothing left
      let right ← flags.addMember? .nothing right
      let right ← flags.fold? right
      let left ← flags.fold? left
      let both := match combination with
        | .intersection => left.intersection right
        | .difference => left.difference right
        | .symmetricDifference => left.symmetricDifference right
      pure (set.union both)

def addMembers? (flags : Flags) (set : CharSet) : List ClassTerm → Option CharSet
  | [] => some set
  | member :: members => do flags.addMembers? (← flags.addMember? set member) members

end

def literal? (flags : Flags) (literal : Literal) : Option Expression :=
  if !flags.accepts literal then none
  else if !flags.anyCase then some (.literal [literal.char])
  else if flags.unicode then none
  else if literal.char.isAlpha then
    some (.ofSet true (CharSet.folded (.one literal.char)))
  else some (.literal [literal.char])

def dot? (flags : Flags) : Option Expression :=
  let except (set : CharSet) : Option Expression := some (.ofSet false set.complement)
  if !flags.unicode then none
  else if flags.dotAll then except .nothing
  else if flags.carriage then except (CharSet.ofRanges [('\n', '\n'), ('\r', '\r')])
  else except (.one '\n')

def mark? (flags : Flags) (mark : Mark) : Option Expression :=
  let word (edge : Edge) : Option Expression := if flags.unicode then none else some (.edge edge)
  match mark with
  | .lineStart =>
      some (.edge (if flags.multiline then .lineStart flags.carriage else .textStart))
  | .lineEnd => some (.edge (if flags.multiline then .lineEnd flags.carriage else .textEnd))
  | .textStart => some (.edge .textStart)
  | .textEnd => some (.edge .textEnd)
  | .wordStart => word .wordStart
  | .wordEnd => word .wordEnd
  | .wordEdge => word .wordEdge
  | .noWordEdge => word .noWordEdge

end Flags

mutual

def Term.meaning? (flags : Flags) : Term → Option (Expression × Flags)
  | .nothing => some (.empty, flags)
  | .switches switches => some (.empty, flags.setAll switches)
  | .literal literal => (flags.literal? literal).map fun expression => (expression, flags)
  | .dot => flags.dot?.map fun expression => (expression, flags)
  | .mark mark => (flags.mark? mark).map fun expression => (expression, flags)
  | .shorthand shorthand =>
      (flags.shorthand? shorthand).map fun set => (.ofSet true set, flags)
  | .classed isNegated body => do
      let set ← flags.finish? isNegated (← flags.addMember? .nothing body)
      pure (.ofSet (!flags.unicode) set, flags)
  | .repeated count isReluctant body => do
      let (body, after) ← body.meaning? flags
      pure (.ofCount count (isReluctant = after.swapped) body, after)
  | .group (.captured index) body => do
      let (body, _) ← body.meaning? flags
      pure (.group index body, flags)
  | .group (.plain switches) body => do
      let (body, _) ← body.meaning? (flags.setAll switches)
      pure (body, flags)
  | .alternatives branches => do
      let (branches, flags) ← meanings? flags branches
      pure (.ofBranches branches, flags)
  | .sequence parts => do
      let (parts, flags) ← meanings? flags parts
      pure (.ofParts parts, flags)

def meanings? (flags : Flags) : List Term → Option (List Expression × Flags)
  | [] => some ([], flags)
  | term :: terms => do
      let (first, flags) ← term.meaning? flags
      let (others, flags) ← meanings? flags terms
      pure (first :: others, flags)

end

def Expression.parse (text : String) : Option Expression := do
  pure (← (← Term.parse text).meaning? Flags.initial).1

end Overseer.Regex

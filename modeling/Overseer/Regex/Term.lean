import Overseer.Text.Blank
import Overseer.Text.Letter

namespace Overseer.Regex

open Overseer.Text

-- Regular expressions as they are written, and how they are read. The braces of
-- a repetition that is counted, and those of a class or a character that is
-- named, never come whole: a text of this kind stands in braces itself, and
-- the first one that closes ends it. So an opening brace is an error wherever
-- it would mean something.

structure Literal where
  char : Char
  isByte : Bool

inductive Mark
  | lineStart
  | lineEnd
  | textStart
  | textEnd
  | wordStart
  | wordEnd
  | wordEdge
  | noWordEdge
deriving DecidableEq

inductive Combination
  | intersection
  | difference
  | symmetricDifference
deriving DecidableEq

structure Shorthand where
  name : String
  isNegated : Bool

inductive ClassTerm
  | nothing
  | literal (literal : Literal)
  | range (first last : Literal)
  | named (name : String) (isNegated : Bool)
  | shorthand (shorthand : Shorthand)
  | nested (isNegated : Bool) (body : ClassTerm)
  | union (members : List ClassTerm)
  | combined (combination : Combination) (left right : ClassTerm)

inductive Count
  | optional
  | any
  | some
deriving DecidableEq

abbrev Switches := List (Char × Bool)

inductive GroupKind
  | captured (index : Nat)
  | plain (switches : Switches)

inductive Term
  | nothing
  | switches (switches : Switches)
  | literal (literal : Literal)
  | dot
  | mark (mark : Mark)
  | shorthand (shorthand : Shorthand)
  | classed (isNegated : Bool) (body : ClassTerm)
  | repeated (count : Count) (isReluctant : Bool) (body : Term)
  | group (kind : GroupKind) (body : Term)
  | alternatives (branches : List Term)
  | sequence (parts : List Term)

-- How deep a term is nested. Parts that have no parts do not count.
mutual

def ClassTerm.depth : ClassTerm → Nat
  | .nothing | .literal _ | .range _ _ | .named _ _ | .shorthand _ => 0
  | .nested _ body => body.depth + 1
  | .union members => classDepth members + 1
  | .combined _ left right => max left.depth right.depth + 1

def classDepth : List ClassTerm → Nat
  | [] => 0
  | member :: rest => max member.depth (classDepth rest)

end

mutual

def Term.depth : Term → Nat
  | .nothing | .switches _ | .literal _ | .dot | .mark _ | .shorthand _ => 0
  | .classed _ body => body.depth + 1
  | .repeated _ _ body => body.depth + 1
  | .group _ body => body.depth + 1
  | .alternatives branches => depthOfAll branches + 1
  | .sequence parts => depthOfAll parts + 1

def depthOfAll : List Term → Nat
  | [] => 0
  | term :: rest => max term.depth (depthOfAll rest)

end

def deepestTerm : Nat := 250

abbrev Rest (α : Type) := α × List Char

def skipBlanks : Nat → List Char → List Char
  | 0, text => text
  | fuel + 1, text =>
      match text.dropWhile isBlank with
      | '#' :: comment => skipBlanks fuel ((comment.dropWhile (· ≠ '\n')).drop 1)
      | rest => rest

-- Blanks and comments are left out where they are not part of an expression.
def skip (spaced : Bool) (text : List Char) : List Char :=
  if spaced then skipBlanks (text.length + 1) text else text

def flagLetters : List Char := ['i', 'm', 's', 'U', 'u', 'R', 'x']

-- Flags up to a sign that ends them, which is told with them. None may be named
-- twice.
def readSwitches (isOn : Bool) (seen : List Char) : List Char → Option (Rest (Switches × Char))
  | [] => none
  | c :: rest =>
      if c = ')' || c = ':' then
        if seen.head? = some '-' then none else some (([], c), rest)
      else if seen.contains c then none
      else if c = '-' then readSwitches false (c :: seen) rest
      else if flagLetters.contains c then do
        let ((switches, closing), rest) ← readSwitches isOn (c :: seen) rest
        pure (((c, isOn) :: switches, closing), rest)
      else none

def Switches.spaced? (switches : Switches) : Option Bool := List.lookup 'x' switches

def isMeta (c : Char) : Bool := "\\.+*?()|[]\x7b\x7d^$#&-~".toList.contains c

-- Punctuation and the like may be escaped needlessly.
def isEscapable (c : Char) : Bool := c.toNat < 0x80 && !c.isAlphanum && c ≠ '<' && c ≠ '>'

def hexValue? (c : Char) : Option Nat :=
  if c.isDigit then some (c.toNat - '0'.toNat)
  else if 'a' ≤ c && c ≤ 'f' then some (c.toNat - 'a'.toNat + 10)
  else if 'A' ≤ c && c ≤ 'F' then some (c.toNat - 'A'.toNat + 10)
  else none

def readHex (spaced : Bool) : Nat → Nat → List Char → Option (Rest Nat)
  | 0, value, text => some (value, text)
  | digits + 1, value, text =>
      match skip spaced text with
      | [] => none
      | c :: rest => do readHex spaced digits (value * 16 + (← hexValue? c)) rest

def readCode (spaced : Bool) (letter : Char) (text : List Char) : Option (Rest Literal) := do
  let digits := if letter = 'x' then 2 else if letter = 'u' then 4 else 8
  let (code, rest) ← readHex spaced digits 0 text
  if code.isValidChar then some (⟨Char.ofNat code, letter = 'x'⟩, rest) else none

def shorthand? (letter : Char) : Option Shorthand :=
  match letter with
  | 'd' => some ⟨"digit", false⟩
  | 's' => some ⟨"space", false⟩
  | 'w' => some ⟨"word", false⟩
  | 'D' => some ⟨"digit", true⟩
  | 'S' => some ⟨"space", true⟩
  | 'W' => some ⟨"word", true⟩
  | _ => none

inductive Single
  | literal (literal : Literal)
  | shorthand (shorthand : Shorthand)
  | mark (mark : Mark)

def readEscape (spaced : Bool) : List Char → Option (Rest Single)
  | [] => none
  | c :: rest =>
      if c = 'x' || c = 'u' || c = 'U' then
        (readCode spaced c rest).map fun (literal, rest) => (.literal literal, rest)
      else
        match shorthand? c with
        | some found => some (.shorthand found, rest)
        | none =>
            let plain (c : Char) : Option (Rest Single) := some (.literal ⟨c, false⟩, rest)
            let mark (found : Mark) : Option (Rest Single) := some (.mark found, rest)
            if isMeta c || isEscapable c then plain c
            else
              match c with
              | 'a' => plain '\x07'
              | 'f' => plain '\x0C'
              | 't' => plain '\t'
              | 'n' => plain '\n'
              | 'r' => plain '\r'
              | 'v' => plain '\x0B'
              | 'A' => mark .textStart
              | 'z' => mark .textEnd
              | 'b' =>
                  -- A name in braces for an edge never comes whole.
                  match rest with
                  | '\x7b' :: _ => none
                  | _ => mark .wordEdge
              | 'B' => mark .noWordEdge
              | '<' => mark .wordStart
              | '>' => mark .wordEnd
              | _ => none

def readMember (spaced : Bool) : List Char → Option (Rest Single)
  | '\\' :: rest => readEscape spaced rest
  | c :: rest => some (.literal ⟨c, false⟩, rest)
  | [] => none

def Single.member? : Single → Option ClassTerm
  | literal found => some (.literal found)
  | shorthand found => some (.shorthand found)
  | mark _ => none

-- The next sign, past blanks. The first sign of a comment counts as well.
def peekPast (inComment : Bool) : List Char → Option Char
  | [] => none
  | c :: rest =>
      if isBlank c then peekPast inComment rest
      else if !inComment && c = '#' then peekPast true rest
      else some c

def peek (spaced : Bool) (text : List Char) : Option Char :=
  if spaced then peekPast false text else text.head?

-- A member, or all from one character to another.
def readMembers (spaced : Bool) (text : List Char) : Option (Rest ClassTerm) := do
  let (first, rest) ← readMember spaced text
  let alone : Option (Rest ClassTerm) := first.member?.map fun term => (term, skip spaced rest)
  match skip spaced rest with
  | [] => none
  | '-' :: after =>
      let next := peek spaced after
      if next = some ']' || next = some '-' then alone
      else
        match first, ← readMember spaced (skip spaced after) with
        | .literal first, (.literal last, rest) =>
            if last.char.toNat < first.char.toNat then none else some (.range first last, rest)
        | _, _ => none
  | _ => alone

def classNames : List String :=
  ["alnum", "alpha", "ascii", "blank", "cntrl", "digit", "graph", "lower", "print", "punct",
    "space", "upper", "word", "xdigit"]

def readNamed (text : List Char) : Option (Rest ClassTerm) :=
  let isNegated := text.head? = some '^'
  let text := if isNegated then text.drop 1 else text
  let name := text.takeWhile (· ≠ ':')
  match text.drop name.length with
  | ':' :: ']' :: rest =>
      if classNames.contains (String.ofList name) then
        some (.named (String.ofList name) isNegated, rest)
      else none
  | _ => none

def readHyphens (spaced : Bool) : Nat → List Char → Rest (List ClassTerm)
  | 0, text => ([], text)
  | fuel + 1, text =>
      match text with
      | '-' :: rest =>
          let (hyphens, rest) := readHyphens spaced fuel (skip spaced rest)
          (.literal ⟨'-', false⟩ :: hyphens, rest)
      | text => ([], text)

-- Hyphens that come first in a class stand for themselves, and so does a
-- bracket that would close it too soon.
def readLeading (spaced : Bool) (text : List Char) : Rest (List ClassTerm) :=
  match text with
  | ']' :: rest => ([.literal ⟨']', false⟩], skip spaced rest)
  | text => readHyphens spaced text.length text

-- Several members are one.
def ClassTerm.ofMembers : List ClassTerm → ClassTerm
  | [] => nothing
  | [member] => member
  | members => union members

def combineWith (pending : Option (ClassTerm × Combination)) (members : List ClassTerm) :
    ClassTerm :=
  let right := ClassTerm.ofMembers members
  match pending with
  | none => right
  | some (left, combination) => .combined combination left right

def combination? : List Char → Option (Combination × List Char)
  | '&' :: '&' :: rest => some (.intersection, rest)
  | '-' :: '-' :: rest => some (.difference, rest)
  | '~' :: '~' :: rest => some (.symmetricDifference, rest)
  | _ => none

-- The rest of a class after its opening bracket. Classes may be nested, and
-- combined from left to right.
mutual

def readClass (spaced : Bool) : Nat → List Char → Option (Rest (Bool × ClassTerm))
  | 0, _ => none
  | fuel + 1, text => do
      let text := skip spaced text
      let isNegated := text.head? = some '^'
      let text := if isNegated then skip spaced (text.drop 1) else text
      let (members, text) := readLeading spaced text
      let (body, rest) ← readMore spaced fuel none members text
      pure ((isNegated, body), rest)

def readMore (spaced : Bool) :
    Nat → Option (ClassTerm × Combination) → List ClassTerm → List Char → Option (Rest ClassTerm)
  | 0, _, _, _ => none
  | fuel + 1, pending, members, text =>
      let text := skip spaced text
      match combination? text with
      | some (combination, rest) =>
          readMore spaced fuel (some (combineWith pending members, combination)) [] rest
      | none =>
          match text with
          | ']' :: rest => some (combineWith pending members, rest)
          | '[' :: rest =>
              let named :=
                match rest with
                | ':' :: name => readNamed name
                | _ => none
              match named with
              | some (found, rest) => readMore spaced fuel pending (members ++ [found]) rest
              | none => do
                  let ((isNegated, body), rest) ← readClass spaced fuel rest
                  readMore spaced fuel pending (members ++ [.nested isNegated body]) rest
          | _ => do
              let (found, rest) ← readMembers spaced text
              readMore spaced fuel pending (members ++ [found]) rest

end

-- A name consists of letters, digits and a few signs, and no two groups share
-- one.
def readName (names : List String) (text : List Char) : Option (Rest String) :=
  let name := text.takeWhile (· ≠ '>')
  let isNameStart (c : Char) : Bool := c = '_' || isAlphabetic c
  let isNamePart (c : Char) : Bool :=
    c = '_' || isAlphanumeric c || c = '.' || c = '[' || c = ']'
  match name, text.drop name.length with
  | first :: others, _ :: rest =>
      if isNameStart first && others.all isNamePart && !names.contains (String.ofList name) then
        some (String.ofList name, rest)
      else none
  | _, _ => none

structure Progress where
  spaced : Bool
  names : List String
  captures : Nat
  rest : List Char

def readSingle (spaced : Bool) : List Char → Option (Rest Term)
  | [] => none
  | '.' :: rest => some (.dot, rest)
  | '^' :: rest => some (.mark .lineStart, rest)
  | '$' :: rest => some (.mark .lineEnd, rest)
  | '[' :: rest =>
      (readClass spaced (2 * rest.length + 2) rest).map fun ((isNegated, body), rest) =>
        (.classed isNegated body, rest)
  | '\\' :: rest =>
      (readEscape spaced rest).map fun (found, rest) =>
        match found with
        | .literal found => (.literal found, rest)
        | .shorthand found => (.shorthand found, rest)
        | .mark found => (.mark found, rest)
  | c :: rest => some (.literal ⟨c, false⟩, rest)

-- What follows the parenthesis that opens a group: flags for the rest of the
-- group around it, or the group that begins.
inductive Opening
  | switches (switches : Switches)
  | group (kind : GroupKind)

def readOpening (progress : Progress) : Option (Opening × Progress) :=
  let captured : Opening := .group (.captured (progress.captures + 1))
  let counted := { progress with captures := progress.captures + 1 }
  let named (text : List Char) : Option (Opening × Progress) :=
    (readName progress.names text).map fun (name, rest) =>
      (captured, { counted with names := name :: progress.names, rest })
  match skip progress.spaced progress.rest with
  | '?' :: '=' :: _ | '?' :: '!' :: _ | '?' :: '<' :: '=' :: _ | '?' :: '<' :: '!' :: _ => none
  | '?' :: 'P' :: '<' :: rest | '?' :: '<' :: rest => named rest
  | '?' :: rest => do
      let ((switches, closing), rest) ← readSwitches true [] rest
      if closing = ':' then some (.group (.plain switches), { progress with rest })
      else if switches.isEmpty then none
      else some (.switches switches, { progress with rest })
  | rest => some (captured, { counted with rest })

def Term.ofBranches : List Term → Term
  | [branch] => branch
  | branches => alternatives branches

def Term.ofParts : List Term → Term
  | [] => nothing
  | [part] => part
  | parts => sequence parts

def count? (c : Char) : Option Count :=
  match c with
  | '?' => some .optional
  | '*' => some .any
  | '+' => some .some
  | _ => none

-- A sign of repetition belongs to the last part before it, the first one here.
def repeatLast (count : Count) (isReluctant : Bool) : List Term → Option (List Term)
  | [] | .switches _ :: _ => none
  | last :: others => some (.repeated count isReluctant last :: others)

mutual

def readBranches : Nat → Progress → Option (List Term × Progress)
  | 0, _ => none
  | fuel + 1, progress => do
      let (branch, progress) ← readParts fuel [] progress
      match progress.rest with
      | '|' :: rest =>
          let (others, progress) ← readBranches fuel { progress with rest }
          pure (branch :: others, progress)
      | _ => pure ([branch], progress)

-- The parts of a branch. Those that were read come in the opposite order.
def readParts : Nat → List Term → Progress → Option (Term × Progress)
  | 0, _, _ => none
  | fuel + 1, parts, progress =>
      let rest := skip progress.spaced progress.rest
      let finished := some (Term.ofParts parts.reverse, { progress with rest })
      match rest with
      | [] => finished
      | c :: after =>
          if c = '|' || c = ')' then finished
          else if c = '\x7b' then none
          else if c = '(' then do
            match ← readOpening { progress with rest := after } with
            | (.switches switches, opened) =>
                let spaced := switches.spaced?.getD progress.spaced
                readParts fuel (.switches switches :: parts) { opened with spaced }
            | (.group kind, opened) =>
                let spaced := match kind with
                  | .plain switches => switches.spaced?.getD progress.spaced
                  | .captured _ => progress.spaced
                let (branches, closing) ← readBranches fuel { opened with spaced }
                match closing.rest with
                | ')' :: rest =>
                    readParts fuel (.group kind (Term.ofBranches branches) :: parts)
                      { closing with spaced := progress.spaced, rest }
                | _ => none
          else
            match count? c with
            | some count => do
                let isReluctant := after.head? = some '?'
                let parts ← repeatLast count isReluctant parts
                readParts fuel parts
                  { progress with rest := if isReluctant then after.drop 1 else after }
            | none => do
                let (part, rest) ← readSingle progress.spaced rest
                readParts fuel (part :: parts) { progress with rest }

end

-- Every round reads a character or closes what an earlier one opened.
def Term.parse (text : String) : Option Term := do
  let cs := text.toList
  let (branches, progress) ← readBranches (3 * cs.length + 3) ⟨false, [], 0, cs⟩
  let term := Term.ofBranches branches
  if progress.rest.isEmpty && term.depth ≤ deepestTerm then some term else none

end Overseer.Regex

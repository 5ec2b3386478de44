import Overseer.Shell.Command
import Overseer.Text.Utf8

namespace Overseer.Shell

open Overseer.Text

-- A script cut into words, operators and line ends.

inductive Lexeme
  | word (word : Word)
  | operator (text : String)
  | redirect (descriptor : Option Nat) (text : String)
  | newline
  | ending
  | mistake (text : String)

structure Token where
  lexeme : Lexeme
  line : Nat

def quoteMark : Char := '\x22'

def apostrophe : Char := '\x27'

def isGap (c : Char) : Bool := c = ' ' || c = '\t'

-- What ends a word that is not quoted.
def endsWord (c : Char) : Bool :=
  isGap c || ['\n', ';', '&', '|', '(', ')', '<', '>'].contains c

def isNameStart (c : Char) : Bool := c.isAlpha || c = '_'

def isNameChar (c : Char) : Bool := c.isAlphanum || c = '_'

def isName (cs : List Char) : Bool := cs.head?.any isNameStart && cs.all isNameChar

def isSpecialName (c : Char) : Bool :=
  c.isDigit || ['@', '*', '#', '?', '$', '!', '-'].contains c

def bytesOf (cs : List Char) : Bytes := Utf8.encode (String.ofList cs)

-- The text up to the parenthesis that closes it, and what follows. Quoted
-- parentheses close nothing.
def enclosed (depth : Nat) (quote : Option Char) : List Char → Option (List Char × List Char)
  | [] => none
  | '\\' :: c :: cs =>
      if quote = some apostrophe then
        (enclosed depth (if c = apostrophe then none else quote) cs).map fun (inside, rest) =>
          ('\\' :: c :: inside, rest)
      else
        (enclosed depth quote cs).map fun (inside, rest) => ('\\' :: c :: inside, rest)
  | c :: cs =>
      let keep (depth : Nat) (quote : Option Char) :=
        (enclosed depth quote cs).map fun (inside, rest) => (c :: inside, rest)
      if quote = some c then keep depth none
      else if quote.isSome then keep depth quote
      else if c = quoteMark || c = apostrophe then keep depth (some c)
      else if c = '(' then keep (depth + 1) none
      else if c = ')' then if depth = 0 then some ([], cs) else keep (depth - 1) none
      else keep depth none

-- Where a part of a word stands, and so what ends it.
inductive Place
  | open
  | quoted
  | operand (quoted : Bool)
  | expression (depth : Nat)
deriving DecidableEq

def Place.isQuoted : Place → Bool
  | .open | .operand false => false
  | .quoted | .operand true | .expression _ => true

def use? : List Char → Option (Use × List Char)
  | ':' :: '-' :: cs => some (.fallback true, cs)
  | '-' :: cs => some (.fallback false, cs)
  | ':' :: '=' :: cs => some (.assignment true, cs)
  | '=' :: cs => some (.assignment false, cs)
  | ':' :: '+' :: cs => some (.instead true, cs)
  | '+' :: cs => some (.instead false, cs)
  | ':' :: '?' :: cs => some (.required true, cs)
  | '?' :: cs => some (.required false, cs)
  | '%' :: '%' :: cs => some (.without true true, cs)
  | '%' :: cs => some (.without true false, cs)
  | '#' :: '#' :: cs => some (.without false true, cs)
  | '#' :: cs => some (.without false false, cs)
  | _ => none

def parameterName : List Char → List Char
  | [] => []
  | c :: cs =>
      if isNameStart c then (c :: cs).takeWhile isNameChar
      else if c.isDigit then (c :: cs).takeWhile Char.isDigit
      else if isSpecialName c then [c]
      else []

-- An empty pair of quotes is a word, but the arguments between quotes may be
-- no word at all.
def betweenQuotes (pieces : Word) : Word :=
  match pieces with
  | [.parameter "@" .value _ _] => pieces
  | _ => .text [] true :: pieces

mutual

-- The parts of a word up to what ends it, and what follows. The text is known
-- to end on a line.
def pieces : Nat → Nat → Place → List Char → Except String (Word × List Char)
  | 0, _, _, cs => .ok ([], cs)
  | _ + 1, _, place, [] =>
      match place with
      | .open => .ok ([], [])
      | .quoted => .error "Unterminated quoted string"
      | .operand _ => .error "Missing '\x7d'"
      | .expression _ => .error "Missing '))'"
  | fuel + 1, lastLine, place, c :: cs =>
      let more (place : Place) (first : Word) (rest : List Char) :
          Except String (Word × List Char) := do
        let (others, after) ← pieces fuel lastLine place rest
        pure (first ++ others, after)
      let literal (_ : Unit) := more place [.text (bytesOf [c]) place.isQuoted] cs
      if place = .open && endsWord c then .ok ([], c :: cs)
      else if place = .quoted && c = quoteMark then .ok ([], cs)
      else if (place = .operand true || place = .operand false) && c = '\x7d' then .ok ([], cs)
      else if c = '\\' then
        match cs with
        | [] => more place [.text (bytesOf [c]) true] []
        | d :: rest =>
            let hidden := [quoteMark, '\\', '$', '\x60'].contains d ||
              (place = .operand true && d = '\x7d')
            if d = '\n' then more place [] rest
            else if place.isQuoted && !hidden then more place [.text (bytesOf [c, d]) true] rest
            else more place [.text (bytesOf [d]) true] rest
      else if c = apostrophe && !place.isQuoted then
        let inside := cs.takeWhile (· ≠ apostrophe)
        if inside.length = cs.length then .error "Unterminated quoted string"
        else more place [.text (bytesOf inside) true] (cs.drop (inside.length + 1))
      else if c = quoteMark then do
        let (inside, rest) ← pieces fuel lastLine .quoted cs
        more place (betweenQuotes inside) rest
      else if c = '$' then do
        match ← afterDollar fuel lastLine place.isQuoted cs with
        | some (piece, rest) => more place [piece] rest
        | none => literal ()
      else
        match place with
        | .expression depth =>
            if c = '(' then more (.expression (depth + 1)) [.text (bytesOf [c]) true] cs
            else if c = ')' then
              match depth, cs with
              | depth + 1, _ => more (.expression depth) [.text (bytesOf [c]) true] cs
              | 0, ')' :: rest => .ok ([], rest)
              | 0, _ => literal ()
            else literal ()
        | _ => literal ()

def afterDollar : Nat → Nat → Bool → List Char → Except String (Option (Piece × List Char))
  | 0, _, _, _ => .ok none
  | fuel + 1, lastLine, quoted, '(' :: '(' :: cs => do
      let (inside, rest) ← pieces fuel lastLine (.expression 0) cs
      pure (some (.arithmetic inside quoted, rest))
  | _ + 1, lastLine, quoted, '(' :: cs =>
      match enclosed 0 none cs with
      | some (inside, rest) =>
          .ok (some (.printed (lastLine - cs.count '\n') inside quoted, rest))
      | none => .error "end of file unexpected (expecting \")\")"
  | fuel + 1, lastLine, quoted, '\x7b' :: cs =>
      match cs with
      | '#' :: '\x7d' :: rest => .ok (some (.parameter "#" .value [] quoted, rest))
      | '#' :: rest =>
          let name := parameterName rest
          match rest.drop name.length with
          | '\x7d' :: after =>
              .ok (some (.parameter (String.ofList name) .length [] quoted, after))
          | _ => braced fuel lastLine quoted cs
      | _ => braced fuel lastLine quoted cs
  | _ + 1, _, quoted, c :: cs =>
      if isNameStart c then
        let name := (c :: cs).takeWhile isNameChar
        .ok (some (.parameter (String.ofList name) .value [] quoted, (c :: cs).drop name.length))
      else if isSpecialName c then
        .ok (some (.parameter (String.ofList [c]) .value [] quoted, cs))
      else .ok none
  | _ + 1, _, _, [] => .ok none

def braced : Nat → Nat → Bool → List Char → Except String (Option (Piece × List Char))
  | 0, _, _, _ => .ok none
  | fuel + 1, lastLine, quoted, cs => do
      let name := parameterName cs
      let after := cs.drop name.length
      match after with
      | '\x7d' :: rest =>
          let use := if name.isEmpty then Use.malformed else .value
          pure (some (.parameter (String.ofList name) use [] quoted, rest))
      | _ =>
          match (if name.isEmpty then none else use? after) with
          | some (use, operand) =>
              let isPattern := match use with
                | .without _ _ => true
                | _ => false
              let place := Place.operand (quoted && !isPattern)
              let (inside, rest) ← pieces fuel lastLine place operand
              pure (some (.parameter (String.ofList name) use inside quoted, rest))
          | none =>
              let (_, rest) ← pieces fuel lastLine (.operand quoted) after
              pure (some (.parameter (String.ofList name) .malformed [] quoted, rest))

end

-- The operator at the start of a text, the longest one first.
def operators : List String := ["&&", "||", ";;", "&", ";", "|", "(", ")"]

def redirectOperators : List String :=
  [">>", ">&", "<&", ">", "<"]

def leading? (texts : List String) (cs : List Char) : Option String :=
  texts.find? fun text => text.toList.isPrefixOf cs

def descriptor? (word : Word) : Option Nat :=
  match plain? word with
  | some [byte] => if 48 ≤ byte && byte ≤ 57 then some (byte.toNat - 48) else none
  | _ => none

-- The tokens of a script from a line to its last one.
def tokens (lastLine : Nat) : Nat → Nat → List Char → List Token
  | 0, line, _ => [⟨.ending, line⟩]
  | _ + 1, line, [] => [⟨.ending, line⟩]
  | fuel + 1, line, c :: cs =>
      let redirect (number : Option Nat) (text : String) (rest : List Char) : List Token :=
        ⟨.redirect number text, line⟩ :: tokens lastLine fuel line (rest.drop text.length)
      if isGap c then tokens lastLine fuel line cs
      else if c = '\n' then ⟨.newline, line⟩ :: tokens lastLine fuel (line + 1) cs
      else if c = '#' then tokens lastLine fuel line (cs.dropWhile (· ≠ '\n'))
      else if c = '\\' && cs.head? = some '\n' then
        tokens lastLine fuel (line + 1) (cs.drop 1)
      else
        match leading? redirectOperators (c :: cs) with
        | some text => redirect none text (c :: cs)
        | none =>
            match leading? operators (c :: cs) with
            | some text =>
                ⟨.operator text, line⟩ :: tokens lastLine fuel line ((c :: cs).drop text.length)
            | none =>
                match pieces (4 * fuel + 4) lastLine .open (c :: cs) with
                | .error text => [⟨.mistake text, line + (c :: cs).count '\n'⟩]
                | .ok (word, rest) =>
                    match descriptor? word, leading? redirectOperators rest with
                    | some number, some text => redirect (some number) text rest
                    | _, _ =>
                        let used := (c :: cs).take (cs.length + 1 - rest.length)
                        ⟨.word word, line⟩ :: tokens lastLine fuel (line + used.count '\n') rest

def assignment? (word : Word) : Option (String × Word) :=
  let rec go (name : List Char) : Word → Option (String × Word)
    | .text bytes false :: rest =>
        if bytes = [61] then
          if name.isEmpty then none else some (String.ofList name, rest)
        else
          match (Utf8.text bytes).toList with
          | [c] =>
              if isNameChar c && !(name.isEmpty && c.isDigit) then go (name ++ [c]) rest else none
          | _ => none
    | _ => none
  go [] word

-- Every round uses up a character.
def Token.ofScript (firstLine : Nat) (script : List Char) : List Token :=
  tokens (firstLine + script.count '\n') (script.length + 1) firstLine script

end Overseer.Shell

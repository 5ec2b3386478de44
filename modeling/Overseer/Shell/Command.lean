namespace Overseer.Shell

-- Shell scripts, as far as supervised programs here are written in them: what
-- a script says, before any of it runs.

abbrev Bytes := List UInt8

-- What is made of a parameter. Where two cases differ in whether an empty
-- value counts as none, they are one case with a flag.
inductive Use
  | value
  | length
  | fallback (evenEmpty : Bool)
  | assignment (evenEmpty : Bool)
  | instead (evenEmpty : Bool)
  | required (evenEmpty : Bool)
  -- The value without what a pattern matches at one end of it.
  | without (atEnd longest : Bool)
  | malformed
deriving DecidableEq

-- A part of a word. What a quoted part stands for is not split into fields.
inductive Piece
  | text (bytes : Bytes) (quoted : Bool)
  | parameter (name : String) (use : Use) (operand : List Piece) (quoted : Bool)
  | arithmetic (expression : List Piece) (quoted : Bool)
  -- What another script prints, which begins on a line.
  | printed (line : Nat) (script : List Char) (quoted : Bool)
  -- Something that was put in the place of another part.
  | value (bytes : Bytes) (quoted : Bool)

abbrev Word := List Piece

-- The text of a word that is written without quotes and parameters. Only such
-- a word can be a keyword.
def plain? : Word → Option Bytes
  | [] => some []
  | .text bytes false :: rest => (plain? rest).map (bytes ++ ·)
  | _ :: _ => none

inductive Direction
  | input
  | output
  | append
  | copy
deriving DecidableEq

structure Redirect where
  descriptor : Nat
  direction : Direction
  target : Word

inductive Command
  | skip
  | simple (line : Nat) (assignments : List (String × Word)) (words : List Word)
      (redirects : List Redirect)
  | sequence (first second : Command)
  | background (command : Command)
  | conditional (onSuccess : Bool) (first second : Command)
  | negation (command : Command)
  | pipe (source sink : Command)
  | group (line : Nat) (command : Command) (redirects : List Redirect)
  | subshell (command : Command)
  | choice (condition yes no : Command)
  | loop (onSuccess : Bool) (condition body : Command)
  | each (line : Nat) (name : String) (words : Option (List Word)) (body : Command)
  | select (line : Nat) (subject : Word) (branches : List (List Word × Command))
  | define (name : String) (body : Command)
  -- From here on the script cannot be read.
  | mistake (line : Nat) (text : String)
deriving Inhabited

-- The first script in a word whose printed text is still to be put in its
-- place, and the line it begins on.
mutual

def Piece.firstPrinted : Piece → Option (Nat × List Char)
  | .printed line script _ => some (line, script)
  | .parameter _ _ operand _ => firstPrintedIn operand
  | .arithmetic expression _ => firstPrintedIn expression
  | .text _ _ | .value _ _ => none

def firstPrintedIn : List Piece → Option (Nat × List Char)
  | [] => none
  | piece :: rest => piece.firstPrinted.or (firstPrintedIn rest)

end

def firstPrinted (words : List Word) : Option (Nat × List Char) := words.findSome? firstPrintedIn

-- Puts a printed text in the place of the first script.
mutual

def Piece.fill (bytes : Bytes) : Piece → Option Piece
  | .printed _ _ quoted => some (.value bytes quoted)
  | .parameter name use operand quoted =>
      (fillWord bytes operand).map fun operand => .parameter name use operand quoted
  | .arithmetic expression quoted =>
      (fillWord bytes expression).map fun expression => .arithmetic expression quoted
  | .text _ _ | .value _ _ => none

def fillWord (bytes : Bytes) : List Piece → Option (List Piece)
  | [] => none
  | piece :: rest =>
      match piece.fill bytes with
      | some filled => some (filled :: rest)
      | none => (fillWord bytes rest).map (piece :: ·)

end

def fillWords (bytes : Bytes) : List Word → Option (List Word)
  | [] => none
  | word :: words =>
      match fillWord bytes word with
      | some filled => some (filled :: words)
      | none => (fillWords bytes words).map (word :: ·)

def Command.expanded : Command → List Word
  | .simple _ assignments words redirects =>
      words ++ redirects.map Redirect.target ++ assignments.map Prod.snd
  | .group _ _ redirects => redirects.map Redirect.target
  | .each _ _ (some words) _ => words
  | .select _ subject _ => [subject]
  | _ => []

def fillTargets (bytes : Bytes) : List Redirect → Option (List Redirect)
  | [] => none
  | redirect :: redirects =>
      match fillWord bytes redirect.target with
      | some target => some ({ redirect with target } :: redirects)
      | none => (fillTargets bytes redirects).map (redirect :: ·)

def Command.fill (bytes : Bytes) : Command → Command
  | .simple line assignments words redirects =>
      match fillWords bytes words, fillTargets bytes redirects with
      | some words, _ => .simple line assignments words redirects
      | none, some redirects => .simple line assignments words redirects
      | none, none =>
          let values := assignments.map Prod.snd
          let values := (fillWords bytes values).getD values
          .simple line ((assignments.map Prod.fst).zip values) words redirects
  | .group line command redirects =>
      .group line command ((fillTargets bytes redirects).getD redirects)
  | .each line name (some words) body =>
      .each line name (some ((fillWords bytes words).getD words)) body
  | .select line subject branches =>
      .select line ((fillWord bytes subject).getD subject) branches
  | command => command

end Overseer.Shell

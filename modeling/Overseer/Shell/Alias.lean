import Overseer.Shell.Grammar

namespace Overseer.Shell

open Overseer.Text

-- Names that stand for other texts where a command may begin.

abbrev Aliases := List (String × Bytes)

def openers : List String :=
  ["!", "do", "elif", "else", "if", "then", "until", "while", "\x7b"]

def isBlankAtEnd (text : Bytes) : Bool := text.getLast?.any fun byte => byte = 32 || byte = 9

def isEnding (token : Token) : Bool := token.lexeme matches .ending

def aliasTokens (line : Nat) (text : Bytes) : List Token :=
  ((Token.ofScript line (Utf8.text text).toList).filter fun token => !isEnding token).map
    fun token => { token with line }

-- Puts texts in the places of names, each with how many of the first tokens are
-- still to come. A name does not stand for anything in its own text. After a
-- text with a blank at its end another name may stand.
def substituteWithin (aliases : Aliases) : Nat → List String → Bool → List Token →
    List (Token × Nat)
  | 0, _, _, tokens => tokens.map fun token => (token, 0)
  | _ + 1, _, _, [] => []
  | fuel + 1, used, isFirst, token :: rest =>
      let left := rest.length + 1
      let more (isFirst : Bool) : List (Token × Nat) :=
        (token, left) :: substituteWithin aliases fuel used isFirst rest
      match token.lexeme with
      | .word word =>
          match plainText? token with
          | none => more (isFirst && (assignment? word).isSome)
          | some name =>
              if !isFirst then more false
              else if keywords.contains name then more (openers.contains name)
              else if (assignment? word).isSome then more true
              else
                match (if used.contains name then none else aliases.lookup name) with
                | none => more false
                | some text =>
                    let inside := substituteWithin aliases fuel (name :: used) true
                      (aliasTokens token.line text)
                    inside.map (fun entry => (entry.1, left)) ++
                      substituteWithin aliases fuel used (isBlankAtEnd text) rest
      | .redirect _ _ =>
          match rest with
          | target :: others =>
              (token, left) :: (target, left - 1) ::
                substituteWithin aliases fuel used isFirst others
          | [] => more isFirst
      | .operator _ | .newline => more true
      | .ending | .mistake _ => more isFirst

def substituted (aliases : Aliases) (tokens : List Token) : List (Token × Nat) :=
  substituteWithin aliases (tokens.length + 1) [] true tokens

def nextCommand (aliases : Aliases) (tokens : List Token) : Option (Command × List Token) :=
  let tokens := dropNewlines tokens
  if isAtEnd tokens then none
  else
    let replaced := if aliases.isEmpty then tokens.map fun token => (token, 0)
      else substituted aliases tokens
    match parseLine (replaced.length + 1) (replaced.map Prod.fst) with
    | .error mistake => some (.mistake mistake.line mistake.text, [])
    | .ok (command, rest) =>
        if aliases.isEmpty then some (command, rest)
        else
          let left := match replaced[replaced.length - rest.length]? with
            | some (_, left) => if rest.isEmpty then 0 else left
            | none => 0
          some (command, tokens.drop (tokens.length - left))

end Overseer.Shell

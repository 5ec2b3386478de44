import Overseer.Shell.Token

namespace Overseer.Shell

open Overseer.Text

-- From tokens to commands.

structure Mistake where
  line : Nat
  text : String

abbrev Rest (α : Type) := α × List Token

-- Words that mean something of their own where a command may begin.
def keywords : List String :=
  ["!", "case", "do", "done", "elif", "else", "esac", "fi", "for", "if", "in", "then", "until",
    "while", "\x7b", "\x7d"]

def plainText? : Token → Option String
  | ⟨.word word, _⟩ => (plain? word).map Utf8.text
  | _ => none

def keyword? (token : Token) : Option String :=
  (plainText? token).bind fun text => if keywords.contains text then some text else none

def cited (text : String) : String := "\"" ++ text ++ "\""

-- What a token is called in a complaint. Keywords are told from other words
-- only where they count.
def tokenName (keywordsCount : Bool) (token : Token) : String :=
  match token.lexeme with
  | .word _ =>
      match (if keywordsCount then keyword? token else none) with
      | some text => cited text
      | none => "word"
  | .operator text => cited text
  | .redirect _ _ => "redirection"
  | .newline => "newline"
  | .ending | .mistake _ => "end of file"

-- The token that comes next is not one that may come here. A line end has been
-- read when it is seen.
def unexpected (keywordsCount : Bool) (wanted : String) : List Token → Mistake
  | [] => ⟨0, "end of file unexpected" ++ wanted⟩
  | token :: _ =>
      match token.lexeme with
      | .mistake text => ⟨token.line, text⟩
      | lexeme =>
          let line := if lexeme matches .newline then token.line + 1 else token.line
          ⟨line, tokenName keywordsCount token ++ " unexpected" ++ wanted⟩

def wanting (text : String) : String := " (expecting " ++ cited text ++ ")"

def dropNewlines : List Token → List Token
  | ⟨.newline, _⟩ :: rest => dropNewlines rest
  | tokens => tokens

def closers : List String := ["then", "elif", "else", "fi", "do", "done", "esac", "\x7d"]

def closesHere : List Token → Bool
  | [] => true
  | token :: _ =>
      match token.lexeme with
      | .operator text => text = ")" || text = ";;"
      | .ending => true
      | _ => (keyword? token).any closers.contains

def isAtEnd : List Token → Bool
  | [] | ⟨.ending, _⟩ :: _ => true
  | _ => false

def expectKeyword (text : String) (tokens : List Token) : Except Mistake (List Token) :=
  match tokens with
  | token :: rest =>
      if keyword? token = some text then .ok rest
      else .error (unexpected true (wanting text) tokens)
  | [] => .error (unexpected true (wanting text) tokens)

def expectOperator (text : String) (tokens : List Token) : Except Mistake (List Token) :=
  match tokens with
  | ⟨.operator found, _⟩ :: rest =>
      if found = text then .ok rest else .error (unexpected false (wanting text) tokens)
  | _ => .error (unexpected false (wanting text) tokens)

def direction (text : String) : Direction :=
  if text = "<" then .input
  else if text = ">>" then .append
  else if text = ">&" || text = "<&" then .copy
  else .output

def defaultDescriptor (text : String) : Nat := if text.startsWith "<" then 0 else 1

-- A redirection's target comes right after it.
def redirectTarget (number : Option Nat) (text : String) (tokens : List Token) :
    Except Mistake (Rest Redirect) :=
  match tokens with
  | ⟨.word target, _⟩ :: rest =>
      .ok (⟨number.getD (defaultDescriptor text), direction text, target⟩, rest)
  | _ => .error (unexpected false "" tokens)

structure Parts where
  assignments : List (String × Word)
  words : List Word
  redirects : List Redirect

-- The words of a simple command: assignments come before the first other word.
def simpleParts : Nat → Parts → List Token → Except Mistake (Rest Parts)
  | 0, parts, tokens => .ok (parts, tokens)
  | fuel + 1, parts, tokens =>
      match tokens with
      | ⟨.word word, _⟩ :: rest =>
          match (if parts.words.isEmpty then assignment? word else none) with
          | some assignment =>
              simpleParts fuel { parts with assignments := parts.assignments ++ [assignment] } rest
          | none => simpleParts fuel { parts with words := parts.words ++ [word] } rest
      | ⟨.redirect number text, _⟩ :: rest => do
          let (redirect, rest) ← redirectTarget number text rest
          simpleParts fuel { parts with redirects := parts.redirects ++ [redirect] } rest
      | _ => .ok (parts, tokens)

def redirectsAfter : Nat → List Redirect → List Token → Except Mistake (Rest (List Redirect))
  | 0, done, tokens => .ok (done, tokens)
  | fuel + 1, done, tokens =>
      match tokens with
      | ⟨.redirect number text, _⟩ :: rest => do
          let (redirect, rest) ← redirectTarget number text rest
          redirectsAfter fuel (done ++ [redirect]) rest
      | _ => .ok (done, tokens)

def lineOf (tokens : List Token) : Nat := (tokens.head?.map Token.line).getD 0

def parseSimple (tokens : List Token) : Except Mistake (Rest Command) := do
  let (parts, rest) ← simpleParts tokens.length ⟨[], [], []⟩ tokens
  pure (.simple (lineOf tokens) parts.assignments parts.words parts.redirects, rest)

def specialCommands : List String :=
  [".", ":", "break", "continue", "eval", "exec", "exit", "export", "readonly", "return", "set",
    "shift", "times", "trap", "unset"]

def loopWords : List Token → List Word × List Token
  | ⟨.word word, _⟩ :: rest =>
      let (words, rest) := loopWords rest
      (word :: words, rest)
  | tokens => ([], tokens)

def branchPatterns : Nat → List Token → Except Mistake (Rest (List Word))
  | 0, tokens => .error (unexpected false "" tokens)
  | fuel + 1, tokens =>
      match tokens with
      | ⟨.word word, _⟩ :: ⟨.operator "|", _⟩ :: rest => do
          let (others, rest) ← branchPatterns fuel rest
          pure (word :: others, rest)
      | ⟨.word word, _⟩ :: rest => do pure ([word], ← expectOperator ")" rest)
      | _ => .error (unexpected false (wanting ")") tokens)

mutual

-- Commands one after the other, up to what closes them. One has to be there
-- unless it is allowed that none is, or the script is at its end.
def parseList : Nat → Bool → List Token → Except Mistake (Rest Command)
  | 0, _, tokens => .error (unexpected false "" tokens)
  | fuel + 1, mayBeEmpty, tokens => do
      let tokens := dropNewlines tokens
      if isAtEnd tokens || (mayBeEmpty && closesHere tokens) then pure (.skip, tokens)
      else
        let (first, rest) ← parseConditional fuel tokens
        let following (first : Command) (rest : List Token) : Except Mistake (Rest Command) := do
          if closesHere (dropNewlines rest) then pure (first, dropNewlines rest)
          else
            let (others, rest) ← parseList fuel true rest
            pure (.sequence first others, rest)
        match rest with
        | ⟨.operator "&", _⟩ :: rest => following (.background first) rest
        | ⟨.operator ";", _⟩ :: rest | ⟨.newline, _⟩ :: rest => following first rest
        | _ => pure (first, rest)

def parseConditional : Nat → List Token → Except Mistake (Rest Command)
  | 0, tokens => .error (unexpected false "" tokens)
  | fuel + 1, tokens => do
      let (first, rest) ← parsePipe fuel tokens
      parseConditionalRest fuel first rest

def parseConditionalRest : Nat → Command → List Token → Except Mistake (Rest Command)
  | 0, _, tokens => .error (unexpected false "" tokens)
  | fuel + 1, first, tokens =>
      match tokens with
      | ⟨.operator "&&", _⟩ :: rest => do
          let (second, rest) ← parsePipe fuel (dropNewlines rest)
          parseConditionalRest fuel (.conditional true first second) rest
      | ⟨.operator "||", _⟩ :: rest => do
          let (second, rest) ← parsePipe fuel (dropNewlines rest)
          parseConditionalRest fuel (.conditional false first second) rest
      | _ => pure (first, tokens)

def parsePipe : Nat → List Token → Except Mistake (Rest Command)
  | 0, tokens => .error (unexpected false "" tokens)
  | fuel + 1, tokens =>
      if (tokens.head?.bind keyword?) = some "!" then do
        let (command, rest) ← parseStages fuel (tokens.drop 1)
        pure (.negation command, rest)
      else parseStages fuel tokens

def parseStages : Nat → List Token → Except Mistake (Rest Command)
  | 0, tokens => .error (unexpected false "" tokens)
  | fuel + 1, tokens => do
      let (first, rest) ← parseCommand fuel tokens
      match rest with
      | ⟨.operator "|", _⟩ :: rest =>
          let (sink, rest) ← parseStages fuel (dropNewlines rest)
          pure (.pipe first sink, rest)
      | _ => pure (first, rest)

def parseBranches : Nat → List Token → Except Mistake (Rest Command)
  | 0, tokens => .error (unexpected false "" tokens)
  | fuel + 1, tokens => do
      let (condition, rest) ← parseList fuel false tokens
      let (yes, rest) ← parseList fuel false (← expectKeyword "then" rest)
      match rest.head?.bind keyword? with
      | some "elif" =>
          let (no, rest) ← parseBranches fuel (rest.drop 1)
          pure (.choice condition yes no, rest)
      | some "else" =>
          let (no, rest) ← parseList fuel false (rest.drop 1)
          pure (.choice condition yes no, ← expectKeyword "fi" rest)
      | _ => pure (.choice condition yes .skip, ← expectKeyword "fi" rest)

def parseBody : Nat → List Token → Except Mistake (Rest Command)
  | 0, tokens => .error (unexpected false "" tokens)
  | fuel + 1, tokens => do
      let (body, rest) ← parseList fuel false (← expectKeyword "do" tokens)
      pure (body, ← expectKeyword "done" rest)

def parseEach : Nat → List Token → Except Mistake (Rest Command)
  | 0, tokens => .error (unexpected false "" tokens)
  | fuel + 1, tokens => do
      let (line, name) ← match tokens with
        | token :: _ =>
            match plainText? token, token.lexeme with
            | some name, _ =>
                if isName name.toList then pure (token.line, name)
                else throw ⟨token.line, "Bad for loop variable"⟩
            | none, .mistake text => throw ⟨token.line, text⟩
            | none, _ => throw ⟨token.line, "Bad for loop variable"⟩
        | [] => throw ⟨0, "Bad for loop variable"⟩
      let rest := dropNewlines (tokens.drop 1)
      if (rest.head?.bind keyword?) = some "in" then
        let (words, rest) := loopWords (rest.drop 1)
        let rest ← match rest with
          | ⟨.operator ";", _⟩ :: rest | ⟨.newline, _⟩ :: rest => pure rest
          | _ => throw (unexpected false "" rest)
        let (body, rest) ← parseBody fuel (dropNewlines rest)
        pure (.each line name (some words) body, rest)
      else
        let rest := match rest with
          | ⟨.operator ";", _⟩ :: rest => rest
          | rest => rest
        let (body, rest) ← parseBody fuel (dropNewlines rest)
        pure (.each line name none body, rest)

def parseSelect : Nat → List Token → Except Mistake (Rest Command)
  | 0, tokens => .error (unexpected false "" tokens)
  | fuel + 1, tokens =>
      match tokens with
      | ⟨.word subject, line⟩ :: rest => do
          let (branches, rest) ← parseBranchList fuel (← expectKeyword "in" (dropNewlines rest))
          pure (.select line subject branches, rest)
      | _ => .error (unexpected false " (expecting word)" tokens)

def parseBranchList : Nat → List Token → Except Mistake (Rest (List (List Word × Command)))
  | 0, tokens => .error (unexpected false "" tokens)
  | fuel + 1, tokens => do
      let tokens := dropNewlines tokens
      if (tokens.head?.bind keyword?) = some "esac" then pure ([], tokens.drop 1)
      else
        let tokens := match tokens with
          | ⟨.operator "(", _⟩ :: rest => rest
          | rest => rest
        let (patterns, rest) ← branchPatterns (tokens.length + 1) tokens
        let (body, rest) ← parseList fuel true rest
        let rest := dropNewlines rest
        if (rest.head?.bind keyword?) = some "esac" then pure ([(patterns, body)], rest.drop 1)
        else
          let (others, rest) ← parseBranchList fuel (← expectOperator ";;" rest)
          pure ((patterns, body) :: others, rest)

def parseCommand : Nat → List Token → Except Mistake (Rest Command)
  | 0, tokens => .error (unexpected false "" tokens)
  | fuel + 1, tokens =>
      let line := lineOf tokens
      let finish (command : Command) (rest : List Token) : Except Mistake (Rest Command) := do
        let (redirects, rest) ← redirectsAfter rest.length [] rest
        if redirects.isEmpty then pure (command, rest)
        else pure (.group line command redirects, rest)
      match tokens with
      | ⟨.operator "(", _⟩ :: rest => do
          let (command, rest) ← parseList fuel false rest
          finish (.subshell command) (← expectOperator ")" rest)
      | ⟨.redirect _ _, _⟩ :: _ => parseSimple tokens
      | token :: rest =>
          match token.lexeme, keyword? token with
          | _, some "if" => do
              let (command, rest) ← parseBranches fuel rest
              finish command rest
          | _, some "while" => do
              let (condition, rest) ← parseList fuel false rest
              let (body, rest) ← parseBody fuel rest
              finish (.loop true condition body) rest
          | _, some "until" => do
              let (condition, rest) ← parseList fuel false rest
              let (body, rest) ← parseBody fuel rest
              finish (.loop false condition body) rest
          | _, some "for" => do
              let (command, rest) ← parseEach fuel rest
              finish command rest
          | _, some "case" => do
              let (command, rest) ← parseSelect fuel rest
              finish command rest
          | _, some "\x7b" => do
              let (command, rest) ← parseList fuel false rest
              finish (.group line command []) (← expectKeyword "\x7d" rest)
          | _, some _ => .error (unexpected true "" tokens)
          | .word name, none =>
              match rest with
              | ⟨.operator "(", _⟩ :: rest =>
                  if (assignment? name).isSome then parseSimple tokens
                  else do
                    let rest ← expectOperator ")" rest
                    let text := (plainText? token).getD ""
                    if !isName text.toList || specialCommands.contains text then
                      throw ⟨line, "Bad function name"⟩
                    let (body, rest) ← parseCommand fuel (dropNewlines rest)
                    pure (.define text body, rest)
              | _ => parseSimple tokens
          | _, none => .error (unexpected true "" tokens)
      | [] => .error (unexpected true "" tokens)

end

-- Nested commands take several rounds for each token they use.
def enoughFor (tokens : List Token) : Nat := 10 * tokens.length + 10

def parseLine : Nat → List Token → Except Mistake (Rest Command)
  | 0, tokens => .error (unexpected false "" tokens)
  | fuel + 1, tokens => do
      let (first, rest) ← parseConditional (enoughFor tokens) tokens
      let following (first : Command) (rest : List Token) : Except Mistake (Rest Command) :=
        match rest with
        | ⟨.newline, _⟩ :: rest => pure (first, rest)
        | ⟨.ending, _⟩ :: _ | [] => pure (first, [])
        | _ => do
            let (others, rest) ← parseLine fuel rest
            pure (.sequence first others, rest)
      match rest with
      | ⟨.operator "&", _⟩ :: rest => following (.background first) rest
      | ⟨.operator ";", _⟩ :: rest => following first rest
      | ⟨.newline, _⟩ :: rest => pure (first, rest)
      | ⟨.ending, _⟩ :: _ | [] => pure (first, [])
      | _ => throw (unexpected true "" rest)

-- Each line is carried out before the next one is read, so what comes before
-- a mistake counts.
def parseLines : Nat → List Token → Command
  | 0, _ => .skip
  | fuel + 1, tokens =>
      match dropNewlines tokens with
      | [] | [⟨.ending, _⟩] => .skip
      | tokens =>
          match parseLine (tokens.length + 1) tokens with
          | .error mistake => .mistake mistake.line mistake.text
          | .ok (command, rest) =>
              match dropNewlines rest with
              | [] | [⟨.ending, _⟩] => command
              | rest => .sequence command (parseLines fuel rest)

-- The command that a whole script is.
def Command.ofScript (firstLine : Nat) (script : List Char) : Command :=
  let tokens := Token.ofScript firstLine script
  parseLines tokens.length tokens

end Overseer.Shell

import Overseer.Shell.Token

namespace Overseer.Shell

-- Integer expressions over words of 64 bits. A name stands for the number in
-- its parameter, and for zero if there is none.

inductive Sign
  | number (value : Int64)
  | name (name : String)
  | operator (text : String)
  | unknown
deriving DecidableEq

def signOperators : List String :=
  ["<<=", ">>=", "<=", ">=", "==", "!=", "&&", "||", "<<", ">>", "+=", "-=", "*=", "/=", "%=",
    "&=", "|=", "^=", "+", "-", "*", "/", "%", "<", ">", "(", ")", "!", "~", "&", "|", "^", "?",
    ":", "="]

def digitOf (c : Char) : Nat :=
  if c.isDigit then c.toNat - 48 else c.toLower.toNat - 87

-- Digits in a base as a number; one that is too large is the largest one.
def inWord (base : Nat) (digits : List Char) : Int64 :=
  Int64.ofInt
    (min (digits.foldl (fun n c => base * n + digitOf c) 0) 9223372036854775807 : Nat)

def leadingNumber (cs : List Char) : Int64 × List Char :=
  let hexadecimal (c : Char) := c.isDigit || ('a' ≤ c.toLower && c.toLower ≤ 'f')
  match cs with
  | '0' :: x :: d :: rest =>
      if (x = 'x' || x = 'X') && hexadecimal d then
        let digits := (d :: rest).takeWhile hexadecimal
        (inWord 16 digits, (d :: rest).drop digits.length)
      else
        let digits := cs.takeWhile fun c => '0' ≤ c && c ≤ '7'
        (inWord 8 digits, cs.drop digits.length)
  | '0' :: _ =>
      let digits := cs.takeWhile fun c => '0' ≤ c && c ≤ '7'
      (inWord 8 digits, cs.drop digits.length)
  | _ =>
      let digits := cs.takeWhile Char.isDigit
      (inWord 10 digits, cs.drop digits.length)

def signs : Nat → List Char → List Sign
  | 0, _ => []
  | _ + 1, [] => []
  | fuel + 1, c :: cs =>
      if isGap c || c = '\n' then signs fuel cs
      else if c.isDigit then
        let (value, rest) := leadingNumber (c :: cs)
        .number value :: signs fuel rest
      else if isNameStart c then
        let name := (c :: cs).takeWhile isNameChar
        .name (String.ofList name) :: signs fuel ((c :: cs).drop name.length)
      else
        match leading? signOperators (c :: cs) with
        | some text => .operator text :: signs fuel ((c :: cs).drop text.length)
        | none => .unknown :: signs fuel cs

inductive Term
  | number (value : Int64)
  | parameter (name : String)
  | unary (operator : String) (term : Term)
  | binary (operator : String) (first second : Term)
  | both (first second : Term)
  | either (first second : Term)
  | choice (condition yes no : Term)
  -- Without an operator, the value as it is.
  | assign (name : String) (operator : Option String) (term : Term)

def levels : List (List String) :=
  [["|"], ["^"], ["&"], ["==", "!="], ["<=", ">=", "<", ">"], ["<<", ">>"], ["+", "-"],
    ["*", "/", "%"]]

def assigning? (text : String) : Option (Option String) :=
  if text = "=" then some none
  else if ["<<=", ">>=", "+=", "-=", "*=", "/=", "%=", "&=", "|=", "^="].contains text then
    some (some (String.ofList text.toList.dropLast))
  else none

abbrev TermRead := Except String (Term × List Sign)

mutual

def readTerm : Nat → List Sign → TermRead
  | 0, _ => .error "expecting primary"
  | fuel + 1, signs =>
      match signs with
      | .name name :: .operator text :: rest =>
          match assigning? text with
          | some operator => do
              let (term, rest) ← readTerm fuel rest
              pure (.assign name operator term, rest)
          | none => readChoice fuel signs
      | _ => readChoice fuel signs

def readChoice : Nat → List Sign → TermRead
  | 0, _ => .error "expecting primary"
  | fuel + 1, signs => do
      let (condition, rest) ← readEither fuel signs
      match rest with
      | .operator "?" :: rest =>
          let (yes, rest) ← readTerm fuel rest
          match rest with
          | .operator ":" :: rest =>
              let (no, rest) ← readChoice fuel rest
              pure (.choice condition yes no, rest)
          | _ => throw "expecting ':'"
      | _ => pure (condition, rest)

def readEither : Nat → List Sign → TermRead
  | 0, _ => .error "expecting primary"
  | fuel + 1, signs => do
      let (first, rest) ← readBoth fuel signs
      match rest with
      | .operator "||" :: rest =>
          let (second, rest) ← readEither fuel rest
          pure (.either first second, rest)
      | _ => pure (first, rest)

def readBoth : Nat → List Sign → TermRead
  | 0, _ => .error "expecting primary"
  | fuel + 1, signs => do
      let (first, rest) ← readLevel fuel levels signs
      match rest with
      | .operator "&&" :: rest =>
          let (second, rest) ← readBoth fuel rest
          pure (.both first second, rest)
      | _ => pure (first, rest)

def readLevel : Nat → List (List String) → List Sign → TermRead
  | 0, _, _ => .error "expecting primary"
  | fuel + 1, [], signs => readUnary fuel signs
  | fuel + 1, level :: levels, signs => do
      let (first, rest) ← readLevel fuel levels signs
      readRest fuel level levels first rest

def readRest : Nat → List String → List (List String) → Term → List Sign → TermRead
  | 0, _, _, _, _ => .error "expecting primary"
  | fuel + 1, level, levels, first, signs =>
      match signs with
      | .operator text :: rest =>
          if level.contains text then do
            let (second, rest) ← readLevel fuel levels rest
            readRest fuel level levels (.binary text first second) rest
          else pure (first, signs)
      | _ => pure (first, signs)

def readUnary : Nat → List Sign → TermRead
  | 0, _ => .error "expecting primary"
  | fuel + 1, signs =>
      match signs with
      | .number n :: rest => pure (.number n, rest)
      | .name name :: rest => pure (.parameter name, rest)
      | .operator "+" :: rest => readUnary fuel rest
      | .operator "(" :: rest => do
          let (term, rest) ← readTerm fuel rest
          match rest with
          | .operator ")" :: rest => pure (term, rest)
          | _ => throw "expecting ')'"
      | .operator text :: rest =>
          if ["-", "!", "~"].contains text then do
            let (term, rest) ← readUnary fuel rest
            pure (.unary text term, rest)
          else throw "expecting primary"
      | _ => throw "expecting primary"

end

def Term.ofText (expression : List Char) : Except String Term := do
  let all := signs (expression.length + 1) expression
  let (term, rest) ← readTerm (16 * all.length + 32) all
  if rest.isEmpty then pure term else throw "expecting EOF"

def truthValue (value : Bool) : Int64 := if value then 1 else 0

-- Nothing is divided by zero.
def operate (text : String) (a b : Int64) : Option Int64 :=
  match text with
  | "|" => some (a ||| b)
  | "^" => some (a ^^^ b)
  | "&" => some (a &&& b)
  | "==" => some (truthValue (a = b))
  | "!=" => some (truthValue (a ≠ b))
  | "<=" => some (truthValue (a ≤ b))
  | ">=" => some (truthValue (b ≤ a))
  | "<" => some (truthValue (a < b))
  | ">" => some (truthValue (b < a))
  | "<<" => some (a <<< b)
  | ">>" => some (a >>> b)
  | "+" => some (a + b)
  | "-" => some (a - b)
  | "*" => some (a * b)
  | "/" => if b = 0 then none else some (a / b)
  | "%" => if b = 0 then none else some (a % b)
  | _ => none

def operateOn (text : String) (a : Int64) : Int64 :=
  match text with
  | "-" => -a
  | "!" => truthValue (a = 0)
  | _ => ~~~a

def integer? (bytes : Bytes) : Option Int :=
  let isBlank (byte : UInt8) : Bool := byte = 32 || (9 ≤ byte && byte ≤ 13)
  let bytes := bytes.dropWhile isBlank
  let (negative, unsigned) := match bytes with
    | 45 :: rest => (true, rest)
    | 43 :: rest => (false, rest)
    | rest => (false, rest)
  let digits := unsigned.takeWhile fun byte => 48 ≤ byte && byte ≤ 57
  let size : Nat := digits.foldl (fun n byte => 10 * n + (byte.toNat - 48)) 0
  let value : Int := if negative then -size else size
  if digits.isEmpty || !(unsigned.drop digits.length).all isBlank then none
  else if value < Int64.minValue.toInt || Int64.maxValue.toInt < value then none
  else some value

def numberIn? (bytes : Bytes) : Option Int64 :=
  let cs := (Text.Utf8.text bytes).toList
  let cs := cs.dropWhile fun c => isGap c || c = '\n'
  let (negative, cs) := match cs with
    | '-' :: rest => (true, rest)
    | '+' :: rest => (false, rest)
    | cs => (false, cs)
  let (value, rest) := leadingNumber cs
  if rest.all fun c => isGap c || c = '\n' then some (if negative then -value else value) else none

end Overseer.Shell

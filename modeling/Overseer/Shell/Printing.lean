import Overseer.Shell.Expansion

namespace Overseer.Shell

open Overseer.Text

-- What the printing commands make of their arguments.

def digitOf? (base : Nat) (c : Char) : Option Nat :=
  let value :=
    if c.isDigit then c.toNat - 48
    else if c.isAlpha then c.toLower.toNat - 87
    else base
  if value < base then some value else none

structure Decimal where
  value : Int
  places : Nat

def readDecimal? (text : List Char) : Option (Decimal × List Char) :=
  let (negative, digits) := match text with
    | '-' :: rest => (true, rest)
    | '+' :: rest => (false, rest)
    | rest => (false, rest)
  let whole := digits.takeWhile Char.isDigit
  let rest := digits.drop whole.length
  let part := match rest with
    | '.' :: after => after.takeWhile Char.isDigit
    | _ => []
  let rest := match rest with
    | '.' :: after => after.drop part.length
    | _ => rest
  if (whole ++ part).isEmpty then none
  else
    let value : Nat := (whole ++ part).foldl (fun n c => 10 * n + (c.toNat - 48)) 0
    some (⟨if negative then -(value : Int) else value, part.length⟩, rest)

def pointed (places : Nat) (value : Int) : String :=
  let digits := Nat.toDigits 10 value.natAbs
  let digits := List.replicate (places + 1 - digits.length) '0' ++ digits
  let whole := digits.take (digits.length - places)
  let part := if places = 0 then [] else '.' :: digits.drop whole.length
  String.ofList ((if value < 0 then ['-'] else []) ++ whole ++ part)

-- A quotient rounded to the nearest whole number; a half goes to the even one.
def nearest (numerator denominator : Nat) : Nat :=
  let whole := numerator / denominator
  let rest := 2 * (numerator % denominator)
  if rest < denominator || (rest = denominator && whole % 2 = 0) then whole else whole + 1

-- A quotient with as many binary digits as machines keep, times a power of two
-- in the numerator or in the denominator.
def machineQuotient (numerator denominator : Nat) : Nat × Nat :=
  let size : Int := (Nat.log2 numerator : Int) - Nat.log2 denominator - 52
  let up := Nat.pow 2 (-size).toNat
  let down := Nat.pow 2 size.toNat
  (nearest (numerator * up) (denominator * down) * down, up)

def Decimal.fixed (decimal : Decimal) (places : Nat) : Int :=
  let (a, b) := machineQuotient decimal.value.natAbs (Nat.pow 10 decimal.places)
  let size : Int := nearest (a * Nat.pow 10 places) b
  if decimal.value < 0 then -size else size

def isOctal (byte : UInt8) : Bool := 48 ≤ byte && byte ≤ 55

-- Up to a number of octal digits as one byte.
def octal (digits : Nat) (bytes : Bytes) : UInt8 × Bytes :=
  let taken := (bytes.take digits).takeWhile isOctal
  (UInt8.ofNat (taken.foldl (fun n byte => 8 * n + (byte.toNat - 48)) 0), bytes.drop taken.length)

def controls : List (UInt8 × UInt8) :=
  [(97, 7), (98, 8), (102, 12), (110, 10), (114, 13), (116, 9), (118, 11), (92, 92)]

def backslash : UInt8 := 92

-- What follows a backslash: the byte it makes, or the backslash itself.
def escape (bytes : Bytes) : UInt8 × Bytes :=
  match bytes with
  | [] => (backslash, [])
  | byte :: rest =>
      if isOctal byte then octal 3 bytes
      else
        match controls.lookup byte with
        | some control => (control, rest)
        | none => (backslash, bytes)

-- A text with its escapes resolved, and whether it asks to stop there.
def unescape : Nat → Bytes → Bytes × Bool
  | 0, _ => ([], false)
  | _ + 1, [] => ([], false)
  | fuel + 1, byte :: bytes =>
      if byte ≠ backslash then
        let (rest, stops) := unescape fuel bytes
        (byte :: rest, stops)
      else
        match bytes with
        | 99 :: _ => ([], true)
        | 48 :: after =>
            let (code, after) := octal 3 after
            let (rest, stops) := unescape fuel after
            (code :: rest, stops)
        | _ =>
            let (code, after) := escape bytes
            let (rest, stops) := unescape fuel after
            (code :: rest, stops)

def resolve (bytes : Bytes) : Bytes × Bool := unescape (bytes.length + 1) bytes

-- The words with blanks between them and, unless told otherwise, a line end.
def echo (arguments : List Bytes) : Bytes :=
  let silent := arguments.head? = some [45, 110]
  let words := if silent then arguments.drop 1 else arguments
  let (text, stops) := resolve (Scope.spaced words)
  if stops || silent then text else text ++ [10]

inductive PrintFault
  | notNumber (argument : Bytes)
  -- Only the beginning of an argument is a number.
  | partly (argument : Bytes)
  | tooFar (argument : Bytes)
  | badDirective (directive : Bytes)
  | noLetter (directive : Bytes)
  | noFormat
  | excess (argument : Bytes)
deriving DecidableEq

def PrintFault.ends : PrintFault → Bool
  | .badDirective _ | .noLetter _ | .noFormat => true
  | _ => false

def PrintFault.message : PrintFault → Bytes
  | notNumber argument => argument ++ Utf8.encode ": expected numeric value"
  | partly argument => argument ++ Utf8.encode ": not completely converted"
  | tooFar argument => argument ++ Utf8.encode ": Numerical result out of range"
  | badDirective directive => directive ++ Utf8.encode ": invalid directive"
  | noLetter _ => Utf8.encode "missing format character"
  | noFormat => Utf8.encode "usage: printf format [arg ...]"
  | excess _ => []

structure Printed where
  text : Bytes
  faults : List PrintFault
  -- Nothing more is printed after this.
  stops : Bool

def Printed.nothing : Printed := ⟨[], [], false⟩

def Printed.before (text : Bytes) (rest : Printed) : Printed :=
  { rest with text := text ++ rest.text }

structure Form where
  flags : Bytes
  width : Nat
  precision : Option Nat

def Form.has (form : Form) (flag : UInt8) : Bool := form.flags.contains flag

def Form.pad (form : Form) (text : Bytes) : Bytes :=
  let missing := List.replicate (form.width - text.length) 32
  if form.has 45 then text ++ missing else missing ++ text

-- What comes before the digits of a number stays before the zeros that fill it
-- up.
def Form.padNumber (form : Form) (fills : Bool) (start digits : Bytes) : Bytes :=
  if fills && form.has 48 && !form.has 45 then
    start ++ List.replicate (form.width - start.length - digits.length) 48 ++ digits
  else form.pad (start ++ digits)

def Form.sign (form : Form) (negative : Bool) : Bytes :=
  if negative then [45] else if form.has 43 then [43] else if form.has 32 then [32] else []

-- At least as many digits as are asked for. A zero has none if none are.
def Form.digits (form : Form) (base n : Nat) : Bytes :=
  let digits := bytesOf (Nat.toDigits base n)
  match form.precision with
  | none => digits
  | some places =>
      if n = 0 && places = 0 then []
      else List.replicate (places - digits.length) 48 ++ digits

def Form.integer (form : Form) (start digits : Bytes) : Bytes :=
  form.padNumber form.precision.isNone start digits

def conversionFault (isNumber : Bool) (argument : Bytes) : PrintFault :=
  if isNumber then .partly argument else .notNumber argument

def numberOf (isSigned : Bool) (argument : Bytes) : Int × Option PrintFault :=
  match argument with
  | 39 :: byte :: _ | 34 :: byte :: _ => (byte.toNat, none)
  | [] | [39] | [34] => (0, none)
  | _ =>
      let cs := ((Utf8.text argument).toList).dropWhile fun c => c = ' ' || ('\t' ≤ c && c ≤ '\r')
      let (negative, cs) := match cs with
        | '-' :: rest => (true, rest)
        | '+' :: rest => (false, rest)
        | rest => (false, rest)
      let (base, digits) := match cs with
        | '0' :: x :: d :: rest =>
            if (x = 'x' || x = 'X') && (digitOf? 16 d).isSome then (16, d :: rest) else (8, cs)
        | '0' :: _ => (8, cs)
        | _ => (10, cs)
      let taken := digits.takeWhile fun c => (digitOf? base c).isSome
      let size : Nat := taken.foldl (fun n c => base * n + (digitOf? base c).getD 0) 0
      let value : Int := if negative then -size else size
      let (value, isFar) : Int × Bool :=
        if isSigned then
          (max Int64.minValue.toInt (min Int64.maxValue.toInt value),
            value < Int64.minValue.toInt || Int64.maxValue.toInt < value)
        else if Nat.pow 2 64 ≤ size then (((Nat.pow 2 64 - 1 : Nat) : Int), true)
        else (value, false)
      let fault :=
        if !(digits.drop taken.length).isEmpty || taken.isEmpty then
          some (conversionFault (!taken.isEmpty) argument)
        else if isFar then some (.tooFar argument)
        else none
      (if taken.isEmpty then 0 else value, fault)

-- A number below zero counts from the end of the words.
def unsigned64 (n : Int) : Nat := (n % 18446744073709551616).toNat

-- What a conversion makes of an argument, if there is such a conversion.
def convert? (form : Form) (letter : UInt8) (argument : Bytes) :
    Option Printed :=
  let letter := Char.ofNat letter.toNat
  let (value, fault) := numberOf (letter = 'd' || letter = 'i') argument
  let n := unsigned64 value
  let number (text : Bytes) : Option Printed := some ⟨text, fault.toList, false⟩
  let mark (text : String) : Bytes := if form.has 35 && n ≠ 0 then Utf8.encode text else []
  match letter with
  | 'd' | 'i' =>
      number (form.integer (form.sign (value < 0)) (form.digits 10 value.natAbs))
  | 'u' => number (form.integer [] (form.digits 10 n))
  | 'x' => number (form.integer (mark "0x") (form.digits 16 n))
  | 'X' =>
      let digits := (Utf8.text (form.digits 16 n)).toUpper
      number (form.integer (mark "0X") (Utf8.encode digits))
  | 'o' =>
      let digits := form.digits 8 n
      let marked := if form.has 35 && digits.head? ≠ some 48 then 48 :: digits else digits
      number (form.integer [] marked)
  | 'c' => some ⟨form.pad (if argument.isEmpty then [0] else argument.take 1), [], false⟩
  | 's' => some ⟨form.pad (argument.take (form.precision.getD argument.length)), [], false⟩
  | 'b' =>
      let (text, stops) := resolve argument
      some ⟨form.pad (text.take (form.precision.getD text.length)), [], stops⟩
  | 'f' =>
      let places := form.precision.getD 6
      let (value, fault) : Int × Option PrintFault :=
        match readDecimal? (Utf8.text argument).toList with
        | some (decimal, rest) =>
            let fault := if rest.isEmpty then none else some (conversionFault true argument)
            (decimal.fixed places, fault)
        | none => (0, if argument.isEmpty then none else some (conversionFault false argument))
      let digits := Utf8.encode (pointed places value.natAbs)
      some ⟨form.padNumber true (form.sign (value < 0)) digits, fault.toList, false⟩
  | _ => none

def digitBytes (bytes : Bytes) : Bytes := bytes.takeWhile fun byte => 48 ≤ byte && byte ≤ 57

def decimalOf (digits : Bytes) : Nat := digits.foldl (fun n byte => 10 * n + (byte.toNat - 48)) 0

def readSize (bytes : Bytes) (arguments : List Bytes) : Int × Bytes × List Bytes :=
  match bytes with
  | 42 :: after => ((numberOf true (arguments.headD [])).1, after, arguments.drop 1)
  | _ => (decimalOf (digitBytes bytes), bytes.drop (digitBytes bytes).length, arguments)

-- What stands before the letter of a conversion. A width below zero is one for
-- the other side, and a precision below zero is none.
def readForm (bytes : Bytes) (arguments : List Bytes) : Form × Bytes × List Bytes :=
  let flags := bytes.takeWhile fun byte => [45, 48, 32, 43, 35].contains byte
  let (width, after, arguments) := readSize (bytes.drop flags.length) arguments
  let flags := if width < 0 then 45 :: flags else flags
  match after with
  | 46 :: after =>
      let (precision, after, arguments) := readSize after arguments
      let precision := if precision < 0 then none else some precision.toNat
      (⟨flags, width.natAbs, precision⟩, after, arguments)
  | _ => (⟨flags, width.natAbs, none⟩, after, arguments)

-- One pass over a format; the arguments that are left, and whether any was
-- asked for. A fault of the format itself ends it.
def formatOnce : Nat → Bytes → List Bytes → Printed × List Bytes × Bool
  | 0, _, arguments => (.nothing, arguments, false)
  | _ + 1, [], arguments => (.nothing, arguments, false)
  | fuel + 1, byte :: bytes, arguments =>
      if byte = backslash then
        let (code, after) := escape bytes
        let (rest, left, used) := formatOnce fuel after arguments
        (rest.before [code], left, used)
      else if byte ≠ 37 then
        let (rest, left, used) := formatOnce fuel bytes arguments
        (rest.before [byte], left, used)
      else
        match bytes with
        | 37 :: after =>
            let (rest, left, used) := formatOnce fuel after arguments
            (rest.before [37], left, used)
        | _ =>
            let (form, after, arguments) := readForm bytes arguments
            match after with
            | [] => (⟨[], [.noLetter (37 :: bytes)], true⟩, [], false)
            | letter :: after =>
                match convert? form letter (arguments.headD []) with
                | none =>
                    let directive := 37 :: bytes.take (bytes.length - after.length)
                    (⟨[], [.badDirective directive], true⟩, [], false)
                | some shown =>
                    if shown.stops then (shown, [], false)
                    else
                      let (rest, left, _) := formatOnce fuel after (arguments.drop 1)
                      (⟨shown.text ++ rest.text, shown.faults ++ rest.faults, rest.stops⟩,
                        left, true)

-- A format is used again as long as arguments are left for it.
def formatAll : Nat → Bytes → List Bytes → Printed
  | 0, _, _ => .nothing
  | fuel + 1, form, arguments =>
      let (printed, left, used) := formatOnce (form.length + 1) form arguments
      match left with
      | [] => printed
      | first :: _ =>
          if printed.stops then printed
          else if !used then { printed with faults := printed.faults ++ [.excess first] }
          else
            let rest := formatAll fuel form left
            ⟨printed.text ++ rest.text, printed.faults ++ rest.faults, rest.stops⟩

def printf (arguments : List Bytes) : Printed :=
  let arguments := if arguments.head? = some [45, 45] then arguments.drop 1 else arguments
  match arguments with
  | [] => ⟨[], [.noFormat], true⟩
  | form :: rest => formatAll (rest.length + 1) form rest

end Overseer.Shell

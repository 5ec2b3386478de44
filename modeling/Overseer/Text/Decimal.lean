namespace Overseer.Text

-- Unsigned numbers of 64 bits in decimal: an optional plus sign and at least
-- one ASCII digit, with leading zeros at will. Nothing else is a number, and
-- neither is a value past the last one.

def digitValue (c : Char) : Nat := c.toNat - '0'.toNat

def checked (result : Nat) : Option Nat := if result < Nat.pow 2 64 then some result else none

def appendDigit (value : Nat) (c : Char) : Option Nat :=
  if c.isDigit then
    (checked (value * 10)).bind fun shifted => checked (shifted + digitValue c)
  else none

-- The number so far is checked at every digit, so it never outgrows its bits,
-- however many digits there are.
def appendDigits : Nat → List Char → Option Nat
  | value, [] => some value
  | value, c :: rest =>
      match appendDigit value c with
      | some next => appendDigits next rest
      | none => none

def ofDigits (digits : List Char) : Option Nat :=
  if digits.isEmpty then none else appendDigits 0 digits

def withoutPlus : List Char → List Char
  | '+' :: rest => rest
  | text => text

def unsigned (text : String) : Option Nat := ofDigits (withoutPlus text.toList)

end Overseer.Text

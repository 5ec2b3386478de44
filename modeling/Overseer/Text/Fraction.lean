namespace Overseer.Text

-- Whether a text is a number that may have a sign, a fraction and an exponent.
-- Digits may be missing on either side of the point, but not on both. The
-- words for infinity and for no number at all count too, in any case.

def unsignedText (text : List Char) : List Char :=
  match text with
  | '+' :: rest | '-' :: rest => rest
  | _ => text

def afterMantissa (text : List Char) : Bool × List Char :=
  let whole := text.takeWhile Char.isDigit
  match text.drop whole.length with
  | '.' :: rest =>
      let fraction := rest.takeWhile Char.isDigit
      (!whole.isEmpty || !fraction.isEmpty, rest.drop fraction.length)
  | rest => (!whole.isEmpty, rest)

def isExponent (text : List Char) : Bool :=
  match text with
  | [] => true
  | mark :: rest =>
      let digits := unsignedText rest
      (mark = 'e' || mark = 'E') && !digits.isEmpty && digits.all Char.isDigit

def isFraction (text : String) : Bool :=
  let rest := unsignedText text.toList
  if ["inf", "infinity", "nan"].contains (String.ofList rest).toLower then true
  else
    let (hasDigit, exponent) := afterMantissa rest
    hasDigit && isExponent exponent

end Overseer.Text

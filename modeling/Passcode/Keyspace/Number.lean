/-
  Passcode.Keyspace.Number — numbers kept as texts.

  Arithmetic wants a whole number in its one plain form. Comparison is lenient: a text may stand for
  a number with a fraction, an exponent or hexadecimal digits, with blanks around it.
-/

import Passcode.Text.Numeral

namespace Passcode.Keyspace

/-- A whole number of 64 bits in plain form: no plus sign, no zeros in front, no minus zero. -/
def plainInteger? (s : String) : Option Int :=
  match Text.signed? Int64.minValue.toInt Int64.maxValue.toInt s with
  | some i => if toString i = s then some i else none
  | none => none

/-- Blanks around numbers: those of ASCII. -/
def isSpace (c : Char) : Bool := c == ' ' || (9 ≤ c.toNat && c.toNat ≤ 13)

def isHexDigit (c : Char) : Bool :=
  Text.isDigit c || ('a' ≤ c && c ≤ 'f') || ('A' ≤ c && c ≤ 'F')

/-- Whether a text is an exponent, or nothing. -/
def isExponent : List Char → Bool
  | [] => true
  | e :: rest =>
    let digits := match rest with
      | '+' :: cs | '-' :: cs => cs
      | cs => cs
    (e == 'e' || e == 'E') && !digits.isEmpty && digits.all Text.isDigit

/-- Whether a number without a sign is above zero; nothing when the text is no number. -/
def magnitudeIsPositive? (cs : List Char) : Option Bool :=
  match cs with
  | '0' :: 'x' :: digits | '0' :: 'X' :: digits =>
    if digits.isEmpty || !digits.all isHexDigit then none else some (digits.any (· ≠ '0'))
  | _ =>
    let whole := cs.takeWhile Text.isDigit
    let rest := cs.drop whole.length
    let fraction := match rest with
      | '.' :: more => more.takeWhile Text.isDigit
      | _ => []
    let rest := match rest with
      | '.' :: more => more.drop fraction.length
      | _ => rest
    if (whole ++ fraction).isEmpty || !isExponent rest then none
    else some ((whole ++ fraction).any (· ≠ '0'))

/-- Whether the number that a text stands for is above zero; nothing when the text is no number. -/
def isPositive? (s : String) : Option Bool :=
  let trimmed := ((s.toList.dropWhile isSpace).reverse.dropWhile isSpace).reverse
  match trimmed with
  | '-' :: cs => (magnitudeIsPositive? cs).map fun _ => false
  | '+' :: cs => magnitudeIsPositive? cs
  | cs => magnitudeIsPositive? cs

end Passcode.Keyspace

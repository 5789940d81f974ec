/-
  Passcode.Text.Percent — bytes written with a percent sign and two hexadecimal digits.

  Writing is of whole characters and in upper case. Reading takes either case and gives bytes, which
  need not be a text; a percent sign without two digits stands for itself.
-/

import Passcode.Text.Numeral
import Passcode.Text.Pattern
import Passcode.Text.Utf8

namespace Passcode.Text

/-- A hexadecimal digit in upper case. -/
def upperHexDigit (n : Nat) : Char := (hexDigit n).toUpper

/-- The UTF-8 bytes of a character, each as a percent sign and two digits. -/
def percentEncode (c : Char) : List Char :=
  (charBytes c).flatMap fun b => ['%', upperHexDigit (b.toNat / 16), upperHexDigit (b.toNat % 16)]

/-- The byte that two hexadecimal digits stand for. -/
def hexByte? (a b : Char) : Option UInt8 := do
  let a ← hexValue? a
  let b ← hexValue? b
  return UInt8.ofNat (a * 16 + b)

/-- The bytes that a text with percent signs stands for. -/
def percentDecode : List Char → List UInt8
  | '%' :: a :: b :: rest =>
    match hexByte? a b with
    | some byte => byte :: percentDecode rest
    | none => charBytes '%' ++ percentDecode (a :: b :: rest)
  | c :: rest => charBytes c ++ percentDecode rest
  | [] => []

/-- The text that a text with percent signs stands for. -/
def percentText? (cs : List Char) : Option String := ofBytes? (percentDecode cs)

/-! ## Forms -/

/-- How a character stands in a form. -/
def formChar (c : Char) : List Char :=
  if c.isAlphanum || c == '*' || c == '-' || c == '.' || c == '_' then [c]
  else if c = ' ' then ['+']
  else percentEncode c

/-- Fields as a form. -/
def formText (fields : List (String × String)) : String :=
  "&".intercalate <| fields.map fun f =>
    String.ofList (f.1.toList.flatMap formChar ++ '=' :: f.2.toList.flatMap formChar)

/-- The bytes that a name or value in a form stands for. -/
def formBytes (cs : List Char) : List UInt8 := percentDecode (cs.map fun c => if c = '+' then ' ' else c)

/-- The names and values of a form, in order. A name without an equals sign has the empty value. -/
def formFields (cs : List Char) : List (List UInt8 × List UInt8) :=
  ((splitFrom ['&'] 0 cs).filter (· ≠ [])).map fun piece =>
    let name := piece.takeWhile (· ≠ '=')
    (formBytes name, formBytes (piece.drop (name.length + 1)))

end Passcode.Text

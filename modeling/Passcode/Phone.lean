/-
  Passcode.Phone — recipient numbers: their normal form, which can be addressed, how they are masked.

  Two formats can be addressed: international numbers (a plus sign, then 2 to 15 digits, the first
  not zero) and bare Chinese mobile numbers (11 digits, the first a one, the second at least
  three). Whatever a text holds besides ASCII digits and plus signs is formatting.
-/

import Passcode.Text.Numeral

namespace Passcode.Phone

/-- The characters that carry a number; the others are formatting. -/
def isSignificant (c : Char) : Bool := Text.isDigit c || c == '+'

/-- The significant characters of a text, in order. -/
def significant (cs : List Char) : List Char := cs.filter isSignificant

/-- Normal form of a number: the text without its formatting. -/
def normalize (s : String) : String := String.ofList (significant s.toList)

/-- International format, for a text without formatting. -/
def hasInternationalForm : List Char → Bool
  | '+' :: d :: rest =>
    Text.isDigit d && d != '0' && rest.all Text.isDigit && 1 ≤ rest.length && rest.length ≤ 14
  | _ => false

/-- Bare Chinese mobile format, for a text without formatting. -/
def hasMobileForm : List Char → Bool
  | '1' :: d :: rest => '3' ≤ d && d ≤ '9' && rest.all Text.isDigit && rest.length == 9
  | _ => false

/-- Whether a text is a number in international format. -/
def isInternational (s : String) : Bool := hasInternationalForm (significant s.toList)

/-- Whether a message can be addressed to the number in a text. -/
def isAddressable (s : String) : Bool :=
  hasInternationalForm (significant s.toList) || hasMobileForm (significant s.toList)

/-- The number in a text in international format; bare mobile numbers get the country code 86. -/
def international? (s : String) : Option String :=
  let number := normalize s
  if isInternational number then some number
  else if isAddressable number then some ("+86" ++ number)
  else none

/-- What a masked number shows: its first three and last four characters, when it has seven. -/
def maskChars (cs : List Char) : List Char :=
  if 7 ≤ cs.length then cs.take 3 ++ "****".toList ++ cs.drop (cs.length - 4) else "****".toList

/-- The masked form of the number in a text, fit for logs and messages. -/
def mask (s : String) : String := String.ofList (maskChars (significant s.toList))

/-- The masked forms of several recipients, separated by commas. -/
def maskAll (recipients : List String) : String := String.intercalate "," (recipients.map mask)

theorem significant_idem (cs : List Char) : significant (significant cs) = significant cs := by
  simp [significant]

@[simp] theorem normalize_normalize (s : String) : normalize (normalize s) = normalize s := by
  simp [normalize, significant_idem]

end Passcode.Phone

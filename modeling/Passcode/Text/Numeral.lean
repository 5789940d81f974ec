/-
  Passcode.Text.Numeral — digits, and whole numbers written in decimal.

  A numeral is a sign, if any, and one or more digits, with nothing around them. Leading zeros are
  allowed. Which signs are accepted, and the range, is the reader's choice.
-/

namespace Passcode.Text

/-- Decimal digits of ASCII. -/
def isDigit (c : Char) : Bool := '0' ≤ c && c ≤ '9'

/-- The hexadecimal digit, in lower case, of a number below sixteen. -/
def hexDigit (n : Nat) : Char := Nat.digitChar n

/-- The value of a hexadecimal digit, in either case. -/
def hexValue? (c : Char) : Option Nat :=
  if '0' ≤ c ∧ c ≤ '9' then some (c.toNat - '0'.toNat)
  else if 'a' ≤ c ∧ c ≤ 'f' then some (c.toNat - 'a'.toNat + 10)
  else if 'A' ≤ c ∧ c ≤ 'F' then some (c.toNat - 'A'.toNat + 10)
  else none

/-- The value of a decimal digit. -/
def digitValue? (c : Char) : Option Nat :=
  if '0' ≤ c ∧ c ≤ '9' then some (c.toNat - '0'.toNat) else none

/-- The number that `digits` continue when `acc` came before. -/
def naturalFrom? (acc : Nat) : List Char → Option Nat
  | [] => some acc
  | c :: cs => digitValue? c |>.bind fun d => naturalFrom? (acc * 10 + d) cs

/-- The number that decimal digits stand for. -/
def digitsValue (cs : List Char) : Nat := cs.foldl (fun n c => n * 10 + (c.toNat - '0'.toNat)) 0

/-- One or more decimal digits. -/
def natural? : List Char → Option Nat
  | [] => none
  | cs => naturalFrom? 0 cs

/-- A number without a minus sign, at most `limit`. -/
def unsigned? (limit : Nat) (s : String) : Option Nat :=
  let digits := match s.toList with
    | '+' :: cs => cs
    | cs => cs
  (natural? digits).filter (· ≤ limit)

/-- A number with either sign, between `low` and `high`. -/
def signed? (low high : Int) (s : String) : Option Int :=
  let value : Option Int := match s.toList with
    | '+' :: cs => (natural? cs).map Int.ofNat
    | '-' :: cs => (natural? cs).map fun n => -Int.ofNat n
    | cs => (natural? cs).map Int.ofNat
  value.filter fun v => decide (low ≤ v ∧ v ≤ high)

/-- Reads a 64-bit count. -/
def uint64? (s : String) : Option UInt64 := (unsigned? (UInt64.size - 1) s).map UInt64.ofNat

/-- Reads a 32-bit count. -/
def uint32? (s : String) : Option UInt32 := (unsigned? (UInt32.size - 1) s).map UInt32.ofNat

/-- Reads a 64-bit signed number. -/
def int64? (s : String) : Option Int64 := (signed? Int64.minValue.toInt Int64.maxValue.toInt s).map Int64.ofInt

/-- `n` in decimal, with zeros in front up to `width` digits. -/
def padded (width n : Nat) : List Char :=
  let digits := Nat.toDigits 10 n
  List.replicate (width - digits.length) '0' ++ digits

end Passcode.Text

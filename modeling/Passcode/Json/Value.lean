/-
  Passcode.Json.Value — JSON values and their text.

  A value keeps what a reader may later ask about: whether a number was written whole, the fields of
  an object in the order they were written, repetitions included, and strings that stand for no
  text. `Json.text` writes a value without blanks; only quotes, backslashes and control
  characters are escaped.
-/

import Passcode.Text.Numeral

namespace Passcode

/-- A number as it was written. -/
inductive Json.Number where
  /-- Digits with a minus sign or none, and not minus zero. -/
  | whole (value : Int)
  /-- A fraction, an exponent or minus zero. -/
  | other (literal : String)
  deriving DecidableEq, Repr

/-- Why a string stands for no text. -/
inductive Json.Defect where
  /-- It holds bytes that are not UTF-8. -/
  | bytes
  /-- It ends with the first half of a surrogate pair. -/
  | openPair
  /-- It holds half a surrogate pair elsewhere. -/
  | halfPair
  deriving DecidableEq, Repr

inductive Json where
  | null
  | bool (value : Bool)
  | number (value : Json.Number)
  | string (value : Except Json.Defect String)
  | array (items : List Json)
  /-- A name is `none` where it stands for no text. -/
  | object (fields : List (Option String × Json))
  deriving Inhabited

namespace Json

/-- A string value. -/
def str (s : String) : Json := .string (.ok s)

/-- A whole number. -/
def int (i : Int) : Json := .number (.whole i)

/-- A count. -/
def nat (n : Nat) : Json := .number (.whole n)

/-- An object with the given fields, in this order. -/
def record (fields : List (String × Json)) : Json := .object (fields.map fun f => (some f.1, f.2))

/-- `null` when there is no value. -/
def ofOption (encode : α → Json) : Option α → Json
  | some a => encode a
  | none => .null

/-- How a character stands in a string. -/
def escape (c : Char) : List Char :=
  if c = '"' then ['\\', '"']
  else if c = '\\' then ['\\', '\\']
  else if c = '\n' then ['\\', 'n']
  else if c = '\r' then ['\\', 'r']
  else if c = '\t' then ['\\', 't']
  else if c = '\x08' then ['\\', 'b']
  else if c = '\x0c' then ['\\', 'f']
  else if c.toNat < 0x20 then ['\\', 'u', '0', '0', Text.hexDigit (c.toNat / 16), Text.hexDigit (c.toNat % 16)]
  else [c]

/-- A string between its quotes. A string without a text is written as the replacement character. -/
def stringChars (s : Option String) : List Char :=
  '"' :: (s.getD "\uFFFD").toList.flatMap escape ++ ['"']

/-- A whole number in decimal. -/
def intChars (i : Int) : List Char :=
  if i < 0 then '-' :: Nat.toDigits 10 i.natAbs else Nat.toDigits 10 i.natAbs

def numberChars : Number → List Char
  | .whole i => intChars i
  | .other literal => literal.toList

mutual

/-- The text of a value. -/
def chars : Json → List Char
  | .null => "null".toList
  | .bool true => "true".toList
  | .bool false => "false".toList
  | .number n => numberChars n
  | .string s => stringChars s.toOption
  | .array items => '[' :: itemsChars items ++ [']']
  | .object fields => '\x7b' :: fieldsChars fields ++ ['\x7d']

/-- The items of an array, separated by commas. -/
def itemsChars : List Json → List Char
  | [] => []
  | [v] => chars v
  | v :: w :: rest => chars v ++ ',' :: itemsChars (w :: rest)

/-- The fields of an object, separated by commas. -/
def fieldsChars : List (Option String × Json) → List Char
  | [] => []
  | [(k, v)] => stringChars k ++ ':' :: chars v
  | (k, v) :: f :: rest => stringChars k ++ ':' :: chars v ++ ',' :: fieldsChars (f :: rest)

end

/-- A value written without blanks. -/
def text (v : Json) : String := String.ofList v.chars

end Json

end Passcode

/-
  Passcode.Json.Parser — reading the JSON text of a value.

  The reader is bounded by a budget that each step lowers; the length of the text is always enough,
  since each step also consumes a character. Accepted is exactly the JSON grammar: blanks are space,
  tab, line feed and carriage return, numbers have no leading zero, and nothing but blanks may
  follow the value. Between the quotes of a string bytes that are no character are let through; the
  string then stands for no text.
-/

import Passcode.Json.Value
import Passcode.Text.Utf8

namespace Passcode.Json

/-- The characters of a text; `none` is a byte that belongs to no character. -/
abbrev Input := List (Option Char)

/-- What one character or escape of a string stands for. -/
inductive Glyph where
  | char (c : Char)
  /-- A code unit of UTF-16, from a `\u` escape. -/
  | unit (n : Nat)
  /-- A byte that is no character. -/
  | stray
  deriving DecidableEq, Repr

def isSpace (c : Char) : Bool := c == ' ' || c == '\n' || c == '\t' || c == '\r'

def skipSpace (cs : Input) : Input := cs.dropWhile (·.any isSpace)

/-- The number of four hexadecimal digits. -/
def hexUnit? (a b c d : Char) : Option Nat := do
  let a ← Text.hexValue? a
  let b ← Text.hexValue? b
  let c ← Text.hexValue? c
  let d ← Text.hexValue? d
  return ((a * 16 + b) * 16 + c) * 16 + d

/-- The character of an escape of one letter. -/
def shortEscape? (c : Char) : Option Char :=
  match c with
  | '"' => some '"'
  | '\\' => some '\\'
  | '/' => some '/'
  | 'b' => some '\x08'
  | 'f' => some '\x0c'
  | 'n' => some '\n'
  | 'r' => some '\r'
  | 't' => some '\t'
  | _ => none

/-- The contents of a string, after its opening quote, and what follows its closing quote. Control
    characters have to be escaped. -/
def glyphs? : Input → Option (List Glyph × Input)
  | [] => none
  | some '"' :: rest => some ([], rest)
  | some '\\' :: some 'u' :: some a :: some b :: some c :: some d :: rest => do
    let n ← hexUnit? a b c d
    let (gs, rest) ← glyphs? rest
    return (.unit n :: gs, rest)
  | some '\\' :: some e :: rest => do
    let c ← shortEscape? e
    let (gs, rest) ← glyphs? rest
    return (.char c :: gs, rest)
  | some c :: rest =>
    if c.toNat < 0x20 ∨ c = '\\' then none
    else do
      let (gs, rest) ← glyphs? rest
      return (.char c :: gs, rest)
  | none :: rest => do
    let (gs, rest) ← glyphs? rest
    return (.stray :: gs, rest)

/-- The text of a string. Code units from `0xD800` to `0xDFFF` come in pairs; half a pair is no text,
    and is found before bytes that are no character. -/
def assemble : List Glyph → Except Defect (List Char)
  | [] => .ok []
  | .char c :: rest => (c :: ·) <$> assemble rest
  | .stray :: rest =>
    match assemble rest with
    | .ok _ => .error .bytes
    | .error d => .error d
  | .unit hi :: .unit lo :: rest =>
    if 0xD800 ≤ hi ∧ hi < 0xDC00 then
      if 0xDC00 ≤ lo ∧ lo < 0xE000 then
        (Char.ofNat (0x10000 + (hi - 0xD800) * 0x400 + (lo - 0xDC00)) :: ·) <$> assemble rest
      else .error .halfPair
    else if 0xDC00 ≤ hi ∧ hi < 0xE000 then .error .halfPair
    else (Char.ofNat hi :: ·) <$> assemble (.unit lo :: rest)
  | .unit n :: rest =>
    if 0xD800 ≤ n ∧ n < 0xE000 then .error (if n < 0xDC00 ∧ rest = [] then .openPair else .halfPair)
    else (Char.ofNat n :: ·) <$> assemble rest

/-- A string after its opening quote. -/
def stringAfterQuote? (cs : Input) : Option (Except Defect String × Input) :=
  (glyphs? cs).map fun (gs, rest) => (String.ofList <$> assemble gs, rest)

/-- One or more digits, and what follows them. -/
def digits? (cs : Input) : Option (List Char × Input) :=
  match cs.takeWhile (·.any Text.isDigit) with
  | [] => none
  | ds => some (ds.filterMap id, cs.dropWhile (·.any Text.isDigit))

/-- The digits before the point: a zero alone or digits that start with another one. -/
def wholePart? (cs : Input) : Option (List Char × Input) :=
  match digits? cs with
  | some (['0'], rest) => some (['0'], rest)
  | some ('0' :: _, _) => none
  | other => other

/-- The fraction, empty when there is none. -/
def fraction? : Input → Option (List Char × Input)
  | some '.' :: rest => (digits? rest).map fun (ds, rest) => ('.' :: ds, rest)
  | cs => some ([], cs)

/-- The exponent, empty when there is none. -/
def exponent? : Input → Option (List Char × Input)
  | some e :: rest =>
    if e = 'e' ∨ e = 'E' then
      match rest with
      | some '+' :: rest => (digits? rest).map fun (ds, rest) => (e :: '+' :: ds, rest)
      | some '-' :: rest => (digits? rest).map fun (ds, rest) => (e :: '-' :: ds, rest)
      | rest => (digits? rest).map fun (ds, rest) => (e :: ds, rest)
    else some ([], some e :: rest)
  | cs => some ([], cs)

/-- A number without its sign. -/
def magnitude? (negative : Bool) (cs : Input) : Option (Number × Input) := do
  let (ds, rest) ← wholePart? cs
  let (fr, rest) ← fraction? rest
  let (ex, rest) ← exponent? rest
  let n := Text.digitsValue ds
  if fr.isEmpty && ex.isEmpty && !(negative && n == 0) then
    return (.whole (if negative then -n else n), rest)
  else
    return (.other (String.ofList ((if negative then ['-'] else []) ++ ds ++ fr ++ ex)), rest)

def number? : Input → Option (Number × Input)
  | some '-' :: rest => magnitude? true rest
  | cs => magnitude? false cs

mutual

/-- A value at the start of the text, blanks before it aside, and what follows it. -/
def value? : Nat → Input → Option (Json × Input)
  | 0, _ => none
  | budget + 1, cs =>
    match skipSpace cs with
    | some 'n' :: some 'u' :: some 'l' :: some 'l' :: rest => some (.null, rest)
    | some 't' :: some 'r' :: some 'u' :: some 'e' :: rest => some (.bool true, rest)
    | some 'f' :: some 'a' :: some 'l' :: some 's' :: some 'e' :: rest => some (.bool false, rest)
    | some '"' :: rest => (stringAfterQuote? rest).map fun (s, rest) => (.string s, rest)
    | some '[' :: rest =>
      match skipSpace rest with
      | some ']' :: rest => some (.array [], rest)
      | rest => (items? budget rest).map fun (vs, rest) => (.array vs, rest)
    | some '\x7b' :: rest =>
      match skipSpace rest with
      | some '\x7d' :: rest => some (.object [], rest)
      | rest => (fields? budget rest).map fun (fs, rest) => (.object fs, rest)
    | rest => (number? rest).map fun (n, rest) => (.number n, rest)

/-- One or more items and the bracket that ends them. -/
def items? : Nat → Input → Option (List Json × Input)
  | 0, _ => none
  | budget + 1, cs => do
    let (v, rest) ← value? budget cs
    match skipSpace rest with
    | some ',' :: rest =>
      let (vs, rest) ← items? budget rest
      return (v :: vs, rest)
    | some ']' :: rest => return ([v], rest)
    | _ => none

/-- One or more fields and the brace that ends them. -/
def fields? : Nat → Input → Option (List (Option String × Json) × Input)
  | 0, _ => none
  | budget + 1, cs =>
    match skipSpace cs with
    | some '"' :: rest => do
      let (k, rest) ← stringAfterQuote? rest
      match skipSpace rest with
      | some ':' :: rest =>
        let (v, rest) ← value? budget rest
        match skipSpace rest with
        | some ',' :: rest =>
          let (fs, rest) ← fields? budget rest
          return ((k.toOption, v) :: fs, rest)
        | some '\x7d' :: rest => return ([(k.toOption, v)], rest)
        | _ => none
      | _ => none
    | _ => none

end

/-- Reads an input that is one value and blanks. -/
def parseInput? (cs : Input) : Option Json :=
  match value? (cs.length + 1) cs with
  | some (v, rest) => if (skipSpace rest).isEmpty then some v else none
  | none => none

/-- Reads a text that is one value and blanks. -/
def parse? (s : String) : Option Json := parseInput? (Text.chars s)

/-- Reads bytes that are one value and blanks. -/
def parseBytes? (bytes : List UInt8) : Option Json := parseInput? (Text.charsOf bytes)

/-- The bytes of a text are read as the text is. -/
@[simp] theorem parseBytes?_toByteArray (s : String) :
    parseBytes? s.toByteArray.data.toList = parse? s := by
  rw [parseBytes?, parse?, Text.charsOf_toByteArray]

end Passcode.Json

/-
  Passcode.Json.Reading — what a reader that needs every part of a value makes of it.

  Such a reader takes strings as texts and numbers in double precision, and goes only so deep. It
  stops at the first fault. It is behind the value all the same when nothing but the closing
  brackets of the value follow the fault; otherwise it is stuck inside.

  A number is read with as many of its digits as fit 64 bits; what is left of the digits before the
  point counts as zeros, what is left of those after it not at all. Then it is multiplied or divided
  by powers of ten, and rounded each time.
-/

import Passcode.Json.Value
import Passcode.Number.Double

namespace Passcode.Json

/-- How far a reader gets with a value. -/
inductive Reading where
  /-- The value is read. -/
  | sound
  /-- There is a fault, and the reader is behind the value. -/
  | faulty
  /-- There is a fault, and the reader is still inside the value. -/
  | stuck
  deriving DecidableEq, Repr

/-! ## Numbers -/

/-- The parts of a number as it was written. -/
structure Literal where
  negative : Bool
  whole : List Char
  fraction : List Char
  /-- With its sign. -/
  exponent : List Char
  deriving DecidableEq, Repr

def Literal.ofChars (cs : List Char) : Literal :=
  let unsigned := if cs.head? = some '-' then cs.drop 1 else cs
  let whole := unsigned.takeWhile Text.isDigit
  let rest := unsigned.drop whole.length
  let fraction := if rest.head? = some '.' then (rest.drop 1).takeWhile Text.isDigit else []
  let rest := if rest.head? = some '.' then rest.drop (fraction.length + 1) else rest
  { negative := cs.head? = some '-', whole, fraction, exponent := rest.drop 1 }

/-- Puts digits behind a number as long as it fits 64 bits; gives also the digits left over. -/
def takeDigits (n : Nat) : List Char → Nat × List Char
  | [] => (n, [])
  | c :: cs =>
    let next := n * 10 + (c.toNat - '0'.toNat)
    if next < UInt64.size then takeDigits next cs else (n, c :: cs)

/-- The digits of an exponent, read as long as they fit 31 bits. When they do not, the digits behind
    the one that is too many are given. -/
def exponentDigits (n : Nat) : List Char → Except (List Char) Nat
  | [] => .ok n
  | c :: cs =>
    let next := n * 10 + (c.toNat - '0'.toNat)
    if next < Nat.pow 2 31 then exponentDigits next cs else .error cs

/-- The product of a magnitude and a power of ten. -/
def timesPower? (x : Double) (n : Nat) : Option Double :=
  if n ≤ 308 then (Double.power10? n).bind x.mul? else if x.mantissa = 0 then some x else none

/-- The quotient of a magnitude and a power of ten. Nothing is left after four divisions by 10^308. -/
def overPower? : Nat → Double → Nat → Option Double
  | 0, _, _ => some .zero
  | steps + 1, x, n =>
    if n ≤ 308 then (Double.power10? n).bind x.div?
    else do overPower? steps (← x.div? (← Double.power10? 308)) (n - 308)

/-- The magnitude of a number, or, when it is too large, what a reader makes of it. -/
def Literal.magnitude (l : Literal) : Except Reading Double :=
  let (n, left) := takeDigits 0 l.whole
  let (n, unused) := takeDigits n l.fraction
  let start : Int := left.length - (l.fraction.length - unused.length : Nat)
  let downward := l.exponent.head? = some '-'
  let digits := if downward ∨ l.exponent.head? = some '+' then l.exponent.drop 1 else l.exponent
  match exponentDigits 0 digits with
  | .error rest =>
    if n = 0 ∨ downward then .ok .zero else .error (if rest.isEmpty then .faulty else .stuck)
  | .ok e =>
    let exponent := if downward then start - e else start + e
    let scaled := (Double.nearest? n 1).bind fun x =>
      if 0 ≤ exponent then timesPower? x exponent.toNat else overPower? 4 x (-exponent).toNat
    match scaled with
    | some x => .ok x
    | none => .error .faulty

def Number.literal : Number → Literal
  | .whole i => .ofChars (intChars i)
  | .other literal => .ofChars literal.toList

/-- What a reader makes of a number. -/
def Number.reading (n : Number) : Reading :=
  match n.literal.magnitude with
  | .ok _ => .sound
  | .error r => r

/-! ## Values -/

/-- What a reader makes of a string. -/
def stringReading : Except Defect String → Reading
  | .ok _ => .sound
  | .error .halfPair => .stuck
  | .error _ => .faulty

/-- What a reader makes of a value that is no array or object. -/
def scalarReading : Json → Reading
  | .string s => stringReading s
  | .number n => n.reading
  | _ => .sound

/-- What follows from the reading of one of several parts for all, when others come after it. -/
def Reading.andThen (r : Reading) (last : Bool) (rest : Reading) : Reading :=
  match r with
  | .sound => rest
  | .faulty => if last then .faulty else .stuck
  | .stuck => .stuck

mutual

/-- What a reader makes of a value when it may go `depth` brackets deep. -/
def reading (depth : Nat) : Json → Reading
  | .array items =>
    match depth with
    | 0 => .stuck
    | depth + 1 => itemsReading depth items
  | .object fields =>
    match depth with
    | 0 => .stuck
    | depth + 1 => fieldsReading depth fields
  | v => scalarReading v

def itemsReading (depth : Nat) : List Json → Reading
  | [] => .sound
  | v :: rest => (reading depth v).andThen rest.isEmpty (itemsReading depth rest)

/-- A fault in a name leaves the reader before the colon. -/
def fieldsReading (depth : Nat) : List (Option String × Json) → Reading
  | [] => .sound
  | (name, v) :: rest =>
    if name.isNone then .stuck else (reading depth v).andThen rest.isEmpty (fieldsReading depth rest)

end

end Passcode.Json

/-
  Passcode.Number.Shortest — the shortest decimal that reads back as a magnitude.

  Of all decimals whose nearest magnitude is the given one, that with the fewest digits is taken, of
  several the nearest, and of two equally near the larger. It is written out with all its zeros, with
  a point only where a digit follows.
-/

import Passcode.Number.Double

namespace Passcode.Double

/-- The decimals that read back as a magnitude lie between two ratios with a common denominator, ends
    included when the mantissa is even. Here are the lower end, the magnitude itself and the upper
    end, over the denominator. -/
structure Span where
  low : Nat
  mid : Nat
  high : Nat
  den : Nat
  closed : Bool

def span (x : Double) : Span :=
  let unit := if 0 ≤ x.exponent then Nat.pow 2 x.exponent.toNat else 1
  let den := if 0 ≤ x.exponent then 4 else 4 * Nat.pow 2 (-x.exponent).toNat
  let below := if x.mantissa = Nat.pow 2 52 ∧ least < x.exponent then 1 else 2
  { low := (4 * x.mantissa - below) * unit
    mid := 4 * x.mantissa * unit
    high := (4 * x.mantissa + 2) * unit
    den
    closed := x.mantissa % 2 = 0 }

/-- Whether a decimal, `c` times a power of ten, lies in a span. -/
def Span.holds (s : Span) (c : Nat) (power : Int) : Bool :=
  let (n, d) := if 0 ≤ power then (c * Nat.pow 10 power.toNat, 1) else (c, Nat.pow 10 (-power).toNat)
  let (low, at_, high) := (s.low * d, n * s.den, s.high * d)
  if s.closed then low ≤ at_ && at_ ≤ high else low < at_ && at_ < high

/-- The power of ten of the first digit of a ratio, which is not zero. -/
def firstPower (num den : Nat) : Int :=
  if den ≤ num then ((Nat.toDigits 10 (num / den)).length : Int) - 1
  else -(((List.range 400).find? fun n => den ≤ num * Nat.pow 10 n).getD 0 : Nat)

/-- The decimal at a power of ten that lies in the span, the nearer one of the two around the
    magnitude. -/
def Span.at? (s : Span) (power : Int) : Option (Nat × Int) :=
  let (n, d) :=
    if 0 ≤ power then (s.mid, s.den * Nat.pow 10 power.toNat) else (s.mid * Nat.pow 10 (-power).toNat, s.den)
  let down := n / d
  let upFirst := d ≤ 2 * (n % d)
  let order := if upFirst then [down + 1, down] else [down, down + 1]
  (order.find? fun c => s.holds c power).map (·, power)

/-- The digits of the shortest decimal and the power of ten that they are multiplied with. -/
def shortest (x : Double) : Nat × Int :=
  if x.mantissa = 0 then (0, 0)
  else
    let s := x.span
    let first := firstPower s.mid s.den
    ((List.range 18).findSome? fun (n : Nat) => s.at? (first - n)).getD (0, 0)

/-- `n` times a power of ten, written out. -/
def decimalText (n : Nat) (power : Int) : String :=
  if 0 ≤ power then toString (n * Nat.pow 10 power.toNat)
  else
    let scale := Nat.pow 10 (-power).toNat
    let digits := Nat.toDigits 10 (n % scale)
    let fraction := List.replicate ((-power).toNat - digits.length) '0' ++ digits
    let fraction := (fraction.reverse.dropWhile (· = '0')).reverse
    let whole := toString (n / scale)
    if fraction.isEmpty then whole else whole ++ "." ++ String.ofList fraction

/-- A magnitude in decimal. -/
def text (x : Double) : String :=
  let (n, power) := x.shortest
  decimalText n power

end Passcode.Double

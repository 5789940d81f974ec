/-
  Passcode.Number.Double — magnitudes of double precision.

  A magnitude is a whole number below 2^53 times a power of two that is at least 2^-1074; the power
  is the least one that leaves room for all digits, so every magnitude has one form. A ratio is
  taken to the nearest magnitude, and halfway between two to the one that is even; what is nearer to
  2^1024 than to the largest magnitude has none. All arithmetic is exact until it is rounded.
-/

namespace Passcode

structure Double where
  mantissa : Nat
  exponent : Int
  deriving DecidableEq, Repr, Inhabited

namespace Double

/-- The least exponent. -/
def least : Int := -1074

/-- The largest exponent. -/
def most : Int := 971

def zero : Double := ⟨0, least⟩

/-- The whole number nearest to a ratio; halfway between two, the even one. -/
def nearestWhole (num den : Nat) : Nat :=
  let rest := 2 * (num % den)
  if rest < den ∨ (rest = den ∧ num / den % 2 = 0) then num / den else num / den + 1

/-- A ratio divided by a power of two. -/
def shrink (num den : Nat) (e : Int) : Nat × Nat :=
  if 0 ≤ e then (num, den * Nat.pow 2 e.toNat) else (num * Nat.pow 2 (-e).toNat, den)

/-- The largest power of two that is at most a ratio, which is not zero. -/
def log2 (num den : Nat) : Int :=
  let guess : Int := num.log2 - den.log2
  let (n, d) := shrink num den guess
  if d ≤ n then guess else guess - 1

/-- The magnitude nearest to a ratio. -/
def nearest? (num den : Nat) : Option Double :=
  if num = 0 then some zero
  else
    let e := max (log2 num den - 52) least
    let (n, d) := shrink num den e
    let m := nearestWhole n d
    let (m, e) := if m = Nat.pow 2 53 then (Nat.pow 2 52, e + 1) else (m, e)
    if most < e then none else some ⟨m, e⟩

/-- A magnitude as a ratio. -/
def ratio (x : Double) : Nat × Nat :=
  if 0 ≤ x.exponent then (x.mantissa * Nat.pow 2 x.exponent.toNat, 1)
  else (x.mantissa, Nat.pow 2 (-x.exponent).toNat)

/-- The product, rounded. -/
def mul? (x y : Double) : Option Double := nearest? (x.ratio.1 * y.ratio.1) (x.ratio.2 * y.ratio.2)

/-- The quotient, rounded. -/
def div? (x y : Double) : Option Double := nearest? (x.ratio.1 * y.ratio.2) (x.ratio.2 * y.ratio.1)

/-- The nearest magnitude to a power of ten. -/
def power10? (n : Nat) : Option Double := nearest? (Nat.pow 10 n) 1

/-- The nearest magnitude to `n` times a power of ten; nothing when that is too large. A power far out
    of range is not computed. -/
def ofDecimal? (n : Nat) (exponent : Int) : Option Double :=
  let reach := (Nat.toDigits 10 n).length + exponent
  if n = 0 ∨ reach < -330 then some zero
  else if reach > 310 then none
  else if 0 ≤ exponent then nearest? (n * Nat.pow 10 exponent.toNat) 1
  else nearest? n (Nat.pow 10 (-exponent).toNat)

/-- Whether a magnitude is less than another. -/
def lt (x y : Double) : Bool := x.ratio.1 * y.ratio.2 < y.ratio.1 * x.ratio.2

end Double

end Passcode

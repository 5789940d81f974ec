/-
  Passcode.Entropy — random bytes, and the codes and identifiers made of them.
-/

import Passcode.Bytes.Sha256
import Passcode.Text.Numeral

namespace Passcode

/-- A source of random bytes, by position. -/
structure Entropy where
  byte : Nat → UInt8

namespace Entropy

/-- The source that a seed grows into: the hashes of the seed with each number in turn. -/
def ofSeed (seed : List UInt8) : Entropy :=
  ⟨fun i => (Sha256.hash (seed ++ Sha256.bigEndian 8 (i / 32))).getD (i % 32) 0⟩

/-- The `i`-th decimal digit of a source, from two bytes. -/
def digit (e : Entropy) (i : Nat) : Char :=
  Nat.digitChar (((e.byte (2 * i)).toNat * 256 + (e.byte (2 * i + 1)).toNat) % 10)

/-- A code of `length` decimal digits. -/
def code (e : Entropy) (length : Nat) : String := String.ofList ((List.range length).map e.digit)

/-- A byte as two hexadecimal digits in lower case. -/
def hexByte (b : UInt8) : List Char := [Text.hexDigit (b.toNat / 16), Text.hexDigit (b.toNat % 16)]

/-- A random universally unique identifier, version 4: sixteen bytes, of which the version and the
    variant are marked. -/
def uuid (e : Entropy) : String :=
  let byte (i : Nat) : UInt8 :=
    if i = 6 then (e.byte i &&& 0x0f) ||| 0x40
    else if i = 8 then (e.byte i &&& 0x3f) ||| 0x80
    else e.byte i
  let part (first count : Nat) := (List.range count).flatMap fun i => hexByte (byte (first + i))
  String.ofList (part 0 4 ++ '-' :: part 4 2 ++ '-' :: part 6 2 ++ '-' :: part 8 2 ++ '-' :: part 10 6)

end Entropy

end Passcode

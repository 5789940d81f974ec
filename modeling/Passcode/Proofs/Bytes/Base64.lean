/-
  Passcode.Proofs.Bytes.Base64 — what is written in base64 reads back.

  Every six bits have a character, which stands for them and is no point (`value?_digit`,
  `digit_ne_point`); four characters are three bytes again.

  Proved: the reader undoes the writer (`decode?_encode`, `bytes?_encodeText`), and a written text
  holds no point (`point_not_mem_encode`).
-/

import Passcode.Bytes.Base64

namespace Passcode.Base64

theorem value?_digit {n : Nat} (h : n < 64) : value? (digit n) = some n := by
  have all : ∀ n < 64, value? (digit n) = some n := by decide
  exact all n h

theorem digit_ne_point {n : Nat} (h : n < 64) : digit n ≠ '.' := by
  have all : ∀ n < 64, digit n ≠ '.' := by decide
  exact all n h

/-- A byte is what is left of a number that ends with it. -/
theorem ofNat_eq {a : UInt8} {n : Nat} (h : n % 256 = a.toNat) : UInt8.ofNat n = a := by
  rw [← UInt8.toNat_inj, UInt8.toNat_ofNat']
  exact h

/-- The reader undoes the writer. -/
theorem decode?_encode (bytes : List UInt8) : decode? (encode bytes) = some bytes := by
  induction bytes using encode.induct with
  | case1 => rfl
  | case2 a =>
    have ha := a.toNat_lt
    simp only [encode, decode?, value?_digit (show a.toNat * 16 / 64 < 64 by omega),
      value?_digit (show a.toNat * 16 % 64 < 64 by omega), bind, Option.bind]
    rw [if_pos (by omega), ofNat_eq (a := a) (by omega)]
  | case3 a b =>
    have ha := a.toNat_lt
    have hb := b.toNat_lt
    simp only [encode, decode?, value?_digit (show (a.toNat * 256 + b.toNat) * 4 / 4096 < 64 by omega),
      value?_digit (show (a.toNat * 256 + b.toNat) * 4 / 64 % 64 < 64 by omega),
      value?_digit (show (a.toNat * 256 + b.toNat) * 4 % 64 < 64 by omega), bind, Option.bind]
    rw [if_pos (by omega), ofNat_eq (a := a) (by omega), ofNat_eq (a := b) (by omega)]
  | case4 a b c rest ih =>
    have ha := a.toNat_lt
    have hb := b.toNat_lt
    have hc := c.toNat_lt
    simp only [encode, decode?,
      value?_digit (show ((a.toNat * 256 + b.toNat) * 256 + c.toNat) / 262144 < 64 by omega),
      value?_digit (show ((a.toNat * 256 + b.toNat) * 256 + c.toNat) / 4096 % 64 < 64 by omega),
      value?_digit (show ((a.toNat * 256 + b.toNat) * 256 + c.toNat) / 64 % 64 < 64 by omega),
      value?_digit (show ((a.toNat * 256 + b.toNat) * 256 + c.toNat) % 64 < 64 by omega), ih, bind, Option.bind]
    rw [ofNat_eq (a := a) (by omega), ofNat_eq (a := b) (by omega), ofNat_eq (a := c) (by omega)]
    rfl

theorem bytes?_encodeText (s : String) : bytes? (encodeText s) = some s.toUTF8.data.toList := by
  rw [bytes?, encodeText, String.toList_ofList, decode?_encode]

theorem point_not_mem_encode (bytes : List UInt8) : '.' ∉ encode bytes := by
  induction bytes using encode.induct with
  | case1 => simp [encode]
  | case2 a =>
    have ha := a.toNat_lt
    simp only [encode, List.mem_cons, List.not_mem_nil, or_false, not_or]
    exact ⟨(digit_ne_point (by omega)).symm, (digit_ne_point (by omega)).symm⟩
  | case3 a b =>
    have ha := a.toNat_lt
    have hb := b.toNat_lt
    simp only [encode, List.mem_cons, List.not_mem_nil, or_false, not_or]
    exact ⟨(digit_ne_point (by omega)).symm, (digit_ne_point (by omega)).symm,
      (digit_ne_point (by omega)).symm⟩
  | case4 a b c rest ih =>
    have ha := a.toNat_lt
    have hb := b.toNat_lt
    have hc := c.toNat_lt
    simp only [encode, List.mem_cons, not_or]
    exact ⟨(digit_ne_point (by omega)).symm, (digit_ne_point (by omega)).symm,
      (digit_ne_point (by omega)).symm, (digit_ne_point (by omega)).symm, ih⟩

end Passcode.Base64

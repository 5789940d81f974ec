/-
  Passcode.Proofs.Text.Numeral — numbers written in decimal are read back.

  Proved: what `Nat.toDigits` writes is read by `natural?` (`natural?_toDigits`); a whole number
  written out is read by `signed?` within its bounds (`signed?_toString`) and is in the one plain
  form that arithmetic on texts wants (`plainInteger?_toString`); the lenient comparison sees its
  sign (`isPositive?_toString`).
-/

import Mathlib.Data.List.TakeWhile
import Passcode.Keyspace.Number

namespace Passcode

/-! ## Digits -/

namespace Text

theorem isDigit_of_mem_toDigits {n : Nat} {c : Char} (h : c ∈ Nat.toDigits 10 n) : isDigit c = true := by
  have hd := Nat.isDigit_of_mem_toDigits (by omega) (by omega) h
  simp only [Char.isDigit, Bool.and_eq_true, decide_eq_true_eq] at hd
  simp only [isDigit, Bool.and_eq_true, decide_eq_true_eq]
  exact ⟨hd.1, hd.2⟩

theorem digitValue?_of_isDigit {c : Char} (h : isDigit c = true) : digitValue? c = some (c.toNat - '0'.toNat) := by
  simp only [isDigit, Bool.and_eq_true, decide_eq_true_eq] at h
  simp [digitValue?, h]

theorem naturalFrom?_digits : ∀ (cs : List Char) (acc : Nat), (∀ c ∈ cs, isDigit c = true) →
    naturalFrom? acc cs = some (Nat.ofDigitChars 10 cs acc) := by
  intro cs
  induction cs with
  | nil => intro acc _; simp [naturalFrom?]
  | cons c cs ih =>
    intro acc h
    have hc := digitValue?_of_isDigit (h c List.mem_cons_self)
    have hcs := ih (acc * 10 + (c.toNat - '0'.toNat)) fun d hd => h d (List.mem_cons_of_mem c hd)
    rw [naturalFrom?, hc, Option.bind_some, hcs, Nat.ofDigitChars_cons, Nat.mul_comm]

@[simp] theorem natural?_toDigits (n : Nat) : natural? (Nat.toDigits 10 n) = some n := by
  have hv := naturalFrom?_digits (Nat.toDigits 10 n) 0 fun c hc => isDigit_of_mem_toDigits hc
  rw [Nat.ofDigitChars_ten_toDigits] at hv
  cases hd : Nat.toDigits 10 n with
  | nil => exact absurd hd Nat.toDigits_ne_nil
  | cons c cs => rw [natural?, ← hd]; exacts [hv, by simp]

@[simp] theorem digitsValue_toDigits (n : Nat) : digitsValue (Nat.toDigits 10 n) = n := by
  have h := Nat.ofDigitChars_ten_toDigits (n := n)
  simpa [digitsValue, Nat.ofDigitChars, Nat.mul_comm] using h

/-- Only zero is written with a zero in front. -/
theorem head_toDigits_ne_zero {n : Nat} (h : n ≠ 0) : ∃ c cs, Nat.toDigits 10 n = c :: cs ∧ c ≠ '0' := by
  induction n using Nat.strongRecOn with
  | ind n ih =>
    by_cases hn : n < 10
    · refine ⟨n.digitChar, [], Nat.toDigits_of_lt_base hn, ?_⟩
      simpa using h
    · obtain ⟨c, cs, hd, hc⟩ := ih (n / 10) (by omega) (by omega)
      refine ⟨c, cs ++ [(n % 10).digitChar], ?_, hc⟩
      rw [Nat.toDigits_of_base_le (by omega) (by omega), hd]
      rfl

/-! ## Signed numbers -/

theorem toList_toString (i : Int) :
    (toString i).toList = if i < 0 then '-' :: Nat.toDigits 10 i.natAbs else Nat.toDigits 10 i.natAbs := by
  rw [Int.toString_eq_repr, Int.repr_eq_if]
  by_cases h : i < 0
  · have habs : (-i).toNat = i.natAbs := by omega
    rw [if_neg (by omega), if_pos h, habs, String.toList_append, Nat.toList_repr]
    rfl
  · have habs : i.toNat = i.natAbs := by omega
    rw [if_pos (by omega), if_neg h, habs, Nat.toList_repr]

/-- What is written first in a number without a minus sign. -/
theorem toDigits_eq_cons (n : Nat) : ∃ c cs, Nat.toDigits 10 n = c :: cs ∧ isDigit c = true := by
  cases hd : Nat.toDigits 10 n with
  | nil => exact absurd hd Nat.toDigits_ne_nil
  | cons c cs => exact ⟨c, cs, rfl, isDigit_of_mem_toDigits (hd ▸ List.mem_cons_self)⟩

theorem isDigit_ne {c d : Char} (hc : isDigit c = true) (hd : isDigit d = false) : c ≠ d := by
  rintro rfl; rw [hc] at hd; cases hd

theorem signed?_toString {low high i : Int} (hl : low ≤ i) (hh : i ≤ high) :
    signed? low high (toString i) = some i := by
  have hf : (some i).filter (fun v => decide (low ≤ v ∧ v ≤ high)) = some i := by simp [hl, hh]
  unfold signed?
  rw [toList_toString]
  by_cases h : i < 0
  · have hv : -Int.ofNat i.natAbs = i := by show -(i.natAbs : Int) = i; omega
    simp only [if_pos h, natural?_toDigits, Option.map_some, hv, hf]
  · have hv : Int.ofNat i.natAbs = i := by show (i.natAbs : Int) = i; omega
    obtain ⟨c, cs, hd, hc⟩ := toDigits_eq_cons i.natAbs
    have hp : c ≠ '+' := isDigit_ne hc rfl
    have hm : c ≠ '-' := isDigit_ne hc rfl
    have hn : natural? (c :: cs) = some i.natAbs := by rw [← hd, natural?_toDigits]
    rw [if_neg h, hd]
    split
    · rename_i heq; simp only [List.cons.injEq] at heq; exact absurd heq.1 hp
    · rename_i heq; simp only [List.cons.injEq] at heq; exact absurd heq.1 hm
    · rw [hn, Option.map_some, hv, hf]

end Text

/-! ## Numbers kept as texts -/

namespace Keyspace

open Text (isDigit toDigits_eq_cons isDigit_of_mem_toDigits isDigit_ne toList_toString)

theorem plainInteger?_toString {i : Int} (hl : Int64.minValue.toInt ≤ i) (hh : i ≤ Int64.maxValue.toInt) :
    plainInteger? (toString i) = some i := by
  unfold plainInteger?
  rw [Text.signed?_toString hl hh]
  exact if_pos rfl

/-- A whole number in plain form is written in one way only. -/
theorem eq_toString_of_plainInteger? {s : String} {i : Int} (h : plainInteger? s = some i) : s = toString i := by
  unfold plainInteger? at h
  split at h
  · split at h
    · rename_i htext
      cases h
      exact htext.symm
    · cases h
  · cases h

theorem isSpace_of_isDigit {c : Char} (h : isDigit c = true) : isSpace c = false := by
  simp only [isDigit, Bool.and_eq_true, decide_eq_true_eq] at h
  have hl : 48 ≤ c.toNat := h.1
  have hs : c ≠ ' ' := by rintro rfl; exact absurd hl (by decide)
  simp only [isSpace, Bool.or_eq_false_iff, beq_eq_false_iff_ne, ne_eq, Bool.and_eq_false_imp,
    decide_eq_true_eq, decide_eq_false_iff_not]
  exact ⟨hs, fun _ => by omega⟩

/-- Trimming leaves a text without blanks as it is. -/
theorem trim_eq_self {cs : List Char} (h : ∀ c ∈ cs, isSpace c = false) :
    ((cs.dropWhile isSpace).reverse.dropWhile isSpace).reverse = cs := by
  have hself : ∀ l : List Char, (∀ c ∈ l, isSpace c = false) → l.dropWhile isSpace = l := by
    intro l hl
    cases l with
    | nil => rfl
    | cons c l => simp [hl c List.mem_cons_self]
  rw [hself cs h, hself cs.reverse fun c hc => h c (List.mem_reverse.mp hc), List.reverse_reverse]

theorem magnitudeIsPositive?_toDigits (n : Nat) :
    magnitudeIsPositive? (Nat.toDigits 10 n) = some (decide (0 < n)) := by
  have hall : ∀ c ∈ Nat.toDigits 10 n, isDigit c = true := fun c hc => isDigit_of_mem_toDigits hc
  have hw : (Nat.toDigits 10 n).takeWhile isDigit = Nat.toDigits 10 n := List.takeWhile_eq_self_iff.mpr hall
  have hany : ((Nat.toDigits 10 n).any fun c => !decide (c = '0')) = decide (0 < n) := by
    by_cases h : n = 0
    · subst h; rfl
    · obtain ⟨c, cs, hd, hc⟩ := Text.head_toDigits_ne_zero h
      have hn : 0 < n := by omega
      simp [hd, hc, hn]
  unfold magnitudeIsPositive?
  split
  · rename_i heq; exact absurd (hall 'x' (heq ▸ by simp)) (by decide)
  · rename_i heq; exact absurd (hall 'X' (heq ▸ by simp)) (by decide)
  · simp [hw, hany, isExponent, Nat.toDigits_ne_nil]

theorem isPositive?_toString (i : Int) : isPositive? (toString i) = some (decide (0 < i)) := by
  have hblank : ∀ c ∈ (toString i).toList, isSpace c = false := by
    intro c hc
    rw [toList_toString] at hc
    split at hc
    · rcases List.mem_cons.mp hc with rfl | hc
      · rfl
      · exact isSpace_of_isDigit (isDigit_of_mem_toDigits hc)
    · exact isSpace_of_isDigit (isDigit_of_mem_toDigits hc)
  unfold isPositive?
  simp only [trim_eq_self hblank]
  rw [toList_toString]
  by_cases h : i < 0
  · simp only [if_pos h, magnitudeIsPositive?_toDigits, Option.map_some]
    simp; omega
  · obtain ⟨c, cs, hd, hc⟩ := toDigits_eq_cons i.natAbs
    have hm : c ≠ '-' := isDigit_ne hc rfl
    have hp : c ≠ '+' := isDigit_ne hc rfl
    have hv : magnitudeIsPositive? (c :: cs) = some (decide (0 < i)) := by
      rw [← hd, magnitudeIsPositive?_toDigits]
      congr 1
      exact decide_eq_decide.mpr (by omega)
    rw [if_neg h, hd]
    split
    · rename_i heq; simp only [List.cons.injEq] at heq; exact absurd heq.1 hm
    · rename_i heq; simp only [List.cons.injEq] at heq; exact absurd heq.1 hp
    · exact hv

end Keyspace

end Passcode

/-
  Passcode.Proofs.Phone — the number that a text addresses.

  A text loses its formatting, and a bare mobile number gets the country code in front. Doing so again
  changes nothing, and what comes out is in international format.

  Proved: a number is found for what can be addressed, and no other text (`international?_isSome`), in
  international format, which is its own number (`international?_eq_some`); and texts address one number when
  they are spelled alike, or when one is the other with the country code in front (`international?_eq_iff`).
-/

import Passcode.Phone

namespace Passcode.Phone

variable {a b n s : String} {cs : List Char}

/-- What a bare mobile number is sent with in front. -/
def countryCode : String := "+86"

theorem significant_normalize (s : String) : significant (normalize s).toList = significant s.toList := by
  rw [normalize, String.toList_ofList, significant_idem]

@[simp] theorem isInternational_normalize (s : String) : isInternational (normalize s) = isInternational s := by
  rw [isInternational, significant_normalize, isInternational]

@[simp] theorem isAddressable_normalize (s : String) : isAddressable (normalize s) = isAddressable s := by
  rw [isAddressable, significant_normalize, isAddressable]

/-- The number that a text addresses, in either format. -/
theorem international?_eq (h : isAddressable a = true) : international? a =
    some (if isInternational a then normalize a else countryCode ++ normalize a) := by
  rw [international?]
  simp only [isInternational_normalize, isAddressable_normalize, h, if_true]
  cases isInternational a <;> rfl

theorem international?_normalize (s : String) : international? (normalize s) = international? s := by
  rw [international?, normalize_normalize, international?]

theorem significant_countryCode (s : String) :
    significant (countryCode ++ normalize s).toList = countryCode.toList ++ significant s.toList := by
  have hcode : significant countryCode.toList = countryCode.toList := by decide
  have happend : significant (countryCode.toList ++ (normalize s).toList) =
      significant countryCode.toList ++ significant (normalize s).toList := List.filter_append ..
  rw [String.toList_append, happend, hcode, significant_normalize]

/-- Formatting aside, a number with the country code in front is just that. -/
theorem normalize_countryCode (s : String) : normalize (countryCode ++ normalize s) = countryCode ++ normalize s := by
  rw [normalize, significant_countryCode, String.ofList_append, String.ofList_toList]
  rfl

/-- A bare mobile number with the country code in front is in international format. -/
theorem hasInternationalForm_of_mobile (h : hasMobileForm cs = true) :
    hasInternationalForm (countryCode.toList ++ cs) = true := by
  unfold hasMobileForm at h
  split at h
  · next d rest =>
    simp only [Bool.and_eq_true, beq_iff_eq] at h
    obtain ⟨⟨⟨hlow, hhigh⟩, hrest⟩, hlen⟩ := h
    have hd : Text.isDigit d = true := by
      have hzero : '0' ≤ d := Char.le_trans (by decide) (of_decide_eq_true hlow)
      simp [Text.isDigit, hzero, of_decide_eq_true hhigh]
    show (Text.isDigit '8' && '8' != '0' && ('6' :: '1' :: d :: rest).all Text.isDigit &&
      decide (1 ≤ ('6' :: '1' :: d :: rest).length) && decide (('6' :: '1' :: d :: rest).length ≤ 14)) = true
    have hfirst : Text.isDigit '8' && '8' != '0' && Text.isDigit '6' && Text.isDigit '1' := by decide
    simp only [Bool.and_eq_true] at hfirst
    simp [hfirst, hd, hrest, hlen]
  · cases h

theorem isInternational_countryCode (h : isAddressable a = true) (hbare : isInternational a = false) :
    isInternational (countryCode ++ normalize a) = true := by
  have hmobile : hasMobileForm (significant a.toList) = true := by
    rw [isAddressable, Bool.or_eq_true] at h
    exact h.resolve_left (Bool.eq_false_iff.mp hbare)
  rw [isInternational, significant_countryCode]
  exact hasInternationalForm_of_mobile hmobile

theorem isInternational_of_countryCode (h : isAddressable a = true) (hbare : isInternational a = false)
    (hb : normalize b = countryCode ++ normalize a) : isInternational b = true := by
  rw [← isInternational_normalize b, hb]
  exact isInternational_countryCode h hbare

/-- Texts address one number when they are spelled alike, or one of them is bare and the other has the country
    code in front of it. -/
theorem international?_eq_iff (ha : isAddressable a = true) (hb : isAddressable b = true) :
    international? a = international? b ↔ normalize a = normalize b ∨
      (isInternational a = false ∧ normalize b = countryCode ++ normalize a) ∨
      (isInternational b = false ∧ normalize a = countryCode ++ normalize b) := by
  have hsame : normalize a = normalize b → isInternational a = isInternational b := by
    intro h
    rw [← isInternational_normalize a, h, isInternational_normalize]
  -- with the country code in front, a number is not bare
  have hnot : ∀ {a b : String}, isAddressable a = true → isInternational a = false → isInternational b = false →
      normalize b ≠ countryCode ++ normalize a := by
    intro a b ha hia hib h
    rw [isInternational_of_countryCode ha hia h] at hib
    cases hib
  rw [international?_eq ha, international?_eq hb, Option.some.injEq]
  cases hia : isInternational a with
  | true =>
    cases hib : isInternational b with
    | true => simp
    | false =>
      have hne : normalize a ≠ normalize b := fun h => by
        rw [hsame h, hib] at hia
        cases hia
      simp [hne]
  | false =>
    cases hib : isInternational b with
    | true =>
      have hne : normalize a ≠ normalize b := fun h => by
        rw [hsame h, hib] at hia
        cases hia
      simp [hne, eq_comm]
    | false => simp [hnot ha hia hib, hnot hb hib hia]

/-- A number is found for what can be addressed. -/
theorem international?_isSome (s : String) : (international? s).isSome = isAddressable s := by
  cases h : isAddressable s with
  | true => rw [international?_eq h, Option.isSome_some]
  | false =>
    have hinternational : isInternational s = false := (Bool.or_eq_false_iff.mp h).1
    simp only [international?, isInternational_normalize, isAddressable_normalize, h, hinternational,
      Bool.false_eq_true, if_false, Option.isSome_none]

/-- The number found is in international format, without formatting, and is its own number. -/
theorem international?_eq_some (h : international? s = some n) :
    hasInternationalForm n.toList = true ∧ international? n = some n := by
  have hs : isAddressable s = true := by rw [← international?_isSome, h, Option.isSome_some]
  have hnumber : isInternational n = true ∧ normalize n = n := by
    rw [international?_eq hs, Option.some.injEq] at h
    subst h
    cases hformat : isInternational s with
    | true =>
      rw [if_pos rfl]
      exact ⟨(isInternational_normalize s).trans hformat, normalize_normalize s⟩
    | false =>
      rw [if_neg Bool.false_ne_true]
      exact ⟨isInternational_countryCode hs hformat, normalize_countryCode s⟩
  obtain ⟨hformat, hself⟩ := hnumber
  have haddressable : isAddressable n = true := Bool.or_eq_true_iff.mpr (Or.inl hformat)
  have hplain : significant n.toList = n.toList :=
    String.toList_ofList.symm.trans (congrArg String.toList hself)
  refine ⟨?_, by rw [international?_eq haddressable, hformat, if_pos rfl, hself]⟩
  rwa [isInternational, hplain] at hformat

end Passcode.Phone

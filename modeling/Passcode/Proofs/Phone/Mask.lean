/-
  Passcode.Proofs.Phone.Mask — what a masked number hides.

  A mask shows the first three and the last four characters of a number that has seven, and of a shorter one
  nothing. From the third character on, every digit of a number that can be addressed may be any other, so a
  digit that is not shown can be replaced, and the number is one of several that look alike. A number of seven
  characters has no such digit: all of it is shown, with stars in the middle (`shown_in_full`).

  Proved: every number that can be addressed looks like another one, in its own mask and in the mask of the
  number it is posted to; and like one of its own length exactly if it has not seven characters
  (`mask_shared`).
-/

import Passcode.Proofs.Phone

namespace Passcode.Phone

variable {cs : List Char} {d : Char} {i : Nat}

/-! ## Digits that may be any other -/

theorem all_isDigit_set {rest : List Char} (h : rest.all Text.isDigit = true) (hd : Text.isDigit d = true) (i : Nat) :
    (rest.set i d).all Text.isDigit = true := by
  rw [List.all_eq_true] at h ⊢
  intro x hx
  rcases List.mem_or_eq_of_mem_set hx with hx | rfl
  · exact h x hx
  · exact hd

theorem hasInternationalForm_set (h : hasInternationalForm cs = true) (hi : 2 ≤ i) (hd : Text.isDigit d = true) :
    hasInternationalForm (cs.set i d) = true := by
  obtain ⟨i, rfl⟩ := Nat.exists_eq_add_of_le' hi
  unfold hasInternationalForm at h
  split at h
  · next e rest =>
    simp only [List.set_cons_succ, hasInternationalForm, Bool.and_eq_true, List.length_set] at h ⊢
    obtain ⟨⟨⟨hfirst, hrest⟩, hmin⟩, hmax⟩ := h
    exact ⟨⟨⟨hfirst, all_isDigit_set hrest hd i⟩, hmin⟩, hmax⟩
  · cases h

theorem hasMobileForm_set (h : hasMobileForm cs = true) (hi : 2 ≤ i) (hd : Text.isDigit d = true) :
    hasMobileForm (cs.set i d) = true := by
  obtain ⟨i, rfl⟩ := Nat.exists_eq_add_of_le' hi
  unfold hasMobileForm at h
  split at h
  · next e rest =>
    simp only [List.set_cons_succ, hasMobileForm, Bool.and_eq_true, List.length_set] at h ⊢
    obtain ⟨⟨hsecond, hrest⟩, hlength⟩ := h
    exact ⟨⟨hsecond, all_isDigit_set hrest hd i⟩, hlength⟩
  · cases h

/-- A number in international format has from three to sixteen characters. -/
theorem length_of_international (h : hasInternationalForm cs = true) : 3 ≤ cs.length ∧ cs.length ≤ 16 := by
  unfold hasInternationalForm at h
  split at h
  · simp only [Bool.and_eq_true, decide_eq_true_eq] at h
    simp only [List.length_cons]
    omega
  · cases h

theorem length_of_mobile (h : hasMobileForm cs = true) : cs.length = 11 := by
  unfold hasMobileForm at h
  split at h
  · simp only [Bool.and_eq_true, beq_iff_eq] at h
    simp only [List.length_cons]
    omega
  · cases h

/-- A bare number is not in international format. -/
theorem not_international_of_mobile (h : hasMobileForm cs = true) : hasInternationalForm cs = false := by
  unfold hasMobileForm at h
  split at h
  · rfl
  · cases h

/-- Digits put into a number are no formatting. -/
theorem significant_of_digits {number : List Char} (h : significant cs = cs)
    (hdigits : ∀ x ∈ number, x ∈ cs ∨ Text.isDigit x = true) : significant number = number := by
  rw [significant, List.filter_eq_self] at h ⊢
  intro x hx
  rcases hdigits x hx with hx | hx
  · exact h x hx
  · simp [isSignificant, hx]

/-- A number of seven characters stays in international format with one more digit behind the third. -/
theorem hasInternationalForm_insert (h : hasInternationalForm cs = true) (hlength : cs.length = 7)
    (hd : Text.isDigit d = true) : hasInternationalForm (cs.take 3 ++ d :: cs.drop 3) = true := by
  unfold hasInternationalForm at h
  split at h
  · next e rest =>
    match rest with
    | [] => simp at hlength
    | x :: rest =>
      simp only [List.length_cons] at hlength
      simp only [Bool.and_eq_true, List.all_cons] at h
      obtain ⟨⟨⟨hfirst, hx, hrest⟩, -⟩, -⟩ := h
      have hmax : rest.length + 2 ≤ 14 := by omega
      simp [hasInternationalForm, hfirst, hx, hd, hrest, hmax]
  · cases h

/-! ## What is shown -/

/-- A digit that is not shown may be any other. -/
theorem maskChars_set (h : cs.length < 7 ∨ 3 ≤ i ∧ i + 4 < cs.length) : maskChars (cs.set i d) = maskChars cs := by
  rw [maskChars, maskChars, List.length_set]
  by_cases hlength : 7 ≤ cs.length
  · obtain ⟨hfront, hback⟩ := h.resolve_left (by omega)
    have htake : (cs.set i d).take 3 = cs.take 3 := by
      rw [List.take_set, List.set_eq_of_length_le (by simp; omega)]
    have hdrop : (cs.set i d).drop (cs.length - 4) = cs.drop (cs.length - 4) := by
      rw [List.drop_set, if_pos (by omega)]
    rw [if_pos hlength, if_pos hlength, htake, hdrop]
  · rw [if_neg hlength, if_neg hlength]

theorem maskChars_insert (h : cs.length = 7) : maskChars (cs.take 3 ++ d :: cs.drop 3) = maskChars cs := by
  have hfront : (cs.take 3).length = 3 := by simp [h]
  have hlength : (cs.take 3 ++ d :: cs.drop 3).length = 8 := by simp [h]
  have htake : (cs.take 3 ++ d :: cs.drop 3).take 3 = cs.take 3 := List.take_left' hfront
  have hdrop : (cs.take 3 ++ d :: cs.drop 3).drop 4 = cs.drop 3 := by
    rw [List.drop_append, hfront, List.drop_eq_nil_of_le (by omega)]
    rfl
  rw [maskChars, maskChars, if_pos (by omega), if_pos (by omega), hlength, h, htake, hdrop]

/-- Longer numbers that look alike begin and end alike. -/
theorem maskChars_inj {cs' : List Char} (h : 7 ≤ cs.length) (h' : 7 ≤ cs'.length) (hsame : maskChars cs' = maskChars cs) :
    cs'.take 3 = cs.take 3 ∧ cs'.drop (cs'.length - 4) = cs.drop (cs.length - 4) := by
  rw [maskChars, maskChars, if_pos h, if_pos h', List.append_assoc, List.append_assoc] at hsame
  have htake : (cs'.take 3).length = (cs.take 3).length := by
    rw [List.length_take, List.length_take]
    omega
  obtain ⟨hfront, hback⟩ := List.append_inj hsame htake
  exact ⟨hfront, List.append_cancel_left hback⟩

/-- With the country code in front, a number shows that and its own end. -/
theorem maskChars_countryCode (h : 4 ≤ cs.length) :
    maskChars (countryCode.toList ++ cs) = countryCode.toList ++ "****".toList ++ cs.drop (cs.length - 4) := by
  have hcode : countryCode.toList.length = 3 := rfl
  have hlength : (countryCode.toList ++ cs).length = 3 + cs.length := by rw [List.length_append, hcode]
  have htake : (countryCode.toList ++ cs).take 3 = countryCode.toList := List.take_left' hcode
  have hdrop : (countryCode.toList ++ cs).drop (3 + cs.length - 4) = cs.drop (cs.length - 4) := by
    have hplace : 3 + cs.length - 4 - 3 = cs.length - 4 := by omega
    rw [List.drop_append, List.drop_eq_nil_of_le (by omega), hcode, hplace, List.nil_append]
  rw [maskChars, hlength, if_pos (by omega), htake, hdrop]

/-- Numbers of seven characters that look alike are the same. -/
theorem eq_of_maskChars {cs' : List Char} (h : cs.length = 7) (h' : cs'.length = 7)
    (hsame : maskChars cs' = maskChars cs) : cs' = cs := by
  obtain ⟨hfront, hback⟩ := maskChars_inj (Nat.le_of_eq h.symm) (Nat.le_of_eq h'.symm) hsame
  rw [h, h'] at hback
  rw [← List.take_append_drop 3 cs', hfront, hback, List.take_append_drop]

/-! ## Numbers that look alike -/

theorem normalize_eq_of_mask {r r' : String} (h : (normalize r).length = 7) (h' : (normalize r').length = 7)
    (hmask : mask r' = mask r) : normalize r' = normalize r := by
  simp only [normalize, String.length_ofList] at h h'
  rw [mask, mask, String.ofList_inj] at hmask
  rw [normalize, normalize, eq_of_maskChars h h' hmask]

/-- Another text that can be addressed, of another handset, and is shown in the same way: where its own number is,
    and where the number is that messages to it are posted to. -/
structure LooksLike (r r' : String) : Prop where
  addressable : isAddressable r' = true
  other : normalize r' ≠ normalize r
  handset : international? r' ≠ international? r
  shown : mask r' = mask r
  posted : (international? r').map mask = (international? r).map mask

theorem mask_normalize (s : String) : mask (normalize s) = mask s := by
  rw [mask, significant_normalize, mask]

theorem mask_countryCode (s : String) (h : 4 ≤ (significant s.toList).length) :
    mask (countryCode ++ normalize s) = String.ofList (countryCode.toList ++ "****".toList ++
      (significant s.toList).drop ((significant s.toList).length - 4)) := by
  rw [mask, significant_countryCode, maskChars_countryCode h]

/-- Two numbers have one format. -/
def SameFormat (cs cs' : List Char) : Prop :=
  hasInternationalForm cs = true ∧ hasInternationalForm cs' = true ∨ hasMobileForm cs = true ∧ hasMobileForm cs' = true

/-- Another number of the same format that is shown in the same way looks like the first one. -/
theorem looksLike {r : String} {number : List Char} (hplain : significant number = number)
    (hne : number ≠ significant r.toList) (hformat : SameFormat (significant r.toList) number)
    (hmask : maskChars number = maskChars (significant r.toList)) : LooksLike r (String.ofList number) := by
  have hnumber : significant (String.ofList number).toList = number := by rw [String.toList_ofList, hplain]
  have hother : normalize (String.ofList number) ≠ normalize r := by
    rw [normalize, hnumber, normalize]
    exact fun heq => hne (String.ofList_inj.mp heq)
  have hshown : mask (String.ofList number) = mask r := by
    rw [mask, hnumber, hmask, mask]
  rcases hformat with ⟨hform, hform'⟩ | ⟨hform, hform'⟩
  · have h : isAddressable r = true := Bool.or_eq_true_iff.mpr (.inl hform)
    have h' : isAddressable (String.ofList number) = true := by
      rw [isAddressable, hnumber, hform', Bool.true_or]
    have hsent : international? r = some (normalize r) := by
      rw [international?_eq h, isInternational, hform, if_pos rfl]
    have hsent' : international? (String.ofList number) = some (normalize (String.ofList number)) := by
      rw [international?_eq h', isInternational, hnumber, hform', if_pos rfl]
    refine ⟨h', hother, ?_, hshown, ?_⟩
    · rw [hsent, hsent']
      simpa using hother
    · rw [hsent, hsent', Option.map_some, Option.map_some, mask_normalize, mask_normalize, hshown]
  · have h : isAddressable r = true := Bool.or_eq_true_iff.mpr (.inr hform)
    have h' : isAddressable (String.ofList number) = true := by
      rw [isAddressable, hnumber, hform', Bool.or_true]
    have hsent : international? r = some (countryCode ++ normalize r) := by
      rw [international?_eq h, isInternational, not_international_of_mobile hform, if_neg Bool.false_ne_true]
    have hsent' : international? (String.ofList number) = some (countryCode ++ normalize (String.ofList number)) := by
      rw [international?_eq h', isInternational, hnumber, not_international_of_mobile hform', if_neg Bool.false_ne_true]
    have hlength := length_of_mobile hform
    have hlength' := length_of_mobile hform'
    refine ⟨h', hother, ?_, hshown, ?_⟩
    · rw [hsent, hsent']
      simpa using hother
    · have hback := (maskChars_inj (by omega) (by omega) hmask).2
      rw [hsent, hsent', Option.map_some, Option.map_some, mask_countryCode r (by omega),
        mask_countryCode _ (by rw [hnumber]; omega), hnumber, hback]

/-- Some digit differs from a character. -/
theorem exists_digit_ne (c : Char) : ∃ d, Text.isDigit d = true ∧ d ≠ c := by
  by_cases h : c = '0'
  · exact ⟨'1', by decide, by simp [h]⟩
  · exact ⟨'0', by decide, Ne.symm h⟩

theorem sameFormat_set (h : (hasInternationalForm cs || hasMobileForm cs) = true) (hi : 2 ≤ i)
    (hd : Text.isDigit d = true) : SameFormat cs (cs.set i d) := by
  rcases Bool.or_eq_true_iff.mp h with h | h
  · exact .inl ⟨h, hasInternationalForm_set h hi hd⟩
  · exact .inr ⟨h, hasMobileForm_set h hi hd⟩

/-- Unless a number has seven characters, some digit from the third character on is not shown. -/
theorem exists_hidden (h : (hasInternationalForm cs || hasMobileForm cs) = true) (hlength : cs.length ≠ 7) :
    ∃ i, 2 ≤ i ∧ i < cs.length ∧ (cs.length < 7 ∨ 3 ≤ i ∧ i + 4 < cs.length) := by
  have hmin : 3 ≤ cs.length := by
    rcases Bool.or_eq_true_iff.mp h with h | h
    · exact (length_of_international h).1
    · rw [length_of_mobile h]
      decide
  by_cases hshort : cs.length < 7
  · exact ⟨2, by omega, by omega, .inl hshort⟩
  · exact ⟨3, by omega, by omega, .inr (by omega)⟩

section
variable {r : String} (h : isAddressable r = true)
include h

theorem exists_looksLike_length (hlength : (normalize r).length ≠ 7) :
    ∃ r', LooksLike r r' ∧ (normalize r').length = (normalize r).length := by
  simp only [normalize, String.length_ofList] at hlength ⊢
  obtain ⟨i, hi, hin, hhidden⟩ := exists_hidden h hlength
  obtain ⟨d, hd, hne⟩ := exists_digit_ne (significant r.toList)[i]
  have hplain : significant ((significant r.toList).set i d) = (significant r.toList).set i d := by
    apply significant_of_digits (significant_idem r.toList)
    intro x hx
    rcases List.mem_or_eq_of_mem_set hx with hx | rfl
    · exact .inl hx
    · exact .inr hd
  have hother : (significant r.toList).set i d ≠ significant r.toList := by
    intro heq
    have hget := congrArg (·[i]?) heq
    simp [hin, hne] at hget
  refine ⟨_, looksLike hplain hother (sameFormat_set h hi hd) (maskChars_set hhidden), ?_⟩
  rw [String.toList_ofList, hplain, List.length_set]

/-- Of seven characters a number is shown as one more would be that has another digit behind the third. -/
theorem exists_looksLike_longer (hlength : (normalize r).length = 7) : ∃ r', LooksLike r r' := by
  simp only [normalize, String.length_ofList] at hlength
  have hform : hasInternationalForm (significant r.toList) = true := by
    rcases Bool.or_eq_true_iff.mp h with hform | hform
    · exact hform
    · exact absurd (hlength.symm.trans (length_of_mobile hform)) (by decide)
  obtain ⟨number, hnumber⟩ : ∃ number, number = (significant r.toList).take 3 ++ '0' :: (significant r.toList).drop 3 :=
    ⟨_, rfl⟩
  have hplain : significant number = number := by
    apply significant_of_digits (significant_idem r.toList)
    intro x hx
    rw [hnumber, List.mem_append, List.mem_cons] at hx
    rcases hx with hx | rfl | hx
    · exact .inl (List.mem_of_mem_take hx)
    · exact .inr (by decide)
    · exact .inl (List.mem_of_mem_drop hx)
  have hother : number ≠ significant r.toList := by
    intro heq
    have hlonger := congrArg List.length heq
    simp [hnumber, hlength] at hlonger
  refine ⟨_, looksLike hplain hother (.inl ⟨hform, ?_⟩) ?_⟩
  · exact hnumber ▸ hasInternationalForm_insert hform hlength (by decide)
  · exact hnumber ▸ maskChars_insert hlength

/-- For every text that can be addressed: it looks like another one, of another handset, wherever its number is
    shown masked, by itself or as messages are posted to it. If it has not seven characters, the other one may have as
    many; a number of seven is the only one of its length that is shown as it is. -/
theorem mask_shared : (∃ r', LooksLike r r') ∧
    ((∃ r', LooksLike r r' ∧ (normalize r').length = (normalize r).length) ↔ (normalize r).length ≠ 7) := by
  have hiff : (∃ r', LooksLike r r' ∧ (normalize r').length = (normalize r).length) ↔ (normalize r).length ≠ 7 := by
    refine ⟨?_, exists_looksLike_length h⟩
    rintro ⟨r', hlike, hsame⟩ hlength
    exact hlike.other (normalize_eq_of_mask hlength (hsame.trans hlength) hlike.shown)
  refine ⟨?_, hiff⟩
  by_cases hlength : (normalize r).length = 7
  · exact exists_looksLike_longer h hlength
  · obtain ⟨r', hlike, -⟩ := exists_looksLike_length h hlength
    exact ⟨r', hlike⟩

end

theorem mask_shared_sample : isAddressable "138-1234-5678" = true ∧ (normalize "138-1234-5678").length = 11 ∧
    ∃ r', LooksLike "138-1234-5678" r' ∧ (normalize r').length = 11 := by
  have h : isAddressable "138-1234-5678" = true := by decide +kernel
  have hlength : (normalize "138-1234-5678").length = 11 := by decide +kernel
  have hother := (mask_shared h).2.mpr (by rw [hlength]; decide)
  rw [hlength] at hother
  exact ⟨h, hlength, hother⟩

/-- The stars hide nothing: no other number of seven characters is shown like this one. -/
theorem shown_in_full : isAddressable "+123456" = true ∧ mask "+123456" = "+12****3456" ∧
    ¬ ∃ r', isAddressable r' = true ∧ normalize r' ≠ normalize "+123456" ∧
      (normalize r').length = (normalize "+123456").length ∧ mask r' = mask "+123456" := by
  have hlength : (normalize "+123456").length = 7 := by decide +kernel
  refine ⟨by decide +kernel, by decide +kernel, ?_⟩
  rintro ⟨r', -, hne, hsame, hmask⟩
  exact hne (normalize_eq_of_mask hlength (hsame.trans hlength) hmask)

end Passcode.Phone

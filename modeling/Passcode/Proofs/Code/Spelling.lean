/-
  Passcode.Proofs.Code.Spelling — when two texts for one handset share a code.

  A text loses its formatting before anything is kept for it, and keeps its format. A provider addresses
  numbers in international format, and puts the country code in front of a bare mobile number. So the
  same handset can be asked for in two ways that are told apart by all that goes by the key of a code: bare,
  and with its country code.

  Proved: codes are shared exactly between texts that address one number in one format, whatever the store
  and the sender (`spellings_share_codes`). In the other format the handset gets a second code within the
  resend cooldown (`one_handset_two_codes`).
-/

import Passcode.Proofs.Code.History
import Passcode.Proofs.Phone

namespace Passcode

namespace CodeService

variable {σ : Type}

/-- What a code service makes of two texts that it takes for a scope, and passes on as two recipients. -/
structure Spelled (service : CodeService σ) (scope a b recipient recipient' : String) : Prop where
  /-- There is one key for texts that address one number in one format, -/
  key : codeKey scope recipient = codeKey scope recipient' ↔
    Phone.international? recipient = Phone.international? recipient' ∧
      Phone.isInternational recipient = Phone.isInternational recipient'
  /-- and they are one recipient in whatever the service does. -/
  shared : codeKey scope recipient = codeKey scope recipient' →
    (∀ fresh ctx, service.send fresh ctx scope a = service.send fresh ctx scope b) ∧
      ∀ ctx input, service.verify ctx scope a input = service.verify ctx scope b input
  /-- Where one number has two keys, one text has the country code in front, and the other has not. -/
  apart : Phone.international? recipient = Phone.international? recipient' →
    codeKey scope recipient ≠ codeKey scope recipient' →
      recipient' = Phone.countryCode ++ recipient ∨ recipient = Phone.countryCode ++ recipient'
  /-- Every bare number has a second key. -/
  bare : Phone.isInternational recipient = false →
    check scope (Phone.countryCode ++ recipient) = .ok (Phone.countryCode ++ recipient) ∧
      Phone.international? (Phone.countryCode ++ recipient) = Phone.international? recipient ∧
      codeKey scope (Phone.countryCode ++ recipient) ≠ codeKey scope recipient

/-- For every service, scope and texts that it takes: the texts share a code, with its resend cooldown and its
    attempts, if and only if they address one number in one format. -/
theorem spellings_share_codes (service : CodeService σ) {scope a b recipient recipient' : String}
    (ha : check scope a = .ok recipient) (hb : check scope b = .ok recipient') :
    service.Spelled scope a b recipient recipient' := by
  obtain ⟨hscope, hva, rfl⟩ := check_eq_ok.mp ha
  obtain ⟨-, hvb, rfl⟩ := check_eq_ok.mp hb
  have hkey : ∀ x y, codeKey scope x = codeKey scope y ↔ x = y := by simp [codeKey]
  have hnumber := Phone.international?_eq_iff hva hvb
  refine ⟨?_, fun hsame => ?_, fun hone hne => ?_, fun hbare => ?_⟩
  · rw [hkey]
    refine ⟨fun h => ⟨by rw [h], by rw [h]⟩, fun hboth => ?_⟩
    obtain ⟨hone, hformat⟩ := hboth
    rw [Phone.international?_normalize, Phone.international?_normalize, hnumber] at hone
    rw [Phone.isInternational_normalize, Phone.isInternational_normalize] at hformat
    rcases hone with h | ⟨hbare, h⟩ | ⟨hbare, h⟩
    · exact h
    · have hcode := Phone.isInternational_of_countryCode hva hbare h
      rw [← hformat, hbare] at hcode
      cases hcode
    · have hcode := Phone.isInternational_of_countryCode hvb hbare h
      rw [hformat, hbare] at hcode
      cases hcode
  · rw [hkey] at hsame
    rw [← hsame] at hb
    refine ⟨fun fresh ctx => ?_, fun ctx input => ?_⟩
    · simp only [send, ha, hb]
    · simp only [verify, ha, hb]
  · rw [Phone.international?_normalize, Phone.international?_normalize, hnumber] at hone
    rcases hone with h | ⟨-, h⟩ | ⟨-, h⟩
    · exact absurd (by rw [h]) hne
    · exact Or.inl h
    · exact Or.inr h
  · rw [Phone.isInternational_normalize] at hbare
    have hcode := Phone.isInternational_countryCode hva hbare
    have hvalid : Phone.isAddressable (Phone.countryCode ++ Phone.normalize a) = true := by
      rw [Phone.isAddressable, Bool.or_eq_true]
      exact Or.inl hcode
    refine ⟨check_eq_ok.mpr ⟨hscope, hvalid, (Phone.normalize_countryCode a).symm⟩, ?_, ?_⟩
    · rw [Phone.international?_normalize, eq_comm, Phone.international?_eq_iff hva hvalid]
      exact Or.inr (Or.inl ⟨hbare, Phone.normalize_countryCode a⟩)
    · rw [Ne, hkey]
      intro h
      rw [h, Phone.isInternational_normalize, hbare] at hcode
      cases hcode

/-! ### A handset that is asked for in both formats -/

/-- A service with codes in the process, and a provider that takes every message. -/
def sampleService : CodeService CodeBook := ⟨CodeBook.asStore (.ofSettings {}), fun _ _ => return .ok (), {}⟩

theorem spellings_share_codes_sample :
    check "login" "138 1234 5678" = .ok "13812345678" ∧ check "login" "138-1234-5678" = .ok "13812345678" ∧
    sampleService.Spelled "login" "138 1234 5678" "138-1234-5678" "13812345678" "13812345678" := by
  have hblanks : check "login" "138 1234 5678" = .ok "13812345678" := by decide +kernel
  have hhyphens : check "login" "138-1234-5678" = .ok "13812345678" := by decide +kernel
  exact ⟨hblanks, hhyphens, spellings_share_codes sampleService hblanks hhyphens⟩

/-- With a resend cooldown of a minute, a handset gets two codes at one instant. -/
theorem one_handset_two_codes :
    let fresh : Entropy := ⟨fun _ => 0⟩
    let bare := "13812345678"
    let prefixed := "+8613812345678"
    let first := (sampleService.send fresh .unbounded "login" bare).run 0 {}
    let second := (sampleService.send fresh .unbounded "login" prefixed).run first.time first.state
    check "login" bare = .ok bare ∧ check "login" prefixed = .ok prefixed ∧
    Phone.international? bare = Phone.international? prefixed ∧ codeKey "login" bare ≠ codeKey "login" prefixed ∧
    first.value = .ok ⟨600, 60⟩ ∧ second.value = .ok ⟨600, 60⟩ ∧ second.time = 0 := by
  decide +kernel

end CodeService

end Passcode

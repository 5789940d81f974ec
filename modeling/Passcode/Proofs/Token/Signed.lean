/-
  Passcode.Proofs.Token.Signed — a token that was signed here is opened with the same secret.

  Header and claims are base64 and so is the signature: none of them holds a point, and a token comes
  apart where it was put together (`splitAtLastPoint_append`). The claims read back, so what is left
  to judge is the signature, when another secret was used (`read_sign_under`), and what the claims say
  (`read_sign`).

  Of any token, signed here or not, the rules judge nothing but what it says (`read_eq`); a rule about the
  issuer lets pass what names no issuer (`check_issuer`).
-/

import Passcode.Proofs.Bytes.Base64
import Passcode.Proofs.Json.RoundTrip
import Passcode.Proofs.Text.Pattern
import Passcode.Token.Signed

namespace Passcode.Token

theorem splitAtLastPoint_append (a : String) {b : String} (hb : '.' ∉ b.toList) :
    splitAtLastPoint (a ++ "." ++ b) = some (a, b) := by
  have hl : (a ++ "." ++ b).toList = a.toList ++ '.' :: b.toList := by simp
  have hr : (a.toList ++ '.' :: b.toList).reverse = b.toList.reverse ++ '.' :: a.toList.reverse := by simp
  have hafter : ((a.toList ++ '.' :: b.toList).reverse.takeWhile (· ≠ '.')).reverse = b.toList := by
    rw [hr, Text.takeWhile_append_cons (by simpa using hb), List.reverse_reverse]
  unfold splitAtLastPoint
  simp only [hl, hafter]
  have hlen : b.toList.length < (a.toList ++ '.' :: b.toList).length := by simp; omega
  have htake : (a.toList ++ '.' :: b.toList).length - b.toList.length - 1 = a.toList.length := by simp; omega
  rw [if_pos hlen, htake, List.take_left, String.ofList_toList, String.ofList_toList]

theorem part_encodeText {v : Json} (h : v.isPlain = true) : part (Base64.encodeText v.text) = .ok v := by
  simp only [part, Base64.bytes?_encodeText, Json.parseBytes?_text h]

theorem point_not_mem_encodeText (s : String) : '.' ∉ (Base64.encodeText s).toList := by
  rw [Base64.encodeText, String.toList_ofList]
  exact Base64.point_not_mem_encode _

theorem point_not_mem_signature (secret text : String) : '.' ∉ (signature secret text).toList := by
  rw [signature, String.toList_ofList]
  exact Base64.point_not_mem_encode _

/-! ## What is judged -/

/-- The claims in a token whose signature is right. -/
def payload (secret token : String) : Except Refusal Json := do
  let some (message, given) := splitAtLastPoint token | .error .invalidToken
  let some (header, payload) := splitAtLastPoint message | .error .invalidToken
  let some algorithm := algorithm? (← part header) | .error .json
  if algorithm ≠ "HS256" then .error .invalidAlgorithm
  if given ≠ signature secret message then .error .invalidSignature
  part payload

/-- Only the claims themselves are judged by the rules. -/
theorem read_eq {α : Type} (rules : Rules) (now : Int) (decode : Json → Option α) (token : String) :
    read rules now decode token = (do
      let value ← payload rules.secret token
      let some claims := decode value | .error .json
      let some registered := Registered.ofJson? value | .error .json
      rules.check now registered
      return claims) := by
  unfold read payload
  cases splitAtLastPoint token with
  | none => rfl
  | some parts =>
    dsimp only
    cases splitAtLastPoint parts.1 with
    | none => rfl
    | some heads =>
      dsimp only
      cases part heads.1 with
      | error e => rfl
      | ok header =>
        simp only [bind, Except.bind]
        cases algorithm? header with
        | none => rfl
        | some algorithm =>
          dsimp only
          split
          · rfl
          · split <;> rfl

/-- What is opened is what the claims say, and the rules have nothing against them. -/
theorem read_eq_ok {α : Type} {rules : Rules} {now : Int} {decode : Json → Option α} {token : String} {a : α} :
    read rules now decode token = .ok a ↔
      ∃ value registered, payload rules.secret token = .ok value ∧ decode value = some a ∧
        Registered.ofJson? value = some registered ∧ rules.check now registered = .ok () := by
  rw [read_eq]
  cases payload rules.secret token with
  | error e => simp [bind, Except.bind]
  | ok value =>
    cases hd : decode value with
    | none => simp [bind, Except.bind, hd]
    | some claims =>
      cases hg : Registered.ofJson? value with
      | none => simp [bind, Except.bind, hd, hg]
      | some registered =>
        cases hc : rules.check now registered with
        | error e => simp [bind, Except.bind, hd, hg, hc]
        | ok done => simp [bind, Except.bind, pure, Except.pure, hd, hg, hc]

/-- A rule about the issuer asks for it among those that are named, and for nothing when none is named. -/
theorem check_issuer {secret : String} {expiry : ExpiryRule} {issuer : String} {now : Int} {r : Registered} :
    Rules.check ⟨secret, expiry, some issuer⟩ now r = .ok () ↔
      Rules.check ⟨secret, expiry, none⟩ now r = .ok () ∧ ∀ named ∈ r.issuers, issuer ∈ named := by
  unfold Rules.check
  dsimp only
  by_cases hmissing : expiry = .demanded ∧ r.expiry = none
  · simp [hmissing]
  · rw [if_neg hmissing, if_neg hmissing]
    by_cases hover : expiry = .checked ∧ (r.expiry.any fun e => decide ((e : Int) < now)) = true
    · rw [if_pos hover, if_pos hover]
      simp
    · rw [if_neg hover, if_neg hover]
      cases r.issuers with
      | none => simp
      | some named =>
        by_cases hnamed : issuer ∈ named
        · simp [hnamed]
        · simp [hnamed]

theorem hasAudience_of_check {rules : Rules} {now : Int} {r : Registered} (h : rules.check now r = .ok ()) :
    r.hasAudience = false := by
  unfold Rules.check at h
  cases ha : r.hasAudience with
  | false => rfl
  | true =>
    simp only [ha, if_true] at h
    split at h
    · cases h
    · split at h
      · cases h
      · split at h
        · cases h
        · cases h

/-! ## Tokens that were signed here -/

/-- The claims of a token that was signed here are taken from it when the signatures under the two secrets
    agree. -/
theorem payload_sign (secret own : String) {claims : Json} (h : claims.isPlain = true) :
    payload own (sign secret claims) =
      if signature secret (message claims) ≠ signature own (message claims) then .error .invalidSignature
      else .ok claims := by
  have hs : splitAtLastPoint (sign secret claims) = some (message claims, signature secret (message claims)) :=
    splitAtLastPoint_append _ (point_not_mem_signature _ _)
  have hm : splitAtLastPoint (message claims) =
      some (Base64.encodeText header.text, Base64.encodeText claims.text) :=
    splitAtLastPoint_append _ (point_not_mem_encodeText _)
  have hh : part (Base64.encodeText header.text) = .ok header := part_encodeText rfl
  unfold payload
  rw [hs]
  dsimp only
  rw [hm]
  dsimp only
  rw [hh, part_encodeText h]
  rfl

/-- Opening a token that was signed here compares the signatures under the two secrets, and then judges
    the claims. -/
theorem read_sign_under {α : Type} (rules : Rules) (secret : String) (now : Int) (decode : Json → Option α)
    {claims : Json} (h : claims.isPlain = true) : read rules now decode (sign secret claims) = (do
      if signature secret (message claims) ≠ signature rules.secret (message claims) then .error .invalidSignature
      let some c := decode claims | .error .json
      let some registered := Registered.ofJson? claims | .error .json
      rules.check now registered
      return c) := by
  rw [read_eq, payload_sign secret rules.secret h]
  by_cases hs : signature secret (message claims) ≠ signature rules.secret (message claims)
  · rw [if_pos hs, if_pos hs]
    rfl
  · rw [if_neg hs, if_neg hs]
    rfl

/-- Opening a token that was signed with the same secret judges its claims. -/
theorem read_sign {α : Type} (rules : Rules) (now : Int) (decode : Json → Option α) {claims : Json}
    (h : claims.isPlain = true) : read rules now decode (sign rules.secret claims) = (do
      let some c := decode claims | .error .json
      let some registered := Registered.ofJson? claims | .error .json
      rules.check now registered
      return c) := by
  rw [read_sign_under rules rules.secret now decode h, if_neg (not_not_intro rfl)]

/-- What is opened is what the claims say, whichever secret they were signed with. -/
theorem decode_of_read_sign {α : Type} {rules : Rules} {secret : String} {now : Int} {decode : Json → Option α}
    {claims : Json} (h : claims.isPlain = true) {a : α}
    (hr : read rules now decode (sign secret claims) = .ok a) : decode claims = some a := by
  obtain ⟨value, registered, hpayload, hd, -, -⟩ := read_eq_ok.mp hr
  rw [payload_sign secret rules.secret h] at hpayload
  split at hpayload
  · cases hpayload
  · cases hpayload
    exact hd

end Passcode.Token

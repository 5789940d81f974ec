/-
  Passcode.Proofs.Session.Credentials — the credentials that a service signs, presented to it again.

  A credential is judged by its signature, by its expiry and, if it is an access credential, by the
  client that presents it.

  Proved: what is accepted says what was signed (`validateAccess_signed`, `validateRefresh_claims`); and what a
  service has signed it reads as the same claims until they expire (`validateAccess_sign`,
  `validateRefresh_sign`), but no longer (`validateAccess_expired`) and not from another client
  (`validateAccess_stranger`).
-/

import Passcode.Proofs.Token.Claims
import Passcode.Proofs.Token.Signed
import Passcode.Session.Service

namespace Passcode

open Json (Fits)

namespace TokenSettings

/-! ## Access credentials -/

/-- The claims of an access credential that is signed at an instant. -/
def accessClaims (c : TokenSettings) (user : Int) (session fingerprint : String) (now : Int) : AccessClaims :=
  ⟨user, session, fingerprint, now, now + c.accessExpiry.toInt, c.issuer⟩

theorem signAccess_eq (c : TokenSettings) (user : Int) (session fingerprint : String) (now : Int) :
    c.signAccess user session fingerprint now =
      Token.sign c.accessSecret (c.accessClaims user session fingerprint now).toJson := rfl

theorem validateAccess_eq (c : TokenSettings) (token fingerprint : String) (now : Int) :
    c.validateAccess token fingerprint now =
      match Token.read ⟨c.accessSecret, .demanded, c.issuer⟩ now AccessClaims.ofJson? token with
      | .error _ => .error .invalidToken
      | .ok claims =>
        if claims.expiresAt ≤ now then .error .invalidToken
        else if claims.fingerprint ≠ fingerprint then .error .fingerprintMismatch
        else .ok claims := by
  unfold validateAccess open?
  cases Token.read ⟨c.accessSecret, .demanded, c.issuer⟩ now AccessClaims.ofJson? token <;> rfl

/-- Claims are accepted that were read, have not expired and belong to the client. -/
theorem validateAccess_eq_ok {c : TokenSettings} {token fingerprint : String} {now : Int} {claims : AccessClaims} :
    c.validateAccess token fingerprint now = .ok claims ↔
      Token.read ⟨c.accessSecret, .demanded, c.issuer⟩ now AccessClaims.ofJson? token = .ok claims ∧
        now < claims.expiresAt ∧ claims.fingerprint = fingerprint := by
  rw [validateAccess_eq]
  cases Token.read ⟨c.accessSecret, .demanded, c.issuer⟩ now AccessClaims.ofJson? token with
  | error e => simp
  | ok found =>
    dsimp only
    constructor
    · intro h
      split at h
      · cases h
      · split at h
        · cases h
        · rename_i hlive hown
          cases h
          exact ⟨rfl, by omega, not_not.mp hown⟩
    · rintro ⟨⟨⟩, hlive, hown⟩
      rw [if_neg (by omega), if_neg (not_not_intro hown)]

/-- An access credential that is accepted says what was signed. -/
theorem validateAccess_signed {c : TokenSettings} {user issued now : Int} {session client fingerprint : String}
    {claims : AccessClaims}
    (h : c.validateAccess (c.signAccess user session client issued) fingerprint now = .ok claims) :
    claims = c.accessClaims user session client issued := by
  have hfound := Token.decode_of_read_sign (isPlain_access _) (validateAccess_eq_ok.mp h).1
  rw [ofJson?_access] at hfound
  split at hfound
  · cases hfound
    rfl
  · cases hfound

/-- What a service has signed, with an expiry and its issuer, it opens. -/
theorem read_signed {α : Type} {c : TokenSettings} (secret : String) {decode : Json → Option α} {claims : Json} {a : α}
    {expiry : Nat} (now : Int) (hplain : claims.isPlain = true) (hd : decode claims = some a)
    (hg : Token.Registered.ofJson? claims = some ⟨some expiry, c.issuer.map ([·]), false⟩) :
    Token.read ⟨secret, .demanded, c.issuer⟩ now decode (Token.sign secret claims) = .ok a := by
  rw [Token.read_sign ⟨secret, .demanded, c.issuer⟩ now _ hplain, hd, hg]
  cases hc : c.issuer <;> simp [Token.Rules.check, bind, Except.bind, pure, Except.pure]

theorem read_signed_access {c : TokenSettings} {user issued : Int} (session client : String) (hu : Fits user)
    (hi : Fits issued) (he : Fits (issued + c.accessExpiry.toInt)) (h0 : 0 ≤ issued + c.accessExpiry.toInt) (now : Int) :
    Token.read ⟨c.accessSecret, .demanded, c.issuer⟩ now AccessClaims.ofJson? (c.signAccess user session client issued) =
      .ok (c.accessClaims user session client issued) := by
  refine read_signed c.accessSecret now (isPlain_access _) ?_ (registered_access h0 he)
  rw [ofJson?_access]
  exact if_pos ⟨hu, hi, he⟩

/-- An access credential, presented by its own client before it expires, is accepted. -/
theorem validateAccess_sign {c : TokenSettings} {user issued now : Int} {session client : String} (hu : Fits user)
    (hi : Fits issued) (he : Fits (issued + c.accessExpiry.toInt)) (h0 : 0 ≤ now)
    (hlive : now < issued + c.accessExpiry.toInt) :
    c.validateAccess (c.signAccess user session client issued) client now =
      .ok (c.accessClaims user session client issued) := by
  have hr := read_signed_access session client hu hi he (by omega) now
  have hlate : ¬ (c.accessClaims user session client issued).expiresAt ≤ now := Int.not_le.mpr hlive
  have hown : ¬ (c.accessClaims user session client issued).fingerprint ≠ client := fun h => h rfl
  rw [validateAccess_eq, hr]
  dsimp only
  rw [if_neg hlate, if_neg hown]

section
variable {c : TokenSettings} {user issued now : Int} {session fingerprint : String}

/-- Whatever becomes of an expired credential, it is not accepted, and nobody learns why. -/
theorem validateAccess_expired (hexp : issued + c.accessExpiry.toInt ≤ now) (client : String) :
    c.validateAccess (c.signAccess user session fingerprint issued) client now = .error .invalidToken := by
  rw [validateAccess_eq]
  split
  · rfl
  · rename_i claims hread
    have hclaims := Token.decode_of_read_sign (isPlain_access _) hread
    rw [ofJson?_access] at hclaims
    split at hclaims
    · cases hclaims
      exact if_pos hexp
    · cases hclaims

/-- A credential that has not expired is refused to other clients as another client's. -/
theorem validateAccess_stranger (hu : Fits user) (hi : Fits issued) (he : Fits (issued + c.accessExpiry.toInt))
    (h0 : 0 ≤ now) (hlive : now < issued + c.accessExpiry.toInt) {client : String} (hc : client ≠ fingerprint) :
    c.validateAccess (c.signAccess user session fingerprint issued) client now = .error .fingerprintMismatch := by
  have hread := read_signed_access session fingerprint hu hi he (by omega) now
  have hlate : ¬ (c.accessClaims user session fingerprint issued).expiresAt ≤ now := Int.not_le.mpr hlive
  have hother : (c.accessClaims user session fingerprint issued).fingerprint ≠ client := fun h => hc h.symm
  rw [validateAccess_eq, hread]
  dsimp only
  rw [if_neg hlate, if_pos hother]

end

/-! ## Refresh credentials -/

theorem validateRefresh_eq (c : TokenSettings) (token : String) (now : Int) : c.validateRefresh token now =
    match Token.read ⟨c.refreshSecret, .demanded, c.issuer⟩ now RefreshClaims.ofJson? token with
    | .error _ => .error .invalidToken
    | .ok claims => if claims.expiresAt ≤ now then .error .invalidToken else .ok claims := by
  unfold validateRefresh open?
  cases Token.read ⟨c.refreshSecret, .demanded, c.issuer⟩ now RefreshClaims.ofJson? token <;> rfl

theorem validateRefresh_error {c : TokenSettings} {token : String} {now : Int} {e : TokenFault}
    (h : c.validateRefresh token now = .error e) : e = .invalidToken := by
  rw [validateRefresh_eq] at h
  split at h
  · exact (Except.error.inj h).symm
  · split at h
    · exact (Except.error.inj h).symm
    · cases h

/-- Claims are accepted that were read and have not expired. -/
theorem validateRefresh_eq_ok {c : TokenSettings} {token : String} {now : Int} {claims : RefreshClaims} :
    c.validateRefresh token now = .ok claims ↔
      Token.read ⟨c.refreshSecret, .demanded, c.issuer⟩ now RefreshClaims.ofJson? token = .ok claims ∧
        now < claims.expiresAt := by
  rw [validateRefresh_eq]
  cases Token.read ⟨c.refreshSecret, .demanded, c.issuer⟩ now RefreshClaims.ofJson? token with
  | error e => simp
  | ok found =>
    dsimp only
    constructor
    · intro h
      split at h
      · cases h
      · cases h
        exact ⟨rfl, by omega⟩
    · rintro ⟨⟨⟩, hlive⟩
      rw [if_neg (by omega)]

/-- A refresh credential that is accepted says what was signed, and has not expired. -/
theorem validateRefresh_claims {c : TokenSettings} {user issued now : Int} {session : String} {claims : RefreshClaims}
    (h : c.validateRefresh (c.signRefresh user session issued) now = .ok claims) :
    claims = ⟨user, session, issued, issued + c.refreshExpiry.toInt, c.issuer⟩ ∧ now < claims.expiresAt := by
  obtain ⟨hread, hlive⟩ := validateRefresh_eq_ok.mp h
  have hfound := Token.decode_of_read_sign (isPlain_refresh _) hread
  rw [ofJson?_refresh] at hfound
  split at hfound
  · cases hfound
    exact ⟨rfl, hlive⟩
  · cases hfound

theorem validateRefresh_signed {c : TokenSettings} {user issued now : Int} {session : String} {claims : RefreshClaims}
    (h : c.validateRefresh (c.signRefresh user session issued) now = .ok claims) :
    claims.session = session ∧ now < issued + c.refreshExpiry.toInt := by
  obtain ⟨rfl, hlive⟩ := validateRefresh_claims h
  exact ⟨rfl, hlive⟩

/-- A refresh credential is accepted until it expires. -/
theorem validateRefresh_sign {c : TokenSettings} {user issued now : Int} {session : String} (hu : Fits user)
    (hi : Fits issued) (he : Fits (issued + c.refreshExpiry.toInt)) (h0 : 0 ≤ now) (hlive : now < issued + c.refreshExpiry.toInt) :
    c.validateRefresh (c.signRefresh user session issued) now =
      .ok ⟨user, session, issued, issued + c.refreshExpiry.toInt, c.issuer⟩ := by
  have hd : RefreshClaims.ofJson?
      (RefreshClaims.mk user session issued (issued + c.refreshExpiry.toInt) c.issuer).toJson =
        some ⟨user, session, issued, issued + c.refreshExpiry.toInt, c.issuer⟩ := by
    rw [ofJson?_refresh]
    exact if_pos ⟨hu, hi, he⟩
  have hexp : (0 : Int) ≤ issued + c.refreshExpiry.toInt := by omega
  have hread := read_signed c.refreshSecret now (isPlain_refresh _) hd (registered_refresh hexp he)
  rw [validateRefresh_eq, signRefresh, hread]
  exact if_neg (Int.not_le.mpr hlive)

end TokenSettings

end Passcode

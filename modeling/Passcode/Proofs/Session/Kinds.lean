/-
  Passcode.Proofs.Session.Kinds — access and refresh credentials are not taken for each other.

  A refresh credential does not say which client it belongs to, so it reads as no access credential,
  whatever its signature. An access credential says all that a refresh credential says: only the secret
  that it was signed with tells it apart. The two secrets have to differ as texts, but as keys of the
  signature they may be one (`nul_at_end_interchanges`).

  Proved: every access credential that a service hands out was signed with its access secret
  (`HandsOut.eq_signAccess`); under one key access credentials pass as refresh credentials
  (`validateRefresh_signAccess_sameKey`); and under two keys neither kind passes as the other, short of a
  collision of the hash function on two messages that are made of the secrets and the credential
  (`credentials_kept_apart`).
-/

import Passcode.Proofs.Session.Lineage
import Passcode.Proofs.Token.Secret

namespace Passcode

open Json (Fits)
open Sha256 (Collision)
open Token (SameKey hashedLast signedText)

namespace TokenSettings

variable {c : TokenSettings} {user issued : Int} {session fingerprint : String}

/-- A refresh credential is no access credential, of whatever client. -/
theorem validateAccess_signRefresh (client : String) (now : Int) :
    c.validateAccess (c.signRefresh user session issued) client now = .error .invalidToken := by
  cases hr : Token.read ⟨c.accessSecret, .demanded, c.issuer⟩ now AccessClaims.ofJson?
      (c.signRefresh user session issued) with
  | error e =>
    rw [validateAccess_eq, hr]
  | ok claims =>
    have hclaims := Token.decode_of_read_sign (isPlain_refresh _) hr
    rw [ofJson?_access_of_refresh] at hclaims
    cases hclaims

/-- With two keys an access credential is no refresh credential, short of a collision. -/
theorem validateRefresh_signAccess (distinct : ¬ SameKey c.accessSecret c.refreshSecret) (now : Int) :
    let token := c.signAccess user session fingerprint issued
    c.validateRefresh token now = .error .invalidToken ∨
      Collision (hashedLast c.accessSecret (signedText token)) (hashedLast c.refreshSecret (signedText token)) := by
  intro token
  rcases Token.read_sign_refused ⟨c.refreshSecret, .demanded, c.issuer⟩ distinct now RefreshClaims.ofJson?
    (isPlain_access (c.accessClaims user session fingerprint issued)) with hread | hcollision
  · left
    have hread : Token.read ⟨c.refreshSecret, .demanded, c.issuer⟩ now RefreshClaims.ofJson? token =
        .error .invalidSignature := hread
    rw [validateRefresh_eq, hread]
  · right
    exact hcollision

/-- With one key an access credential is a refresh credential as long as it lives. -/
theorem validateRefresh_signAccess_sameKey (shared : SameKey c.accessSecret c.refreshSecret) (hu : Fits user)
    (hi : Fits issued) (he : Fits (issued + c.accessExpiry.toInt)) {now : Int} (h0 : 0 ≤ now)
    (hlive : now < issued + c.accessExpiry.toInt) :
    c.validateRefresh (c.signAccess user session fingerprint issued) now =
      .ok ⟨user, session, issued, issued + c.accessExpiry.toInt, c.issuer⟩ := by
  have hd : RefreshClaims.ofJson? (c.accessClaims user session fingerprint issued).toJson =
      some ⟨user, session, issued, issued + c.accessExpiry.toInt, c.issuer⟩ := by
    rw [ofJson?_refresh_of_access, ofJson?_refresh]
    exact if_pos ⟨hu, hi, he⟩
  have hexp : (0 : Int) ≤ issued + c.accessExpiry.toInt := by omega
  have hopened := read_signed c.refreshSecret now (isPlain_access _) hd (registered_access hexp he)
  have hread := (Token.read_sign_sameKey ⟨c.refreshSecret, .demanded, c.issuer⟩ shared now
    RefreshClaims.ofJson? (c.accessClaims user session fingerprint issued).toJson).trans hopened
  rw [validateRefresh_eq, signAccess_eq, hread]
  exact if_neg (Int.not_le.mpr hlive)

end TokenSettings

namespace SessionService

variable {σ : Type} {service : SessionService σ} {token : String}

/-- An access credential that a service hands out: to whom it may be, at whatever time, and in whatever state of
    its repository. -/
inductive HandsOut (service : SessionService σ) : String → Prop where
  | issued (fresh : Entropy) (user : Int) (fingerprint : String) (now : Int) :
      HandsOut service (service.settings.issue fresh user fingerprint now).accessToken
  | refreshed {ctx : Context} {credential fingerprint token : String} {now : Int} {t : Nat} {s : σ}
      (h : ((service.refresh ctx credential fingerprint now).run t s).value = .ok token) : HandsOut service token
  | renewed {claims : AccessClaims} {now : Int} {token : String} (h : service.settings.renew claims now = some token) :
      HandsOut service token

theorem HandsOut.eq_signAccess (h : HandsOut service token) :
    ∃ user session fingerprint issued, token = service.settings.signAccess user session fingerprint issued := by
  cases h with
  | issued fresh user fingerprint now => exact ⟨user, _, fingerprint, now, rfl⟩
  | @refreshed ctx credential fingerprint _ now t s h =>
    obtain ⟨claims, -, -, hnew⟩ := refresh_eq_ok.mp h
    exact ⟨claims.user, claims.session, fingerprint, now, hnew.symm⟩
  | @renewed claims now _ h =>
    unfold TokenSettings.renew at h
    split at h
    · exact ⟨claims.user, claims.session, claims.fingerprint, now, (Option.some.inj h).symm⟩
    · cases h

/-- For every service, whatever its repository: with two secrets that are two keys of the signature, an access
    credential of the service is refused as a refresh credential, and the repository is not asked, unless the
    two messages that are hashed last for its two signatures, which differ, have one hash. A refresh credential
    of the service is refused as an access credential, whatever the secrets. -/
theorem credentials_kept_apart (service : SessionService σ) (ctx : Context) (client : String) (now : Int) :
    (¬ SameKey service.settings.accessSecret service.settings.refreshSecret → ∀ token, HandsOut service token →
      service.refresh ctx token client now = pure (.error (.token .invalidToken)) ∨
        Collision (hashedLast service.settings.accessSecret (signedText token))
          (hashedLast service.settings.refreshSecret (signedText token))) ∧
    (∀ (fresh : Entropy) (user : Int) (fingerprint : String) (issued : Int),
      let token := (service.settings.issue fresh user fingerprint issued).refreshToken
      service.settings.validateAccess token client now = .error .invalidToken ∧
        service.authenticate ctx token client now = pure (.error (.token .invalidToken))) := by
  constructor
  · intro distinct token htoken
    obtain ⟨user, session, fingerprint, issued, rfl⟩ := htoken.eq_signAccess
    rcases TokenSettings.validateRefresh_signAccess distinct now with hrefused | hcollision
    · left
      rw [refresh, hrefused]
    · right
      exact hcollision
  · intro fresh user fingerprint issued token
    have hrefused : service.settings.validateAccess token client now = .error .invalidToken :=
      TokenSettings.validateAccess_signRefresh client now
    exact ⟨hrefused, by rw [authenticate, hrefused]⟩

/-- The first credentials of a service with the secrets for development. -/
def developmentPair : TokenPair := TokenSettings.issue {} ⟨fun _ => 0⟩ 7 "browser" 0

theorem developmentPair_no_collision :
    ¬ Collision (hashedLast builtinAccessSecret (signedText developmentPair.accessToken))
      (hashedLast builtinRefreshSecret (signedText developmentPair.accessToken)) := by
  have hne : Sha256.hash (hashedLast builtinAccessSecret (signedText developmentPair.accessToken)) ≠
      Sha256.hash (hashedLast builtinRefreshSecret (signedText developmentPair.accessToken)) := by
    decide +kernel
  exact fun h => hne h.hash_eq

theorem credentials_kept_apart_sample :
    ¬ SameKey builtinAccessSecret builtinRefreshSecret ∧
    HandsOut (onSite {} {}) developmentPair.accessToken ∧
    (onSite {} {}).refresh .unbounded developmentPair.accessToken "browser" 60 =
      pure (.error (.token .invalidToken)) ∧
    (onSite {} {}).authenticate .unbounded developmentPair.refreshToken "browser" 60 =
      pure (.error (.token .invalidToken)) := by
  have distinct : ¬ SameKey builtinAccessSecret builtinRefreshSecret := by decide +kernel
  have hout : HandsOut (onSite {} {}) developmentPair.accessToken := .issued _ _ _ _
  obtain ⟨haccess, hrefresh⟩ := credentials_kept_apart (onSite {} {}) .unbounded "browser" 60
  exact ⟨distinct, hout, (haccess distinct _ hout).resolve_right developmentPair_no_collision,
    (hrefresh ⟨fun _ => 0⟩ 7 "browser" 0).2⟩

/-! ## One key -/

/-- With one key the access credential of a session that is not revoked is exchanged like its refresh credential,
    to any client. -/
theorem refresh_access_sameKey (settings : TokenSettings) {cache : CacheSettings} {ctx : Context} {m : Moment}
    {k : Keyspace} {a : Site.Timing} {user issued : Int} {session owner : String}
    (shared : SameKey settings.accessSecret settings.refreshSecret) (hu : Fits user) (hi : Fits issued)
    (he : Fits (issued + settings.accessExpiry.toInt)) (h0 : 0 ≤ m.seconds)
    (hlive : m.seconds < issued + settings.accessExpiry.toInt) (hin : m.Answers cache ctx a)
    (hk : k.get? (m.servedAt a) (cache.key (revocationKey session)) = none) (client : String) :
    ((onSite settings cache).outcome m k
        (.refresh ctx (settings.signAccess user session owner issued) client)).value =
      .refreshed (.ok (settings.signAccess user session client m.seconds)) :=
  refresh_valid (TokenSettings.validateRefresh_signAccess_sameKey shared hu hi he h0 hlive) hin hk client

/-- Secrets that differ in a NUL at the end. -/
def paddedSecrets : TokenSettings := { accessSecret := "secret", refreshSecret := "secret\x00" }

theorem paddedSecrets_sameKey : SameKey paddedSecrets.accessSecret paddedSecrets.refreshSecret := by
  have hlen : (Token.bytesOf "secret").length ≤ Sha256.blockSize ∧
      (Token.bytesOf "secret\x00").length ≤ Sha256.blockSize := by decide
  have hnul : Token.bytesOf "secret\x00" = Token.bytesOf "secret" ++ List.replicate 1 0 := by decide
  exact (Token.sameKey_iff hlen.1 hlen.2).mpr ⟨1, Or.inl hnul⟩

/-- With these secrets, which are let through as distinct, the access credential of a session is exchanged for a
    new one as if it were the refresh credential. -/
theorem nul_at_end_interchanges :
    let pair := paddedSecrets.issue ⟨fun _ => 0⟩ 7 "browser" 0
    paddedSecrets.check = .ok () ∧ HandsOut (onSite paddedSecrets {}) pair.accessToken ∧
    ((onSite paddedSecrets {}).outcome (.quiet 60000) {}
        (.refresh .unbounded pair.accessToken "browser")).value =
      .refreshed (.ok (paddedSecrets.signAccess 7 pair.session "browser" 60)) := by
  intro pair
  have hexpiry : paddedSecrets.accessExpiry.toInt = 1800 := by decide
  have hu : Fits 7 := by decide
  have hi : Fits 0 := by decide
  have he : Fits (0 + paddedSecrets.accessExpiry.toInt) := by
    rw [hexpiry]
    decide
  have hlive : (60 : Int) < 0 + paddedSecrets.accessExpiry.toInt := by
    rw [hexpiry]
    decide
  have hk : Keyspace.get? {} ((Moment.quiet 60000).servedAt ⟨0, 0⟩)
      (CacheSettings.key {} (revocationKey pair.session)) = none := rfl
  have hin := Moment.answers_quiet {} 60000
  exact ⟨by decide +kernel, .issued _ _ _ _,
    refresh_access_sameKey (m := .quiet 60000) paddedSecrets paddedSecrets_sameKey hu hi he (by decide) hlive
      hin hk "browser"⟩

end SessionService

end Passcode

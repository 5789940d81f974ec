/-
  Passcode.Proofs.Session.Issuer — what a service with an issuer makes of credentials of other issuers.

  A service that has an issuer writes it into every credential, and asks for it when a credential is presented.
  A credential that names no issuer is not asked: it passes as if the service had none
  (`unnamed_issuer_accepted`).

  Proved: the issuer that the claims of a credential say is the one that the rules judge, whatever the shape of
  the claims (`read_issuer`); so a service with an issuer accepts a credential exactly if it would without one
  and the credential names this issuer or none, and every credential signed by a service of another issuer is
  refused, to whichever secret (`issuer_asked_where_named`).
-/

import Passcode.Proofs.Session.Lineage

namespace Passcode

open Json (Fits)

section
variable {α : Type} {decode : Json → Option α} (issuer : α → Option String)
  (agree : ∀ v a registered, decode v = some a → Token.Registered.ofJson? v = some registered →
    registered.hasAudience = false → registered.issuers = (issuer a).map ([·]))
include agree

/-- For claims whose issuer every reader of tokens sees as well: they are opened for a service with an issuer
    exactly if they are without one and name this issuer or none. -/
theorem read_issuer {secret : String} {expiry : Token.ExpiryRule} {i token : String} {now : Int} {a : α} :
    Token.read ⟨secret, expiry, some i⟩ now decode token = .ok a ↔
      Token.read ⟨secret, expiry, none⟩ now decode token = .ok a ∧ ∀ j ∈ issuer a, j = i := by
  rw [Token.read_eq_ok, Token.read_eq_ok]
  constructor
  · rintro ⟨value, registered, hpayload, hdecode, hregistered, hcheck⟩
    obtain ⟨hlax, hasked⟩ := Token.check_issuer.mp hcheck
    refine ⟨⟨value, registered, hpayload, hdecode, hregistered, hlax⟩, ?_⟩
    intro j hj
    have hnamed : [j] ∈ registered.issuers := by
      rw [agree value a registered hdecode hregistered (Token.hasAudience_of_check hlax), hj]
      rfl
    exact (List.mem_singleton.mp (hasked [j] hnamed)).symm
  · rintro ⟨⟨value, registered, hpayload, hdecode, hregistered, hlax⟩, hown⟩
    refine ⟨value, registered, hpayload, hdecode, hregistered, Token.check_issuer.mpr ⟨hlax, ?_⟩⟩
    intro named hnamed
    rw [agree value a registered hdecode hregistered (Token.hasAudience_of_check hlax)] at hnamed
    obtain ⟨j, hj, rfl⟩ := Option.map_eq_some_iff.mp hnamed
    exact List.mem_singleton.mpr (hown j hj).symm

/-- What names another issuer is not opened for a service with an issuer, whoever signed it. -/
theorem read_other_issuer {claims : Json} (hplain : claims.isPlain = true) {i : String}
    (hother : ∀ a, decode claims = some a → ∃ j ∈ issuer a, j ≠ i)
    (secret signer : String) (expiry : Token.ExpiryRule) (now : Int) :
    ∃ e, Token.read ⟨secret, expiry, some i⟩ now decode (Token.sign signer claims) = .error e := by
  cases hread : Token.read ⟨secret, expiry, some i⟩ now decode (Token.sign signer claims) with
  | error e => exact ⟨e, rfl⟩
  | ok a =>
    obtain ⟨j, hj, hne⟩ := hother a (Token.decode_of_read_sign hplain hread)
    exact absurd (((read_issuer issuer agree).mp hread).2 j hj) hne

end

namespace TokenSettings

variable {c : TokenSettings} {i token fingerprint : String} {now : Int}

/-- The same settings without an issuer. -/
def withoutIssuer (c : TokenSettings) : TokenSettings := { c with issuer := none }

theorem read_access_issuer (hi : c.issuer = some i) {claims : AccessClaims} :
    Token.read ⟨c.accessSecret, .demanded, c.issuer⟩ now AccessClaims.ofJson? token = .ok claims ↔
      Token.read ⟨c.accessSecret, .demanded, none⟩ now AccessClaims.ofJson? token = .ok claims ∧
        ∀ j ∈ claims.issuer, j = i := by
  rw [hi]
  exact read_issuer AccessClaims.issuer fun _ _ _ hc hr _ => issuers_access hc hr

theorem read_refresh_issuer (hi : c.issuer = some i) {claims : RefreshClaims} :
    Token.read ⟨c.refreshSecret, .demanded, c.issuer⟩ now RefreshClaims.ofJson? token = .ok claims ↔
      Token.read ⟨c.refreshSecret, .demanded, none⟩ now RefreshClaims.ofJson? token = .ok claims ∧
        ∀ j ∈ claims.issuer, j = i := by
  rw [hi]
  exact read_issuer RefreshClaims.issuer fun _ _ _ => issuers_refresh

theorem validateAccess_issuer (hi : c.issuer = some i) {claims : AccessClaims} :
    c.validateAccess token fingerprint now = .ok claims ↔
      c.withoutIssuer.validateAccess token fingerprint now = .ok claims ∧ ∀ j ∈ claims.issuer, j = i := by
  rw [validateAccess_eq_ok, validateAccess_eq_ok, read_access_issuer hi]
  exact and_right_comm

theorem validateRefresh_issuer (hi : c.issuer = some i) {claims : RefreshClaims} :
    c.validateRefresh token now = .ok claims ↔
      c.withoutIssuer.validateRefresh token now = .ok claims ∧ ∀ j ∈ claims.issuer, j = i := by
  rw [validateRefresh_eq_ok, validateRefresh_eq_ok, read_refresh_issuer hi]
  exact and_right_comm

section
variable {other : TokenSettings} {user issued : Int} {session client : String}

theorem validateAccess_other_issuer (hi : c.issuer = some i) (ho : ∃ j ∈ other.issuer, j ≠ i) :
    c.validateAccess (other.signAccess user session client issued) fingerprint now = .error .invalidToken := by
  have hother : ∀ a, AccessClaims.ofJson? (other.accessClaims user session client issued).toJson = some a →
      ∃ j ∈ a.issuer, j ≠ i := by
    intro a ha
    rw [ofJson?_access] at ha
    split at ha
    · cases ha
      exact ho
    · cases ha
  obtain ⟨e, hread⟩ := read_other_issuer AccessClaims.issuer (fun _ _ _ hc hr _ => issuers_access hc hr)
    (isPlain_access _) hother c.accessSecret other.accessSecret .demanded now
  rw [validateAccess_eq, hi, signAccess_eq, hread]

theorem validateRefresh_other_issuer (hi : c.issuer = some i) (ho : ∃ j ∈ other.issuer, j ≠ i) :
    c.validateRefresh (other.signRefresh user session issued) now = .error .invalidToken := by
  let claims : RefreshClaims := ⟨user, session, issued, issued + other.refreshExpiry.toInt, other.issuer⟩
  have hother : ∀ a, RefreshClaims.ofJson? claims.toJson = some a → ∃ j ∈ a.issuer, j ≠ i := by
    intro a ha
    rw [ofJson?_refresh] at ha
    split at ha
    · cases ha
      exact ho
    · cases ha
  obtain ⟨e, hread⟩ := read_other_issuer RefreshClaims.issuer (fun _ _ _ => issuers_refresh)
    (isPlain_refresh claims) hother c.refreshSecret other.refreshSecret .demanded now
  rw [validateRefresh_eq, hi, signRefresh, hread]

end

end TokenSettings

namespace SessionService

variable {σ : Type}

/-- For every service with an issuer, whatever its repository, and every credential, client and time: the service
    accepts the credential, by validation, by authentication and in exchange for a new one, exactly if the same
    service without an issuer would and the credential names the issuer of the service or none. What services
    of other issuers sign is refused as invalid, and the repository is not asked. -/
theorem issuer_asked_where_named (service : SessionService σ) {i : String} (hi : service.settings.issuer = some i)
    (ctx : Context) (fingerprint : String) (now : Int) (t : Nat) (s : σ) :
    let lax : SessionService σ := { service with settings := service.settings.withoutIssuer }
    (∀ token claims, service.settings.validateAccess token fingerprint now = .ok claims ↔
      lax.settings.validateAccess token fingerprint now = .ok claims ∧ ∀ j ∈ claims.issuer, j = i) ∧
    (∀ token claims, ((service.authenticate ctx token fingerprint now).run t s).value = .ok claims ↔
      ((lax.authenticate ctx token fingerprint now).run t s).value = .ok claims ∧ ∀ j ∈ claims.issuer, j = i) ∧
    (∀ token renewed, ((service.refresh ctx token fingerprint now).run t s).value = .ok renewed ↔
      ∃ claims, lax.settings.validateRefresh token now = .ok claims ∧ (∀ j ∈ claims.issuer, j = i) ∧
        ((service.checkRevoked ctx claims.session).run t s).value = .ok false ∧
        service.settings.signAccess claims.user claims.session fingerprint now = renewed) ∧
    ∀ (other : TokenSettings) (user issued : Int) (session client : String), (∃ j ∈ other.issuer, j ≠ i) →
      let access := other.signAccess user session client issued
      let refresh := other.signRefresh user session issued
      service.settings.validateAccess access fingerprint now = .error .invalidToken ∧
      service.authenticate ctx access fingerprint now = pure (.error (.token .invalidToken)) ∧
      service.refresh ctx refresh fingerprint now = pure (.error (.token .invalidToken)) := by
  intro lax
  refine ⟨?_, ?_, ?_, ?_⟩
  · intro token claims
    exact TokenSettings.validateAccess_issuer hi
  · intro token claims
    rw [authenticate_eq_ok, authenticate_eq_ok, TokenSettings.validateAccess_issuer hi]
    exact and_right_comm
  · intro token renewed
    rw [refresh_eq_ok]
    refine exists_congr fun claims => ?_
    rw [TokenSettings.validateRefresh_issuer hi]
    exact and_assoc
  · intro other user issued session client hother access refresh
    have haccess : service.settings.validateAccess access fingerprint now = .error .invalidToken :=
      TokenSettings.validateAccess_other_issuer hi hother
    have hrefresh : service.settings.validateRefresh refresh now = .error .invalidToken :=
      TokenSettings.validateRefresh_other_issuer hi hother
    exact ⟨haccess, by rw [authenticate, haccess], by rw [SessionService.refresh, hrefresh]⟩

/-- The settings for development, with an issuer. -/
def issuedBy (issuer : String) : TokenSettings := { issuer := some issuer }

theorem issuer_asked_where_named_sample :
    (issuedBy "codes").check = .ok () ∧ (issuedBy "codes").issuer = some "codes" ∧
    (∃ j ∈ (issuedBy "elsewhere").issuer, j ≠ "codes") ∧
    (onSite (issuedBy "codes") {}).authenticate .unbounded ((issuedBy "elsewhere").signAccess 7 "session" "browser" 0)
      "browser" 60 = pure (.error (.token .invalidToken)) ∧
    (onSite (issuedBy "codes") {}).refresh .unbounded ((issuedBy "elsewhere").signRefresh 7 "session" 0)
      "browser" 60 = pure (.error (.token .invalidToken)) := by
  have hcheck : (issuedBy "codes").check = .ok () := by decide +kernel
  have hother : ∃ j ∈ (issuedBy "elsewhere").issuer, j ≠ "codes" := ⟨"elsewhere", rfl, by decide⟩
  obtain ⟨-, -, -, hrefused⟩ := issuer_asked_where_named (onSite (issuedBy "codes") {}) (i := "codes") rfl .unbounded
    "browser" 60 60000 ((Moment.quiet 60000).site {})
  obtain ⟨-, haccess, hrefresh⟩ := hrefused _ 7 0 "session" "browser" hother
  exact ⟨hcheck, rfl, hother, haccess, hrefresh⟩

/-! ## Credentials without an issuer -/

/-- A service that has no issuer, but the same secrets, signs credentials that name no issuer, and a service with
    an issuer accepts them: the access credential by validation and authentication, and the refresh credential
    in exchange for a new one. -/
theorem unnamed_issuer_accepted :
    let claims : AccessClaims := ⟨7, "session", "browser", 0, 1800, none⟩
    (issuedBy "codes").check = .ok () ∧ (issuedBy "codes").issuer = some "codes" ∧
    (issuedBy "codes").validateAccess (TokenSettings.signAccess {} 7 "session" "browser" 0) "browser" 60 =
      .ok claims ∧
    ((onSite (issuedBy "codes") {}).outcome (.quiet 60000) {}
        (.authenticate .unbounded (TokenSettings.signAccess {} 7 "session" "browser" 0) "browser")).value =
      .authenticated (.ok claims) ∧
    ((onSite (issuedBy "codes") {}).outcome (.quiet 60000) {}
        (.refresh .unbounded (TokenSettings.signRefresh {} 7 "session" 0) "browser")).value =
      .refreshed (.ok ((issuedBy "codes").signAccess 7 "session" "browser" 60)) := by
  intro claims
  have hi : (issuedBy "codes").issuer = some "codes" := rfl
  have hu : Fits 7 := by decide
  have h0 : Fits 0 := by decide
  have haccessExpiry : (TokenSettings.accessExpiry {}).toInt = 1800 := by decide
  have hrefreshExpiry : (TokenSettings.refreshExpiry {}).toInt = 604800 := by decide
  have hopened : TokenSettings.validateAccess {} (TokenSettings.signAccess {} 7 "session" "browser" 0) "browser" 60 =
      .ok claims :=
    TokenSettings.validateAccess_sign hu h0 (by decide) (by decide) (by rw [haccessExpiry]; decide)
  have hopened' : TokenSettings.validateRefresh {} (TokenSettings.signRefresh {} 7 "session" 0) 60 =
      .ok ⟨7, "session", 0, 604800, none⟩ :=
    TokenSettings.validateRefresh_sign hu h0 (by decide) (by decide) (by rw [hrefreshExpiry]; decide)
  have haccess := (TokenSettings.validateAccess_issuer hi).mpr ⟨hopened, fun _ h => nomatch h⟩
  have hrefresh := (TokenSettings.validateRefresh_issuer hi).mpr ⟨hopened', fun _ h => nomatch h⟩
  have hk : Keyspace.get? {} ((Moment.quiet 60000).servedAt ⟨0, 0⟩)
      (CacheSettings.key {} (revocationKey "session")) = none := rfl
  have hin := Moment.answers_quiet {} 60000
  refine ⟨by decide +kernel, hi, haccess, ?_, ?_⟩
  · rw [authenticate_valid (m := .quiet 60000) haccess]
    exact congrArg SessionAnswer.authenticated (unlessRevoked_lapsed _ hin hk _)
  · exact refresh_valid (m := .quiet 60000) hrefresh hin hk "browser"

end SessionService

end Passcode

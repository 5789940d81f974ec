/-
  Passcode.Proofs.Session.Lineage — an access credential says whose it is, wherever it comes from.

  In a run of a service an access credential is handed out when a session starts, in exchange for the
  session's refresh credential, and in exchange for claims that the service has read off an earlier
  access credential, which can have come about in any of these ways. The client is the one that started
  the session or presented the refresh credential; a renewal keeps it.

  Proved: however long the chain of renewals, a credential that was obtained is the one that the service
  signs for the user and the session at its origin (`Obtained.eq_signAccess`); and it reads back as their
  claims, exactly as long as it lives and to its own client only (`obtained_reads_back`).
-/

import Passcode.Proofs.Session.Access

namespace Passcode

open Json (Fits)

namespace SessionService

variable {service : SessionService Site} {events : List SessionEvent} {k : Keyspace}
  {calls : List (Moment × SessionCall)} {user : Int} {token session fingerprint : String}

/-- An access credential in the events of a run, with the user and the session it was obtained for, the
    client it belongs to, and the second in which it was signed. -/
inductive Obtained (service : SessionService Site) (events : List SessionEvent) :
    String → Int → String → String → Int → Prop where
  | issued {e : SessionEvent} {fresh : Entropy} {user : Int} {fingerprint : String} {pair : TokenPair}
      (he : e ∈ events) (hcall : e.call = .issue fresh user fingerprint) (hanswer : e.answer = .issued pair) :
      Obtained service events pair.accessToken user pair.session fingerprint e.moment.seconds
  | refreshed {start e : SessionEvent} {fresh : Entropy} {user : Int} {client fingerprint token : String}
      {pair : TokenPair} {ctx : Context} (hstart : start ∈ events) (hissue : start.call = .issue fresh user client)
      (hissued : start.answer = .issued pair) (he : e ∈ events)
      (hcall : e.call = .refresh ctx pair.refreshToken fingerprint) (hanswer : e.answer = .refreshed (.ok token)) :
      Obtained service events token user pair.session fingerprint e.moment.seconds
  /-- The claims were read by the service, at whatever instant and for whatever client. -/
  | renewed {e : SessionEvent} {old token : String} {user : Int} {session fingerprint client : String}
      {signed read : Int} {claims : AccessClaims} (hold : Obtained service events old user session fingerprint signed)
      (hread : service.settings.validateAccess old client read = .ok claims) (he : e ∈ events)
      (hcall : e.call = .renew claims) (hanswer : e.answer = .renewed (some token)) :
      Obtained service events token user session fingerprint e.moment.seconds

/-! ## What a call hands out -/

/-- Every event of a run is what its call comes to in some state of the keyspace. -/
theorem event_outcome {e : SessionEvent} (he : e ∈ service.history k calls) :
    ∃ k', e.answer = (service.outcome e.moment k' e.call).value := by
  obtain ⟨before, later, hsplit⟩ := List.append_of_mem he
  obtain ⟨front, -, -, -, hanswer, -⟩ := history_split hsplit
  exact ⟨_, hanswer⟩

theorem issue_event {e : SessionEvent} {fresh : Entropy} {pair : TokenPair} (he : e ∈ service.history k calls)
    (hcall : e.call = .issue fresh user fingerprint) (hanswer : e.answer = .issued pair) :
    pair = service.settings.issue fresh user fingerprint e.moment.seconds := by
  obtain ⟨k', hout⟩ := event_outcome he
  rw [hcall, hanswer] at hout
  exact SessionAnswer.issued.inj hout

theorem renew_event {e : SessionEvent} {claims : AccessClaims} (he : e ∈ service.history k calls)
    (hcall : e.call = .renew claims) (hanswer : e.answer = .renewed (some token)) :
    token = service.settings.signAccess claims.user claims.session claims.fingerprint e.moment.seconds := by
  obtain ⟨k', hout⟩ := event_outcome he
  rw [hcall, hanswer] at hout
  have hr : some token = service.settings.renew claims e.moment.seconds := SessionAnswer.renewed.inj hout
  unfold TokenSettings.renew at hr
  split at hr
  · exact Option.some.inj hr
  · cases hr

/-- What is handed out for a refresh credential is signed with its claims. -/
theorem refresh_event {e : SessionEvent} {ctx : Context} {credential : String} (he : e ∈ service.history k calls)
    (hcall : e.call = .refresh ctx credential fingerprint) (hanswer : e.answer = .refreshed (.ok token)) :
    ∃ claims, service.settings.validateRefresh credential e.moment.seconds = .ok claims ∧
      token = service.settings.signAccess claims.user claims.session fingerprint e.moment.seconds := by
  obtain ⟨k', hout⟩ := event_outcome he
  rw [hcall, hanswer] at hout
  rw [outcome, perform, Task.run_map] at hout
  obtain ⟨claims, hclaims, -, hnew⟩ := refresh_eq_ok.mp (SessionAnswer.refreshed.inj hout).symm
  exact ⟨claims, hclaims, hnew.symm⟩

/-- An access credential is signed for the user and the session at its origin, through any number of
    renewals. -/
theorem Obtained.eq_signAccess {fingerprint : String} {second : Int}
    (h : Obtained service (service.history k calls) token user session fingerprint second) :
    token = service.settings.signAccess user session fingerprint second := by
  induction h with
  | issued he hcall hanswer =>
    rw [issue_event he hcall hanswer]
    rfl
  | refreshed hstart hissue hissued he hcall hanswer =>
    obtain ⟨claims, hclaims, rfl⟩ := refresh_event he hcall hanswer
    rw [issue_event hstart hissue hissued] at hclaims ⊢
    obtain ⟨rfl, -⟩ := TokenSettings.validateRefresh_claims hclaims
    rfl
  | renewed _ hread he hcall hanswer ih =>
    rw [ih] at hread
    rw [renew_event he hcall hanswer, TokenSettings.validateAccess_signed hread]
    rfl

end SessionService

/-! ## Reading back -/

namespace SessionService

/-- An access credential that was obtained in a run, in any way and through any number of renewals, is
    from then on read as the claims it was signed with: the user and the session at its origin, its own
    client, and the second in which it was signed. Once it has expired it is invalid, to any client; up to
    then it is refused as another client's to every client but its own. -/
theorem obtained_reads_back (service : SessionService Site) (k : Keyspace) (calls : List (Moment × SessionCall))
    {token session fingerprint : String} {user signed : Int}
    (h : Obtained service (service.history k calls) token user session fingerprint signed) (hu : Fits user)
    (h0 : 0 ≤ signed) (he : signed + service.settings.accessExpiry.toInt ≤ Int64.maxValue.toInt) (client : String)
    {now : Int} (hn : signed ≤ now) :
    (now < signed + service.settings.accessExpiry.toInt → client = fingerprint →
      service.settings.validateAccess token client now = .ok {
        user, session, fingerprint
        issuedAt := signed
        expiresAt := signed + service.settings.accessExpiry.toInt
        issuer := service.settings.issuer }) ∧
    (signed + service.settings.accessExpiry.toInt ≤ now →
      service.settings.validateAccess token client now = .error .invalidToken) ∧
    (now < signed + service.settings.accessExpiry.toInt → client ≠ fingerprint →
      service.settings.validateAccess token client now = .error .fingerprintMismatch) := by
  have hmin : Int64.minValue.toInt ≤ 0 := by decide
  rw [h.eq_signAccess]
  refine ⟨fun hlive hc => ?_, fun hexp => TokenSettings.validateAccess_expired hexp client, fun hlive hc => ?_⟩
  · subst hc
    exact TokenSettings.validateAccess_sign hu ⟨by omega, by omega⟩ ⟨by omega, by omega⟩ (by omega) hlive
  · exact TokenSettings.validateAccess_stranger hu ⟨by omega, by omega⟩ ⟨by omega, by omega⟩ (by omega) hlive hc

/-! ### A session that moves to another client and is renewed there -/

theorem refresh_live (settings : TokenSettings) {cache : CacheSettings} {ctx : Context} {m : Moment} {k : Keyspace}
    {a : Site.Timing} {user issued : Int} {session : String} (hu : Fits user) (hi : Fits issued)
    (he : Fits (issued + settings.refreshExpiry.toInt)) (h0 : 0 ≤ m.seconds)
    (hlive : m.seconds < issued + settings.refreshExpiry.toInt) (hin : m.Answers cache ctx a)
    (hk : k.get? (m.servedAt a) (cache.key (revocationKey session)) = none) (fingerprint : String) :
    ((onSite settings cache).outcome m k
        (.refresh ctx (settings.signRefresh user session issued) fingerprint)).value =
      .refreshed (.ok (settings.signAccess user session fingerprint m.seconds)) :=
  refresh_valid (TokenSettings.validateRefresh_sign hu hi he h0 hlive) hin hk fingerprint

def movedPair : TokenPair := TokenSettings.issue {} ⟨fun _ => 0⟩ 7 "laptop" 0

/-- The claims of the credential that the phone got in exchange. -/
def movedClaims : AccessClaims := TokenSettings.accessClaims {} 7 movedPair.session "phone" 100

def movedCalls : List (Moment × SessionCall) :=
  [(.quiet 0, .issue ⟨fun _ => 0⟩ 7 "laptop"),
    (.quiet 100000, .refresh .unbounded movedPair.refreshToken "phone"),
    (.quiet 1860000, .renew movedClaims)]

theorem movedCalls_refreshed : ((onSite {} {}).history {} movedCalls)[1]? =
    some ⟨.quiet 100000, .refresh .unbounded movedPair.refreshToken "phone",
      .refreshed (.ok (TokenSettings.signAccess {} 7 movedPair.session "phone" 100))⟩ := by
  have hk : ((onSite {} {}).after {} (movedCalls.take 1)).get? ((Moment.quiet 100000).servedAt ⟨0, 0⟩)
      (CacheSettings.key {} (revocationKey movedPair.session)) = none := rfl
  have hin := Moment.answers_quiet {} 100000
  have hu : Fits 7 := by decide
  have hi : Fits 0 := by decide
  have hanswer := refresh_live {} hu hi (by decide) (by decide) (by decide) hin hk "phone"
  exact (history_getElem? 1).trans (congrArg (fun a => some (SessionEvent.mk _ _ a)) hanswer)

/-- The laptop's session, refreshed on a phone after a hundred seconds and renewed there. -/
theorem obtained_reads_back_sample :
    let token := TokenSettings.signAccess {} 7 movedPair.session "phone" 1860
    Obtained (onSite {} {}) ((onSite {} {}).history {} movedCalls) token 7 movedPair.session "phone" 1860 ∧
    TokenSettings.validateAccess {} token "phone" 3659 = .ok ⟨7, movedPair.session, "phone", 1860, 3660, none⟩ ∧
    TokenSettings.validateAccess {} token "phone" 3660 = .error .invalidToken ∧
    TokenSettings.validateAccess {} token "laptop" 3659 = .error .fingerprintMismatch := by
  have hissued : ((onSite {} {}).history {} movedCalls)[0]? =
      some ⟨.quiet 0, .issue ⟨fun _ => 0⟩ 7 "laptop", .issued movedPair⟩ := rfl
  have hrenew : TokenSettings.renew {} movedClaims 1860 =
      some (TokenSettings.signAccess {} 7 movedPair.session "phone" 1860) :=
    if_pos (show movedClaims.remaining 1860 < 50 by decide)
  have hrenewed : ((onSite {} {}).history {} movedCalls)[2]? =
      some ⟨.quiet 1860000, .renew movedClaims,
        .renewed (some (TokenSettings.signAccess {} 7 movedPair.session "phone" 1860))⟩ :=
    (history_getElem? 2).trans (congrArg (fun a => some (SessionEvent.mk _ _ (.renewed a))) hrenew)
  have hread : TokenSettings.validateAccess {} (TokenSettings.signAccess {} 7 movedPair.session "phone" 100) "phone"
      1800 = .ok movedClaims :=
    TokenSettings.validateAccess_sign (by decide) (by decide) (by decide) (by decide) (by decide)
  have hmoved : Obtained (onSite {} {}) _ _ _ _ _ _ := .refreshed (List.mem_of_getElem? hissued) rfl rfl
    (List.mem_of_getElem? movedCalls_refreshed) rfl rfl
  have hobtained := Obtained.renewed hmoved hread (List.mem_of_getElem? hrenewed) rfl rfl
  have hback := obtained_reads_back (onSite {} {}) {} movedCalls hobtained (by decide) (by decide) (by decide)
  have hin : (1860 : Int) ≤ 3659 := by decide
  have hat : (1860 : Int) ≤ 3660 := by decide
  exact ⟨hobtained, (hback "phone" hin).1 (by decide) rfl, (hback "phone" hat).2.1 (by decide),
    (hback "laptop" hin).2.2 (by decide) (by decide)⟩

end SessionService

end Passcode

/-
  Passcode.Proofs.Session.Access — what authentication makes of a session that was revoked.

  The mark of a revoked session lasts as long as a refresh credential lives. An access credential may
  live longer: because its own lifetime is longer, or because it was renewed, which asks for no mark.
  Then it is accepted again once the mark has ended (`accepted_once_mark_ends`). It may also expire, and
  the mark end, while the lookup is on its way.

  Proved: what a call hands out as an access credential is accepted no longer than it lives from then on
  (`accessToken_lives`); and a credential of a revoked session is accepted when its lookup reaches the
  server past the mark and not before, so not when it was handed out by then, short of access
  credentials that outlive the mark and of one that expires on the way (`revoked_accepted_only_past_mark`).
-/

import Passcode.Proofs.Session.Revocation

namespace Passcode

open Json (Fits)

/-- The access credential that a call handed out. -/
def SessionAnswer.accessToken? : SessionAnswer → Option String
  | issued pair => some pair.accessToken
  | refreshed (.ok token) => some token
  | renewed token => token
  | _ => none

namespace SessionService

variable {settings : TokenSettings} {cache : CacheSettings} {session : String} {last : Int} {ctx : Context}
  {m : Moment} {k : Keyspace}

/-- What a call hands out as an access credential was signed when the call was made. -/
theorem outcome_accessToken {call : SessionCall} {token : String}
    (h : ((onSite settings cache).outcome m k call).value.accessToken? = some token) :
    ∃ user session client, token = settings.signAccess user session client m.seconds := by
  cases call with
  | issue fresh user fingerprint => exact ⟨user, _, fingerprint, (Option.some.inj h).symm⟩
  | renew claims =>
    have hr : settings.renew claims m.seconds = some token := h
    unfold TokenSettings.renew at hr
    split at hr
    · exact ⟨claims.user, claims.session, claims.fingerprint, (Option.some.inj hr).symm⟩
    · cases hr
  | refresh ctx credential fingerprint =>
    rw [outcome, perform, Task.run_map] at h
    dsimp only at h
    cases hr : (((onSite settings cache).refresh ctx credential fingerprint m.seconds).run m.time (m.site k)).value with
    | error e =>
      rw [hr] at h
      cases h
    | ok renewed =>
      rw [hr] at h
      cases h
      obtain ⟨claims, -, -, hnew⟩ := refresh_eq_ok.mp hr
      exact ⟨claims.user, claims.session, fingerprint, hnew.symm⟩
  | authenticate ctx credential fingerprint =>
    rw [outcome, perform, Task.run_map] at h
    cases h
  | revoke ctx id =>
    rw [outcome, perform, Task.run_map] at h
    cases h

/-! ## Authentication -/

theorem authenticate_valid {token fingerprint : String} {claims : AccessClaims}
    (h : settings.validateAccess token fingerprint m.seconds = .ok claims) :
    ((onSite settings cache).outcome m k (.authenticate ctx token fingerprint)).value =
      .authenticated
        (((onSite settings cache).unlessRevoked ctx claims.session claims).run m.time (m.site k)).value := by
  have hv : (onSite settings cache).settings.validateAccess token fingerprint m.seconds = .ok claims := h
  unfold outcome perform authenticate
  rw [Task.run_map, hv]

/-- What authentication accepts are the claims of the credential, whose session was not found marked. -/
theorem authenticate_ok {token fingerprint : String} {claims : AccessClaims}
    (h : ((onSite settings cache).outcome m k (.authenticate ctx token fingerprint)).value =
      .authenticated (.ok claims)) :
    settings.validateAccess token fingerprint m.seconds = .ok claims ∧
      (((onSite settings cache).unlessRevoked ctx claims.session claims).run m.time (m.site k)).value = .ok claims := by
  rw [outcome, perform, Task.run_map] at h
  obtain ⟨hvalid, hfree⟩ := authenticate_eq_ok.mp (SessionAnswer.authenticated.inj h)
  exact ⟨hvalid, unlessRevoked_eq_ok.mpr ⟨rfl, hfree⟩⟩

/-- An access credential is accepted no longer than it lives since it was handed out. -/
theorem accessToken_lives {calls : List (Moment × SessionCall)} {start : SessionEvent} {token fingerprint : String}
    {claims : AccessClaims} {now : Int} (hmem : start ∈ (onSite settings cache).history k calls)
    (hstart : start.answer.accessToken? = some token)
    (hvalid : settings.validateAccess token fingerprint now = .ok claims) :
    now < start.moment.seconds + settings.accessExpiry.toInt := by
  obtain ⟨before, later, hsplit⟩ := List.append_of_mem hmem
  obtain ⟨front, -, -, -, hs, -⟩ := history_split hsplit
  rw [hs] at hstart
  obtain ⟨user, session, client, rfl⟩ := outcome_accessToken hstart
  have hlive := (TokenSettings.validateAccess_eq_ok.mp hvalid).2.1
  rw [TokenSettings.validateAccess_signed hvalid] at hlive
  exact hlive

/-- What becomes of a session that was revoked. It is accepted only when the lookup reaches the server past the mark;
    so never with a credential that was handed out by the time of the revocation, unless access credentials
    outlive the mark, or the credential has expired when the lookup reaches the server. Past the end of the
    mark every access credential that has not expired is accepted again, when the server answers in time. -/
theorem revoked_accepted_only_past_mark (settings : TokenSettings) (cache : CacheSettings) (k : Keyspace)
    (calls : List (Moment × SessionCall)) (clock : calls.Pairwise fun a b => a.1.wall ≤ b.1.wall)
    {before meanwhile later : List SessionEvent} {cut use : SessionEvent} {ctx ctx' : Context}
    {session token fingerprint : String}
    (h : (onSite settings cache).history k calls = before ++ cut :: (meanwhile ++ use :: later))
    (hcut : cut.call = .revoke ctx session) (hok : cut.answer = .revoked (.ok ()))
    (huse : use.call = .authenticate ctx' token fingerprint) :
    (∀ claims, use.answer = .authenticated (.ok claims) → claims.session = session →
      ∃ a, use.moment.timing? cache = some a ∧
        cut.moment.wall + settings.revocationSeconds * 1000 < use.moment.servedAt a ∧
        ∀ start ∈ (onSite settings cache).history k calls, start.answer.accessToken? = some token →
          start.moment.wall ≤ cut.moment.wall → (settings.revocationSeconds : Int) < settings.accessExpiry.toInt ∨
            start.moment.seconds + settings.accessExpiry.toInt ≤ use.moment.servedAt a / 1000) ∧
    (∀ claims a b, settings.validateAccess token fingerprint use.moment.seconds = .ok claims →
      claims.session = session → cut.moment.timing? cache = some a → use.moment.Answers cache ctx' b →
      cut.moment.servedAt a + settings.revocationSeconds * 1000 < use.moment.servedAt b →
      (∀ e ∈ before ++ meanwhile, ∀ ctx, e.call ≠ .revoke ctx session) →
      use.answer = .authenticated (.ok claims)) := by
  obtain ⟨k', hu, hmarked, hends⟩ := found_of_revoked clock h hcut hok
  rw [huse] at hu
  constructor
  · rintro claims hin rfl
    rw [hin] at hu
    obtain ⟨hvalid, hfree⟩ := authenticate_ok hu.symm
    obtain ⟨a, ha, hpast⟩ := unlessRevoked_granted hmarked hfree
    refine ⟨a, ha, hpast, fun start hmem hstart hearly => ?_⟩
    have hlive := accessToken_lives hmem hstart hvalid
    unfold Moment.seconds at hlive ⊢
    omega
  · rintro claims a b hvalid rfl ha hb hpast hfree
    have hlapsed := (hends (fun e he => hfree e (List.mem_append_right _ he)) a ha).lapsed hpast
    rw [hu, authenticate_valid hvalid, unlessRevoked_lapsed settings hb hlapsed]

/-! ## A mark that ends early -/

/-- The session's access credential, from when it was issued, or renewed. -/
def firstAccess (seconds : Int) : String := briefMark.signAccess 7 firstSession "browser" seconds

def firstClaims (seconds : Int) : AccessClaims := briefMark.accessClaims 7 firstSession "browser" seconds

/-- A session is revoked after a second, and its access credential presented and renewed after that. -/
def outlivingCalls : List (Moment × SessionCall) :=
  [(.quiet 0, .issue ⟨fun _ => 0⟩ 7 "browser"),
    (.quiet 1000, .revoke .unbounded firstSession),
    (.quiet 100000, .authenticate .unbounded (firstAccess 0) "browser"),
    (.quiet 1760000, .renew (firstClaims 0)),
    (.quiet 3000000, .authenticate .unbounded (firstAccess 1760) "browser")]

theorem outlivingCalls_clock : outlivingCalls.Pairwise fun a b => a.1.wall ≤ b.1.wall := by decide

/-- The keyspace after the first calls. -/
def keyspaceAfter (calls : Nat) : Keyspace := (onSite briefMark {}).after {} (outlivingCalls.take calls)

theorem outlivingCalls_revoked :
    ((onSite briefMark {}).outcome (.quiet 1000) (keyspaceAfter 1) (.revoke .unbounded firstSession)).value =
      .revoked (.ok ()) := by
  have hr : (((onSite briefMark {}).revoke .unbounded firstSession).run 1000
      ((Moment.quiet 1000).site (keyspaceAfter 1))).value = .ok () := by
    decide +kernel
  exact (congrArg Task.End.value (Task.run_map ..)).trans (congrArg SessionAnswer.revoked hr)

theorem keyspaceAfter_endsAt {calls : Nat} (h : 2 ≤ calls) :
    (keyspaceAfter calls).EndsAt (CacheSettings.key {} (revocationKey firstSession)) 61000 := by
  have hlast : (Moment.quiet 1000).servedAt ⟨0, 0⟩ + briefMark.revocationSeconds * 1000 = 61000 := by decide
  obtain ⟨a, ha, hends⟩ := revoke_marks outlivingCalls_revoked
  rw [(Moment.answers_quiet {} 1000).timing] at ha
  cases ha
  rw [hlast] at hends
  obtain ⟨n, rfl⟩ := Nat.exists_eq_add_of_le' h
  have hrest : ∀ c ∈ (outlivingCalls.drop 2).take n, ∀ ctx, c.2 ≠ .revoke ctx firstSession := by
    intro c hc ctx
    have hmem : c ∈ outlivingCalls.drop 2 := List.mem_of_mem_take hc
    simp only [outlivingCalls, List.drop_succ_cons, List.drop_zero, List.mem_cons, List.not_mem_nil, or_false] at hmem
    rcases hmem with rfl | rfl | rfl <;> exact fun h => nomatch h
  have hafter : ((onSite briefMark {}).after _ ((outlivingCalls.drop 2).take n)).EndsAt _ 61000 :=
    after_endsAt briefMark hends hrest
  exact hafter

theorem firstAccess_valid {issued now : Int} (h0 : 0 ≤ issued) (hn : issued ≤ now) (hlive : now < issued + 1800)
    (hbound : now ≤ 3000) : briefMark.validateAccess (firstAccess issued) "browser" now = .ok (firstClaims issued) := by
  have hexpiry : briefMark.accessExpiry.toInt = 1800 := by decide
  have hmin : Int64.minValue.toInt ≤ 0 := by decide
  have hmax : 4800 ≤ Int64.maxValue.toInt := by decide
  refine TokenSettings.validateAccess_sign (by decide) ⟨by omega, by omega⟩ ?_ (by omega) ?_
  · rw [hexpiry]
    exact ⟨by omega, by omega⟩
  · rw [hexpiry]
    exact hlive

theorem firstClaims_session (seconds : Int) : (firstClaims seconds).session = firstSession := rfl

theorem issue_firstAccess : (briefMark.issue ⟨fun _ => 0⟩ 7 "browser" 0).accessToken = firstAccess 0 := by
  unfold firstAccess firstSession TokenSettings.issue
  rfl

theorem renew_firstClaims : briefMark.renew (firstClaims 0) 1760 = some (firstAccess 1760) := by
  have hwindow : (firstClaims 0).remaining 1760 < briefMark.renewWindow.toInt := by decide
  exact if_pos hwindow

theorem revoked_accepted_only_past_mark_sample : outlivingCalls.Pairwise (fun a b => a.1.wall ≤ b.1.wall) ∧
    (((onSite briefMark {}).history {} outlivingCalls)[2]?.map SessionEvent.answer =
      some (.authenticated (.ok (firstClaims 0)))) := by
  obtain ⟨-, hagain⟩ := revoked_accepted_only_past_mark briefMark {} {} outlivingCalls outlivingCalls_clock
    (show (onSite briefMark {}).history {} outlivingCalls =
      [⟨_, _, _⟩] ++ ⟨_, _, _⟩ :: ([] ++ ⟨_, _, _⟩ :: [⟨_, _, _⟩, ⟨_, _, _⟩]) from rfl)
    rfl outlivingCalls_revoked rfl
  have hvalid : briefMark.validateAccess (firstAccess 0) "browser" (Moment.quiet 100000).seconds =
      .ok (firstClaims 0) :=
    firstAccess_valid (by decide) (by decide) (by decide) (by decide)
  have hpast : (Moment.quiet 1000).servedAt ⟨0, 0⟩ + briefMark.revocationSeconds * 1000 <
      (Moment.quiet 100000).servedAt ⟨0, 0⟩ := by decide
  have hin := Moment.answers_quiet {} 100000
  have hanswer := hagain _ ⟨0, 0⟩ ⟨0, 0⟩ hvalid rfl (Moment.answers_quiet {} 1000).timing hin hpast (by simp)
  exact ⟨outlivingCalls_clock, congrArg some hanswer⟩

/-- Once the mark has ended, a credential of the session is accepted as long as it lives. -/
theorem firstAccess_accepted {calls : Nat} (h : 2 ≤ calls) {time : Nat} (hpast : 61000 < (time : Int)) {issued : Int}
    (hvalid : briefMark.validateAccess (firstAccess issued) "browser" (Moment.quiet time).seconds =
      .ok (firstClaims issued)) :
    ((onSite briefMark {}).outcome (.quiet time) (keyspaceAfter calls)
      (.authenticate .unbounded (firstAccess issued) "browser")).value = .authenticated (.ok (firstClaims issued)) := by
  have hlapsed := (keyspaceAfter_endsAt h).lapsed (hpast.trans_eq (Moment.servedAt_quiet time).symm)
  rw [authenticate_valid hvalid, firstClaims_session,
    unlessRevoked_lapsed briefMark (Moment.answers_quiet {} time) hlapsed]

/-- A revoked session is accepted again, with the credential it was issued and with one that was renewed
    after the revocation. -/
theorem accepted_once_mark_ends :
    let pair := briefMark.issue ⟨fun _ => 0⟩ 7 "browser" 0
    let run := (onSite briefMark {}).history {} outlivingCalls
    briefMark.check = .ok () ∧ outlivingCalls.Pairwise (fun a b => a.1.wall ≤ b.1.wall) ∧
    run[0]?.map SessionEvent.answer = some (.issued pair) ∧
    run[1]? = some ⟨.quiet 1000, .revoke .unbounded pair.session, .revoked (.ok ())⟩ ∧
    run[2]? = some ⟨.quiet 100000, .authenticate .unbounded pair.accessToken "browser",
      .authenticated (.ok (firstClaims 0))⟩ ∧
    run[3]? = some ⟨.quiet 1760000, .renew (firstClaims 0), .renewed (some (firstAccess 1760))⟩ ∧
    run[4]? = some ⟨.quiet 3000000, .authenticate .unbounded (firstAccess 1760) "browser",
      .authenticated (.ok (firstClaims 1760))⟩ := by
  have hvalid : briefMark.validateAccess (firstAccess 0) "browser" (Moment.quiet 100000).seconds =
      .ok (firstClaims 0) :=
    firstAccess_valid (by decide) (by decide) (by decide) (by decide)
  have hvalid' : briefMark.validateAccess (firstAccess 1760) "browser" (Moment.quiet 3000000).seconds =
      .ok (firstClaims 1760) :=
    firstAccess_valid (by decide) (by decide) (by decide) (by decide)
  have hissued := firstAccess_accepted (Nat.le_refl 2) (by omega) hvalid
  have hrenewed := firstAccess_accepted (show 2 ≤ 4 by decide) (by omega) hvalid'
  intro pair run
  refine ⟨by decide, outlivingCalls_clock, rfl, ?_, ?_, ?_, ?_⟩
  · exact (history_getElem? 1).trans (congrArg (fun a => some (SessionEvent.mk _ _ a)) outlivingCalls_revoked)
  · show run[2]? = some ⟨_, .authenticate _ (briefMark.issue _ _ _ _).accessToken _, _⟩
    rw [issue_firstAccess]
    exact (history_getElem? 2).trans (congrArg (fun a => some (SessionEvent.mk _ _ a)) hissued)
  · have hrenew := congrArg SessionAnswer.renewed renew_firstClaims
    exact (history_getElem? 3).trans (congrArg (fun a => some (SessionEvent.mk _ _ a)) hrenew)
  · exact (history_getElem? 4).trans (congrArg (fun a => some (SessionEvent.mk _ _ a)) hrenewed)

end SessionService

end Passcode

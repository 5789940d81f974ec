/-
  Passcode.Proofs.Session.Revocation — what becomes of the refresh credential of a session that was revoked.

  To revoke a session puts a mark under its key, for as many seconds as a refresh credential lives.
  The credential counts them from the whole second in which it was issued, the mark from the
  millisecond in which it was put, which comes later: so the mark outlives the credential
  (`mark_outlives_credential`). No call removes a mark, and another one under the same key only extends
  it (`after_marked`); a request whose caller gave up, but that reached the server after all, could do
  no more. A lookup that is not answered fails, and so does the refresh.

  But the service judges the credential when the refresh begins, and the server judges the mark when
  the lookup reaches it. Between the two both may end, and then the session is refreshed once more
  (`refreshed_as_mark_ends`).

  Proved: once a session was revoked, its refresh credential is refused however the server fares, and
  as revoked or invalid when the server answers in time, short of a lookup that reaches the server past
  the mark and past the end of the credential (`revoked_refreshed_only_past_mark`).
-/

import Passcode.Proofs.Keyspace.Codes
import Passcode.Proofs.Keyspace.Server
import Passcode.Proofs.Session.Credentials
import Passcode.Proofs.Session.Run

namespace Passcode

open Keyspace (Client Reply Marked)

/-! ## Lookups and marks on the server -/

namespace Keyspace.Client

variable {cache : CacheSettings} {key value session : String} {since : Int} {seconds : Nat} {J : Keyspace → Prop}
  {t : Nat} {s : Site} {a : Site.Timing}

/-- A lookup changes nothing. -/
theorem holds_keeps : ((Site.client cache).holds key).Keeps (Site.Since since J) fun _ => True := by
  refine Task.Keeps.map (P := fun _ => True) ?_ fun _ _ => trivial
  refine Site.repeated_keeps cache _ _ (fun now k _ hk => ?_) fun _ => trivial
  rw [serve_exists]
  exact ⟨hk, trivial⟩

/-- What the server keeps when it puts a text is kept, however often the command is sent. -/
theorem setWithExpiry_keeps (hs : (seconds : Int) ≤ Int64.maxValue.toInt)
    (hj : ∀ now k k', since ≤ now → J k → k.setFor now key value seconds = .ok k' → J k') :
    ((Site.client cache).setWithExpiry key value seconds).Keeps (Site.Since since J) fun _ => True := by
  refine Task.Keeps.map (P := fun _ => True) ?_ fun _ _ => trivial
  refine Site.repeated_keeps cache _ _ (fun now k hnow hk => ?_) fun _ => trivial
  rw [serve_setex k now key value hs]
  refine ⟨?_, trivial⟩
  cases hput : k.setFor now key value seconds with
  | error e => exact hk
  | ok k' => exact hj now k k' hnow hk hput

/-- A lookup finds what is there when it reaches the server, or fails. -/
theorem holds_run (cache : CacheSettings) (key : String) (t : Nat) (s : Site) :
    match Site.commandTiming? cache s.passages with
    | some a => (((Site.client cache).holds key).run t s).time = t + a.heard ∧
        (((Site.client cache).holds key).run t s).value = .ok (s.keyspace.get? (s.clock (t + a.served)) key).isSome
    | none => (((Site.client cache).holds key).run t s).value = .error .cache := by
  have hsame : ∀ now k, k = s.keyspace → (k.serve now (.command ["EXISTS", key])).2 = s.keyspace := by
    intro now k hk
    rw [serve_exists]
    exact hk
  have final : ∀ now (k : Keyspace), (k.serve now (.command ["EXISTS", key])).1.isPassing = false := by
    intro now k
    rw [serve_exists]
    rfl
  obtain ⟨e, he, hrun⟩ := Site.command_ends (t := t) (J := (· = s.keyspace)) cache Reply.truth? rfl hsame final
  rw [holds, hrun]
  generalize Site.commandTiming? cache s.passages = timing at he
  cases he with
  | @answered a k hk time value =>
    rw [serve_exists, hk] at value
    refine ⟨time, ?_⟩
    dsimp only
    rw [value]
    cases (s.keyspace.get? (s.clock (t + a.served)) key).isSome <;> rfl
  | failed heard value =>
    dsimp only
    rw [value]
    cases heard <;> rfl

/-- A mark that the server has confirmed is there, from when it was put and for as many seconds as it was put
    for. -/
theorem setWithExpiry_marks (hs : (seconds : Int) ≤ Int64.maxValue.toInt)
    (h : (((Site.client cache).setWithExpiry key value seconds).run t s).value = .ok ()) :
    ∃ a, Site.commandTiming? cache s.passages = some a ∧
      (((Site.client cache).setWithExpiry key value seconds).run t s).state.keyspace.EndsAt key
        (s.clock (t + a.served) + seconds * 1000) := by
  have final : ∀ now (k : Keyspace),
      (k.serve now (.command ["SETEX", key, toString seconds, value])).1.isPassing = false := by
    intro now k
    rw [serve_setex k now key value hs]
    exact settle_final ..
  obtain ⟨e, he, hrun⟩ := Site.command_ends (t := t) (s := s) (J := fun _ => True) cache
    (fun r => if r.isAnswer then some () else none) trivial (fun _ _ _ => trivial) final
  rw [setWithExpiry, hrun] at h ⊢
  dsimp only at h ⊢
  generalize Site.commandTiming? cache s.passages = timing at he
  cases he with
  | @answered a k _ time reply keyspace =>
    refine ⟨a, rfl, ?_⟩
    rw [serve_setex k _ key value hs] at reply keyspace
    rw [keyspace]
    cases hput : k.setFor (s.clock (t + a.served)) key value seconds with
    | error e =>
      rw [reply, hput] at h
      cases h
    | ok k' => exact endsAt_of_setFor hput
  | failed heard reply =>
    rw [reply] at h
    cases heard <;> cases h

theorem isRevoked_run (client : Client Site) (session : String) (t : Nat) (s : Site) :
    (client.repository.isRevoked session).run t s =
      let e := (client.holds (client.settings.key (revocationKey session))).run t s
      ⟨e.time, e.state, e.value.mapError BackendFault.toFault⟩ := by
  rw [repository, Task.run_bind]
  rfl

theorem markRevoked_marks (hs : (seconds : Int) ≤ Int64.maxValue.toInt)
    (h : (((Site.client cache).repository.markRevoked session seconds).run t s).value = .ok ()) :
    ∃ a, Site.commandTiming? cache s.passages = some a ∧
      (((Site.client cache).repository.markRevoked session seconds).run t s).state.keyspace.EndsAt
        (cache.key (revocationKey session)) (s.clock (t + a.served) + seconds * 1000) := by
  rw [repository, Task.run_bind] at h ⊢
  cases hr : (((Site.client cache).setWithExpiry (cache.key (revocationKey session)) "" seconds).run t s).value with
  | error e =>
    have he : (Except.error e : Except BackendFault Unit).mapError BackendFault.toFault = .ok () := hr ▸ h
    cases he
  | ok u => exact setWithExpiry_marks hs hr

end Keyspace.Client

/-! ## The service -/

/-- The marks that a call may put, from an instant on, leave `J` as it was. -/
def SessionCall.Spares (settings : TokenSettings) (cache : CacheSettings) (since : Int) (J : Keyspace → Prop)
    (call : SessionCall) : Prop :=
  ∀ ctx id, call = .revoke ctx id → ∀ now k k', since ≤ now → J k →
    Keyspace.setFor k now (cache.key (revocationKey id)) "" settings.revocationSeconds = .ok k' → J k'

namespace SessionService

variable {settings : TokenSettings} {cache : CacheSettings} {session : String} {last since : Int} {ctx : Context}
  {J : Keyspace → Prop} {m : Moment} {k : Keyspace} {a : Site.Timing}

theorem revocationSeconds_le (c : TokenSettings) : (c.revocationSeconds : Int) ≤ Int64.maxValue.toInt := by
  have hle : c.refreshExpiry.toInt ≤ Int64.maxValue.toInt := c.refreshExpiry.toInt_le
  have hone : 1 ≤ Int64.maxValue.toInt := by decide
  unfold TokenSettings.revocationSeconds
  omega

theorem checkRevoked_keeps :
    ((onSite settings cache).checkRevoked ctx session).Keeps (Site.Since since J) fun _ => True := by
  have hlook : ((Site.client cache).repository.isRevoked session).Keeps (Site.Since since J) fun _ => True :=
    Client.holds_keeps.bind fun _ _ => trivial
  exact (hlook.context ctx).map fun _ _ => trivial

theorem unlessRevoked_keeps {α : Type} (next : α) :
    ((onSite settings cache).unlessRevoked ctx session next).Keeps (Site.Since since J) fun _ => True := by
  refine checkRevoked_keeps.bind fun r _ => ?_
  rcases r with e | _ | _ <;> trivial

theorem unlessRevoked_value {σ α : Type} (service : SessionService σ) (next : α) (t : Nat) (s : σ) :
    ((service.unlessRevoked ctx session next).run t s).value =
      match ((service.checkRevoked ctx session).run t s).value with
      | .error e => .error e
      | .ok true => .error (.token .sessionRevoked)
      | .ok false => .ok next := by
  rw [unlessRevoked, Task.run_bind]
  rcases ((service.checkRevoked ctx session).run t s).value with e | _ | _ <;> rfl

section
variable {σ : Type} {service : SessionService σ} {ctx : Context} {token fingerprint session : String} {now : Int}
  {t : Nat} {s : σ}

theorem unlessRevoked_eq_ok {α : Type} {next a : α} :
    ((service.unlessRevoked ctx session next).run t s).value = .ok a ↔
      next = a ∧ ((service.checkRevoked ctx session).run t s).value = .ok false := by
  rw [unlessRevoked_value]
  rcases ((service.checkRevoked ctx session).run t s).value with e | _ | _
  · simp
  · simp
  · simp

theorem authenticate_eq_ok {claims : AccessClaims} :
    ((service.authenticate ctx token fingerprint now).run t s).value = .ok claims ↔
      service.settings.validateAccess token fingerprint now = .ok claims ∧
        ((service.checkRevoked ctx claims.session).run t s).value = .ok false := by
  unfold authenticate
  cases service.settings.validateAccess token fingerprint now with
  | error e => simp
  | ok found =>
    dsimp only
    rw [unlessRevoked_eq_ok]
    constructor
    · rintro ⟨rfl, hfree⟩
      exact ⟨rfl, hfree⟩
    · rintro ⟨⟨⟩, hfree⟩
      exact ⟨rfl, hfree⟩

theorem refresh_eq_ok {renewed : String} :
    ((service.refresh ctx token fingerprint now).run t s).value = .ok renewed ↔
      ∃ claims, service.settings.validateRefresh token now = .ok claims ∧
        ((service.checkRevoked ctx claims.session).run t s).value = .ok false ∧
        service.settings.signAccess claims.user claims.session fingerprint now = renewed := by
  unfold refresh
  cases service.settings.validateRefresh token now with
  | error e => simp
  | ok found =>
    dsimp only
    rw [unlessRevoked_eq_ok]
    constructor
    · rintro ⟨hnew, hfree⟩
      exact ⟨found, rfl, hfree, hnew⟩
    · rintro ⟨claims, ⟨⟩, hfree, hnew⟩
      exact ⟨hnew, hfree⟩

end

/-- A call keeps what its own marks spare. -/
theorem perform_keeps (call : SessionCall) (now : Int) (hj : call.Spares settings cache since J) :
    ((onSite settings cache).perform now call).Keeps (Site.Since since J) fun _ => True := by
  cases call with
  | issue fresh user fingerprint => trivial
  | renew claims => trivial
  | refresh ctx token fingerprint =>
    refine Task.Keeps.map (P := fun _ => True) ?_ fun _ _ => trivial
    unfold refresh
    cases (onSite settings cache).settings.validateRefresh token now with
    | error e => trivial
    | ok claims => exact unlessRevoked_keeps _
  | authenticate ctx token fingerprint =>
    refine Task.Keeps.map (P := fun _ => True) ?_ fun _ _ => trivial
    unfold authenticate
    cases (onSite settings cache).settings.validateAccess token fingerprint now with
    | error e => trivial
    | ok claims => exact unlessRevoked_keeps _
  | revoke ctx id =>
    refine Task.Keeps.map (P := fun _ => True) ?_ fun _ _ => trivial
    have hmark : ((Site.client cache).repository.markRevoked id settings.revocationSeconds).Keeps
        (Site.Since since J) fun _ => True :=
      (Client.setWithExpiry_keeps (revocationSeconds_le settings) (hj ctx id rfl)).bind fun _ _ => trivial
    exact (hmark.context ctx).map fun _ _ => trivial

/-- What the marks of all calls of a run spare is there after the run. -/
theorem after_keeps {calls : List (Moment × SessionCall)} (hk : J k)
    (hj : ∀ c ∈ calls, c.2.Spares settings cache c.1.wall J) : J ((onSite settings cache).after k calls) := by
  induction calls generalizing k with
  | nil => exact hk
  | cons c calls ih =>
    obtain ⟨m, call⟩ := c
    refine ih ?_ fun c hc => hj c (List.mem_cons_of_mem _ hc)
    have hcall : ((onSite settings cache).perform m.seconds call).Keeps (Site.Since m.wall J) fun _ => True :=
      perform_keeps call m.seconds (hj _ (List.mem_cons_self ..))
    exact (hcall.run (m.site_since hk)).1.2

/-- A mark is kept over a run whose calls are not made before an instant from which it would be put to last as
    long: marks that are put later do not end before it. -/
theorem after_marked {calls : List (Moment × SessionCall)}
    (hm : k.Marked (cache.key (revocationKey session)) (since + settings.revocationSeconds * 1000))
    (hc : ∀ c ∈ calls, since ≤ c.1.wall) : ((onSite settings cache).after k calls).Marked
      (cache.key (revocationKey session)) (since + settings.revocationSeconds * 1000) := by
  refine after_keeps (J := (·.Marked (cache.key (revocationKey session)) (since + settings.revocationSeconds * 1000)))
    hm ?_
  intro c hmem ctx id _ now k k' hnow hm hput
  have hle := hc c hmem
  exact hm.setFor hput (by omega)

theorem answer_ok {α : Type} {o : Option (Except Fault α)} {a : α} (h : answer o = .ok a) : o = some (.ok a) := by
  rcases o with _ | r
  · cases h
  · exact congrArg some h

/-- A session that was revoked is marked, from when the server put the mark. -/
theorem revoke_marks (h : ((onSite settings cache).outcome m k (.revoke ctx session)).value = .revoked (.ok ())) :
    ∃ a, m.timing? cache = some a ∧
      ((onSite settings cache).outcome m k (.revoke ctx session)).state.keyspace.EndsAt
        (cache.key (revocationKey session)) (m.servedAt a + settings.revocationSeconds * 1000) := by
  unfold outcome perform revoke at h ⊢
  rw [Task.run_map, Task.run_map] at h ⊢
  obtain ⟨hv, hs⟩ := Context.run_eq_some (answer_ok (SessionAnswer.revoked.inj h))
  obtain ⟨a, ha, hends⟩ := Client.markRevoked_marks (revocationSeconds_le settings) hv
  rw [m.site_clock_after] at hends
  refine ⟨a, ha, ?_⟩
  dsimp only
  rw [← hs]
  exact hends

/-- A lookup that is answered in time tells whether the session was marked when it reached the server. -/
theorem checkRevoked_answers (settings : TokenSettings) (session : String) (k : Keyspace)
    (h : m.Answers cache ctx a) :
    (((onSite settings cache).checkRevoked ctx session).run m.time (m.site k)).value =
      .ok (k.get? (m.servedAt a) (cache.key (revocationKey session))).isSome := by
  obtain ⟨htiming, hdeadline⟩ := h
  have hlook := Client.holds_run cache (cache.key (revocationKey session)) m.time (m.site k)
  rw [show Site.commandTiming? cache (m.site k).passages = some a from htiming] at hlook
  obtain ⟨htime, hvalue⟩ := hlook
  rw [m.site_clock_after] at hvalue
  have hin : ∀ deadline ∈ ctx.deadline, m.time < deadline ∧
      (((Site.client cache).repository.isRevoked session).run m.time (m.site k)).time ≤ deadline := by
    intro deadline hd
    rw [Client.isRevoked_run]
    exact ⟨(hdeadline deadline hd).1, htime.trans_le (hdeadline deadline hd).2⟩
  unfold checkRevoked
  rw [Task.run_map]
  dsimp only [onSite]
  rw [Context.run_in_time hin, Client.isRevoked_run]
  exact congrArg (fun r => answer (some (r.mapError BackendFault.toFault))) hvalue

/-- What a lookup tells is how it was when it reached the server. -/
theorem checkRevoked_eq_ok {b : Bool}
    (h : (((onSite settings cache).checkRevoked ctx session).run m.time (m.site k)).value = .ok b) :
    ∃ a, m.timing? cache = some a ∧ (k.get? (m.servedAt a) (cache.key (revocationKey session))).isSome = b := by
  unfold checkRevoked at h
  rw [Task.run_map] at h
  obtain ⟨hv, -⟩ := Context.run_eq_some (answer_ok h)
  have hv : ((((Site.client cache).holds (cache.key (revocationKey session))).run m.time (m.site k)).value).mapError
      BackendFault.toFault = .ok b := by
    rw [← hv]
    exact (congrArg Task.End.value (Client.isRevoked_run (Site.client cache) session m.time (m.site k))).symm
  have hlook := Client.holds_run cache (cache.key (revocationKey session)) m.time (m.site k)
  cases ht : Site.commandTiming? cache (m.site k).passages with
  | none =>
    rw [ht] at hlook
    rw [hlook] at hv
    cases hv
  | some a =>
    rw [ht] at hlook
    rw [hlook.2, m.site_clock_after] at hv
    exact ⟨a, ht, Except.ok.inj hv⟩

/-! ## How long a mark lasts -/

/-- A mark that is put once a credential was issued is there as long as the credential is accepted. -/
theorem mark_outlives_credential (c : TokenSettings) {issued cut wall : Int} (hi : issued ≤ cut)
    (h : wall / 1000 < issued / 1000 + c.refreshExpiry.toInt) : wall ≤ cut + c.revocationSeconds * 1000 := by
  unfold TokenSettings.revocationSeconds
  omega

/-! ## Revocation -/

/-- What is asked for a marked session is granted only when the lookup reaches the server past the mark. -/
theorem unlessRevoked_granted {α : Type} {next granted : α} (hm : k.Marked (cache.key (revocationKey session)) last)
    (h : (((onSite settings cache).unlessRevoked ctx session next).run m.time (m.site k)).value = .ok granted) :
    ∃ a, m.timing? cache = some a ∧ last < m.servedAt a := by
  obtain ⟨a, ha, hfree⟩ := checkRevoked_eq_ok (unlessRevoked_eq_ok.mp h).2
  refine ⟨a, ha, ?_⟩
  by_contra hlast
  rw [hm.found (Int.not_lt.mp hlast)] at hfree
  cases hfree

/-- What is asked for a session without a mark is granted, when the server answers in time. -/
theorem unlessRevoked_lapsed {α : Type} (settings : TokenSettings) (h : m.Answers cache ctx a)
    (hk : k.get? (m.servedAt a) (cache.key (revocationKey session)) = none) (next : α) :
    (((onSite settings cache).unlessRevoked ctx session next).run m.time (m.site k)).value = .ok next := by
  rw [unlessRevoked_value, checkRevoked_answers settings session k h, hk]
  rfl

/-- A refresh comes to what the lookup grants, for a credential that is valid. -/
theorem refresh_outcome (settings : TokenSettings) (cache : CacheSettings) (m : Moment) (k : Keyspace) (ctx : Context)
    (token fingerprint : String) :
    ((onSite settings cache).outcome m k (.refresh ctx token fingerprint)).value = .refreshed
      (match settings.validateRefresh token m.seconds with
      | .error e => .error (.token e)
      | .ok claims => (((onSite settings cache).unlessRevoked ctx claims.session
          (settings.signAccess claims.user claims.session fingerprint m.seconds)).run m.time (m.site k)).value) := by
  unfold outcome perform refresh
  rw [Task.run_map]
  dsimp only [onSite]
  cases settings.validateRefresh token m.seconds <;> rfl

/-- A refresh credential that is valid, of a session without a mark, is exchanged when the server answers in
    time. -/
theorem refresh_valid {token : String} {claims : RefreshClaims}
    (hvalid : settings.validateRefresh token m.seconds = .ok claims) (h : m.Answers cache ctx a)
    (hk : k.get? (m.servedAt a) (cache.key (revocationKey claims.session)) = none) (fingerprint : String) :
    ((onSite settings cache).outcome m k (.refresh ctx token fingerprint)).value =
      .refreshed (.ok (settings.signAccess claims.user claims.session fingerprint m.seconds)) := by
  rw [refresh_outcome, hvalid]
  exact congrArg SessionAnswer.refreshed (unlessRevoked_lapsed settings h hk _)

/-- How a refresh ends whose session is marked: it is refused, as revoked or invalid when the server answers in
    time; or its lookup reaches the server past the mark. -/
theorem refresh_marked {token fingerprint : String} (hm : k.Marked (cache.key (revocationKey session)) last)
    (hs : ∀ claims, settings.validateRefresh token m.seconds = .ok claims → claims.session = session) :
    (∃ e, ((onSite settings cache).outcome m k (.refresh ctx token fingerprint)).value = .refreshed (.error e) ∧
      ∀ a, m.Answers cache ctx a → e = .token .sessionRevoked ∨ e = .token .invalidToken) ∨
    (∃ renewed, ((onSite settings cache).outcome m k (.refresh ctx token fingerprint)).value =
        .refreshed (.ok renewed) ∧
      (∃ claims, settings.validateRefresh token m.seconds = .ok claims) ∧
      ∃ a, m.timing? cache = some a ∧ last < m.servedAt a) := by
  rw [refresh_outcome]
  cases hv : settings.validateRefresh token m.seconds with
  | error e =>
    refine Or.inl ⟨.token e, rfl, fun _ _ => Or.inr ?_⟩
    rw [TokenSettings.validateRefresh_error hv]
  | ok claims =>
    obtain rfl := hs claims hv
    dsimp only
    cases hr : (((onSite settings cache).unlessRevoked ctx claims.session
        (settings.signAccess claims.user claims.session fingerprint m.seconds)).run m.time (m.site k)).value with
    | ok renewed => exact Or.inr ⟨renewed, rfl, ⟨claims, rfl⟩, unlessRevoked_granted hm hr⟩
    | error e =>
      refine Or.inl ⟨e, rfl, fun a ha => Or.inl ?_⟩
      rw [unlessRevoked_value, checkRevoked_answers settings claims.session k ha] at hr
      cases hfound : (k.get? (m.servedAt a) (cache.key (revocationKey claims.session))).isSome with
      | true =>
        rw [hfound] at hr
        exact (Except.error.inj hr).symm
      | false =>
        rw [hfound] at hr
        cases hr

theorem revocationKey_inj {a b : String} (h : revocationKey a = revocationKey b) : a = b := by
  have hl := congrArg String.toList h
  simp only [revocationKey, String.toList_append, List.append_cancel_left_eq] at hl
  exact String.toList_inj.mp hl

/-- The end of a mark stays as it is over a run that does not revoke its session. -/
theorem after_endsAt {calls : List (Moment × SessionCall)} (settings : TokenSettings)
    (hk : k.EndsAt (cache.key (revocationKey session)) last) (hc : ∀ c ∈ calls, ∀ ctx, c.2 ≠ .revoke ctx session) :
    ((onSite settings cache).after k calls).EndsAt (cache.key (revocationKey session)) last := by
  refine after_keeps (J := (·.EndsAt (cache.key (revocationKey session)) last)) hk ?_
  intro c hmem ctx id hcall now k k' _ hk hput
  refine hk.setFor hput fun heq => hc c hmem ctx ?_
  rw [hcall, revocationKey_inj (cache.key_inj heq)]

/-- What no event of a history is, no call of its run is. -/
theorem calls_ne {calls : List (Moment × SessionCall)}
    (h : ∀ e ∈ (onSite settings cache).history k calls, ∀ ctx, e.call ≠ .revoke ctx session) :
    ∀ c ∈ calls, ∀ ctx, c.2 ≠ .revoke ctx session := by
  intro c hc ctx
  obtain ⟨e, he, hcall⟩ : ∃ e ∈ (onSite settings cache).history k calls, e.call = c.2 := exists_event k hc
  rw [← hcall]
  exact h e he ctx

/-- What a later call of a run finds of a revocation: the mark is there at least as long from the revocation on as
    it was put for; and it ends as long after it was put, unless the session is revoked once more. -/
theorem found_of_revoked {calls : List (Moment × SessionCall)}
    (clock : calls.Pairwise fun a b => a.1.wall ≤ b.1.wall)
    {before meanwhile later : List SessionEvent} {cut use : SessionEvent}
    (h : (onSite settings cache).history k calls = before ++ cut :: (meanwhile ++ use :: later))
    (hcut : cut.call = .revoke ctx session) (hok : cut.answer = .revoked (.ok ())) :
    ∃ k', use.answer = ((onSite settings cache).outcome use.moment k' use.call).value ∧
      k'.Marked (cache.key (revocationKey session)) (cut.moment.wall + settings.revocationSeconds * 1000) ∧
      ((∀ e ∈ meanwhile, ∀ ctx, e.call ≠ .revoke ctx session) → ∀ a, cut.moment.timing? cache = some a →
        k'.EndsAt (cache.key (revocationKey session))
          (cut.moment.servedAt a + settings.revocationSeconds * 1000)) := by
  obtain ⟨front, rest, rfl, -, hc, hrest⟩ := history_split h
  obtain ⟨middle, rest, rfl, hmeanwhile, hu, -⟩ := history_split hrest.symm
  have hclock := (List.pairwise_append.mp clock).2.1
  rw [List.pairwise_cons] at hclock
  have hsince : ∀ c ∈ middle, cut.moment.wall ≤ c.1.wall := fun c hc => hclock.1 c (List.mem_append_left _ hc)
  rw [hok, hcut] at hc
  obtain ⟨a, ha, hends⟩ := revoke_marks hc.symm
  rw [← hcut] at hends
  have hserved := cut.moment.wall_le_servedAt a
  refine ⟨_, hu, after_marked (hends.marked.mono (by omega)) hsince, fun hfree a' ha' => ?_⟩
  rw [ha] at ha'
  cases ha'
  exact after_endsAt settings hends (calls_ne (hmeanwhile ▸ hfree))

/-! ## Refresh credentials of a revoked session -/

/-- Credentials come from issuing a session only. -/
theorem outcome_issued {call : SessionCall} {pair : TokenPair}
    (h : ((onSite settings cache).outcome m k call).value = .issued pair) :
    ∃ fresh user fingerprint, pair = settings.issue fresh user fingerprint m.seconds := by
  cases call with
  | issue fresh user fingerprint =>
    cases h
    exact ⟨fresh, user, fingerprint, rfl⟩
  | renew claims => cases h
  | refresh ctx token fingerprint =>
    rw [outcome, perform, Task.run_map] at h
    cases h
  | authenticate ctx token fingerprint =>
    rw [outcome, perform, Task.run_map] at h
    cases h
  | revoke ctx id =>
    rw [outcome, perform, Task.run_map] at h
    cases h

/-- What becomes of the refresh credential of a session once that has been revoked: whatever the calls before,
    between and after, whoever makes them, and however the server fares. It is refused, as revoked or invalid
    when the server answers in time. Or else the credential was valid when the refresh began, and its lookup
    reached the server past the mark, by when the credential had expired; and then it is indeed exchanged,
    when the server answers in time. -/
theorem revoked_refreshed_only_past_mark (settings : TokenSettings) (cache : CacheSettings) (k : Keyspace)
    (calls : List (Moment × SessionCall)) (clock : calls.Pairwise fun a b => a.1.wall ≤ b.1.wall)
    {before between meanwhile later : List SessionEvent} {start cut use : SessionEvent} {pair : TokenPair}
    {ctx ctx' : Context} {fingerprint : String}
    (h : (onSite settings cache).history k calls = before ++ start :: (between ++ cut :: (meanwhile ++ use :: later)))
    (hstart : start.answer = .issued pair)
    (hcut : cut.call = .revoke ctx pair.session) (hok : cut.answer = .revoked (.ok ()))
    (huse : use.call = .refresh ctx' pair.refreshToken fingerprint) :
    ((∃ e, use.answer = .refreshed (.error e) ∧
        ∀ a, use.moment.Answers cache ctx' a → e = .token .sessionRevoked ∨ e = .token .invalidToken) ∨
      ∃ token a, use.answer = .refreshed (.ok token) ∧ use.moment.timing? cache = some a ∧
        use.moment.seconds < start.moment.seconds + settings.refreshExpiry.toInt ∧
        cut.moment.wall + settings.revocationSeconds * 1000 < use.moment.servedAt a ∧
        start.moment.seconds + settings.refreshExpiry.toInt ≤ use.moment.servedAt a / 1000) ∧
    ∀ claims a b, settings.validateRefresh pair.refreshToken use.moment.seconds = .ok claims →
      cut.moment.timing? cache = some a → use.moment.Answers cache ctx' b →
      cut.moment.servedAt a + settings.revocationSeconds * 1000 < use.moment.servedAt b →
      (∀ e ∈ between ++ meanwhile, ∀ ctx, e.call ≠ .revoke ctx pair.session) →
      use.answer =
        .refreshed (.ok (settings.signAccess claims.user pair.session fingerprint use.moment.seconds)) := by
  obtain ⟨front, rest, rfl, -, hs, hrest⟩ := history_split h
  have hclock := (List.pairwise_append.mp clock).2.1
  rw [List.pairwise_cons] at hclock
  have hic : start.moment.wall ≤ cut.moment.wall := by
    obtain ⟨middle, _, rfl, -, -, -⟩ := history_split hrest.symm
    exact hclock.1 (cut.moment, cut.call) (by simp)
  rw [hstart] at hs
  obtain ⟨fresh, user, client, rfl⟩ := outcome_issued hs.symm
  obtain ⟨k', hu, hmarked, hends⟩ := found_of_revoked hclock.2 hrest.symm hcut hok
  rw [huse] at hu
  rw [hu]
  constructor
  · refine (refresh_marked hmarked fun claims hv => (TokenSettings.validateRefresh_signed hv).1).imp_right ?_
    rintro ⟨token, hanswer, ⟨claims, hv⟩, a, ha, hpast⟩
    have hlive := (TokenSettings.validateRefresh_signed hv).2
    refine ⟨token, a, hanswer, ha, hlive, hpast, ?_⟩
    by_contra hexpired
    have houtlives := mark_outlives_credential settings hic (Int.not_le.mp hexpired)
    omega
  · intro claims a b hv ha hb hpast hfree
    have hsession : claims.session = (settings.issue fresh user client start.moment.seconds).session :=
      (TokenSettings.validateRefresh_signed hv).1
    have hlapsed := (hends (fun e he => hfree e (List.mem_append_right _ he)) a ha).lapsed hpast
    rw [← hsession] at hlapsed
    rw [refresh_valid hv hb hlapsed, hsession]

/-! ### A session that is revoked over a poor connection -/

/-- A credential that was issued in the first second. -/
def samplePair : TokenPair := TokenSettings.issue {} ⟨fun _ => 0⟩ 7 "browser" 0

/-- The session is revoked a millisecond later, over a connection that loses the first reply. -/
def sampleCut : Moment := ⟨100, .pacing 1000, [⟨5, 5, .failed true .lost⟩]⟩

/-- The credential is presented in the last millisecond of its life, to a server that is starting. -/
def sampleUse : Moment := ⟨900, .pacing 604799999, [⟨5, 5, .failed false (.error "LOADING")⟩]⟩

def sampleCalls : List (Moment × SessionCall) :=
  [(.quiet 999, .issue ⟨fun _ => 0⟩ 7 "browser"), (sampleCut, .revoke ⟨some 500⟩ samplePair.session),
    (sampleUse, .refresh ⟨some 2000⟩ samplePair.refreshToken "browser")]

theorem revoked_refreshed_only_past_mark_sample : sampleCalls.Pairwise (fun a b => a.1.wall ≤ b.1.wall) ∧
    ∃ e, ((onSite {} {}).history {} sampleCalls).getLast?.map SessionEvent.answer = some (.refreshed (.error e)) ∧
      (e = .token .sessionRevoked ∨ e = .token .invalidToken) := by
  have clock : sampleCalls.Pairwise fun a b => a.1.wall ≤ b.1.wall := by decide
  have hrevoked : (((onSite {} {}).revoke ⟨some 500⟩ samplePair.session).run 100 (sampleCut.site {})).value =
      .ok () := by decide +kernel
  have htiming : sampleUse.timing? {} = some ⟨110, 110⟩ := by decide +kernel
  have hin : sampleUse.Answers {} ⟨some 2000⟩ ⟨110, 110⟩ := ⟨htiming, by decide⟩
  obtain ⟨hrefused | ⟨token, a, -, ha, -, hpast, -⟩, -⟩ := revoked_refreshed_only_past_mark {} {} {} sampleCalls clock
    (show (onSite {} {}).history {} sampleCalls =
      [] ++ ⟨_, _, _⟩ :: ([] ++ ⟨_, _, _⟩ :: ([] ++ ⟨_, _, _⟩ :: [])) from rfl)
    rfl rfl ((congrArg Task.End.value (Task.run_map ..)).trans (congrArg SessionAnswer.revoked hrevoked)) rfl
  · obtain ⟨e, he, hfault⟩ := hrefused
    exact ⟨clock, e, congrArg some he, hfault _ hin⟩
  · rw [htiming] at ha
    cases ha
    exact absurd hpast (by decide)

/-! ### A mark that ends on the way -/

/-- A refresh credential lives a minute, an access credential half an hour. -/
def briefMark : TokenSettings := { refreshExpiry := 60 }

def firstSession : String := Entropy.uuid ⟨fun _ => 0⟩

/-- The refresh credential of the session that is issued at first. -/
def firstRefresh : String := briefMark.signRefresh 7 firstSession 0

/-- The last millisecond of its minute, and a connection that takes two milliseconds to the server. -/
def lastMoment : Moment := ⟨59999, .pacing 59999, [{ out := 2 }]⟩

/-- A session is revoked as soon as it was issued, and refreshed at the last moment. -/
def overtakenCalls : List (Moment × SessionCall) :=
  [(.quiet 0, .issue ⟨fun _ => 0⟩ 7 "browser"), (.quiet 0, .revoke .unbounded firstSession),
    (lastMoment, .refresh .unbounded firstRefresh "browser")]

theorem overtakenCalls_revoked :
    ((onSite briefMark {}).outcome (.quiet 0) {} (.revoke .unbounded firstSession)).value = .revoked (.ok ()) := by
  have hr : (((onSite briefMark {}).revoke .unbounded firstSession).run 0 ((Moment.quiet 0).site {})).value =
      .ok () := by
    decide +kernel
  exact (congrArg Task.End.value (Task.run_map ..)).trans (congrArg SessionAnswer.revoked hr)

theorem firstRefresh_valid :
    briefMark.validateRefresh firstRefresh lastMoment.seconds = .ok ⟨7, firstSession, 0, 60, none⟩ := by
  have hseconds : lastMoment.seconds = 59 := by decide
  rw [hseconds]
  have hexpiry : briefMark.refreshExpiry.toInt = 60 := by decide
  refine TokenSettings.validateRefresh_sign (c := briefMark) (by decide) (by decide) ?_ (by decide) ?_
  · rw [hexpiry]
    decide
  · rw [hexpiry]
    decide

/-- The credential is valid when the refresh begins; the lookup reaches the server a millisecond after the mark, and
    the session that was revoked is refreshed. -/
theorem refreshed_as_mark_ends :
    let pair := briefMark.issue ⟨fun _ => 0⟩ 7 "browser" 0
    let run := (onSite briefMark {}).history {} overtakenCalls
    briefMark.check = .ok () ∧ overtakenCalls.Pairwise (fun a b => a.1.wall ≤ b.1.wall) ∧
    run[0]?.map SessionEvent.answer = some (.issued pair) ∧
    run[1]?.map (fun e => (e.call, e.answer)) = some (.revoke .unbounded pair.session, .revoked (.ok ())) ∧
    run[2]?.map (fun e => (e.call, e.answer)) = some (.refresh .unbounded pair.refreshToken "browser",
      .refreshed (.ok (briefMark.signAccess 7 pair.session "browser" 59))) := by
  intro pair run
  have clock : overtakenCalls.Pairwise fun a b => a.1.wall ≤ b.1.wall := by decide
  obtain ⟨k', hu, -, hends⟩ := found_of_revoked clock
    (show run = [⟨_, _, _⟩] ++ ⟨_, _, _⟩ :: ([] ++ ⟨_, _, _⟩ :: []) from rfl) rfl overtakenCalls_revoked
  have hin : lastMoment.Answers {} .unbounded ⟨2, 2⟩ := ⟨by decide +kernel, fun _ h => nomatch h⟩
  have hseconds : (briefMark.revocationSeconds : Int) = 60 := by decide
  have hlast := hends (fun _ h => nomatch h) ⟨0, 0⟩ (Moment.answers_quiet {} 0).timing
  rw [hseconds] at hlast
  have hrefreshed := refresh_valid firstRefresh_valid hin (hlast.lapsed (by decide)) "browser"
  refine ⟨by decide, clock, rfl, ?_, ?_⟩
  · exact congrArg (fun a => some (SessionCall.revoke .unbounded firstSession, a)) overtakenCalls_revoked
  · exact congrArg (fun a => some (SessionCall.refresh .unbounded firstRefresh "browser", a)) (hu.trans hrefreshed)

end SessionService

end Passcode

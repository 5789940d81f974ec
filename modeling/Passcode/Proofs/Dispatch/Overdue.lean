/-
  Passcode.Proofs.Dispatch.Overdue — sends that begin when their deadline has come.

  A limiter is not asked any more, a walk through providers does not begin, and a provider in the process
  looks at the deadline before anything else. A provider that posts messages looks at it with its first
  request, and so at the message before: a message that it cannot compose, or that has no recipients, is
  answered as if there was time. The timeout strategy passes that answer on, and a retry only the answers
  that no other attempt can change.

  Proved: such a send takes no time and leaves everything outside as it was, and what its caller hears,
  whatever the settings and the memory of the policies (`overdue_sends_end`). With nobody to send to, it is
  told that all went well (`overdue_without_recipients`).
-/

import Passcode.Proofs.Dispatch.Gate

namespace Passcode

variable {σ : Type}

/-! ## Providers -/

section
variable {ctx : Context} {t : Nat} (h : ctx.isExpired t = true)
include h

theorem Outbox.provider_expired (name : String) (templates : Templates) (keep : Nat → Outbox → σ → σ)
    (message : Message) (s : σ) :
    (Outbox.provider name templates keep ctx message).run t s = ⟨t, s, .error .cancelled⟩ := by
  simp only [Outbox.provider, Task.run_bind, Task.now, Task.act, Task.run_step, Task.run_done, h, if_true]
  rfl

/-- A message is composed before the deadline is looked at. -/
theorem Twilio.provider_expired (p : ProviderSettings) (templates : Templates) (line : Twilio.Line σ)
    (message : Message) (s : σ) : (Twilio.provider p templates line ctx message).run t s =
      ⟨t, s, match Twilio.compose p templates message with
        | .error fault => .error fault
        | .ok (_, []) => .ok ()
        | .ok (_, _ :: _) => .error .cancelled⟩ := by
  unfold Twilio.provider
  cases Twilio.compose p templates message with
  | error fault => rfl
  | ok composed =>
    obtain ⟨body, numbers⟩ := composed
    cases numbers with
    | nil => rfl
    | cons number rest =>
      simp only [Twilio.postEach, Task.run_bind, Context.run_expired _ _ _ _ h]
      rfl

end

/-- What a provider answers when the deadline has come. -/
def ProviderSettings.overdueAnswer (p : ProviderSettings) (templates : Templates) (message : Message) : Delivery :=
  match p.kind with
  | .memory => .error .cancelled
  | .twilio =>
    match Twilio.compose p templates message with
    | .error fault => .error fault
    | .ok (_, []) => .ok ()
    | .ok (_, _ :: _) => .error .cancelled

namespace DeliverySettings

variable {c : DeliverySettings} {limiter : Limiter σ} {carrier : Carrier σ} {slot : Nat} {clock : σ → Int}
  {ctx : Context} {message : Message} {t : Nat} {d : Deck σ}

theorem provider_overdue (h : ctx.isExpired t = true) {templates : Templates} {place : Nat} {p : ProviderSettings}
    {leaf : Route σ} (hleaf : provider templates carrier place p = .ok leaf) (d : Deck σ) :
    (leaf.send clock ctx message).run t d = ⟨t, d, p.overdueAnswer templates message⟩ := by
  unfold provider at hleaf
  unfold ProviderSettings.overdueAnswer
  cases hkind : p.kind with
  | memory =>
    rw [hkind] at hleaf
    cases hleaf
    rw [Route.send, Deck.run_lift, Outbox.provider_expired h]
  | twilio =>
    rw [hkind] at hleaf
    cases hcheck : Twilio.check p with
    | error e =>
      simp only [hcheck] at hleaf
      cases hleaf
    | ok _ =>
      simp only [hcheck] at hleaf
      cases hleaf
      rw [Route.send, Deck.run_lift, Twilio.provider_expired h]

/-! ## Policies -/

/-- A walk does not begin. -/
theorem walk_overdue {providers : List (Route σ)} (hne : providers ≠ []) (hs : c.strategy ≠ .timeout)
    (h : ctx.isExpired t = true) (slot : Nat) (clock : σ → Int) (message : Message) (d : Deck σ) : ∃ d', d'.outer = d.outer ∧
      ((c.combined slot providers).send clock ctx message).run t d = ⟨t, d', .error .cancelled⟩ := by
  have hjournals : Route.journals clock [] 0 providers ≠ [] := by
    rw [← List.length_pos_iff, Route.length_journals]
    exact List.length_pos_iff.mpr hne
  rw [← Route.journal_finish]
  unfold combined
  cases hstrategy : c.strategy with
  | fixed => exact ⟨d, rfl, congrArg Account.finish (Narrator.failover_expired hjournals h message d)⟩
  | roundRobin =>
    exact ⟨d.advance slot, rfl, congrArg Account.finish (Narrator.rotating_expired hjournals h slot message d)⟩
  | timeout => exact absurd hstrategy hs

/-- The provider in use, by what the timeout strategy remembers. -/
def inUse? (c : DeliverySettings) (s : Streak) : Option ProviderSettings := c.providers[s.pick c.providers.length]?

/-- The provider in use has its say. -/
theorem sticky_overdue {providers : List (Route σ)}
    (hproviders : providersFrom c.templates carrier 0 c.providers = .ok providers) (hne : c.providers ≠ [])
    (hs : c.strategy = .timeout) (h : ctx.isExpired t = true) (slot : Nat) (clock : σ → Int) (message : Message)
    (d : Deck σ) : ∃ p d', c.inUse? (d.streak slot) = some p ∧ d'.outer = d.outer ∧
      ((c.combined slot providers).send clock ctx message).run t d =
        ⟨t, d', p.overdueAnswer c.templates message⟩ := by
  have hlen := length_providersFrom hproviders
  obtain ⟨index, hindex⟩ : ∃ index, (d.streak slot).pick c.providers.length = index := ⟨_, rfl⟩
  have hlt : index < c.providers.length := hindex ▸ Nat.mod_lt _ (List.length_pos_iff.mpr hne)
  have hsettings := List.getElem?_eq_getElem hlt
  obtain ⟨leaf, hleaf, hprovider⟩ := getElem?_providersFrom hproviders hsettings
  refine ⟨c.providers[index], (d.hear slot index (max c.timeoutThreshold.toNat 1) c.providers.length
    (c.providers[index].overdueAnswer c.templates message)).2, by rw [inUse?, hindex, hsettings],
    Deck.hear_outer .., ?_⟩
  have hsender : (Route.senders clock providers)[index]? = some (leaf.send clock) := by
    rw [Route.senders_eq_map, List.getElem?_map, hleaf, Option.map_some]
  have hcount : (Route.senders clock providers).length = c.providers.length := by
    rw [Route.senders_eq_map, List.length_map, hlen]
  have hsent : (leaf.send clock ctx message).run t d = ⟨t, d, c.providers[index].overdueAnswer c.templates message⟩ :=
    provider_overdue h hprovider d
  simp only [combined, hs, Route.send, Dispatch.sticky, Task.run_bind, Task.gets, Task.act, Task.run_step,
    Task.run_done, hcount, hindex, hsender, hsent]
  rfl

/-- What becomes of the answer of an attempt when the deadline has come: instead of another attempt comes a
    cancellation. -/
def lastWord (c : DeliverySettings) : Delivery → Delivery
  | .ok () => .ok ()
  | .error fault => if c.retry.maxRetries ≠ 0 ∧ fault.isRetryable = true then .error .cancelled else .error fault

theorem lastWord_cancelled (c : DeliverySettings) : c.lastWord (.error .cancelled) = .error .cancelled :=
  if_neg fun both => Bool.false_ne_true both.2

theorem retried_overdue {inner : Route σ} {d' : Deck σ} {answer : Delivery} (h : ctx.isExpired t = true)
    (hinner : (inner.send clock ctx message).run t d = ⟨t, d', answer⟩) :
    ((c.retried inner).send clock ctx message).run t d = ⟨t, d', c.lastWord answer⟩ := by
  unfold retried
  by_cases hzero : c.retry.maxRetries = 0
  · rw [if_pos hzero, hinner]
    rcases answer with fault | ⟨⟩
    · simp [lastWord, hzero]
    · rfl
  · rw [if_neg hzero]
    obtain ⟨retries, hretries⟩ : ∃ retries, c.retry.maxRetries.toNat = retries + 1 :=
      Nat.exists_eq_succ_of_ne_zero fun hn => hzero (UInt32.toNat_inj.mp hn)
    rw [Route.send, hretries, Dispatch.retry, Task.run_bind, hinner]
    rcases answer with fault | ⟨⟩
    · by_cases hagain : fault.isRetryable = true
      · have hword : c.lastWord (.error fault) = .error .cancelled := if_pos ⟨hzero, hagain⟩
        rw [hword]
        dsimp only
        rw [if_pos hagain, Task.run_bind, Context.run_expired _ _ _ _ h]
        rfl
      · have hword : c.lastWord (.error fault) = .error fault := if_neg fun both => hagain both.2
        rw [hword]
        dsimp only
        rw [if_neg hagain]
        rfl
    · rfl

theorem limited_overdue (hon : c.rateLimit.enabled = true) (h : ctx.isExpired t = true) (inner : Route σ) :
    ((c.metered limiter inner).send clock ctx message).run t d = ⟨t, d, .error .cancelled⟩ := by
  rw [metered, if_pos hon, Route.send, Dispatch.limited, Task.run_bind, Context.run_expired _ _ _ _ h]
  rfl

/-! ## Chains -/

/-- What a provider in use makes of a message whose deadline has come. -/
structure Relays (c : DeliverySettings) (p : ProviderSettings) (message : Message) (result : Delivery) : Prop where
  kept : p.kind = .memory → result = .error .cancelled
  posted : p.kind = .twilio → ∀ body number rest,
    Twilio.compose p c.templates message = .ok (body, number :: rest) → result = .error .cancelled
  /-- With nobody to send to, the send went well. -/
  idle : p.kind = .twilio → ∀ body, Twilio.compose p c.templates message = .ok (body, []) → result = .ok ()
  /-- What is wrong with a message is said, unless another attempt is due. -/
  faulty : p.kind = .twilio → ∀ fault, Twilio.compose p c.templates message = .error fault → result =
    if c.retry.maxRetries ≠ 0 ∧ fault.isRetryable = true then .error .cancelled else .error fault

/-- How a send ends whose deadline has come when it begins, by the memory of the timeout strategy. -/
structure Overdue (c : DeliverySettings) (message : Message) (s : Streak) (t : Nat) (outer : σ)
    (finish : Task.End (Deck σ) Delivery) : Prop where
  atOnce : finish.time = t
  /-- No provider has kept or posted anything, and no limiter has counted. -/
  untouched : finish.state.outer = outer
  limited : c.rateLimit.enabled = true → finish.value = .error .cancelled
  walks : c.strategy ≠ .timeout → finish.value = .error .cancelled
  relayed : c.rateLimit.enabled = false → c.strategy = .timeout →
    ∃ p, c.inUse? s = some p ∧ c.Relays p message finish.value

theorem relays (c : DeliverySettings) (p : ProviderSettings) (message : Message) :
    c.Relays p message (c.lastWord (p.overdueAnswer c.templates message)) := by
  refine ⟨fun hkind => ?_, fun hkind body number rest h => ?_, fun hkind body h => ?_, fun hkind fault h => ?_⟩
  · rw [ProviderSettings.overdueAnswer, hkind]
    exact c.lastWord_cancelled
  · rw [ProviderSettings.overdueAnswer, hkind]
    simp only [h]
    exact c.lastWord_cancelled
  · rw [ProviderSettings.overdueAnswer, hkind]
    simp only [h]
    rfl
  · rw [ProviderSettings.overdueAnswer, hkind]
    simp only [h]
    rfl

end DeliverySettings

/-- How a send through a chain that settings describe ends when it begins with its deadline come, whatever the
    memory of the policies: it is cancelled, at once, wherever there is a limit, where the strategy walks, and
    where the provider in use is in the process or has something to post. -/
theorem overdue_sends_end (c : DeliverySettings) (limiter : Limiter σ) (carrier : Carrier σ) (slot : Nat)
    {route : Route σ} (h : c.route limiter carrier slot = .ok route) (hopen : c.templateSecret = none)
    (clock : σ → Int) (ctx : Context) (message : Message) (t : Nat) (d : Deck σ) (hexpired : ctx.isExpired t = true) :
    c.Overdue message (d.streak slot) t d.outer ((route.send clock ctx message).run t d) := by
  have hsome := DeliverySettings.providers_ne_nil h
  obtain ⟨providers, hproviders, rfl⟩ := DeliverySettings.route_eq_ok h
  have hne := DeliverySettings.providersFrom_ne_nil hproviders hsome
  rw [DeliverySettings.around, DeliverySettings.guarded, hopen]
  dsimp only
  cases hon : c.rateLimit.enabled with
  | true =>
    rw [DeliverySettings.limited_overdue hon hexpired]
    exact ⟨rfl, rfl, fun _ => rfl, fun _ => rfl, fun hoff => absurd (hoff.symm.trans hon) Bool.false_ne_true⟩
  | false =>
    rw [DeliverySettings.metered, hon, if_neg Bool.false_ne_true]
    by_cases hs : c.strategy = .timeout
    · obtain ⟨p, d', hp, houter, hrun⟩ := DeliverySettings.sticky_overdue hproviders hsome hs hexpired slot
        clock message d
      rw [DeliverySettings.retried_overdue hexpired hrun]
      exact ⟨rfl, houter, fun hon' => absurd (hon.symm.trans hon') Bool.false_ne_true, fun hother => absurd hs hother,
        fun _ _ => ⟨p, hp, c.relays p message⟩⟩
    · obtain ⟨d', houter, hrun⟩ := DeliverySettings.walk_overdue hne hs hexpired slot clock message d
      rw [DeliverySettings.retried_overdue hexpired hrun]
      exact ⟨rfl, houter, fun hon' => absurd (hon.symm.trans hon') Bool.false_ne_true,
        fun _ => c.lastWord_cancelled, fun _ hs' => absurd hs' hs⟩

/-! ### One provider that posts messages, and no limit -/

/-- A template that nobody knows is not looked for again. -/
theorem overdue_sends_end_sample : ∃ route, unlimitedSettings.route lenientLimiter muteCarrier 0 = .ok route ∧
    unlimitedSettings.templateSecret = none ∧ (Context.bounded 5).isExpired 5 = true ∧
    let message : Message := ⟨"promo", [], ["+8613800138000"]⟩
    let finish := (route.send (fun _ => 0) (.bounded 5) message).run 5 { outer := () }
    finish.value = .error .cancelled ∧ unlimitedSettings.Overdue message {} 5 () finish := by
  refine ⟨_, rfl, rfl, rfl, by decide +kernel, ?_⟩
  exact overdue_sends_end unlimitedSettings lenientLimiter muteCarrier 0 rfl rfl (fun _ => 0) (.bounded 5) _ 5
    { outer := () } rfl

/-- A caller who gave up before the send and has nobody to send to hears that all went well. -/
theorem overdue_without_recipients : ∃ route, unlimitedSettings.route lenientLimiter muteCarrier 0 = .ok route ∧
    unlimitedSettings.templateSecret = none ∧ (Context.bounded 5).isExpired 5 = true ∧
    let message : Message := ⟨defaultCodeTemplate, [⟨"code", "123456"⟩], []⟩
    ((route.send (fun _ => 0) (.bounded 5) message).run 5 { outer := () }).value = .ok () := by
  exact ⟨_, rfl, rfl, rfl, by decide +kernel⟩

end Passcode

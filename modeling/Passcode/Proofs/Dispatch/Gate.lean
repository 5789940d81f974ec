/-
  Passcode.Proofs.Dispatch.Gate — what a send has to pass before a chain contacts a provider.

  The policies of a chain stand in a fixed order. The template id is checked first; then the limiter is
  asked, once for the whole send; only then come retries, and inside them the providers. So a send that
  is refused on its way in reaches no provider, and what is behind the gate does not ask again.

  Proved: the ways a send can go at the gate (`course`), and from them what a chain promises its limiter,
  its providers and its caller (`sends_gated`). One send gets past a deadline that has come already:
  without a limit the timeout strategy hands it to the provider in use, and a provider that looks at the
  message first answers what is wrong with it, and not that the send is cancelled
  (`elapsed_deadline_answered`).
-/

import Passcode.Proofs.Dispatch.Reach

namespace Passcode

open Happening (isContact isConsultation)

variable {σ : Type}

/-! ## Limiters and template ids -/

namespace Narrator

variable {ctx : Context} {narrator : Narrator σ} {t : Nat}

theorem limited_expired {limiter : Limiter σ} {place : List Nat} {key : String} {message : Message} {d : Deck σ}
    (h : ctx.isExpired t = true) : limited place limiter key narrator ctx message t d =
      ⟨[⟨t, d, .cutOff place⟩], t, d, .error .cancelled⟩ := by
  unfold limited
  rw [Teller.now_bind, if_pos h]
  rfl

theorem limited_live {limiter : Limiter σ} {place : List Nat} {key : String} {message : Message} {d : Deck σ}
    (h : ctx.isExpired t = false) {e : Task.End (Deck σ) (Option (Except LimitFault Bool))}
    (he : (ctx.run (Deck.lift (limiter key))).run t d = e) : limited place limiter key narrator ctx message t d =
      let b := replying place narrator ctx message e.value e.time e.state
      ⟨⟨t, d, .consulted place key⟩ :: b.entries, b.finish⟩ := by
  subst he
  unfold limited
  rw [Teller.now_bind, if_neg (Bool.eq_false_iff.mp h)]
  rfl

theorem authorized_eq (clock : σ → Int) (secret : String) (narrator : Narrator σ) (ctx : Context) (message : Message)
    (t : Nat) (d : Deck σ) : authorized clock secret narrator ctx message t d =
      match Dispatch.authorize secret message.template (clock d.outer) with
      | .error fault => ⟨[], t, d, .error fault⟩
      | .ok template => narrator ctx { message with template } t d := by
  unfold authorized
  rw [Teller.doing_bind]
  show (match Dispatch.authorize secret message.template (clock d.outer) with
    | .error fault => (Pure.pure (Except.error fault) : Teller σ Delivery)
    | .ok template => narrator ctx { message with template }) t d = _
  cases Dispatch.authorize secret message.template (clock d.outer) <;> rfl

end Narrator

theorem Dispatch.authorize_error {secret token : String} {now : Int} {fault : SendFault}
    (h : authorize secret token now = .error fault) : ∃ reason, fault = .unauthorized reason := by
  unfold authorize at h
  split at h
  · cases h
    exact ⟨_, rfl⟩
  · split at h
    · cases h
      exact ⟨_, rfl⟩
    · cases h

namespace DeliverySettings

variable {c : DeliverySettings} {limiter : Limiter σ} {clock : σ → Int} {ctx : Context} {message : Message} {t : Nat}
  {d : Deck σ}

/-! ## The gate -/

/-- What a chain sends for a message, when it takes its template id at an instant in seconds since 1970. -/
def admitted (c : DeliverySettings) (message : Message) (now : Int) : Except SendFault Message :=
  match c.templateSecret with
  | none => .ok message
  | some secret => (Dispatch.authorize secret message.template now).map fun template => { message with template }

theorem admitted_error {now : Int} {fault : SendFault} (h : c.admitted message now = .error fault) :
    ∃ reason, fault = .unauthorized reason := by
  unfold admitted at h
  split at h
  · cases h
  · next secret _ =>
    cases hauth : Dispatch.authorize secret message.template now with
    | error e =>
      rw [hauth] at h
      cases h
      exact Dispatch.authorize_error hauth
    | ok template =>
      rw [hauth] at h
      cases h

/-- What comes of asking the limiter of a chain at a time: its reply, unless the deadline cuts it off. -/
def asked (c : DeliverySettings) (limiter : Limiter σ) (ctx : Context) (t : Nat) (d : Deck σ) :
    Task.End (Deck σ) (Option (Except LimitFault Bool)) :=
  (ctx.run (Deck.lift (limiter c.channelKey))).run t d

/-- When a send that asks at a time gets past the limiter, if there is one. -/
def opensAt? (c : DeliverySettings) (limiter : Limiter σ) (ctx : Context) (t : Nat) (d : Deck σ) : Option Nat :=
  if c.rateLimit.enabled then
    match (c.asked limiter ctx t d).value with
    | some (.ok false) => some (c.asked limiter ctx t d).time
    | _ => none
  else some t

/-- The ways a send can go at the gate, with its journal; `inner` is what is behind the gate. -/
inductive Course (c : DeliverySettings) (limiter : Limiter σ) (clock : σ → Int) (inner : Narrator σ) (ctx : Context)
    (message : Message) (t : Nat) (d : Deck σ) : Account σ Delivery → Prop where
  | refused {fault : SendFault} (h : c.admitted message (clock d.outer) = .error fault) :
      Course c limiter clock inner ctx message t d ⟨[], t, d, .error fault⟩
  | unlimited {m : Message} (h : c.admitted message (clock d.outer) = .ok m) (hoff : c.rateLimit.enabled = false) :
      Course c limiter clock inner ctx message t d (inner ctx m t d)
  | late {m : Message} (h : c.admitted message (clock d.outer) = .ok m) (hon : c.rateLimit.enabled = true)
      (hexpired : ctx.isExpired t = true) :
      Course c limiter clock inner ctx message t d ⟨[⟨t, d, .cutOff []⟩], t, d, .error .cancelled⟩
  | cutOff {m : Message} (h : c.admitted message (clock d.outer) = .ok m) (hon : c.rateLimit.enabled = true)
      {t' : Nat} {d' : Deck σ} (hasked : c.asked limiter ctx t d = ⟨t', d', none⟩) :
      Course c limiter clock inner ctx message t d
        ⟨[⟨t, d, .consulted [] c.channelKey⟩, ⟨t', d', .cutOff []⟩], t', d', .error .cancelled⟩
  | turnedAway {m : Message} (h : c.admitted message (clock d.outer) = .ok m) (hon : c.rateLimit.enabled = true)
      {t' : Nat} {d' : Deck σ} {reply : Except LimitFault Bool}
      (hasked : c.asked limiter ctx t d = ⟨t', d', some reply⟩) (hreply : reply ≠ .ok false) :
      Course c limiter clock inner ctx message t d
        ⟨[⟨t, d, .consulted [] c.channelKey⟩, ⟨t', d', .replied [] reply⟩], t', d', .error .rateLimited⟩
  | letThrough {m : Message} (h : c.admitted message (clock d.outer) = .ok m) (hon : c.rateLimit.enabled = true)
      {t' : Nat} {d' : Deck σ} (hasked : c.asked limiter ctx t d = ⟨t', d', some (.ok false)⟩) :
      Course c limiter clock inner ctx message t d
        ⟨⟨t, d, .consulted [] c.channelKey⟩ :: ⟨t', d', .replied [] (.ok false)⟩ :: (inner ctx m t' d').entries,
          (inner ctx m t' d').finish⟩

theorem metered_course (inner : Route σ) {m : Message} (h : c.admitted message (clock d.outer) = .ok m) :
    Course c limiter clock (inner.journal clock []) ctx message t d
      ((c.metered limiter inner).journal clock [] ctx m t d) := by
  unfold metered
  cases hon : c.rateLimit.enabled with
  | false => exact .unlimited h hon
  | true =>
    show Course _ _ _ _ _ _ _ _ (Narrator.limited [] limiter c.channelKey (inner.journal clock []) ctx m t d)
    by_cases hexpired : ctx.isExpired t = true
    · rw [Narrator.limited_expired hexpired]
      exact .late h hon hexpired
    · obtain ⟨t', d', reply, hasked⟩ : ∃ t' d' reply, c.asked limiter ctx t d = ⟨t', d', reply⟩ := ⟨_, _, _, rfl⟩
      rw [Narrator.limited_live (Bool.eq_false_iff.mpr hexpired) (e := ⟨t', d', reply⟩) hasked]
      rcases reply with _ | fault | _ | _
      · exact .cutOff h hon hasked
      · exact .turnedAway h hon hasked nofun
      · exact .letThrough h hon hasked
      · exact .turnedAway h hon hasked nofun

/-- Every send goes one of these ways. -/
theorem course (inner : Route σ) : Course c limiter clock (inner.journal clock []) ctx message t d
    ((c.guarded (c.metered limiter inner)).journal clock [] ctx message t d) := by
  unfold guarded
  cases hsecret : c.templateSecret with
  | none => exact metered_course inner (by rw [admitted, hsecret])
  | some secret =>
    have hadmitted : c.admitted message (clock d.outer) =
        (Dispatch.authorize secret message.template (clock d.outer)).map fun template => { message with template } := by
      rw [admitted, hsecret]
    show Course _ _ _ _ _ _ _ _
      (Narrator.authorized clock secret ((c.metered limiter inner).journal clock []) ctx message t d)
    rw [Narrator.authorized_eq]
    cases hauth : Dispatch.authorize secret message.template (clock d.outer) with
    | error fault =>
      rw [hauth] at hadmitted
      exact .refused hadmitted
    | ok template =>
      rw [hauth] at hadmitted
      exact metered_course inner hadmitted

/-! ## Chains -/

/-- What a chain promises of a send that begins at `t`, or at `now` in seconds since 1970, by the entries
    of its journal and its result. -/
structure Gated (c : DeliverySettings) (limiter : Limiter σ) (ctx : Context) (message : Message) (now : Int) (t : Nat)
    (d : Deck σ) (entries : List (Entry σ)) (result : Delivery) : Prop where
  /-- The limiter is consulted at most once. -/
  once : Happening.count isConsultation entries ≤ 1
  /-- It is consulted before anything else happens, only if the settings ask for it, under the key of the
      channel, and only once the template id has been taken. -/
  consultation : ∀ before e after place key, entries = before ++ e :: after → e.what = .consulted place key →
    before = [] ∧ c.rateLimit.enabled = true ∧ key = c.channelKey ∧ ∃ m, c.admitted message now = .ok m
  /-- Nobody is contacted without it, if the settings ask for it. -/
  permission : c.rateLimit.enabled = true → 0 < Happening.count isContact entries →
    (c.asked limiter ctx t d).value = some (.ok false) ∧
      ∃ first rest, entries = first :: rest ∧ first.what = .consulted [] c.channelKey
  contacts : Happening.count isContact entries ≤ c.mostContacts
  /-- A template id that is refused ends the send before anything happens. -/
  refused : ∀ fault, c.admitted message now = .error fault →
    entries = [] ∧ result = .error fault ∧ ∃ reason, fault = .unauthorized reason
  /-- So does a limiter that reports the limit reached, or fails. -/
  limited : ∀ m reply, c.admitted message now = .ok m → c.rateLimit.enabled = true →
    (c.asked limiter ctx t d).value = some reply → reply ≠ .ok false →
    Happening.count isContact entries = 0 ∧ result = .error .rateLimited
  /-- And a deadline that comes before its reply. -/
  cutOff : ∀ m, c.admitted message now = .ok m → c.rateLimit.enabled = true →
    (c.asked limiter ctx t d).value = none →
    Happening.count isContact entries = 0 ∧ result = .error .cancelled
  /-- A send that gets past the limiter, or has none to pass, when its deadline has come is cancelled
      before anyone is contacted; the timeout strategy lets it reach the provider in use. -/
  late : ∀ m opened, c.admitted message now = .ok m → c.opensAt? limiter ctx t d = some opened →
    ctx.isExpired opened = true → Happening.count isContact entries ≤ 1 ∧
      (c.strategy ≠ .timeout → Happening.count isContact entries = 0 ∧ result = .error .cancelled)

/-- Where only the first entry is a consultation, every consultation is the first entry. -/
theorem consultation_first {first e : Entry σ} {rest before after : List (Entry σ)}
    (hrest : Happening.count isConsultation rest = 0) (h : first :: rest = before ++ e :: after)
    (he : isConsultation e.what = true) : before = [] ∧ e = first := by
  cases before with
  | nil => exact ⟨rfl, (List.cons_eq_cons.mp h).1.symm⟩
  | cons other before =>
    have hm : e ∈ rest := by
      rw [(List.cons_eq_cons.mp h).2]
      simp
    rw [Happening.count_eq_zero.mp hrest e hm] at he
    cases he

namespace Course

variable {inner : Narrator σ} {a : Account σ Delivery} {m : Message}

theorem once (h : Course c limiter clock inner ctx message t d a) (hinner : Bounded c ctx inner) :
    Happening.count isConsultation a.entries ≤ 1 := by
  cases h with
  | refused | late => exact Nat.zero_le 1
  | unlimited => exact Nat.le_trans (hinner.quiet _ t d) (Nat.zero_le 1)
  | cutOff | turnedAway => exact Nat.le_refl 1
  | @letThrough m _ _ t' d' _ =>
    rw [Happening.count_cons, Happening.count_cons, Nat.le_zero.mp (hinner.quiet m t' d')]
    exact Nat.le_refl 1

theorem consultation (h : Course c limiter clock inner ctx message t d a) (hinner : Bounded c ctx inner)
    {before after : List (Entry σ)} {e : Entry σ} {place : List Nat} {key : String}
    (hsplit : a.entries = before ++ e :: after) (he : e.what = .consulted place key) :
    before = [] ∧ c.rateLimit.enabled = true ∧ key = c.channelKey ∧
      ∃ m, c.admitted message (clock d.outer) = .ok m := by
  have hkind : isConsultation e.what = true := by rw [he]; rfl
  have hmem : e ∈ a.entries := by rw [hsplit]; simp
  cases h with
  | refused => cases hmem
  | unlimited =>
    rw [Happening.count_eq_zero.mp (Nat.le_zero.mp (hinner.quiet _ t d)) e hmem] at hkind
    cases hkind
  | late =>
    rw [List.mem_singleton.mp hmem] at hkind
    cases hkind
  | cutOff hm hon | turnedAway hm hon =>
    obtain ⟨hfirst, rfl⟩ := consultation_first rfl hsplit hkind
    cases he
    exact ⟨hfirst, hon, rfl, _, hm⟩
  | @letThrough m hm hon t' d' _ =>
    have hrest : Happening.count isConsultation
        (⟨t', d', .replied [] (.ok false)⟩ :: (inner ctx m t' d').entries) = 0 :=
      Nat.le_zero.mp (hinner.quiet m t' d')
    obtain ⟨hfirst, rfl⟩ := consultation_first hrest hsplit hkind
    cases he
    exact ⟨hfirst, hon, rfl, _, hm⟩

theorem permission (h : Course c limiter clock inner ctx message t d a) (hon : c.rateLimit.enabled = true)
    (hcontact : 0 < Happening.count isContact a.entries) :
    (c.asked limiter ctx t d).value = some (.ok false) ∧
      ∃ first rest, a.entries = first :: rest ∧ first.what = .consulted [] c.channelKey := by
  cases h with
  | refused | late | cutOff | turnedAway => cases hcontact
  | unlimited _ hoff => cases hon.symm.trans hoff
  | letThrough _ _ hasked => exact ⟨by rw [hasked], _, _, rfl, rfl⟩

theorem contacts (h : Course c limiter clock inner ctx message t d a) (hinner : Bounded c ctx inner) :
    Happening.count isContact a.entries ≤ c.mostContacts := by
  cases h with
  | refused | late | cutOff | turnedAway => exact Nat.zero_le _
  | unlimited => exact hinner.contacts _ t d
  | @letThrough m _ _ t' d' _ => exact hinner.contacts m t' d'

theorem refused_ends (h : Course c limiter clock inner ctx message t d a) {fault : SendFault}
    (hfault : c.admitted message (clock d.outer) = .error fault) :
    a.entries = [] ∧ a.finish.value = .error fault ∧ ∃ reason, fault = .unauthorized reason := by
  cases h with
  | refused hown =>
    cases hfault.symm.trans hown
    exact ⟨rfl, rfl, admitted_error hfault⟩
  | unlimited hm | late hm | cutOff hm | turnedAway hm | letThrough hm => cases hfault.symm.trans hm

theorem limited_ends (h : Course c limiter clock inner ctx message t d a)
    (hm : c.admitted message (clock d.outer) = .ok m) (hon : c.rateLimit.enabled = true)
    {reply : Except LimitFault Bool} (hreply : (c.asked limiter ctx t d).value = some reply) (hno : reply ≠ .ok false) :
    Happening.count isContact a.entries = 0 ∧ a.finish.value = .error .rateLimited := by
  cases h with
  | refused hfault => cases hm.symm.trans hfault
  | unlimited _ hoff => cases hon.symm.trans hoff
  | late _ _ hexpired =>
    rw [asked, Context.run_expired _ _ _ _ hexpired] at hreply
    cases hreply
  | cutOff _ _ hasked =>
    rw [hasked] at hreply
    cases hreply
  | turnedAway => exact ⟨rfl, rfl⟩
  | letThrough _ _ hasked =>
    rw [hasked] at hreply
    cases hreply
    exact absurd rfl hno

theorem cutOff_ends (h : Course c limiter clock inner ctx message t d a)
    (hm : c.admitted message (clock d.outer) = .ok m) (hon : c.rateLimit.enabled = true)
    (hreply : (c.asked limiter ctx t d).value = none) :
    Happening.count isContact a.entries = 0 ∧ a.finish.value = .error .cancelled := by
  cases h with
  | refused hfault => cases hm.symm.trans hfault
  | unlimited _ hoff => cases hon.symm.trans hoff
  | late | cutOff => exact ⟨rfl, rfl⟩
  | turnedAway _ _ hasked | letThrough _ _ hasked =>
    rw [hasked] at hreply
    cases hreply

theorem late_ends (h : Course c limiter clock inner ctx message t d a) (hinner : Bounded c ctx inner)
    (hm : c.admitted message (clock d.outer) = .ok m) {opened : Nat}
    (hopened : c.opensAt? limiter ctx t d = some opened) (hexpired : ctx.isExpired opened = true) :
    Happening.count isContact a.entries ≤ 1 ∧
      (c.strategy ≠ .timeout → Happening.count isContact a.entries = 0 ∧ a.finish.value = .error .cancelled) := by
  unfold opensAt? at hopened
  cases h with
  | refused hfault => cases hm.symm.trans hfault
  | unlimited _ hoff =>
    rw [hoff] at hopened
    cases hopened
    exact hinner.late _ t d hexpired
  | late | cutOff => exact ⟨Nat.zero_le 1, fun _ => ⟨rfl, rfl⟩⟩
  | @turnedAway _ _ hon _ _ reply hasked hno =>
    rw [if_pos hon, hasked] at hopened
    rcases reply with _ | _ | _
    · cases hopened
    · exact absurd rfl hno
    · cases hopened
  | @letThrough m _ hon t' d' hasked =>
    rw [if_pos hon, hasked] at hopened
    cases hopened
    exact hinner.late m t' d' hexpired

theorem gated (h : Course c limiter clock inner ctx message t d a) (hinner : Bounded c ctx inner) :
    Gated c limiter ctx message (clock d.outer) t d a.entries a.finish.value where
  once := h.once hinner
  consultation _ _ _ _ _ := h.consultation hinner
  permission := h.permission
  contacts := h.contacts hinner
  refused _ := h.refused_ends
  limited _ _ hm hon := h.limited_ends hm hon
  cutOff _ := h.cutOff_ends
  late _ _ hm := h.late_ends hinner hm

end Course

end DeliverySettings

/-- In every send through a chain that settings describe, whatever its limiter and its APIs do and
    whatever the policies remember, the limiter is consulted at most once, under the key of the channel,
    behind the check of the template id and before the providers; whatever ends the send up to there ends
    it before a provider is contacted; and the retries and providers of the settings bound the rest. -/
theorem sends_gated (c : DeliverySettings) (limiter : Limiter σ) (carrier : Carrier σ) (slot : Nat) {route : Route σ}
    (h : c.route limiter carrier slot = .ok route) (clock : σ → Int) (ctx : Context) (message : Message) (t : Nat)
    (d : Deck σ) :
    c.Gated limiter ctx message (clock d.outer) t d (route.journal clock [] ctx message t d).entries
      ((route.send clock ctx message).run t d).value := by
  have hsome := DeliverySettings.providers_ne_nil h
  obtain ⟨providers, hproviders, rfl⟩ := DeliverySettings.route_eq_ok h
  have hlen := DeliverySettings.length_providersFrom hproviders
  have hne := DeliverySettings.providersFrom_ne_nil hproviders hsome
  have hbehind : c.Bounded ctx ((c.behind slot providers).journal clock []) := by
    refine DeliverySettings.behind_bounded hlen hne fun route hm => ?_
    obtain ⟨place, settings, hleaf⟩ := DeliverySettings.mem_providersFrom hproviders hm
    rcases DeliverySettings.provider_eq_ok hleaf with rfl | rfl
    · exact ⟨_, _, rfl⟩
    · exact ⟨_, _, rfl⟩
  rw [← Route.journal_finish]
  exact (DeliverySettings.course (c.behind slot providers)).gated hbehind

/-! ### A limit, two silent APIs and one repetition: the bound is reached -/

def silentSettings : DeliverySettings := {
  providers := [
    { name := "first", kind := .twilio, accountSid := "AC0", authToken := "token", fromNumber := "+15550001111" },
    { name := "second", kind := .twilio, accountSid := "AC1", authToken := "token", fromNumber := "+15550001111" }]
  strategy := .fixed
  retry := { maxRetries := 1 } }

def lenientLimiter : Limiter Unit := fun _ => do
  Task.sleep 30
  return .ok false

def muteCarrier : Carrier Unit where
  keep _ _ _ s := s
  line _ _ _ s := ({ exchange := .silent }, s)

theorem sends_gated_sample : ∃ route, silentSettings.route lenientLimiter muteCarrier 0 = .ok route ∧
    let message := ⟨defaultCodeTemplate, [⟨"code", "123456"⟩], ["+8613800138000"]⟩
    let entries := (route.journal (fun _ => 0) [] .unbounded message 0 { outer := () }).entries
    Happening.count isContact entries = 4 ∧ silentSettings.mostContacts = 4 ∧
      silentSettings.Gated lenientLimiter .unbounded message 0 0 { outer := () } entries
        ((route.send (fun _ => 0) .unbounded message).run 0 { outer := () }).value := by
  refine ⟨_, rfl, by decide +kernel, rfl, ?_⟩
  exact sends_gated silentSettings lenientLimiter muteCarrier 0 rfl (fun _ => 0) .unbounded _ 0 { outer := () }

/-! ### A deadline that has come, and a provider that looks at the message first -/

def unlimitedSettings : DeliverySettings := {
  providers := [
    { name := "api", kind := .twilio, accountSid := "AC0", authToken := "token", fromNumber := "+15550001111" }]
  rateLimit := .development }

/-- A caller who gives up at once hears that a recipient is bad, and not that the send is cancelled. -/
theorem elapsed_deadline_answered : ∃ route, unlimitedSettings.route lenientLimiter muteCarrier 0 = .ok route ∧
    let message := ⟨defaultCodeTemplate, [⟨"code", "123456"⟩], ["12"]⟩
    (Context.bounded 0).isExpired 0 = true ∧
    Happening.count isContact (route.journal (fun _ => 0) [] (.bounded 0) message 0 { outer := () }).entries = 1 ∧
    ((route.send (fun _ => 0) (.bounded 0) message).run 0 { outer := () }).value =
      .error (.invalidRecipient (Phone.mask "12")) := by
  refine ⟨_, rfl, rfl, by decide +kernel, ?_⟩
  rfl

end Passcode

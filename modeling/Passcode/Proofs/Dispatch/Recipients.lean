/-
  Passcode.Proofs.Dispatch.Recipients — which messages are refused for their recipients.

  Every provider looks at all recipients of a message before it does anything with it, and refuses the
  message for the first one that cannot be addressed. Nothing else is a refusal of recipients: not a
  request that fails, not the word of a limiter, and none of the policies refuses anyone by itself.

  Proved: both kinds of provider take the recipients that can be addressed (`Outbox.address_eq_ok`,
  `Twilio.targets_eq_ok`), and so does a route of such providers, whatever policies are around them
  (`Route.takes`), a chain that settings describe among others (`DeliverySettings.route_ofProviders`).
-/

import Passcode.Proofs.Dispatch.Chain
import Passcode.Proofs.Phone
import Passcode.Proofs.Task

namespace Passcode

variable {σ : Type}

/-! ## Providers -/

/-- The recipients of a message can all be addressed. -/
def Reachable (recipients : List String) : Prop := ∀ r ∈ recipients, Phone.isAddressable r = true

theorem reachable_cons {recipient : String} {rest : List String} :
    Reachable (recipient :: rest) ↔ Phone.isAddressable recipient = true ∧ Reachable rest := List.forall_mem_cons

theorem Outbox.address_eq_ok {template body : String} {recipients : List String} :
    (∃ accepted, Outbox.address template body recipients = .ok accepted) ↔ Reachable recipients := by
  induction recipients with
  | nil => exact ⟨fun _ => nofun, fun _ => ⟨_, rfl⟩⟩
  | cons recipient rest ih =>
    rw [Outbox.address, Phone.isAddressable_normalize, reachable_cons, ← ih]
    cases Phone.isAddressable recipient with
    | false => exact ⟨nofun, nofun⟩
    | true =>
      cases Outbox.address template body rest with
      | error fault => exact ⟨nofun, fun h => nomatch h.2⟩
      | ok accepted => exact ⟨fun _ => ⟨rfl, accepted, rfl⟩, fun _ => ⟨_, rfl⟩⟩

theorem Twilio.targets_eq_ok {recipients : List String} :
    (∃ numbers, Twilio.targets recipients = .ok numbers) ↔ Reachable recipients := by
  induction recipients with
  | nil => exact ⟨fun _ => nofun, fun _ => ⟨_, rfl⟩⟩
  | cons recipient rest ih =>
    rw [Twilio.targets, reachable_cons, ← ih, ← Phone.international?_isSome]
    cases Phone.international? recipient with
    | none => exact ⟨nofun, nofun⟩
    | some number =>
      cases Twilio.targets rest with
      | error fault => exact ⟨nofun, fun h => nomatch h.2⟩
      | ok numbers => exact ⟨fun _ => ⟨rfl, numbers, rfl⟩, fun _ => ⟨_, rfl⟩⟩

/-- A live send of a provider that keeps messages ends as its composition does. -/
theorem Outbox.provider_live {ctx : Context} {t : Nat} (h : ctx.isExpired t = false) (name : String)
    (templates : Templates) (keep : Nat → Outbox → σ → σ) (message : Message) (s : σ) :
    ((Outbox.provider name templates keep ctx message).run t s).value =
      (Outbox.compose name templates message).map fun _ => () := by
  simp only [Outbox.provider, Task.run_bind, Task.now, Task.act, Task.run_step, Task.run_done, h, Bool.false_eq_true,
    if_false]
  cases Outbox.compose name templates message <;> rfl

/-- A send that ends without refusing a recipient, whatever else went wrong. -/
def Unrefused (result : Delivery) : Prop := ∀ masked, result ≠ .error (.invalidRecipient masked)

/-- A sender that refuses no message to these recipients for them. -/
def Sender.Takes (recipients : List String) (sender : Sender σ) : Prop :=
  ∀ ctx template arguments, (sender ctx ⟨template, arguments, recipients⟩).Keeps (fun _ => True) Unrefused

variable {recipients : List String}

theorem Outbox.compose_unrefused (h : Reachable recipients) (name : String) (templates : Templates)
    (template : String) (arguments : List Argument) (masked : String) :
    Outbox.compose name templates ⟨template, arguments, recipients⟩ ≠ .error (.invalidRecipient masked) := by
  unfold Outbox.compose
  dsimp only
  cases templates.body? template with
  | none => exact nofun
  | some body =>
    obtain ⟨accepted, haccepted⟩ : ∃ accepted,
      Outbox.address template (Message.render body arguments) recipients = .ok accepted := Outbox.address_eq_ok.mpr h
    simp only [haccepted]
    exact nofun

theorem Outbox.takes (h : Reachable recipients) (name : String) (templates : Templates)
    (keep : Nat → Outbox → σ → σ) : (Outbox.provider name templates keep).Takes recipients := by
  intro ctx template arguments
  refine Task.keeps_bind fun now => ?_
  have hcompose := Outbox.compose_unrefused h name templates template arguments
  cases ctx.isExpired now with
  | true => exact nofun
  | false =>
    cases hresult : Outbox.compose name templates ⟨template, arguments, recipients⟩ with
    | error fault =>
      intro masked hrefused
      cases hrefused
      exact hcompose masked hresult
    | ok accepted => exact Task.keeps_act fun _ _ _ => ⟨trivial, nofun⟩

/-- A request that goes wrong is no refusal: the message was composed before. -/
theorem Twilio.postEach_unrefused (line : Twilio.Line σ) (c : ProviderSettings) (ctx : Context) (body : String)
    (numbers failures : List String) :
    (Twilio.postEach line c ctx body numbers failures).Keeps (fun _ => True) Unrefused := by
  induction numbers generalizing failures with
  | nil => cases failures <;> exact nofun
  | cons number rest ih =>
    refine Task.keeps_bind fun answer => ?_
    rcases answer with _ | fault | ⟨⟩
    · exact nofun
    · dsimp only
      cases hlate : fault.isTimeout with
      | true =>
        intro masked hrefused
        cases hrefused
        cases hlate
      | false => exact ih _
    · exact ih _

theorem Twilio.takes (h : Reachable recipients) (p : ProviderSettings) (templates : Templates) (line : Twilio.Line σ) :
    (Twilio.provider p templates line).Takes recipients := by
  intro ctx template arguments
  unfold Twilio.provider Twilio.compose
  dsimp only
  cases templates.body? template with
  | none => exact nofun
  | some body =>
    dsimp only
    by_cases hlong : (Message.render body arguments).length > Twilio.maxBodyLength
    · rw [if_pos hlong]
      exact nofun
    · obtain ⟨numbers, hnumbers⟩ := Twilio.targets_eq_ok.mpr h
      rw [if_neg hlong, hnumbers]
      exact Twilio.postEach_unrefused line p ctx _ numbers []

/-! ## Policies -/

namespace Dispatch

variable {sender : Sender σ} {senders : List (Sender σ)}

/-- A walk does not say what its senders said. -/
theorem takes_tryEach (attempts : Nat) (senders : List (Sender σ)) : (tryEach attempts senders).Takes recipients := by
  intro ctx template arguments
  induction senders with
  | nil => exact nofun
  | cons first rest ih =>
    refine Task.keeps_bind fun now => ?_
    cases ctx.isExpired now with
    | true => exact nofun
    | false =>
      refine Task.keeps_bind fun result => ?_
      rcases result with fault | ⟨⟩
      · cases fault with
        | cancelled => exact nofun
        | _ => exact ih
      · exact nofun

theorem takes_rotating (cursor : Nat) (senders : List (Sender (Deck σ))) :
    (rotating cursor senders).Takes recipients := by
  cases senders with
  | nil => exact takes_tryEach 0 []
  | cons first rest =>
    intro ctx template arguments
    exact Task.keeps_bind fun start => takes_tryEach _ _ ctx template arguments

theorem takes_sticky {senders : List (Sender (Deck σ))} (h : ∀ sender ∈ senders, sender.Takes recipients)
    (streak threshold : Nat) : (sticky streak threshold senders).Takes recipients := by
  intro ctx template arguments
  refine Task.keeps_bind fun index => ?_
  cases hsender : senders[index]? with
  | none => exact nofun
  | some sender =>
    refine Task.Keeps.bind (h sender (List.mem_of_getElem? hsender) ctx template arguments) fun result hresult => ?_
    exact Task.keeps_bind fun _ => hresult

theorem takes_retry (h : sender.Takes recipients) (retries delay : Nat) :
    (retry sender retries delay).Takes recipients := by
  intro ctx template arguments
  induction retries generalizing delay with
  | zero => exact h ctx template arguments
  | succ retries ih =>
    refine Task.Keeps.bind (h ctx template arguments) fun result hresult => ?_
    rcases result with fault | ⟨⟩
    · dsimp only
      cases fault.isRetryable with
      | true =>
        refine Task.keeps_bind fun rested => ?_
        cases rested with
        | none => exact nofun
        | some _ => exact ih (delay * 2)
      | false => exact hresult
    · exact nofun

theorem takes_limited (limiter : Limiter σ) (key : String) (h : sender.Takes recipients) :
    (limited limiter key sender).Takes recipients := by
  intro ctx template arguments
  refine Task.keeps_bind fun answer => ?_
  rcases answer with _ | _ | _ | _
  · exact nofun
  · exact nofun
  · exact h ctx template arguments
  · exact nofun

theorem takes_authorized (clock : σ → Int) (secret : String) (h : sender.Takes recipients) :
    (authorized clock secret sender).Takes recipients := by
  intro ctx template arguments
  refine Task.keeps_bind fun now => ?_
  dsimp only
  cases hread : authorize secret template now with
  | error fault =>
    intro masked hrefused
    cases hrefused
    unfold authorize at hread
    split at hread
    · cases hread
    · split at hread <;> cases hread
  | ok template => exact h ctx template arguments

end Dispatch

/-! ## Routes -/

/-- One of the providers that settings describe. -/
def Sender.IsProvider (sender : Sender σ) : Prop :=
  (∃ name templates keep, sender = Outbox.provider name templates keep) ∨
    ∃ p templates line, sender = Twilio.provider p templates line

theorem Sender.IsProvider.takes {sender : Sender σ} (h : sender.IsProvider) (hr : Reachable recipients) :
    sender.Takes recipients := by
  rcases h with ⟨name, templates, keep, rfl⟩ | ⟨p, templates, line, rfl⟩
  · exact Outbox.takes hr name templates keep
  · exact Twilio.takes hr p templates line

namespace Route

/-- All providers of a route, in whatever policies, are of the two kinds. -/
def OfProviders (place : List Nat) (route : Route σ) : Prop :=
  route.Leaves (fun _ sender => sender.IsProvider) (fun _ _ => True) place

variable (clock : σ → Int)

mutual

/-- A route of such providers refuses no message whose recipients can be addressed for them. -/
theorem takes (hr : Reachable recipients) : (place : List Nat) → (route : Route σ) → route.OfProviders place →
    (send clock route).Takes recipients
  | _, provider _ _, h => fun ctx template arguments => (h.takes hr ctx template arguments).focus
  | _, failover inner, _ => Dispatch.takes_tryEach _ (senders clock inner)
  | _, rotating cursor inner, _ => Dispatch.takes_rotating cursor (senders clock inner)
  | place, sticky streak threshold inner, h => Dispatch.takes_sticky (all_take hr place 0 inner h) streak threshold
  | place, retry retries delay inner, h => Dispatch.takes_retry (takes hr place inner h) retries delay
  | place, limited limiter key inner, h =>
    Dispatch.takes_limited (fun k => Deck.lift (limiter k)) key (takes hr place inner h.2)
  | place, authorized secret inner, h =>
    have hsend := Dispatch.takes_authorized (fun d : Deck σ => clock d.outer) secret (takes hr place inner h)
    hsend

theorem all_take (hr : Reachable recipients) : (place : List Nat) → (i : Nat) → (inner : List (Route σ)) →
    LeavesFrom (fun _ sender => sender.IsProvider) (fun _ _ => True) place i inner →
    ∀ sender ∈ senders clock inner, sender.Takes recipients
  | _, _, [], _ => nofun
  | place, i, route :: rest, h => List.forall_mem_cons.mpr
    ⟨takes hr (place ++ [i]) route h.1, all_take hr place (i + 1) rest h.2⟩

end

end Route

/-- A chain that settings describe is one. -/
theorem DeliverySettings.route_ofProviders {c : DeliverySettings} {limiter : Limiter σ} {carrier : Carrier σ}
    {slot : Nat} {route : Route σ} (h : c.route limiter carrier slot = .ok route) : route.OfProviders [] := by
  refine route_leaves h (fun _ => trivial) fun place settings leaf hleaf inRoute => ?_
  rcases provider_eq_ok hleaf with rfl | rfl
  · exact Or.inl ⟨_, _, _, rfl⟩
  · exact Or.inr ⟨_, _, _, rfl⟩

end Passcode

/-
  Passcode.Proofs.Code.Recipients — one verdict on every recipient.

  A recipient is looked at by the code service, and again by the provider that a code goes to; either may
  see the text or its normal form, and look at it once or twice. They must not differ: what the service takes
  and a provider refuses is a code that was issued and never arrives.

  Proved: all checks of a text agree, with each other and with themselves on its normal form; the number that
  is posted to is its own number; and no code that a service issues is refused for its recipient, by any route
  of the providers that settings describe (`recipients_judged_alike`).
-/

import Passcode.Proofs.Code.Delivery
import Passcode.Proofs.Dispatch.Gate
import Passcode.Proofs.Dispatch.Recipients

namespace Passcode

/-! ## The code service -/

namespace CodeService

variable {σ α : Type} (service : CodeService σ) {fresh : Entropy} {ctx : Context} {scope text recipient : String}

theorem answer_ne_validation (heard : Option (Except CodeFault α)) (why : String) :
    answer heard ≠ .error (.validation why) := by
  rcases heard with _ | _ | _ <;> exact nofun

/-- What a caller hears to be wrong once the sender has answered is what the sender answered. -/
theorem outcome_eq_error {result : Delivery} {fault : Fault} (h : service.outcome result = .error fault) :
    ∃ told, fault = .send told ∧ result = .error told := by
  rcases result with told | ⟨⟩
  · cases h
    exact ⟨told, rfl, rfl⟩
  · cases h

theorem check_isOk (hscope : isScope scope = true) : (check scope text).isOk = Phone.isAddressable text := by
  cases h : check scope text with
  | ok recipient =>
    obtain ⟨-, haddressable, -⟩ := check_eq_ok.mp h
    exact haddressable.symm
  | error fault =>
    cases haddressable : Phone.isAddressable text with
    | false => rfl
    | true => cases h.symm.trans (check_eq_ok.mpr ⟨hscope, haddressable, rfl⟩)

/-- How a send of what was checked can end: before the sender's turn, or as the sender says. -/
theorem send_ends (h : check scope text = .ok recipient) (t : Nat) (s : σ) :
    let value := ((service.send fresh ctx scope text).run t s).value
    value = .error .deadlineExceeded ∨ (∃ fault, value = .error (.code fault)) ∨
      ∃ code t' s',
        value = service.outcome ((service.sender ctx (service.message recipient code)).run t' s').value := by
  obtain ⟨t', s', heard, hstored⟩ : ∃ t' s' heard,
    (ctx.run (service.store.store scope recipient (fresh.code service.settings.codeLength))).run t s =
      ⟨t', s', heard⟩ := ⟨_, _, _, rfl⟩
  rw [service.send_run h]
  dsimp only
  rw [hstored]
  rcases heard with _ | fault | ⟨⟩
  · exact Or.inl rfl
  · exact Or.inr (Or.inl ⟨fault, rfl⟩)
  · exact Or.inr (Or.inr ⟨_, t', s', rfl⟩)

/-- A send refuses what was asked for when that does not pass the check, and at no other time. -/
theorem send_validation (t : Nat) (s : σ) :
    (∃ why, ((service.send fresh ctx scope text).run t s).value = .error (.validation why)) ↔
      (check scope text).isOk = false := by
  cases h : check scope text with
  | error fault =>
    obtain ⟨why, rfl⟩ := check_error h
    rw [service.send_invalid h]
    exact ⟨fun _ => rfl, fun _ => ⟨why, rfl⟩⟩
  | ok recipient =>
    refine ⟨fun ⟨why, hwhy⟩ => ?_, nofun⟩
    obtain hlate | ⟨fault, hrefused⟩ | ⟨code, t', s', hsent⟩ := service.send_ends h t s
    · cases hlate.symm.trans hwhy
    · cases hrefused.symm.trans hwhy
    · obtain ⟨told, htold, -⟩ := service.outcome_eq_error (hsent.symm.trans hwhy)
      cases htold

theorem verify_validation (input : String) (t : Nat) (s : σ) :
    (∃ why, ((service.verify ctx scope text input).run t s).value = .error (.validation why)) ↔
      (check scope text).isOk = false := by
  cases h : check scope text with
  | error fault =>
    obtain ⟨why, rfl⟩ := check_error h
    simp only [verify, h]
    exact ⟨fun _ => rfl, fun _ => ⟨why, rfl⟩⟩
  | ok recipient =>
    refine ⟨fun ⟨why, hwhy⟩ => ?_, nofun⟩
    simp only [verify, h, Task.run_map] at hwhy
    exact absurd hwhy (answer_ne_validation _ _)

end CodeService

/-! ## Providers -/

/-- A provider that keeps messages takes one to a recipient that can be addressed, and no other. -/
theorem Outbox.provider_single {σ : Type} {ctx : Context} {t : Nat} (hlive : ctx.isExpired t = false) (name : String)
    {templates : Templates} (keep : Nat → Outbox → σ → σ) {template : String}
    (hknown : (templates.body? template).isSome = true) (arguments : List Argument) (r : String) (s : σ) :
    ((Outbox.provider name templates keep ctx ⟨template, arguments, [r]⟩).run t s).value = .ok () ↔
      Phone.isAddressable r = true := by
  obtain ⟨body, hbody⟩ := Option.isSome_iff_exists.mp hknown
  have haddress : (∃ accepted, Outbox.address template (Message.render body arguments) [r] = .ok accepted) ↔
      Reachable [r] := Outbox.address_eq_ok
  rw [reachable_cons, and_iff_left nofun] at haddress
  rw [Outbox.provider_live hlive, ← haddress, Outbox.compose, hbody]
  dsimp only
  cases Outbox.address template (Message.render body arguments) [r] with
  | error fault => exact ⟨nofun, nofun⟩
  | ok accepted => exact ⟨fun _ => ⟨accepted, rfl⟩, fun _ => rfl⟩

/-- How a recipient is judged: in the same way by every check. -/
structure Judged (r : String) (taken : Bool) : Prop where
  addressable : Phone.isAddressable r = taken
  /-- A provider that posts messages has a number for it. -/
  numbered : (Phone.international? r).isSome = taken
  posted : (Twilio.targets [r]).isOk = taken
  /-- A provider that keeps messages takes one for it. -/
  kept : ∀ {σ : Type} (name : String) (templates : Templates) (keep : Nat → Outbox → σ → σ) (ctx : Context)
    (template : String) (arguments : List Argument) (t : Nat) (s : σ), ctx.isExpired t = false →
      (templates.body? template).isSome = true →
        (((Outbox.provider name templates keep ctx ⟨template, arguments, [r]⟩).run t s).value = .ok () ↔
          taken = true)
  /-- A code service that is asked for a code, in any scope, refuses that when the recipient is not taken, -/
  asked : ∀ {σ : Type} (service : CodeService σ) (fresh : Entropy) (ctx : Context) (scope : String) (t : Nat)
    (s : σ), CodeService.isScope scope = true →
      ((∃ why, ((service.send fresh ctx scope r).run t s).value = .error (.validation why)) ↔ taken = false)
  /-- and likewise when it is asked whether a code is right. -/
  entered : ∀ {σ : Type} (service : CodeService σ) (ctx : Context) (scope input : String) (t : Nat) (s : σ),
    CodeService.isScope scope = true →
      ((∃ why, ((service.verify ctx scope r input).run t s).value = .error (.validation why)) ↔ taken = false)

theorem judged (r : String) : Judged r (Phone.isAddressable r) where
  addressable := rfl
  numbered := Phone.international?_isSome r
  posted := by
    rw [← Phone.international?_isSome, Twilio.targets]
    cases Phone.international? r <;> rfl
  kept _ _ _ _ _ _ _ _ hlive hknown := Outbox.provider_single hlive _ _ hknown _ r _
  asked service _ _ _ _ _ hscope := by rw [service.send_validation, CodeService.check_isOk hscope]
  entered service _ _ _ _ _ hscope := by rw [service.verify_validation, CodeService.check_isOk hscope]

/-! ## Codes on their way -/

/-- A code that the service issues is not refused for its recipient, whatever policies the providers are in. -/
theorem CodeService.send_unrefused {σ : Type} {clock : σ → Int} {route : Route σ}
    (hproviders : route.OfProviders []) {service : CodeService (Deck σ)}
    (hsender : service.sender = route.send clock) (fresh : Entropy) (ctx : Context) (scope r : String)
    (t : Nat) (d : Deck σ) (masked : String) :
    ((service.send fresh ctx scope r).run t d).value ≠ .error (.send (.invalidRecipient masked)) := by
  intro hrefused
  cases h : check scope r with
  | error fault =>
    obtain ⟨why, rfl⟩ := check_error h
    rw [service.send_invalid h] at hrefused
    cases hrefused
  | ok recipient =>
    obtain ⟨-, haddressable, rfl⟩ := check_eq_ok.mp h
    have hreachable : Reachable [Phone.normalize r] :=
      reachable_cons.mpr ⟨(Phone.isAddressable_normalize r).trans haddressable, nofun⟩
    obtain hlate | ⟨fault, hfault⟩ | ⟨code, t', d', hsent⟩ := service.send_ends h t d
    · cases hlate.symm.trans hrefused
    · cases hfault.symm.trans hrefused
    · obtain ⟨told, htold, hresult⟩ := service.outcome_eq_error (hsent.symm.trans hrefused)
      cases htold
      rw [hsender] at hresult
      have htakes := Route.takes clock hreachable [] route hproviders ctx service.settings.templateId
        [{ name := "code", value := code }]
      exact (htakes.run trivial).2 masked hresult

/-- All checks of a recipient agree, on the text and on its normal form; the number of a recipient is in
    international format, without formatting, and is its own number; and a code that the service issues is not
    refused for its recipient by the providers that settings describe. -/
theorem recipients_judged_alike (r : String) :
    Judged r (Phone.isAddressable r) ∧ Judged (Phone.normalize r) (Phone.isAddressable r) ∧
    (∀ n, Phone.international? r = some n →
      Phone.hasInternationalForm n.toList = true ∧ Phone.international? n = some n) ∧
    ∀ {σ : Type} (clock : σ → Int) (route : Route σ), route.OfProviders [] →
      ∀ (service : CodeService (Deck σ)), service.sender = route.send clock → ∀ fresh ctx scope t d masked,
        ((service.send fresh ctx scope r).run t d).value ≠ .error (.send (.invalidRecipient masked)) := by
  have hnormal : Judged (Phone.normalize r) (Phone.isAddressable r) :=
    Phone.isAddressable_normalize r ▸ judged (Phone.normalize r)
  refine ⟨judged r, hnormal, fun n => Phone.international?_eq_some, ?_⟩
  intro σ clock route hproviders service hsender fresh ctx scope
  exact CodeService.send_unrefused hproviders hsender fresh ctx scope r

/-- A service that keeps no codes, and sends them by a route. -/
def forgetfulService (route : Route Unit) : CodeService (Deck Unit) :=
  ⟨⟨fun _ _ _ => return .ok (), fun _ _ _ => return .error .notFound⟩, route.send fun _ => 0, {}⟩

theorem recipients_judged_alike_sample :
    ∃ route, unlimitedSettings.route lenientLimiter muteCarrier 0 = .ok route ∧
      Judged "138 1234 5678" true ∧ Judged "13812345678" true ∧
      Phone.international? "138 1234 5678" = some "+8613812345678" ∧
      Phone.hasInternationalForm "+8613812345678".toList = true ∧
      Phone.international? "+8613812345678" = some "+8613812345678" ∧
      ∀ masked, (((forgetfulService route).send ⟨fun _ => 0⟩ .unbounded "login" "138 1234 5678").run 0
        { outer := () }).value ≠ .error (.send (.invalidRecipient masked)) := by
  obtain ⟨route, hroute⟩ : ∃ route, unlimitedSettings.route lenientLimiter muteCarrier 0 = .ok route :=
    ⟨_, rfl⟩
  have hnumber : Phone.international? "138 1234 5678" = some "+8613812345678" := by decide +kernel
  have hplain : Phone.normalize "138 1234 5678" = "13812345678" := by decide +kernel
  have htaken : Phone.isAddressable "138 1234 5678" = true := by decide +kernel
  obtain ⟨hjudged, hnormal, hnumbers, hcodes⟩ := recipients_judged_alike "138 1234 5678"
  rw [htaken] at hjudged hnormal
  rw [hplain] at hnormal
  obtain ⟨hform, hself⟩ := hnumbers _ hnumber
  exact ⟨route, hroute, hjudged, hnormal, hnumber, hform, hself, fun masked =>
    hcodes _ route (DeliverySettings.route_ofProviders hroute) (forgetfulService route) rfl _ _ _ _ _ masked⟩

end Passcode

/-
  Passcode.Dispatch.Chain — the route that the settings describe.

  From the inside out: the providers under the failover strategy, retries, the channel's limit, and
  the check of template ids. So each send asks the limiter once, whatever it takes to deliver.
-/

import Passcode.Dispatch.Outbox
import Passcode.Dispatch.Route
import Passcode.Dispatch.Twilio

namespace Passcode

/-- What the providers of a chain do to the state `σ`, each known by its place in the list. -/
structure Carrier (σ : Type) where
  /-- Takes in messages that the provider accepted at a time. -/
  keep (place now : Nat) (accepted : Outbox) : σ → σ
  /-- The provider's way to its API. -/
  line (place : Nat) : Twilio.Line σ

namespace DeliverySettings

variable {σ : Type}

/-- One provider. -/
def provider (templates : Templates) (carrier : Carrier σ) (place : Nat) (p : ProviderSettings) :
    Except BackendFault (Route σ) :=
  match p.kind with
  | .memory => .ok (.provider p.name (Outbox.provider p.name templates (carrier.keep place)))
  | .twilio => do
    Twilio.check p
    return .provider p.name (Twilio.provider p templates (carrier.line place))

/-- The providers, the first of them in `place`. -/
def providersFrom (templates : Templates) (carrier : Carrier σ) :
    Nat → List ProviderSettings → Except BackendFault (List (Route σ))
  | _, [] => .ok []
  | place, p :: rest => do
    let first ← provider templates carrier place p
    return first :: (← providersFrom templates carrier (place + 1) rest)

/-- Providers under the failover strategy, whose memory is kept in `slot`. -/
def combined (c : DeliverySettings) (slot : Nat) (providers : List (Route σ)) : Route σ :=
  match c.strategy with
  | .fixed => .failover providers
  | .roundRobin => .rotating slot providers
  | .timeout => .sticky slot c.timeoutThreshold.toNat providers

/-- A route with retries, when the settings ask for any. -/
def retried (c : DeliverySettings) (inner : Route σ) : Route σ :=
  if c.retry.maxRetries = 0 then inner
  else .retry c.retry.maxRetries.toNat c.retry.backoffMs.toNat inner

/-- A route under the channel's limit, when there is one. -/
def metered (c : DeliverySettings) (limiter : Limiter σ) (inner : Route σ) : Route σ :=
  if c.rateLimit.enabled then .limited limiter c.channelKey inner else inner

/-- A route that takes signed template ids, when the settings hold a secret for them. -/
def guarded (c : DeliverySettings) (inner : Route σ) : Route σ :=
  match c.templateSecret with
  | some secret => .authorized secret inner
  | none => inner

/-- The policies around given providers. -/
def around (c : DeliverySettings) (limiter : Limiter σ) (slot : Nat) (providers : List (Route σ)) :
    Route σ :=
  c.guarded (c.metered limiter (c.retried (c.combined slot providers)))

/-- The whole route, of at least one provider. -/
def route (c : DeliverySettings) (limiter : Limiter σ) (carrier : Carrier σ) (slot : Nat) :
    Except BackendFault (Route σ) := do
  if c.providers.isEmpty then .error (.config "At least one SMS provider must be configured")
  return c.around limiter slot (← providersFrom c.templates carrier 0 c.providers)

end DeliverySettings

end Passcode

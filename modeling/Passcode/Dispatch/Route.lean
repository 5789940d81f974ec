/-
  Passcode.Dispatch.Route — how a message goes to its providers: policies, nested to any depth.

  A route is a description; `Route.send` is the sender it describes. Policies with a memory name the
  slot it is kept in.
-/

import Passcode.Dispatch.Policy

namespace Passcode

/-- Policies around providers and limiters on a state `σ`. -/
inductive Route (σ : Type) where
  | provider (name : String) (send : Sender σ)
  /-- Each send starts from the first route. -/
  | failover (inner : List (Route σ))
  /-- Each send starts one route further on. -/
  | rotating (cursor : Nat) (inner : List (Route σ))
  /-- One route is used until it has timed out `threshold` times in a row. -/
  | sticky (streak threshold : Nat) (inner : List (Route σ))
  | retry (retries delay : Nat) (inner : Route σ)
  | limited (limiter : Limiter σ) (key : String) (inner : Route σ)
  | authorized (secret : String) (inner : Route σ)

namespace Route

variable {σ : Type}

/-- What a route is called in logs. -/
def name : Route σ → String
  | provider name _ => name
  | failover _ => "failover"
  | rotating _ _ => "round_robin_failover"
  | sticky _ _ _ => "timeout_failover"
  | retry _ _ inner => inner.name
  | limited _ _ inner => inner.name
  | authorized _ inner => inner.name

mutual

/-- The sender that a route describes; `clock` tells the seconds since 1970. -/
def send (clock : σ → Int) : Route σ → Sender (Deck σ)
  | provider _ sender => fun ctx message => Deck.lift (sender ctx message)
  | failover inner => Dispatch.failover (senders clock inner)
  | rotating cursor inner => Dispatch.rotating cursor (senders clock inner)
  | sticky streak threshold inner => Dispatch.sticky streak threshold (senders clock inner)
  | retry retries delay inner => Dispatch.retry (send clock inner) retries delay
  | limited limiter key inner => Dispatch.limited (fun k => Deck.lift (limiter k)) key (send clock inner)
  | authorized secret inner => Dispatch.authorized (fun d => clock d.outer) secret (send clock inner)

/-- The senders that routes describe. -/
def senders (clock : σ → Int) : List (Route σ) → List (Sender (Deck σ))
  | [] => []
  | route :: rest => send clock route :: senders clock rest

end

@[simp] theorem senders_eq_map (clock : σ → Int) (routes : List (Route σ)) :
    senders clock routes = routes.map (send clock) := by
  induction routes with
  | nil => rfl
  | cons route rest ih => simp [senders, ih]

end Route

end Passcode

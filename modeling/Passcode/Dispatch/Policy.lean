/-
  Passcode.Dispatch.Policy — senders that send through other senders.

  `failover` walks a list until one sender succeeds. `sticky` uses one sender until it has timed out
  several times in a row. `retry` repeats a send that may end better, after a growing wait.
  `limited` asks a limiter first. `authorized` takes signed template ids only. Every policy passes a
  cancellation on at once.
-/

import Passcode.Dispatch.Deck
import Passcode.Token.Claims
import Passcode.Token.Signed

namespace Passcode.Dispatch

variable {σ : Type}

/-- Sends through one sender after the other until one succeeds; `attempts` is what the caller is
    told when none does. -/
def tryEach (attempts : Nat) : List (Sender σ) → Sender σ
  | [] => fun _ _ => return .error (.allProvidersFailed attempts)
  | sender :: rest => fun ctx message => do
    if ctx.isExpired (← Task.now) then return .error .cancelled
    match ← sender ctx message with
    | .ok () => return .ok ()
    | .error .cancelled => return .error .cancelled
    | .error _ => tryEach attempts rest ctx message

/-- Sends through the senders in cyclic order, from the first one on. -/
def failover (senders : List (Sender σ)) : Sender σ := tryEach senders.length senders

/-- Sends through the senders in cyclic order; each send starts one sender further on. -/
def rotating (cursor : Nat) (senders : List (Sender (Deck σ))) : Sender (Deck σ) :=
  if senders.isEmpty then failover []
  else fun ctx message => do
    let start ← Task.act fun _ d => (d.cursor cursor, d.advance cursor)
    failover (senders.rotateLeft start.toNat) ctx message

/-- Sends through the sender in use and takes in how that went. -/
def sticky (streak threshold : Nat) (senders : List (Sender (Deck σ))) : Sender (Deck σ) :=
  fun ctx message => do
    let index ← Task.gets fun d => (d.streak streak).pick senders.length
    match senders[index]? with
    | none => return .error (.allProvidersFailed 0)
    | some sender =>
      let result ← sender ctx message
      let _next ← Task.act fun _ d => d.hear streak index (max threshold 1) senders.length result
      return result

/-- Repeats a send up to `retries` times while its fault may pass. The wait before a repetition is
    cut off by the caller's deadline; it is `delay` milliseconds at first and doubles each time. -/
def retry (sender : Sender σ) : (retries delay : Nat) → Sender σ
  | 0, _ => sender
  | retries + 1, delay => fun ctx message => do
    match ← sender ctx message with
    | .ok () => return .ok ()
    | .error e =>
      if e.isRetryable then
        match ← ctx.run (Task.sleep delay) with
        | none => return .error .cancelled
        | some () => retry sender retries (delay * 2) ctx message
      else return .error e

/-- Asks a limiter, under a fixed key, before it sends. A limiter that fails counts as refusing. -/
def limited (limiter : Limiter σ) (key : String) (sender : Sender σ) : Sender σ :=
  fun ctx message => do
    match ← ctx.run (limiter key) with
    | none => return .error .cancelled
    | some (.ok false) => sender ctx message
    | some _ => return .error .rateLimited

/-- The template that a signed template id names at an instant, in seconds since 1970. -/
def authorize (secret token : String) (now : Int) : Except SendFault String :=
  match Token.read ⟨secret, .checked, none⟩ now TemplateClaims.ofJson? token with
  | .error refusal => .error (.unauthorized refusal.reason)
  | .ok claims =>
    if claims.template = "" then .error (.unauthorized "empty template claim") else .ok claims.template

/-- Takes a signed template id in the place of a template; `clock` tells the seconds since 1970. -/
def authorized (clock : σ → Int) (secret : String) (sender : Sender σ) : Sender σ :=
  fun ctx message => do
    let now ← Task.gets clock
    match authorize secret message.template now with
    | .error e => return .error e
    | .ok template => sender ctx { message with template }

/-- Signs a template id, for use up to an instant in seconds since 1970. -/
def signTemplate (secret template : String) (expiresAt : Option Int) : String :=
  Token.sign secret (TemplateClaims.mk template expiresAt).toJson

end Passcode.Dispatch

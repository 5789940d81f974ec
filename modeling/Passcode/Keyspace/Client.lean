/-
  Passcode.Keyspace.Client — codes, call windows and revoked sessions on a shared keyspace.

  Plain commands change nothing when they are repeated, so they are, while the fault may pass.
  Scripts are run once. All keys are put under the key space of the settings.
-/

import Passcode.Code.Store
import Passcode.Dispatch.Sender
import Passcode.Keyspace.Server
import Passcode.Session.Repository
import Passcode.Settings.Cache
import Passcode.Settings.Delivery

namespace Passcode.Keyspace

/-- A connection to a server from a state `σ`. -/
structure Client (σ : Type) where
  settings : CacheSettings
  /-- Sends a request and awaits the reply. -/
  call (r : Request) : Task σ Reply
  /-- Makes a name that no other call bears. -/
  member : Task σ String

namespace Client

variable {σ α : Type} (client : Client σ)

/-- The longest wait before a repetition, in milliseconds. -/
def longestDelay : Nat := 5000

/-- Sends a command, up to `retries` times more while it fails in passing. -/
def repeated (words : List String) : (retries delay : Nat) → Task σ Reply
  | 0, _ => client.call (.command words)
  | retries + 1, delay => do
    let reply ← client.call (.command words)
    if reply.isPassing then
      Task.sleep delay
      repeated words retries (min (delay * 2) longestDelay)
    else return reply

/-- What a reply says, or that the server failed. -/
def reading (read : Reply → Option α) (reply : Reply) : Except BackendFault α :=
  match read reply with
  | some a => .ok a
  | none => .error .cache

/-- Runs a command and reads its reply. -/
def command (words : List String) (read : Reply → Option α) : Task σ (Except BackendFault α) :=
  reading read <$>
    client.repeated words (client.settings.maxRetries.toNat - 1) client.settings.retryDelayMs.toNat

/-- Runs a script and reads its number. -/
def script (r : Request) : Task σ (Except BackendFault Int) := reading Reply.number? <$> client.call r

/-- Whether a key is there. -/
def holds (key : String) : Task σ (Except BackendFault Bool) := client.command ["EXISTS", key] Reply.truth?

/-- Remaining lifetime in seconds; -1 without an expiry, -2 without a key. -/
def ttl (key : String) : Task σ (Except BackendFault Int) := client.command ["TTL", key] Reply.number?

/-- Deletes a key and says whether it was there. -/
def delete (key : String) : Task σ (Except BackendFault Bool) :=
  client.command ["DEL", key] fun r =>
    (r.number?.filter fun n => decide (0 ≤ n ∧ n < (UInt32.size : Int))).map fun n => decide (0 < n)

/-- Puts a text under a key for some seconds. -/
def setWithExpiry (key value : String) (seconds : Nat) : Task σ (Except BackendFault Unit) :=
  client.command ["SETEX", key, toString seconds, value] fun r => if r.isAnswer then some () else none

/-- Whether the server answers a ping. -/
def healthCheck : Task σ (Except BackendFault Bool) := do
  return (← client.command ["PING"] Reply.text?).map fun text => text == "PONG"

/-- A ping without repetitions. -/
def ping : Task σ (Except BackendFault String) :=
  reading Reply.text? <$> client.call (.command ["PING"])

/-- What the number that the issue script replied means. -/
def issued : Except BackendFault Int → Except CodeFault Unit
  | .error e => .error e.toCodeFault
  | .ok n =>
    if n = 0 then .ok ()
    else if n = -1 then .error .tooFrequent
    else if n = -2 then .error (.system "verification code record has no expiry")
    else .error (BackendFault.unexpectedReply ("issue script returned " ++ toString n)).toCodeFault

/-- What the number that the verify script replied means. -/
def verified : Except BackendFault Int → Except CodeFault Verdict
  | .error e => .error e.toCodeFault
  | .ok n =>
    if n = 0 then .ok .matched
    else if n = -1 then .error .tooManyAttempts
    else if n = -2 then .ok .mismatch
    else if n = -3 then .error .notFound
    else .error (BackendFault.unexpectedReply ("verify script returned " ++ toString n)).toCodeFault

/-- The keyspace as a code store. -/
def codeStore (c : CodeSettings) : CodeStore σ where
  store scope recipient code := issued <$>
    client.script (.issue (client.settings.key (codeKey scope recipient)) code c.maxAttempts.toInt
      c.expirySeconds.toNat c.reissueThreshold)
  verify scope recipient input := verified <$>
    client.script (.verify (client.settings.key (codeKey scope recipient)) input)

/-- The keyspace as a limiter. -/
def limiter (c : RateSettings) : Limiter σ := fun key => do
  let member ← client.member
  match ← client.script (.window (client.settings.key key) c.windowMs.toNat c.threshold.toNat member) with
  | .ok n => return .ok (n == 1)
  | .error e => return .error (.unavailable e.text)

/-- The keyspace as a keeper of revoked sessions. -/
def repository : SessionRepository σ where
  markRevoked session seconds := do
    let result ← client.setWithExpiry (client.settings.key (revocationKey session)) "" seconds
    return result.mapError BackendFault.toFault
  isRevoked session := do
    let result ← client.holds (client.settings.key (revocationKey session))
    return result.mapError BackendFault.toFault

end Client

end Passcode.Keyspace

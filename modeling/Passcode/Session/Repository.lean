/-
  Passcode.Session.Repository — which sessions have been revoked.
-/

import Passcode.Fault
import Passcode.Task

namespace Passcode

/-- A keeper of revoked sessions on a state `σ`. -/
structure SessionRepository (σ : Type) where
  /-- Marks a session as revoked, for a number of seconds. -/
  markRevoked (session : String) (seconds : Nat) : Task σ (Except Fault Unit)
  /-- Whether a session has been marked. -/
  isRevoked (session : String) : Task σ (Except Fault Bool)

/-- The same repository on a part of a larger state. -/
def SessionRepository.focus (r : SessionRepository σ) (part : τ → σ) (put : σ → τ → τ) :
    SessionRepository τ where
  markRevoked session seconds := (r.markRevoked session seconds).focus part put
  isRevoked session := (r.isRevoked session).focus part put

/-- The name under which a revoked session is marked. -/
def revocationKey (session : String) : String := "users:ssid:" ++ session

end Passcode

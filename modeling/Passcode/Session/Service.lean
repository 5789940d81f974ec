/-
  Passcode.Session.Service — issuing, validating, refreshing and revoking session credentials.

  A session has an access credential and a refresh credential, signed with different secrets. An
  access credential is judged by its signature, its expiry and the client that presents it; whether
  its session was revoked is asked on refresh and on authentication. The mark of a revoked session
  lasts as long as a refresh credential.
-/

import Passcode.Context
import Passcode.Entropy
import Passcode.Session.Repository
import Passcode.Settings.Token
import Passcode.Token.Claims
import Passcode.Token.Signed

namespace Passcode

/-- The credentials of a new session. -/
structure TokenPair where
  accessToken : String
  refreshToken : String
  session : String
  /-- Lifetime of the access credential in seconds. -/
  accessExpiresIn : Int
  /-- Lifetime of the refresh credential in seconds. -/
  refreshExpiresIn : Int
  deriving DecidableEq, Repr, Inhabited

namespace TokenPair

def toJson (p : TokenPair) : Json := .record [
  ("access_token", .str p.accessToken),
  ("refresh_token", .str p.refreshToken),
  ("session_id", .str p.session),
  ("access_expires_in", .int p.accessExpiresIn),
  ("refresh_expires_in", .int p.refreshExpiresIn)]

def ofJson? (v : Json) : Option TokenPair := do
  let r ← v.asRecord? ["access_token", "refresh_token", "session_id", "access_expires_in",
    "refresh_expires_in"]
  return {
    accessToken := ← r.required "access_token" Json.asString?
    refreshToken := ← r.required "refresh_token" Json.asString?
    session := ← r.required "session_id" Json.asString?
    accessExpiresIn := ← r.required "access_expires_in" Json.asInt?
    refreshExpiresIn := ← r.required "refresh_expires_in" Json.asInt? }

end TokenPair

namespace TokenSettings

/-- Whether sessions can be run with these settings. -/
def check (c : TokenSettings) : Except Fault Unit :=
  if c.accessSecret = "" ∨ c.refreshSecret = "" then
    .error (.validation "Credential signing secrets must not be empty")
  else if !c.hasDistinctSecrets then
    .error (.validation "Access and refresh credentials must use distinct secrets")
  else .ok ()

/-- Signs an access credential at an instant. -/
def signAccess (c : TokenSettings) (user : Int) (session fingerprint : String) (now : Int) : String :=
  Token.sign c.accessSecret
    (AccessClaims.mk user session fingerprint now (now + c.accessExpiry.toInt) c.issuer).toJson

/-- Signs a refresh credential at an instant. -/
def signRefresh (c : TokenSettings) (user : Int) (session : String) (now : Int) : String :=
  Token.sign c.refreshSecret
    (RefreshClaims.mk user session now (now + c.refreshExpiry.toInt) c.issuer).toJson

/-- The credentials of a session that starts at an instant. -/
def issue (c : TokenSettings) (fresh : Entropy) (user : Int) (fingerprint : String) (now : Int) :
    TokenPair :=
  let session := fresh.uuid
  { accessToken := c.signAccess user session fingerprint now
    refreshToken := c.signRefresh user session now
    session
    accessExpiresIn := c.accessExpiry.toInt
    refreshExpiresIn := c.refreshExpiry.toInt }

/-- Opens a credential. Whatever is wrong with it, callers learn only that it is invalid. -/
def open? (c : TokenSettings) (secret : String) (decode : Json → Option α) (now : Int) (token : String) :
    Except TokenFault α :=
  (Token.read ⟨secret, .demanded, c.issuer⟩ now decode token).mapError fun _ => .invalidToken

/-- The claims of an access credential that has not expired and is presented by its own client. -/
def validateAccess (c : TokenSettings) (token fingerprint : String) (now : Int) :
    Except TokenFault AccessClaims := do
  let claims ← c.open? c.accessSecret AccessClaims.ofJson? now token
  if claims.expiresAt ≤ now then .error .invalidToken
  else if claims.fingerprint ≠ fingerprint then .error .fingerprintMismatch
  else .ok claims

/-- The claims of a refresh credential that has not expired. -/
def validateRefresh (c : TokenSettings) (token : String) (now : Int) : Except TokenFault RefreshClaims := do
  let claims ← c.open? c.refreshSecret RefreshClaims.ofJson? now token
  if claims.expiresAt ≤ now then .error .invalidToken else .ok claims

/-- A new access credential, when less time is left than the renewal window. -/
def renew (c : TokenSettings) (claims : AccessClaims) (now : Int) : Option String :=
  if claims.remaining now < c.renewWindow.toInt then
    some (c.signAccess claims.user claims.session claims.fingerprint now)
  else none

/-- Seconds for which a revoked session stays marked. -/
def revocationSeconds (c : TokenSettings) : Nat := max c.refreshExpiry.toInt.toNat 1

end TokenSettings

/-- Sessions over a repository of revoked ones. -/
structure SessionService (σ : Type) where
  repository : SessionRepository σ
  settings : TokenSettings

namespace SessionService

/-- What a run under the caller's deadline answers. -/
def answer : Option (Except Fault α) → Except Fault α
  | none => .error .deadlineExceeded
  | some r => r

variable {σ : Type} (service : SessionService σ)

/-- Whether a session was revoked. -/
def checkRevoked (ctx : Context) (session : String) : Task σ (Except Fault Bool) :=
  answer <$> ctx.run (service.repository.isRevoked session)

/-- Marks a session as revoked. -/
def revoke (ctx : Context) (session : String) : Task σ (Except Fault Unit) :=
  answer <$> ctx.run (service.repository.markRevoked session service.settings.revocationSeconds)

/-- What `next` answers, unless a session was revoked. -/
def unlessRevoked (ctx : Context) (session : String) (next : α) : Task σ (Except Fault α) := do
  match ← service.checkRevoked ctx session with
  | .error e => return .error e
  | .ok true => return .error (.token .sessionRevoked)
  | .ok false => return .ok next

/-- Validates an access credential and refuses it when its session was revoked. -/
def authenticate (ctx : Context) (token fingerprint : String) (now : Int) :
    Task σ (Except Fault AccessClaims) :=
  match service.settings.validateAccess token fingerprint now with
  | .error e => return .error (.token e)
  | .ok claims => service.unlessRevoked ctx claims.session claims

/-- A new access credential for the session of a refresh credential. -/
def refresh (ctx : Context) (token fingerprint : String) (now : Int) : Task σ (Except Fault String) :=
  match service.settings.validateRefresh token now with
  | .error e => return .error (.token e)
  | .ok claims =>
    service.unlessRevoked ctx claims.session
      (service.settings.signAccess claims.user claims.session fingerprint now)

end SessionService

end Passcode

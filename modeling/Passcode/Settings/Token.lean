/-
  Passcode.Settings.Token — signing secrets and lifetimes of session credentials.
-/

import Passcode.Json.Record
import Passcode.Settings.Variables

namespace Passcode

/-- The secrets built in for development. -/
def builtinAccessSecret : String := "access-secret-change-in-production"

def builtinRefreshSecret : String := "refresh-secret-change-in-production"

structure TokenSettings where
  accessSecret : String := builtinAccessSecret
  refreshSecret : String := builtinRefreshSecret
  /-- Lifetime of an access credential in seconds. -/
  accessExpiry : Int64 := 1800
  /-- Lifetime of a refresh credential in seconds. -/
  refreshExpiry : Int64 := 604800
  /-- Remaining lifetime in seconds below which an access credential is renewed. -/
  renewWindow : Int64 := 50
  issuer : Option String := none
  deriving DecidableEq, Repr, Inhabited

namespace TokenSettings

def ofVariables (env : Variables) : TokenSettings where
  accessSecret := (env.get? "JWT_ACCESS_SECRET").getD builtinAccessSecret
  refreshSecret := (env.get? "JWT_REFRESH_SECRET").getD builtinRefreshSecret
  accessExpiry := env.readOr "JWT_ACCESS_TOKEN_EXPIRY" Text.int64? 1800
  refreshExpiry := env.readOr "JWT_REFRESH_TOKEN_EXPIRY" Text.int64? 604800
  renewWindow := env.readOr "JWT_RENEW_WINDOW" Text.int64? 50
  issuer := env.get? "JWT_ISSUER"

/-- The same settings with another access lifetime. -/
def withAccessMinutes (c : TokenSettings) (minutes : Int64) : TokenSettings :=
  { c with accessExpiry := minutes * 60 }

/-- The same settings with another refresh lifetime. -/
def withRefreshDays (c : TokenSettings) (days : Int64) : TokenSettings :=
  { c with refreshExpiry := days * 86400 }

/-- Whether one of the secrets is still the one built in. -/
def usesBuiltinSecret (c : TokenSettings) : Bool :=
  c.accessSecret == builtinAccessSecret || c.refreshSecret == builtinRefreshSecret

/-- One leaked secret must not forge both kinds of credential. -/
def hasDistinctSecrets (c : TokenSettings) : Bool := c.accessSecret != c.refreshSecret

def toJson (c : TokenSettings) : Json := .record [
  ("access_secret", .str c.accessSecret),
  ("refresh_secret", .str c.refreshSecret),
  ("access_token_expiry", .int c.accessExpiry.toInt),
  ("refresh_token_expiry", .int c.refreshExpiry.toInt),
  ("renew_window", .int c.renewWindow.toInt),
  ("issuer", .ofOption .str c.issuer)]

def ofJson? (v : Json) : Option TokenSettings := do
  let r ← v.asRecord? ["access_secret", "refresh_secret", "access_token_expiry",
    "refresh_token_expiry", "renew_window", "issuer"]
  return {
    accessSecret := ← r.required "access_secret" Json.asString?
    refreshSecret := ← r.required "refresh_secret" Json.asString?
    accessExpiry := ← r.required "access_token_expiry" Json.asInt64?
    refreshExpiry := ← r.required "refresh_token_expiry" Json.asInt64?
    renewWindow := ← r.withDefault "renew_window" Json.asInt64? 50
    issuer := ← r.withDefault "issuer" (Json.asOption? Json.asString?) none }

end TokenSettings

end Passcode

/-
  Passcode.Settings.App — all settings of the program.
-/

import Passcode.Settings.Cache
import Passcode.Settings.Delivery
import Passcode.Settings.Logging
import Passcode.Settings.Token

namespace Passcode

structure Settings where
  environment : Environment := .development
  cache : CacheSettings := {}
  code : CodeSettings := {}
  token : TokenSettings := {}
  delivery : DeliverySettings := {}
  logging : LogSettings := LogSettings.forEnvironment .development
  deriving DecidableEq, Repr, Inhabited

namespace Settings

/-- The settings that the variables describe; the logging of the environment, at the level that
    `LOG_LEVEL` gives when it is set. -/
def ofVariables (env : Variables) : Settings :=
  let environment := Environment.ofVariables env
  let logging := LogSettings.forEnvironment environment
  { environment
    cache := CacheSettings.ofVariables env
    code := CodeSettings.ofVariables env
    token := TokenSettings.ofVariables env
    delivery := DeliverySettings.ofVariables env
    logging := { logging with level := (env.get? "LOG_LEVEL").getD logging.level } }

def toJson (c : Settings) : Json := .record [
  ("environment", c.environment.toJson),
  ("cache", c.cache.toJson),
  ("verification", c.code.toJson),
  ("jwt", c.token.toJson),
  ("sms", c.delivery.toJson),
  ("logging", c.logging.toJson)]

def ofJson? (v : Json) : Option Settings := do
  let r ← v.asRecord? ["environment", "cache", "verification", "jwt", "sms", "logging"]
  return {
    environment := ← r.required "environment" Environment.ofJson?
    cache := ← r.required "cache" CacheSettings.ofJson?
    code := ← r.required "verification" CodeSettings.ofJson?
    token := ← r.required "jwt" TokenSettings.ofJson?
    delivery := ← r.required "sms" DeliverySettings.ofJson?
    logging := ← r.withDefault "logging" LogSettings.ofJson? {} }

end Settings

end Passcode

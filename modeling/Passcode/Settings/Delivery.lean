/-
  Passcode.Settings.Delivery — providers, how they fail over, retries, the channel's limit and the
  message templates.
-/

import Passcode.Json.Record
import Passcode.Message
import Passcode.Settings.Code

namespace Passcode

/-- At most `threshold` calls within any `windowMs` milliseconds. -/
structure RateSettings where
  enabled : Bool := true
  windowMs : UInt64 := 1000
  threshold : UInt32 := 100
  deriving DecidableEq, Repr, Inhabited

namespace RateSettings

def ofVariables (env : Variables) : RateSettings where
  enabled := env.readOr "SMS_RATE_LIMIT_ENABLED" Variables.bool? true
  windowMs := env.readOr "SMS_RATE_LIMIT_WINDOW_MS" Text.uint64? 1000
  threshold := env.readOr "SMS_RATE_LIMIT_THRESHOLD" Text.uint32? 100

/-- No limit, for work on one machine. -/
def development : RateSettings := { enabled := false }

def toJson (c : RateSettings) : Json := .record [
  ("enabled", .bool c.enabled),
  ("window_ms", .nat c.windowMs.toNat),
  ("threshold", .nat c.threshold.toNat)]

def ofJson? (v : Json) : Option RateSettings := do
  let r ← v.asRecord? ["enabled", "window_ms", "threshold"]
  return {
    enabled := ← r.withDefault "enabled" Json.asBool? true
    windowMs := ← r.required "window_ms" Json.asUInt64?
    threshold := ← r.required "threshold" Json.asUInt32? }

end RateSettings

/-- What a provider is. -/
inductive ProviderKind where
  /-- Keeps messages in the process. -/
  | memory
  /-- Posts messages to the Twilio API. -/
  | twilio
  deriving DecidableEq, Repr, Inhabited

namespace ProviderKind

def name : ProviderKind → String
  | memory => "memory"
  | twilio => "twilio"

def ofName? : String → Option ProviderKind
  | "memory" => some memory
  | "twilio" => some twilio
  | _ => none

/-- Reads a name or a synonym, in any case, blanks around it aside. -/
def parse (s : String) : Except String ProviderKind :=
  let word := Text.lower (Text.trim s)
  if word = "memory" ∨ word = "mock" then .ok memory
  else if word = "twilio" then .ok twilio
  else .error ("Unknown SMS provider: " ++ word)

end ProviderKind

/-- How a chain picks among its providers. -/
inductive FailoverStrategy where
  /-- Every send starts from the first provider. -/
  | fixed
  /-- Each send starts one provider further on. -/
  | roundRobin
  /-- One provider is used until it has timed out several times in a row. -/
  | timeout
  deriving DecidableEq, Repr, Inhabited

namespace FailoverStrategy

def name : FailoverStrategy → String
  | fixed => "static"
  | roundRobin => "round_robin"
  | timeout => "timeout"

def ofName? : String → Option FailoverStrategy
  | "static" => some fixed
  | "round_robin" => some roundRobin
  | "timeout" => some timeout
  | _ => none

/-- Reads a name or a synonym, in any case, blanks around it aside. -/
def parse (s : String) : Except String FailoverStrategy :=
  let word := Text.lower (Text.trim s)
  if word = "static" then .ok fixed
  else if word = "round_robin" ∨ word = "round-robin" ∨ word = "rotating" then .ok roundRobin
  else if word = "timeout" then .ok timeout
  else .error ("Unknown failover strategy: " ++ word)

end FailoverStrategy

def defaultBaseUrl : String := "https://api.twilio.com"

structure ProviderSettings where
  name : String
  kind : ProviderKind
  accountSid : String := ""
  authToken : String := ""
  /-- The sender's number, in international format. -/
  fromNumber : String := ""
  baseUrl : String := defaultBaseUrl
  requestTimeoutSecs : UInt64 := 10
  deriving DecidableEq, Repr, Inhabited

namespace ProviderSettings

/-- The Twilio provider that the variables describe. -/
def twilioOfVariables (env : Variables) : ProviderSettings where
  name := "twilio"
  kind := .twilio
  accountSid := (env.get? "TWILIO_ACCOUNT_SID").getD ""
  authToken := (env.get? "TWILIO_AUTH_TOKEN").getD ""
  fromNumber := (env.get? "TWILIO_FROM_NUMBER").getD ""
  baseUrl := (env.get? "TWILIO_BASE_URL").getD defaultBaseUrl
  requestTimeoutSecs := env.readOr "TWILIO_REQUEST_TIMEOUT_SECS" Text.uint64? 10

def toJson (c : ProviderSettings) : Json := .record [
  ("name", .str c.name),
  ("kind", .str c.kind.name),
  ("account_sid", .str c.accountSid),
  ("auth_token", .str c.authToken),
  ("from_number", .str c.fromNumber),
  ("base_url", .str c.baseUrl),
  ("request_timeout_secs", .nat c.requestTimeoutSecs.toNat)]

def ofJson? (v : Json) : Option ProviderSettings := do
  let r ← v.asRecord? ["name", "kind", "account_sid", "auth_token", "from_number", "base_url",
    "request_timeout_secs"]
  return {
    name := ← r.required "name" Json.asString?
    kind := ← r.required "kind" (Json.asName? ProviderKind.ofName?)
    accountSid := ← r.withDefault "account_sid" Json.asString? ""
    authToken := ← r.withDefault "auth_token" Json.asString? ""
    fromNumber := ← r.withDefault "from_number" Json.asString? ""
    baseUrl := ← r.withDefault "base_url" Json.asString? defaultBaseUrl
    requestTimeoutSecs := ← r.withDefault "request_timeout_secs" Json.asUInt64? 10 }

end ProviderSettings

structure RetrySettings where
  /-- Attempts after the first. -/
  maxRetries : UInt32 := 3
  /-- Milliseconds before the second attempt, doubled for each further one. -/
  backoffMs : UInt64 := 200
  deriving DecidableEq, Repr, Inhabited

namespace RetrySettings

def toJson (c : RetrySettings) : Json := .record [
  ("max_retries", .nat c.maxRetries.toNat),
  ("backoff_ms", .nat c.backoffMs.toNat)]

def ofJson? (v : Json) : Option RetrySettings := do
  let r ← v.asRecord? ["max_retries", "backoff_ms"]
  return {
    maxRetries := ← r.required "max_retries" Json.asUInt32?
    backoffMs := ← r.required "backoff_ms" Json.asUInt64? }

end RetrySettings

/-- The template for code messages. -/
def defaultTemplates : Templates :=
  [(defaultCodeTemplate, "Your verification code is \x7bcode\x7d. It expires in 10 minutes.")]

structure DeliverySettings where
  /-- In order of preference. -/
  providers : List ProviderSettings := [{ name := "memory", kind := .memory }]
  strategy : FailoverStrategy := .timeout
  /-- Timeouts in a row after which the timeout strategy moves on. -/
  timeoutThreshold : UInt32 := 3
  retry : RetrySettings := {}
  /-- Shared by all instances that send through it. -/
  channel : String := "default"
  rateLimit : RateSettings := {}
  templates : Templates := defaultTemplates
  /-- When set, template ids have to be signed with it. -/
  templateSecret : Option String := none
  deriving DecidableEq, Repr, Inhabited

namespace DeliverySettings

/-- The provider that one entry of the provider list names. Entries that are blank or unknown name
    none. -/
def providerNamed? (env : Variables) (entry : String) : Option ProviderSettings :=
  if Text.blank entry then none
  else match ProviderKind.parse entry with
    | .ok .twilio => some (ProviderSettings.twilioOfVariables env)
    | .ok .memory => some { name := Text.trim entry, kind := .memory }
    | .error _ => none

def ofVariables (env : Variables) : DeliverySettings where
  providers := (Text.split "," ((env.get? "SMS_PROVIDERS").getD "memory")).filterMap (providerNamed? env)
  strategy := env.readOr "SMS_FAILOVER_STRATEGY" (fun s => (FailoverStrategy.parse s).toOption) .timeout
  timeoutThreshold := env.readOr "SMS_TIMEOUT_THRESHOLD" Text.uint32? 3
  retry := {
    maxRetries := env.readOr "SMS_MAX_RETRIES" Text.uint32? 3
    backoffMs := env.readOr "SMS_RETRY_BACKOFF_MS" Text.uint64? 200 }
  channel := ((env.get? "SMS_CHANNEL").filter fun s => !Text.blank s).getD "default"
  rateLimit := RateSettings.ofVariables env
  templates := defaultTemplates
  templateSecret := (env.get? "SMS_TEMPLATE_SECRET").filter (· ≠ "")

/-- The key under which the channel is limited. -/
def channelKey (c : DeliverySettings) : String := "sms:" ++ c.channel

def toJson (c : DeliverySettings) : Json := .record [
  ("providers", .array (c.providers.map ProviderSettings.toJson)),
  ("strategy", .str c.strategy.name),
  ("timeout_threshold", .nat c.timeoutThreshold.toNat),
  ("retry", c.retry.toJson),
  ("channel", .str c.channel),
  ("rate_limit", c.rateLimit.toJson),
  ("templates", .record (c.templates.map fun t => (t.1, .str t.2))),
  ("template_secret", .ofOption .str c.templateSecret)]

def ofJson? (v : Json) : Option DeliverySettings := do
  let r ← v.asRecord? ["providers", "strategy", "timeout_threshold", "retry", "channel", "rate_limit",
    "templates", "template_secret"]
  return {
    providers := ← r.required "providers" (Json.asList? ProviderSettings.ofJson?)
    strategy := ← r.withDefault "strategy" (Json.asName? FailoverStrategy.ofName?) .timeout
    timeoutThreshold := ← r.withDefault "timeout_threshold" Json.asUInt32? 3
    retry := ← r.withDefault "retry" RetrySettings.ofJson? {}
    channel := ← r.withDefault "channel" Json.asString? "default"
    rateLimit := ← r.withDefault "rate_limit" RateSettings.ofJson? {}
    templates := ← r.withDefault "templates" (Json.asDictionary? Json.asString?) defaultTemplates
    templateSecret := ← r.withDefault "template_secret" (Json.asOption? Json.asString?) none }

end DeliverySettings

end Passcode

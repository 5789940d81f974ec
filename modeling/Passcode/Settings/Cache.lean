/-
  Passcode.Settings.Cache — how the shared keyspace server is reached, and the key prefix.
-/

import Passcode.Json.Record
import Passcode.Settings.Variables

namespace Passcode

structure CacheSettings where
  url : String := "redis://localhost:6379"
  /-- Seconds. -/
  connectionTimeout : UInt64 := 5
  /-- Seconds. -/
  responseTimeout : UInt64 := 5
  /-- Attempts for a command that may be repeated. -/
  maxRetries : UInt32 := 3
  /-- Milliseconds before the second attempt, doubled for each further one. -/
  retryDelayMs : UInt64 := 100
  /-- The name put in front of every key. -/
  keySpace : Option String := none
  deriving DecidableEq, Repr, Inhabited

namespace CacheSettings

def ofVariables (env : Variables) : CacheSettings where
  url := (env.get? "REDIS_URL").getD "redis://localhost:6379"
  connectionTimeout := env.readOr "REDIS_CONNECTION_TIMEOUT" Text.uint64? 5
  responseTimeout := env.readOr "REDIS_RESPONSE_TIMEOUT" Text.uint64? 5
  maxRetries := env.readOr "REDIS_MAX_RETRIES" Text.uint32? 3
  retryDelayMs := env.readOr "REDIS_RETRY_DELAY_MS" Text.uint64? 100
  keySpace := (env.get? "REDIS_KEY_PREFIX").filter (· ≠ "")

/-- A key as the server sees it. -/
def key (c : CacheSettings) (name : String) : String :=
  match c.keySpace with
  | some p => p ++ ":" ++ name
  | none => name

def toJson (c : CacheSettings) : Json := .record [
  ("url", .str c.url),
  ("connection_timeout", .nat c.connectionTimeout.toNat),
  ("response_timeout", .nat c.responseTimeout.toNat),
  ("max_retries", .nat c.maxRetries.toNat),
  ("retry_delay_ms", .nat c.retryDelayMs.toNat),
  ("key_prefix", .ofOption .str c.keySpace)]

def ofJson? (v : Json) : Option CacheSettings := do
  let r ← v.asRecord? ["url", "connection_timeout", "response_timeout", "max_retries",
    "retry_delay_ms", "key_prefix"]
  return {
    url := ← r.required "url" Json.asString?
    connectionTimeout := ← r.required "connection_timeout" Json.asUInt64?
    responseTimeout := ← r.required "response_timeout" Json.asUInt64?
    maxRetries := ← r.withDefault "max_retries" Json.asUInt32? 3
    retryDelayMs := ← r.withDefault "retry_delay_ms" Json.asUInt64? 100
    keySpace := ← r.withDefault "key_prefix" (Json.asOption? Json.asString?) none }

end CacheSettings

end Passcode

/-
  Passcode.Settings.Code — the policy for one-time codes.
-/

import Passcode.Json.Record
import Passcode.Settings.Variables
import Passcode.Text.LetterCase
import Passcode.Text.Pattern

namespace Passcode

/-- The template a code is delivered with when none is configured. -/
def defaultCodeTemplate : String := "verify_code"

/-- Where issued codes are kept. -/
inductive StoreBackend where
  /-- The shared keyspace, for several instances. -/
  | redis
  /-- The process itself, for a single instance. -/
  | memory
  deriving DecidableEq, Repr, Inhabited

namespace StoreBackend

def name : StoreBackend → String
  | redis => "redis"
  | memory => "memory"

def ofName? : String → Option StoreBackend
  | "redis" => some redis
  | "memory" => some memory
  | _ => none

/-- Reads a name or a synonym, in any case, blanks around it aside. -/
def parse (s : String) : Except String StoreBackend :=
  let word := Text.lower (Text.trim s)
  if word = "redis" then .ok redis
  else if word = "memory" ∨ word = "local" then .ok memory
  else .error ("Unknown code store backend: " ++ word)

end StoreBackend

structure CodeSettings where
  /-- Digits of a generated code. -/
  codeLength : UInt64 := 6
  /-- Attempts granted to each code. -/
  maxAttempts : Int64 := 3
  /-- Lifetime of a code. -/
  expirySeconds : UInt64 := 600
  /-- Least time between two issues for one recipient. -/
  resendCooldownSeconds : UInt64 := 60
  templateId : String := defaultCodeTemplate
  backend : StoreBackend := .redis
  /-- Most codes that the process keeps. -/
  memoryCapacity : UInt64 := 10000
  deriving DecidableEq, Repr, Inhabited

namespace CodeSettings

def ofVariables (env : Variables) : CodeSettings where
  codeLength := env.readOr "VERIFICATION_CODE_LENGTH" Text.uint64? 6
  maxAttempts := env.readOr "VERIFICATION_MAX_ATTEMPTS" Text.int64? 3
  expirySeconds := env.readOr "VERIFICATION_EXPIRY_SECONDS" Text.uint64? 600
  resendCooldownSeconds := env.readOr "VERIFICATION_RESEND_COOLDOWN" Text.uint64? 60
  templateId := (env.get? "VERIFICATION_TEMPLATE_ID").getD defaultCodeTemplate
  backend := env.readOr "VERIFICATION_STORE" (fun s => (StoreBackend.parse s).toOption) .redis
  memoryCapacity := env.readOr "VERIFICATION_MEMORY_CAPACITY" Text.uint64? 10000

/-- Remaining lifetime above which another issue comes too soon; a cooldown longer than the lifetime
    gives zero. -/
def reissueThreshold (c : CodeSettings) : Nat :=
  c.expirySeconds.toNat - c.resendCooldownSeconds.toNat

def toJson (c : CodeSettings) : Json := .record [
  ("code_length", .nat c.codeLength.toNat),
  ("max_attempts", .int c.maxAttempts.toInt),
  ("expiry_seconds", .nat c.expirySeconds.toNat),
  ("resend_cooldown_seconds", .nat c.resendCooldownSeconds.toNat),
  ("template_id", .str c.templateId),
  ("backend", .str c.backend.name),
  ("memory_capacity", .nat c.memoryCapacity.toNat)]

def ofJson? (v : Json) : Option CodeSettings := do
  let r ← v.asRecord? ["code_length", "max_attempts", "expiry_seconds", "resend_cooldown_seconds",
    "template_id", "backend", "memory_capacity"]
  return {
    codeLength := ← r.required "code_length" Json.asUInt64?
    maxAttempts := ← r.required "max_attempts" Json.asInt64?
    expirySeconds := ← r.required "expiry_seconds" Json.asUInt64?
    resendCooldownSeconds := ← r.required "resend_cooldown_seconds" Json.asUInt64?
    templateId := ← r.withDefault "template_id" Json.asString? defaultCodeTemplate
    backend := ← r.withDefault "backend" (Json.asName? StoreBackend.ofName?) .redis
    memoryCapacity := ← r.withDefault "memory_capacity" Json.asUInt64? 10000 }

end CodeSettings

end Passcode

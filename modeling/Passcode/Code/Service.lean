/-
  Passcode.Code.Service — issuing, delivering and checking codes.

  Scopes become parts of keys, so they hold letters, digits, underscores and hyphens only.
  Recipients are kept by their normal form. A code whose delivery failed stays: the caller may ask
  for another one when the resend cooldown is over.
-/

import Passcode.Code.Store
import Passcode.Dispatch.Sender
import Passcode.Phone
import Passcode.Settings.Code
import Passcode.Settings.Environment
import Passcode.Text.Quoted

namespace Passcode

structure CodeServiceSettings where
  codeLength : Nat := 6
  templateId : String := defaultCodeTemplate
  /-- Seconds, as callers are told. -/
  expirySeconds : Nat := 600
  /-- Seconds, as callers are told. -/
  resendCooldownSeconds : Nat := 60
  /-- Whether codes are logged in plain text. -/
  logCodes : Bool := false
  deriving DecidableEq, Repr, Inhabited

def CodeServiceSettings.ofPolicy (c : CodeSettings) (e : Environment) : CodeServiceSettings where
  codeLength := c.codeLength.toNat
  templateId := c.templateId
  expirySeconds := c.expirySeconds.toNat
  resendCooldownSeconds := c.resendCooldownSeconds.toNat
  logCodes := e.allowsCodeLogging

/-- What a caller learns about a code that was delivered, in seconds. -/
structure CodeReceipt where
  expiresIn : Nat
  resendAfter : Nat
  deriving DecidableEq, Repr, Inhabited

structure CodeService (σ : Type) where
  store : CodeStore σ
  sender : Sender σ
  settings : CodeServiceSettings

namespace CodeService

def isScopeChar (c : Char) : Bool := c.isAlphanum || c == '_' || c == '-'

def isScope (scope : String) : Bool := scope ≠ "" && scope.toList.all isScopeChar

/-- Refuses a text that is no scope. -/
def checkScope (scope : String) : Except Fault Unit :=
  if isScope scope then .ok ()
  else .error (.validation ("Invalid code scope: " ++ Text.quoted scope))

/-- The normal form of a recipient that can be addressed. -/
def checkRecipient (recipient : String) : Except Fault String :=
  if Phone.isAddressable recipient then .ok (Phone.normalize recipient)
  else .error (.validation ("Invalid phone number format: " ++ Phone.mask recipient))

/-- The scope is checked before the recipient. -/
def check (scope recipient : String) : Except Fault String := do
  checkScope scope
  checkRecipient recipient

/-- What a run under the caller's deadline answers. -/
def answer : Option (Except CodeFault α) → Except Fault α
  | none => .error .deadlineExceeded
  | some r => r.mapError .code

variable {σ : Type} (service : CodeService σ)

/-- Issues a code and delivers it. -/
def send (fresh : Entropy) (ctx : Context) (scope recipient : String) :
    Task σ (Except Fault CodeReceipt) :=
  match check scope recipient with
  | .error e => return .error e
  | .ok recipient => do
    let code := fresh.code service.settings.codeLength
    match answer (← ctx.run (service.store.store scope recipient code)) with
    | .error e => return .error e
    | .ok () =>
      let message : Message := ⟨service.settings.templateId, [{ name := "code", value := code }], [recipient]⟩
      match ← service.sender ctx message with
      | .error e => return .error (.send e)
      | .ok () =>
        return .ok ⟨service.settings.expirySeconds, service.settings.resendCooldownSeconds⟩

/-- Checks what a caller entered. -/
def verify (ctx : Context) (scope recipient input : String) : Task σ (Except Fault Verdict) :=
  match check scope recipient with
  | .error e => return .error e
  | .ok recipient => answer <$> ctx.run (service.store.verify scope recipient input)

end CodeService

end Passcode

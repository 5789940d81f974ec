/-
  Passcode.Dispatch.Outbox — a provider that keeps messages in the process instead of sending them.
-/

import Passcode.Dispatch.Sender
import Passcode.Phone

namespace Passcode

/-- A message as it would reach a recipient. -/
structure SentMessage where
  template : String
  recipient : String
  body : String
  deriving DecidableEq, Repr, Inhabited

/-- Messages, oldest first. -/
abbrev Outbox := List SentMessage

namespace Outbox

/-- The body of the latest message to a recipient. -/
def lastTo? (outbox : Outbox) (recipient : String) : Option String :=
  (outbox.reverse.find? fun m => m.recipient == Phone.normalize recipient).map SentMessage.body

/-- The messages to recipients, or the first recipient, masked, that cannot be addressed. -/
def address (template body : String) : List String → Except SendFault Outbox
  | [] => .ok []
  | recipient :: rest =>
    let number := Phone.normalize recipient
    if Phone.isAddressable number then (address template body rest).map (⟨template, number, body⟩ :: ·)
    else .error (.invalidRecipient (Phone.mask recipient))

/-- What a message turns into, one sent message for each recipient. -/
def compose (name : String) (templates : Templates) (message : Message) : Except SendFault Outbox :=
  match templates.body? message.template with
  | none => .error (.provider name ("unknown template " ++ message.template))
  | some body => address message.template (Message.render body message.arguments) message.recipients

/-- The provider; `keep` takes in what it accepts, at a time. -/
def provider (name : String) (templates : Templates) (keep : Nat → Outbox → σ → σ) : Sender σ :=
  fun ctx message => do
    if ctx.isExpired (← Task.now) then return .error .cancelled
    match compose name templates message with
    | .error e => return .error e
    | .ok accepted => .act fun now s => (.ok (), keep now accepted s)

end Outbox

end Passcode

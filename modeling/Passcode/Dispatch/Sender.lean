/-
  Passcode.Dispatch.Sender — sending a message, and consulting a limiter.

  A provider sends a message itself; a dispatch policy does so through other senders. All of them
  heed the caller's deadline: once it has come, they answer that the send was cancelled.
-/

import Passcode.Context
import Passcode.Fault
import Passcode.Message

namespace Passcode

/-- How an attempt to send ended. -/
abbrev Delivery := Except SendFault Unit

/-- Sends a message on a state `σ`. -/
abbrev Sender (σ : Type) := Context → Message → Task σ Delivery

/-- Says, for a key, whether a call has to be refused; a call that is not refused is counted. -/
abbrev Limiter (σ : Type) := String → Task σ (Except LimitFault Bool)

end Passcode

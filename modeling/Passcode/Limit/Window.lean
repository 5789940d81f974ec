/-
  Passcode.Limit.Window — a sliding window over the calls of each key, kept in the process.

  A call is refused when the window behind it already holds as many calls as are allowed. A refused
  call is not counted.
-/

import Passcode.Dispatch.Sender
import Passcode.Settings.Delivery
import Passcode.Table

namespace Passcode

/-- The instants of the counted calls of each key, oldest first, in milliseconds. -/
structure CallLog where
  calls : Table String (List Nat) := .empty
  deriving Inhabited

namespace CallLog

/-- At most `threshold` calls within `window` milliseconds. -/
structure Limit where
  window : Nat
  threshold : Nat
  deriving DecidableEq, Repr, Inhabited

def Limit.ofSettings (c : RateSettings) : Limit := ⟨c.windowMs.toNat, c.threshold.toNat⟩

/-- The calls of a key that are still within the window. -/
def recent (limit : Limit) (now : Nat) (log : CallLog) (key : String) : List Nat :=
  ((log.calls.get? key).getD []).dropWhile fun t => limit.window ≤ now - t

/-- Says whether a call is refused, and counts it otherwise. -/
def call (limit : Limit) (now : Nat) (key : String) (log : CallLog) : Bool × CallLog :=
  let calls := log.recent limit now key
  if limit.threshold ≤ calls.length then (true, ⟨log.calls.insert key calls⟩)
  else (false, ⟨log.calls.insert key (calls ++ [now])⟩)

/-- A call log as a limiter. -/
def asLimiter (limit : Limit) : Limiter CallLog :=
  fun key => .act fun now log =>
    let (refused, log) := log.call limit now key
    (.ok refused, log)

end CallLog

end Passcode

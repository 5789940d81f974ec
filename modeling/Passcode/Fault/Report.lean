/-
  Passcode.Fault.Report — a fault as a caller far away is told about it.
-/

import Passcode.Fault
import Passcode.Json.Record
import Passcode.Time.Calendar

namespace Passcode

structure FaultReport where
  /-- The stable name of the fault. -/
  error : String
  /-- In both languages. -/
  message : String
  timestamp : WallTime
  deriving DecidableEq, Repr, Inhabited

namespace FaultReport

/-- A report of a fault that arose at an instant. -/
def ofFault (f : Fault) (now : WallTime) : FaultReport := ⟨f.errorCode, f.message.text, now⟩

def toJson (r : FaultReport) : Json := .record [
  ("error", .str r.error),
  ("message", .str r.message),
  ("timestamp", .str r.timestamp.text)]

def ofJson? (v : Json) : Option FaultReport := do
  let r ← v.asRecord? ["error", "message", "timestamp"]
  return {
    error := ← r.required "error" Json.asString?
    message := ← r.required "message" Json.asString?
    timestamp := ← r.required "timestamp" fun t => t.asString?.bind WallTime.parse? }

end FaultReport

end Passcode

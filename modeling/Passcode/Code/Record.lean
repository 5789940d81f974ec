/-
  Passcode.Code.Record — an issued code, the attempts left on it, and one attempt.

  An attempt is spent before the code is compared, so no comparison is free.
-/

import Passcode.Fault
import Passcode.Json.Record

namespace Passcode

/-- How an attempt ended that was allowed and spent. -/
inductive Verdict where
  | matched
  | mismatch
  deriving DecidableEq, Repr, Inhabited

namespace Verdict

def name : Verdict → String
  | matched => "Matched"
  | mismatch => "Mismatch"

def ofName? : String → Option Verdict
  | "Matched" => some matched
  | "Mismatch" => some mismatch
  | _ => none

def isMatched (v : Verdict) : Bool := v == matched

def toJson (v : Verdict) : Json := .str v.name

def ofJson? (v : Json) : Option Verdict := v.asName? ofName?

end Verdict

/-- A code and the attempts left on it. -/
structure CodeRecord where
  code : String
  attemptsLeft : Int := 3
  deriving DecidableEq, Repr, Inhabited

namespace CodeRecord

/-- Spends an attempt and compares. Without an attempt left nothing is compared. -/
def attempt (r : CodeRecord) (input : String) : Except CodeFault Verdict × CodeRecord :=
  if r.attemptsLeft ≤ 0 then (.error .tooManyAttempts, r)
  else
    let verdict := if r.code = input then Verdict.matched else .mismatch
    (.ok verdict, { r with attemptsLeft := r.attemptsLeft - 1 })

def toJson (r : CodeRecord) : Json := .record [
  ("code", .str r.code),
  ("attempts_left", .int r.attemptsLeft)]

def ofJson? (v : Json) : Option CodeRecord := do
  let r ← v.asRecord? ["code", "attempts_left"]
  return {
    code := ← r.required "code" Json.asString?
    attemptsLeft := (← r.required "attempts_left" Json.asInt64?).toInt }

end CodeRecord

/-- The name under which the code for a recipient is kept; a scope says what the code is for. -/
def codeKey (scope recipient : String) : String := "phone_code:" ++ scope ++ ":" ++ recipient

end Passcode
